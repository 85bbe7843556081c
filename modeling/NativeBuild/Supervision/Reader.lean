import NativeBuild.Capture.Store
import NativeBuild.Supervision.Child
import NativeBuild.Text.Lines

/-
  Readers of output streams. A reader appends the lines of one stream to a captured output, closes
  the stream and makes the output final, whatever the stream ends in. A stream that cannot be read
  on ends early; the problem is kept when it is one that reading a stream may give.
-/

namespace NativeBuild

/-- A stream after its reader has ended. -/
structure Drained where
  output : CapturedOutput
  /-- What the stream ended in, if the reader keeps it. -/
  error : Option Problem

/-- A reader that still has lines to append: so many are missing in its output. -/
def Drained.lagging (d : Drained) (missing : Nat) : Drained :=
  ⟨.opened d.output.name (d.output.lines.take (d.output.lines.length - missing)), d.error⟩

namespace Stream

/-- The lines that the stream gives before it ends or breaks off. -/
def lines (s : Stream) : List String :=
  match s.problem with
  | none => Text.linesOf s.bytes
  | some _ => Text.linesBefore s.bytes

/-- The problem that its reader keeps. -/
def keptProblem (s : Stream) : Option Problem :=
  s.problem.bind fun problem => if problem.isStreamError then some problem else none

/-- Reads a stream to its end. -/
def drain (s : Stream) (name : String) : Drained := ⟨.final name s.lines, s.keptProblem⟩

theorem lines_of_complete {s : Stream} (h : s.problem = none) :
    s.lines = Text.linesOf s.bytes := by simp [lines, h]

end Stream

/-- The name of the thread that reads a stream. -/
def readerThread (name : String) : String := "cmakebuild-" ++ name

end NativeBuild
