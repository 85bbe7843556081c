/-
  Captured output: the lines that a process wrote to one stream. Lines are appended while the
  stream is drained; after it is sealed the output is final.
-/

namespace NativeBuild

/-- The lines of one stream, in order, and whether they are final. -/
structure CapturedOutput where
  name : String
  lines : List String
  isSealed : Bool
  deriving Repr, DecidableEq

namespace CapturedOutput

/-- Output that can still grow. -/
def opened (name : String) (lines : List String) : CapturedOutput := ⟨name, lines, false⟩

/-- Output that is final from the start. -/
def final (name : String) (lines : List String) : CapturedOutput := ⟨name, lines, true⟩

/-- The lines become final. -/
def close (o : CapturedOutput) : CapturedOutput := { o with isSealed := true }

/-- A final copy of the lines captured so far. -/
def snapshot (o : CapturedOutput) : CapturedOutput := final o.name o.lines

/-- Two outputs show the same: whether they are final does not count. -/
def shows (a b : CapturedOutput) : Bool := a.name == b.name && a.lines == b.lines

theorem snapshot_of_sealed {o : CapturedOutput} (h : o.isSealed = true) : o.snapshot = o := by
  cases o; simp_all [snapshot, final]

end CapturedOutput

end NativeBuild
