import NativeBuild.Capture.Basic
import NativeBuild.Duration

/-
  The record of one finished process: what was executed, its exit code, what it wrote and how long
  it took.
-/

namespace NativeBuild

/-- The record of one finished process. -/
structure CommandResult where
  command : List String
  /-- The exit code; a negative one is the signal that killed the process. -/
  returnCode : Int
  stdout : CapturedOutput
  /-- Standard error, absent when it was merged into standard output. -/
  stderr : Option CapturedOutput
  /-- Seconds from launch until the last stream was drained. -/
  duration : Float

namespace CommandResult

/-- The process exited with code 0. -/
def ok (r : CommandResult) : Bool := r.returnCode == 0

/-- The streams that were captured, standard output first. -/
def streams (r : CommandResult) : List CapturedOutput := r.stdout :: r.stderr.toList

/-- The duration in whole milliseconds. -/
def elapsed (r : CommandResult) : Except Fault Int := milliseconds r.duration

/-- Two records tell the same: commands, codes and durations agree, and the streams show the
same. -/
def sameAs (a b : CommandResult) : Bool :=
  a.command == b.command && a.returnCode == b.returnCode && a.stdout.shows b.stdout &&
  (match a.stderr, b.stderr with
    | some x, some y => x.shows y
    | none, none => true
    | _, _ => false) &&
  a.duration == b.duration

theorem ok_iff {r : CommandResult} : r.ok = true ↔ r.returnCode = 0 := by simp [ok]

end CommandResult

end NativeBuild
