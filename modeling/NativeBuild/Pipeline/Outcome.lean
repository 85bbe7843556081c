import NativeBuild.Pipeline.Stage
import NativeBuild.Error

/-
  The outcome of a run: how it ended, the records of all processes that ran for it and, when it
  failed, the step that went wrong and why.
-/

namespace NativeBuild

/-- The record that a failure is about, and where it stands among the results of the run if it is
one of them. -/
structure FailedResult where
  result : CommandResult
  position : Option Nat

/-- The outcome of a run. -/
structure Outcome where
  success : Bool
  stage : Stage
  /-- Seconds for the whole run. -/
  elapsed : Float
  /-- The records of the processes that ran, in order. -/
  results : List CommandResult := []
  failedStep : Option Step := none
  failedResult : Option FailedResult := none
  failure : Option Raised := none

namespace Outcome

/-- The duration of the run in whole milliseconds. -/
def elapsedMs (o : Outcome) : Except Fault Int := milliseconds o.elapsed

/-- Raises the failure of a run that failed. -/
def raiseForStatus (o : Outcome) : Except Raised Unit :=
  match o.failure with
  | some raised => .error raised
  | none => .ok ()

end Outcome

end NativeBuild
