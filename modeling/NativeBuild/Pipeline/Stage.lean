import NativeBuild.Fault

/-
  The stages of a pipeline and the steps of a run. A run goes from validating through configuring
  and the passes of compiling to done, and drops to failed at the first step that goes wrong.
-/

namespace NativeBuild

/-- Where a pipeline is. -/
inductive Stage where
  | validating
  | configuring
  | compiling
  | done
  | failed
  deriving Repr, DecidableEq

namespace Stage

/-- All stages, in the order of a run. -/
def all : List Stage := [validating, configuring, compiling, done, failed]

/-- The name of a stage in the log. -/
def name : Stage → String
  | validating => "Validating"
  | configuring => "Configuring"
  | compiling => "Compiling"
  | done => "Done"
  | failed => "Failed"

/-- The value of a stage, as outcomes show it. -/
def value : Stage → String
  | validating => "VALIDATING"
  | configuring => "CONFIGURING"
  | compiling => "COMPILING"
  | done => "DONE"
  | failed => "FAILED"

/-- The stage of a value. -/
def ofValue (value : String) : Except Fault Stage :=
  match all.find? fun stage => stage.value == value with
  | some stage => .ok stage
  | none => .error (.unknownState value)

end Stage

/-- The steps of a run, as an outcome names the one that failed. -/
inductive Step where
  | validate
  | configure
  | compilePass (number : Nat)
  deriving Repr, DecidableEq

/-- The name of a step. -/
def Step.label : Step → String
  | validate => "validate"
  | configure => "configure"
  | compilePass number => "compile pass " ++ toString number

end NativeBuild
