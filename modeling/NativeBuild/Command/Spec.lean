import NativeBuild.Command.Argument
import NativeBuild.Environment
import NativeBuild.Error
import NativeBuild.Path
import NativeBuild.Text.CommandLine

/-
  Commands that are ready to launch: the program and its arguments as texts, an absolute working
  directory in normal form, an overlay for the environment, and whether standard error goes into
  the pipe of standard output.
-/

namespace NativeBuild

/-- An external command, ready to launch. -/
structure CommandSpec where
  program : String
  operands : List String
  directory : Path
  overlay : Settings
  mergeStderr : Bool
  deriving Repr, DecidableEq

namespace CommandSpec

open Command

/-- All argument tokens, the program first. -/
def arguments (spec : CommandSpec) : List String := spec.program :: spec.operands

/-- The command line as it stands in the log. -/
def commandLine (spec : CommandSpec) : String := Text.CommandLine.encode spec.arguments

/-- The command with the given tokens, run in `directory` as seen from `base`. A command needs a
token before it needs a directory. -/
def make (base : Except Fault Path) (arguments : List Argument) (directory : String)
    (overlay : Settings) (mergeStderr : Bool) : Except Problem CommandSpec :=
  match arguments.map Argument.render with
  | [] => .error (.error .emptyCommand)
  | program :: operands =>
    match base with
    | .error fault => .error (.fault fault)
    | .ok base => .ok ⟨program, operands, base.absolute (.ofString directory), overlay, mergeStderr⟩

/-- The whole environment of the child, or nothing when it inherits its parent's as it is. -/
def environment? (spec : CommandSpec) (parent : Variables) : Option Variables :=
  match spec.overlay.effective with
  | [] => none
  | effective => some (parent.overlay effective)

/-- The environment that the child really gets. -/
def environment (spec : CommandSpec) (parent : Variables) : Variables :=
  (spec.environment? parent).getD parent

/-- Two commands are the same when all their parts are, the overlays taken as mappings. -/
def sameAs (a b : CommandSpec) : Bool :=
  a.arguments == b.arguments && a.directory == b.directory && a.overlay.agree b.overlay &&
  a.mergeStderr == b.mergeStderr

theorem environment?_eq_none_iff {spec : CommandSpec} {parent : Variables} :
    spec.environment? parent = none ↔ spec.overlay.effective = [] := by
  unfold environment?
  split <;> simp_all

end CommandSpec

end NativeBuild
