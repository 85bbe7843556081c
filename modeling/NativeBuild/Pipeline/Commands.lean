import NativeBuild.Command.Spec

/-
  The commands of a build: the configure command, run with `cmake`, and the compile command, run
  with `make`, both inside the output directory.
-/

namespace NativeBuild

/-- The tools of a build and how they are called. -/
structure Toolchain where
  cmake : String := "cmake"
  make : String := "make"
  /-- The kind of build files that `cmake` writes. -/
  generator : String := "Unix Makefiles"

namespace Toolchain

/-- Makes `make` show whole compiler lines. -/
def verboseFlag : String := "VERBOSE=1"

/-- A cache variable as an argument. -/
def definition (name value : String) : String := "-D" ++ name ++ "=" ++ value

/-- The configure command. Variables without a value are left out. Standard error is merged into
standard output, where `cmake` interleaves errors with its progress. -/
def configureCommand (tools : Toolchain) (cwd : Path) (source output : String)
    (definitions environment : Settings) : CommandSpec where
  program := tools.cmake
  operands := (cwd.absolute (.ofString source)).toString ::
    (definitions.effective.map fun (name, value) => definition name value) ++
    ["-G", tools.generator]
  directory := cwd.absolute (.ofString output)
  overlay := environment
  mergeStderr := true

/-- The compile command. A target is passed on unless there is none; the empty one is passed on
as it is. -/
def compileCommand (tools : Toolchain) (cwd : Path) (output : String) (parallelism : Int)
    (target : Option String) : CommandSpec where
  program := tools.make
  operands := ["-j" ++ toString parallelism, verboseFlag] ++ target.toList
  directory := cwd.absolute (.ofString output)
  overlay := []
  mergeStderr := false

end Toolchain

end NativeBuild
