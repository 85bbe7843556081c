import NativeBuild.Environment
import NativeBuild.Path

/-
  What a caller asks to be built: where the sources are, where the products go, the target, and the
  settings. A project by convention keeps its native sources in `src/main/native` and its products
  in the directory `native` of its build directory.
-/

namespace NativeBuild

/-- Where to build, what to build, and with which settings. -/
structure BuildConfig where
  source : Path
  output : Path
  target : Option String
  definitions : Settings
  environment : Settings
  deriving Repr, DecidableEq

namespace BuildConfig

/-- The source directory of a project, from its base. -/
def conventionalSource : Path := ⟨.relative, ["src", "main", "native"]⟩

/-- The build directory of a project, from its base. -/
def conventionalBuild : Path := ⟨.relative, ["target"]⟩

/-- The directory for native products, from the build directory. -/
def conventionalOutput : Path := ⟨.relative, ["native"]⟩

/-- A config for given directories. -/
def make (source output : String) (target : Option String) (definitions environment : Settings) :
    BuildConfig :=
  ⟨.ofString source, .ofString output, target, definitions, environment⟩

/-- A config for a project with the conventional layout; directories that are given win. -/
def forProject (base : String) (build source output : Option String) (target : Option String)
    (definitions environment : Settings) : BuildConfig :=
  let base := Path.ofString base
  let build := (build.map Path.ofString).getD (base.join conventionalBuild)
  { source := (source.map Path.ofString).getD (base.join conventionalSource)
    output := (output.map Path.ofString).getD (build.join conventionalOutput)
    target := target
    definitions := definitions
    environment := environment }

end BuildConfig

end NativeBuild
