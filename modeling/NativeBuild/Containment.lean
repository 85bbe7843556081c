import NativeBuild.Error
import NativeBuild.FileTree.Canonical

/-
  Which directories may be used together. The sources must not lie inside the output directory,
  because cleaning the output would delete them. The check compares the canonical paths as texts,
  so a source directory beside the output that merely shares the beginning of its name is refused
  as well.
-/

namespace NativeBuild.Containment

/-- Why a nested source directory is refused. -/
def nestedMessage : String :=
  "The source directory must not be inside the output directory " ++
    "(it would be destroyed by a clean of the output directory)"

/-- The canonical form of a path that goes under a label; one that has none is an error of the
configuration. -/
def canonical (files : FileTree) (cwd : Location) (path label : String) :
    Except Failure String :=
  match files.canonical cwd path with
  | .ok text => .ok text
  | .error fault =>
    .error ⟨.configuration ("error getting canonical path for " ++ label), some (.fault fault)⟩

/-- A canonical path is the other one or goes on with it. -/
def startsWith (path start : String) : Bool := start.toList.isPrefixOf path.toList

/-- Refuses a source directory inside the output directory. -/
def check (files : FileTree) (cwd : Location) (source output : String) : Except Failure Unit := do
  let output ← canonical files cwd output "output"
  let source ← canonical files cwd source "source"
  if startsWith source output then .error ⟨.configuration nestedMessage, none⟩ else .ok ()

theorem startsWith_iff {path start : String} :
    startsWith path start = true ↔ start.toList <+: path.toList := by
  simp [startsWith]

end NativeBuild.Containment
