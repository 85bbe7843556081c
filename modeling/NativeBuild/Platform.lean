import NativeBuild.Error
import NativeBuild.Text.Blank

/-
  What the machine must provide: a platform on which the tools run, and the number of execution
  units that a build may use.
-/

namespace NativeBuild.Platform

/-- A platform that builds do not run on: one whose name starts with `win`, in any case. -/
def isUnsupported (platform : String) : Bool := "win".toList.isPrefixOf (Text.lower platform).toList

/-- Refuses a platform that builds do not run on. -/
def check (platform : String) : Except BuildError Unit :=
  if isUnsupported platform then .error (.unsupportedPlatform platform) else .ok ()

/-- The units that this process may run on, at least one: the processors it is bound to, or all
that the machine has when it is not known what it is bound to. -/
def executionUnits (affinity : Option (List Int)) (processors : Option Int) : Int :=
  match affinity with
  | some bound => max (bound.eraseDups.length : Int) 1
  | none => max (processors.getD 0) 1

theorem check_eq_ok_iff {platform : String} :
    check platform = .ok () ↔ isUnsupported platform = false := by
  unfold check
  cases isUnsupported platform <;> simp

theorem executionUnits_pos (affinity : Option (List Int)) (processors : Option Int) :
    1 ≤ executionUnits affinity processors := by
  unfold executionUnits
  split <;> exact Int.le_max_right _ _

end NativeBuild.Platform
