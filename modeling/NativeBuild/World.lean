import NativeBuild.FileTree.Basic
import NativeBuild.Log
import NativeBuild.Pipeline.Stage
import NativeBuild.Supervision.Child
import NativeBuild.Command.Spec
import NativeBuild.Tracing.Basic

/-
  The world of a build: everything that a run reads and everything that it leaves behind. The tools
  that run the commands may keep a state of their own in it.
-/

namespace NativeBuild

/-- A clock: its readings in order, and how many were taken. -/
structure Clock where
  reading : Nat → Float
  ticks : Nat := 0

/-- The next reading of a clock, and the clock after it. -/
def Clock.read (c : Clock) : Float × Clock := (c.reading c.ticks, { c with ticks := c.ticks + 1 })

/-- All that a run reads and changes. -/
structure World (σ : Type) where
  files : FileTree := {}
  /-- The working directory. -/
  cwd : Location := []
  platform : String := "linux"
  environment : Variables := []
  tracing : Tracing := {}
  /-- The clock of the pipeline. -/
  buildClock : Clock
  /-- The clock of the supervision. -/
  commandClock : Clock
  /-- The stage of the pipeline. -/
  stage : Stage := .validating
  /-- The commands handed out so far. -/
  issued : List CommandSpec := []
  /-- How the runner ended them. -/
  answers : List (Except Raised CommandResult) := []
  /-- The launches so far. -/
  launched : List Launched := []
  log : List Record := []
  /-- What the tools keep. -/
  tools : σ

namespace World

variable {σ : Type}

/-- Further records in the log. -/
def logged (w : World σ) (records : List Record) : World σ := { w with log := w.log ++ records }

/-- A command is handed out. -/
def issuing (w : World σ) (spec : CommandSpec) : World σ :=
  { w with issued := w.issued ++ [spec] }

/-- The runner has ended a command. -/
def answered (w : World σ) (answer : Except Raised CommandResult) : World σ :=
  { w with answers := w.answers ++ [answer] }

/-- Where paths start: the working directory, as a path. It has none once it has been removed, and
that matters if one of the paths is relative. -/
def base (w : World σ) (paths : List String) : Except Fault Path :=
  if w.files.find? w.cwd = none ∧ paths.any fun path => (Path.ofString path).anchor == .relative then
    .error (.system (.plain .noEntry))
  else .ok (.ofLocation w.cwd)

/-- An anchored path needs no working directory. -/
theorem base_of_anchored (w : World σ) {path : String} (h : (Path.ofString path).anchor ≠ .relative) :
    w.base [path] = .ok (.ofLocation w.cwd) := by
  unfold base
  rw [if_neg]
  rintro ⟨-, hany⟩
  simp [h] at hany

theorem logged_nil (w : World σ) : w.logged [] = w := by
  cases w
  simp [logged]

theorem logged_logged (w : World σ) (xs ys : List Record) :
    (w.logged xs).logged ys = w.logged (xs ++ ys) := by
  simp [logged]

end World

end NativeBuild
