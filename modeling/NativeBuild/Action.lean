import NativeBuild.World

/-
  Actions: computations that read and change the world and end with a value or with something
  raised. The world is changed either way; nothing that was done is undone when something is raised.
-/

namespace NativeBuild

/-- A computation in the world, which always leaves a world behind. -/
def Action (σ α : Type) := World σ → Except Raised α × World σ

namespace Action

variable {σ α β : Type}

/-- The action that does nothing and gives a value. -/
def give (a : α) : Action σ α := fun w => (.ok a, w)

/-- One action after another; what the first raises is the end. -/
def andThen (x : Action σ α) (f : α → Action σ β) : Action σ β := fun w =>
  match x w with
  | (.ok a, w') => f a w'
  | (.error r, w') => (.error r, w')

instance : Monad (Action σ) where
  pure := give
  bind := andThen

/-- Raises a problem. -/
def raise (r : Raised) : Action σ α := fun w => (.error r, w)

/-- Runs an action and gives how it ended. -/
def attempt (x : Action σ α) : Action σ (Except Raised α) := fun w =>
  let (ending, w') := x w
  (.ok ending, w')

/-- Ends as given. -/
def conclude (ending : Except Raised α) : Action σ α := fun w => (ending, w)

/-- A value of the world. -/
def look (f : World σ → α) : Action σ α := fun w => (.ok (f w), w)

/-- A change of the world. -/
def change (f : World σ → World σ) : Action σ Unit := fun w => (.ok (), f w)

/-- A value that may be a fault instead. -/
def ofFault (x : Except Fault α) : Action σ α :=
  match x with
  | .ok a => give a
  | .error f => raise (.ofFault f)

/-- Adds records to the log. -/
def write (records : List Record) : Action σ Unit :=
  change (·.logged records)

/-- Adds a record to a log. -/
def note (logger : Logger) (level : Level) (message : String) : Action σ Unit :=
  write [⟨logger, level, message⟩]

/-- A reading of the pipeline's clock. -/
def readBuildClock : Action σ Float := fun w =>
  let (t, clock) := w.buildClock.read
  (.ok t, { w with buildClock := clock })

/-- A reading of the supervision's clock. -/
def readCommandClock : Action σ Float := fun w =>
  let (t, clock) := w.commandClock.read
  (.ok t, { w with commandClock := clock })

theorem bind_def (x : Action σ α) (f : α → Action σ β) : (x >>= f) = andThen x f := rfl

theorem andThen_of_ok {x : Action σ α} {f : α → Action σ β} {w w' : World σ} {a : α}
    (h : x w = (.ok a, w')) : andThen x f w = f a w' := by simp [andThen, h]

theorem andThen_of_error {x : Action σ α} {f : α → Action σ β} {w w' : World σ} {r : Raised}
    (h : x w = (.error r, w')) : andThen x f w = (.error r, w') := by simp [andThen, h]

end Action

end NativeBuild
