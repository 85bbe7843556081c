import NativeBuild.Proofs.Pipeline.Agreement

/-
  Runs and what earlier runs left behind. An action is heedless when it ends alike whatever was handed
  out, answered and recorded before it, and leaves all that where it was. Runs of the pipeline respect
  more of a past (`respects_after`), so they are heedless, given a runner whose calls are
  (`heedless_execute`), and a run begins by setting the stage anew. So a run is what the same call
  comes to with a pipeline that was just made (`execute_fresh`).
-/

namespace NativeBuild

variable {σ α : Type}

/-- What earlier runs left in the books and in the log. -/
structure Past where
  issued : List CommandSpec
  answers : List (Except Raised CommandResult)
  log : List Record

namespace World

/-- The world with more of a past. -/
def after (past : Past) (w : World σ) : World σ :=
  { w with
    issued := past.issued ++ w.issued
    answers := past.answers ++ w.answers
    log := past.log ++ w.log }

/-- The past of a world. -/
def past (w : World σ) : Past := ⟨w.issued, w.answers, w.log⟩

/-- The world in which a pipeline was just made: it stands at its first stage and has no past. -/
def fresh (w : World σ) : World σ :=
  { w with stage := .validating, issued := [], answers := [], log := [] }

theorem after_logged (past : Past) (w : World σ) (records : List Record) :
    (w.after past).logged records = (w.logged records).after past := by
  simp [after, logged]

theorem after_issuing (past : Past) (w : World σ) (spec : CommandSpec) :
    (w.after past).issuing spec = (w.issuing spec).after past := by
  simp [after, issuing]

theorem after_answered (past : Past) (w : World σ) (answer : Except Raised CommandResult) :
    (w.after past).answered answer = (w.answered answer).after past := by
  simp [after, answered]

end World

namespace Action

/-- The action takes no notice of the past, and leaves it as it is. -/
def Heedless (x : Action σ α) : Prop :=
  ∀ past w, x (w.after past) = ((x w).1, (x w).2.after past)

/-- To be heedless is to agree with oneself on worlds with less and with more of a past. -/
theorem heedless_iff {x : Action σ α} :
    x.Heedless ↔ ∀ past, Agree (fun w v => v = w.after past) x x := by
  constructor
  · rintro h past w v rfl
    rw [h past w]
    exact ⟨rfl, rfl⟩
  · intro h past w
    obtain ⟨hend, hafter⟩ := h past w _ rfl
    exact Prod.ext hend.symm hafter

/-- Spans are alike whatever was recorded before them. -/
theorem respectsSpans_after (past : Past) :
    RespectsSpans (fun w v : World σ => v = w.after past) (· = ·) where
  told := by
    rintro w _ rfl
    rfl
  opened := by
    rintro w _ name attributes rfl
    have hprepared : (w.after past).prepared = w.prepared.after past :=
      congrArg (fun log => { w.prepared.after past with log := log })
        (List.append_assoc past.log w.log w.preparationRecords)
    have htold : (w.after past).takesSpan = w.takesSpan := rfl
    unfold World.opened
    rw [hprepared, htold]
    split <;> rfl
  closed := by
    rintro w _ a _ failed rfl rfl
    unfold World.closed
    split <;> rfl
  marked := by
    rintro a _ name value rfl w _ rfl
    unfold setAttribute
    cases a <;> exact ⟨rfl, rfl⟩

end Action

/-- A runner whose calls take no notice of the past. -/
def Runner.Heedless (runner : Runner σ) : Prop := ∀ spec, (runner spec).Heedless

theorem Runner.heedless_answering (answer : CommandSpec → Except Raised CommandResult) :
    (answering answer : Runner σ).Heedless := fun _ _ _ => rfl

namespace Pipeline

open NativeBuild.Action

variable {runner : Runner σ}

/-- The pipeline sees and does the same in worlds with less and with more of a past. -/
theorem respects_after (past : Past) : Respects (fun w v : World σ => v = w.after past) where
  files := by rintro w _ rfl; rfl
  cwd := by rintro w _ rfl; rfl
  platform := by rintro w _ rfl; rfl
  now := by rintro w _ rfl; rfl
  ticked := by rintro w _ rfl; rfl
  validating := by rintro w _ rfl; rfl
  entered := by
    rintro w _ stage detail rfl
    exact congrArg (fun v : World σ => { v with stage := stage }) (w.after_logged past _)
  built := by rintro w _ files rfl; rfl
  issuing := by rintro w _ spec rfl; exact w.after_issuing past spec
  answered := by rintro w _ answer rfl; exact w.after_answered past answer
  logged := by rintro w _ records - rfl; exact w.after_logged past records

/-- A run takes no notice of the past. -/
theorem heedless_execute (h : runner.Heedless) (p : Pipeline) (request : Request) :
    (execute p runner request).Heedless :=
  heedless_iff.mpr fun past => agree_execute (respects_after past) (respectsSpans_after past)
    (fun spec => heedless_iff.mp (h spec) past) p request

/-- A run is what the same call comes to with a pipeline that was just made, after the past. -/
theorem execute_fresh (h : runner.Heedless) (p : Pipeline) (request : Request) (w : World σ) :
    execute p runner request w = ((execute p runner request w.fresh).1,
      (execute p runner request w.fresh).2.after w.past) := by
  have hstage : execute p runner request (w.fresh.after w.past) = execute p runner request w := by
    -- the stage that an earlier run left is set anew before anything looks at it
    unfold execute
    rw [readBuildClock_bind, readBuildClock_bind, change_bind, change_bind]
    simp only [World.after, World.past, World.fresh, World.ticked, World.now, List.append_nil]
  rw [← hstage]
  exact heedless_execute h p request w.past w.fresh

end Pipeline

end NativeBuild
