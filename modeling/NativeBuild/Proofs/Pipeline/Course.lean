import Mathlib.Data.List.Forall2
import NativeBuild.Proofs.Pipeline.Exchange

/-
  The course of a run. `Performed` says that exchanges took place one after the other on the way
  from one world to another, `Course` that they follow a plan: commands in order, each after one
  that passed, up to the first that did not. `compileFrom_course`: the passes of the pipeline do
  just this and end as the exchanges say (`endingAfter`). What every exchange keeps or adds, a run
  keeps or adds (`Performed.keeps`, `Performed.appends`).
-/

namespace NativeBuild

variable {σ : Type}

/-! ## Stages -/

/-- The stage of a step. -/
def stageOf : Step → Stage
  | .validate => .validating
  | .configure => .configuring
  | .compilePass _ => .compiling

/-- What the record of a new stage says of the step. -/
def detailOf : Step → String
  | .compilePass number => (Step.compilePass number).label
  | _ => ""

/-- The world when the pipeline enters a stage. -/
def World.entered (w : World σ) (stage : Stage) (detail : String) : World σ :=
  { w.logged [⟨.pipeline, .debug,
      "pipeline " ++ w.stage.name ++ " -> " ++ stage.name ++ " " ++ detail⟩] with stage := stage }

theorem Pipeline.enter_apply (stage : Stage) (detail : String) (w : World σ) :
    enter stage detail w = (.ok (), w.entered stage detail) := rfl

theorem World.callerLog_entered (w : World σ) (stage : Stage) (detail : String) :
    (w.entered stage detail).callerLog = w.callerLog := by
  change ((w.logged _).callerLog) = _
  rw [callerLog_logged]
  simp

/-! ## Exchanges in a world -/

/-- The world in which the command of an exchange is handed out. -/
def Exchange.asked (passes : Nat) (e : Exchange) (w : World σ) : World σ :=
  ((w.entered (stageOf e.step) (detailOf e.step)).logged
    (Pipeline.heading passes e.step e.spec)).issuing e.spec

/-- The world once an exchange is over, from the one that the runner leaves. -/
def Exchange.settled (e : Exchange) (w : World σ) : World σ :=
  (w.answered e.answer).logged e.closing

/-- An exchange takes place in a world and leaves another one behind. -/
def Exchange.Leads (runner : Runner σ) (passes : Nat) (e : Exchange) (w w' : World σ) : Prop :=
  ∃ a, runner e.spec (e.asked passes w) = (e.answer, a) ∧ w' = e.settled a

/-- Exchanges take place one after the other. -/
inductive Performed (runner : Runner σ) (passes : Nat) :
    World σ → List Exchange → World σ → Prop where
  | nil (w : World σ) : Performed runner passes w [] w
  | cons {w w₁ w₂ : World σ} {e : Exchange} {es : List Exchange} :
      e.Leads runner passes w w₁ → Performed runner passes w₁ es w₂ →
        Performed runner passes w (e :: es) w₂

/-- Exchanges follow a plan: its commands in order, each after one that passed, and no more of them
once one did not pass. -/
inductive Course : List (Step × CommandSpec) → List Exchange → Prop where
  | done : Course [] []
  | halted {plan : List (Step × CommandSpec)} (e : Exchange) :
      e.verdict ≠ .ok none → Course ((e.step, e.spec) :: plan) [e]
  | next {plan : List (Step × CommandSpec)} {es : List Exchange} (e : Exchange) :
      e.verdict = .ok none → Course plan es → Course ((e.step, e.spec) :: plan) (e :: es)

/-- How a run ends that had results before the exchanges. -/
def endingAfter : List CommandResult → List Exchange → Except Raised Ending
  | results, [] => .ok (.passed results)
  | results, e :: es =>
    match e.verdict with
    | .ok none => endingAfter (results ++ e.evidence.toList) es
    | .ok (some failure) =>
      .ok (.failed e.step (results ++ e.evidence.toList) e.evidence failure)
    | .error raised => .error raised

/-! ## Plans -/

namespace Pipeline

/-- The remaining passes of the compile step, the next one with the given number. -/
def passPlan (spec : CommandSpec) (number remaining : Nat) : List (Step × CommandSpec) :=
  (List.range' number remaining).map fun n => (.compilePass n, spec)

theorem passPlan_succ (spec : CommandSpec) (number remaining : Nat) :
    passPlan spec number (remaining + 1) =
      (.compilePass number, spec) :: passPlan spec (number + 1) remaining := by
  simp [passPlan, List.range'_succ]

theorem map_snd_passPlan (spec : CommandSpec) (number remaining : Nat) :
    (passPlan spec number remaining).map (·.2) = List.replicate remaining spec := by
  induction remaining generalizing number with
  | zero => rfl
  | succ remaining ih => rw [passPlan_succ, List.map_cons, ih, List.replicate_succ]

theorem length_passPlan (spec : CommandSpec) (number remaining : Nat) :
    (passPlan spec number remaining).length = remaining := by
  simp [passPlan]

open NativeBuild.Action

/-- The steps of a step: the pipeline enters its stage and hands out its command. -/
theorem perform_leads (runner : Runner σ) (passes : Nat) (step : Step) (spec : CommandSpec)
    (w : World σ) :
    ∃ (e : Exchange) (w' : World σ), e.step = step ∧ e.spec = spec ∧ e.Leads runner passes w w' ∧
      perform runner passes step spec (w.entered (stageOf step) (detailOf step)) =
        (e.verdict.map (StepReport.mk e.evidence), w') := by
  rcases h : runner spec (((w.entered (stageOf step) (detailOf step)).logged
    (heading passes step spec)).issuing spec) with ⟨answer, a⟩
  exact ⟨⟨step, spec, answer⟩, _, rfl, rfl, ⟨a, h, rfl⟩, perform_apply h⟩

/-- The passes of the compile step follow their plan. -/
theorem compileFrom_course (p : Pipeline) (runner : Runner σ) (spec : CommandSpec)
    (remaining number : Nat) (results : List CommandResult) (w : World σ) :
    ∃ es w', Performed runner p.passes w es w' ∧ Course (passPlan spec number remaining) es ∧
      compileFrom p runner spec remaining number results w = (endingAfter results es, w') := by
  -- the rest of the passes starts with the results and in the world that this pass leaves
  induction remaining generalizing number results w with
  | zero => exact ⟨[], w, .nil w, .done, rfl⟩
  | succ remaining ih =>
    obtain ⟨e, w₁, hstep, hspec, hlead, hrun⟩ :=
      perform_leads runner p.passes (.compilePass number) spec w
    have hplan : passPlan spec number (remaining + 1) =
        (e.step, e.spec) :: passPlan spec (number + 1) remaining := by
      rw [hstep, hspec, passPlan_succ]
    dsimp only [stageOf, detailOf] at hrun
    unfold compileFrom
    rw [bind_of_ok (enter_apply _ _ w), compile_eq_perform, hplan]
    cases hv : e.verdict with
    | error raised =>
      rw [hv] at hrun
      refine ⟨[e], w₁, .cons hlead (.nil w₁), .halted e (by simp [hv]), ?_⟩
      rw [bind_of_error hrun]
      simp [endingAfter, hv]
    | ok failure? =>
      rw [hv] at hrun
      rw [bind_of_ok hrun]
      cases failure? with
      | some failure =>
        refine ⟨[e], w₁, .cons hlead (.nil w₁), .halted e (by simp [hv]), ?_⟩
        simp [endingAfter, hv, hstep]
      | none =>
        obtain ⟨es, w₂, hes, hcourse, hend⟩ :=
          ih (number + 1) (results ++ e.evidence.toList) w₁
        refine ⟨e :: es, w₂, .cons hlead hes, .next e hv hcourse, ?_⟩
        dsimp only
        rw [hend]
        simp [endingAfter, hv]

end Pipeline

/-! ## Commands of a course -/

theorem Exchange.returnedZero_of_passed {e : Exchange} (h : e.verdict = .ok none) :
    returnedZero e.answer = true := by
  obtain ⟨step, spec, answer⟩ := e
  cases answer with
  | error raised =>
    obtain ⟨_ | _, cause⟩ := raised
    · rw [verdict_failure] at h
      cases h
    · rw [verdict_fault] at h
      cases h
  | ok result =>
    cases hok : result.ok with
    | false =>
      rw [verdict_nonzero hok] at h
      cases h
    | true => exact hok

theorem Course.map_eq_take {plan : List (Step × CommandSpec)} {es : List Exchange}
    (h : Course plan es) : es.map (fun e => (e.step, e.spec)) = plan.take es.length := by
  induction h with
  | done => rfl
  | halted e _ => simp
  | next e _ _ ih => simp [ih]

theorem Course.length_of_passed {plan : List (Step × CommandSpec)} {es : List Exchange}
    (h : Course plan es) (hall : ∀ e ∈ es, e.verdict = .ok none) : es.length = plan.length := by
  induction h with
  | done => rfl
  | halted e he => exact absurd (hall e (by simp)) he
  | next e _ _ ih =>
    have := ih fun e' he' => hall e' (by simp [he'])
    simp [this]

theorem Course.ne_nil {first : Step × CommandSpec} {plan : List (Step × CommandSpec)}
    {es : List Exchange} (h : Course (first :: plan) es) : es ≠ [] := by
  cases h <;> exact List.cons_ne_nil _ _

/-- An exchange that did not pass is the last one. -/
theorem Course.length_of_stopped {plan : List (Step × CommandSpec)} {es : List Exchange}
    {e : Exchange} {k : Nat} (h : Course plan es) (he : es[k]? = some e)
    (hv : e.verdict ≠ .ok none) : es.length = k + 1 := by
  induction h generalizing k with
  | done => cases he
  | halted => cases k with
    | zero => rfl
    | succ k => cases he
  | next first hfirst _ ih => cases k with
    | zero =>
      cases he
      exact absurd hfirst hv
    | succ k => rw [List.length_cons, ih he]

/-- As many commands are handed out as the plan has, or one more than first calls that returned
code 0. -/
theorem Course.length_eq {plan : List (Step × CommandSpec)} {es : List Exchange}
    (h : Course plan es)
    (hzero : ∀ e ∈ es, returnedZero e.answer = true → e.verdict = .ok none) :
    es.length = min plan.length (1 + ((es.map (·.answer)).takeWhile returnedZero).length) := by
  induction h with
  | done => simp
  | halted e he =>
    have hz : ¬ returnedZero e.answer = true := fun hz => he (hzero e (by simp) hz)
    rw [List.map_cons, List.takeWhile_cons_of_neg hz]
    simp
  | next e he hc ih =>
    have ih := ih fun e' he' => hzero e' (by simp [he'])
    rw [List.map_cons, List.takeWhile_cons_of_pos (Exchange.returnedZero_of_passed he)]
    simp only [List.length_cons]
    omega

/-! ## Endings of a course -/

theorem endingAfter_passed {results all : List CommandResult} {es : List Exchange}
    (h : endingAfter results es = .ok (.passed all)) :
    (∀ e ∈ es, e.verdict = .ok none) ∧ all = results ++ es.filterMap Exchange.evidence := by
  induction es generalizing results with
  | nil =>
    cases h
    simp
  | cons e es ih =>
    unfold endingAfter at h
    split at h
    · next hv =>
      obtain ⟨hall, rfl⟩ := ih h
      refine ⟨List.forall_mem_cons.mpr ⟨hv, hall⟩, ?_⟩
      cases he : e.evidence <;> simp [he]
    · cases h
    · cases h

/-- A run that failed did so at its last exchange, and every exchange before that passed. -/
theorem endingAfter_failed {plan : List (Step × CommandSpec)} {es : List Exchange}
    {results all : List CommandResult} {step : Step} {evidence : Option CommandResult}
    {failure : Failure} (hc : Course plan es)
    (h : endingAfter results es = .ok (.failed step all evidence failure)) :
    ∃ before e, es = before ++ [e] ∧ (∀ b ∈ before, b.verdict = .ok none) ∧
      e.verdict = .ok (some failure) ∧ step = e.step ∧ evidence = e.evidence ∧
      all = results ++ es.filterMap Exchange.evidence := by
  induction hc generalizing results with
  | done => cases h
  | halted e he =>
    unfold endingAfter at h
    split at h
    · next hv => exact absurd hv he
    · next hv =>
      cases h
      refine ⟨[], e, rfl, by simp, hv, rfl, rfl, ?_⟩
      cases hev : e.evidence <;> simp [hev]
    · cases h
  | next e he hc ih =>
    unfold endingAfter at h
    rw [he] at h
    obtain ⟨before, last, rfl, hbefore, hlast, hstep, hevidence, rfl⟩ := ih h
    refine ⟨e :: before, last, rfl, List.forall_mem_cons.mpr ⟨he, hbefore⟩, hlast, hstep,
      hevidence, ?_⟩
    cases hev : e.evidence <;> simp [hev]

/-- What an exchange raised is how the run ends. -/
theorem endingAfter_raised {plan : List (Step × CommandSpec)} {es : List Exchange} {e : Exchange}
    {raised : Raised} {k : Nat} (hc : Course plan es) (he : es[k]? = some e)
    (hv : e.verdict = .error raised) (results : List CommandResult) :
    endingAfter results es = .error raised := by
  induction hc generalizing k results with
  | done => cases he
  | halted => cases k with
    | zero =>
      cases he
      unfold endingAfter
      rw [hv]
    | succ k => cases he
  | next first hfirst _ ih => cases k with
    | zero =>
      cases he
      cases hfirst.symm.trans hv
    | succ k =>
      unfold endingAfter
      rw [hfirst]
      exact ih he _

/-- Whatever a run raises, one of its exchanges did. -/
theorem exists_raised_of_endingAfter {results : List CommandResult} {es : List Exchange}
    {raised : Raised} (h : endingAfter results es = .error raised) :
    ∃ e ∈ es, e.verdict = .error raised := by
  induction es generalizing results with
  | nil => cases h
  | cons e es ih =>
    unfold endingAfter at h
    split at h
    · obtain ⟨e', he', hv⟩ := ih h
      exact ⟨e', List.mem_cons_of_mem _ he', hv⟩
    · cases h
    · next hv =>
      cases h
      exact ⟨e, List.mem_cons_self, hv⟩

/-- A run ends when no exchange raises anything but an error of the build. -/
theorem endingAfter_isOk {es : List Exchange} (h : ∀ e ∈ es, ∃ failure?, e.verdict = .ok failure?)
    (results : List CommandResult) : ∃ ending, endingAfter results es = .ok ending := by
  induction es generalizing results with
  | nil => exact ⟨_, rfl⟩
  | cons e es ih =>
    obtain ⟨failure?, hv⟩ := h e (by simp)
    unfold endingAfter
    rw [hv]
    cases failure? with
    | some failure => exact ⟨_, rfl⟩
    | none => exact ih (fun e' he' => h e' (by simp [he'])) _

/-! ## What a run keeps -/

namespace Performed

variable {runner : Runner σ} {passes : Nat} {w w' : World σ} {es : List Exchange}

/-- What every exchange keeps, a run keeps. -/
theorem keeps {P : World σ → Prop} (h : Performed runner passes w es w')
    (hstep : ∀ (e : Exchange) v v', e.Leads runner passes v v' → P v → P v') (hw : P w) : P w' := by
  induction h with
  | nil w => exact hw
  | cons hlead _ ih => exact ih (hstep _ _ _ hlead hw)

/-- A list that grows with every exchange has grown by the parts of all exchanges, in order. -/
theorem appends {τ : Type} {read : World σ → List τ} {R : Exchange → List τ → Prop}
    (h : Performed runner passes w es w')
    (hstep : ∀ (e : Exchange) v v', e.Leads runner passes v v' →
      ∃ part, read v' = read v ++ part ∧ R e part) :
    ∃ parts, read w' = read w ++ parts.flatten ∧ List.Forall₂ R es parts := by
  induction h with
  | nil w => exact ⟨[], by simp, .nil⟩
  | cons hlead _ ih =>
    obtain ⟨part, hpart, hR⟩ := hstep _ _ _ hlead
    obtain ⟨parts, hparts, hRs⟩ := ih
    refine ⟨part :: parts, ?_, .cons hR hRs⟩
    rw [hparts, hpart, List.flatten_cons, List.append_assoc]

/-- The same for parts that the exchange tells by itself. -/
theorem appends_flatMap {τ : Type} {read : World σ → List τ} {part : Exchange → List τ}
    (h : Performed runner passes w es w')
    (hstep : ∀ (e : Exchange) v v', e.Leads runner passes v v' → read v' = read v ++ part e) :
    read w' = read w ++ es.flatMap part := by
  induction h with
  | nil w => simp
  | cons hlead _ ih => rw [ih, hstep _ _ _ hlead, List.flatMap_cons, List.append_assoc]

end Performed

end NativeBuild
