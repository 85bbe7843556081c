import NativeBuild.Proofs.Pipeline.Accounting
import NativeBuild.Proofs.Pipeline.Life
import NativeBuild.Proofs.Supervision.Agreement

/-
  The pipeline with the supervision as its runner. On every machine the supervision is what the theory
  of runs asks of a runner: it leaves the stage and the clock of the pipeline alone (`keepsStage_run`,
  `keepsClock_run`), writes nothing to the pipeline's log and takes no notice of what earlier runs left
  behind (`heedless_run`). So every call is in order (`supervised_inOrder`). On an ordinary machine with
  clocks that go in milliseconds all of its answers are settled, and a run raises what its paths give
  rise to and nothing else (`supervised_raises_iff`).
-/

namespace NativeBuild

variable {σ : Type}

/-! ## The supervision -/

namespace Supervision

open NativeBuild.Action

theorem keepsStage_run (host : Host σ) : Runner.KeepsStage (run host) :=
  fun spec w => (ran_run host spec w).stage

theorem keepsClock_run (host : Host σ) : Runner.KeepsClock (run host) :=
  fun spec w => congrArg Clock.reading (ran_run host spec w).buildClock

/-- The supervision does the same in worlds with less and with more of a past. -/
theorem respects_after (host : Host σ) (past : Past) :
    Respects host (fun w v : World σ => v = w.after past) where
  directory := by rintro spec w _ rfl; rfl
  logged := by rintro w _ records - rfl; exact w.after_logged past records
  now := by rintro w _ rfl; rfl
  ticked := by rintro w _ rfl; rfl
  start := by rintro spec w _ rfl; exact ⟨rfl, rfl⟩
  remembered := by rintro w _ p rfl; rfl

/-- The supervision takes no notice of what earlier runs left behind. -/
theorem heedless_run (host : Host σ) : Runner.Heedless (run host) :=
  fun spec => heedless_iff.mpr fun past =>
    agree_run (respects_after host past) (respectsSpans_after past) spec

/-- Records of the supervision are not in the pipeline's log. -/
theorem pipelineLog_logged_supervision (w : World σ) {records : List Record}
    (h : ∀ r ∈ records, r.logger = .supervision ∨ r.logger = .reader) :
    (w.logged records).pipelineLog = w.pipelineLog := by
  have hnone : records.filter (·.logger == .pipeline) = [] := by
    rw [List.filter_eq_nil_iff]
    intro r hmem
    obtain hr | hr := h r hmem <;> simp [hr]
  rw [World.pipelineLog_logged, hnone, List.append_nil]

/-- None of the steps of the supervision writes to the pipeline's log. -/
theorem respects_pipelineLog (host : Host σ) (log : List Record) :
    Respects host (fun w v : World σ => v = w ∧ w.pipelineLog = log) where
  directory := by rintro spec w _ ⟨rfl, -⟩; rfl
  logged := by
    rintro w _ records hrecords ⟨rfl, hlog⟩
    exact ⟨rfl, (pipelineLog_logged_supervision _ hrecords).trans hlog⟩
  now := by rintro w _ ⟨rfl, -⟩; rfl
  ticked := by rintro w _ ⟨rfl, hlog⟩; exact ⟨rfl, hlog⟩
  start := fun spec => agree_invariant.mpr fun w hlog => hlog
  remembered := by rintro w _ p ⟨rfl, hlog⟩; exact ⟨rfl, hlog⟩

theorem keepsPipelineLog_run (host : Host σ) : Runner.KeepsPipelineLog (run host) :=
  fun spec w => agree_invariant.mp
    (agree_run (respects_pipelineLog host w.pipelineLog)
      (respectsSpans_invariant fun _ _ ht hlog => ht.pipelineLog.trans hlog) spec) w rfl

/-- On an ordinary machine with a clock that goes in milliseconds the answers are settled. -/
theorem settled_answerOf {host : Host σ} (hhost : host.Ordinary) (spec : CommandSpec) {w : World σ}
    (hclock : w.commandClock.InMilliseconds) : Settled (answerOf host spec w) := by
  cases hdirectory : directoryError w spec with
  | some error =>
    unfold answerOf
    rw [hdirectory]
    exact ⟨_, rfl⟩
  | none =>
    cases hstarted : startedBy host spec w with
    | error problem =>
      obtain ⟨error, rfl⟩ := hhost.of_unstarted hstarted
      unfold answerOf attemptOf
      rw [hdirectory, hstarted]
      exact ⟨_, rfl⟩
    | ok child =>
      obtain ⟨ms, hms⟩ : ∃ ms, (recordFor spec child (durationIn w)).elapsed = .ok ms := hclock _ _
      rw [answerOf_of_started hdirectory hstarted (hhost.of_started hstarted).1 hclock]
      cases troubleOf spec child with
      | some trouble => exact ⟨_, rfl⟩
      | none => exact ⟨ms, hms⟩

end Supervision

open Supervision

/-- All answers of a run with the supervision are settled, since its clock goes on as it did. -/
theorem Performed.settled {host : Host σ} (hhost : host.Ordinary) {passes : Nat} {w w' : World σ}
    {es : List Exchange} (h : Performed (run host) passes w es w')
    (hclock : w.commandClock.InMilliseconds) : ∀ e ∈ es, Settled e.answer := by
  induction h with
  | nil => simp
  | @cons w w₁ _ e es hlead _ ih =>
    have hreading : w₁.commandClock.reading = w.commandClock.reading := by
      rw [hlead.eq_settled]
      exact (ran_run host e.spec (e.asked passes w)).reading
    have hnext : w₁.commandClock.InMilliseconds := by
      unfold Clock.InMilliseconds
      rw [hreading]
      exact hclock
    rintro e' (_ | ⟨_, hmem⟩)
    · have hanswer : e.answer = answerOf host e.spec (e.asked passes w) := by
        rw [hlead.answer_eq, run_eq_answerOf]
      rw [hanswer]
      exact settled_answerOf hhost e.spec hclock
    · exact ih hnext e' hmem

namespace Pipeline

variable {p : Pipeline} {host : Host σ} {request : Request} {w w' : World σ}

/-- Every call of a pipeline with the supervision is in order. -/
theorem supervised_inOrder (p : Pipeline) (host : Host σ) {call : Call}
    {ended : Except Raised (Option Outcome)} (h : call.perform p (Supervision.run host) w = (ended, w')) :
    ∃ visits, Episode.InOrder p (Supervision.run host) ⟨call, w, ended, w'⟩ visits ∧
      w'.pipelineLog = w.pipelineLog ++ trail .validating visits :=
  perform_inOrder p (keepsBooks_run host) (keepsStage_run host) (keepsPipelineLog_run host)
    (heedless_run host) h

/-- On an ordinary machine, with clocks that go in milliseconds, a run raises what its paths give rise
to, and nothing else. -/
theorem supervised_raises_iff (hpasses : 1 ≤ p.passes) (hhost : host.Ordinary)
    (hclock : w.buildClock.InMilliseconds) (hcommand : w.commandClock.InMilliseconds)
    {raised : Raised} :
    (execute p (Supervision.run host) request w).1 = .error raised ↔
      ∃ fault, raised = .ofFault fault ∧ Unreported p (Supervision.run host) request w fault := by
  refine execute_raises_iff hpasses (keepsBooks_run host) (keepsClock_run host) hclock ?_
  obtain ⟨w₀, w₁, w', es, ending, ht, hway, hcloses, hexecute⟩ :=
    execute_way p (Supervision.run host) request w
  have hb₀ : w.Beside w₀ := beside_begun ht
  obtain ⟨v, hes, -⟩ := hway.performed
  obtain ⟨opening, -, hopened⟩ := prepare_opened hb₀ ht.callerLog request.source request.output
  rw [← hopened.commandClock] at hcommand
  rw [answersOf_eq (keepsBooks_run host) hb₀ hway hcloses.beside hexecute, List.forall_mem_map]
  intro e he
  exact hes.settled hhost hcommand e he

end Pipeline

end NativeBuild
