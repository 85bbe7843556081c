import NativeBuild.Proofs.Agreement
import NativeBuild.Proofs.Supervision.Running

/-
  Two runs of a command side by side. A relation of worlds that the supervision's own steps respect
  (`Respects`) is respected by a whole run (`agree_run`).
-/

namespace NativeBuild.Supervision

open NativeBuild.Action

variable {σ : Type} {R : World σ → World σ → Prop} {host : Host σ}

/-- The relation goes through each thing that the supervision does to a world besides tracing, and
tells the supervision the same in both. -/
structure Respects (host : Host σ) (R : World σ → World σ → Prop) : Prop where
  directory : ∀ spec w v, R w v → directoryError w spec = directoryError v spec
  logged : ∀ w v records, (∀ r ∈ records, r.logger = .supervision ∨ r.logger = .reader) → R w v →
    R (w.logged records) (v.logged records)
  now : ∀ w v, R w v → w.commandNow = v.commandNow
  ticked : ∀ w v, R w v → R w.commandTicked v.commandTicked
  start : ∀ spec, Agree R (start host spec) (start host spec)
  remembered : ∀ w v p, R w v → R (w.remembered p) (v.remembered p)

namespace Respects

theorem drained (h : Respects host R) (spec : CommandSpec) (child : Child) {w v : World σ}
    (hw : R w v) : R (drained spec child w) (drained spec child v) := by
  refine h.logged w v _ (fun r hmem => ?_) hw
  obtain ⟨reader, -, hr⟩ := List.mem_filterMap.mp hmem
  obtain ⟨problem, -, rfl⟩ := Option.map_eq_some_iff.mp hr
  exact .inr rfl

theorem terminated (h : Respects host R) (spec : CommandSpec) (p : Supervised) {w v : World σ}
    (hw : R w v) : R (terminated spec p w) (terminated spec p v) := by
  refine h.remembered _ _ _ (h.logged w v _ (fun r hmem => ?_) hw)
  unfold killRecords at hmem
  split at hmem
  · rw [List.mem_singleton.mp hmem]
    exact .inl rfl
  · exact absurd hmem List.not_mem_nil

end Respects

theorem agree_note (h : Respects host R) (message : String) :
    Agree R (note .supervision .debug message) (note .supervision .debug message) :=
  agree_change fun w v hw => h.logged w v _ (fun r hmem => by
    rw [List.mem_singleton.mp hmem]
    exact .inl rfl) hw

theorem agree_readCommandClock (h : Respects host R) :
    Agree R readCommandClock readCommandClock := fun w v hw =>
  ⟨congrArg Except.ok (h.now w v hw), h.ticked w v hw⟩

theorem agree_checkDirectory (h : Respects host R) (spec : CommandSpec) :
    Agree R (checkDirectory spec) (checkDirectory spec) := by
  unfold checkDirectory
  refine (agree_look (h.directory spec)).bind fun error? => ?_
  cases error? with
  | some error => exact agree_raise _
  | none => exact agree_pure ()

/-- What a child comes to is told by the child and the clock, and so are the steps of attending. -/
theorem agree_attend (h : Respects host R) (spec : CommandSpec) (started : Float) (child : Child) :
    Agree R (attend spec started child) (attend spec started child) := by
  intro w v hw
  have hdrained := h.drained spec child hw
  cases hwait : child.wait with
  | ok code =>
    rw [attend_of_exit hwait, attend_of_exit hwait, h.now w v hw]
    exact ⟨rfl, h.terminated spec _ (h.ticked _ _ hdrained)⟩
  | error problem =>
    cases hproblem : problem.isInterruption with
    | true =>
      rw [attend_of_interruption hwait hproblem, attend_of_interruption hwait hproblem,
        h.now w v hw]
      have hfirst := h.terminated spec (fresh child) hdrained
      exact ⟨rfl, h.terminated spec _ (h.ticked _ _ hfirst)⟩
    | false =>
      rw [attend_of_failure hwait hproblem, attend_of_failure hwait hproblem]
      exact ⟨rfl, h.terminated spec _ hdrained⟩

theorem agree_startAndAttend (h : Respects host R) (spec : CommandSpec) :
    Agree R (startAndAttend host spec) (startAndAttend host spec) := by
  unfold startAndAttend
  refine (agree_readCommandClock h).bind fun started => ?_
  refine (h.start spec).bind fun answer => ?_
  split
  · exact agree_attend h spec started _
  · exact (agree_note h _).bind fun _ => agree_raise _
  · exact agree_raise _

/-- Runs of a command agree. -/
theorem agree_run {allowed : Bool → Bool → Prop} (h : Respects host R)
    (hspans : RespectsSpans R allowed) (spec : CommandSpec) :
    Agree R (run host spec) (run host spec) := by
  unfold run
  refine (agree_checkDirectory h spec).bind fun _ => ?_
  refine (agree_note h _).bind fun _ => ?_
  refine (agree_inSpan hspans _ _ fun a b hallowed => ?_).bind fun result => ?_
  · refine (agree_startAndAttend h spec).bind fun result => ?_
    exact (hspans.marked a b _ _ hallowed).bind fun _ => agree_pure result
  · refine (agree_ofFault _).bind fun elapsed => ?_
    exact (agree_note h _).bind fun _ => agree_pure result

end NativeBuild.Supervision
