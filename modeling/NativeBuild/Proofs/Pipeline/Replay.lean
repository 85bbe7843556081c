import NativeBuild.Proofs.Pipeline.Execution

/-
  What a whole run writes to the log of the caller. Besides the making of the
  output directory and one last record, there are only the records of the exchanges, each in one
  block. The block of an exchange has what it announces, the captured lines that it replays, and the
  end of a step that passed, in this order, so the warnings of a run are the replayed lines and
  nothing else, and a run that failed says so once, at its very end.
-/

namespace NativeBuild

variable {σ : Type}

/-! ## Levels -/

theorem Pipeline.level_heading {passes : Nat} {step : Step} {spec : CommandSpec} {record : Record}
    (h : record ∈ heading passes step spec) : record.level = .info := by
  unfold heading at h
  split at h
  · rw [List.mem_singleton.mp h]
    rfl
  · rcases List.mem_pair.mp h with rfl | rfl <;> rfl

namespace Exchange

theorem level_finish {e : Exchange} {record : Record} (h : record ∈ e.finish) :
    record.level = .info := by
  unfold finish at h
  split at h
  · split at h
    · rw [List.mem_singleton.mp h]
      rfl
    · cases h
  · cases h

/-- The warnings of an exchange are the lines that it replays. -/
theorem warnings_records (passes : Nat) (e : Exchange) :
    (e.records passes).filter (·.level == .warning) = e.replayed.map Pipeline.warning := by
  have hheading : (Pipeline.heading passes e.step e.spec).filter (·.level == .warning) = [] := by
    rw [List.filter_eq_nil_iff]
    intro record hmem
    simp [Pipeline.level_heading hmem]
  have hfinish : e.finish.filter (·.level == .warning) = [] := by
    rw [List.filter_eq_nil_iff]
    intro record hmem
    simp [level_finish hmem]
  have hlines : (e.replayed.map Pipeline.warning).filter (·.level == .warning) =
      e.replayed.map Pipeline.warning := by
    rw [List.filter_eq_self]
    intro record hmem
    obtain ⟨line, -, rfl⟩ := List.mem_map.mp hmem
    rfl
  unfold records closing
  rw [List.filter_append, List.filter_append, hheading, hlines, hfinish, List.nil_append,
    List.append_nil]

/-- An exchange by itself never speaks of a failure. -/
theorem errors_records (passes : Nat) (e : Exchange) :
    (e.records passes).filter (·.level == .error) = [] := by
  rw [List.filter_eq_nil_iff]
  intro record hmem
  unfold records closing at hmem
  rcases List.mem_append.mp hmem with hheading | hclosing
  · simp [Pipeline.level_heading hheading]
  · rcases List.mem_append.mp hclosing with hline | hfinish
    · obtain ⟨line, -, rfl⟩ := List.mem_map.mp hline
      simp [Pipeline.warning]
    · simp [level_finish hfinish]

/-- Exchanges by themselves never speak of a failure. -/
theorem errors_flatMap_records (passes : Nat) (es : List Exchange) :
    (es.flatMap (·.records passes)).filter (·.level == .error) = [] := by
  rw [List.filter_flatMap, List.flatMap_eq_nil_iff]
  exact fun e _ => e.errors_records passes

end Exchange

/-! ## Runs -/

namespace Pipeline

variable {p : Pipeline} {runner : Runner σ} {request : Request}

theorem level_opening {output : String} {opening : List Record} {level : Level}
    (h : opening = [] ∨ opening = [madeRecord output]) (hlevel : level ≠ .info) :
    opening.filter (·.level == level) = [] := by
  rcases h with rfl | rfl
  · rfl
  · cases level <;> first | rfl | exact absurd rfl hlevel

/-- The last record of a run, as its outcome tells it: the failure if there is one. -/
def Tells (outcome : Outcome) (last : Record) : Prop :=
  match outcome.failure with
  | none => outcome.success = true ∧ ∃ ms, outcome.elapsedMs = .ok ms ∧ last = successRecord ms
  | some raised =>
    outcome.success = false ∧ ∃ e, raised.problem = .error e ∧ last = failureRecord e

/-- The last record is no warning. -/
theorem Tells.warnings {outcome : Outcome} {last : Record} (h : Tells outcome last) :
    [last].filter (·.level == .warning) = [] := by
  unfold Tells at h
  split at h
  · obtain ⟨-, ms, -, rfl⟩ := h
    rfl
  · obtain ⟨-, e, -, rfl⟩ := h
    rfl

/-- The last record is an error when the run failed. -/
theorem Tells.errors {outcome : Outcome} {last : Record} (h : Tells outcome last) :
    [last].filter (·.level == .error) = if outcome.success then [] else [last] := by
  unfold Tells at h
  split at h
  · obtain ⟨hsuccess, ms, -, rfl⟩ := h
    rw [hsuccess]
    rfl
  · obtain ⟨hsuccess, e, -, rfl⟩ := h
    rw [hsuccess]
    rfl

/-- A run that returns an outcome ends with the one record that tells it. -/
theorem conclusion_tells {elapsed : Float} {ending : Ending} {outcome : Outcome}
    (h : (conclusion elapsed (.ok ending)).1 = .ok outcome) :
    ∃ last, (conclusion elapsed (.ok ending)).2 = [last] ∧ Tells outcome last := by
  cases ending with
  | failed step results evidence failure =>
    cases h
    exact ⟨_, rfl, rfl, failure.error, rfl, rfl⟩
  | passed results =>
    cases hms : milliseconds elapsed with
    | error fault =>
      unfold conclusion at h
      rw [hms] at h
      cases h
    | ok ms =>
      unfold conclusion at h ⊢
      rw [hms] at h ⊢
      cases h
      exact ⟨_, rfl, rfl, ms, hms, rfl⟩

/-- The warnings of a run are the lines that its exchanges replay. -/
theorem warnings_of_run {es : List Exchange} {opening : List Record} {last : Record}
    {outcome : Outcome} (passes : Nat)
    (hopening : opening = [] ∨ opening = [madeRecord request.output])
    (htells : Tells outcome last) :
    (opening ++ es.flatMap (·.records passes) ++ [last]).filter (·.level == .warning) =
      (es.flatMap (·.replayed)).map warning := by
  have hwarnings : (es.flatMap (·.records passes)).filter (·.level == .warning) =
      (es.flatMap (·.replayed)).map warning := by
    rw [List.filter_flatMap, List.map_flatMap]
    exact List.flatMap_congr fun e _ => e.warnings_records passes
  rw [List.filter_append, List.filter_append, hwarnings, level_opening hopening (by decide),
    htells.warnings, List.nil_append, List.append_nil]

/-- The errors of a run are the last record, if it failed. -/
theorem errors_of_run {es : List Exchange} {opening : List Record} {last : Record}
    {outcome : Outcome} (passes : Nat)
    (hopening : opening = [] ∨ opening = [madeRecord request.output])
    (htells : Tells outcome last) :
    (opening ++ es.flatMap (·.records passes) ++ [last]).filter (·.level == .error) =
      if outcome.success then [] else [last] := by
  rw [List.filter_append, List.filter_append, Exchange.errors_flatMap_records, level_opening hopening (by decide),
    htells.errors, List.nil_append, List.nil_append]

/-- The caller's log of a run that returned an outcome. -/
theorem execute_replays {w w' : World σ} {outcome : Outcome} (hbooks : runner.KeepsBooks)
    (hlog : runner.KeepsCallerLog) (h : execute p runner request w = (.ok outcome, w')) :
    ∃ (es : List Exchange) (there : Location) (opening : List Record) (last : Record),
      w'.issued = w.issued ++ es.map (·.spec) ∧
      w'.answers = w.answers ++ es.map (·.answer) ∧
      es.map (fun e => (e.step, e.spec)) = (p.plan request w.cwd there).take es.length ∧
      w'.callerLog = w.callerLog ++ (opening ++ es.flatMap (·.records p.passes) ++ [last]) ∧
      (opening = [] ∨ opening = [madeRecord request.output]) ∧
      (opening ++ es.flatMap (·.records p.passes) ++ [last]).filter (·.level == .warning) =
        (es.flatMap (·.replayed)).map warning ∧
      (opening ++ es.flatMap (·.records p.passes) ++ [last]).filter (·.level == .error) =
        (if outcome.success then [] else [last]) ∧
      Tells outcome last := by
  obtain ⟨opening, v, w₁, es, ending, elapsed, hopening, hopened, hes, hb₁, hbrought, hend, hlast⟩ :=
    execute_of_outcome h
  obtain ⟨last, hlasts, htells⟩ := conclusion_tells hend
  obtain ⟨there, hplan⟩ := hbrought.follows_plan
  have hissued : w'.issued = w.issued ++ es.map (·.spec) := by
    rw [hb₁.issued, hes.issued hbooks, hopened.issued]
  have hanswers : w'.answers = w.answers ++ es.map (·.answer) := by
    rw [hb₁.answers, hes.answers hbooks, hopened.answers]
  have hcaller : w'.callerLog =
      w.callerLog ++ (opening ++ es.flatMap (·.records p.passes) ++ [last]) := by
    rw [hlast, hlasts, hes.callerLog hlog, hopened.callerLog]
    simp only [List.append_assoc]
  exact ⟨es, there, opening, last, hissued, hanswers, hplan, hcaller, hopening,
    warnings_of_run p.passes hopening htells, errors_of_run p.passes hopening htells, htells⟩

/-- `cmake` passes and `make` is cut short after a line on each stream. -/
def makeCutShort (spec : CommandSpec) : Except Raised CommandResult :=
  if spec.program = "make" then
    .error (.chained (.execution "Interrupted" (some (sampleResult spec (-2))))
      (.fault (.interrupt "")))
  else .ok (sampleResult spec 0)

theorem execute_replays_makeCutShort :
    ∃ outcome w', execute ⟨{}, 4, 2⟩ (Runner.answering makeCutShort) sampleRequest sampleWorld =
      (.ok outcome, w') ∧
      ∃ (es : List Exchange) (opening : List Record) (last : Record),
        w'.callerLog = opening ++ es.flatMap (·.records 2) ++ [last] ∧ Tells outcome last := by
  obtain ⟨outcome, w', h⟩ : ∃ outcome w', execute ⟨{}, 4, 2⟩ (Runner.answering makeCutShort)
    sampleRequest sampleWorld = (.ok outcome, w') := ⟨_, _, rfl⟩
  obtain ⟨es, there, opening, last, -, -, -, hlog, -, -, -, htells⟩ :=
    execute_replays (Runner.keepsBooks_answering makeCutShort)
      (Runner.keepsCallerLog_answering makeCutShort) h
  exact ⟨outcome, w', h, es, opening, last, hlog, htells⟩

end Pipeline

end NativeBuild
