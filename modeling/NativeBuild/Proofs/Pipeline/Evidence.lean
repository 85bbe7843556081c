import Mathlib.Data.List.TFAE
import NativeBuild.Proofs.Pipeline.Boundary

/-
  The outcome of a run against the answers of its runner. A runner keeps to its contract when it
  raises nothing but that a program did not start or that an execution was cut short (`Declared`).
  Then all fields of the outcome agree with the answers and with each other (`Evident`), however the
  run ended: refused (`evident_refused`), passed (`evident_passed`) or failed at its last command
  (`evident_failed`).
-/

namespace NativeBuild

variable {σ : Type}

/-- What a runner may answer by its contract. -/
inductive Declared : Except Raised CommandResult → Prop where
  | returned (result : CommandResult) : Declared (.ok result)
  | unlaunched (command : List String) (error : SystemError) (cause : Option Problem) :
      Declared (.error ⟨.error (.launch command error), cause⟩)
  | cutShort (text : String) (result? : Option CommandResult) (cause : Option Problem) :
      Declared (.error ⟨.error (.execution text result?), cause⟩)

/-- An answer that ended a run and left no record. -/
inductive Recordless : Except Raised CommandResult → Prop where
  | unlaunched (command : List String) (error : SystemError) (cause : Option Problem) :
      Recordless (.error ⟨.error (.launch command error), cause⟩)
  | cutShort (text : String) (cause : Option Problem) :
      Recordless (.error ⟨.error (.execution text none), cause⟩)

namespace Pipeline

/-- The step that a run failed in, by the number of its commands. -/
def stepAfter : Nat → Step
  | 0 => .validate
  | 1 => .configure
  | number + 2 => .compilePass (number + 1)

/-- The tool of the last command, by the number of commands. -/
def toolAfter (commands : Nat) : String := if commands = 1 then "CMake" else "make"

/-- An outcome agrees with the answers of the runner, and its fields agree with each other. -/
structure Evident (outcome : Outcome) (answers : List (Except Raised CommandResult)) : Prop where
  /-- All signs of success are one. -/
  success : [outcome.success = true, outcome.stage = .done, outcome.failure = none,
    outcome.failedStep = none, outcome.raiseForStatus = .ok ()].TFAE
  failed : outcome.success = false → outcome.stage = .failed ∧
    ∃ raised, outcome.failure = some raised ∧ outcome.raiseForStatus = .error raised
  /-- The results are the records that the calls left, in order. -/
  results : outcome.results = answers.filterMap recordOf
  earlier : ∀ answer ∈ answers.dropLast, returnedZero answer = true
  step : outcome.success = false → outcome.failedStep = some (stepAfter answers.length)
  recordless : outcome.failedResult = none ↔ outcome.success = true ∨ answers = [] ∨
    ∃ last, answers.getLast? = some last ∧ Recordless last
  /-- The record that the failure is about is the last of the results. -/
  record : ∀ found, outcome.failedResult = some found →
    outcome.results.getLast? = some found.result ∧
    found.position = some (outcome.results.length - 1) ∧
    ∀ result ∈ outcome.results.dropLast, result.returnCode = 0
  tool : (∃ tool result cause, outcome.failure = some ⟨.error (.toolFailure tool result), cause⟩) ↔
    ∃ result, answers.getLast? = some (.ok result) ∧ result.returnCode ≠ 0
  toolNamed : ∀ tool result cause,
    outcome.failure = some ⟨.error (.toolFailure tool result), cause⟩ →
      tool = toolAfter answers.length ∧ answers.getLast? = some (.ok result)
  /-- What the last call raised is the failure itself. -/
  raised : ∀ raised, answers.getLast? = some (.error raised) → outcome.failure = some raised

variable {p : Pipeline} {runner : Runner σ} {request : Request}

/-! ## The fields of an outcome -/

/-- The signs of success agree on the outcome of an ending. -/
theorem success_outcomeOf (elapsed : Float) (ending : Ending) :
    [(outcomeOf elapsed ending).success = true, (outcomeOf elapsed ending).stage = .done,
      (outcomeOf elapsed ending).failure = none, (outcomeOf elapsed ending).failedStep = none,
      (outcomeOf elapsed ending).raiseForStatus = .ok ()].TFAE := by
  cases ending with
  | passed => exact List.tfae_of_forall True _ (by simp [outcomeOf, Outcome.raiseForStatus])
  | failed => exact List.tfae_of_forall False _ (by simp [outcomeOf, Outcome.raiseForStatus])

/-- A run that failed raises its failure. -/
theorem failed_outcomeOf {elapsed : Float} {ending : Ending}
    (h : (outcomeOf elapsed ending).success = false) :
    (outcomeOf elapsed ending).stage = .failed ∧ ∃ raised,
      (outcomeOf elapsed ending).failure = some raised ∧
      (outcomeOf elapsed ending).raiseForStatus = .error raised := by
  cases ending with
  | passed => cases h
  | failed step results evidence failure => exact ⟨rfl, _, rfl, rfl⟩

/-- Without commands there is an error of the configuration, and no record. -/
theorem evident_refused (elapsed : Float) {failure : Failure}
    (h : failure.error.isConfiguration = true) :
    Evident (outcomeOf elapsed (.failed .validate [] none failure)) [] := by
  have hnone : (outcomeOf elapsed (.failed .validate [] none failure)).failedResult = none := by
    obtain ⟨error, cause⟩ := failure
    cases error <;> first | rfl | cases h
  have htool : ∀ tool result cause,
      (outcomeOf elapsed (.failed .validate [] none failure)).failure ≠
        some ⟨.error (.toolFailure tool result), cause⟩ := by
    intro tool result cause hfailure
    obtain ⟨error, cause'⟩ := failure
    cases hfailure
    cases h
  exact {
    success := success_outcomeOf _ _
    failed := failed_outcomeOf
    results := rfl
    earlier := fun _ hmem => nomatch hmem
    step := fun _ => rfl
    recordless := iff_of_true hnone (.inr (.inl rfl))
    record := fun found hfound => nomatch hnone.symm.trans hfound
    tool := iff_of_false (fun ⟨tool, result, cause, hfailure⟩ => htool _ _ _ hfailure)
      (fun ⟨_, hlast, _⟩ => nomatch hlast)
    toolNamed := fun tool result cause hfailure => absurd hfailure (htool tool result cause)
    raised := fun _ hlast => nomatch hlast }

theorem answer_zero_of_passed {e : Exchange} (h : e.verdict = .ok none) :
    ∃ result, e.answer = .ok result ∧ result.returnCode = 0 := by
  have hzero := Exchange.returnedZero_of_passed h
  cases hanswer : e.answer with
  | error raised =>
    rw [hanswer] at hzero
    cases hzero
  | ok result =>
    rw [hanswer] at hzero
    exact ⟨result, rfl, CommandResult.ok_iff.mp hzero⟩

/-- All calls returned code 0. -/
theorem evident_passed (elapsed : Float) {es : List Exchange}
    (h : ∀ e ∈ es, e.verdict = .ok none) :
    Evident (outcomeOf elapsed (.passed (es.filterMap (·.evidence)))) (es.map (·.answer)) := by
  have hlast : ∀ last, (es.map (·.answer)).getLast? = some last →
      ∃ result, last = .ok result ∧ result.returnCode = 0 := by
    intro last hlast
    obtain ⟨e, he, rfl⟩ := List.mem_map.mp (List.mem_of_getLast? hlast)
    exact answer_zero_of_passed (h e he)
  refine {
    success := success_outcomeOf _ _
    failed := failed_outcomeOf
    results := List.filterMap_map.symm
    earlier := ?_
    step := fun hfailed => nomatch hfailed
    recordless := iff_of_true rfl (.inl rfl)
    record := fun _ hfound => nomatch hfound
    tool := iff_of_false (fun ⟨_, _, _, hfailure⟩ => nomatch hfailure) ?_
    toolNamed := fun _ _ _ hfailure => nomatch hfailure
    raised := ?_ }
  · intro answer hmem
    obtain ⟨e, he, rfl⟩ := List.mem_map.mp (List.dropLast_subset _ hmem)
    exact Exchange.returnedZero_of_passed (h e he)
  · rintro ⟨result, hreturned, hcode⟩
    obtain ⟨_, heq, hzero⟩ := hlast _ hreturned
    cases heq
    exact hcode hzero
  · intro raised hraised
    obtain ⟨_, heq, -⟩ := hlast _ hraised
    cases heq

theorem stepAfter_succ (k : Nat) : stepAfter (k + 1) = stepAt k := by
  cases k <;> rfl

theorem toolOf_stepAt (k : Nat) : toolOf (stepAt k) = toolAfter (k + 1) := by
  cases k <;> rfl

/-- How a run fails at an answer: at a record with another code than 0, or at what was raised. -/
theorem failure_of_verdict {e : Exchange} {failure : Failure} (h : e.verdict = .ok (some failure)) :
    (∃ result, e.answer = .ok result ∧ result.returnCode ≠ 0 ∧
      failure = ⟨.toolFailure (toolOf e.step) result, none⟩) ∨ e.answer = .error failure.raised := by
  obtain ⟨step, spec, answer⟩ := e
  cases answer with
  | error raised =>
    obtain ⟨error | fault, cause⟩ := raised
    · rw [Exchange.verdict_failure] at h
      cases h
      exact .inr rfl
    · rw [Exchange.verdict_fault] at h
      cases h
  | ok result =>
    cases hok : result.ok with
    | false =>
      rw [Exchange.verdict_nonzero hok] at h
      cases h
      refine .inl ⟨result, rfl, fun hzero => ?_, rfl⟩
      rw [CommandResult.ok_iff.mpr hzero] at hok
      cases hok
    | true =>
      rw [Exchange.verdict_zero hok] at h
      split at h <;> cases h

/-- A declared answer leaves a record unless it is one of those that have none. -/
theorem recordOf_eq_none_iff {answer : Except Raised CommandResult} (h : Declared answer) :
    recordOf answer = none ↔ Recordless answer := by
  cases h with
  | returned result => exact iff_of_false (fun h => nomatch h) (fun h => nomatch h)
  | unlaunched command error cause => exact iff_of_true rfl (.unlaunched command error cause)
  | cutShort text result? cause =>
    cases result? with
    | none => exact iff_of_true rfl (.cutShort text cause)
    | some result => exact iff_of_false (fun h => nomatch h) (fun h => nomatch h)

/-- The record that a failure is about is the one that the failing command left. -/
theorem result?_of_verdict {e : Exchange} {failure : Failure} (h : e.verdict = .ok (some failure))
    (hdeclared : Declared e.answer) : failure.error.result? = e.evidence := by
  unfold Exchange.evidence
  rcases failure_of_verdict h with ⟨result, hanswer, -, rfl⟩ | hanswer
  · rw [hanswer]
    rfl
  · obtain ⟨error, cause⟩ := failure
    rw [hanswer] at hdeclared ⊢
    cases hdeclared with
    | unlaunched => rfl
    | cutShort _ result? => cases result? <;> rfl

/-- A failure of a tool is that of the command which returned another code than 0. -/
theorem answer_of_toolFailure {e : Exchange} {tool : String} {result : CommandResult}
    {cause : Option Problem} (h : e.verdict = .ok (some ⟨.toolFailure tool result, cause⟩))
    (hdeclared : Declared e.answer) :
    e.answer = .ok result ∧ result.returnCode ≠ 0 ∧ tool = toolOf e.step := by
  rcases failure_of_verdict h with ⟨result, hanswer, hcode, hfailure⟩ | hanswer
  · cases hfailure
    exact ⟨hanswer, hcode, rfl⟩
  · rw [hanswer] at hdeclared
    cases hdeclared

/-- The last call did not return code 0, and all before it did. -/
theorem evident_failed (elapsed : Float) {before : List Exchange} {e : Exchange} {failure : Failure}
    (hbefore : ∀ b ∈ before, b.verdict = .ok none) (hlast : e.verdict = .ok (some failure))
    (hstep : e.step = stepAt before.length) (hdeclared : Declared e.answer) :
    Evident (outcomeOf elapsed
      (.failed e.step ((before ++ [e]).filterMap (·.evidence)) e.evidence failure))
      ((before ++ [e]).map (·.answer)) := by
  have hend : ((before ++ [e]).map (·.answer)).getLast? = some e.answer := by simp
  have hlength : ((before ++ [e]).map (·.answer)).length = before.length + 1 := by simp
  have hresults : (before ++ [e]).filterMap (·.evidence) =
      before.filterMap (·.evidence) ++ e.evidence.toList := by
    rw [List.filterMap_append]
    cases he : e.evidence <;> simp [he]
  -- the record of the failure is the last of the results, if there is one
  have hfound : (outcomeOf elapsed
      (.failed e.step ((before ++ [e]).filterMap (·.evidence)) e.evidence failure)).failedResult =
        e.evidence.map fun result => ⟨result, some ((before.filterMap (·.evidence)).length)⟩ := by
    change failedResult _ _ _ = _
    unfold failedResult
    rw [result?_of_verdict hlast hdeclared, hresults]
    cases e.evidence <;> simp
  refine {
    success := success_outcomeOf _ _
    failed := failed_outcomeOf
    results := List.filterMap_map.symm
    earlier := ?_
    step := fun _ => ?_
    recordless := ?_
    record := ?_
    tool := ?_
    toolNamed := ?_
    raised := ?_ }
  · intro answer hmem
    rw [List.map_append, List.map_singleton, List.dropLast_concat] at hmem
    obtain ⟨b, hb, rfl⟩ := List.mem_map.mp hmem
    exact Exchange.returnedZero_of_passed (hbefore b hb)
  · rw [hlength, stepAfter_succ, ← hstep]
    rfl
  · rw [hfound, Option.map_eq_none_iff, hend]
    refine (recordOf_eq_none_iff hdeclared).trans
      ⟨fun h => .inr (.inr ⟨e.answer, rfl, h⟩), fun h => ?_⟩
    rcases h with hsuccess | hnil | ⟨last, hsame, hrecordless⟩
    · cases hsuccess
    · simp at hnil
    · cases hsame
      exact hrecordless
  · intro found hsome
    rw [hfound] at hsome
    obtain ⟨result, hresult, rfl⟩ := Option.map_eq_some_iff.mp hsome
    change ((before ++ [e]).filterMap (·.evidence)).getLast? = _ ∧
      _ = some (((before ++ [e]).filterMap (·.evidence)).length - 1) ∧
      ∀ result ∈ ((before ++ [e]).filterMap (·.evidence)).dropLast, result.returnCode = 0
    rw [hresults, hresult, Option.toList_some, List.dropLast_concat]
    refine ⟨by simp, by simp, fun earlier hmem => ?_⟩
    obtain ⟨b, hb, hevidence⟩ := List.mem_filterMap.mp hmem
    obtain ⟨_, hanswer, hzero⟩ := answer_zero_of_passed (hbefore b hb)
    unfold Exchange.evidence at hevidence
    rw [hanswer] at hevidence
    cases hevidence
    exact hzero
  · rw [hend]
    constructor
    · rintro ⟨tool, result, cause, hfailure⟩
      cases failure
      cases hfailure
      obtain ⟨hanswer, hcode, -⟩ := answer_of_toolFailure hlast hdeclared
      exact ⟨result, congrArg some hanswer, hcode⟩
    · rintro ⟨result, hreturned, -⟩
      rcases failure_of_verdict hlast with ⟨_, -, -, rfl⟩ | hanswer
      · exact ⟨_, _, _, rfl⟩
      · rw [hanswer] at hreturned
        cases hreturned
  · intro tool result cause hfailure
    cases failure
    cases hfailure
    obtain ⟨hanswer, -, htool⟩ := answer_of_toolFailure hlast hdeclared
    rw [hlength, hend, htool, hstep, toolOf_stepAt, hanswer]
    exact ⟨rfl, rfl⟩
  · intro raised hraised
    rw [hend] at hraised
    rcases failure_of_verdict hlast with ⟨_, hanswer, -, -⟩ | hanswer
    · rw [hanswer] at hraised
      cases hraised
    · rw [hanswer] at hraised
      cases hraised
      rfl

/-! ## Runs -/

/-- Every outcome that a run returns agrees with the commands handed out and with their answers. -/
theorem execute_is_evident {w w' : World σ} {outcome : Outcome} (hbooks : runner.KeepsBooks)
    (hdeclared : ∀ answer ∈ p.answersOf runner request w, Declared answer)
    (h : execute p runner request w = (.ok outcome, w')) :
    ∃ specs, w'.issued = w.issued ++ specs ∧
      specs.length = (p.answersOf runner request w).length ∧
      Evident outcome (p.answersOf runner request w) := by
  obtain ⟨w₀, w₁, v, es, ending, ht, hway, hcloses, hexecute⟩ := execute_way p runner request w
  have hb₀ : w.Beside w₀ := beside_begun ht
  have hanswers := answersOf_eq hbooks hb₀ hway hcloses.beside hexecute
  obtain ⟨hconclusion, rfl⟩ := Prod.mk.inj (h.symm.trans hexecute)
  rw [hanswers] at hdeclared ⊢
  refine ⟨es.map (·.spec), ?_, by simp, ?_⟩
  · rw [hcloses.beside.issued, hway.issued hbooks, hb₀.issued]
  · have hsteps := hway.map_step
    cases hway with
    | unprepared => cases hconclusion
    | refused hprep =>
      cases hconclusion
      exact evident_refused _ (isConfiguration_of_prepare (congrArg Prod.fst hprep))
    | lost => cases hconclusion
    | strayed => cases hconclusion
    | ran _ _ hcourse =>
      cases hended : endingAfter [] es with
      | error raised =>
        rw [hended] at hconclusion
        cases hconclusion
      | ok ended =>
        rw [hended] at hconclusion
        rw [eq_outcomeOf hconclusion.symm]
        cases ended with
        | passed results =>
          obtain ⟨hall, rfl⟩ := endingAfter_passed hended
          exact evident_passed _ hall
        | failed step results evidence failure =>
          obtain ⟨before, e, rfl, hbefore, hlast, rfl, rfl, rfl⟩ := endingAfter_failed hcourse hended
          have hstep : e.step = stepAt before.length := by
            have := congrArg (·[before.length]?) hsteps
            simpa using this
          exact evident_failed _ hbefore hlast hstep (hdeclared _ (by simp))

theorem execute_is_evident_makeCutShort :
    ∃ outcome w', execute ⟨{}, 4, 2⟩ (Runner.answering makeCutShort) sampleRequest sampleWorld =
      (.ok outcome, w') ∧ outcome.stage = .failed ∧ outcome.failedStep = some (.compilePass 1) ∧
      ∃ last, outcome.failure = some ⟨.error (.execution "Interrupted" (some last)),
        some (.fault (.interrupt ""))⟩ ∧ outcome.results.getLast? = some last := by
  obtain ⟨outcome, w', h⟩ : ∃ outcome w', execute ⟨{}, 4, 2⟩ (Runner.answering makeCutShort)
    sampleRequest sampleWorld = (.ok outcome, w') := ⟨_, _, rfl⟩
  obtain ⟨configured, compiled, hanswers⟩ : ∃ configured compiled,
      answersOf ⟨{}, 4, 2⟩ (Runner.answering makeCutShort) sampleRequest sampleWorld =
        [.ok (sampleResult configured 0), .error (.chained
          (.execution "Interrupted" (some (sampleResult compiled (-2))))
          (.fault (.interrupt "")))] := ⟨_, _, rfl⟩
  have hdeclared : ∀ answer ∈ answersOf ⟨{}, 4, 2⟩ (Runner.answering makeCutShort) sampleRequest
      sampleWorld, Declared answer := by
    rw [hanswers]
    intro answer hmem
    rcases List.mem_pair.mp hmem with rfl | rfl
    · exact .returned _
    · exact .cutShort _ _ _
  obtain ⟨specs, -, -, hevident⟩ :=
    execute_is_evident (Runner.keepsBooks_answering makeCutShort) hdeclared h
  rw [hanswers] at hevident
  have hraised := hevident.raised _ rfl
  have hfailed : outcome.success = false := by
    cases hsuccess : outcome.success with
    | false => rfl
    | true => cases hraised.symm.trans ((hevident.success.out 0 2).mp hsuccess)
  refine ⟨outcome, w', h, (hevident.failed hfailed).1, hevident.step hfailed, _, hraised, ?_⟩
  rw [hevident.results]
  rfl

end Pipeline

end NativeBuild
