import NativeBuild.Proofs.Pipeline.CommandSequence
import NativeBuild.Proofs.Pipeline.Replay

/-
  What leaves a run as something raised. Errors of the build never do: they end the run and stand on its
  outcome, and so does a directory that cannot be used (`execute_of_unusable`). Faults always do: one
  that the runner raises is the end of the run at once (`execute_escapes`). With a runner that raises no
  fault a run still does not return an outcome for every path, because the test whether the output
  directory is there, and the working directory that relative paths start from, are looked up outside
  of all handlers; `execute_raises_iff` says when that happens, and `execute_raises_locked` is a run in
  which it does.
-/

namespace NativeBuild

variable {σ : Type}

/-- The errors about what a build was asked for: its directories and its platform. -/
def BuildError.isConfiguration : BuildError → Bool
  | configuration _ | unsupportedPlatform _ => true
  | _ => false

namespace Containment

/-- Directories that cannot be used together are an error of the configuration. -/
theorem isConfiguration_of_check {files : FileTree} {cwd : Location} {source output : String}
    {failure : Failure} (h : check files cwd source output = .error failure) :
    failure.error.isConfiguration = true := by
  have hcanonical : ∀ {path label failure}, canonical files cwd path label = .error failure →
      failure.error.isConfiguration = true := by
    intro path label failure h
    unfold canonical at h
    split at h <;> cases h
    rfl
  unfold check at h
  cases houtput : canonical files cwd output "output" with
  | error failed =>
    rw [houtput] at h
    cases h
    exact hcanonical houtput
  | ok resolved =>
    rw [houtput] at h
    cases hsource : canonical files cwd source "source" with
    | error failed =>
      rw [hsource] at h
      cases h
      exact hcanonical hsource
    | ok start =>
      rw [hsource] at h
      change (if startsWith start resolved then _ else _) = _ at h
      split at h <;> cases h
      rfl

/-- A path without a canonical form is refused. -/
theorem check_of_unresolved {files : FileTree} {cwd : Location} {source output path : String}
    {fault : Fault} (hpath : path = output ∨ path = source)
    (h : files.canonical cwd path = .error fault) :
    ∃ failure, check files cwd source output = .error failure := by
  have hcanonical : ∀ label, ∃ failure, canonical files cwd path label = .error failure := by
    intro label
    unfold canonical
    rw [h]
    exact ⟨_, rfl⟩
  unfold check
  rcases hpath with rfl | rfl
  · obtain ⟨failure, hfailure⟩ := hcanonical "output"
    rw [hfailure]
    exact ⟨failure, rfl⟩
  · obtain ⟨failure, hfailure⟩ := hcanonical "source"
    rw [hfailure]
    cases canonical files cwd output "output" with
    | error failed => exact ⟨failed, rfl⟩
    | ok resolved => exact ⟨failure, rfl⟩

end Containment

namespace Pipeline

open NativeBuild.Action

variable {p : Pipeline} {runner : Runner σ} {request : Request} {w w' : World σ}

/-! ## Preparation -/

/-- Platforms and directories are refused with an error of the configuration. -/
theorem isConfiguration_of_validation {source output : String} {failure : Failure}
    (h : validation w source output = .error failure) : failure.error.isConfiguration = true := by
  unfold validation at h
  split at h
  · next error hplatform =>
    cases h
    unfold Platform.check at hplatform
    split at hplatform <;> cases hplatform
    rfl
  · exact Containment.isConfiguration_of_check h

theorem validation_of_isOk {source output : String} (h : (validation w source output).isOk = true) :
    validation w source output = .ok () := by
  cases hvalid : validation w source output with
  | error failure =>
    rw [hvalid] at h
    cases h
  | ok _ => rfl

/-- A preparation that fails does so with an error of the configuration. -/
theorem isConfiguration_of_prepare {source output : String} {failure : Failure}
    (h : (prepare source output w).1 = .ok (some failure)) :
    failure.error.isConfiguration = true := by
  rw [prepare_apply] at h
  cases hvalid : validation w source output with
  | error failed =>
    rw [hvalid] at h
    cases h
    exact isConfiguration_of_validation hvalid
  | ok _ =>
    rw [hvalid] at h
    dsimp only at h
    rw [ensureOutput_apply] at h
    unfold outputMade at h
    dsimp only at h
    split at h
    · cases h
    · split at h
      · cases h
      · cases h
      · split at h <;> cases h
        rfl

/-- The output path cannot even be tested for a directory. -/
inductive Untestable (files : FileTree) (cwd : Location) (output : String) : Fault → Prop where
  /-- A path with the character zero, which no system call takes. -/
  | nul (hnul : '\x00' ∈ output.toList) : Untestable files cwd output .embeddedNul
  /-- A path whose way cannot be walked, for its length or for want of a right. -/
  | untold {error : SystemError} (hnul : '\x00' ∉ output.toList)
      (htest : files.isDirectory cwd (Path.ofString output).toString = .error error) :
      Untestable files cwd output (.system error)

/-- Preparation raises something when the output path passed validation and cannot be tested. -/
theorem prepare_raises_iff {source output : String} {raised : Raised} :
    (prepare source output w).1 = .error raised ↔ validation w source output = .ok () ∧
      ∃ fault, raised = .ofFault fault ∧ Untestable w.files w.cwd output fault := by
  rw [prepare_apply]
  cases validation w source output with
  | error failure => simp
  | ok _ =>
    dsimp only
    rw [ensureOutput_apply]
    dsimp only
    constructor
    · intro h
      refine ⟨rfl, ?_⟩
      unfold outputMade at h
      dsimp only at h
      split at h
      · next hnul =>
        cases h
        exact ⟨_, rfl, .nul hnul⟩
      · next hnul =>
        split at h
        · next htest =>
          cases h
          exact ⟨_, rfl, .untold hnul htest⟩
        · cases h
        · split at h <;> cases h
    · rintro ⟨-, fault, rfl, hfault⟩
      unfold outputMade
      cases hfault with
      | nul hnul =>
        dsimp only
        rw [if_pos hnul]
      | untold hnul htest =>
        dsimp only
        rw [if_neg hnul, htest]

/-- The directories of a request cannot be used: a path has no canonical form, or the output directory
is not there and cannot be made. -/
inductive Unusable (request : Request) (w : World σ) : Prop where
  | unresolved {path : String} {fault : Fault} (hpath : path = request.output ∨ path = request.source)
      (h : w.files.canonical w.cwd path = .error fault)
  | unmade {error : SystemError} (hnul : '\x00' ∉ request.output.toList)
      (htest : w.files.isDirectory w.cwd (Path.ofString request.output).toString = .ok false)
      (hmake : (w.files.makeDirectories w.cwd (Path.ofString request.output)).1 = .error error)

theorem Unusable.prepare (h : Unusable request w) :
    ∃ failure, (prepare request.source request.output w).1 = .ok (some failure) := by
  rw [prepare_apply]
  cases hvalid : validation w request.source request.output with
  | error failure => exact ⟨failure, rfl⟩
  | ok _ =>
    dsimp only
    rw [ensureOutput_apply]
    cases h with
    | unresolved hpath h =>
      obtain ⟨failure, hfailure⟩ := Containment.check_of_unresolved hpath h
      unfold validation at hvalid
      split at hvalid
      · cases hvalid
      · rw [hfailure] at hvalid
        cases hvalid
    | unmade hnul htest hmake =>
      unfold outputMade
      dsimp only
      rw [if_neg hnul, htest]
      rcases hmade : w.files.makeDirectories w.cwd (Path.ofString request.output) with ⟨made?, made⟩
      rw [hmade] at hmake
      cases hmake
      exact ⟨_, rfl⟩

/-! ## Refusal -/

/-- The run reported that its directories cannot be used, and nothing was handed out. -/
structure Refused (outcome : Outcome) (w w' : World σ) : Prop where
  failed : outcome.success = false ∧ outcome.stage = .failed
  step : outcome.failedStep = some .validate
  results : outcome.results = [] ∧ outcome.failedResult = none
  failure : ∃ error cause, outcome.failure = some ⟨.error error, cause⟩ ∧
    error.isConfiguration = true
  issued : w'.issued = w.issued
  answers : w'.answers = w.answers

/-- Without directories there are no exchanges. -/
theorem Way.of_refused {es : List Exchange} {ending : Except Raised Ending} {failure : Failure}
    (hprep : (prepare request.source request.output w).1 = .ok (some failure))
    (h : Way p runner request w es ending w') :
    ending = .ok (.failed .validate [] none failure) ∧
      w' = (prepare request.source request.output w).2 := by
  cases h with
  | refused h =>
    rw [h] at hprep ⊢
    cases hprep
    exact ⟨rfl, rfl⟩
  | unprepared h | lost h | strayed h | ran h =>
    rw [h] at hprep
    cases hprep

/-- A run whose preparation failed reports the failure, and leaves nothing but what the preparation
left and the record of the failure. -/
theorem execute_of_refused (p : Pipeline) (runner : Runner σ) {failure : Failure}
    (h : (prepare request.source request.output w).1 = .ok (some failure)) :
    ∃ outcome w', execute p runner request w = (.ok outcome, w') ∧ Refused outcome w w' ∧
      outcome.failure = some failure.raised ∧
      w'.callerLog = w.callerLog ++ (preparedRecords request w ++ [failureRecord failure.error]) := by
  obtain ⟨w₀, w₁, w', es, ending, ht, hway, hcloses, hexecute⟩ := execute_way p runner request w
  have hb₀ : w.Beside w₀ := beside_begun ht
  obtain ⟨rfl, rfl⟩ := hway.of_refused
    ((prepare_beside hb₀ request.source request.output).trans h)
  obtain ⟨opening, -, hopened⟩ := prepare_opened hb₀ ht.callerLog request.source request.output
  have hconf := isConfiguration_of_prepare h
  refine ⟨_, w', hexecute, ⟨⟨rfl, rfl⟩, rfl, ⟨rfl, ?_⟩, ⟨failure.error, failure.cause, rfl, hconf⟩,
    by rw [hcloses.beside.issued, hopened.issued],
    by rw [hcloses.beside.answers, hopened.answers]⟩, rfl, ?_⟩
  · obtain ⟨error, cause⟩ := failure
    cases error <;> first | rfl | cases hconf
  · rw [hcloses.callerLog, prepare_callerLog, preparedRecords_beside hb₀ request, ht.callerLog]
    exact List.append_assoc _ _ _

/-- A run whose directories cannot be used says so on its outcome. -/
theorem execute_of_unusable (p : Pipeline) (runner : Runner σ) (h : Unusable request w) :
    ∃ outcome w', execute p runner request w = (.ok outcome, w') ∧ Refused outcome w w' := by
  obtain ⟨failure, hprep⟩ := h.prepare
  obtain ⟨outcome, w', hexecute, hrefused, -⟩ := execute_of_refused p runner hprep
  exact ⟨outcome, w', hexecute, hrefused⟩

/-! ## Faults -/

/-- Whatever the steps raise is a fault. -/
theorem Way.fault_of_raised {es : List Exchange} {raised : Raised}
    (h : Way p runner request w es (.error raised) w') :
    ∃ fault cause, raised = ⟨.fault fault, cause⟩ := by
  generalize hending : Except.error raised = ending at h
  cases h with
  | unprepared hprep =>
    cases hending
    obtain ⟨-, fault, rfl, -⟩ := prepare_raises_iff.mp (congrArg Prod.fst hprep)
    exact ⟨fault, none, rfl⟩
  | refused => cases hending
  | @lost fault =>
    cases hending
    exact ⟨fault, none, rfl⟩
  | @strayed _ fault =>
    cases hending
    exact ⟨fault, none, rfl⟩
  | ran =>
    obtain ⟨e, -, hv⟩ := exists_raised_of_endingAfter hending.symm
    exact e.fault_of_raised hv

/-- A run raises nothing but faults. -/
theorem execute_raises_fault {raised : Raised}
    (h : (execute p runner request w).1 = .error raised) :
    ∃ fault cause, raised = ⟨.fault fault, cause⟩ := by
  obtain ⟨w₀, w₁, w', es, ending, -, hway, -, hexecute⟩ := execute_way p runner request w
  rw [hexecute] at h
  rcases conclusion_raises h with rfl | ⟨-, fault, -, -, rfl⟩
  · exact hway.fault_of_raised
  · exact ⟨fault, none, rfl⟩

/-- Something raised by an exchange is the end of the run. -/
theorem Way.of_raised {es : List Exchange} {ending : Except Raised Ending} {e : Exchange} {k : Nat}
    {raised : Raised} (he : es[k]? = some e) (hv : e.verdict = .error raised)
    (h : Way p runner request w es ending w') :
    ending = .error raised ∧ es.length = k + 1 ∧ ∃ v, Performed runner p.passes v es w' := by
  cases h with
  | unprepared => cases he
  | refused => cases he
  | lost => cases he
  | strayed _ _ _ hpassed =>
    cases List.mem_singleton.mp (List.mem_of_getElem? he)
    cases hpassed.symm.trans hv
  | ran _ hes hcourse =>
    exact ⟨endingAfter_raised hcourse he hv [],
      hcourse.length_of_stopped he (by simp [hv]), _, hes⟩

theorem stageOf_stepAt (k : Nat) :
    stageOf (stepAt k) = if k = 0 then .configuring else .compiling := by
  cases k <;> rfl

/-- A fault of the call after `k` others has left a run: there was no further call, the caller heard of
the exchanges and of no error, and the stage is that of the call. -/
structure Escaped (k : Nat) (raised : Raised) (ended : Except Raised Outcome) (w w' : World σ) :
    Prop where
  raised : ended = .error raised
  issued : w'.issued.length = w.issued.length + (k + 1)
  answers : w'.answers.length = w.answers.length + (k + 1)
  callerLog : ∃ added, w'.callerLog = w.callerLog ++ added ∧
    added.filter (·.level == .error) = []
  stage : w'.stage = if k = 0 then .configuring else .compiling

/-- A fault that the runner raises leaves the run at once. -/
theorem execute_escapes (hbooks : runner.KeepsBooks) (hlog : runner.KeepsCallerLog)
    (hstage : runner.KeepsStage) {k : Nat} {fault : Fault} {cause : Option Problem}
    (h : (p.answersOf runner request w)[k]? = some (.error ⟨.fault fault, cause⟩)) :
    Escaped k ⟨.fault fault, cause⟩ (execute p runner request w).1 w
      (execute p runner request w).2 := by
  obtain ⟨w₀, w₁, w', es, ending, ht, hway, hcloses, hexecute⟩ := execute_way p runner request w
  have hb₀ : w.Beside w₀ := beside_begun ht
  rw [answersOf_eq hbooks hb₀ hway hcloses.beside hexecute, List.getElem?_map] at h
  obtain ⟨e, he, hanswer⟩ := Option.map_eq_some_iff.mp h
  have hv : e.verdict = .error ⟨.fault fault, cause⟩ := by
    unfold Exchange.verdict
    rw [hanswer]
    rfl
  have hstep : e.step = stepAt k := by
    have hsteps := congrArg (·[k]?) hway.map_step
    have hk : k < es.length := (List.getElem?_eq_some_iff.mp he).1
    simpa [he, List.getElem?_range hk] using hsteps
  obtain ⟨rfl, hlength, v, hes⟩ := hway.of_raised he hv
  obtain ⟨opening, hopening, hcaller⟩ := hway.callerLog hlog
  rw [hexecute]
  refine ⟨rfl, ?_, ?_, ⟨opening ++ es.flatMap (·.records p.passes), ?_, ?_⟩, ?_⟩
  · simp [hcloses.beside.issued, hway.issued hbooks, hb₀.issued, hlength]
  · simp [hcloses.beside.answers, hway.answers hbooks, hb₀.answers, hlength]
  · rw [hcloses.callerLog, hcaller, ht.callerLog]
    exact List.append_nil _
  · rw [List.filter_append, level_opening hopening (by decide), Exchange.errors_flatMap_records,
      List.nil_append]
  · -- tracing leaves the stage alone, and the last stage entered is that of the last exchange
    have hlast : es.getLast? = some e := by
      rw [List.getLast?_eq_getElem?, hlength]
      exact he
    cases hcloses with
    | escaped ht₁ => rw [ht₁.stage, hes.stage hstage, hlast, ← stageOf_stepAt, ← hstep]; rfl

/-! ## Paths that are not reported -/

/-- What a run raises for its paths, which no handler makes an error of the build. -/
inductive Unreported (p : Pipeline) (runner : Runner σ) (request : Request) (w : World σ) :
    Fault → Prop where
  /-- The output path passed validation, and then could not be tested. -/
  | untestable {fault : Fault} (hvalid : validation w request.source request.output = .ok ())
      (hfault : Untestable w.files w.cwd request.output fault) : Unreported p runner request w fault
  /-- The directories are in order and there is no working directory, from which one of the paths
  starts. -/
  | homeless (hprep : (prepare request.source request.output w).1 = .ok none)
      (hnone : p.answersOf runner request w = [])
      (hlost : ¬ (execute p runner request w).2.Finds [request.source, request.output]) :
      Unreported p runner request w (.system (.plain .noEntry))
  /-- The configure command passed and left no working directory, from which the output path
  starts. -/
  | strayed {answer : Except Raised CommandResult}
      (hone : p.answersOf runner request w = [answer]) (hzero : returnedZero answer = true)
      (hlost : ¬ (execute p runner request w).2.Finds [request.output]) :
      Unreported p runner request w (.system (.plain .noEntry))

/-- What preparation raises is how the run ends. -/
theorem Way.of_unprepared {es : List Exchange} {ending : Except Raised Ending} {raised : Raised}
    (hprep : (prepare request.source request.output w).1 = .error raised)
    (h : Way p runner request w es ending w') : ending = .error raised := by
  cases h with
  | unprepared h =>
    rw [h] at hprep
    cases hprep
    rfl
  | refused h | lost h | strayed h | ran h =>
    rw [h] at hprep
    cases hprep

/-- With the directories in order, only a working directory that is gone keeps a run from its first
command. -/
theorem Way.of_homeless {ending : Except Raised Ending}
    (hprep : (prepare request.source request.output w).1 = .ok none)
    (h : Way p runner request w [] ending w') :
    ending = .error (.ofFault (.system (.plain .noEntry))) := by
  cases h with
  | unprepared h | refused h =>
    rw [h] at hprep
    cases hprep
  | lost _ hbase => rw [World.base_eq_error hbase]
  | ran _ _ hcourse => exact absurd rfl hcourse.ne_nil

/-- After a configure command that passed, only a working directory that is gone keeps a run from its
first pass. -/
theorem Way.of_strayed {e : Exchange} {ending : Except Raised Ending} (hpasses : 1 ≤ p.passes)
    (hv : e.verdict = .ok none) (h : Way p runner request w [e] ending w') :
    ending = .error (.ofFault (.system (.plain .noEntry))) := by
  cases h with
  | strayed _ _ _ _ _ hbase => rw [World.base_eq_error hbase]
  | ran _ _ hcourse =>
    have hlength := hcourse.length_of_passed (List.forall_mem_singleton.mpr hv)
    rw [length_plan, List.length_singleton] at hlength
    omega

/-- With a runner that raises no fault, and times that have whole milliseconds, a run raises what its
paths give rise to, and nothing else. -/
theorem execute_raises_iff (hpasses : 1 ≤ p.passes) (hbooks : runner.KeepsBooks)
    (hkeeps : runner.KeepsClock) (hclock : w.buildClock.InMilliseconds)
    (hsettled : ∀ answer ∈ p.answersOf runner request w, Settled answer) {raised : Raised} :
    (execute p runner request w).1 = .error raised ↔
      ∃ fault, raised = .ofFault fault ∧ Unreported p runner request w fault := by
  obtain ⟨w₀, w₁, w', es, ending, ht, hway, hcloses, hexecute⟩ := execute_way p runner request w
  have hb₀ : w.Beside w₀ := beside_begun ht
  have hanswers := answersOf_eq hbooks hb₀ hway hcloses.beside hexecute
  have hprepared := prepare_beside hb₀ request.source request.output
  have hafter : (execute p runner request w).2 = w' := congrArg Prod.snd hexecute
  have helapsed := hway.elapsed hkeeps hclock ht
  rw [hanswers] at hsettled
  have hverdicts := fun (e : Exchange) (he : e ∈ es) =>
    Exchange.verdict_of_settled (hsettled e.answer (List.mem_map_of_mem he))
  rw [congrArg Prod.fst hexecute]
  constructor
  · intro h
    cases hway with
    | unprepared hprep =>
      cases h
      obtain ⟨hvalid, fault, rfl, hfault⟩ :=
        prepare_raises_iff.mp (hprepared.symm.trans (congrArg Prod.fst hprep))
      exact ⟨fault, rfl, .untestable hvalid hfault⟩
    | refused => cases h
    | lost hprep hbase =>
      cases h
      have hlost := World.not_finds ((hcloses.beside.base _).trans hbase)
      rw [← hafter] at hlost
      rw [World.base_eq_error hbase]
      exact ⟨_, rfl, .homeless (hprepared.symm.trans (congrArg Prod.fst hprep)) hanswers hlost⟩
    | strayed _ _ _ hpassed _ hbase =>
      cases h
      have hlost := World.not_finds ((hcloses.beside.base _).trans hbase)
      rw [← hafter] at hlost
      rw [World.base_eq_error hbase]
      exact ⟨_, rfl, .strayed hanswers (Exchange.returnedZero_of_passed hpassed) hlost⟩
    | ran =>
      obtain ⟨ended, hended⟩ := endingAfter_isOk (fun e he => (hverdicts e he).1) []
      rcases conclusion_raises h with hraised | ⟨-, fault, -, hms, -⟩
      · cases hended.symm.trans hraised
      · obtain ⟨ms, hfinite⟩ := helapsed
        cases hfinite.symm.trans hms
  · rintro ⟨fault, rfl, hfault⟩
    cases hfault with
    | untestable hvalid hfault =>
      have hprep := prepare_raises_iff.mpr ⟨hvalid, fault, rfl, hfault⟩
      rw [hway.of_unprepared (hprepared.trans hprep)]
      rfl
    | homeless hprep hnone =>
      cases List.map_eq_nil_iff.mp (hanswers.symm.trans hnone)
      rw [hway.of_homeless (hprepared.trans hprep)]
      rfl
    | strayed hone hzero =>
      obtain ⟨e, rfl, rfl⟩ := List.map_eq_singleton_iff.mp (hanswers.symm.trans hone)
      rw [hway.of_strayed hpasses ((hverdicts e List.mem_cons_self).2 hzero)]
      rfl

/-- The boundary of a run. Errors of the build never cross it. Directories that cannot be used are
reported on the outcome. When the runner raises no fault, a run returns an outcome unless its paths give
rise to a fault that no handler sees. And a fault of the runner crosses it as it is. -/
theorem execute_keeps_boundary (hpasses : 1 ≤ p.passes) (hbooks : runner.KeepsBooks)
    (request : Request) (w : World σ) :
    (∀ raised, (execute p runner request w).1 = .error raised →
      ∃ fault cause, raised = ⟨.fault fault, cause⟩) ∧
    (Unusable request w →
      ∃ outcome w', execute p runner request w = (.ok outcome, w') ∧ Refused outcome w w') ∧
    (runner.KeepsClock → w.buildClock.InMilliseconds →
      (∀ answer ∈ p.answersOf runner request w, Settled answer) →
      ((∃ outcome w', execute p runner request w = (.ok outcome, w')) ↔
        ∀ fault, ¬ Unreported p runner request w fault) ∧
      ∀ raised, (execute p runner request w).1 = .error raised ↔
        ∃ fault, raised = .ofFault fault ∧ Unreported p runner request w fault) ∧
    (runner.KeepsCallerLog → runner.KeepsStage → ∀ k fault cause,
      (p.answersOf runner request w)[k]? = some (.error ⟨.fault fault, cause⟩) →
        Escaped k ⟨.fault fault, cause⟩ (execute p runner request w).1 w
          (execute p runner request w).2) := by
  refine ⟨fun raised => execute_raises_fault, execute_of_unusable p runner, ?_,
    fun hlog hstage k fault cause => execute_escapes hbooks hlog hstage⟩
  intro hkeeps hclock hsettled
  refine ⟨?_, fun _ => execute_raises_iff hpasses hbooks hkeeps hclock hsettled⟩
  rcases hexecute : execute p runner request w with ⟨raised | outcome, w'⟩
  · obtain ⟨fault, -, hfault⟩ := (execute_raises_iff hpasses hbooks hkeeps hclock hsettled).mp
      (congrArg Prod.fst hexecute)
    refine ⟨fun h => ?_, fun h => absurd hfault (h fault)⟩
    obtain ⟨_, _, hreturns⟩ := h
    cases hreturns
  · refine ⟨fun _ fault hfault => ?_, fun _ => ⟨outcome, w', rfl⟩⟩
    have hraised := (execute_raises_iff hpasses hbooks hkeeps hclock hsettled).mpr
      ⟨fault, rfl, hfault⟩
    rw [hexecute] at hraised
    cases hraised

/-- `cmake` passes and the user interrupts `make`. -/
def makeInterrupted (spec : CommandSpec) : Except Raised CommandResult :=
  if spec.program = "make" then .error (.ofFault (.interrupt "")) else .ok (sampleResult spec 0)

/-- A build in a directory below a file. -/
def blockedRequest : Request := { sampleRequest with output := "/file/out" }

/-- A world with a file where a directory should be made. -/
def blockedWorld : World Unit :=
  { sampleWorld with
    files := ⟨[⟨["src"], 2, .directory 0o755⟩, ⟨["file"], 3, .file [] 0o644⟩], 4, 0, []⟩ }

theorem execute_keeps_boundary_interrupted :
    (∃ outcome w', execute ⟨{}, 4, 2⟩ (Runner.answering makeInterrupted) blockedRequest blockedWorld =
      (.ok outcome, w') ∧ Refused outcome blockedWorld w') ∧
    (∃ outcome w', execute ⟨{}, 4, 2⟩ (Runner.answering makeFails) sampleRequest sampleWorld =
      (.ok outcome, w')) ∧
    Escaped 1 (.ofFault (.interrupt ""))
      (execute ⟨{}, 4, 2⟩ (Runner.answering makeInterrupted) sampleRequest sampleWorld).1 sampleWorld
      (execute ⟨{}, 4, 2⟩ (Runner.answering makeInterrupted) sampleRequest sampleWorld).2 ∧
    ∃ fault cause, Raised.ofFault (.interrupt "") = ⟨.fault fault, cause⟩ := by
  have hbooks : ∀ answer, (Runner.answering answer : Runner Unit).KeepsBooks :=
    Runner.keepsBooks_answering
  refine ⟨?_, ?_, ?_⟩
  · obtain ⟨-, hrefused, -⟩ := execute_keeps_boundary (p := ⟨{}, 4, 2⟩) (by decide)
      (hbooks makeInterrupted) blockedRequest blockedWorld
    have hmake : (blockedWorld.files.makeDirectories blockedWorld.cwd
        (Path.ofString blockedRequest.output)).1 = .error (.about .notDirectory "/file/out") := by
      decide +kernel
    exact hrefused (.unmade (by decide) (by decide +kernel) hmake)
  · obtain ⟨configured, compiled, hanswers⟩ : ∃ configured compiled,
        answersOf ⟨{}, 4, 2⟩ (Runner.answering makeFails) sampleRequest sampleWorld =
          [makeFails configured, makeFails compiled] := ⟨_, _, rfl⟩
    have hquarter : milliseconds 0.25 = .ok 250 := by rfl
    have hsettled : ∀ answer ∈ answersOf ⟨{}, 4, 2⟩ (Runner.answering makeFails) sampleRequest
        sampleWorld, Settled answer := by
      rw [hanswers]
      intro answer hmem
      rcases List.mem_pair.mp hmem with rfl | rfl <;> exact ⟨250, hquarter⟩
    obtain ⟨-, -, hreturns, -⟩ := execute_keeps_boundary (p := ⟨{}, 4, 2⟩) (by decide)
      (hbooks makeFails) sampleRequest sampleWorld
    refine (hreturns (Runner.keepsClock_answering makeFails) (inMilliseconds_still 0)
      hsettled).1.mpr fun fault hfault => ?_
    cases hfault with
    | untestable _ hfault =>
      have hthere : sampleWorld.files.isDirectory sampleWorld.cwd
          (Path.ofString sampleRequest.output).toString = .ok true := by decide +kernel
      cases hfault with
      | nul hnul => exact absurd hnul (by decide)
      | untold _ htest => cases hthere.symm.trans htest
    | homeless _ hnone => cases hanswers.symm.trans hnone
    | strayed hone => cases hanswers.symm.trans hone
  · obtain ⟨configured, hanswers⟩ : ∃ configured,
        answersOf ⟨{}, 4, 2⟩ (Runner.answering makeInterrupted) sampleRequest sampleWorld =
          [makeInterrupted configured, .error (.ofFault (.interrupt ""))] := ⟨_, rfl⟩
    obtain ⟨hfaults, -, -, hescapes⟩ := execute_keeps_boundary (p := ⟨{}, 4, 2⟩) (by decide)
      (hbooks makeInterrupted) sampleRequest sampleWorld
    have hescaped := hescapes (Runner.keepsCallerLog_answering makeInterrupted)
      (Runner.keepsStage_answering makeInterrupted) 1 (.interrupt "") none (by rw [hanswers]; rfl)
    exact ⟨hescaped, hfaults _ hescaped.raised⟩

/-- A build in a directory below one that may not be entered. -/
def lockedRequest : Request := { sampleRequest with output := "/locked/out" }

/-- A world with a directory that its owner may not search. -/
def lockedWorld : World Unit :=
  { sampleWorld with
    files := ⟨[⟨["src"], 2, .directory 0o755⟩, ⟨["locked"], 3, .directory 0o644⟩], 4, 0, []⟩ }

/-- The runner raises nothing, and the run raises what the test of its output path came to. -/
theorem execute_raises_locked :
    (execute ⟨{}, 4, 2⟩ (Runner.answering makeFails) lockedRequest lockedWorld).1 =
      .error (.ofFault (.system (.about .accessDenied "/locked/out"))) := by
  have hvalid : validation lockedWorld lockedRequest.source lockedRequest.output = .ok () :=
    validation_of_isOk (by decide +kernel)
  have htest : lockedWorld.files.isDirectory lockedWorld.cwd
      (Path.ofString lockedRequest.output).toString = .error (.about .accessDenied "/locked/out") := by
    decide +kernel
  have hfault : Unreported ⟨{}, 4, 2⟩ (Runner.answering makeFails) lockedRequest lockedWorld
      (.system (.about .accessDenied "/locked/out")) :=
    .untestable hvalid (.untold (by decide +kernel) htest)
  have hnone : (answersOf ⟨{}, 4, 2⟩ (Runner.answering makeFails) lockedRequest
      lockedWorld).length = 0 := by decide +kernel
  refine (execute_raises_iff ?_ ?_ ?_ ?_ ?_).mpr ⟨_, rfl, hfault⟩
  · decide
  · exact Runner.keepsBooks_answering makeFails
  · exact Runner.keepsClock_answering makeFails
  · exact inMilliseconds_still 0
  · intro answer hmem
    exact absurd (List.length_pos_of_mem hmem) (Nat.not_lt.mpr (Nat.le_of_eq hnone))

end Pipeline

end NativeBuild
