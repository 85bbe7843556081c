import NativeBuild.Proofs.Pipeline.Preparation
import NativeBuild.Proofs.Tracing.Span

/-
  Whole runs. The steps of a run end in one of a few ways (`Way`, `steps_way`): before the directories
  are in order, without a place where paths start, or with exchanges that follow the plan.
  `steps_of_ending` and `execute_of_outcome` say what a run did that came to an ending (`Brought`).
  `execute_closes` takes a run apart: bookkeeping, the steps, and what is left of a run after them
  (`Closes`).
-/

namespace NativeBuild

variable {σ : Type}

namespace Pipeline

open NativeBuild.Action

/-! ## Steps -/

/-- The configure command of a request, as seen from a place. -/
def configureSpec (p : Pipeline) (request : Request) (here : Location) : CommandSpec :=
  p.tools.configureCommand (.ofLocation here) request.source request.output request.definitions
    request.environment

/-- The compile command of a request, as seen from a place. -/
def compileSpec (p : Pipeline) (request : Request) (there : Location) : CommandSpec :=
  p.tools.compileCommand (.ofLocation there) request.output p.parallelism request.target

/-- The plan of a run: the configure command as seen from one place, and the passes as seen from the
place where the configure command leaves the run. -/
def plan (p : Pipeline) (request : Request) (here there : Location) : List (Step × CommandSpec) :=
  (.configure, p.configureSpec request here) :: passPlan (p.compileSpec request there) 1 p.passes

/-- The step of a command by its position in a run. -/
def stepAt : Nat → Step
  | 0 => .configure
  | number + 1 => .compilePass (number + 1)

theorem map_fst_plan (p : Pipeline) (request : Request) (here there : Location) :
    (p.plan request here there).map (·.1) = (List.range (p.passes + 1)).map stepAt := by
  rw [List.range_succ_eq_map]
  simp [plan, passPlan, stepAt, List.range'_eq_map_range, Nat.add_comm 1]

theorem length_plan (p : Pipeline) (request : Request) (here there : Location) :
    (p.plan request here there).length = p.passes + 1 := by
  simp [plan, length_passPlan]

theorem map_snd_plan (p : Pipeline) (request : Request) (here there : Location) :
    (p.plan request here there).map (·.2) =
      p.configureSpec request here :: List.replicate p.passes (p.compileSpec request there) := by
  simp [plan, map_snd_passPlan]

variable {p : Pipeline} {runner : Runner σ} {request : Request}

/-- The ways that the steps of a run end: the exchanges that took place, the ending and the world that
is left. -/
inductive Way (p : Pipeline) (runner : Runner σ) (request : Request) (w : World σ) :
    List Exchange → Except Raised Ending → World σ → Prop
  /-- Something was raised before the directories were in order. -/
  | unprepared {raised : Raised} {w₁ : World σ}
      (hprep : prepare request.source request.output w = (.error raised, w₁)) :
      Way p runner request w [] (.error raised) w₁
  /-- The directories cannot be used. -/
  | refused {failure : Failure} {w₁ : World σ}
      (hprep : prepare request.source request.output w = (.ok (some failure), w₁)) :
      Way p runner request w [] (.ok (.failed .validate [] none failure)) w₁
  /-- Paths have no place to start, and so there is no configure command. -/
  | lost {fault : Fault} {w₁ : World σ}
      (hprep : prepare request.source request.output w = (.ok none, w₁))
      (hbase : w₁.base [request.source, request.output] = .error fault) :
      Way p runner request w [] (.error (.ofFault fault)) (w₁.entered .configuring "")
  /-- The configure command passed, and then the path of the output directory had no place to
  start. -/
  | strayed {e : Exchange} {fault : Fault} {w₁ w₂ : World σ}
      (hprep : prepare request.source request.output w = (.ok none, w₁))
      (hhere : w₁.base [request.source, request.output] = .ok (.ofLocation w₁.cwd))
      (hstep : (e.step, e.spec) = (.configure, p.configureSpec request w₁.cwd))
      (hpassed : e.verdict = .ok none) (hlead : e.Leads runner p.passes w₁ w₂)
      (hbase : w₂.base [request.output] = .error fault) :
      Way p runner request w [e] (.error (.ofFault fault)) w₂
  /-- Commands were handed out as planned. -/
  | ran {es : List Exchange} {there : Location} {w₁ w' : World σ}
      (hprep : prepare request.source request.output w = (.ok none, w₁))
      (hes : Performed runner p.passes w₁ es w') (hcourse : Course (p.plan request w₁.cwd there) es)
      (hstay : (∀ spec v, (runner spec v).2.cwd = v.cwd) → there = w₁.cwd) :
      Way p runner request w es (endingAfter [] es) w'

/-- Without a place for paths to start there is no configure command. -/
theorem steps_of_lost {w w₁ : World σ} {fault : Fault}
    (hprep : prepare request.source request.output w = (.ok none, w₁))
    (hbase : w₁.base [request.source, request.output] = .error fault) :
    steps p runner request w = (.error (.ofFault fault), w₁.entered .configuring "") := by
  have hconf : configure p runner request (w₁.entered .configuring "") =
      (.error (.ofFault fault), w₁.entered .configuring "") := configure_of_lost hbase
  unfold steps
  rw [bind_of_ok hprep]
  dsimp only
  rw [bind_of_ok (enter_apply _ _ w₁), bind_of_error hconf]

/-- Steps after a preparation that passed follow the plan, unless the place of the output directory
is lost on the way. -/
theorem way_of_prepared (p : Pipeline) (runner : Runner σ) {w w₁ : World σ}
    (hprep : prepare request.source request.output w = (.ok none, w₁))
    (hbase : w₁.base [request.source, request.output] = .ok (.ofLocation w₁.cwd)) :
    ∃ es ending w', steps p runner request w = (ending, w') ∧ Way p runner request w es ending w' := by
  obtain ⟨e, w₂, hstep, hspec, hlead, hrun⟩ :=
    perform_leads runner p.passes .configure (p.configureSpec request w₁.cwd) w₁
  dsimp only [stageOf, detailOf] at hrun
  have hconf : configure p runner request (w₁.entered .configuring "") =
      (e.verdict.map (StepReport.mk e.evidence), w₂) := by
    rw [configure_apply (show (w₁.entered .configuring "").base _ = .ok _ from hbase)]
    exact hrun
  have hplan : ∀ there, p.plan request w₁.cwd there =
      (e.step, e.spec) :: passPlan (p.compileSpec request there) 1 p.passes := by
    intro there
    rw [hstep, hspec]
    rfl
  -- a configure command that does not pass is the whole course
  have halted : e.verdict ≠ .ok none → Course (p.plan request w₁.cwd w₁.cwd) [e] := by
    rw [hplan]
    exact .halted e
  unfold steps
  rw [bind_of_ok hprep]
  dsimp only
  rw [bind_of_ok (enter_apply _ _ w₁)]
  cases hv : e.verdict with
  | error raised =>
    rw [hv] at hconf
    rw [bind_of_error hconf]
    have hend : endingAfter [] [e] = .error raised := by simp [endingAfter, hv]
    exact ⟨[e], _, w₂, rfl,
      hend ▸ .ran hprep (.cons hlead (.nil w₂)) (halted (by simp [hv])) fun _ => rfl⟩
  | ok failure? =>
    rw [hv] at hconf
    rw [bind_of_ok hconf]
    cases failure? with
    | some failure =>
      have hend : endingAfter [] [e] =
          .ok (.failed .configure e.evidence.toList e.evidence failure) := by
        simp [endingAfter, hv, hstep]
      exact ⟨[e], _, w₂, rfl,
        hend ▸ .ran hprep (.cons hlead (.nil w₂)) (halted (by simp [hv])) fun _ => rfl⟩
    | none =>
      dsimp only
      rw [bind_assoc_run, look_bind]
      cases hthere : w₂.base [request.output] with
      | error fault =>
        exact ⟨[e], _, w₂, rfl, .strayed hprep hbase (Prod.ext hstep hspec) hv hlead hthere⟩
      | ok there =>
        rw [ofFault_ok, pure_bind_run, World.base_eq hthere]
        obtain ⟨es, w', hes, hcourse, hend⟩ := compileFrom_course p runner
          (p.compileSpec request w₂.cwd) p.passes 1 e.evidence.toList w₂
        have hall : endingAfter [] (e :: es) = endingAfter e.evidence.toList es := by
          simp [endingAfter, hv]
        have hwhole : Course (p.plan request w₁.cwd w₂.cwd) (e :: es) := by
          rw [hplan]
          exact .next e hv hcourse
        exact ⟨e :: es, _, w', hend,
          hall ▸ .ran hprep (.cons hlead hes) hwhole fun hk => hlead.cwd hk⟩

/-- The steps of a run end in one of these ways. -/
theorem steps_way (p : Pipeline) (runner : Runner σ) (request : Request) (w : World σ) :
    ∃ es ending w', steps p runner request w = (ending, w') ∧
      Way p runner request w es ending w' := by
  rcases hprep : prepare request.source request.output w with ⟨raised | failure?, w₁⟩
  · refine ⟨[], _, w₁, ?_, .unprepared hprep⟩
    unfold steps
    rw [bind_of_error hprep]
  · cases failure? with
    | some failure =>
      refine ⟨[], _, w₁, ?_, .refused hprep⟩
      unfold steps
      rw [bind_of_ok hprep]
      rfl
    | none =>
      cases hbase : w₁.base [request.source, request.output] with
      | error fault => exact ⟨[], _, _, steps_of_lost hprep hbase, .lost hprep hbase⟩
      | ok here =>
        rw [World.base_eq hbase] at hbase
        exact way_of_prepared p runner hprep hbase

/-- Whatever the way, the exchanges took place from the prepared world on, and at most a stage was
entered after them. -/
theorem Way.performed_eq {w w' : World σ} {es : List Exchange} {ending : Except Raised Ending}
    (h : Way p runner request w es ending w') :
    ∃ v, Performed runner p.passes (prepare request.source request.output w).2 es v ∧
      (w' = v ∨ w' = v.entered .configuring "") := by
  cases h with
  | unprepared hprep => exact ⟨w', hprep ▸ .nil w', .inl rfl⟩
  | refused hprep => exact ⟨w', hprep ▸ .nil w', .inl rfl⟩
  | @lost _ w₁ hprep _ => exact ⟨w₁, hprep ▸ .nil w₁, .inr rfl⟩
  | strayed hprep _ _ _ hlead _ => exact ⟨w', hprep ▸ .cons hlead (.nil w'), .inl rfl⟩
  | ran hprep hes _ _ => exact ⟨w', hprep ▸ hes, .inl rfl⟩

/-- Nothing but bookkeeping was done besides the exchanges. -/
theorem Way.performed {w w' : World σ} {es : List Exchange} {ending : Except Raised Ending}
    (h : Way p runner request w es ending w') :
    ∃ v, Performed runner p.passes (prepare request.source request.output w).2 es v ∧ v.Beside w' ∧
      w'.callerLog = v.callerLog := by
  obtain ⟨v, hes, rfl | rfl⟩ := h.performed_eq
  · exact ⟨_, hes, .refl _, rfl⟩
  · exact ⟨v, hes, .entered v _ _, World.callerLog_entered v _ _⟩

namespace Way

variable {w w' : World σ} {es : List Exchange} {ending : Except Raised Ending}

theorem issued (hbooks : runner.KeepsBooks) (h : Way p runner request w es ending w') :
    w'.issued = w.issued ++ es.map (·.spec) := by
  obtain ⟨v, hes, hb, -⟩ := h.performed
  obtain ⟨opening, -, hopened⟩ :=
    prepare_opened (World.Beside.refl w) rfl request.source request.output
  rw [hb.issued, hes.issued hbooks, hopened.issued]

theorem answers (hbooks : runner.KeepsBooks) (h : Way p runner request w es ending w') :
    w'.answers = w.answers ++ es.map (·.answer) := by
  obtain ⟨v, hes, hb, -⟩ := h.performed
  obtain ⟨opening, -, hopened⟩ :=
    prepare_opened (World.Beside.refl w) rfl request.source request.output
  rw [hb.answers, hes.answers hbooks, hopened.answers]

theorem callerLog (hlog : runner.KeepsCallerLog) (h : Way p runner request w es ending w') :
    ∃ opening, (opening = [] ∨ opening = [madeRecord request.output]) ∧
      w'.callerLog = w.callerLog ++ (opening ++ es.flatMap (·.records p.passes)) := by
  obtain ⟨v, hes, -, hv⟩ := h.performed
  obtain ⟨opening, hopening, hopened⟩ :=
    prepare_opened (World.Beside.refl w) rfl request.source request.output
  refine ⟨opening, hopening, ?_⟩
  rw [hv, hes.callerLog hlog, hopened.callerLog, List.append_assoc]

/-- The steps of the exchanges, in order. -/
theorem map_step (h : Way p runner request w es ending w') :
    es.map (·.step) = (List.range es.length).map stepAt := by
  cases h with
  | unprepared => rfl
  | refused => rfl
  | lost => rfl
  | strayed _ _ hstep => exact congrArg (fun pair => [pair.1]) hstep
  | @ran es there w₁ w' _ _ hcourse _ =>
    have hsteps := congrArg (List.map Prod.fst) hcourse.map_eq_take
    have hlength := congrArg List.length hcourse.map_eq_take
    rw [List.map_map, List.map_take, map_fst_plan, ← List.map_take, List.take_range] at hsteps
    rw [List.length_map, List.length_take, length_plan] at hlength
    rw [← hlength] at hsteps
    exact hsteps

/-- The clock goes on as it did. -/
theorem reading (hkeeps : runner.KeepsClock) (h : Way p runner request w es ending w') :
    w'.buildClock.reading = w.buildClock.reading := by
  obtain ⟨v, hes, hlast⟩ := h.performed_eq
  have hkept := hes.reading hkeeps
  rw [prepare_buildClock] at hkept
  obtain rfl | rfl := hlast <;> exact hkept

/-- The commands of the exchanges are the first ones of the plan. They all have the working directory
of the start if the runner stays in it. -/
theorem follows_plan (h : Way p runner request w es ending w') :
    ∃ there, es.map (fun e => (e.step, e.spec)) = (p.plan request w.cwd there).take es.length ∧
      ((∀ spec v, (runner spec v).2.cwd = v.cwd) → there = w.cwd) := by
  have hcwd := prepare_cwd request.source request.output w
  cases h with
  | unprepared => exact ⟨w.cwd, rfl, fun _ => rfl⟩
  | refused => exact ⟨w.cwd, rfl, fun _ => rfl⟩
  | lost => exact ⟨w.cwd, rfl, fun _ => rfl⟩
  | strayed hprep _ hstep =>
    rw [hprep] at hcwd
    exact ⟨w.cwd, hcwd ▸ congrArg ([·]) hstep, fun _ => rfl⟩
  | @ran _ there _ _ hprep _ hcourse hstay =>
    rw [hprep] at hcwd
    exact ⟨there, hcwd ▸ hcourse.map_eq_take, fun h => (hstay h).trans hcwd⟩

end Way

/-- The exchanges `es` brought a run of `request` from `w` to an ending: there are none after a
preparation that failed, and otherwise they follow the plan. -/
def Brought (p : Pipeline) (request : Request) (w : World σ) (es : List Exchange)
    (ending : Ending) : Prop :=
  (es = [] ∧ ∃ failure, ending = .failed .validate [] none failure) ∨
    ∃ there, Course (p.plan request w.cwd there) es ∧ endingAfter [] es = .ok ending

/-- Steps that came to an ending: preparation failed, or exchanges followed the plan. -/
theorem steps_of_ending {w w' : World σ} {ending : Ending}
    (h : steps p runner request w = (.ok ending, w')) :
    ∃ es, Performed runner p.passes (prepare request.source request.output w).2 es w' ∧
      Brought p request w es ending := by
  have hcwd := prepare_cwd request.source request.output w
  obtain ⟨es, ended, v, hsteps, hway⟩ := steps_way p runner request w
  obtain ⟨hending, rfl⟩ := Prod.mk.inj (hsteps.symm.trans h)
  cases hway with
  | unprepared => cases hending
  | refused hprep =>
    cases hending
    rw [hprep]
    exact ⟨[], .nil _, .inl ⟨rfl, _, rfl⟩⟩
  | lost => cases hending
  | strayed => cases hending
  | ran hprep hes hcourse =>
    rw [hprep] at hcwd ⊢
    exact ⟨es, hes, .inr ⟨_, hcwd ▸ hcourse, hending⟩⟩

/-! ## Execution -/

/-- The outcome of steps that ended so. -/
def outcomeOf (elapsed : Float) : Ending → Outcome
  | .passed results => { success := true, stage := .done, elapsed := elapsed, results := results }
  | .failed step results evidence failure =>
    { success := false
      stage := .failed
      elapsed := elapsed
      results := results
      failedStep := some step
      failedResult := failedResult results evidence failure
      failure := some failure.raised }

/-- What is said of a run that passed in `ms` milliseconds. -/
def successRecord (ms : Int) : Record :=
  progress ("cmake compilation finished successfully in " ++ toString ms ++ " millisecond(s).")

/-- How a run ends whose steps ended so after `elapsed` seconds, and its last record for the caller.
A run that passed is over only when its time has whole milliseconds. -/
def conclusion (elapsed : Float) : Except Raised Ending → Except Raised Outcome × List Record
  | .error raised => (.error raised, [])
  | .ok (.failed step results evidence failure) =>
    (.ok (outcomeOf elapsed (.failed step results evidence failure)),
      [failureRecord failure.error])
  | .ok (.passed results) =>
    match milliseconds elapsed with
    | .ok ms => (.ok (outcomeOf elapsed (.passed results)), [successRecord ms])
    | .error fault => (.error (.ofFault fault), [])

/-- The last record is one for the caller. -/
theorem filter_conclusion (elapsed : Float) (ending : Except Raised Ending) :
    (conclusion elapsed ending).2.filter (·.logger == .caller) = (conclusion elapsed ending).2 := by
  unfold conclusion
  split
  · rfl
  · rfl
  · split <;> rfl

theorem conclusion_of_ok {elapsed : Float} {ms : Int} (ending : Ending)
    (h : milliseconds elapsed = .ok ms) :
    (conclusion elapsed (.ok ending)).1 = .ok (outcomeOf elapsed ending) := by
  cases ending with
  | passed results =>
    unfold conclusion
    rw [h]
  | failed => rfl

theorem stepsOrOutcome_of_error {p : Pipeline} {runner : Runner σ} {request : Request}
    {started : Float} {w w₁ : World σ} {raised : Raised}
    (h : steps p runner request w = (.error raised, w₁)) :
    stepsOrOutcome p runner request started w = (.error raised, w₁) := by
  unfold stepsOrOutcome
  rw [bind_of_error h]

theorem stepsOrOutcome_of_passed {p : Pipeline} {runner : Runner σ} {request : Request}
    {started : Float} {w w₁ : World σ} {results : List CommandResult}
    (h : steps p runner request w = (.ok (.passed results), w₁)) :
    stepsOrOutcome p runner request started w = (.ok (.ok results), w₁) := by
  unfold stepsOrOutcome
  rw [bind_of_ok h]
  rfl

theorem stepsOrOutcome_of_failed {p : Pipeline} {runner : Runner σ} {request : Request}
    {started : Float} {w w₁ : World σ} {step : Step} {results : List CommandResult}
    {evidence : Option CommandResult} {failure : Failure}
    (h : steps p runner request w = (.ok (.failed step results evidence failure), w₁)) :
    stepsOrOutcome p runner request started w =
      (.ok (.error (outcomeOf (w₁.now - started) (.failed step results evidence failure))),
        ((w₁.entered .failed step.label).logged [failureRecord failure.error]).ticked) := by
  unfold stepsOrOutcome
  rw [bind_of_ok h]
  rfl

/-- The span around a run whose clock was read at `started`. -/
def spanned (p : Pipeline) (runner : Runner σ) (request : Request) (started : Float) :
    Action σ (Except Outcome (List CommandResult)) :=
  inSpan "cmakebuild.pipeline" [("target", .text (request.target.getD ""))] fun _ =>
    stepsOrOutcome p runner request started

/-- The world in which the span is opened. -/
def begun (w : World σ) : World σ := { w.ticked with stage := .validating }

theorem execute_of_error {p : Pipeline} {runner : Runner σ} {request : Request} {w v : World σ}
    {raised : Raised} (h : spanned p runner request w.now (begun w) = (.error raised, v)) :
    execute p runner request w = (.error raised, v) := by
  unfold execute
  rw [readBuildClock_bind, change_bind]
  exact bind_of_error h

theorem execute_of_failed {p : Pipeline} {runner : Runner σ} {request : Request} {w v : World σ}
    {outcome : Outcome}
    (h : spanned p runner request w.now (begun w) = (.ok (.error outcome), v)) :
    execute p runner request w = (.ok outcome, v) := by
  unfold execute
  rw [readBuildClock_bind, change_bind]
  exact bind_of_ok h

/-- The end of a run that passed: one more reading of the clock, and the last record. -/
theorem execute_of_passed {p : Pipeline} {runner : Runner σ} {request : Request} {w v : World σ}
    {results : List CommandResult}
    (h : spanned p runner request w.now (begun w) = (.ok (.ok results), v)) :
    execute p runner request w =
      ((conclusion (v.now - w.now) (.ok (.passed results))).1,
        (v.entered .done "").ticked.logged
          (conclusion (v.now - w.now) (.ok (.passed results))).2) := by
  unfold execute
  rw [readBuildClock_bind, change_bind]
  refine (bind_of_ok h).trans ?_
  dsimp only
  rw [bind_of_ok (enter_apply _ _ v), readBuildClock_bind]
  change (ofFault (milliseconds (v.now - w.now)) >>= _) _ = _
  unfold conclusion
  cases hms : milliseconds (v.now - w.now) with
  | error fault =>
    rw [ofFault_error, raise_bind]
    exact congrArg _ (World.logged_nil _).symm
  | ok ms => rfl

/-- What a run does after its steps ended so in `w`: nothing but tracing when something was raised, the
last stage and the record of a failure, or the last stage and the last record of a run that passed. -/
inductive Closes (started : Float) (w : World σ) : Except Raised Ending → World σ → Prop
  | escaped {raised : Raised} {w' : World σ} (ht : Traced w w') :
      Closes started w (.error raised) w'
  | failed {step : Step} {results : List CommandResult} {evidence : Option CommandResult}
      {failure : Failure} {w' : World σ}
      (ht : Traced ((w.entered .failed step.label).logged [failureRecord failure.error]).ticked w') :
      Closes started w (.ok (.failed step results evidence failure)) w'
  | passed {results : List CommandResult} {v : World σ} (ht : Traced w v) :
      Closes started w (.ok (.passed results))
        ((v.entered .done "").ticked.logged (conclusion (w.now - started) (.ok (.passed results))).2)

namespace Closes

variable {started : Float} {w w' : World σ} {ending : Except Raised Ending}

theorem beside (h : Closes started w ending w') : w.Beside w' := by
  cases h with
  | escaped ht => exact .of_traced ht
  | failed ht =>
    exact (((World.Beside.entered w _ _).trans (.logged _ _)).trans (.ticked _)).trans (.of_traced ht)
  | passed ht =>
    exact (((World.Beside.of_traced ht).trans (.entered _ _ _)).trans (.ticked _)).trans
      (.logged _ _)

theorem callerLog (h : Closes started w ending w') :
    w'.callerLog = w.callerLog ++ (conclusion (w.now - started) ending).2 := by
  cases h with
  | escaped ht => exact ht.callerLog.trans (List.append_nil _).symm
  | failed ht =>
    rw [ht.callerLog, World.callerLog_ticked, World.callerLog_logged, World.callerLog_entered]
    rfl
  | passed ht =>
    rw [World.callerLog_logged, World.callerLog_ticked, World.callerLog_entered, ht.callerLog,
      filter_conclusion]

end Closes

/-- The world in which the steps of a run begin. -/
def underway (request : Request) (w : World σ) : World σ :=
  (begun w).opened "cmakebuild.pipeline" [("target", .text (request.target.getD ""))]

/-- A run is its steps in the world with the span opened, and what a run does after them. The span is
closed by how the steps ended. -/
theorem execute_eq (p : Pipeline) (runner : Runner σ) (request : Request) (w : World σ) :
    ∃ w₁ w' ending, steps p runner request (underway request w) = (ending, w₁) ∧
      Closes w.now w₁ ending w' ∧
      w'.tracing = (w₁.closed (begun w).takesSpan (leaving ending)).tracing ∧
      execute p runner request w = ((conclusion (w₁.now - w.now) ending).1, w') := by
  have hspan {ended : Except Raised (Except Outcome (List CommandResult))} {v : World σ}
      (h : stepsOrOutcome p runner request w.now (underway request w) = (ended, v)) :
      spanned p runner request w.now (begun w) =
        (ended, v.closed (begun w).takesSpan (leaving ended)) := by
    unfold spanned
    rw [inSpan_eq]
    unfold underway at h
    rw [h]
  rcases hsteps : steps p runner request (underway request w) with
    ⟨raised | ⟨results⟩ | ⟨step, results, evidence, failure⟩, w₁⟩
  · have hclosed := hspan (stepsOrOutcome_of_error hsteps)
    exact ⟨w₁, _, _, rfl, .escaped (traced_closed _ _ _), rfl, execute_of_error hclosed⟩
  · obtain ⟨v, hv⟩ : ∃ v, w₁.closed (begun w).takesSpan none = v := ⟨_, rfl⟩
    have ht : Traced w₁ v := hv ▸ traced_closed w₁ _ _
    have hclosed : spanned p runner request w.now (begun w) = (.ok (.ok results), v) :=
      hv ▸ hspan (stepsOrOutcome_of_passed hsteps)
    -- tracing does not read the clock, so the reading that ends the run is the one after the steps
    have hnow : v.now = w₁.now := congrArg (fun c => c.reading c.ticks) ht.buildClock
    have hend := execute_of_passed hclosed
    have htracing : v.tracing = (w₁.closed (begun w).takesSpan none).tracing := by rw [hv]
    rw [hnow] at hend
    exact ⟨w₁, _, _, rfl, .passed ht, htracing, hend⟩
  · have hclosed := hspan (stepsOrOutcome_of_failed hsteps)
    refine ⟨w₁, _, _, rfl, .failed (traced_closed _ _ _), ?_, execute_of_failed hclosed⟩
    unfold World.closed
    split <;> rfl

/-- A run is its steps in a world that tracing was made ready in, and what a run does after them. -/
theorem execute_closes (p : Pipeline) (runner : Runner σ) (request : Request) (w : World σ) :
    ∃ w₀ w₁ w' ending, Traced (begun w) w₀ ∧ steps p runner request w₀ = (ending, w₁) ∧
      Closes w.now w₁ ending w' ∧
      execute p runner request w = ((conclusion (w₁.now - w.now) ending).1, w') := by
  obtain ⟨w₁, w', ending, hsteps, hcloses, -, hexecute⟩ := execute_eq p runner request w
  exact ⟨_, w₁, w', ending, traced_opened _ _ _, hsteps, hcloses, hexecute⟩

/-- Until the steps of a run there is nothing but bookkeeping. -/
theorem beside_begun {w w₀ : World σ} (h : Traced (begun w) w₀) : w.Beside w₀ := by
  have hbegun : w.Beside (begun w) := ⟨rfl, rfl, rfl, rfl, rfl, rfl, rfl, rfl, rfl⟩
  exact hbegun.trans (.of_traced h)

/-- A run is its steps between bookkeeping, and its conclusion. -/
theorem execute_apply (p : Pipeline) (runner : Runner σ) (request : Request) (w : World σ) :
    ∃ w₀ w₁ w' ending, w.Beside w₀ ∧ w₀.callerLog = w.callerLog ∧
      w₀.buildClock = w.ticked.buildClock ∧ steps p runner request w₀ = (ending, w₁) ∧
      w₁.Beside w' ∧ execute p runner request w = ((conclusion (w₁.now - w.now) ending).1, w') ∧
      w'.callerLog = w₁.callerLog ++ (conclusion (w₁.now - w.now) ending).2 := by
  obtain ⟨w₀, w₁, w', ending, ht, hsteps, hcloses, hexecute⟩ := execute_closes p runner request w
  exact ⟨w₀, w₁, w', ending, beside_begun ht, ht.callerLog, ht.buildClock, hsteps, hcloses.beside,
    hexecute, hcloses.callerLog⟩

/-- A run goes one of the ways, in a world that tracing was made ready in. -/
theorem execute_way (p : Pipeline) (runner : Runner σ) (request : Request) (w : World σ) :
    ∃ w₀ w₁ w' es ending, Traced (begun w) w₀ ∧ Way p runner request w₀ es ending w₁ ∧
      Closes w.now w₁ ending w' ∧
      execute p runner request w = ((conclusion (w₁.now - w.now) ending).1, w') := by
  obtain ⟨w₀, w₁, w', ending, ht, hsteps, hcloses, hexecute⟩ := execute_closes p runner request w
  obtain ⟨es, ended, v, hran, hway⟩ := steps_way p runner request w₀
  obtain ⟨rfl, rfl⟩ := Prod.mk.inj (hsteps.symm.trans hran)
  exact ⟨w₀, w₁, w', es, ending, ht, hway, hcloses, hexecute⟩

/-- The time of a run has whole milliseconds if its clock keeps to them. -/
theorem Way.elapsed {w₀ w₁ : World σ} {es : List Exchange} {ending : Except Raised Ending}
    (h : Way p runner request w₀ es ending w₁) (hkeeps : runner.KeepsClock)
    (hclock : w.buildClock.InMilliseconds) (ht : Traced (begun w) w₀) :
    ∃ ms, milliseconds (w₁.now - w.now) = .ok ms := by
  have hreading : w₁.buildClock.reading = w.buildClock.reading := by
    rw [h.reading hkeeps, ht.buildClock]
    rfl
  unfold World.now
  rw [hreading]
  exact hclock _ _

/-- A run that returned an outcome: an opening, exchanges, none of them after a preparation that
failed, and an outcome and a last record that tell how they ended. -/
theorem execute_of_outcome {w w' : World σ} {outcome : Outcome}
    (h : execute p runner request w = (.ok outcome, w')) :
    ∃ opening v w₁ es ending elapsed,
      (opening = [] ∨ opening = [madeRecord request.output]) ∧ Opened opening w v ∧
      Performed runner p.passes v es w₁ ∧ w₁.Beside w' ∧ Brought p request w es ending ∧
      (conclusion elapsed (.ok ending)).1 = .ok outcome ∧
      w'.callerLog = w₁.callerLog ++ (conclusion elapsed (.ok ending)).2 := by
  obtain ⟨w₀, w₁, v, ended, hb₀, hc₀, -, hsteps, hb₁, hexecute, hlog⟩ :=
    execute_apply p runner request w
  rw [h] at hexecute
  obtain ⟨hconclusion, rfl⟩ := Prod.mk.inj hexecute
  cases ended with
  | error raised => cases hconclusion
  | ok ending =>
    obtain ⟨es, hes, hbrought⟩ := steps_of_ending hsteps
    obtain ⟨opening, hopening, hopened⟩ :=
      prepare_opened hb₀ hc₀ request.source request.output
    unfold Brought at hbrought
    rw [hb₀.cwd] at hbrought
    exact ⟨opening, _, w₁, es, ending, _, hopening, hopened, hes, hb₁, hbrought,
      hconclusion.symm, hlog⟩

namespace Brought

variable {w : World σ} {es : List Exchange} {ending : Ending}

theorem follows_plan (h : Brought p request w es ending) :
    ∃ there, es.map (fun e => (e.step, e.spec)) = (p.plan request w.cwd there).take es.length := by
  rcases h with ⟨rfl, -⟩ | ⟨there, hcourse, -⟩
  · exact ⟨w.cwd, rfl⟩
  · exact ⟨there, hcourse.map_eq_take⟩

/-- No exchange of a run that came to an ending raised a fault. -/
theorem settled (h : Brought p request w es ending) :
    ∀ e ∈ es, ∃ failure?, e.verdict = .ok failure? := by
  rcases h with ⟨rfl, -⟩ | ⟨there, hcourse, hend⟩
  · simp
  · cases ending with
    | passed all => exact fun e he => ⟨_, (endingAfter_passed hend).1 e he⟩
    | failed step all evidence failure =>
      obtain ⟨before, last, rfl, hbefore, hlast, -⟩ := endingAfter_failed hcourse hend
      intro e he
      rcases List.mem_append.mp he with hb | hl
      · exact ⟨_, hbefore e hb⟩
      · rw [List.mem_singleton.mp hl]
        exact ⟨_, hlast⟩

/-- The results of a run are the records that its exchanges left. -/
theorem results (h : Brought p request w es ending) (elapsed : Float) :
    (outcomeOf elapsed ending).results = es.filterMap Exchange.evidence := by
  rcases h with ⟨rfl, failure, rfl⟩ | ⟨there, hcourse, hend⟩
  · rfl
  · cases ending with
    | passed all => exact (endingAfter_passed hend).2
    | failed step all evidence failure =>
      obtain ⟨before, last, -, -, -, -, -, hall⟩ := endingAfter_failed hcourse hend
      exact hall

end Brought

/-- What a conclusion raises was raised by the steps, or the time of a run that passed has no whole
milliseconds. -/
theorem conclusion_raises {elapsed : Float} {ending : Except Raised Ending} {raised : Raised}
    (h : (conclusion elapsed ending).1 = .error raised) :
    ending = .error raised ∨ ∃ results fault, ending = .ok (.passed results) ∧
      milliseconds elapsed = .error fault ∧ raised = .ofFault fault := by
  unfold conclusion at h
  split at h
  · cases h
    exact .inl rfl
  · cases h
  · split at h
    · cases h
    · next hms =>
      cases h
      exact .inr ⟨_, _, rfl, hms, rfl⟩

/-- The outcome of a conclusion. -/
theorem eq_outcomeOf {elapsed : Float} {ending : Ending} {outcome : Outcome}
    (h : (conclusion elapsed (.ok ending)).1 = .ok outcome) :
    outcome = outcomeOf elapsed ending := by
  cases ending with
  | failed =>
    cases h
    rfl
  | passed results =>
    unfold conclusion at h
    split at h
    · cases h
    · next hfailed => cases hfailed
    · next results' hpassed =>
      cases hpassed
      split at h
      · cases h
        rfl
      · cases h

end Pipeline

end NativeBuild
