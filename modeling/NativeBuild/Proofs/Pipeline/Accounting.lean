import NativeBuild.Proofs.Pipeline.Replay
import NativeBuild.Proofs.Supervision.Record

/-
  Whole runs of the pipeline with the supervision as their runner. Each exchange
  has the launches that it made (`Accounted`), so the results of a run are the records of the
  processes that were started, one for each and in the order of their start, and the warnings of a
  run are told by the streams of the children alone (`due`). Nothing of a configure command that
  fails is lost although only its standard output is replayed, because its launch merges standard
  error into it.
-/

namespace NativeBuild

variable {σ : Type}

open Supervision

/-! ## The supervision as a runner -/

namespace Supervision

theorem keepsBooks_run (host : Host σ) : Runner.KeepsBooks (run host) :=
  ⟨fun spec w => (ran_run host spec w).issued, fun spec w => (ran_run host spec w).answers⟩

theorem keepsCallerLog_run (host : Host σ) : Runner.KeepsCallerLog (run host) :=
  fun spec w => (ran_run host spec w).callerLog

end Supervision

/-- A machine that starts programs or gives an error of the system, whose children exit or are
interrupted while they are waited for, and whose streams end or break off. -/
def Host.Ordinary (host : Host σ) : Prop :=
  ∀ environment launch files tools, match (host environment launch files tools).1 with
    | .ok child => (∀ problem, child.wait = .error problem → problem.isInterruption = true) ∧
        StreamsEnd child
    | .error problem => ∃ error, problem = .fault (.system error)

/-- The children of an ordinary machine. -/
theorem Host.Ordinary.of_started {host : Host σ} (hhost : host.Ordinary) {spec : CommandSpec}
    {w : World σ} {child : Child} (h : startedBy host spec w = .ok child) :
    (∀ problem, child.wait = .error problem → problem.isInterruption = true) ∧
      StreamsEnd child := by
  have hordinary := hhost w.environment (launchOf w spec) w.files w.tools
  rw [show (host w.environment (launchOf w spec) w.files w.tools).1 = .ok child from h] at hordinary
  exact hordinary

/-- What keeps an ordinary machine from starting a program. -/
theorem Host.Ordinary.of_unstarted {host : Host σ} (hhost : host.Ordinary) {spec : CommandSpec}
    {w : World σ} {problem : Problem} (h : startedBy host spec w = .error problem) :
    ∃ error, problem = .fault (.system error) := by
  have hordinary := hhost w.environment (launchOf w spec) w.files w.tools
  rw [show (host w.environment (launchOf w spec) w.files w.tools).1 = .error problem from h]
    at hordinary
  exact hordinary

/-! ## Accounts -/

/-- The lines to be replayed of a command, as its child wrote them: all that it had captured of one
that was cut short; nothing of a configure command that passed, and all of one that failed; standard
error of a pass, after standard output if it failed. -/
def due (e : Exchange) (child : Child) : List String :=
  match e.answer with
  | .error _ => capturedOf e.spec child 1 "stdout" child.stdout ++
      if e.spec.mergeStderr then [] else capturedOf e.spec child 2 "stderr" child.stderr
  | .ok result =>
    match e.step, result.ok with
    | .compilePass _, true => Text.linesOf child.stderr.bytes
    | .compilePass _, false => Text.linesOf child.stdout.bytes ++ Text.linesOf child.stderr.bytes
    | _, true => []
    | _, false => Text.linesOf child.stdout.bytes

/-- A result is the record of the process of a launch. -/
def Records (result : CommandResult) (launched : Launched) : Prop :=
  ∃ process, launched.process = some process ∧
    result.command = launched.launch.arguments ∧
    result.returnCode = codeOf process.child ∧
    (result.stderr = none ↔ launched.launch.merged = true)

/-- The launches of an exchange: one with a process, which left a record and the lines that are due,
or none with a process, and then there is no record and nothing to replay. -/
inductive Accounted (e : Exchange) : List Launched → Prop where
  | unstarted {launches : List Launched} : (∀ launched ∈ launches, launched.process = none) →
      e.evidence = none → e.replayed = [] → Accounted e launches
  | started {launch : Launch} {process : Supervised} {result : CommandResult} :
      launch.merged = (e.step == .configure) → e.evidence = some result →
      Records result ⟨launch, some process⟩ → e.replayed = due e process.child →
      Accounted e [⟨launch, some process⟩]

theorem Supervision.child_attended (child : Child) : (attended child).child = child := by
  unfold attended
  split
  · exact Supervised.child_terminate _
  · split
    · rw [Supervised.child_terminate, Supervised.child_terminate]
      rfl
    · rw [Supervised.child_terminate]
      rfl

/-- The lines of a child that nothing went wrong with are all that its streams hold. -/
theorem capturedOf_of_untroubled {spec : CommandSpec} {child : Child} (hstreams : StreamsEnd child)
    (h : troubleOf spec child = none) :
    capturedOf spec child 1 "stdout" child.stdout = Text.linesOf child.stdout.bytes ∧
      (spec.mergeStderr = false →
        capturedOf spec child 2 "stderr" child.stderr = Text.linesOf child.stderr.bytes) := by
  have hcause := cause_troubleOf spec hstreams
  rw [h] at hcause
  obtain ⟨-, hjoin, hstdout, hstderr⟩ := causeOf_eq_none_iff.mp hcause.symm
  unfold capturedOf
  rw [hjoin]
  refine ⟨Stream.lines_of_complete hstdout, fun hmerge => ?_⟩
  exact Stream.lines_of_complete (hstderr hmerge)

theorem records_recordFor (spec : CommandSpec) (child : Child) (duration : Float) (w : World σ) :
    Records (recordFor spec child duration) ⟨launchOf w spec, some (attended child)⟩ := by
  refine ⟨attended child, rfl, rfl, ?_, stderr_recordFor spec child duration⟩
  rw [child_attended]
  rfl

theorem errorLines_recordFor (spec : CommandSpec) (child : Child) (duration : Float) :
    (recordFor spec child duration).errorLines =
      if spec.mergeStderr then [] else capturedOf spec child 2 "stderr" child.stderr := by
  unfold CommandResult.errorLines recordFor
  cases spec.mergeStderr <;> simp [CapturedOutput.final]

/-- A child that was cut short: what it had captured is kept and replayed. -/
theorem accounted_of_trouble {e : Exchange} {child : Child} {duration : Float} {w : World σ}
    {text : String} {cause : Problem} (hmerge : e.spec.mergeStderr = (e.step == .configure))
    (hanswer : e.answer =
      .error (.chained (.execution text (some (recordFor e.spec child duration))) cause)) :
    Accounted e [⟨launchOf w e.spec, some (attended child)⟩] := by
  refine .started hmerge ?_ (records_recordFor e.spec child duration w) ?_
  · unfold Exchange.evidence
    rw [hanswer]
    rfl
  · unfold Exchange.replayed due
    rw [hanswer, child_attended]
    dsimp only [captured, Raised.chained]
    rw [errorLines_recordFor]
    rfl

/-- A child that ran to its end: its record is kept, and of its lines those that are due are
replayed. -/
theorem accounted_of_result {e : Exchange} {child : Child} {duration : Float} {w : World σ}
    (hmerge : e.spec.mergeStderr = (e.step == .configure)) (hstreams : StreamsEnd child)
    (htrouble : troubleOf e.spec child = none)
    (hanswer : e.answer = .ok (recordFor e.spec child duration)) :
    Accounted e [⟨launchOf w e.spec, some (attended child)⟩] := by
  obtain ⟨hout, herr⟩ := capturedOf_of_untroubled hstreams htrouble
  refine .started hmerge ?_ (records_recordFor e.spec child duration w) ?_
  · unfold Exchange.evidence
    rw [hanswer]
    rfl
  · unfold Exchange.replayed due
    rw [hanswer, child_attended]
    dsimp only
    have hstdout : (recordFor e.spec child duration).stdout.lines =
        Text.linesOf child.stdout.bytes := hout
    have hstderr : e.spec.mergeStderr = false →
        (recordFor e.spec child duration).errorLines = Text.linesOf child.stderr.bytes := by
      intro h
      rw [errorLines_recordFor, h]
      exact herr h
    unfold shown
    cases hstep : e.step with
    | compilePass number =>
      -- a pass does not merge, so its record has the lines of standard error
      have hseparate : e.spec.mergeStderr = false := by
        rw [hmerge, hstep]
        rfl
      cases (recordFor e.spec child duration).ok with
      | true => exact hstderr hseparate
      | false => exact congrArg₂ (· ++ ·) hstdout (hstderr hseparate)
    | _ =>
      cases (recordFor e.spec child duration).ok with
      | true => rfl
      | false => exact hstdout

/-- A result that a run goes on with was measured. -/
theorem answer_of_measured {e : Exchange} {result : CommandResult}
    (hanswer : e.answer = measured (.ok result)) (hsettled : ∃ failure?, e.verdict = .ok failure?) :
    e.answer = .ok result := by
  unfold measured at hanswer
  dsimp only at hanswer
  cases helapsed : result.elapsed with
  | ok ms =>
    rw [helapsed] at hanswer
    exact hanswer
  | error fault =>
    rw [helapsed] at hanswer
    obtain ⟨failure?, hverdict⟩ := hsettled
    unfold Exchange.verdict at hverdict
    rw [hanswer] at hverdict
    cases hverdict

/-- The launches of an exchange with the supervision. -/
theorem accounted_answerOf {host : Host σ} (hhost : host.Ordinary) {e : Exchange} {w : World σ}
    (hmerge : e.spec.mergeStderr = (e.step == .configure))
    (hanswer : e.answer = answerOf host e.spec w)
    (hsettled : ∃ failure?, e.verdict = .ok failure?) :
    Accounted e (launchesOf host e.spec w) := by
  unfold answerOf at hanswer
  unfold launchesOf
  cases hdirectory : directoryError w e.spec with
  | some error =>
    rw [hdirectory] at hanswer
    refine .unstarted (by simp) ?_ ?_
    · unfold Exchange.evidence
      rw [hanswer]
      rfl
    · unfold Exchange.replayed
      rw [hanswer]
      rfl
  | none =>
    rw [hdirectory] at hanswer
    unfold attemptOf at hanswer
    unfold launchedBy
    cases hstarted : startedBy host e.spec w with
    | error problem =>
      obtain ⟨error, rfl⟩ := hhost.of_unstarted hstarted
      rw [hstarted] at hanswer
      refine .unstarted (by simp [Except.toOption]) ?_ ?_
      · unfold Exchange.evidence
        rw [hanswer]
        rfl
      · unfold Exchange.replayed
        rw [hanswer]
        rfl
    | ok child =>
      obtain ⟨hwait, hstreams⟩ := hhost.of_started hstarted
      rw [hstarted] at hanswer
      dsimp only at hanswer
      rw [comesTo_eq hwait] at hanswer
      cases htrouble : troubleOf e.spec child with
      | some trouble =>
        rw [htrouble] at hanswer
        exact accounted_of_trouble hmerge hanswer
      | none =>
        rw [htrouble] at hanswer
        exact accounted_of_result hmerge hstreams htrouble (answer_of_measured hanswer hsettled)

/-! ## Runs -/

theorem Pipeline.mergeStderr_of_mem_plan {p : Pipeline} {request : Request} {here there : Location}
    {step : Step} {spec : CommandSpec} (h : (step, spec) ∈ p.plan request here there) :
    spec.mergeStderr = (step == .configure) := by
  unfold plan passPlan at h
  rcases List.mem_cons.mp h with heq | hpass
  · cases heq
    rfl
  · obtain ⟨number, -, heq⟩ := List.mem_map.mp hpass
    cases heq
    rfl

/-- An exchange with the supervision adds its launches. -/
theorem Exchange.Leads.accounted {host : Host σ} (hhost : host.Ordinary) {passes : Nat}
    {e : Exchange} {w w' : World σ} (h : e.Leads (run host) passes w w') :
    ∃ launches, w'.launched = w.launched ++ launches ∧
      (e.spec.mergeStderr = (e.step == .configure) ∧ (∃ failure?, e.verdict = .ok failure?) →
        Accounted e launches) := by
  obtain ⟨a, hrun, hran⟩ := run_apply host e.spec (e.asked passes w)
  have hanswer := h.answer_eq
  have hworld := h.eq_settled
  rw [hrun] at hanswer hworld
  refine ⟨launchesOf host e.spec (e.asked passes w), ?_, ?_⟩
  · rw [hworld]
    exact hran.launched
  · rintro ⟨hmerge, hsettled⟩
    exact accounted_answerOf hhost hmerge hanswer hsettled

/-- The records of the exchanges are those of the processes that were started. -/
theorem records_of_accounted {es : List Exchange} {launches : List (List Launched)}
    (h : List.Forall₂ Accounted es launches) :
    List.Forall₂ Records (es.filterMap (·.evidence))
      (launches.flatten.filter (·.process.isSome)) := by
  induction h with
  | nil => exact .nil
  | @cons e parts es launches hhead _ ih =>
    rw [List.flatten_cons, List.filter_append]
    cases hhead with
    | unstarted hnone hevidence _ =>
      have hparts : parts.filter (·.process.isSome) = [] := by
        rw [List.filter_eq_nil_iff]
        intro launched hmem
        simp [hnone launched hmem]
      rw [List.filterMap_cons_none hevidence, hparts]
      exact ih
    | started _ hevidence hrecords _ =>
      rw [List.filterMap_cons_some hevidence]
      exact .cons hrecords ih

namespace Pipeline

/-- The exchanges of a run that came to an ending all have their accounts. -/
theorem Brought.accounted {p : Pipeline} {host : Host σ} (hhost : host.Ordinary) {request : Request}
    {w v v' : World σ} {es : List Exchange} {ending : Ending}
    (hbrought : Brought p request w es ending)
    (hes : Performed (Supervision.run host) p.passes v es v') :
    ∃ launches, v'.launched = v.launched ++ launches.flatten ∧
      List.Forall₂ Accounted es launches := by
  obtain ⟨there, hplan⟩ := hbrought.follows_plan
  have hmerge : ∀ e ∈ es, e.spec.mergeStderr = (e.step == .configure) := by
    intro e he
    have hmem : (e.step, e.spec) ∈ es.map fun e => (e.step, e.spec) := List.mem_map_of_mem he
    rw [hplan] at hmem
    exact mergeStderr_of_mem_plan (List.mem_of_mem_take hmem)
  obtain ⟨launches, hlaunched, hparts⟩ :=
    hes.appends fun _ _ _ hlead => Exchange.Leads.accounted hhost hlead
  have hpremises := fun e he => And.intro (hmerge e he) (hbrought.settled e he)
  exact ⟨launches, hlaunched, ((List.forall₂_and_left _ _).mpr ⟨hpremises, hparts⟩).imp
    fun e part ⟨hpremise, haccount⟩ => haccount hpremise⟩

/-- The accounts of a run of the pipeline with the supervision. -/
theorem execute_accounts {p : Pipeline} {host : Host σ} {request : Request} {w w' : World σ}
    {outcome : Outcome} (hhost : host.Ordinary)
    (h : execute p (Supervision.run host) request w = (.ok outcome, w')) :
    ∃ (es : List Exchange) (launches : List (List Launched)) (there : Location)
      (added : List Record),
      es.map (fun e => (e.step, e.spec)) = (p.plan request w.cwd there).take es.length ∧
      w'.answers = w.answers ++ es.map (·.answer) ∧
      w'.launched = w.launched ++ launches.flatten ∧
      List.Forall₂ Accounted es launches ∧
      List.Forall₂ Records outcome.results (launches.flatten.filter (·.process.isSome)) ∧
      w'.callerLog = w.callerLog ++ added ∧
      added.filter (·.level == .warning) = (es.flatMap (·.replayed)).map warning := by
  obtain ⟨opening, v, w₁, es, ending, elapsed, hopening, hopened, hes, hb₁, hbrought, hend, hlast⟩ :=
    execute_of_outcome h
  obtain ⟨last, hlasts, htells⟩ := conclusion_tells hend
  obtain ⟨there, hplan⟩ := hbrought.follows_plan
  obtain ⟨launches, hlaunched, haccounted⟩ := hbrought.accounted hhost hes
  have hanswers : w'.answers = w.answers ++ es.map (·.answer) := by
    rw [hb₁.answers, hes.answers (keepsBooks_run host), hopened.answers]
  have hlaunches : w'.launched = w.launched ++ launches.flatten := by
    rw [hb₁.launched, hlaunched, hopened.launched]
  have hresults : outcome.results = es.filterMap (·.evidence) := by
    rw [eq_outcomeOf hend]
    exact hbrought.results elapsed
  have hcaller : w'.callerLog =
      w.callerLog ++ (opening ++ es.flatMap (·.records p.passes) ++ [last]) := by
    rw [hlast, hlasts, hes.callerLog (keepsCallerLog_run host), hopened.callerLog]
    simp only [List.append_assoc]
  exact ⟨es, launches, there, _, hplan, hanswers, hlaunches, haccounted,
    hresults ▸ records_of_accounted haccounted, hcaller,
    warnings_of_run p.passes hopening htells⟩

/-- A child that writes to both streams, and exits with code 2 if it is `make`. -/
def chattyChild (launch : Launch) : Child where
  pid := 7
  wait := .ok (if launch.arguments.head? = some "make" then 2 else 0)
  poll := fun _ => none
  reap := fun _ => none
  stdout := { bytes := [111, 110, 101, 10, 116, 119, 111, 10] }
  stderr := { bytes := [98, 97, 100, 10] }

/-- A machine whose programs are all chatty. -/
def chattyHost : Host Unit := fun _ launch files tools => (.ok (chattyChild launch), files, tools)

theorem ordinary_chattyHost : chattyHost.Ordinary := by
  intro environment launch files tools
  refine ⟨fun problem hproblem => ?_, fun problem hproblem => ?_, fun problem hproblem => ?_⟩ <;>
    cases hproblem

theorem execute_accounts_chatty :
    ∃ outcome w', execute ⟨{}, 4, 2⟩ (Supervision.run chattyHost) sampleRequest sampleWorld =
      (.ok outcome, w') ∧
      ∃ (es : List Exchange) (launches : List (List Launched)),
        w'.launched = launches.flatten ∧ List.Forall₂ Accounted es launches ∧
        List.Forall₂ Records outcome.results (launches.flatten.filter (·.process.isSome)) := by
  have hreturns : (execute ⟨{}, 4, 2⟩ (Supervision.run chattyHost) sampleRequest
      sampleWorld).1.toOption.isSome = true := by decide +kernel
  rcases h : execute ⟨{}, 4, 2⟩ (Supervision.run chattyHost) sampleRequest sampleWorld with
    ⟨raised | outcome, w'⟩
  · rw [h] at hreturns
    cases hreturns
  · obtain ⟨es, launches, there, added, -, -, hlaunched, haccounted, hrecords, -⟩ :=
      execute_accounts ordinary_chattyHost h
    exact ⟨outcome, w', rfl, es, launches, hlaunched, haccounted, hrecords⟩

end Pipeline

end NativeBuild
