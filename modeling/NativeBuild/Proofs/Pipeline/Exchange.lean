import NativeBuild.Pipeline.Run
import NativeBuild.Proofs.Action

/-
  Exchanges of a pipeline with its runner. An exchange is a step, the command handed out for it and
  the answer of the runner; all that the pipeline makes of it is read off the answer: the lines that
  are replayed (`replayed`), the record kept for the results (`evidence`), whether the run goes on
  (`verdict`) and the caller's records before and after the call (`heading`, `closing`).
  `compile_eq_perform` and `configure_apply`: both kinds of steps do exactly this.
-/

namespace NativeBuild

variable {σ : Type}

/-! ## Lines and records -/

/-- All lines of a record, standard output first. -/
def CommandResult.lines (r : CommandResult) : List String := r.streams.flatMap (·.lines)

/-- The lines of standard error, none when it was merged. -/
def CommandResult.errorLines (r : CommandResult) : List String :=
  r.stderr.toList.flatMap (·.lines)

theorem CommandResult.lines_eq (r : CommandResult) :
    r.lines = r.stdout.lines ++ r.errorLines := by
  simp [lines, errorLines, streams]

namespace Pipeline

/-- A record of progress. -/
def progress (message : String) : Record := ⟨.caller, .info, message⟩

/-- A captured line in the caller's log. -/
def warning (line : String) : Record := ⟨.caller, .warning, line⟩

/-- The failure of a run in the caller's log. -/
def failureRecord (e : BuildError) : Record := ⟨.caller, .error, e.message⟩

/-- The records in front of a call. -/
def heading (passes : Nat) (step : Step) (spec : CommandSpec) : List Record :=
  match step with
  | .compilePass number =>
    [progress ("Running " ++ spec.commandLine ++ " (pass " ++ toString number ++ " of " ++
      toString passes ++ ")")]
  | _ =>
    [progress ("Running " ++ spec.commandLine),
      progress ("with extra environment variables " ++ spec.overlay.render)]

/-- The tool of a step, as its failure names it. -/
def toolOf : Step → String
  | .compilePass _ => "make"
  | _ => "CMake"

/-- What is said of a step that passed after `ms` milliseconds. -/
def finishText (step : Step) (ms : Int) : String :=
  match step with
  | .compilePass number =>
    "make pass " ++ toString number ++ " finished in " ++ toString ms ++ " millisecond(s)"
  | _ => "cmake finished in " ++ toString ms ++ " millisecond(s)"

end Pipeline

/-! ## Answers -/

/-- The record that an answer leaves: that of the process, also of one that was cut short. -/
def recordOf : Except Raised CommandResult → Option CommandResult
  | .ok result => some result
  | .error ⟨.error (.execution _ result?), _⟩ => result?
  | .error _ => none

/-- A call that returned a result with code 0. -/
def returnedZero : Except Raised CommandResult → Bool
  | .ok result => result.ok
  | .error _ => false

/-- A call that ended in the record of a process that took a whole number of milliseconds, or in an
error of the build. -/
def Settled : Except Raised CommandResult → Prop
  | .ok result => ∃ ms, result.elapsed = .ok ms
  | .error raised => ∃ e, raised.problem = .error e

/-- The lines that are replayed of a result. A configure command that passed stays quiet and one
that failed shows its standard output; a compile command always shows its standard error, after
standard output when it failed. -/
def shown (step : Step) (result : CommandResult) : List String :=
  match step, result.ok with
  | .compilePass _, true => result.errorLines
  | .compilePass _, false => result.stdout.lines ++ result.errorLines
  | _, true => []
  | _, false => result.stdout.lines

/-- The lines that are replayed of a command that was cut short. -/
def captured : Raised → List String
  | ⟨.error (.execution _ (some result)), _⟩ => result.stdout.lines ++ result.errorLines
  | _ => []

open Pipeline

/-- One command of a run: the step it stands for, the command and the answer of the runner. -/
structure Exchange where
  step : Step
  spec : CommandSpec
  answer : Except Raised CommandResult

namespace Exchange

/-- The record that goes into the results. -/
def evidence (e : Exchange) : Option CommandResult := recordOf e.answer

/-- The lines that are replayed as warnings. -/
def replayed (e : Exchange) : List String :=
  match e.answer with
  | .ok result => shown e.step result
  | .error raised => captured raised

/-- What the command means for the run: it goes on, it fails, or something else is raised. -/
def verdict (e : Exchange) : Except Raised (Option Failure) :=
  match e.answer with
  | .ok result =>
    if result.ok then
      match result.elapsed with
      | .ok _ => .ok none
      | .error fault => .error (.ofFault fault)
    else .ok (some ⟨.toolFailure (toolOf e.step) result, none⟩)
  | .error raised =>
    match raised.split with
    | .ok failure => .ok (some failure)
    | .error _ => .error raised

/-- The record of a step that passed. -/
def finish (e : Exchange) : List Record :=
  match e.answer with
  | .ok result =>
    match result.ok, result.elapsed with
    | true, .ok ms => [progress (finishText e.step ms)]
    | _, _ => []
  | .error _ => []

/-- The caller's records after the call: what is replayed, and the end of a step that passed. -/
def closing (e : Exchange) : List Record := e.replayed.map warning ++ e.finish

/-- All records of an exchange in the caller's log. -/
def records (passes : Nat) (e : Exchange) : List Record :=
  heading passes e.step e.spec ++ e.closing

variable {step : Step} {spec : CommandSpec} {result : CommandResult}

theorem verdict_failure (step : Step) (spec : CommandSpec) (e : BuildError)
    (cause : Option Problem) :
    (Exchange.mk step spec (.error ⟨.error e, cause⟩)).verdict = .ok (some ⟨e, cause⟩) := rfl

theorem verdict_fault (step : Step) (spec : CommandSpec) (f : Fault) (cause : Option Problem) :
    (Exchange.mk step spec (.error ⟨.fault f, cause⟩)).verdict = .error ⟨.fault f, cause⟩ := rfl

theorem verdict_nonzero (h : result.ok = false) :
    (Exchange.mk step spec (.ok result)).verdict =
      .ok (some ⟨.toolFailure (toolOf step) result, none⟩) := by
  simp [verdict, h]

theorem verdict_zero (h : result.ok = true) :
    (Exchange.mk step spec (.ok result)).verdict =
      match result.elapsed with
      | .ok _ => .ok none
      | .error fault => .error (.ofFault fault) := by
  simp [verdict, h]

/-- An exchange raises nothing but faults. -/
theorem fault_of_raised {e : Exchange} {raised : Raised} (h : e.verdict = .error raised) :
    ∃ fault cause, raised = ⟨.fault fault, cause⟩ := by
  obtain ⟨step, spec, answer⟩ := e
  cases answer with
  | error given =>
    obtain ⟨error | fault, cause⟩ := given
    · rw [verdict_failure] at h
      cases h
    · rw [verdict_fault] at h
      cases h
      exact ⟨fault, cause, rfl⟩
  | ok result =>
    cases hok : result.ok with
    | false =>
      rw [verdict_nonzero hok] at h
      cases h
    | true =>
      rw [verdict_zero hok] at h
      split at h
      · cases h
      · next fault _ =>
        cases h
        exact ⟨fault, none, rfl⟩

/-- A settled call raises no fault, and the run goes on if it returned code 0. -/
theorem verdict_of_settled {e : Exchange} (h : Settled e.answer) :
    (∃ failure?, e.verdict = .ok failure?) ∧
      (returnedZero e.answer = true → e.verdict = .ok none) := by
  obtain ⟨step, spec, answer⟩ := e
  cases answer with
  | error raised =>
    obtain ⟨problem, cause⟩ := raised
    obtain ⟨error, rfl⟩ := h
    exact ⟨⟨_, verdict_failure step spec error cause⟩, fun hzero => by cases hzero⟩
  | ok result =>
    obtain ⟨ms, hms⟩ := h
    cases hok : result.ok with
    | false => exact ⟨⟨_, verdict_nonzero hok⟩, fun hzero => by simp [returnedZero, hok] at hzero⟩
    | true =>
      have hv : (Exchange.mk step spec (.ok result)).verdict = .ok none := by
        rw [verdict_zero hok, hms]
      exact ⟨⟨_, hv⟩, fun _ => hv⟩

theorem closing_raised (step : Step) (spec : CommandSpec) (raised : Raised) :
    (Exchange.mk step spec (.error raised)).closing =
      (captured raised).map warning := by
  simp [closing, finish, replayed]

theorem closing_nonzero (h : result.ok = false) :
    (Exchange.mk step spec (.ok result)).closing =
      (shown step result).map warning := by
  simp [closing, finish, replayed, h]

theorem closing_zero (h : result.ok = true) :
    (Exchange.mk step spec (.ok result)).closing =
      (shown step result).map warning ++
        match result.elapsed with
        | .ok ms => [progress (finishText step ms)]
        | .error _ => [] := by
  cases he : result.elapsed <;> simp [closing, finish, replayed, h, he]

end Exchange

/-! ## Steps of a run -/

namespace Pipeline

open NativeBuild.Action

theorem replay_apply (output : CapturedOutput) (w : World σ) :
    replay output w = (.ok (), w.logged (output.lines.map warning)) := rfl

theorem replayAll_apply (outputs : List CapturedOutput) (w : World σ) :
    replayAll outputs w =
      (.ok (), w.logged ((outputs.flatMap (·.lines)).map warning)) := by
  induction outputs generalizing w with
  | nil => simp [replayAll, World.logged_nil]
  | cons output rest ih =>
    unfold replayAll
    rw [bind_of_ok (replay_apply output w), ih, World.logged_logged]
    simp

/-- Hands a command to the runner for a step, with the records around the call. -/
def perform (runner : Runner σ) (passes : Nat) (step : Step) (spec : CommandSpec) :
    Action σ StepReport := fun w =>
  let asked := runner spec ((w.logged (heading passes step spec)).issuing spec)
  let e : Exchange := ⟨step, spec, asked.1⟩
  (e.verdict.map (StepReport.mk e.evidence), (asked.2.answered asked.1).logged e.closing)

/-- A call that returned a result. -/
theorem issue_of_ok {runner : Runner σ} {spec : CommandSpec} {w w' : World σ}
    {result : CommandResult} (h : runner spec (w.issuing spec) = (.ok result, w')) :
    issue runner spec w = (.ok ⟨some result, .ok result⟩, w'.answered (.ok result)) := by
  unfold issue
  rw [change_bind, attempt_bind, change_bind, show runner spec _ = _ from h]
  rfl

/-- A call that raised an error of the build. What it had captured is replayed. -/
theorem issue_of_failure {runner : Runner σ} {spec : CommandSpec} {w w' : World σ} {e : BuildError}
    {cause : Option Problem} (h : runner spec (w.issuing spec) = (.error ⟨.error e, cause⟩, w')) :
    issue runner spec w =
      (.ok ⟨recordOf (.error ⟨.error e, cause⟩), .error ⟨e, cause⟩⟩,
        (w'.answered (.error ⟨.error e, cause⟩)).logged
          ((captured ⟨.error e, cause⟩).map warning)) := by
  unfold issue
  rw [change_bind, attempt_bind, change_bind, show runner spec _ = _ from h]
  cases e with
  | execution text result? =>
    cases result? with
    | none => simp [Raised.split, recordOf, captured, World.logged_nil]
    | some result =>
      simp only [Raised.split]
      rw [bind_of_ok (replayAll_apply _ _), ← CommandResult.lines, CommandResult.lines_eq]
      rfl
  | _ => simp [Raised.split, recordOf, captured, World.logged_nil]

/-- A call that raised anything else. -/
theorem issue_of_fault {runner : Runner σ} {spec : CommandSpec} {w w' : World σ} {f : Fault}
    {cause : Option Problem} (h : runner spec (w.issuing spec) = (.error ⟨.fault f, cause⟩, w')) :
    issue runner spec w =
      (.error ⟨.fault f, cause⟩, w'.answered (.error ⟨.fault f, cause⟩)) := by
  unfold issue
  rw [change_bind, attempt_bind, change_bind, show runner spec _ = _ from h]
  rfl

theorem perform_apply {runner : Runner σ} {passes : Nat} {step : Step} {spec : CommandSpec}
    {w w' : World σ} {answer : Except Raised CommandResult}
    (h : runner spec ((w.logged (heading passes step spec)).issuing spec) = (answer, w')) :
    perform runner passes step spec w =
      ((Exchange.mk step spec answer).verdict.map (StepReport.mk (recordOf answer)),
        (w'.answered answer).logged (Exchange.mk step spec answer).closing) := by
  unfold perform
  rw [h]
  rfl

/-- A compile step is its command handed to the runner. -/
theorem compile_eq_perform (p : Pipeline) (runner : Runner σ) (spec : CommandSpec) (number : Nat) :
    compile p runner spec number = perform runner p.passes (.compilePass number) spec := by
  funext w
  unfold compile inform
  rw [note_bind]
  change (issue runner spec >>= _) (w.logged (heading p.passes (.compilePass number) spec)) = _
  rcases h : runner spec ((w.logged (heading p.passes (.compilePass number) spec)).issuing spec)
    with ⟨⟨⟨e | f, cause⟩⟩ | result, w'⟩
  · rw [perform_apply h, bind_of_ok (issue_of_failure h), Exchange.closing_raised]
    rfl
  · rw [perform_apply h, bind_of_error (issue_of_fault h), Exchange.closing_raised]
    exact congrArg _ (World.logged_nil _).symm
  · rw [perform_apply h, bind_of_ok (issue_of_ok h)]
    dsimp only
    cases hok : result.ok with
    | false =>
      rw [if_neg (by simp), bind_of_ok (replayAll_apply _ _), ← CommandResult.lines,
        CommandResult.lines_eq, Exchange.closing_nonzero hok, Exchange.verdict_nonzero hok]
      simp only [shown, hok]
      rfl
    | true =>
      rw [if_pos rfl, bind_of_ok (replayAll_apply _ _), ← CommandResult.errorLines,
        Exchange.closing_zero hok, Exchange.verdict_zero hok]
      simp only [shown, hok]
      cases he : result.elapsed with
      | error fault =>
        rw [ofFault_error, raise_bind, List.append_nil]
        rfl
      | ok ms =>
        rw [ofFault_ok, pure_bind_run, note_bind, World.logged_logged]
        rfl

/-- Without a place for paths to start there is no configure command. -/
theorem configure_of_lost {p : Pipeline} {runner : Runner σ} {request : Request} {w : World σ}
    {fault : Fault} (hbase : w.base [request.source, request.output] = .error fault) :
    configure p runner request w = (.error (.ofFault fault), w) := by
  unfold configure
  rw [bind_assoc_run, look_bind, hbase, ofFault_error, raise_bind]

/-- The configure step is its command handed to the runner, once paths have a place to start. -/
theorem configure_apply {p : Pipeline} {runner : Runner σ} {request : Request} {w : World σ}
    {here : Path} (hbase : w.base [request.source, request.output] = .ok here) :
    configure p runner request w =
      perform runner p.passes .configure
        (p.tools.configureCommand here request.source request.output request.definitions
          request.environment) w := by
  unfold configure inform
  rw [bind_assoc_run, look_bind, hbase, ofFault_ok, pure_bind_run]
  generalize hspec : p.tools.configureCommand here request.source request.output
    request.definitions request.environment = spec
  have henv : request.environment = spec.overlay := by rw [← hspec]; rfl
  rw [note_bind, note_bind, World.logged_logged, henv]
  change (issue runner spec >>= _) (w.logged (heading p.passes .configure spec)) = _
  rcases h : runner spec ((w.logged (heading p.passes .configure spec)).issuing spec)
    with ⟨⟨⟨e | f, cause⟩⟩ | result, w'⟩
  · rw [perform_apply h, bind_of_ok (issue_of_failure h), Exchange.closing_raised]
    rfl
  · rw [perform_apply h, bind_of_error (issue_of_fault h), Exchange.closing_raised]
    exact congrArg _ (World.logged_nil _).symm
  · rw [perform_apply h, bind_of_ok (issue_of_ok h)]
    dsimp only
    cases hok : result.ok with
    | false =>
      rw [if_neg (by simp), bind_of_ok (replay_apply _ _), Exchange.closing_nonzero hok,
        Exchange.verdict_nonzero hok]
      simp only [shown, hok]
      rfl
    | true =>
      rw [if_pos rfl, Exchange.closing_zero hok, Exchange.verdict_zero hok]
      simp only [shown, hok]
      cases he : result.elapsed with
      | error fault =>
        rw [ofFault_error, raise_bind]
        exact congrArg _ (World.logged_nil _).symm
      | ok ms =>
        rw [ofFault_ok, pure_bind_run, note_bind]
        rfl

end Pipeline

end NativeBuild
