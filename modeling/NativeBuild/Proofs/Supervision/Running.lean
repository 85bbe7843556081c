import NativeBuild.Proofs.Supervision.Attendance

/-
  Running one command as a whole. `run_apply`: what a run answers is told by the working directory,
  the machine's answer to the start and, when a child was started, by the child (`answerOf`); what
  it leaves behind is at most one launch (`launchesOf`), and the files and the working directory as
  the program left them. The pipeline's books, its clock and the log of the caller are as before
  (`World.Ran`).
-/

namespace NativeBuild

variable {σ : Type}

/-- The second world comes from the first by launches, and by what programs do to the files. -/
structure World.Ran (launches : List Launched) (w w' : World σ) : Prop where
  platform : w'.platform = w.platform
  environment : w'.environment = w.environment
  buildClock : w'.buildClock = w.buildClock
  reading : w'.commandClock.reading = w.commandClock.reading
  stage : w'.stage = w.stage
  issued : w'.issued = w.issued
  answers : w'.answers = w.answers
  launched : w'.launched = w.launched ++ launches
  callerLog : w'.callerLog = w.callerLog

theorem World.Ran.of_aside {w w' : World σ} (h : w.Aside w') : World.Ran [] w w' :=
  ⟨h.platform, h.environment, h.buildClock, h.reading, h.stage, h.issued, h.answers,
    h.launched.trans (List.append_nil _).symm, h.callerLog⟩

theorem World.Ran.trans {before after : List Launched} {w₁ w₂ w₃ : World σ}
    (h : World.Ran before w₁ w₂) (h' : World.Ran after w₂ w₃) :
    World.Ran (before ++ after) w₁ w₃ :=
  ⟨h'.platform.trans h.platform, h'.environment.trans h.environment,
    h'.buildClock.trans h.buildClock, h'.reading.trans h.reading, h'.stage.trans h.stage,
    h'.issued.trans h.issued, h'.answers.trans h.answers,
    by rw [h'.launched, h.launched, List.append_assoc], h'.callerLog.trans h.callerLog⟩

namespace Supervision

open NativeBuild.Action

/-- The machine's answer to the start of a command. -/
def startedBy (host : Host σ) (spec : CommandSpec) (w : World σ) : Except Problem Child :=
  (host w.environment (launchOf w spec) w.files w.tools).1

/-- What is raised for a program that could not be started. -/
def startFailure (spec : CommandSpec) : Problem → Raised
  | .fault (.system error) => .chained (.launch spec.arguments error) (.fault (.system error))
  | problem => ⟨problem, none⟩

/-- The seconds from the next reading of the clock to the one after it. -/
def durationIn (w : World σ) : Float :=
  w.commandClock.reading (w.commandClock.ticks + 1) - w.commandNow

/-- A result only counts when it took a whole number of milliseconds. -/
def measured : Except Raised CommandResult → Except Raised CommandResult
  | .ok result =>
    match result.elapsed with
    | .ok _ => .ok result
    | .error fault => .error (.ofFault fault)
  | .error raised => .error raised

/-- What the start of a command comes to. -/
def attemptOf (host : Host σ) (spec : CommandSpec) (w : World σ) : Except Raised CommandResult :=
  match startedBy host spec w with
  | .ok child => comesTo spec child (durationIn w)
  | .error problem => .error (startFailure spec problem)

/-- The answer of a run. -/
def answerOf (host : Host σ) (spec : CommandSpec) (w : World σ) : Except Raised CommandResult :=
  match directoryError w spec with
  | some error => .error (.chained (.launch spec.arguments error) (.fault (.system error)))
  | none => measured (attemptOf host spec w)

/-- The launch of a command with all that is known of its process in the end. -/
def launchedBy (host : Host σ) (spec : CommandSpec) (w : World σ) : Launched :=
  ⟨launchOf w spec, (startedBy host spec w).toOption.map attended⟩

/-- The launches of a run: none when the working directory cannot be used. -/
def launchesOf (host : Host σ) (spec : CommandSpec) (w : World σ) : List Launched :=
  match directoryError w spec with
  | some _ => []
  | none => [launchedBy host spec w]

/-! ## Starting -/

/-- The world in which a machine has answered a launch. -/
def launching (w : World σ) (launch : Launch) (started : Except Problem Child) (files : FileTree)
    (tools : σ) : World σ :=
  { w with
    files := files
    cwd := files.follow w.files w.cwd
    tools := tools
    launched := w.launched ++ [⟨launch, started.toOption.map fresh⟩] }

theorem start_apply {host : Host σ} {spec : CommandSpec} {w : World σ}
    {started : Except Problem Child} {files : FileTree} {tools : σ}
    (h : host w.environment (launchOf w spec) w.files w.tools = (started, files, tools)) :
    start host spec w = (.ok started, launching w (launchOf w spec) started files tools) := by
  unfold start
  dsimp only
  rw [h]
  rfl

theorem ran_launching (w : World σ) (launch : Launch) (started : Except Problem Child)
    (files : FileTree) (tools : σ) :
    World.Ran [⟨launch, started.toOption.map fresh⟩] w (launching w launch started files tools) :=
  ⟨rfl, rfl, rfl, rfl, rfl, rfl, rfl, rfl, rfl⟩

/-- What is known of the process of a launch is replaced by what is known in the end. -/
theorem ran_remembered {before : List Launched} {launch : Launched} {w w' : World σ}
    (h : World.Ran (before ++ [launch]) w w') (p : Supervised) :
    World.Ran (before ++ [{ launch with process := some p }]) w (w'.remembered p) :=
  ⟨h.platform, h.environment, h.buildClock, h.reading, h.stage, h.issued, h.answers,
    by
      change recallLast w'.launched p = _
      rw [h.launched, ← List.append_assoc, recallLast_append, List.append_assoc],
    h.callerLog⟩

/-- Starting a command and attending to its child. -/
theorem startAndAttend_apply (host : Host σ) (spec : CommandSpec) (w : World σ) :
    ∃ w', startAndAttend host spec w = (attemptOf host spec w, w') ∧
      World.Ran [launchedBy host spec w] w w' := by
  obtain ⟨started, files, tools, hhost⟩ : ∃ started files tools,
      host w.environment (launchOf w spec) w.files w.tools = (started, files, tools) :=
    ⟨_, _, _, rfl⟩
  have hstart : start host spec w.commandTicked = (.ok started, launching w.commandTicked
    (launchOf w spec) started files tools) := start_apply hhost
  obtain ⟨v, hv⟩ : ∃ v, launching w.commandTicked (launchOf w spec) started files tools = v :=
    ⟨_, rfl⟩
  have hstarted : startedBy host spec w = started := congrArg Prod.fst hhost
  have hran : World.Ran [⟨launchOf w spec, started.toOption.map fresh⟩] w v := by
    rw [← hv]
    exact (World.Ran.of_aside (.commandTicked w)).trans (ran_launching _ _ _ _ _)
  have hnow : v.commandNow - w.commandNow = durationIn w := by
    rw [← hv]
    rfl
  rw [hv] at hstart
  unfold startAndAttend attemptOf launchedBy
  rw [readCommandClock_bind, hstarted, bind_of_ok hstart]
  cases started with
  | ok child =>
    refine ⟨_, Prod.ext ?_ rfl, ?_⟩
    · rw [← hnow]
      exact attend_apply spec child w.commandNow v
    · have hfresh : World.Ran ([] ++ [⟨launchOf w spec, some (fresh child)⟩]) w v := hran
      have hframe := attend_frame spec child w.commandNow v
      exact (ran_remembered hfresh (attended child)).trans (.of_aside hframe)
  | error problem =>
    have hraised : ∀ records : List Record, records.filter (·.logger == .caller) = [] →
        World.Ran [⟨launchOf w spec, none⟩] w (v.logged records) := fun records hrecords =>
      hran.trans (.of_aside (World.Aside.logged v hrecords))
    have hsilent := hraised [] rfl
    rw [World.logged_nil] at hsilent
    cases problem with
    | error e => exact ⟨v, rfl, hsilent⟩
    | fault f =>
      cases f with
      | system error =>
        exact ⟨_, rfl, hraised [⟨.supervision, .debug, "Exception for " ++ spec.commandLine⟩] rfl⟩
      | _ => exact ⟨v, rfl, hsilent⟩

/-! ## Running -/

/-- A command whose directory cannot be used is not started. -/
theorem run_of_misplaced {host : Host σ} {spec : CommandSpec} {w : World σ} {error : SystemError}
    (h : directoryError w spec = some error) :
    run host spec w =
      (.error (.chained (.launch spec.arguments error) (.fault (.system error))), w) := by
  have hcheck : checkDirectory spec w =
      (.error (.chained (.launch spec.arguments error) (.fault (.system error))), w) := by
    unfold checkDirectory
    rw [look_bind, h]
    rfl
  unfold run
  rw [bind_of_error hcheck]

/-- The body of the span around a run: the code of the child becomes an attribute. -/
def attributed (host : Host σ) (spec : CommandSpec) (active : Bool) : Action σ CommandResult := do
  let result ← startAndAttend host spec
  setAttribute active "returncode" (.integer result.returnCode)
  pure result

theorem attributed_apply (host : Host σ) (spec : CommandSpec) (active : Bool) (w : World σ) :
    ∃ w', attributed host spec active w = (attemptOf host spec w, w') ∧
      World.Ran [launchedBy host spec w] w w' := by
  obtain ⟨v, hv, hran⟩ := startAndAttend_apply host spec w
  unfold attributed
  cases hattempt : attemptOf host spec w with
  | error raised =>
    rw [hattempt] at hv
    exact ⟨v, bind_of_error hv, hran⟩
  | ok result =>
    rw [hattempt] at hv
    rw [bind_of_ok hv]
    unfold setAttribute
    cases active with
    | false => exact ⟨v, rfl, hran⟩
    | true => exact ⟨_, rfl, hran.trans (.of_aside (.of_traced (.of_tracing v _)))⟩

/-- The span around a run. -/
def spannedRun (host : Host σ) (spec : CommandSpec) : Action σ CommandResult :=
  inSpan "cmakebuild.run" [("program", .text spec.program)] (attributed host spec)

/-- Tracing does not tell in what a run comes to. -/
theorem spannedRun_apply (host : Host σ) (spec : CommandSpec) (w : World σ) :
    ∃ w', spannedRun host spec w = (attemptOf host spec w, w') ∧
      World.Ran [launchedBy host spec w] w w' := by
  obtain ⟨active, w₀, v, ending, ht₀, hbody, hend, ht₁⟩ := inSpan_apply "cmakebuild.run"
    [("program", .text spec.program)] (attributed host spec) w
  obtain ⟨v', hv', hran⟩ := attributed_apply host spec active w₀
  obtain ⟨rfl, rfl⟩ := Prod.mk.inj (hbody.symm.trans hv')
  have hafter := ((World.Ran.of_aside (.of_traced ht₀)).trans hran).trans
    (.of_aside (.of_traced ht₁))
  obtain ⟨tracing, records, rfl, -⟩ := ht₀
  exact ⟨_, Prod.ext hend rfl, hafter⟩

theorem checkDirectory_of_placed {spec : CommandSpec} {w : World σ}
    (h : directoryError w spec = none) : checkDirectory spec w = (.ok (), w) := by
  unfold checkDirectory
  rw [look_bind, h]
  rfl

/-- A command whose directory can be used. -/
theorem run_of_placed {host : Host σ} {spec : CommandSpec} {w : World σ}
    (h : directoryError w spec = none) :
    ∃ w', run host spec w = (measured (attemptOf host spec w), w') ∧
      World.Ran [launchedBy host spec w] w w' := by
  obtain ⟨v, hv, hran⟩ := spannedRun_apply host spec (w.logged [⟨.supervision, .debug,
    "Running " ++ spec.commandLine ++ " in " ++ spec.directory.toString⟩])
  have hlogged := (World.Ran.of_aside (World.Aside.logged w rfl)).trans hran
  unfold run
  rw [bind_of_ok (checkDirectory_of_placed h), note_bind]
  change ∃ w', (spannedRun host spec >>= _) _ = _ ∧ _
  change spannedRun host spec _ = (attemptOf host spec w, v) at hv
  cases hattempt : attemptOf host spec w with
  | error raised =>
    rw [hattempt] at hv
    exact ⟨v, bind_of_error hv, hlogged⟩
  | ok result =>
    rw [hattempt] at hv
    rw [bind_of_ok hv]
    unfold measured
    dsimp only
    cases result.elapsed with
    | error fault => exact ⟨v, rfl, hlogged⟩
    | ok ms => exact ⟨_, rfl, hlogged.trans (.of_aside (World.Aside.logged v rfl))⟩

/-- Running a command comes to its answer and leaves its launches. -/
theorem run_apply (host : Host σ) (spec : CommandSpec) (w : World σ) :
    ∃ w', run host spec w = (answerOf host spec w, w') ∧
      World.Ran (launchesOf host spec w) w w' := by
  unfold answerOf launchesOf
  cases hdirectory : directoryError w spec with
  | some error => exact ⟨w, run_of_misplaced hdirectory, .of_aside (.refl w)⟩
  | none => exact run_of_placed hdirectory

theorem run_eq_answerOf (host : Host σ) (spec : CommandSpec) (w : World σ) :
    (run host spec w).1 = answerOf host spec w := by
  obtain ⟨w', hrun, -⟩ := run_apply host spec w
  rw [hrun]

theorem ran_run (host : Host σ) (spec : CommandSpec) (w : World σ) :
    World.Ran (launchesOf host spec w) w (run host spec w).2 := by
  obtain ⟨w', hrun, hran⟩ := run_apply host spec w
  rw [hrun]
  exact hran

end Supervision

end NativeBuild
