import NativeBuild.Proofs.Action
import NativeBuild.Supervision.Run

/-
  Attending to a child that was started. What a child comes to is told by the child alone: its code
  (`codeOf`), the lines that its readers have captured (`capturedOf`), the record made of them
  (`recordFor`) and what went wrong, if anything (`troubleOf`). `attend_apply`: the supervision
  returns or raises just what these say (`comesTo`). `attend_frame`: apart from its own clock, logs
  and tracing it touches nothing but what is known of the child (`World.Aside`, `attended`).
-/

namespace NativeBuild

variable {σ : Type}

/-! ## Worlds -/

/-- What is known of the last launch is replaced. -/
def recallLast (launched : List Launched) (p : Supervised) : List Launched :=
  match launched.getLast? with
  | some last => launched.dropLast ++ [{ last with process := some p }]
  | none => launched

theorem recallLast_append (before : List Launched) (last : Launched) (p : Supervised) :
    recallLast (before ++ [last]) p = before ++ [{ last with process := some p }] := by
  simp [recallLast]

theorem recallLast_recallLast (launched : List Launched) (p p' : Supervised) :
    recallLast (recallLast launched p) p' = recallLast launched p' := by
  cases h : launched.getLast? with
  | none => simp [recallLast, h]
  | some last =>
    have hp : recallLast launched p = launched.dropLast ++ [{ last with process := some p }] := by
      simp [recallLast, h]
    rw [hp, recallLast_append]
    simp [recallLast, h]

namespace World

/-- The world in which this much is known of the process that was started last. -/
def remembered (w : World σ) (p : Supervised) : World σ :=
  { w with launched := recallLast w.launched p }

theorem remembered_remembered (w : World σ) (p p' : Supervised) :
    (w.remembered p).remembered p' = w.remembered p' := by
  simp [remembered, recallLast_recallLast]

/-- The second world is the first but for tracing, the supervision's clock and records outside the
log of the caller. -/
structure Aside (w w' : World σ) : Prop where
  files : w'.files = w.files
  cwd : w'.cwd = w.cwd
  platform : w'.platform = w.platform
  environment : w'.environment = w.environment
  buildClock : w'.buildClock = w.buildClock
  reading : w'.commandClock.reading = w.commandClock.reading
  stage : w'.stage = w.stage
  issued : w'.issued = w.issued
  answers : w'.answers = w.answers
  launched : w'.launched = w.launched
  tools : w'.tools = w.tools
  callerLog : w'.callerLog = w.callerLog

namespace Aside

theorem refl (w : World σ) : w.Aside w :=
  ⟨rfl, rfl, rfl, rfl, rfl, rfl, rfl, rfl, rfl, rfl, rfl, rfl⟩

theorem trans {w₁ w₂ w₃ : World σ} (h : w₁.Aside w₂) (h' : w₂.Aside w₃) : w₁.Aside w₃ :=
  ⟨h'.files.trans h.files, h'.cwd.trans h.cwd, h'.platform.trans h.platform,
    h'.environment.trans h.environment, h'.buildClock.trans h.buildClock,
    h'.reading.trans h.reading, h'.stage.trans h.stage, h'.issued.trans h.issued,
    h'.answers.trans h.answers, h'.launched.trans h.launched, h'.tools.trans h.tools,
    h'.callerLog.trans h.callerLog⟩

theorem of_traced {w w' : World σ} (h : Action.Traced w w') : w.Aside w' := by
  have hlog := h.callerLog
  obtain ⟨tracing, records, rfl, -⟩ := h
  exact ⟨rfl, rfl, rfl, rfl, rfl, rfl, rfl, rfl, rfl, rfl, rfl, hlog⟩

theorem commandTicked (w : World σ) : w.Aside w.commandTicked :=
  ⟨rfl, rfl, rfl, rfl, rfl, rfl, rfl, rfl, rfl, rfl, rfl, rfl⟩

/-- Records in other logs are not the caller's. -/
theorem logged (w : World σ) {records : List Record}
    (h : records.filter (·.logger == .caller) = []) : w.Aside (w.logged records) := by
  refine ⟨rfl, rfl, rfl, rfl, rfl, rfl, rfl, rfl, rfl, rfl, rfl, ?_⟩
  rw [callerLog_logged, h, List.append_nil]

/-- What is known of a process may be replaced after anything else as well as before. -/
theorem remembered {w w' : World σ} (h : w.Aside w') (p : Supervised) :
    (w.remembered p).Aside (w'.remembered p) :=
  ⟨h.files, h.cwd, h.platform, h.environment, h.buildClock, h.reading, h.stage, h.issued, h.answers,
    congrArg (recallLast · p) h.launched, h.tools, h.callerLog⟩

end Aside

end World

/-! ## What a child comes to -/

theorem Supervised.child_poll (p : Supervised) : p.poll.child = p.child := by
  unfold poll
  split <;> rfl

theorem Supervised.child_terminate (p : Supervised) : p.terminate.2.child = p.child := by
  unfold terminate
  split
  · exact p.child_poll
  · exact p.child_poll

namespace Supervision

open NativeBuild.Action

/-- A child as it is when the supervision gets it. -/
def fresh (child : Child) : Supervised := ⟨child, none, []⟩

/-- What is known of a child when the supervision is done with it. -/
def attended (child : Child) : Supervised :=
  match child.wait with
  | .ok code => ((fresh child).waited code).terminate.2
  | .error problem =>
    if problem.isInterruption then (fresh child).terminate.2.terminate.2
    else (fresh child).terminate.2

/-- The code of a child: the one waited for, else the one that a poll finds, else the one that is
known once the child was killed, else -1. -/
def codeOf (child : Child) : Int :=
  match child.wait with
  | .ok code => code
  | .error _ => (child.poll 0 <|> child.reap 1).getD (-1)

/-- The reader at which the joining of all readers is interrupted. -/
def interruptedJoin (spec : CommandSpec) (child : Child) : Option Nat :=
  child.joinInterrupted.filter fun k => 1 ≤ k && k ≤ (streamsOf spec child).length

/-- The lines that a reader has captured by the time of the record: all of its stream, or as many as
it got before a join was interrupted that is not later than its own. -/
def capturedOf (spec : CommandSpec) (child : Child) (number : Nat) (name : String)
    (stream : Stream) : List String :=
  match interruptedJoin spec child with
  | some k =>
    if k ≤ number then stream.lines.take (stream.lines.length - child.behind name) else stream.lines
  | none => stream.lines

/-- The record of a child. -/
def recordFor (spec : CommandSpec) (child : Child) (duration : Float) : CommandResult where
  command := spec.arguments
  returnCode := codeOf child
  stdout := .final "stdout" (capturedOf spec child 1 "stdout" child.stdout)
  stderr := if spec.mergeStderr then none
    else some (.final "stderr" (capturedOf spec child 2 "stderr" child.stderr))
  duration := duration

/-- What goes wrong while the readers are joined, in words, and why. -/
def readTrouble (spec : CommandSpec) (child : Child) : Option (String × Problem) :=
  match interruptedJoin spec child with
  | some _ =>
    some ("Interrupted while joining output readers of " ++ spec.program, .fault (.interrupt ""))
  | none => (firstProblem (readAll spec child)).map fun (name, problem) =>
    ("Error reading " ++ name ++ " of " ++ spec.program, problem)

/-- What goes wrong while a child is waited for. -/
def waitTrouble (spec : CommandSpec) (child : Child) : Option (String × Problem) :=
  match child.wait with
  | .ok _ => none
  | .error problem =>
    some ("Interrupted while waiting for " ++ spec.program ++ " process", problem)

/-- What goes wrong with a child. What happens while the readers are joined comes before a wait that
was interrupted earlier. -/
def troubleOf (spec : CommandSpec) (child : Child) : Option (String × Problem) :=
  readTrouble spec child <|> waitTrouble spec child

/-- A record by itself, or in the error that says what went wrong. -/
def endingOf (result : CommandResult) : Option (String × Problem) → Except Raised CommandResult
  | none => .ok result
  | some (text, cause) => .error (.chained (.execution text (some result)) cause)

/-- What attending to a child comes to that took `duration` seconds. -/
def comesTo (spec : CommandSpec) (child : Child) (duration : Float) :
    Except Raised CommandResult :=
  match child.wait with
  | .ok _ => endingOf (recordFor spec child duration) (troubleOf spec child)
  | .error problem =>
    if problem.isInterruption then endingOf (recordFor spec child duration) (troubleOf spec child)
    else .error ⟨problem, none⟩

/-! ## Joining the readers -/

theorem joinInterrupted_eq (spec : CommandSpec) (child : Child) :
    joinInterrupted child (readAll spec child) = (interruptedJoin spec child).isSome := by
  unfold joinInterrupted interruptedJoin
  have hlength : (readAll spec child).length = (streamsOf spec child).length := by
    simp [readAll]
  rw [hlength]
  cases child.joinInterrupted with
  | none => rfl
  | some k =>
    rw [Option.filter_some]
    cases hin : (decide (1 ≤ k) && decide (k ≤ (streamsOf spec child).length)) with
    | false => simpa using hin
    | true => simpa using hin

/-- The record when all readers could be joined. -/
theorem record_of_joined {spec : CommandSpec} {child : Child} {code? : Option Int} {p : Supervised}
    (h : interruptedJoin spec child = none) (hcode : (code? <|> p.exit).getD (-1) = codeOf child)
    (duration : Float) :
    record spec (readAll spec child) code? p duration = recordFor spec child duration := by
  unfold record recordFor capturedOf
  rw [h, hcode]
  cases hmerge : spec.mergeStderr <;> simp [readAll, streamsOf, hmerge, outputOf, Stream.drain,
    CapturedOutput.final, CapturedOutput.snapshot]

/-- The record when a join was interrupted. -/
theorem record_of_interrupted {spec : CommandSpec} {child : Child} {code? : Option Int}
    {p : Supervised} {k : Nat} (h : interruptedJoin spec child = some k)
    (hcode : (code? <|> p.exit).getD (-1) = codeOf child) (duration : Float) :
    record spec (readersAtInterrupt child (readAll spec child)) code? p duration =
      recordFor spec child duration := by
  obtain ⟨hjoin, hk⟩ := Option.filter_eq_some_iff.mp h
  unfold record recordFor capturedOf readersAtInterrupt
  rw [h, hcode, hjoin]
  obtain ⟨hpos, hle⟩ : 1 ≤ k ∧ k ≤ (streamsOf spec child).length := by simpa using hk
  -- with merged streams there is one reader to be interrupted, and otherwise there are two
  cases hmerge : spec.mergeStderr with
  | true =>
    have : k = 1 := by
      simp [streamsOf, hmerge] at hle
      omega
    subst this
    simp [readAll, streamsOf, hmerge, outputOf, Stream.drain, Drained.lagging,
      CapturedOutput.final, CapturedOutput.snapshot, CapturedOutput.opened]
  | false =>
    have : k = 1 ∨ k = 2 := by
      simp [streamsOf, hmerge] at hle
      omega
    rcases this with rfl | rfl <;>
      simp [readAll, streamsOf, hmerge, outputOf, Stream.drain, Drained.lagging,
        CapturedOutput.final, CapturedOutput.snapshot, CapturedOutput.opened]

/-- Joining the readers of a child ends in its record, or in what went wrong with the record. -/
theorem collect_apply (spec : CommandSpec) {child : Child} {code? : Option Int} {p : Supervised}
    (hchild : p.child = child) (hcode : (code? <|> p.exit).getD (-1) = codeOf child)
    (started : Float) (w : World σ) :
    collect spec started (readAll spec child) code? p w =
      (endingOf (recordFor spec child (w.commandNow - started)) (readTrouble spec child),
        w.commandTicked) := by
  unfold collect readTrouble
  rw [hchild, joinInterrupted_eq]
  rw [readCommandClock_bind]
  cases h : interruptedJoin spec child with
  | some k =>
    dsimp only
    rw [record_of_interrupted h hcode]
    rfl
  | none =>
    dsimp only
    rw [record_of_joined h hcode]
    cases firstProblem (readAll spec child) <;> rfl

/-! ## Attending -/

/-- What is said of a child that has to be killed. -/
def killRecords (spec : CommandSpec) (p : Supervised) : List Record :=
  if p.terminate.1 then
    [⟨.supervision, .debug, "killing " ++ Text.quotedList spec.arguments ++ " (pid " ++
      toString p.child.pid ++ ")"⟩]
  else []

theorem remember_apply (p : Supervised) (w : World σ) :
    remember p w = (.ok (), w.remembered p) := by
  unfold remember World.remembered recallLast change
  dsimp only
  cases w.launched.getLast? <;> rfl

/-- The world once a child is gone. -/
def terminated (spec : CommandSpec) (p : Supervised) (w : World σ) : World σ :=
  (w.logged (killRecords spec p)).remembered p.terminate.2

theorem terminate_apply (spec : CommandSpec) (p : Supervised) (w : World σ) :
    terminate spec p w = (.ok p.terminate.2, terminated spec p w) := by
  unfold terminated
  unfold terminate killRecords
  rcases hp : p.terminate with ⟨killed, p'⟩
  have hchild : p'.child = p.child := by
    rw [← p.child_terminate, hp]
  dsimp only
  cases killed with
  | false =>
    rw [if_neg (by simp), if_neg (by simp), World.logged_nil]
    exact bind_of_ok (remember_apply p' w)
  | true =>
    rw [if_pos rfl, if_pos rfl, hchild, note_bind]
    exact bind_of_ok (remember_apply p' _)

theorem aside_terminated (spec : CommandSpec) (p : Supervised) (w : World σ) :
    (w.remembered p.terminate.2).Aside (terminated spec p w) := by
  refine (World.Aside.logged w ?_).remembered _
  unfold killRecords
  split <;> rfl

/-- Whatever an action ends in, the child is gone after it. -/
theorem terminate_after {α : Type} {x : Action σ α} {ending : Except Raised α} {w w' : World σ}
    (h : x w = (ending, w')) (spec : CommandSpec) (p : Supervised) :
    (attempt x >>= fun ending => terminate spec p >>= fun _ => conclude ending) w =
      (ending, terminated spec p w') := by
  rw [attempt_bind, h, bind_of_ok (terminate_apply spec p w'), conclude_apply]

theorem exit_terminate_fresh (child : Child) :
    (fresh child).terminate.2.exit = (child.poll 0 <|> child.reap 1) := by
  cases h : child.poll 0 with
  | some code => simp [Supervised.terminate, Supervised.poll, Supervised.kills, fresh, h]
  | none =>
    simp [Supervised.terminate, Supervised.poll, Supervised.kill, Supervised.kills, fresh, h]

/-- The world in which the readers of a child have said what they could not read. -/
def drained (spec : CommandSpec) (child : Child) (w : World σ) : World σ :=
  w.logged (readerRecords (readAll spec child))

theorem aside_drained (spec : CommandSpec) (child : Child) (w : World σ) :
    w.Aside (drained spec child w) := by
  refine World.Aside.logged w ?_
  rw [List.filter_eq_nil_iff]
  intro record hmem
  obtain ⟨reader, -, herror⟩ := List.mem_filterMap.mp hmem
  obtain ⟨problem, -, rfl⟩ := Option.map_eq_some_iff.mp herror
  simp

/-- A child that exits. -/
theorem attend_of_exit {spec : CommandSpec} {child : Child} {code : Int}
    (hwait : child.wait = .ok code) (started : Float) (w : World σ) :
    attend spec started child w =
      (endingOf (recordFor spec child (w.commandNow - started)) (troubleOf spec child),
        terminated spec ((fresh child).waited code) (drained spec child w).commandTicked) := by
  have hcode : ((some code <|> ((fresh child).waited code).exit).getD (-1)) = codeOf child := by
    simp [codeOf, hwait]
  have htrouble : troubleOf spec child = readTrouble spec child := by
    simp [troubleOf, waitTrouble, hwait]
  unfold attend
  dsimp only
  rw [write_bind, hwait, htrouble]
  exact terminate_after (collect_apply spec rfl hcode started (drained spec child w)) _ _

/-- Joining the readers after a wait that was interrupted. -/
theorem collect_interrupted {spec : CommandSpec} {child : Child} {problem : Problem}
    {p : Supervised} (hwait : child.wait = .error problem) (hchild : p.child = child)
    (hexit : p.exit = (child.poll 0 <|> child.reap 1)) (started : Float) (w : World σ) :
    (collect spec started (readAll spec child) none p >>= fun result =>
      raise (.chained (.execution ("Interrupted while waiting for " ++ spec.program ++ " process")
        (some result)) problem) : Action σ CommandResult) w =
      (endingOf (recordFor spec child (w.commandNow - started)) (troubleOf spec child),
        w.commandTicked) := by
  have hcode : (none <|> p.exit).getD (-1) = codeOf child := by
    simp [codeOf, hwait, hexit]
  have hcollect := collect_apply spec hchild hcode started w
  unfold troubleOf waitTrouble
  rw [hwait]
  cases h : readTrouble spec child with
  | none =>
    rw [h] at hcollect
    exact bind_of_ok hcollect
  | some trouble =>
    rw [h] at hcollect
    exact bind_of_error hcollect

/-- A child whose wait is interrupted is killed unless it is gone already. -/
theorem attend_of_interruption {spec : CommandSpec} {child : Child} {problem : Problem}
    (hwait : child.wait = .error problem) (hproblem : problem.isInterruption = true)
    (started : Float) (w : World σ) :
    attend spec started child w =
      (endingOf (recordFor spec child (w.commandNow - started)) (troubleOf spec child),
        terminated spec (fresh child).terminate.2
          (terminated spec (fresh child) (drained spec child w)).commandTicked) := by
  unfold attend
  dsimp only
  rw [write_bind, hwait]
  dsimp only
  rw [if_pos hproblem]
  refine (bind_of_ok (terminate_apply spec (fresh child) (drained spec child w))).trans ?_
  exact terminate_after (collect_interrupted hwait (fresh child).child_terminate
    (exit_terminate_fresh child) started _) _ _

/-- A child whose wait fails in another way. -/
theorem attend_of_failure {spec : CommandSpec} {child : Child} {problem : Problem}
    (hwait : child.wait = .error problem) (hproblem : problem.isInterruption = false)
    (started : Float) (w : World σ) :
    attend spec started child w =
      (.error ⟨problem, none⟩, terminated spec (fresh child) (drained spec child w)) := by
  unfold attend
  dsimp only
  rw [write_bind, hwait]
  dsimp only
  rw [if_neg (by simp [hproblem])]
  exact bind_of_ok (terminate_apply spec (fresh child) (drained spec child w))

/-- Attending to a child comes to what the child tells. -/
theorem attend_apply (spec : CommandSpec) (child : Child) (started : Float) (w : World σ) :
    (attend spec started child w).1 = comesTo spec child (w.commandNow - started) := by
  unfold comesTo
  cases h : child.wait with
  | ok code => rw [attend_of_exit h]
  | error problem =>
    cases hproblem : problem.isInterruption with
    | true =>
      rw [attend_of_interruption h hproblem]
      exact (if_pos hproblem).symm
    | false =>
      rw [attend_of_failure h hproblem]
      exact (if_neg (by simp [hproblem])).symm

/-- Apart from what is known of the child, attending to it touches nothing but the clock, the logs
and the tracing of the supervision. -/
theorem attend_frame (spec : CommandSpec) (child : Child) (started : Float) (w : World σ) :
    (w.remembered (attended child)).Aside (attend spec started child w).2 := by
  have hdrained := aside_drained spec child w
  unfold attended
  cases h : child.wait with
  | ok code =>
    rw [attend_of_exit h]
    exact ((hdrained.trans (.commandTicked _)).remembered _).trans (aside_terminated _ _ _)
  | error problem =>
    cases hproblem : problem.isInterruption with
    | true =>
      rw [attend_of_interruption h hproblem]
      dsimp only
      -- the child is made sure of twice, and what is known the second time replaces the first
      rw [if_pos hproblem, ← World.remembered_remembered w (fresh child).terminate.2]
      have hfirst := (hdrained.remembered (fresh child).terminate.2).trans
        (aside_terminated spec _ _)
      exact ((hfirst.trans (.commandTicked _)).remembered _).trans (aside_terminated _ _ _)
    | false =>
      rw [attend_of_failure h hproblem]
      dsimp only
      rw [if_neg (by simp [hproblem])]
      exact (hdrained.remembered _).trans (aside_terminated _ _ _)

end Supervision

end NativeBuild
