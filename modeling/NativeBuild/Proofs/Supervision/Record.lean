import NativeBuild.Proofs.Supervision.Running

/-
  One record for each process. Whatever happens to a child that was started
  (its wait ends or is interrupted, a stream cannot be read, a join is interrupted, in any
  combination), a run returns a record of it or raises an error that holds one, and the error names
  the first of these as its cause: the join, then standard output, then standard error, then the
  wait.
-/

namespace NativeBuild.Supervision

variable {σ : Type}

/-- The problem of the standard error of a child, which nobody reads when it is merged. -/
def errorProblem (spec : CommandSpec) (child : Child) : Option Problem :=
  if spec.mergeStderr then none else child.stderr.problem

/-- What a wait raises. -/
def waitProblem (child : Child) : Option Problem :=
  match child.wait with
  | .ok _ => none
  | .error problem => some problem

/-- Why a run of a child fails, if it does. -/
def causeOf (spec : CommandSpec) (child : Child) : Option Problem :=
  ((interruptedJoin spec child).map fun _ => .fault (.interrupt "")) <|>
    (child.stdout.problem <|> (errorProblem spec child <|> waitProblem child))

theorem keptProblem_eq {s : Stream}
    (h : ∀ problem, s.problem = some problem → problem.isStreamError = true) :
    s.keptProblem = s.problem := by
  unfold Stream.keptProblem
  cases hs : s.problem with
  | none => rfl
  | some problem => simp [h problem hs]

/-- Every stream ends, or in a problem that its reader keeps. -/
structure StreamsEnd (child : Child) : Prop where
  stdout : ∀ problem, child.stdout.problem = some problem → problem.isStreamError = true
  stderr : ∀ problem, child.stderr.problem = some problem → problem.isStreamError = true

/-- The problems of the readers are those of the streams. -/
theorem firstProblem_readAll (spec : CommandSpec) {child : Child} (h : StreamsEnd child) :
    (firstProblem (readAll spec child)).map (·.2) =
      (child.stdout.problem <|> errorProblem spec child) := by
  have hout := keptProblem_eq h.stdout
  have herr := keptProblem_eq h.stderr
  unfold firstProblem readAll streamsOf errorProblem
  cases hmerge : spec.mergeStderr with
  | true =>
    cases hs : child.stdout.problem <;> simp [Stream.drain, hout, hs]
  | false =>
    cases hs : child.stdout.problem <;> cases hs' : child.stderr.problem <;>
      simp [Stream.drain, hout, herr, hs, hs']

/-- What goes wrong has the cause that the child tells. -/
theorem cause_troubleOf (spec : CommandSpec) {child : Child} (h : StreamsEnd child) :
    (troubleOf spec child).map (·.2) = causeOf spec child := by
  have hread := firstProblem_readAll spec h
  have hwait : (waitTrouble spec child).map (·.2) = waitProblem child := by
    unfold waitTrouble waitProblem
    cases child.wait <;> rfl
  unfold troubleOf readTrouble causeOf
  cases interruptedJoin spec child with
  | some k => rfl
  | none =>
    have hassoc : (child.stdout.problem <|> (errorProblem spec child <|> waitProblem child)) =
        ((child.stdout.problem <|> errorProblem spec child) <|> waitProblem child) := by
      cases child.stdout.problem <;> rfl
    rw [hassoc, ← hread, ← hwait]
    cases firstProblem (readAll spec child) <;> rfl

theorem causeOf_eq_none_iff {spec : CommandSpec} {child : Child} :
    causeOf spec child = none ↔ (∃ code, child.wait = .ok code) ∧
      interruptedJoin spec child = none ∧ child.stdout.problem = none ∧
      (spec.mergeStderr = false → child.stderr.problem = none) := by
  have hwait : waitProblem child = none ↔ ∃ code, child.wait = .ok code := by
    unfold waitProblem
    cases child.wait <;> simp
  have herror : errorProblem spec child = none ↔
      (spec.mergeStderr = false → child.stderr.problem = none) := by
    unfold errorProblem
    cases spec.mergeStderr <;> simp
  unfold causeOf
  rw [← hwait, ← herror]
  cases interruptedJoin spec child <;> cases child.stdout.problem <;>
    cases errorProblem spec child <;> cases waitProblem child <;> simp

/-! ## The record of a run -/

theorem isSealed_recordFor (spec : CommandSpec) (child : Child) (duration : Float) :
    ∀ output ∈ (recordFor spec child duration).streams, output.isSealed = true := by
  intro output hmem
  unfold CommandResult.streams recordFor at hmem
  cases hmerge : spec.mergeStderr <;> simp [hmerge, CapturedOutput.final] at hmem
  · rcases hmem with rfl | rfl <;> rfl
  · rw [hmem]

theorem stderr_recordFor (spec : CommandSpec) (child : Child) (duration : Float) :
    (recordFor spec child duration).stderr = none ↔ spec.mergeStderr = true := by
  unfold recordFor
  cases spec.mergeStderr <;> simp

/-- A child whose wait ends or is interrupted comes to its record. -/
theorem comesTo_eq {spec : CommandSpec} {child : Child}
    (hwait : ∀ problem, child.wait = .error problem → problem.isInterruption = true)
    (duration : Float) :
    comesTo spec child duration =
      endingOf (recordFor spec child duration) (troubleOf spec child) := by
  unfold comesTo
  cases h : child.wait with
  | ok code => rfl
  | error problem => exact if_pos (hwait problem h)

/-- A run that can measure the time of a child comes to what the child comes to. -/
theorem answerOf_of_started {host : Host σ} {spec : CommandSpec} {w : World σ} {child : Child}
    (hdirectory : directoryError w spec = none) (hstarted : startedBy host spec w = .ok child)
    (hwait : ∀ problem, child.wait = .error problem → problem.isInterruption = true)
    (hclock : w.commandClock.InMilliseconds) :
    answerOf host spec w =
      endingOf (recordFor spec child (durationIn w)) (troubleOf spec child) := by
  obtain ⟨ms, hms⟩ : ∃ ms, (recordFor spec child (durationIn w)).elapsed = .ok ms := hclock _ _
  unfold answerOf attemptOf
  rw [hdirectory, hstarted]
  dsimp only
  rw [comesTo_eq hwait]
  cases troubleOf spec child with
  | some trouble => rfl
  | none =>
    unfold endingOf measured
    dsimp only
    rw [hms]

/-- A child that was started leaves one record, in the result of the run or in its error. -/
theorem run_leaves_record {host : Host σ} {spec : CommandSpec} {w : World σ} {child : Child}
    (hdirectory : directoryError w spec = none) (hstarted : startedBy host spec w = .ok child)
    (hwait : ∀ problem, child.wait = .error problem → problem.isInterruption = true)
    (hstreams : StreamsEnd child) (hclock : w.commandClock.InMilliseconds) :
    ∃ result ending w', run host spec w = (ending, w') ∧
      (ending = .ok result ∨
        ∃ text cause, ending = .error (.chained (.execution text (some result)) cause)) ∧
      ((∃ returned, ending = .ok returned) ↔ (∃ code, child.wait = .ok code) ∧
        interruptedJoin spec child = none ∧ child.stdout.problem = none ∧
        (spec.mergeStderr = false → child.stderr.problem = none)) ∧
      result.command = spec.arguments ∧
      (∀ output ∈ result.streams, output.isSealed = true) ∧
      (result.stderr = none ↔ spec.mergeStderr = true) ∧
      (∀ code, child.wait = .ok code → result.returnCode = code) ∧
      (∀ problem, child.wait = .error problem →
        result.returnCode = (child.poll 0 <|> child.reap 1).getD (-1)) ∧
      (∀ raised, ending = .error raised → raised.cause = causeOf spec child) := by
  obtain ⟨w', hrun, -⟩ := run_apply host spec w
  rw [answerOf_of_started hdirectory hstarted hwait hclock] at hrun
  have hcause := cause_troubleOf spec hstreams
  have hcode : ∀ code, child.wait = .ok code → codeOf child = code := fun code hcode => by
    simp [codeOf, hcode]
  have hother : ∀ problem, child.wait = .error problem →
      codeOf child = (child.poll 0 <|> child.reap 1).getD (-1) := fun problem hproblem => by
    simp [codeOf, hproblem]
  rw [← causeOf_eq_none_iff, ← hcause]
  cases htrouble : troubleOf spec child with
  | none =>
    rw [htrouble] at hrun
    refine ⟨_, _, w', hrun, .inl rfl, ⟨fun _ => rfl, fun _ => ⟨_, rfl⟩⟩, rfl,
      isSealed_recordFor _ _ _, stderr_recordFor _ _ _, hcode, hother, ?_⟩
    intro raised hraised
    cases hraised
  | some trouble =>
    obtain ⟨text, cause⟩ := trouble
    rw [htrouble] at hrun
    refine ⟨_, _, w', hrun, .inr ⟨text, cause, rfl⟩, ⟨?_, ?_⟩, rfl, isSealed_recordFor _ _ _,
      stderr_recordFor _ _ _, hcode, hother, ?_⟩
    · rintro ⟨returned, hreturned⟩
      cases hreturned
    · intro hnone
      cases hnone
    · intro raised hraised
      cases hraised
      rfl

/-- A child that is interrupted while it runs and whose standard error cannot be read: it is killed,
and the error names the stream although the wait came first. -/
def sampleChild : Child where
  pid := 7
  wait := .error (.fault (.interrupt ""))
  poll := fun _ => none
  reap := fun _ => some (-9)
  stdout := { bytes := "one\ntwo\n".toUTF8.toList }
  stderr := { bytes := [], problem := some (.fault (.system (.plain .invalidArgument))) }

/-- A machine that starts this child for every command. -/
def sampleHost : Host Unit := fun _ _ files tools => (.ok sampleChild, files, tools)

/-- A command in the directory `/out`. -/
def sampleCommand : CommandSpec := ⟨"make", ["-j4"], ⟨.root, ["out"]⟩, [], false⟩

theorem run_leaves_record_unreadable :
    ∃ result ending w', run sampleHost sampleCommand sampleWorld = (ending, w') ∧
      (ending = .ok result ∨
        ∃ text cause, ending = .error (.chained (.execution text (some result)) cause)) ∧
      result.returnCode = -9 ∧
      (∀ raised, ending = .error raised →
        raised.cause = some (.fault (.system (.plain .invalidArgument)))) := by
  have hwait : ∀ problem, sampleChild.wait = .error problem → problem.isInterruption = true := by
    intro problem hproblem
    cases hproblem
    rfl
  have hstreams : StreamsEnd sampleChild := by
    constructor
    · intro problem hproblem
      cases hproblem
    · intro problem hproblem
      cases hproblem
      rfl
  have hdirectory : directoryError sampleWorld sampleCommand = none := by rfl
  have hstarted : startedBy sampleHost sampleCommand sampleWorld = .ok sampleChild := rfl
  obtain ⟨result, ending, w', hrun, hending, -, -, -, -, -, hcode, hcause⟩ :=
    run_leaves_record hdirectory hstarted hwait hstreams (inMilliseconds_still 0)
  exact ⟨result, ending, w', hrun, hending, hcode _ rfl, hcause⟩

end NativeBuild.Supervision
