import NativeBuild.Proofs.Supervision.Agreement
import NativeBuild.Proofs.Tracing.Recording

/-
  The span of a command. In a world whose spans are recorded, a command that can be started in its
  directory leaves one span behind, and its answer tells what that says (`tracing_run`): it failed
  if something was raised that the provider marks spans for, and was given the code of the result if
  there is one.
-/

namespace NativeBuild.Supervision

open NativeBuild.Action

variable {σ : Type}

/-! ## The span by the answer -/

/-- The attributes that the span of a command has by the end: it starts with the program, and the
code of the result is set if there is one. -/
def runAttributes (p : SpanProvider) (spec : CommandSpec) (answer : Except Raised CommandResult) :
    Attributes :=
  let first := p.start [("program", .text spec.program)]
  match answer with
  | .ok result => p.set first "returncode" (.integer result.returnCode)
  | .error _ => first

/-- The span of a command with this answer. -/
def runSpan (p : SpanProvider) (number : Nat) (parent : Option Nat) (spec : CommandSpec)
    (answer : Except Raised CommandResult) : Span where
  number := number
  name := "cmakebuild.run"
  attributes := runAttributes p spec answer
  parent := parent
  failed := (leaving answer).any p.marks

/-! ## Attending keeps tracing as it is -/

theorem respects_tracing (host : Host σ) (tracing : Tracing) :
    Respects host (fun w v : World σ => v = w ∧ w.tracing = tracing) where
  directory := by rintro spec w _ ⟨rfl, -⟩; rfl
  logged := by rintro w _ records - ⟨rfl, h⟩; exact ⟨rfl, h⟩
  now := by rintro w _ ⟨rfl, -⟩; rfl
  ticked := by rintro w _ ⟨rfl, h⟩; exact ⟨rfl, h⟩
  start := fun spec => agree_invariant.mpr fun w h => h
  remembered := by rintro w _ p ⟨rfl, h⟩; exact ⟨rfl, h⟩

theorem tracing_startAndAttend (host : Host σ) (spec : CommandSpec) (w : World σ) :
    (startAndAttend host spec w).2.tracing = w.tracing :=
  agree_invariant.mp (agree_startAndAttend (respects_tracing host w.tracing) spec) w rfl

/-- Inside its span a command sets the code of its result and nothing else. -/
theorem tracing_attributed (host : Host σ) (spec : CommandSpec) (w : World σ) :
    (attributed host spec true w).2.tracing =
      match attemptOf host spec w with
      | .ok result => w.tracing.setAttribute "returncode" (.integer result.returnCode)
      | .error _ => w.tracing := by
  obtain ⟨v, hv, -⟩ := startAndAttend_apply host spec w
  have hkept := tracing_startAndAttend host spec w
  rw [hv] at hkept
  unfold attributed
  cases hattempt : attemptOf host spec w with
  | error raised =>
    rw [hattempt] at hv
    rw [bind_of_error hv]
    exact hkept
  | ok result =>
    rw [hattempt] at hv
    rw [bind_of_ok hv]
    exact congrArg (Tracing.setAttribute · "returncode" (.integer result.returnCode)) hkept

/-! ## Running -/

/-- A result was measured by the clock of the supervision. -/
theorem duration_of_attemptOf {host : Host σ} {spec : CommandSpec} {w : World σ}
    {result : CommandResult} (h : attemptOf host spec w = .ok result) :
    result.duration = durationIn w := by
  have hending {child : Child} {trouble : Option (String × Problem)}
      (h : endingOf (recordFor spec child (durationIn w)) trouble = .ok result) :
      result.duration = durationIn w := by
    cases trouble with
    | none => cases h; rfl
    | some trouble => cases h
  unfold attemptOf comesTo at h
  split at h
  · split at h
    · exact hending h
    · split at h
      · exact hending h
      · cases h
  · cases h

/-- A clock in milliseconds measures every result. -/
theorem answerOf_eq_attemptOf {host : Host σ} {spec : CommandSpec} {w : World σ}
    (hplaced : directoryError w spec = none) (hclock : w.commandClock.InMilliseconds) :
    answerOf host spec w = attemptOf host spec w := by
  unfold answerOf
  rw [hplaced]
  dsimp only
  cases hattempt : attemptOf host spec w with
  | error raised => rfl
  | ok result =>
    obtain ⟨ms, hms⟩ := hclock w.commandClock.ticks (w.commandClock.ticks + 1)
    have helapsed : result.elapsed = .ok ms := by
      unfold CommandResult.elapsed
      rw [duration_of_attemptOf hattempt]
      exact hms
    unfold measured
    dsimp only
    rw [helapsed]

theorem tracing_spannedRun (host : Host σ) (spec : CommandSpec) {w : World σ} {p : SpanProvider}
    (h : w.Observed p) (hrecords : p.Records) :
    (spannedRun host spec w).2.tracing = w.tracing.recorded
      [runSpan p w.tracing.begun w.tracing.around spec (attemptOf host spec w)] := by
  let started : World σ :=
    { w with tracing := w.tracing.within p "cmakebuild.run" (p.start [("program", .text spec.program)]) }
  have hopened : w.opened "cmakebuild.run" [("program", .text spec.program)] = started := by
    rw [h.opened, Tracing.begin_eq_within h.provider hrecords]
  have hbody : (attributed host spec true started).2.tracing =
      w.tracing.within p "cmakebuild.run" (runAttributes p spec (attemptOf host spec w)) := by
    rw [tracing_attributed]
    change (match attemptOf host spec w with
      | .ok result => _
      | .error _ => _) = _
    unfold runAttributes
    cases attemptOf host spec w <;> rfl
  have hending : (attributed host spec true started).1 = attemptOf host spec w := by
    obtain ⟨v, hv, -⟩ := attributed_apply host spec true started
    rw [hv]
    rfl
  have hfinish := Tracing.finish_within w.tracing p "cmakebuild.run"
    (runAttributes p spec (attemptOf host spec w)) [] (leaving (attemptOf host spec w))
  rw [Tracing.recorded_nil rfl] at hfinish
  unfold spannedRun
  rw [inSpan_eq, h.takesSpan, hopened]
  dsimp only
  rw [hending]
  exact (congrArg (Tracing.finish · (leaving (attemptOf host spec w))) hbody).trans hfinish

/-- A command that can be started in its directory leaves its span behind. -/
theorem tracing_run (host : Host σ) (spec : CommandSpec) {w : World σ} {p : SpanProvider}
    (h : w.Observed p) (hrecords : p.Records)
    (hplaced : directoryError w spec = none) (hclock : w.commandClock.InMilliseconds) :
    (run host spec w).2.tracing = w.tracing.recorded
      [runSpan p w.tracing.begun w.tracing.around spec (answerOf host spec w)] := by
  have hspan := tracing_spannedRun host spec (w := w.logged [⟨.supervision, .debug,
    "Running " ++ spec.commandLine ++ " in " ++ spec.directory.toString⟩]) ⟨h.provider, h.active⟩
    hrecords
  rw [answerOf_eq_attemptOf hplaced hclock]
  refine Eq.trans ?_ hspan
  unfold run
  rw [bind_of_ok (checkDirectory_of_placed hplaced), note_bind]
  change ((spannedRun host spec >>= _) _).2.tracing = _
  rcases hrun : spannedRun host spec (w.logged [⟨.supervision, .debug,
    "Running " ++ spec.commandLine ++ " in " ++ spec.directory.toString⟩]) with ⟨_ | result, v⟩
  · rw [bind_of_error hrun]
  · rw [bind_of_ok hrun]
    cases result.elapsed <;> rfl

end NativeBuild.Supervision
