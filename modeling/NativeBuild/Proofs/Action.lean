import NativeBuild.Tracing.Scope

/-
  Actions run in a world. The changes that actions make to the world get names (`logged`, `issuing`,
  `answered`, `entered`), and each primitive action one equation for what it does in front of the
  rest of an action. `inSpan_apply` says the same of a span: tracing is made ready, the body runs,
  and only tracing and its own log are touched around it (`Traced`).
-/

namespace NativeBuild

variable {σ α β : Type}

/-! ## Clocks -/

/-- Any two readings of a clock are a whole number of milliseconds apart, as far as a clock can
tell: their difference is neither infinite nor undefined. -/
def Clock.InMilliseconds (c : Clock) : Prop :=
  ∀ i j, ∃ ms, milliseconds (c.reading j - c.reading i) = .ok ms

/-! ## Changes of the world -/

namespace World

/-- The next reading of the pipeline's clock. -/
def now (w : World σ) : Float := w.buildClock.reading w.buildClock.ticks

/-- The world after that reading. -/
def ticked (w : World σ) : World σ := { w with buildClock := w.buildClock.read.2 }

/-- The next reading of the supervision's clock. -/
def commandNow (w : World σ) : Float := w.commandClock.reading w.commandClock.ticks

/-- The world after that reading. -/
def commandTicked (w : World σ) : World σ := { w with commandClock := w.commandClock.read.2 }

/-- The log of the caller. -/
def callerLog (w : World σ) : List Record := w.log.filter (·.logger == .caller)

theorem callerLog_logged (w : World σ) (records : List Record) :
    (w.logged records).callerLog = w.callerLog ++ records.filter (·.logger == .caller) := by
  simp [callerLog, logged]

@[simp] theorem callerLog_issuing (w : World σ) (spec : CommandSpec) :
    (w.issuing spec).callerLog = w.callerLog := rfl

@[simp] theorem callerLog_answered (w : World σ) (answer : Except Raised CommandResult) :
    (w.answered answer).callerLog = w.callerLog := rfl

@[simp] theorem callerLog_ticked (w : World σ) : w.ticked.callerLog = w.callerLog := rfl

end World

/-- A world with the directories `/src` and `/out`, and clocks that stand still. -/
def sampleWorld : World Unit where
  files := ⟨[⟨["src"], 2, .directory 0o755⟩, ⟨["out"], 3, .directory 0o755⟩], 4, 0, []⟩
  buildClock := ⟨fun _ => 1.0, 0⟩
  commandClock := ⟨fun _ => 1.0, 0⟩
  tools := ()

/-- A clock that stands still is in milliseconds. -/
theorem inMilliseconds_still (ticks : Nat) : Clock.InMilliseconds ⟨fun _ => 1.0, ticks⟩ := by
  have hstill : milliseconds (1.0 - 1.0) = .ok 0 := by rfl
  exact fun _ _ => ⟨0, hstill⟩

/-! ## Primitive actions -/

namespace Action

@[simp] theorem look_bind (g : World σ → α) (f : α → Action σ β) (w : World σ) :
    (look g >>= f) w = f (g w) w := rfl

@[simp] theorem change_bind (g : World σ → World σ) (f : Unit → Action σ β) (w : World σ) :
    (change g >>= f) w = f () (g w) := rfl

@[simp] theorem write_bind (records : List Record) (f : Unit → Action σ β) (w : World σ) :
    (write records >>= f) w = f () (w.logged records) := rfl

@[simp] theorem note_bind (logger : Logger) (level : Level) (message : String)
    (f : Unit → Action σ β) (w : World σ) :
    (note logger level message >>= f) w = f () (w.logged [⟨logger, level, message⟩]) := rfl

@[simp] theorem attempt_bind (x : Action σ α) (f : Except Raised α → Action σ β) (w : World σ) :
    (attempt x >>= f) w = f (x w).1 (x w).2 := rfl

@[simp] theorem readBuildClock_bind (f : Float → Action σ β) (w : World σ) :
    (readBuildClock >>= f) w = f w.now w.ticked := rfl

@[simp] theorem readCommandClock_bind (f : Float → Action σ β) (w : World σ) :
    (readCommandClock >>= f) w = f w.commandNow w.commandTicked := rfl

@[simp] theorem conclude_apply (ending : Except Raised α) (w : World σ) :
    conclude ending w = (ending, w) := rfl

@[simp] theorem ofFault_ok (a : α) : (ofFault (.ok a) : Action σ α) = pure a := rfl

@[simp] theorem ofFault_error (f : Fault) :
    (ofFault (.error f) : Action σ α) = raise (.ofFault f) := rfl

@[simp] theorem pure_run (a : α) (w : World σ) : (pure a : Action σ α) w = (.ok a, w) := rfl

@[simp] theorem pure_bind_run (a : α) (f : α → Action σ β) (w : World σ) :
    ((pure a : Action σ α) >>= f) w = f a w := rfl

@[simp] theorem raise_bind (r : Raised) (f : α → Action σ β) (w : World σ) :
    ((raise r : Action σ α) >>= f) w = (.error r, w) := rfl

theorem bind_assoc_run {γ : Type} (x : Action σ α) (f : α → Action σ β) (g : β → Action σ γ)
    (w : World σ) : ((x >>= f) >>= g) w = (x >>= fun a => f a >>= g) w := by
  simp only [bind_def, andThen]
  rcases x w with ⟨_ | _, _⟩ <;> rfl

theorem bind_of_ok {x : Action σ α} {f : α → Action σ β} {w w' : World σ} {a : α}
    (h : x w = (.ok a, w')) : (x >>= f) w = f a w' := andThen_of_ok h

theorem bind_of_error {x : Action σ α} {f : α → Action σ β} {w w' : World σ} {r : Raised}
    (h : x w = (.error r, w')) : (x >>= f) w = (.error r, w') := andThen_of_error h

/-- Actions that do the same in a world do the same in front of the rest of an action. -/
theorem bind_congr_run {x y : Action σ α} {w : World σ} (h : x w = y w) (f : α → Action σ β) :
    (x >>= f) w = (y >>= f) w := by
  simp only [bind_def, andThen, h]

/-! ## Spans -/

/-- The second world is the first but for tracing and for records in the log of tracing. -/
def Traced (w w' : World σ) : Prop :=
  ∃ tracing records, w' = { w with tracing := tracing, log := w.log ++ records } ∧
    ∀ r ∈ records, r.logger = .tracing

theorem Traced.of_tracing (w : World σ) (tracing : Tracing) :
    Traced w { w with tracing := tracing } :=
  ⟨tracing, [], by simp, by simp⟩

/-- Records of other logs are as before. -/
theorem Traced.filter_log {w w' : World σ} (h : Traced w w') {logger : Logger}
    (hlogger : logger ≠ .tracing) :
    w'.log.filter (·.logger == logger) = w.log.filter (·.logger == logger) := by
  obtain ⟨tracing, records, rfl, hr⟩ := h
  have hnone : records.filter (·.logger == logger) = [] := by
    rw [List.filter_eq_nil_iff]
    intro r hm
    rw [hr r hm, beq_iff_eq]
    exact hlogger.symm
  rw [List.filter_append, hnone, List.append_nil]

theorem Traced.callerLog {w w' : World σ} (h : Traced w w') : w'.callerLog = w.callerLog :=
  h.filter_log (by decide)

theorem Traced.buildClock {w w' : World σ} (h : Traced w w') : w'.buildClock = w.buildClock := by
  obtain ⟨tracing, records, rfl, -⟩ := h
  rfl

theorem Traced.stage {w w' : World σ} (h : Traced w w') : w'.stage = w.stage := by
  obtain ⟨tracing, records, rfl, -⟩ := h
  rfl

theorem prepareTracing_apply (w : World σ) :
    ∃ active w', prepareTracing w = (.ok active, w') ∧ Traced w w' := by
  unfold prepareTracing
  rcases w.tracing.prepare w.environment with ⟨found, tracing⟩
  cases found with
  | active => exact ⟨true, _, rfl, Traced.of_tracing w tracing⟩
  | off => exact ⟨false, _, rfl, Traced.of_tracing w tracing⟩
  | broken => exact ⟨false, _, rfl, tracing, _, rfl, by simp⟩

/-- A span runs its body, and touches tracing alone before and after it. -/
theorem inSpan_apply (name : String) (attributes : Attributes) (body : Bool → Action σ α)
    (w : World σ) :
    ∃ active w₀ w₁ ending, Traced w w₀ ∧ body active w₀ = (ending, w₁) ∧
      (inSpan name attributes body w).1 = ending ∧ Traced w₁ (inSpan name attributes body w).2 := by
  obtain ⟨active, w', hp, ht⟩ := prepareTracing_apply w
  unfold inSpan
  rw [bind_of_ok hp]
  cases active with
  | false =>
    refine ⟨false, w', (body false w').2, (body false w').1, ht, rfl, rfl, ?_⟩
    exact Traced.of_tracing _ _
  | true =>
    obtain ⟨tracing, records, rfl, hr⟩ := ht
    refine ⟨true, _, _, _, ⟨_, records, rfl, hr⟩, rfl, rfl, ?_⟩
    exact Traced.of_tracing _ _

end Action

end NativeBuild
