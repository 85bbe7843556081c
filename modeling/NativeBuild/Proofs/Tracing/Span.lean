import NativeBuild.Proofs.Action

/-
  Spans, exactly. The start of a span comes to one of five ends (`prepares`), and a span as a whole
  is its body in the world with the span opened, which is then closed (`inSpan_eq`).
-/

namespace NativeBuild

variable {σ α : Type}

namespace Tracing

/-- What making tracing ready comes to. -/
inductive Prepares (t : Tracing) (env : Variables) : Preparation → Tracing → Prop
  /-- Tracing was set up before. -/
  | already : t.ready = true → Prepares t env .active t
  | off : t.ready = false → enabled env = false → Prepares t env .off t
  /-- There is a provider already. -/
  | taken : t.ready = false → enabled env = true → t.provider ≠ .absent →
      Prepares t env .active { t with ready := true }
  | installed (made : SpanProvider) : t.ready = false → enabled env = true →
      t.provider = .absent → t.library env = some made →
      Prepares t env .active { t with ready := true, provider := .own made, ownMade := true }
  | broken : t.ready = false → enabled env = true → t.provider = .absent →
      t.library env = none → Prepares t env .broken { t with ownMade := true }

theorem prepares (t : Tracing) (env : Variables) :
    Prepares t env (t.prepare env).1 (t.prepare env).2 := by
  unfold prepare
  by_cases hready : t.ready = true
  · rw [if_pos hready]
    exact .already hready
  have hready' : t.ready = false := Bool.eq_false_iff.mpr hready
  rw [if_neg hready]
  by_cases hoff : enabled env = false
  · rw [if_pos hoff]
    exact .off hready' hoff
  have hon : enabled env = true := (Bool.not_eq_false _).mp hoff
  rw [if_neg hoff]
  split
  next hprovider =>
    split
    next made hmade => exact .installed made hready' hon hprovider hmade
    next hnone => exact .broken hready' hon hprovider hnone
  next hprovider => exact .taken hready' hon hprovider

/-! ## What spans leave alone -/

end Tracing

namespace World

/-- A span that starts here is taken. -/
def takesSpan (w : World σ) : Bool := (w.tracing.prepare w.environment).1 == .active

/-- What is recorded when tracing could not be made ready. -/
def preparationRecords (w : World σ) : List Record :=
  if (w.tracing.prepare w.environment).1 = .broken then
    [⟨.tracing, .warning, "cmakebuild otel init failed, spans disabled"⟩]
  else []

/-- The world with tracing made ready, as far as it can be. -/
def prepared (w : World σ) : World σ :=
  { w with
    tracing := (w.tracing.prepare w.environment).2
    log := w.log ++ w.preparationRecords }

/-- The world in which the body of a span runs. -/
def opened (w : World σ) (name : String) (attributes : Attributes) : World σ :=
  if w.takesSpan then { w.prepared with tracing := w.prepared.tracing.begin name attributes }
  else w.prepared

/-- The world after the body of a span, if there is a span, which a problem left or not. -/
def closed (w : World σ) (active : Bool) (left : Option Problem) : World σ :=
  if active then { w with tracing := w.tracing.finish left } else w

end World

namespace Action

theorem prepareTracing_eq (w : World σ) : prepareTracing w = (.ok w.takesSpan, w.prepared) := by
  unfold prepareTracing World.takesSpan World.prepared World.preparationRecords
  rcases w.tracing.prepare w.environment with ⟨found, tracing⟩
  cases found <;> simp

theorem traced_opened (w : World σ) (name : String) (attributes : Attributes) :
    Traced w (w.opened name attributes) := by
  have hlogger : ∀ r ∈ w.preparationRecords, r.logger = .tracing := by
    unfold World.preparationRecords
    split <;> simp
  unfold World.opened
  split
  · exact ⟨w.prepared.tracing.begin name attributes, w.preparationRecords, rfl, hlogger⟩
  · exact ⟨w.prepared.tracing, w.preparationRecords, rfl, hlogger⟩

theorem traced_closed (w : World σ) (active : Bool) (left : Option Problem) :
    Traced w (w.closed active left) := by
  unfold World.closed
  split
  · exact Traced.of_tracing w _
  · exact Traced.of_tracing w w.tracing

theorem traced_setAttribute (active : Bool) (name : String) (value : AttributeValue) (w : World σ) :
    Traced w (setAttribute active name value w).2 := by
  cases active with
  | true => exact Traced.of_tracing w _
  | false => exact Traced.of_tracing w w.tracing

theorem inSpan_eq (name : String) (attributes : Attributes) (body : Bool → Action σ α)
    (w : World σ) :
    inSpan name attributes body w =
      ((body w.takesSpan (w.opened name attributes)).1,
        (body w.takesSpan (w.opened name attributes)).2.closed w.takesSpan
          (leaving (body w.takesSpan (w.opened name attributes)).1)) := by
  unfold inSpan World.opened
  rw [bind_of_ok (prepareTracing_eq w)]
  cases w.takesSpan <;> rfl

end Action

end NativeBuild
