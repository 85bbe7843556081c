import NativeBuild.Proofs.Tracing.Span

/-
  Spans that are recorded. In a world whose application has a provider and where tracing is switched
  on (`World.Observed`) every span is taken and nothing is said of it in a log. With a provider that
  records it (`SpanProvider.Records`), a span that begins, has further spans end inside it and then
  ends itself leaves just these behind (`finish_within`). What else a provider documents of itself
  stands beside that: `Roomy` and `MarksErrors`.
-/

namespace NativeBuild

variable {σ : Type}

namespace SpanProvider

/-! ## What providers document -/

/-- Every span is recorded. -/
def Records (p : SpanProvider) : Prop :=
  ∀ number name attributes, p.records number name attributes = true

/-- A span keeps two attributes with names as they are given, the one it is given at its start and
another one that is set. -/
structure Roomy (p : SpanProvider) : Prop where
  start : ∀ name value, name ≠ "" → p.start [(name, value)] = [(name, value)]
  set : ∀ first value name another, name ≠ "" → name ≠ first →
    p.set [(first, value)] name another = [(first, value), (name, another)]

/-- Everything but the user's interrupt marks the span that it leaves. -/
def MarksErrors (p : SpanProvider) : Prop :=
  ∀ problem, problem.isUserInterrupt = false → p.marks problem = true

/-- A provider that records every span with the attributes that it is given, the last value of each,
and leaves the user's interrupt alone. -/
def plain : SpanProvider where
  records _ _ _ := true
  start given := given
  set a name value := a.filter (·.1 != name) ++ [(name, value)]
  marks problem := !problem.isUserInterrupt

theorem records_plain : plain.Records := fun _ _ _ => rfl

theorem roomy_plain : plain.Roomy where
  start _ _ _ := rfl
  set first value name another _ h := by
    have hfirst : (first != name) = true := bne_iff_ne.mpr h.symm
    exact congrArg (· ++ [(name, another)]) (List.filter_cons_of_pos hfirst)

theorem marksErrors_plain : plain.MarksErrors := fun _ h => Bool.not_eq_true' _ |>.mpr h

end SpanProvider

namespace Tracing

/-! ## Spans inside spans -/

/-- The span that a span which begins now is put into. -/
def around (t : Tracing) : Option Nat := innermost t.running

/-- Tracing that is ready, after further spans. -/
def recorded (t : Tracing) (spans : List Span) : Tracing :=
  { t with ready := true, begun := t.begun + spans.length, finished := t.finished ++ spans }

/-- Tracing that is ready, inside a recorded span with these attributes. -/
def within (t : Tracing) (p : SpanProvider) (name : String) (attributes : Attributes) : Tracing :=
  { t with
    ready := true
    begun := t.begun + 1
    running := ⟨t.begun, name, attributes, p, true⟩ :: t.running }

theorem recorded_nil {t : Tracing} (h : t.ready = true) : t.recorded [] = t := by
  unfold recorded
  rw [List.append_nil, List.length_nil, Nat.add_zero, ← h]

theorem recorded_recorded (t : Tracing) (xs ys : List Span) :
    (t.recorded xs).recorded ys = t.recorded (xs ++ ys) := by
  unfold recorded
  dsimp only
  rw [List.append_assoc, List.length_append, Nat.add_assoc]

theorem begin_eq_within {t : Tracing} {p : SpanProvider} (h : t.provider = .application p)
    (hrecords : p.Records) (name : String) (given : Attributes) :
    { t with ready := true }.begin name given = t.within p name (p.start given) := by
  unfold begin within
  dsimp only
  rw [h]
  dsimp only [Provider.spans]
  rw [hrecords]

/-- A span that ends after the spans inside it. -/
theorem finish_within (t : Tracing) (p : SpanProvider) (name : String) (attributes : Attributes)
    (spans : List Span) (left : Option Problem) :
    ((t.within p name attributes).recorded spans).finish left =
      t.recorded (spans ++ [⟨t.begun, name, attributes, t.around, left.any p.marks⟩]) := by
  have hbegun : t.begun + 1 + spans.length = t.begun + (spans.length + 1) := by omega
  unfold recorded within finish
  dsimp only
  rw [if_pos rfl, List.length_append, List.length_singleton, hbegun, List.append_assoc]
  rfl

end Tracing

/-- The application has this provider, and tracing is on or was set up before. -/
structure World.Observed (w : World σ) (p : SpanProvider) : Prop where
  provider : w.tracing.provider = .application p
  active : w.tracing.ready = true ∨ Tracing.enabled w.environment = true

namespace World.Observed

variable {w : World σ} {p : SpanProvider}

theorem prepare (h : w.Observed p) :
    w.tracing.prepare w.environment = (.active, { w.tracing with ready := true }) := by
  unfold Tracing.prepare
  cases hready : w.tracing.ready with
  | true =>
    rw [if_pos rfl, ← hready]
  | false =>
    have hon : Tracing.enabled w.environment = true :=
      h.active.resolve_left fun hr => nomatch hready.symm.trans hr
    rw [if_neg Bool.false_ne_true, if_neg (by rw [hon]; decide)]
    split
    next habsent => exact nomatch habsent.symm.trans h.provider
    next => rfl

theorem takesSpan (h : w.Observed p) : w.takesSpan = true := by
  unfold World.takesSpan
  rw [h.prepare]
  rfl

/-- The start of a span touches nothing but tracing. -/
theorem opened (h : w.Observed p) (name : String) (attributes : Attributes) :
    w.opened name attributes =
      { w with tracing := { w.tracing with ready := true }.begin name attributes } := by
  have hrecords : w.preparationRecords = [] := by
    unfold World.preparationRecords
    rw [h.prepare]
    rfl
  unfold World.opened World.prepared
  rw [h.takesSpan, if_pos rfl, hrecords, List.append_nil, h.prepare]

end World.Observed

end NativeBuild
