import NativeBuild.Proofs.Tracing.Span

/-
  Two runs side by side. Two actions agree under a relation of worlds when they end alike in related
  worlds and leave related worlds behind (`Agree`). There is a rule for each way of making actions.
  Spans may tell their bodies different things in the two worlds; the relation says which
  (`RespectsSpans`). With a world related to itself alone, to agree is to keep an invariant
  (`agree_invariant`).
-/

namespace NativeBuild.Action

variable {σ α β : Type} {R : World σ → World σ → Prop}

/-- The actions end alike in related worlds and leave related worlds. -/
def Agree (R : World σ → World σ → Prop) (x y : Action σ α) : Prop :=
  ∀ w v, R w v → (x w).1 = (y v).1 ∧ R (x w).2 (y v).2

theorem agree_conclude (ending : Except Raised α) :
    Agree R (conclude ending) (conclude ending) := fun _ _ h => ⟨rfl, h⟩

theorem agree_pure (a : α) : Agree R (pure a) (pure a) := agree_conclude (.ok a)

theorem agree_raise (r : Raised) : Agree R (raise r : Action σ α) (raise r) :=
  agree_conclude (.error r)

theorem agree_ofFault (x : Except Fault α) : Agree R (ofFault x) (ofFault x) := by
  cases x with
  | ok a => exact agree_pure a
  | error fault => exact agree_raise _

theorem agree_look {g : World σ → α} (h : ∀ w v, R w v → g w = g v) :
    Agree R (look g) (look g) := fun w v hw => ⟨congrArg Except.ok (h w v hw), hw⟩

theorem agree_change {g g' : World σ → World σ} (h : ∀ w v, R w v → R (g w) (g' v)) :
    Agree R (change g) (change g') := fun w v hw => ⟨rfl, h w v hw⟩

theorem Agree.bind {x y : Action σ α} {f g : α → Action σ β} (hx : Agree R x y)
    (hf : ∀ a, Agree R (f a) (g a)) : Agree R (x >>= f) (y >>= g) := by
  intro w v hw
  obtain ⟨hend, hafter⟩ := hx w v hw
  rcases hxw : x w with ⟨raised | a, w'⟩ <;> rcases hyv : y v with ⟨raised' | a', v'⟩ <;>
    rw [hxw, hyv] at hend hafter <;> cases hend
  · rw [bind_of_error hxw, bind_of_error hyv]
    exact ⟨rfl, hafter⟩
  · rw [bind_of_ok hxw, bind_of_ok hyv]
    exact hf a w' v' hafter

/-- The relation goes through the beginning and the end of spans, and `allowed` is what the two
bodies may be told. -/
structure RespectsSpans (R : World σ → World σ → Prop) (allowed : Bool → Bool → Prop) :
    Prop where
  told : ∀ w v, R w v → allowed w.takesSpan v.takesSpan
  opened : ∀ w v name attributes, R w v → R (w.opened name attributes) (v.opened name attributes)
  closed : ∀ w v a b left, allowed a b → R w v → R (w.closed a left) (v.closed b left)
  marked : ∀ a b name value, allowed a b →
    Agree R (setAttribute a name value) (setAttribute b name value)

theorem agree_inSpan {allowed : Bool → Bool → Prop} (h : RespectsSpans R allowed) (name : String)
    (attributes : Attributes) {f g : Bool → Action σ α}
    (hbody : ∀ a b, allowed a b → Agree R (f a) (g b)) :
    Agree R (inSpan name attributes f) (inSpan name attributes g) := by
  intro w v hw
  have htold := h.told w v hw
  obtain ⟨hend, hafter⟩ := hbody _ _ htold _ _ (h.opened w v name attributes hw)
  rw [inSpan_eq, inSpan_eq]
  dsimp only
  rw [hend]
  exact ⟨rfl, h.closed _ _ _ _ _ htold hafter⟩

/-- An action that agrees with itself on worlds that are related to themselves alone keeps what
relates them. -/
theorem agree_invariant {P : World σ → Prop} {x : Action σ α} :
    Agree (fun w v => v = w ∧ P w) x x ↔ ∀ w, P w → P (x w).2 := by
  constructor
  · exact fun h w hw => (h w w ⟨rfl, hw⟩).2.2
  · rintro h w v ⟨rfl, hw⟩
    exact ⟨rfl, rfl, h v hw⟩

/-- Spans keep what tracing has no say in. -/
theorem respectsSpans_invariant {P : World σ → Prop} (h : ∀ w v, Traced w v → P w → P v) :
    RespectsSpans (fun w v => v = w ∧ P w) (· = ·) where
  told := by
    rintro w _ ⟨rfl, -⟩
    rfl
  opened := by
    rintro w _ name attributes ⟨rfl, hw⟩
    exact ⟨rfl, h _ _ (traced_opened _ name attributes) hw⟩
  closed := by
    rintro w _ a _ left rfl ⟨rfl, hw⟩
    exact ⟨rfl, h _ _ (traced_closed _ a left) hw⟩
  marked := by
    rintro a _ name value rfl
    exact agree_invariant.mpr fun w => h _ _ (traced_setAttribute a name value w)

end NativeBuild.Action
