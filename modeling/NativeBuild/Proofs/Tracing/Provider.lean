import NativeBuild.Proofs.Tracing.Recording

/-
  The provider of tracing over the life of a process. The environment and the application's provider
  may change between any two spans, and spans may be started inside spans, end with a value or be
  left by something raised (`Activity`). Every start of a span is entered in a ledger, with what it
  found. `Accounted` is what the ledger says of tracing at any moment: it is ready exactly if some
  start so far suited. Each start keeps it (`Accounted.start`), so each activity does, by induction
  on the activity (`accounted_perform`).
-/

namespace NativeBuild.Tracing

/-! ## Starts of spans -/

/-- The start of a span: what it found and what came of it. -/
structure Start where
  environment : Variables
  found : Provider
  /-- The provider that would have been made, unless it could not be set up. -/
  made : Option SpanProvider
  /-- The provider when the body began. -/
  left : Provider
  /-- The body was given a span. -/
  active : Bool

namespace Start

/-- There was no provider, and one could be made and set up. -/
def Creates (s : Start) : Prop :=
  s.found = .absent ∧ ∃ provider, s.made = some provider

/-- Tracing was switched on, and the application had a provider or one could be created. -/
def Suits (s : Start) : Prop :=
  enabled s.environment = true ∧ ((∃ provider, s.found = .application provider) ∨ s.Creates)

/-- A provider of tracing's own came with this start. -/
def installs (s : Start) : Bool :=
  match s.found, s.left with
  | .own _, _ => false
  | _, .own _ => true
  | _, _ => false

/-- The start after those before it: it got a span exactly if one of them suited or it does, and
installed a provider exactly if it is the first that suits and found none. -/
structure Follows (s : Start) (before : List Start) : Prop where
  active : s.active = true ↔ ∃ s' ∈ before ++ [s], s'.Suits
  installs : s.installs = true ↔
    (∀ s' ∈ before, ¬ s'.Suits) ∧ enabled s.environment = true ∧ s.Creates

end Start

/-- What the starts so far say of tracing. -/
structure Accounted (t : Tracing) (starts : List Start) : Prop where
  ready : t.ready = true ↔ ∃ s ∈ starts, s.Suits
  own : ∀ provider, t.provider = .own provider → t.ready = true
  follows : ∀ before s, before ++ [s] <+: starts → s.Follows before
  once : starts.countP Start.installs ≤ 1

/-! ## One start -/

/-- A start that finds tracing so and leaves it so. -/
def startOf (t : Tracing) (env : Variables) : Start where
  environment := env
  found := t.provider
  made := t.library env
  left := (t.prepare env).2.provider
  active := (t.prepare env).1 == .active

theorem Start.suits_of_installs {s : Start} {before : List Start} (h : s.Follows before)
    (hs : s.installs = true) : s.Suits := by
  obtain ⟨-, hon, hcreates⟩ := h.installs.mp hs
  exact ⟨hon, .inr hcreates⟩

/-- What a start comes to when a provider of tracing's own is there only if tracing is ready. -/
structure Start.Settles (s : Start) (t t' : Tracing) : Prop where
  ready : t'.ready = true ↔ t.ready = true ∨ s.Suits
  active : s.active = true ↔ t.ready = true ∨ s.Suits
  installs : s.installs = true ↔ t.ready = false ∧ enabled s.environment = true ∧ s.Creates
  own : ∀ provider, t'.provider = .own provider → t'.ready = true

/-- A provider that stays is not installed. -/
theorem Start.installs_of_stays {s : Start} (h : s.left = s.found) : s.installs = false := by
  unfold installs
  rw [h]
  cases s.found <;> rfl

theorem Prepares.settles {t t' : Tracing} {env : Variables} {found : Preparation}
    (h : Prepares t env found t')
    (hown : ∀ provider, t.provider = .own provider → t.ready = true) :
    Start.Settles ⟨env, t.provider, t.library env, t'.provider, found == .active⟩ t t' := by
  cases h with
  | already hready =>
    refine ⟨iff_of_true hready (.inl hready), iff_of_true rfl (.inl hready), ?_,
      fun _ _ => hready⟩
    rw [Start.installs_of_stays rfl, hready]
    exact iff_of_false (by decide) fun h => nomatch h.1
  | off hready hoff =>
    have hno : ¬ (t.ready = true ∨ enabled env = true) := by
      rw [hready, hoff]
      decide
    have hsuits (s : Start) (hs : s.environment = env) : ¬ (t.ready = true ∨ s.Suits) :=
      fun h => hno (h.imp_right fun h => hs ▸ h.1)
    refine ⟨iff_of_false (fun h => hno (.inl h)) (hsuits _ rfl),
      iff_of_false Bool.false_ne_true (hsuits _ rfl), ?_, hown⟩
    rw [Start.installs_of_stays rfl]
    exact iff_of_false (by decide) fun h => hno (.inr h.2.1)
  | taken hready hon hprovider =>
    have happlication : ∃ provider, t.provider = .application provider := by
      cases hp : t.provider with
      | absent => exact absurd hp hprovider
      | application provider => exact ⟨provider, rfl⟩
      | own provider => exact nomatch hready.symm.trans (hown provider hp)
    refine ⟨iff_of_true rfl (.inr ⟨hon, .inl happlication⟩),
      iff_of_true rfl (.inr ⟨hon, .inl happlication⟩), ?_, fun _ _ => rfl⟩
    rw [Start.installs_of_stays rfl]
    exact iff_of_false (by decide) fun h => hprovider h.2.2.1
  | installed made hready hon habsent hmade =>
    have hcreates (left : Provider) (active : Bool) :
        Start.Creates ⟨env, t.provider, t.library env, left, active⟩ :=
      ⟨habsent, made, hmade⟩
    refine ⟨iff_of_true rfl (.inr ⟨hon, .inr (hcreates _ _)⟩),
      iff_of_true rfl (.inr ⟨hon, .inr (hcreates _ _)⟩),
      iff_of_true ?_ ⟨hready, hon, hcreates _ _⟩, fun _ _ => rfl⟩
    rw [habsent]
    rfl
  | broken hready hon habsent hnone =>
    have hcreates (left : Provider) (active : Bool) :
        ¬ Start.Creates ⟨env, t.provider, t.library env, left, active⟩ :=
      fun ⟨_, _, hmade⟩ => nomatch hnone.symm.trans hmade
    have hno (left : Provider) (active : Bool) : ¬ (t.ready = true ∨
        Start.Suits ⟨env, t.provider, t.library env, left, active⟩) := by
      rintro (h | ⟨-, ⟨provider, h⟩ | h⟩)
      · exact nomatch hready.symm.trans h
      · exact nomatch habsent.symm.trans h
      · exact hcreates _ _ h
    refine ⟨iff_of_false (fun h => hno .absent true (.inl h)) (hno _ _),
      iff_of_false Bool.false_ne_true (hno _ _), ?_, hown⟩
    rw [Start.installs_of_stays rfl]
    exact iff_of_false (by decide) fun h => hcreates _ _ h.2.2

theorem exists_suits_append {starts : List Start} {s : Start} :
    (∃ s' ∈ starts ++ [s], s'.Suits) ↔ (∃ s' ∈ starts, s'.Suits) ∨ s.Suits := by
  constructor
  · rintro ⟨s', hmem, hs'⟩
    obtain hmem | hmem := List.mem_append.mp hmem
    · exact .inl ⟨s', hmem, hs'⟩
    · rw [List.mem_singleton.mp hmem] at hs'
      exact .inr hs'
  · rintro (⟨s', hmem, hs'⟩ | hs)
    · exact ⟨s', List.mem_append_left _ hmem, hs'⟩
    · exact ⟨s, List.mem_append_right _ (List.mem_singleton.mpr rfl), hs⟩

theorem Start.Settles.follows {t t' : Tracing} {starts : List Start} {s : Start}
    (hs : s.Settles t t') (h : Accounted t starts) : s.Follows starts where
  active := by rw [hs.active, h.ready, exists_suits_append]
  installs := by
    have hready : t.ready = false ↔ ∀ s' ∈ starts, ¬ s'.Suits := by
      rw [← Bool.not_eq_true, h.ready]
      exact ⟨fun hno s' hmem hs' => hno ⟨s', hmem, hs'⟩, fun hno ⟨s', hmem, hs'⟩ => hno s' hmem hs'⟩
    rw [hs.installs, hready]

/-- A start that installs a provider comes after none that did. -/
theorem Accounted.countP_of_installs {t : Tracing} {starts : List Start} {s : Start}
    (h : Accounted t starts) (hs : s.Follows starts) (hinstalls : s.installs = true) :
    starts.countP Start.installs = 0 := by
  rw [List.countP_eq_zero]
  intro s' hmem hs'
  obtain ⟨before, after, rfl⟩ := List.append_of_mem hmem
  have hprefix : before ++ [s'] <+: before ++ s' :: after := ⟨after, by simp⟩
  have hsuits := Start.suits_of_installs (h.follows before s' hprefix) hs'
  exact (hs.installs.mp hinstalls).1 s' hmem hsuits

/-- One more start. -/
theorem Accounted.start {t : Tracing} {starts : List Start} (h : Accounted t starts)
    (env : Variables) : Accounted (t.prepare env).2 (starts ++ [startOf t env]) := by
  have hs : (startOf t env).Settles t (t.prepare env).2 := (prepares t env).settles h.own
  have hfollows := hs.follows h
  refine ⟨?_, hs.own, ?_, ?_⟩
  · rw [hs.ready, exists_suits_append, h.ready]
  · intro before s hprefix
    obtain heq | hprefix := List.prefix_concat_iff.mp hprefix
    · obtain ⟨rfl, hlast⟩ := List.append_inj' heq rfl
      rw [List.singleton_inj.mp hlast]
      exact hfollows
    · exact h.follows before s hprefix
  · rw [List.countP_append, List.countP_singleton]
    split
    · exact Nat.le_of_eq (congrArg (· + 1) (h.countP_of_installs hfollows ‹_›))
    · exact h.once

/-! ## Activities -/

/-- What a process may do with tracing. -/
inductive Activity where
  | nothing
  /-- Changes the environment. -/
  | environment (change : Variables → Variables)
  /-- The application sets a provider or takes it away, and from then on the library makes others
  or fails to. -/
  | application (provider : Option SpanProvider) (library : Variables → Option SpanProvider)
  /-- Sets an attribute of the innermost span. -/
  | mark (active : Bool) (name : String) (value : AttributeValue)
  | raise (raised : Raised)
  /-- Runs a body inside a span. The body learns whether there is one. -/
  | span (name : String) (attributes : Attributes) (body : Bool → Activity)
  | andThen (first second : Activity)
  /-- Catches what is raised. -/
  | caught (activity : Activity)

/-- Enters a start in the ledger: what it found and, as the body begins, what came of it. -/
def entered (found : World (List Start)) (active : Bool) (w : World (List Start)) :
    World (List Start) :=
  { w with tools := w.tools ++ [
    { environment := found.environment
      found := found.tracing.provider
      made := found.tracing.library found.environment
      left := w.tracing.provider
      active := active }] }

open NativeBuild.Action in
/-- Activities, with the starts of spans entered in the ledger. -/
def Activity.perform : Activity → Action (List Start) Unit
  | nothing => pure ()
  | environment f => change fun w => { w with environment := f w.environment }
  | application provider library => change fun w =>
    { w with
      tracing := { w.tracing with
        provider := provider.elim .absent .application, library := library } }
  | mark active name value => Action.setAttribute active name value
  | raise raised => Action.raise raised
  | span name attributes body => do
    let found ← look id
    inSpan name attributes fun active => do
      change (entered found active)
      (body active).perform
  | andThen first second => do
    first.perform
    second.perform
  | caught activity => do
    let _ ← attempt activity.perform
    return ()

/-- What is kept of spans does not matter to the ledger. -/
theorem Accounted.of_eq {t t' : Tracing} {starts : List Start} (h : Accounted t starts)
    (hready : t'.ready = t.ready) (hprovider : t'.provider = t.provider) :
    Accounted t' starts where
  ready := by rw [hready, h.ready]
  own provider hown := by
    rw [hready]
    exact h.own provider (hprovider ▸ hown)
  follows := h.follows
  once := h.once

/-- A process in which no span was started yet. -/
structure Fresh (w : World (List Start)) : Prop where
  ready : w.tracing.ready = false
  provider : ∀ provider, w.tracing.provider ≠ .own provider
  starts : w.tools = []

theorem Fresh.accounted {w : World (List Start)} (h : Fresh w) : Accounted w.tracing w.tools where
  ready := by
    rw [h.ready, h.starts]
    exact iff_of_false Bool.false_ne_true fun ⟨s, hmem, _⟩ => absurd hmem List.not_mem_nil
  own provider hown := absurd hown (h.provider provider)
  follows before s hprefix := by
    rw [h.starts, List.prefix_nil] at hprefix
    exact absurd hprefix (List.append_ne_nil_of_right_ne_nil before (List.cons_ne_nil s []))
  once := by
    rw [h.starts]
    exact Nat.zero_le 1

/-! ## The switch -/

end NativeBuild.Tracing
