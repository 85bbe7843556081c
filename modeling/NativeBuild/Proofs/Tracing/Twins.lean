import Mathlib.Data.List.Forall2
import NativeBuild.Proofs.Agreement
import NativeBuild.Proofs.Tracing.Recording

/-
  Worlds that differ in tracing alone. In one of two such worlds spans are taken, in the other they
  are not (`World.Twins`). Their environments are the same but for the flag that switches tracing
  on, and so are the environments of the launches so far; all else is the same. Spans keep worlds so
  (`respectsSpans_twins`), and so does every change that has nothing to do with what the two differ
  in (`World.Twins.step`).
-/

namespace NativeBuild

variable {σ : Type}

/-! ## Environments and launches -/

namespace Variables

/-- The environments are the same but for the flag of tracing. -/
def Alike (env env' : Variables) : Prop :=
  env.unset Tracing.flagVariable = env'.unset Tracing.flagVariable

theorem unset_cons_self (name value : String) (rest : Variables) :
    unset ((name, value) :: rest) name = unset rest name :=
  List.filter_cons_of_neg (by simp)

theorem unset_cons_of_ne {name other : String} (h : other ≠ name) (value : String)
    (rest : Variables) :
    unset ((other, value) :: rest) name = (other, value) :: unset rest name :=
  List.filter_cons_of_pos (by simpa using h)

theorem unset_put_self (env : Variables) (name value : String) :
    (env.put name value).unset name = env.unset name := by
  induction env with
  | nil => exact unset_cons_self name value []
  | cons entry rest ih =>
    obtain ⟨other, old⟩ := entry
    unfold put
    by_cases h : other = name
    · rw [if_pos h, h, unset_cons_self, unset_cons_self]
    · rw [if_neg h, unset_cons_of_ne h, unset_cons_of_ne h, ih]

theorem unset_put_of_ne {name other : String} (h : other ≠ name) (env : Variables)
    (value : String) : (env.put other value).unset name = (env.unset name).put other value := by
  induction env with
  | nil => exact unset_cons_of_ne h value []
  | cons entry rest ih =>
    obtain ⟨first, old⟩ := entry
    by_cases hother : first = other
    · have hput : put ((first, old) :: rest) other value = (other, value) :: rest := if_pos hother
      have hfirst : first ≠ name := hother ▸ h
      rw [hput, unset_cons_of_ne h, unset_cons_of_ne hfirst]
      exact (if_pos hother).symm
    · have hput (rest : Variables) :
          put ((first, old) :: rest) other value = (first, old) :: put rest other value :=
        if_neg hother
      rw [hput]
      by_cases hfirst : first = name
      · rw [hfirst, unset_cons_self, unset_cons_self, ih]
      · rw [unset_cons_of_ne hfirst, unset_cons_of_ne hfirst, hput, ih]

theorem Alike.put {env env' : Variables} (h : env.Alike env') (name value : String) :
    (env.put name value).Alike (env'.put name value) := by
  unfold Alike at *
  by_cases hname : name = Tracing.flagVariable
  · rw [hname, unset_put_self, unset_put_self, h]
  · rw [unset_put_of_ne hname, unset_put_of_ne hname, h]

theorem Alike.overlay {env env' : Variables} (h : env.Alike env') (more : Variables) :
    (env.overlay more).Alike (env'.overlay more) := by
  induction more generalizing env env' with
  | nil => exact h
  | cons entry rest ih => exact ih (h.put entry.1 entry.2)

end Variables

/-- A command is given environments that are the same but for the flag, if it is given any. -/
theorem CommandSpec.alike_environment? (spec : CommandSpec) {env env' : Variables}
    (h : env.Alike env') :
    Option.Rel Variables.Alike (spec.environment? env) (spec.environment? env') := by
  unfold environment?
  cases spec.overlay.effective with
  | nil => exact .none
  | cons entry rest => exact .some (h.overlay _)

/-- The launches are the same but for the flag in the environments. -/
structure Launch.Alike (launch launch' : Launch) : Prop where
  environment : Option.Rel Variables.Alike launch.environment launch'.environment
  rest : launch' = { launch with environment := launch'.environment }

/-- The launches are the same but for the flag, and the same is known of their processes: what they
answered, how often they were killed, and what else was done to them. -/
structure Launched.Alike (l l' : Launched) : Prop where
  launch : l.launch.Alike l'.launch
  process : l'.process = l.process

/-! ## Tracing -/

/-- Nothing but spans has come to tracing since. -/
structure Tracing.Grown (t t' : Tracing) : Prop where
  ready : t.ready = true → t'.ready = true
  provider : t'.provider = t.provider
  library : t'.library = t.library
  ownMade : t'.ownMade = t.ownMade
  begun : t.begun ≤ t'.begun
  finished : t.finished <+: t'.finished

namespace Tracing.Grown

theorem refl (t : Tracing) : t.Grown t := ⟨id, rfl, rfl, rfl, Nat.le_refl _, List.prefix_rfl⟩

theorem trans {t₁ t₂ t₃ : Tracing} (h : t₁.Grown t₂) (h' : t₂.Grown t₃) : t₁.Grown t₃ :=
  ⟨h'.ready ∘ h.ready, h'.provider.trans h.provider, h'.library.trans h.library,
    h'.ownMade.trans h.ownMade, Nat.le_trans h.begun h'.begun, h.finished.trans h'.finished⟩

theorem begin (t : Tracing) (name : String) (attributes : Attributes) :
    t.Grown ({ t with ready := true }.begin name attributes) :=
  ⟨fun _ => rfl, rfl, rfl, rfl, Nat.le_succ _, List.prefix_rfl⟩

theorem finish (t : Tracing) (left : Option Problem) : t.Grown (t.finish left) := by
  unfold Tracing.finish
  split
  · exact refl t
  · refine ⟨id, rfl, rfl, rfl, Nat.le_refl _, ?_⟩
    dsimp only
    split
    · exact List.prefix_append _ _
    · exact List.prefix_rfl

theorem setAttribute (t : Tracing) (name : String) (value : AttributeValue) :
    t.Grown (t.setAttribute name value) := by
  unfold Tracing.setAttribute
  split
  · exact refl t
  · exact ⟨id, rfl, rfl, rfl, Nat.le_refl _, List.prefix_rfl⟩

end Tracing.Grown

/-- Tracing is switched off, and was never set up. -/
structure World.Unobserved (w : World σ) : Prop where
  unready : w.tracing.ready = false
  disabled : Tracing.enabled w.environment = false

namespace World.Unobserved

variable {w : World σ}

theorem prepare (h : w.Unobserved) : w.tracing.prepare w.environment = (.off, w.tracing) := by
  unfold Tracing.prepare
  rw [h.unready, if_neg Bool.false_ne_true, if_pos h.disabled]

theorem takesSpan (h : w.Unobserved) : w.takesSpan = false := by
  unfold World.takesSpan
  rw [h.prepare]
  rfl

/-- A span that is not taken leaves the world alone. -/
theorem opened (h : w.Unobserved) (name : String) (attributes : Attributes) :
    w.opened name attributes = w := by
  have hrecords : w.preparationRecords = [] := by
    unfold World.preparationRecords
    rw [h.prepare]
    rfl
  unfold World.opened World.prepared
  rw [h.takesSpan, if_neg Bool.false_ne_true, hrecords, List.append_nil, h.prepare]

end World.Unobserved

/-! ## Twins -/

/-- The first world takes spans by a provider of the application, the second takes none. Since they
began, with tracing as given, the first has come to further spans and the second has kept tracing as
it was. Besides, they only differ in the flag that switches tracing on. -/
structure World.Twins (on off : Tracing) (w v : World σ) : Prop where
  observed : ∃ provider, w.Observed provider
  grown : on.Grown w.tracing
  unobserved : v.Unobserved
  kept : v.tracing = off
  environment : w.environment.Alike v.environment
  launched : List.Forall₂ Launched.Alike w.launched v.launched
  rest : v = { w with
    environment := v.environment
    tracing := v.tracing
    launched := v.launched }

namespace World.Twins

variable {on off : Tracing} {w v : World σ}

/-- A change that neither looks at nor touches what twins differ in. -/
theorem step (h : Twins on off w v) {g : World σ → World σ}
    (hg : ∀ (w : World σ) environment tracing launched,
      g { w with environment := environment, tracing := tracing, launched := launched } =
        { g w with environment := environment, tracing := tracing, launched := launched }) :
    Twins on off (g w) (g v) := by
  have hw : g w = { g w with
      environment := w.environment, tracing := w.tracing, launched := w.launched } :=
    hg w w.environment w.tracing w.launched
  have hv : g v = { g w with
      environment := v.environment, tracing := v.tracing, launched := v.launched } :=
    (congrArg g h.rest).trans (hg w v.environment v.tracing v.launched)
  obtain ⟨provider, hobserved⟩ := h.observed
  have hcopy : Twins on off { g w with
      environment := w.environment, tracing := w.tracing, launched := w.launched }
      { g w with environment := v.environment, tracing := v.tracing, launched := v.launched } :=
    ⟨⟨provider, hobserved.provider, hobserved.active⟩, h.grown,
      ⟨h.unobserved.unready, h.unobserved.disabled⟩, h.kept, h.environment, h.launched, rfl⟩
  rw [← hv, ← hw] at hcopy
  exact hcopy

/-- What does not tell what twins differ in is the same of both. -/
theorem sees {β : Type} (h : Twins on off w v) {f : World σ → β}
    (hf : ∀ (w : World σ) environment tracing launched,
      f { w with environment := environment, tracing := tracing, launched := launched } = f w) :
    f v = f w := (congrArg f h.rest).trans (hf w v.environment v.tracing v.launched)

/-- The tracing of the first world grows. -/
theorem traced (h : Twins on off w v) {t : Tracing} (ht : w.tracing.Grown t) :
    Twins on off { w with tracing := t } v := by
  obtain ⟨provider, hobserved⟩ := h.observed
  exact ⟨⟨provider, ht.provider.trans hobserved.provider, hobserved.active.imp_left ht.ready⟩,
    h.grown.trans ht, h.unobserved, h.kept, h.environment, h.launched, h.rest⟩

/-- Other launches, the same but for the flag. -/
theorem relaunched (h : Twins on off w v) {launches launches' : List Launched}
    (hlaunches : List.Forall₂ Launched.Alike launches launches') :
    Twins on off { w with launched := launches } { v with launched := launches' } := by
  obtain ⟨provider, hobserved⟩ := h.observed
  exact ⟨⟨provider, hobserved.provider, hobserved.active⟩, h.grown,
    ⟨h.unobserved.unready, h.unobserved.disabled⟩, h.kept, h.environment, hlaunches,
    congrArg (fun u : World σ => { u with launched := launches' }) h.rest⟩

end World.Twins

open NativeBuild.Action in
/-- Spans keep worlds twins. The one tells the bodies of its spans that there is a span, and the
other tells them that there is none. -/
theorem respectsSpans_twins (on off : Tracing) :
    RespectsSpans (World.Twins on off : World σ → World σ → Prop)
      (fun a b => a = true ∧ b = false) where
  told w v h := by
    obtain ⟨provider, hobserved⟩ := h.observed
    exact ⟨hobserved.takesSpan, h.unobserved.takesSpan⟩
  opened w v name attributes h := by
    obtain ⟨provider, hobserved⟩ := h.observed
    rw [hobserved.opened, h.unobserved.opened]
    exact h.traced (.begin w.tracing name attributes)
  closed w v a b left hallowed h := by
    obtain ⟨rfl, rfl⟩ := hallowed
    exact h.traced (.finish w.tracing left)
  marked a b name value hallowed w v h := by
    obtain ⟨rfl, rfl⟩ := hallowed
    exact ⟨rfl, h.traced (.setAttribute w.tracing name value)⟩

end NativeBuild
