import NativeBuild.Command.Spec

/-
  Environments of children, told name by name. Settings say something of a name when they give it a
  value that is not empty (`Settings.value?`). A child holds what the overlay of its command says of a
  name, and otherwise what its parent holds (`CommandSpec.get?_environment`), be it that the parent's
  environment is inherited as it is or that the whole environment is handed over. Settings come as
  mappings, so a name stands in them once (`UniqueNames`), and that is kept.
-/

namespace NativeBuild

/-- No name stands in the entries twice. -/
def UniqueNames {α : Type} (entries : List (String × α)) : Prop := (entries.map (·.1)).Nodup

instance {α : Type} (entries : List (String × α)) : Decidable (UniqueNames entries) :=
  inferInstanceAs (Decidable (List.Nodup _))

theorem UniqueNames.tail {α : Type} {entry : String × α} {rest : List (String × α)}
    (h : UniqueNames (entry :: rest)) : UniqueNames rest := (List.nodup_cons.mp h).2

/-- A name that stands in front stands nowhere else. -/
theorem UniqueNames.lookup_tail {α : Type} {entry : String × α} {rest : List (String × α)}
    (h : UniqueNames (entry :: rest)) : rest.lookup entry.1 = none := by
  rw [List.lookup_eq_none_iff]
  intro other hmem
  have hne : entry.1 ≠ other.1 := fun heq =>
    (List.nodup_cons.mp h).1 (List.mem_map.mpr ⟨other, hmem, heq.symm⟩)
  simpa using hne

/-- What stands under a name is what a look-up finds. -/
theorem UniqueNames.lookup_of_mem {α : Type} {entries : List (String × α)} (h : UniqueNames entries)
    {name : String} {value : α} (hmem : (name, value) ∈ entries) :
    entries.lookup name = some value := by
  induction entries with
  | nil => cases hmem
  | cons entry rest ih =>
    rcases List.mem_cons.mp hmem with rfl | hrest
    · exact List.lookup_cons_self
    · have hne : (name == entry.1) = false := by
        have hother : name ≠ entry.1 := fun heq =>
          (List.nodup_cons.mp h).1 (List.mem_map.mpr ⟨(name, value), hrest, heq⟩)
        simpa using hother
      rw [List.lookup_cons, hne]
      exact ih h.tail hrest

/-! ## Settings -/

namespace Settings

/-- What settings say of a name: its value, unless that is absent or empty. -/
def value? (s : Settings) (name : String) : Option String :=
  (s.lookup name).join.filter (· != "")

theorem effective_cons (name : String) (value? : Option String) (rest : Settings) :
    effective ((name, value?) :: rest) =
      ((value?.filter (· != "")).map (name, ·)).toList ++ effective rest := by
  cases value? with
  | none => rfl
  | some value =>
    by_cases hvalue : value = ""
    · simp [effective, hvalue]
    · have htold : (some value).filter (· != "") = some value := by simp [hvalue]
      rw [htold]
      simp [effective, hvalue]

/-- Settings that are applied say the same of every name as before they were sorted out. -/
theorem get?_effective {s : Settings} (h : UniqueNames s) (name : String) :
    s.effective.get? name = s.value? name := by
  induction s with
  | nil => rfl
  | cons entry rest ih =>
    obtain ⟨other, given⟩ := entry
    have hrest := ih h.tail
    rw [effective_cons]
    unfold Variables.get? value? at hrest ⊢
    by_cases hname : name = other
    · subst hname
      rw [h.lookup_tail] at hrest
      cases hsaid : given.filter (· != "") with
      | none => simpa [hsaid] using hrest
      | some value => simp [hsaid]
    · have hne : (name == other) = false := by simpa using hname
      rw [List.lookup_cons, hne]
      cases given.filter (· != "") with
      | none => exact hrest
      | some value =>
        rw [Option.map_some, Option.toList_some, List.singleton_append, List.lookup_cons, hne]
        exact hrest

/-- Nothing is applied of settings that have no value but empty ones. -/
theorem effective_eq_nil_iff {s : Settings} :
    s.effective = [] ↔ ∀ name value, (name, some value) ∈ s → value = "" := by
  rw [List.eq_nil_iff_forall_not_mem]
  constructor
  · intro hnone name value hmem
    refine Decidable.byContradiction fun hvalue => ?_
    exact hnone (name, value) (mem_effective.mpr ⟨hmem, hvalue⟩)
  · rintro hempty ⟨name, value⟩ hmem
    obtain ⟨hgiven, hvalue⟩ := mem_effective.mp hmem
    exact hvalue (hempty name value hgiven)

theorem uniqueNames_effective {s : Settings} (h : UniqueNames s) : UniqueNames s.effective := by
  have hsub : (s.effective.map (·.1)).Sublist (s.map (·.1)) := by
    clear h
    induction s with
    | nil => exact .slnil
    | cons entry rest ih =>
      obtain ⟨name, given⟩ := entry
      rw [effective_cons]
      cases given.filter (· != "") with
      | none => exact ih.cons name
      | some value => exact ih.cons_cons name
  exact h.sublist hsub

end Settings

/-! ## Variables -/

namespace Variables

/-- Variables that are set come before those that were there. -/
theorem get?_overlay (env : Variables) {more : Variables} (h : UniqueNames more) (name : String) :
    (env.overlay more).get? name = (more.get? name).or (env.get? name) := by
  induction more generalizing env with
  | nil => rfl
  | cons entry rest ih =>
    obtain ⟨other, value⟩ := entry
    have hrest : (env.overlay ((other, value) :: rest)).get? name =
        (get? rest name).or ((env.put other value).get? name) := ih _ h.tail
    rw [hrest]
    by_cases hname : name = other
    · subst hname
      rw [get?_put_self, show get? rest name = none from h.lookup_tail]
      simp [get?]
    · have hne : (name == other) = false := by simpa using hname
      rw [get?_put_of_ne env value hname]
      simp only [get?, List.lookup_cons, hne]

theorem names_put (env : Variables) (name value : String) :
    (env.put name value).map (·.1) =
      if name ∈ env.map (·.1) then env.map (·.1) else env.map (·.1) ++ [name] := by
  induction env with
  | nil => rfl
  | cons entry rest ih =>
    obtain ⟨other, old⟩ := entry
    by_cases hname : other = name
    · simp [put, hname]
    · have hput : put ((other, old) :: rest) name value = (other, old) :: put rest name value :=
        if_neg hname
      rw [hput, List.map_cons, ih]
      by_cases hmem : name ∈ rest.map (·.1)
      · simp [hmem]
      · simp [hmem, Ne.symm hname]

theorem uniqueNames_put {env : Variables} (h : UniqueNames env) (name value : String) :
    UniqueNames (env.put name value) := by
  unfold UniqueNames
  rw [names_put]
  split
  · exact h
  · next hmem =>
    refine List.nodup_append.mpr ⟨h, by simp, fun other hother last hlast heq => hmem ?_⟩
    rwa [heq, List.mem_singleton.mp hlast] at hother

theorem uniqueNames_overlay {env : Variables} (h : UniqueNames env) (more : Variables) :
    UniqueNames (env.overlay more) := by
  induction more generalizing env with
  | nil => exact h
  | cons entry rest ih => exact ih (uniqueNames_put h entry.1 entry.2)

end Variables

/-! ## Children -/

namespace CommandSpec

variable {spec : CommandSpec} {parent : Variables}

/-- Without an overlay that says something the child gets what its parent has. -/
theorem environment_of_silent (h : spec.overlay.effective = []) : spec.environment parent = parent := by
  rw [environment, environment?_eq_none_iff.mpr h]
  rfl

/-- Either way the child gets its parent's variables with those of the overlay set. -/
theorem environment_eq_overlay (spec : CommandSpec) (parent : Variables) :
    spec.environment parent = parent.overlay spec.overlay.effective := by
  rw [environment, environment?]
  split
  · next hnil => rw [hnil]; rfl
  · rfl

/-- A child holds what the overlay says of a name, and otherwise what its parent holds. -/
theorem get?_environment (h : UniqueNames spec.overlay) (parent : Variables) (name : String) :
    (spec.environment parent).get? name =
      (spec.overlay.value? name).or (parent.get? name) := by
  rw [environment_eq_overlay, Variables.get?_overlay parent (Settings.uniqueNames_effective h),
    Settings.get?_effective h]

theorem uniqueNames_environment (h : UniqueNames parent) (spec : CommandSpec) :
    UniqueNames (spec.environment parent) := by
  rw [environment_eq_overlay]
  exact Variables.uniqueNames_overlay h _

end CommandSpec

end NativeBuild
