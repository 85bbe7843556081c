import NativeBuild.Proofs.FileTree.Furnishing

/-
  What the making of a directory adds to a tree. Each entry that is new is the directory that some
  of the first names of the path lead to (`Paved.resolved`), whatever links and `..` they go
  through, and an empty directory stands at it or below it (`exists_empty_below`). Also when the
  making stops halfway, what was made until then is of this kind (`paved_makeDirectories`). When it
  succeeds, there is something new just when no directory was there (`makeDirectories_adds`).
-/

namespace NativeBuild.FileTree

open NativeBuild.Path

/-- Something stands at a place of the second tree, and nothing did in the first. -/
def New (t u : FileTree) (place : Location) : Prop :=
  t.find? place = none ∧ (u.find? place).isSome = true

/-- The second tree is the first with directories made on the way of a path. -/
structure Paved (t u : FileTree) (cwd : Location) (p : Path) : Prop where
  furnished : t.Furnished u
  legal : u.NamesLegal
  /-- The first names of the path, as many as it takes, lead to any new entry. -/
  resolved : ∀ place, t.New u place → ∃ names, names <+: p.names ∧
    u.reach cwd true (Path.mk p.anchor names).toString = .ok (.found place (.directory 0o755))

section

variable {t u v : FileTree} {cwd place : Location} {p : Path} {anchor : Anchor}

theorem not_new_self (t : FileTree) (place : Location) : ¬ t.New t place := by
  rintro ⟨hnone, hsome⟩
  rw [hnone] at hsome
  cases hsome

theorem Furnished.directory_of_new (h : t.Furnished u) (hnew : t.New u place) :
    u.find? place = some (.directory 0o755) := by
  rcases h place with hsame | ⟨-, hmade⟩
  · rw [New, hsame, hnew.1] at hnew
    cases hnew.2
  · exact hmade

/-- What is new after two changes is new after one of them. -/
theorem New.split (h : t.New v place) : t.New u place ∨ u.New v place := by
  cases hfound : u.find? place with
  | none => exact .inr ⟨hfound, h.2⟩
  | some node => exact .inl ⟨h.1, by rw [hfound]; rfl⟩

theorem Grows.new (hgrows : t.Grows u) (h : u.New v place) : t.New v place := by
  cases hfound : t.find? place with
  | none => exact ⟨hfound, h.2⟩
  | some node => exact absurd ((hgrows _ _ hfound).symm.trans h.1) (Option.some_ne_none node)

/-! ## What is made -/

namespace Paved

theorem refl (hlegal : t.NamesLegal) : t.Paved t cwd p :=
  ⟨.refl t, hlegal, fun place hnew => absurd hnew (not_new_self t place)⟩

/-- What was led to after the first change is led to after the second. -/
theorem trans (h : t.Paved u cwd p) (h' : u.Paved v cwd p) : t.Paved v cwd p := by
  refine ⟨h.furnished.trans h'.furnished, h'.legal, fun place hnew => ?_⟩
  rcases hnew.split with hfirst | hsecond
  · obtain ⟨names, hbegins, hreach⟩ := h.resolved place hfirst
    exact ⟨names, hbegins, h'.furnished.reach h.legal hreach⟩
  · exact h'.resolved place hsecond

/-- The way of a path is part of that of a longer one. -/
theorem lengthen {names : List String} (h : t.Paved u cwd ⟨anchor, names⟩) (more : List String) :
    t.Paved u cwd ⟨anchor, names ++ more⟩ := by
  refine ⟨h.furnished, h.legal, fun place hnew => ?_⟩
  obtain ⟨first, hbegins, hreach⟩ := h.resolved place hnew
  exact ⟨first, hbegins.trans (List.prefix_append _ _), hreach⟩

end Paved

theorem paved_makeDirectory (hlegal : t.NamesLegal)
    (hnames : ∀ name ∈ p.names, name ≠ ".." → Legal name)
    (h : t.makeDirectory cwd p.toString = .ok u) : t.Paved u cwd p := by
  obtain ⟨place, hfree, rfl, hmade, hreach⟩ := makeDirectory_made hlegal hnames h
  refine ⟨.add hfree, hmade, fun other hnew => ?_⟩
  by_cases hother : other = place
  · rw [hother]
    exact ⟨p.names, List.prefix_refl _, hreach⟩
  · obtain ⟨hnone, hsome⟩ := hnew
    rw [find?_add_of_ne t _ hother, hnone] at hsome
    cases hsome

/-- The making of a directory with its missing parents paves the way of its path, however it ends.
The recursion is on the names of the path, last name first. -/
theorem paved_makeAll (hlegal : t.NamesLegal) {names : List String}
    (hnames : ∀ name ∈ names, name ≠ ".." → Legal name) :
    t.Paved (t.makeAll cwd anchor names).2 cwd ⟨anchor, names.reverse⟩ := by
  induction names with
  | nil =>
    unfold makeAll
    dsimp only
    split
    · next made hmade => exact paved_makeDirectory hlegal hnames hmade
    · exact .refl hlegal
    · exact .refl hlegal
  | cons name before ih =>
    have hreversed : ∀ n ∈ (Path.mk anchor (before.reverse ++ [name])).names,
        n ≠ ".." → Legal n :=
      fun n hn => hnames n (by simpa [or_comm] using hn)
    have hparents := (ih fun n hn => hnames n (List.mem_cons_of_mem _ hn)).lengthen [name]
    rw [List.reverse_cons]
    unfold makeAll
    dsimp only
    split
    · next made hmade => exact paved_makeDirectory hlegal hreversed hmade
    · split
      · next made hall =>
        rw [hall] at hparents
        exact hparents
      · next made hall =>
        rw [hall] at hparents
        split
        · next done hmade =>
          exact hparents.trans (paved_makeDirectory hparents.legal hreversed hmade)
        · exact hparents
        · exact hparents
    · exact .refl hlegal

theorem paved_makeDirectories (hlegal : t.NamesLegal)
    (hnames : ∀ name ∈ p.names, name ≠ ".." → Legal name) :
    t.Paved (t.makeDirectories cwd p).2 cwd p := by
  have hall : t.Paved (t.makeAll cwd p.anchor p.names.reverse).2 cwd
      ⟨p.anchor, p.names.reverse.reverse⟩ :=
    paved_makeAll hlegal fun n hn => hnames n (List.mem_reverse.mp hn)
  rwa [List.reverse_reverse] at hall

/-! ## Whether anything is made -/

theorem new_makeDirectory {path : String} (h : t.makeDirectory cwd path = .ok u) :
    ∃ place, t.New u place := by
  obtain ⟨parent, name, hreach, rfl⟩ := makeDirectory_eq_ok h
  unfold reach at hreach
  split at hreach
  · cases hreach
  split at hreach
  · cases hreach
  have hfree := (endsFree_of_walk _ _ _ hreach).free
  exact ⟨parent ++ [name], hfree, by rw [find?_add_self t _ hfree]; rfl⟩

/-- A making that succeeded added something, or the directory was there and nothing was changed. -/
theorem makeAll_adds {names : List String} (h : t.makeAll cwd anchor names = (.ok (), u)) :
    (∃ place, t.New u place) ∨
      u = t ∧ t.isDirectory cwd (Path.mk anchor names.reverse).toString = .ok true := by
  induction names generalizing u with
  | nil =>
    unfold makeAll at h
    dsimp only at h
    split at h
    · next made hmade =>
      cases h
      exact .inl (new_makeDirectory hmade)
    · cases h
    · obtain ⟨haccept, rfl⟩ := Prod.mk.inj h
      exact .inr ⟨rfl, isDirectory_of_acceptDirectory haccept⟩
  | cons name before ih =>
    rw [List.reverse_cons]
    unfold makeAll at h
    dsimp only at h
    split at h
    · next made hmade =>
      cases h
      exact .inl (new_makeDirectory hmade)
    · next hmissing =>
      split at h
      · cases h
      next made hall =>
      split at h
      · next done hmade =>
        cases h
        have hgrows := t.grows_makeAll cwd anchor before
        rw [hall] at hgrows
        exact .inl ((new_makeDirectory hmade).imp fun _ => hgrows.new)
      · cases h
      · next e hother hrefused =>
        obtain ⟨-, rfl⟩ := Prod.mk.inj h
        rcases ih hall with hnew | ⟨rfl, -⟩
        · exact .inl hnew
        · -- nothing was added to the parents, so the path is missing as it was before
          rw [hmissing] at hrefused
          exact absurd (Except.error.inj hrefused).symm hother
    · obtain ⟨haccept, rfl⟩ := Prod.mk.inj h
      exact .inr ⟨rfl, isDirectory_of_acceptDirectory haccept⟩

/-- A directory that was not there and is made is something new. -/
theorem makeDirectories_adds (h : t.makeDirectories cwd p = (.ok (), u))
    (hfound : t.isDirectory cwd p.toString ≠ .ok true) : ∃ place, t.New u place := by
  rcases makeAll_adds h with hnew | ⟨-, hthere⟩
  · exact hnew
  · rw [List.reverse_reverse] at hthere
    exact absurd hthere hfound

theorem isDirectory_of_reach {path : String} {mode : Nat}
    (h : t.reach cwd true path = .ok (.found place (.directory mode))) :
    t.isDirectory cwd path = .ok true := by
  rw [isDirectory, h]

/-! ## Empty directories -/

/-- Whatever stands below a place stands below something. -/
theorem Rooted.isSome_of_prefix (h : t.Rooted) {below : Location} (hbegins : place <+: below)
    (hfound : (t.find? below).isSome = true) : (t.find? place).isSome = true := by
  obtain ⟨rest, rfl⟩ := hbegins
  induction rest generalizing place with
  | nil => rwa [List.append_nil] at hfound
  | cons name rest ih =>
    rw [List.append_cons] at hfound
    exact h.isSome_parent (ih hfound)

theorem isSome_find?_of_mem {entry : Entry} (h : entry ∈ t.entries) :
    (t.find? entry.place).isSome = true := by
  unfold find? entryAt?
  split
  · rfl
  · rw [Option.isSome_map, List.find?_isSome]
    exact ⟨entry, h, beq_self_eq_true _⟩

theorem exists_mem_of_find? (hne : place ≠ []) (h : (t.find? place).isSome = true) :
    ∃ entry ∈ t.entries, entry.place = place := by
  rw [find?_of_ne_nil _ hne, entryAt?, Option.isSome_map, List.find?_isSome] at h
  obtain ⟨entry, hmem, hplace⟩ := h
  exact ⟨entry, hmem, by simpa using hplace⟩

/-- Something new is an empty directory, or an empty directory stands below it: the deepest of the
entries there is new as well, and nothing is in it. -/
theorem Furnished.exists_empty_below (h : t.Furnished u) (hrooted : t.Rooted)
    (hnew : t.New u place) : ∃ below, place <+: below ∧
      u.find? below = some (.directory 0o755) ∧ u.children below = [] := by
  have hne : place ≠ [] := by
    rintro rfl
    cases (find?_root t).symm.trans hnew.1
  obtain ⟨entry, hentry, hplace⟩ := exists_mem_of_find? hne hnew.2
  have hsome : (u.entries.map Entry.place).filter (place.isPrefixOf ·) ≠ [] := by
    refine List.ne_nil_of_mem (a := place) (List.mem_filter.mpr ⟨?_, ?_⟩)
    · exact List.mem_map.mpr ⟨entry, hentry, hplace⟩
    · exact List.isPrefixOf_iff_prefix.mpr (List.prefix_refl _)
  obtain ⟨below, hbelow⟩ : ∃ below, below =
    ((u.entries.map Entry.place).filter (place.isPrefixOf ·)).maxOn List.length hsome := ⟨_, rfl⟩
  obtain ⟨hmem, hbegins⟩ := List.mem_filter.mp (hbelow ▸ List.maxOn_mem)
  have hbegins := List.isPrefixOf_iff_prefix.mp hbegins
  obtain ⟨deepest, hdeepest, rfl⟩ := List.mem_map.mp hmem
  have hfree : t.find? deepest.place = none := by
    cases hfound : t.find? deepest.place with
    | none => rfl
    | some node =>
      have hthere := hrooted.isSome_of_prefix hbegins (by rw [hfound]; rfl)
      rw [hnew.1] at hthere
      cases hthere
  refine ⟨deepest.place, hbegins, h.directory_of_new ⟨hfree, isSome_find?_of_mem hdeepest⟩, ?_⟩
  refine List.filterMap_eq_nil_iff.mpr fun child hchild => ?_
  split
  · next hparent =>
    by_cases hroot : child.place = []
    · rw [hroot]
      rfl
    · -- a child would be an entry that is deeper still
      have hlength : child.place.length = deepest.place.length + 1 := by
        rw [← hparent, List.length_dropLast]
        exact (Nat.sub_add_cancel (List.length_pos_iff.mpr hroot)).symm
      have hcandidate :
          child.place ∈ (u.entries.map Entry.place).filter (place.isPrefixOf ·) := by
        refine List.mem_filter.mpr ⟨List.mem_map_of_mem hchild, ?_⟩
        refine List.isPrefixOf_iff_prefix.mpr (hbegins.trans ?_)
        rw [← hparent]
        exact List.dropLast_prefix _
      have hle := List.le_apply_maxOn_of_mem (f := List.length) hcandidate
      rw [← hbelow] at hle
      omega
  · rfl

end

end NativeBuild.FileTree
