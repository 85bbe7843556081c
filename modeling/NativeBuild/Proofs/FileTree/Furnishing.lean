import NativeBuild.Proofs.FileTree.Absolute
import NativeBuild.Proofs.FileTree.Growth

/-
  Making a directory with its missing parents. The tree that comes out is the one before with more
  directories in it, and these stand where nothing stood (`Furnished`), so whatever led to a directory
  leads there still (`Furnished.reach`) and no link is new. The directory that was asked for is there
  (`provides_makeDirectories`), and its canonical form is the one that the path had before anything
  was made (`Provides.canonical`): what is missing in the tree before is spelled as it will be made.
-/

namespace NativeBuild.FileTree

open NativeBuild.Path

/-! ## More directories -/

/-- The second tree is the first one with more directories, where nothing stood. -/
def Furnished (t u : FileTree) : Prop :=
  ∀ place, u.find? place = t.find? place ∨
    (t.find? place = none ∧ u.find? place = some (.directory 0o755))

namespace Furnished

variable {t u v : FileTree}

theorem refl (t : FileTree) : t.Furnished t := fun _ => .inl rfl

theorem trans (h : t.Furnished u) (h' : u.Furnished v) : t.Furnished v := by
  intro place
  rcases h place with hsame | ⟨hfree, hmade⟩
  · rw [← hsame]
    exact h' place
  · rcases h' place with hsame | ⟨hnone, -⟩
    · exact .inr ⟨hfree, hsame.trans hmade⟩
    · rw [hmade] at hnone
      cases hnone

theorem add {place : Location} (h : t.find? place = none) :
    t.Furnished (t.add place (.directory 0o755)) := by
  intro other
  by_cases hother : other = place
  · subst hother
    exact .inr ⟨h, find?_add_self t _ h⟩
  · exact .inl (find?_add_of_ne t _ hother)

theorem grows (h : t.Furnished u) : t.Grows u := by
  intro place node hfound
  rcases h place with hsame | ⟨hfree, -⟩
  · rw [hsame, hfound]
  · rw [hfree] at hfound
    cases hfound

/-- No link is new. -/
theorem of_link (h : t.Furnished u) {place : Location} {target : String}
    (hfound : u.find? place = some (.link target)) : t.find? place = some (.link target) := by
  rcases h place with hsame | ⟨-, hmade⟩
  · rw [← hsame, hfound]
  · rw [hmade] at hfound
    cases hfound

/-- Names are looked up wherever they were: also in the new directories. -/
theorem permits (h : t.Furnished u) (place : Location) :
    u.permits place .execute = t.permits place .execute := by
  unfold FileTree.permits
  rcases h place with hsame | ⟨hfree, hmade⟩
  · rw [hsame]
  · rw [hfree, hmade]
    rfl

theorem directoryAt (h : t.Furnished u) (place : Location) :
    u.directoryAt place = t.directoryAt place := by
  unfold FileTree.directoryAt
  rcases h place with hsame | ⟨hfree, hmade⟩
  · rw [hsame]
  · rw [hfree, hmade]
    rfl

theorem looksUp (h : t.Furnished u) {here : Location} {name : String} {node : Node}
    (hname : t.LooksUp here name node) : u.LooksUp here name node :=
  ⟨(h.permits here).trans hname.right, hname.size, h.grows _ _ hname.found⟩

theorem spelled (h : t.Furnished u) {cwd here : Location} {p : Path} (hp : t.Spelled cwd p here) :
    u.Spelled cwd p here := by
  induction hp with
  | start hanchor => exact .start hanchor
  | child _ hname hlooks ih => exact .child ih hname (h.looksUp hlooks)
  | up _ hright hanchor hnames ih => exact .up ih ((h.permits _).trans hright) hanchor hnames

/-- The links on a way are the same. -/
theorem linkPaths (h : t.Furnished u) (links : Nat) (p : Path) (here : Location)
    (names : List String) : u.linkPaths links p here names = t.linkPaths links p here names := by
  have hfrom : ∀ onLink p here names,
      u.linkPathsFrom onLink p here names = t.linkPathsFrom onLink p here names := by
    intro onLink p here names
    induction names generalizing p here with
    | nil => rfl
    | cons name rest ih =>
      unfold linkPathsFrom
      rw [ih, ih, ih]
      rcases h (here ++ [name]) with hsame | ⟨hfree, hmade⟩
      · rw [hsame]
      · rw [hfree, hmade]
  induction links generalizing p here names with
  | zero => exact hfrom _ _ _ _
  | succ links ih =>
    unfold FileTree.linkPaths
    rw [hfrom]
    congr 1
    funext p here target rest
    exact ih _ _ _

theorem linksMet (h : t.Furnished u) (cwd : Location) (path : String) :
    u.linksMet cwd path = t.linksMet cwd path := h.linkPaths _ _ _ _

theorem canLookUp (h : t.Furnished u) {cwd : Location} {path : String}
    (hlooks : t.CanLookUp cwd path) : u.CanLookUp cwd path := by
  unfold CanLookUp
  rw [h.linksMet]
  exact hlooks

/-- A way to a directory leads there still, links aside. -/
theorem descend (h : t.Furnished u) (hlegal : t.NamesLegal) {place : Location} {mode : Nat}
    {onLink onLink' : Location → String → List String → Except Errno Reached}
    (hlink : ∀ here target rest, onLink here target rest = .ok (.found place (.directory mode)) →
      onLink' here target rest = .ok (.found place (.directory mode)))
    (names : List String) (here : Location)
    (hway : t.descend true onLink here names = .ok (.found place (.directory mode))) :
    u.descend true onLink' here names = .ok (.found place (.directory mode)) := by
  induction names generalizing here with
  | nil =>
    rw [descend_nil] at hway ⊢
    rw [h.directoryAt]
    exact hway
  | cons name rest ih =>
    rcases descend_cases hway with ⟨hright, rfl, hrest⟩ | ⟨hright, rfl, hrest⟩ |
      ⟨mode', -, -, hlooks, hrest⟩ | ⟨target, -, -, hlooks, hrest⟩
    · exact (descend_dot ((h.permits here).trans hright)).trans (ih here hrest)
    · exact (descend_up ((h.permits here).trans hright)).trans (ih here.dropLast hrest)
    · exact (descend_directory (hlooks.legal hlegal).plain (h.looksUp hlooks)).trans (ih _ hrest)
    · exact (descend_link (hlooks.legal hlegal).plain (h.looksUp hlooks)).trans (hlink _ _ _ hrest)

theorem walk (h : t.Furnished u) (hlegal : t.NamesLegal) {place : Location} {mode : Nat}
    (links : Nat) (here : Location) (names : List String)
    (hway : t.walk true links here names = .ok (.found place (.directory mode))) :
    u.walk true links here names = .ok (.found place (.directory mode)) := by
  induction links generalizing here names with
  | zero =>
    refine h.descend hlegal (fun _ _ _ hnone => ?_) names here hway
    cases hnone
  | succ links ih => exact h.descend hlegal (fun _ _ _ hrest => ih _ _ hrest) names here hway

/-- What led to a directory leads there still. -/
theorem reach (h : t.Furnished u) (hlegal : t.NamesLegal) {cwd place : Location} {path : String}
    {mode : Nat} (hway : t.reach cwd true path = .ok (.found place (.directory mode))) :
    u.reach cwd true path = .ok (.found place (.directory mode)) := by
  unfold FileTree.reach at hway ⊢
  split at hway
  · cases hway
  next hne =>
  split at hway
  · cases hway
  next hshort =>
  rw [if_neg hne, if_neg hshort]
  exact h.walk hlegal _ _ _ hway

theorem goesPlainly (h : t.Furnished u) {cwd : Location} {path : String}
    (hpath : t.GoesPlainly cwd path) : u.GoesPlainly cwd path :=
  ⟨hpath.plain, hpath.short, h.canLookUp hpath.looksUp, h.canLookUp hpath.looksUpAbsolute⟩

theorem leadsPlainly (h : t.Furnished u) (hlegal : t.NamesLegal) {cwd place : Location}
    {path : String} (hpath : t.LeadsPlainly cwd path place) : u.LeadsPlainly cwd path place :=
  ⟨h.goesPlainly hpath.toGoesPlainly, hpath.reached.imp fun _ hreach => h.reach hlegal hreach⟩

end Furnished

/-! ## Making a directory -/

/-- A way ends where nothing stands, in a directory that is there. -/
structure EndsFree (t : FileTree) (names : List String) (parent : Location) (name : String) :
    Prop where
  last : names.getLast? = some name
  named : name ≠ "."
  down : name ≠ ".."
  free : t.find? (parent ++ [name]) = none
  inside : (t.find? parent).isSome = true

section Missing

variable {t u : FileTree} {parent : Location} {name : String}

/-- What the first name on a way to a free place does. A link is followed, and is not the last. -/
theorem descend_missing_cases {onLink : Location → String → List String → Except Errno Reached}
    {here : Location} {first : String} {rest : List String}
    (h : t.descend false onLink here (first :: rest) = .ok (.missing parent name)) :
    (t.permits here .execute = true ∧ first = "." ∧
      t.descend false onLink here rest = .ok (.missing parent name)) ∨
    (t.permits here .execute = true ∧ first = ".." ∧
      t.descend false onLink here.dropLast rest = .ok (.missing parent name)) ∨
    (∃ mode, first ≠ "." ∧ first ≠ ".." ∧ t.LooksUp here first (.directory mode) ∧
      t.descend false onLink (here ++ [first]) rest = .ok (.missing parent name)) ∨
    (∃ target, first ≠ "." ∧ first ≠ ".." ∧ t.LooksUp here first (.link target) ∧ rest ≠ [] ∧
      onLink here target rest = .ok (.missing parent name)) ∨
    (t.permits here .execute = true ∧ first ≠ "." ∧ first ≠ ".." ∧
      first.utf8ByteSize ≤ nameLimit ∧ rest = [] ∧ here = parent ∧ first = name ∧
      t.EndsFree [first] parent name) := by
  unfold descend at h
  split at h
  · cases h
  next hright =>
  have hright : t.permits here .execute = true := by simpa using hright
  split at h
  · next hdot => exact .inl ⟨hright, hdot, h⟩
  next hdot =>
  split at h
  · next hup => exact .inr (.inl ⟨hright, hup, h⟩)
  next hup =>
  split at h
  · cases h
  next hsize =>
  have hsize : first.utf8ByteSize ≤ nameLimit := Nat.not_lt.mp hsize
  split at h
  · next mode hfound => exact .inr (.inr (.inl ⟨mode, hdot, hup, ⟨hright, hsize, hfound⟩, h⟩))
  · next target hfound =>
    split at h
    · cases h
    next hlast =>
    refine .inr (.inr (.inr (.inl ⟨target, hdot, hup, ⟨hright, hsize, hfound⟩, ?_, h⟩)))
    exact fun hrest => hlast ⟨hrest, rfl⟩
  · split at h <;> cases h
  · next hfree =>
    split at h
    · next hend =>
      obtain ⟨rfl, rfl⟩ := Reached.missing.inj (Except.ok.inj h)
      exact .inr (.inr (.inr (.inr ⟨hright, hdot, hup, hsize, hend.1, rfl, rfl, rfl, hdot, hup,
        hfree, hend.2⟩)))
    · cases h

/-- A way to a free place ends there, links aside. -/
theorem endsFree_of_descend {onLink : Location → String → List String → Except Errno Reached}
    (hlink : ∀ here target rest, rest ≠ [] → onLink here target rest = .ok (.missing parent name) →
      t.EndsFree rest parent name)
    (names : List String) (here : Location)
    (h : t.descend false onLink here names = .ok (.missing parent name)) :
    t.EndsFree names parent name := by
  have hcons : ∀ {first : String} {rest : List String}, t.EndsFree rest parent name →
      t.EndsFree (first :: rest) parent name := by
    intro first rest hrest
    refine ⟨?_, hrest.named, hrest.down, hrest.free, hrest.inside⟩
    rw [List.getLast?_cons, hrest.last]
    rfl
  induction names generalizing here with
  | nil => cases h
  | cons first rest ih =>
    rcases descend_missing_cases h with ⟨-, -, hrest⟩ | ⟨-, -, hrest⟩ | ⟨_, -, -, -, hrest⟩ |
      ⟨target, -, -, -, hne, hrest⟩ | ⟨-, -, -, -, rfl, -, -, hends⟩
    · exact hcons (ih _ hrest)
    · exact hcons (ih _ hrest)
    · exact hcons (ih _ hrest)
    · exact hcons (hlink _ _ _ hne hrest)
    · exact hends

theorem endsFree_of_walk (links : Nat) (here : Location) (names : List String)
    (h : t.walk false links here names = .ok (.missing parent name)) :
    t.EndsFree names parent name := by
  induction links generalizing here names with
  | zero =>
    refine endsFree_of_descend (fun _ _ _ _ hnone => ?_) names here h
    cases hnone
  | succ links ih =>
    refine endsFree_of_descend (fun here target rest hne hrest => ?_) names here h
    obtain ⟨hlast, hnamed, hdown, hfree, hinside⟩ := ih _ _ hrest
    rw [List.getLast?_append, List.getLast?_eq_some_getLast hne, Option.some_or,
      ← List.getLast?_eq_some_getLast hne] at hlast
    exact ⟨hlast, hnamed, hdown, hfree, hinside⟩

/-- A way to a free place leads to the directory that was made there, links aside. -/
theorem descend_made (h : t.Furnished u) (hlegal : t.NamesLegal) (hname : Legal name)
    (hmade : u.find? (parent ++ [name]) = some (.directory 0o755))
    {onLink onLink' : Location → String → List String → Except Errno Reached}
    (hlink : ∀ here target rest, onLink here target rest = .ok (.missing parent name) →
      onLink' here target rest = .ok (.found (parent ++ [name]) (.directory 0o755)))
    (names : List String) (here : Location)
    (hway : t.descend false onLink here names = .ok (.missing parent name)) :
    u.descend true onLink' here names = .ok (.found (parent ++ [name]) (.directory 0o755)) := by
  induction names generalizing here with
  | nil => cases hway
  | cons first rest ih =>
    rcases descend_missing_cases hway with ⟨hright, rfl, hrest⟩ | ⟨hright, rfl, hrest⟩ |
      ⟨mode, -, -, hlooks, hrest⟩ | ⟨target, -, -, hlooks, -, hrest⟩ |
      ⟨hright, -, -, hsize, rfl, rfl, rfl, -⟩
    · exact (descend_dot ((h.permits here).trans hright)).trans (ih here hrest)
    · exact (descend_up ((h.permits here).trans hright)).trans (ih here.dropLast hrest)
    · exact (descend_directory (hlooks.legal hlegal).plain (h.looksUp hlooks)).trans (ih _ hrest)
    · exact (descend_link (hlooks.legal hlegal).plain (h.looksUp hlooks)).trans (hlink _ _ _ hrest)
    · refine (descend_directory hname.plain ⟨(h.permits here).trans hright, hsize, hmade⟩).trans ?_
      rw [descend_nil, FileTree.directoryAt, hmade]
      rfl

theorem walk_made (h : t.Furnished u) (hlegal : t.NamesLegal) (hname : Legal name)
    (hmade : u.find? (parent ++ [name]) = some (.directory 0o755)) (links : Nat) (here : Location)
    (names : List String) (hway : t.walk false links here names = .ok (.missing parent name)) :
    u.walk true links here names = .ok (.found (parent ++ [name]) (.directory 0o755)) := by
  induction links generalizing here names with
  | zero =>
    refine descend_made h hlegal hname hmade (fun _ _ _ hnone => ?_) names here hway
    cases hnone
  | succ links ih =>
    exact descend_made h hlegal hname hmade (fun _ _ _ hrest => ih _ _ hrest) names here hway

end Missing

/-- The second tree is the first with the directory of a path made in it, and what was missing on
the way there. -/
structure Provides (t made : FileTree) (cwd : Location) (p : Path) : Prop where
  furnished : t.Furnished made
  legal : made.NamesLegal
  leads : ∃ place mode, made.reach cwd true p.toString = .ok (.found place (.directory mode))

section Making

variable {t made : FileTree} {cwd : Location} {anchor : Anchor}

theorem NamesLegal.add (h : t.NamesLegal) {place : Location} {node : Node}
    (hplace : ∀ name ∈ place, Legal name) : (t.add place node).NamesLegal := by
  intro entry hentry
  rw [entries_add] at hentry
  rcases List.mem_append.mp hentry with hold | hnew
  · exact h entry hold
  · rw [List.mem_singleton.mp hnew]
    exact hplace

/-- The name that a path is missing is one of its own. -/
theorem EndsFree.mem_names {p : Path} {parent : Location} {name : String}
    (h : t.EndsFree (steps p.toString) parent name) (hnames : ∀ name ∈ p.names, Part name) :
    name ∈ p.names := by
  have hlast := h.last
  by_cases hne : p.names = []
  · have hsteps : steps p.toString = ["."] := by
      obtain ⟨anchor, names⟩ := p
      cases hne
      cases anchor <;> decide
    rw [hsteps] at hlast
    exact absurd (Option.some.inj hlast).symm h.named
  · rw [steps_toString hne hnames] at hlast
    exact List.mem_of_getLast? hlast

/-- The directory that is made stands where nothing stood, and the path leads to it. -/
theorem makeDirectory_made {p : Path} (hlegal : t.NamesLegal)
    (hnames : ∀ name ∈ p.names, name ≠ ".." → Legal name)
    (h : t.makeDirectory cwd p.toString = .ok made) :
    ∃ place, t.find? place = none ∧ made = t.add place (.directory 0o755) ∧ made.NamesLegal ∧
      made.reach cwd true p.toString = .ok (.found place (.directory 0o755)) := by
  obtain ⟨parent, name, hreach, rfl⟩ := makeDirectory_eq_ok h
  unfold reach at hreach
  split at hreach
  · cases hreach
  next hempty =>
  split at hreach
  · cases hreach
  next hshort =>
  have hends := endsFree_of_walk _ _ _ hreach
  have hparts : ∀ n ∈ p.names, Part n := fun n hn => by
    by_cases hup : n = ".."
    · rw [hup]
      exact part_up
    · exact (hnames n hn hup).part
  have hname := hnames name (hends.mem_names hparts) hends.down
  obtain ⟨node, hparent⟩ := Option.isSome_iff_exists.mp hends.inside
  refine ⟨parent ++ [name], hends.free, rfl, hlegal.add ?_, ?_⟩
  · exact List.forall_mem_append.mpr
      ⟨fun n hn => hlegal.of_found hparent hn, List.forall_mem_singleton.mpr hname⟩
  · rw [reach, if_neg hempty, if_neg hshort]
    exact walk_made (.add hends.free) hlegal hname (find?_add_self t _ hends.free) _ _ _ hreach

/-- The directory that was made is there. -/
theorem provides_makeDirectory {p : Path} (hlegal : t.NamesLegal)
    (hnames : ∀ name ∈ p.names, name ≠ ".." → Legal name)
    (h : t.makeDirectory cwd p.toString = .ok made) : t.Provides made cwd p := by
  obtain ⟨place, hfree, rfl, hmade, hreach⟩ := makeDirectory_made hlegal hnames h
  exact ⟨.add hfree, hmade, place, 0o755, hreach⟩

/-- A directory that was there is there. -/
theorem provides_of_isDirectory {p : Path} (hlegal : t.NamesLegal)
    (h : t.isDirectory cwd p.toString = .ok true) : t.Provides t cwd p := by
  refine ⟨.refl t, hlegal, ?_⟩
  unfold isDirectory at h
  cases hreach : t.reach cwd true p.toString with
  | error e =>
    rw [hreach] at h
    cases e <;> cases h
  | ok reached =>
    rw [hreach] at h
    cases reached with
    | missing parent name => cases h
    | found place node =>
      cases node with
      | directory mode => exact ⟨place, mode, rfl⟩
      | file content mode => cases h
      | link target => cases h
      | pipe mode => cases h

theorem isDirectory_of_acceptDirectory {path : String} {e : Errno}
    (h : t.acceptDirectory cwd path e = .ok ()) : t.isDirectory cwd path = .ok true := by
  unfold acceptDirectory at h
  split at h
  · next hfound => exact hfound
  · cases h
  · cases h

theorem provides_acceptDirectory {p : Path} {e : Errno} (hlegal : t.NamesLegal)
    (h : t.acceptDirectory cwd p.toString e = .ok ()) : t.Provides t cwd p :=
  provides_of_isDirectory hlegal (isDirectory_of_acceptDirectory h)

theorem Provides.after {u : FileTree} {p : Path} (h : u.Provides made cwd p) (hbefore : t.Furnished u) :
    t.Provides made cwd p := ⟨hbefore.trans h.furnished, h.legal, h.leads⟩

/-- A directory that was made with its missing parents is there. -/
theorem provides_makeAll (hlegal : t.NamesLegal) {names : List String}
    (hnames : ∀ name ∈ names, name ≠ ".." → Legal name) (h : t.makeAll cwd anchor names = (.ok (), made)) :
    t.Provides made cwd ⟨anchor, names.reverse⟩ := by
  induction names generalizing made with
  | nil =>
    unfold makeAll at h
    dsimp only at h
    split at h
    · next hmade =>
      cases h
      exact provides_makeDirectory hlegal hnames hmade
    · cases h
    · next e _ _ =>
      obtain ⟨haccept, rfl⟩ := Prod.mk.inj h
      exact provides_acceptDirectory hlegal haccept
  | cons name before ih =>
    have hreversed : ∀ n ∈ (Path.mk anchor (before.reverse ++ [name])).names,
        n ≠ ".." → Legal n :=
      fun n hn => hnames n (by simpa [or_comm] using hn)
    rw [List.reverse_cons]
    unfold makeAll at h
    dsimp only at h
    split at h
    · next hmade =>
      cases h
      exact provides_makeDirectory hlegal hreversed hmade
    · split at h
      · cases h
      next u hbefore =>
      have hu := ih (fun n hn => hnames n (List.mem_cons_of_mem _ hn)) hbefore
      split at h
      · next hmade =>
        cases h
        exact (provides_makeDirectory hu.legal hreversed hmade).after hu.furnished
      · cases h
      · next e _ _ =>
        obtain ⟨haccept, rfl⟩ := Prod.mk.inj h
        exact (provides_acceptDirectory hu.legal haccept).after hu.furnished
    · obtain ⟨haccept, rfl⟩ := Prod.mk.inj h
      exact provides_acceptDirectory hlegal haccept

/-- A directory that was made with its missing parents is there. -/
theorem provides_makeDirectories (hlegal : t.NamesLegal) {p : Path}
    (hnames : ∀ name ∈ p.names, name ≠ ".." → Legal name) (h : t.makeDirectories cwd p = (.ok (), made)) :
    t.Provides made cwd p := by
  have hall := provides_makeAll hlegal (fun n hn => hnames n (List.mem_reverse.mp hn)) h
  rwa [List.reverse_reverse] at hall

end Making

/-! ## Canonical paths before the making -/

/-- Whatever stands in the tree stands in a directory. -/
def Rooted (t : FileTree) : Prop :=
  ∀ entry ∈ t.entries, (t.find? entry.place.dropLast).any Node.isDirectory = true

instance (t : FileTree) : Decidable t.Rooted := inferInstanceAs (Decidable (∀ _ ∈ _, _))

theorem Rooted.isSome_parent {t : FileTree} (h : t.Rooted) {here : Location} {name : String}
    (hfound : (t.find? (here ++ [name])).isSome = true) : (t.find? here).isSome = true := by
  rw [find?_of_ne_nil _ (by simp), Option.isSome_map] at hfound
  obtain ⟨entry, hentry⟩ := Option.isSome_iff_exists.mp hfound
  have hplace : entry.place = here ++ [name] := by simpa using List.find?_some hentry
  have hparent := h entry (List.mem_of_find?_eq_some hentry)
  rw [hplace, List.dropLast_concat] at hparent
  cases hhere : t.find? here with
  | none =>
    rw [hhere] at hparent
    cases hparent
  | some node => rfl

namespace Spelled

variable {t u : FileTree} {cwd here : Location} {p : Path}

/-- Going up alone is the same in both trees. -/
theorem of_climbing (h : t.Furnished u) (hp : u.Spelled cwd p here)
    (hnames : ∀ name ∈ p.names, name = "..") : t.Spelled cwd p here := by
  induction hp with
  | start hanchor => exact .start hanchor
  | child _ hname _ _ =>
    have hlast := (List.forall_mem_append.mp hnames).2 _ List.mem_cons_self
    exact absurd hlast hname.plain.2
  | up _ hright hanchor hup ih => exact .up (ih hup) ((h.permits _).symm.trans hright) hanchor hup

/-- A path that is spelled out for a place is so in the tree before, if the place was there. -/
theorem of_furnished (h : t.Furnished u) (hrooted : t.Rooted) (hp : u.Spelled cwd p here)
    (hfound : (t.find? here).isSome = true) : t.Spelled cwd p here := by
  induction hp with
  | start hanchor => exact .start hanchor
  | @child before above name mode _ hname hlooks ih =>
    obtain ⟨node, hnode⟩ := Option.isSome_iff_exists.mp hfound
    have hsame : node = .directory mode :=
      Option.some.inj ((h.grows _ _ hnode).symm.trans hlooks.found)
    exact .child (ih (hrooted.isSome_parent hfound)) hname
      ⟨(h.permits above).symm.trans hlooks.right, hlooks.size, hsame ▸ hnode⟩
  | up hbefore hright hanchor hup _ =>
    exact .up (of_climbing h hbefore hup) ((h.permits _).symm.trans hright) hanchor hup

/-- In the tree before, the way of a path that is spelled out leads to the place or breaks off. -/
theorem descend_before (h : t.Furnished u) (hp : u.Spelled cwd p here) {follow : Bool}
    {onLink : Location → String → List String → Except Errno Reached} {rest : List String}
    (hrest : rest ≠ []) :
    t.descend follow onLink (startAt cwd p.anchor) (p.names ++ rest) =
        t.descend follow onLink here rest ∨
      ∃ e, t.descend follow onLink (startAt cwd p.anchor) (p.names ++ rest) = .error e := by
  induction hp generalizing rest with
  | start => exact .inl rfl
  | @child before above name mode _ hname hlooks ih =>
    have hright := (h.permits above).symm.trans hlooks.right
    rw [Path.child, List.append_assoc, List.singleton_append]
    rcases ih (List.cons_ne_nil name rest) with hsame | hbroken
    · dsimp only
      rw [hsame]
      rcases h (above ++ [name]) with hfound | ⟨hfree, -⟩
      · exact .inl (descend_directory hname.plain
          ⟨hright, hlooks.size, hfound ▸ hlooks.found⟩)
      · refine .inr ⟨.noEntry, (descend_free hright hname.plain hlooks.size hfree).trans ?_⟩
        exact if_neg fun hend => hrest hend.1
    · exact .inr hbroken
  | up _ hright _ _ ih =>
    rw [Path.child, List.append_assoc, List.singleton_append]
    rcases ih (List.cons_ne_nil ".." rest) with hsame | hbroken
    · exact .inl (hsame.trans (descend_up ((h.permits _).symm.trans hright)))
    · exact .inr hbroken

end Spelled

namespace Furnished

variable {t u : FileTree} {cwd : Location}

/-- Where a directory is missing, no link is found. -/
theorem linkTarget?_of_free (h : t.Furnished u) {here : Location} {p : Path} {name : String}
    {mode : Nat} (hp : u.Spelled cwd p here) (hname : Legal name)
    (hlooks : u.LooksUp here name (.directory mode)) (hfree : t.find? (here ++ [name]) = none) :
    t.linkTarget? cwd (p.child name) = none := by
  by_cases hshort : (p.child name).toString.utf8ByteSize < pathLimit
  · obtain ⟨onLink, hreach⟩ := t.reach_child_eq cwd false hp.parts hname.part hshort
    rw [linkTarget?, hreach]
    rcases hp.descend_before h (List.cons_ne_nil name []) with hsame | ⟨e, hbroken⟩
    · have hright := (h.permits here).symm.trans hlooks.right
      rw [hsame, descend_free hright hname.plain hlooks.size hfree]
      by_cases hend : ([] : List String) = [] ∧ (t.find? here).isSome = true
      · rw [if_pos hend]
      · rw [if_neg hend]
    · rw [hbroken]
  · exact linkTarget?_of_long (Nat.not_lt.mp hshort)

/-- The links on a way are found in the tree before, and what was missing there is no link. -/
theorem shownBy (h : t.Furnished u) (hrooted : t.Rooted) : u.ShownBy t cwd where
  link hp hname hlooks hshort := by
    have hlink := h.of_link hlooks.found
    have hhere := hrooted.isSome_parent (Option.isSome_iff_exists.mpr ⟨_, hlink⟩)
    exact linkTarget?_of_link (hp.of_furnished h hrooted hhere) hname
      ⟨(h.permits _).symm.trans hlooks.right, hlooks.size, hlink⟩ hshort
  directory {p here name mode} hp hname hlooks := by
    rcases h (here ++ [name]) with hsame | ⟨hfree, -⟩
    · have hdirectory := hsame ▸ hlooks.found
      have hhere := hrooted.isSome_parent (Option.isSome_iff_exists.mpr ⟨_, hdirectory⟩)
      exact linkTarget?_of_directory (hp.of_furnished h hrooted hhere) hname
        ⟨(h.permits _).symm.trans hlooks.right, hlooks.size, hdirectory⟩
    · exact h.linkTarget?_of_free hp hname hlooks hfree

end Furnished

/-- The canonical form that a path had before its directory was made is the text of the place where
the directory is now. -/
theorem Provides.canonical {t made : FileTree} {cwd : Location} {path : String}
    (h : t.Provides made cwd (ofString path)) (hrooted : t.Rooted)
    (hcwd : t.Spelled [] (ofLocation cwd) cwd) (hlooks : t.CanLookUp cwd path) :
    ∃ place mode, made.reach cwd true (ofString path).toString = .ok (.found place (.directory mode)) ∧
      t.canonical cwd path = .ok (ofLocation place).toString := by
  obtain ⟨place, mode, hreach⟩ := h.leads
  obtain ⟨mode', hfound⟩ := hcwd.find?_of_anchored Anchor.noConfusion
  obtain ⟨q, hleads⟩ := leads_of_reach h.legal hreach
  have hspells : ofString (ofString path).toString = ofString path := ofString_normal path
  rw [linksMet_toString, h.furnished.linksMet, startOf_eq, seenFrom_eq, hspells] at hleads
  refine ⟨place, mode, hreach, canonical_of_leads h.legal (h.furnished.shownBy hrooted) hfound
    (fun name hname => (hcwd.legal Anchor.noConfusion name hname).plain.2) hleads ?_ hlooks⟩
  refine lt_depthLimit (t.length_linkPaths linkLimit _ _ _) fun hmet => ?_
  obtain ⟨there, target, hlink⟩ := hleads.exists_link (mt List.length_eq_zero_iff.mpr hmet)
  exact links_ne_nil (h.furnished.of_link hlink)

end NativeBuild.FileTree
