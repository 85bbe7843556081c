import NativeBuild.FileTree.Canonical
import NativeBuild.Proofs.Path

/-
  Paths without links on their way. A path is spelled out for a place when it goes there through
  directories and `..` alone (`Spelled`); the system finds the place under such a path
  (`descend_spelled`), going up keeps it spelled out (`Spelled.up`), and its absolute form is the
  text of the place (`Spelled.absolute`). What stands under a name after it is looked up as it is,
  unless the text is too long for a path (`linkTarget?_of_link`, `linkTarget?_of_directory`).
-/

namespace NativeBuild.FileTree

open NativeBuild.Path

/-- All files have names that a file may have. -/
def NamesLegal (t : FileTree) : Prop := ∀ entry ∈ t.entries, ∀ name ∈ entry.place, Legal name

instance (t : FileTree) : Decidable t.NamesLegal := inferInstanceAs (Decidable (∀ _ ∈ _, _))

theorem NamesLegal.of_found {t : FileTree} (h : t.NamesLegal) {place : Location} {node : Node}
    (hfound : t.find? place = some node) {name : String} (hname : name ∈ place) : Legal name := by
  have hne : place ≠ [] := List.ne_nil_of_mem hname
  rw [find?_of_ne_nil _ hne, entryAt?] at hfound
  obtain ⟨entry, hentry, -⟩ := Option.map_eq_some_iff.mp hfound
  have hplace : entry.place = place := by simpa using List.find?_some hentry
  exact h entry (List.mem_of_find?_eq_some hentry) name (hplace ▸ hname)

/-- A name under which something stands is legal. -/
theorem NamesLegal.of_child {t : FileTree} (h : t.NamesLegal) {here : Location} {name : String}
    {node : Node} (hfound : t.find? (here ++ [name]) = some node) : Legal name :=
  h.of_found hfound (List.mem_append_right _ List.mem_cons_self)

/-! ## The texts of paths on the way -/

/-- Where the names of a path start. -/
def startAt (cwd : Location) (anchor : Anchor) : Location := if anchor = .relative then cwd else []

/-- The text of a path with names ends in a name. -/
theorem getLast?_pieces_ne {p : Path} (hne : p.names ≠ []) (h : ∀ name ∈ p.names, Part name) :
    (p.anchor.lead ++ p.names).getLast? ≠ some "" := by
  rw [List.getLast?_append, List.getLast?_eq_some_getLast hne, Option.some_or]
  exact fun hlast => (h _ (List.getLast_mem hne)).ne_empty (Option.some.inj hlast)

theorem steps_toString {p : Path} (hne : p.names ≠ []) (h : ∀ name ∈ p.names, Part name) :
    steps p.toString = p.names := by
  have hnames : p.names.filter (· != "") = p.names :=
    List.filter_eq_self.mpr fun name hname => by simpa using (h name hname).ne_empty
  have hlead : p.anchor.lead.filter (· != "") = [] := by
    cases p.anchor <;> rfl
  rw [steps, pieces_toString hne h, if_neg (getLast?_pieces_ne hne h), List.append_nil,
    List.filter_append, hlead, hnames]
  rfl

theorem isAbsolute_toString {p : Path} (hne : p.names ≠ []) (h : ∀ name ∈ p.names, Part name) :
    isAbsolute p.toString = (p.anchor != .relative) := by
  rw [isAbsolute, pieces_toString hne h, anchorOf_lead hne h]

theorem toString_ne_empty {p : Path} (hne : p.names ≠ []) (h : ∀ name ∈ p.names, Part name) :
    p.toString ≠ "" := by
  intro hempty
  have hpieces := pieces_toString hne h
  rw [hempty, show pieces "" = [""] from rfl] at hpieces
  exact getLast?_pieces_ne hne h (hpieces ▸ rfl)

/-! ## Walking down -/

/-- A name is looked up in a directory. -/
structure LooksUp (t : FileTree) (here : Location) (name : String) (node : Node) : Prop where
  right : t.permits here .execute = true
  size : name.utf8ByteSize ≤ nameLimit
  found : t.find? (here ++ [name]) = some node

theorem LooksUp.unique {t : FileTree} {here : Location} {name : String} {node node' : Node}
    (h : t.LooksUp here name node) (h' : t.LooksUp here name node') : node = node' :=
  Option.some.inj (h.found.symm.trans h'.found)

theorem LooksUp.legal {t : FileTree} {here : Location} {name : String} {node : Node}
    (hlegal : t.NamesLegal) (h : t.LooksUp here name node) : Legal name := hlegal.of_child h.found

section Steps

variable {t : FileTree} {follow : Bool} {onLink : Location → String → List String → Except Errno Reached}
  {here : Location} {name : String} {rest : List String}

theorem descend_dot (hright : t.permits here .execute = true) :
    t.descend follow onLink here ("." :: rest) = t.descend follow onLink here rest := by
  rw [descend, hright]
  rfl

theorem descend_up (hright : t.permits here .execute = true) :
    t.descend follow onLink here (".." :: rest) = t.descend follow onLink here.dropLast rest := by
  rw [descend, hright]
  rfl

theorem descend_directory {mode : Nat} (hname : Plain name)
    (h : t.LooksUp here name (.directory mode)) :
    t.descend follow onLink here (name :: rest) =
      t.descend follow onLink (here ++ [name]) rest := by
  rw [descend, if_neg (by simp [h.right]), if_neg hname.ne_dot, if_neg hname.2,
    if_neg (Nat.not_lt.mpr h.size), h.found]

theorem descend_link {target : String} (hname : Plain name)
    (h : t.LooksUp here name (.link target)) :
    t.descend true onLink here (name :: rest) = onLink here target rest := by
  rw [descend, if_neg (by simp [h.right]), if_neg hname.ne_dot, if_neg hname.2,
    if_neg (Nat.not_lt.mpr h.size), h.found]
  exact if_neg (by simp)

theorem descend_last_link {target : String} (hname : Plain name)
    (h : t.LooksUp here name (.link target)) :
    t.descend false onLink here [name] = .ok (.found (here ++ [name]) (.link target)) := by
  rw [descend, if_neg (by simp [h.right]), if_neg hname.ne_dot, if_neg hname.2,
    if_neg (Nat.not_lt.mpr h.size), h.found]
  exact if_pos ⟨rfl, rfl⟩

theorem descend_free (hright : t.permits here .execute = true) (hname : Plain name)
    (hsize : name.utf8ByteSize ≤ nameLimit) (hfree : t.find? (here ++ [name]) = none) :
    t.descend follow onLink here (name :: rest) =
      if rest = [] ∧ (t.find? here).isSome then .ok (.missing here name) else .error .noEntry := by
  rw [descend, if_neg (by simp [hright]), if_neg hname.ne_dot, if_neg hname.2,
    if_neg (Nat.not_lt.mpr hsize), hfree]

/-- What the first name on a way to a directory does: it stays, goes up, goes down, or is a link. -/
theorem descend_cases {place : Location} {mode : Nat}
    (h : t.descend true onLink here (name :: rest) = .ok (.found place (.directory mode))) :
    (t.permits here .execute = true ∧ name = "." ∧
      t.descend true onLink here rest = .ok (.found place (.directory mode))) ∨
    (t.permits here .execute = true ∧ name = ".." ∧
      t.descend true onLink here.dropLast rest = .ok (.found place (.directory mode))) ∨
    (∃ mode', name ≠ "." ∧ name ≠ ".." ∧ t.LooksUp here name (.directory mode') ∧
      t.descend true onLink (here ++ [name]) rest = .ok (.found place (.directory mode))) ∨
    (∃ target, name ≠ "." ∧ name ≠ ".." ∧ t.LooksUp here name (.link target) ∧
      onLink here target rest = .ok (.found place (.directory mode))) := by
  unfold descend at h
  split at h
  · cases h
  next hright =>
  have hright : t.permits here .execute = true := by simpa using hright
  split at h
  · next hdot => exact .inl ⟨hright, hdot, h⟩
  next hdot =>
  split at h
  · next hup => exact .inr (.inl ⟨hright, hup, h⟩)
  next hup =>
  split at h
  · cases h
  next hsize =>
  have hsize : name.utf8ByteSize ≤ nameLimit := Nat.not_lt.mp hsize
  split at h
  · next mode' hfound => exact .inr (.inr (.inl ⟨mode', hdot, hup, ⟨hright, hsize, hfound⟩, h⟩))
  · next target hfound =>
    rw [if_neg (by simp)] at h
    exact .inr (.inr (.inr ⟨target, hdot, hup, ⟨hright, hsize, hfound⟩, h⟩))
  · next node hdirectory _ _ =>
    split at h
    · cases h
      exact absurd rfl (hdirectory mode)
    · cases h
  · split at h <;> cases h

end Steps

theorem walk_eq_descend (t : FileTree) (follow : Bool) (links : Nat) :
    ∃ onLink, ∀ here names, t.walk follow links here names = t.descend follow onLink here names := by
  cases links with
  | zero => exact ⟨_, fun _ _ => rfl⟩
  | succ links => exact ⟨_, fun _ _ => rfl⟩

/-- The text of a path is taken apart into its names. -/
theorem reach_child_eq (t : FileTree) (cwd : Location) (follow : Bool) {p : Path} {name : String}
    (hparts : ∀ n ∈ p.names, Part n) (hname : Part name)
    (hshort : (p.child name).toString.utf8ByteSize < pathLimit) :
    ∃ onLink, t.reach cwd follow (p.child name).toString =
      t.descend follow onLink (startAt cwd p.anchor) (p.names ++ [name]) := by
  have hall : ∀ n ∈ (p.child name).names, Part n :=
    List.forall_mem_append.mpr ⟨hparts, List.forall_mem_singleton.mpr hname⟩
  have hne : (p.child name).names ≠ [] := by simp [Path.child]
  have hstart : (if isAbsolute (p.child name).toString then [] else cwd) = startAt cwd p.anchor := by
    rw [isAbsolute_toString hne hall, startAt]
    by_cases hrelative : p.anchor = .relative <;> simp [Path.child, hrelative]
  obtain ⟨onLink, hwalk⟩ := t.walk_eq_descend follow linkLimit
  refine ⟨onLink, ?_⟩
  rw [reach, if_neg (toString_ne_empty hne hall), if_neg (Nat.not_le.mpr hshort), hstart,
    steps_toString hne hall, hwalk]
  rfl

/-- A path goes to a place through directories and `..` alone. -/
inductive Spelled (t : FileTree) (cwd : Location) : Path → Location → Prop
  | start {anchor : Anchor} (hanchor : anchor ≠ .doubleRoot) :
      Spelled t cwd ⟨anchor, []⟩ (startAt cwd anchor)
  | child {p : Path} {here : Location} {name : String} {mode : Nat} (h : Spelled t cwd p here)
      (hname : Legal name) (hlooks : t.LooksUp here name (.directory mode)) :
      Spelled t cwd (p.child name) (here ++ [name])
  | up {p : Path} {here : Location} (h : Spelled t cwd p here)
      (hright : t.permits here .execute = true) (hanchor : p.anchor = .relative)
      (hnames : ∀ name ∈ p.names, name = "..") : Spelled t cwd (p.child "..") here.dropLast

namespace Spelled

variable {t : FileTree} {cwd here : Location} {p : Path}

theorem anchor_ne (h : Spelled t cwd p here) : p.anchor ≠ .doubleRoot := by
  induction h with
  | start hanchor => exact hanchor
  | child _ _ _ ih => exact ih
  | up _ _ _ _ ih => exact ih

theorem parts (h : Spelled t cwd p here) : ∀ name ∈ p.names, Part name := by
  induction h with
  | start => exact fun _ hmem => nomatch hmem
  | child _ hname _ ih =>
    exact List.forall_mem_append.mpr ⟨ih, List.forall_mem_singleton.mpr hname.part⟩
  | up _ _ _ _ ih => exact List.forall_mem_append.mpr ⟨ih, List.forall_mem_singleton.mpr part_up⟩

theorem legal (h : Spelled t cwd p here) (hanchor : p.anchor ≠ .relative) :
    ∀ name ∈ p.names, Legal name := by
  induction h with
  | start => exact fun _ hmem => nomatch hmem
  | child _ hname _ ih =>
    exact List.forall_mem_append.mpr ⟨ih hanchor, List.forall_mem_singleton.mpr hname⟩
  | up _ _ hrelative _ _ => exact absurd hrelative hanchor

/-- From the root a path is spelled out for directories alone. -/
theorem find?_of_anchored (h : Spelled t cwd p here) (hanchor : p.anchor ≠ .relative) :
    ∃ mode, t.find? here = some (.directory mode) := by
  cases h with
  | start _ => exact ⟨0o755, by rw [startAt, if_neg hanchor, find?_root]⟩
  | child _ _ hlooks => exact ⟨_, hlooks.found⟩
  | up _ _ hrelative _ => exact absurd hrelative hanchor

/-- The place is the one that the path names. -/
theorem locate (h : Spelled t cwd p here) : p.locate cwd = here := by
  induction h with
  | start => rfl
  | child _ hname _ ih => rw [locate_child, ih, onwards, if_neg hname.plain.2]
  | up _ _ _ _ ih => rw [locate_child, ih, onwards, if_pos rfl]

/-- The absolute form is the text of the place. -/
theorem absolute (h : Spelled t cwd p here) (hcwd : ∀ name ∈ cwd, name ≠ "..") :
    (ofLocation cwd).absolute p = ofLocation here := by
  rw [absolute_eq_locate hcwd h.anchor_ne, h.locate]

/-- One level up the path is still spelled out. -/
theorem goesUp (h : Spelled t cwd p here) (hright : t.permits here .execute = true) :
    Spelled t cwd (FileTree.up p) here.dropLast := by
  cases h with
  | @start anchor hanchor =>
    cases anchor with
    | relative => exact .up (.start hanchor) hright rfl fun _ hmem => nomatch hmem
    | root => exact .start hanchor
    | doubleRoot => exact absurd rfl hanchor
  | @child before above name mode h₀ hname _ =>
    have hup : FileTree.up (before.child name) = before := by
      simp [FileTree.up, Path.child, Path.parent, hname.plain.2]
    rw [hup, List.dropLast_concat]
    exact h₀
  | @up before above h₀ hright₀ hanchor hnames =>
    have hup : FileTree.up (before.child "..") = (before.child "..").child ".." := by
      simp [FileTree.up, Path.child]
    rw [hup]
    refine .up (.up h₀ hright₀ hanchor hnames) hright hanchor ?_
    exact List.forall_mem_append.mpr ⟨hnames, List.forall_mem_singleton.mpr rfl⟩

/-- The system finds the place under the path. -/
theorem descend (h : Spelled t cwd p here) (follow : Bool)
    (onLink : Location → String → List String → Except Errno Reached) (rest : List String) :
    t.descend follow onLink (startAt cwd p.anchor) (p.names ++ rest) =
      t.descend follow onLink here rest := by
  induction h generalizing rest with
  | start => rfl
  | child _ hname hlooks ih =>
    rw [Path.child, List.append_assoc, List.singleton_append]
    exact (ih _).trans (descend_directory hname.plain hlooks)
  | up _ hright _ _ ih =>
    rw [Path.child, List.append_assoc, List.singleton_append]
    exact (ih _).trans (descend_up hright)

/-- A name after the path is looked up at the place. -/
theorem reach_child (h : Spelled t cwd p here) (follow : Bool) {name : String} (hname : Part name)
    (hshort : (p.child name).toString.utf8ByteSize < pathLimit) :
    ∃ onLink, t.reach cwd follow (p.child name).toString = t.descend follow onLink here [name] := by
  obtain ⟨onLink, hreach⟩ := t.reach_child_eq cwd follow h.parts hname hshort
  exact ⟨onLink, hreach.trans (h.descend follow onLink [name])⟩

end Spelled

/-! ## Looking links up -/

variable {t : FileTree} {cwd here : Location} {p : Path} {name : String}

/-- A link is looked up under its path, when the text of that is not too long. -/
theorem linkTarget?_of_link {target : String} (h : Spelled t cwd p here) (hname : Legal name)
    (hlooks : t.LooksUp here name (.link target))
    (hshort : (p.child name).toString.utf8ByteSize < pathLimit) :
    t.linkTarget? cwd (p.child name) = some target := by
  obtain ⟨onLink, hreach⟩ := h.reach_child false hname.part hshort
  rw [linkTarget?, hreach, descend_last_link hname.plain hlooks]

/-- No link is found under a path that is too long. -/
theorem linkTarget?_of_long {p : Path} (hlong : pathLimit ≤ p.toString.utf8ByteSize) :
    t.linkTarget? cwd p = none := by
  rw [linkTarget?, reach, if_pos hlong]
  by_cases hempty : p.toString = ""
  · rw [if_pos hempty]
  · rw [if_neg hempty]

/-- No link is found under the path of a directory, however long it is. -/
theorem linkTarget?_of_directory {mode : Nat} (h : Spelled t cwd p here) (hname : Legal name)
    (hlooks : t.LooksUp here name (.directory mode)) : t.linkTarget? cwd (p.child name) = none := by
  by_cases hshort : (p.child name).toString.utf8ByteSize < pathLimit
  · obtain ⟨onLink, hreach⟩ := h.reach_child false hname.part hshort
    have hnode : t.directoryAt (here ++ [name]) = .directory mode := by
      simp [directoryAt, hlooks.found]
    rw [linkTarget?, hreach, descend_directory hname.plain hlooks, descend_nil, hnode]
  · exact linkTarget?_of_long (Nat.not_lt.mp hshort)

end NativeBuild.FileTree
