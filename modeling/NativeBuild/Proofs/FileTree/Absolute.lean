import NativeBuild.Proofs.FileTree.Resolution

/-
  Absolute forms on the tree. The absolute form of a path is made by text alone, so it need not lead
  where the path leads: a `..` behind a link goes up from where the link leads to, and in the text it
  cancels the link. Without `..` the two agree (`reach_absolute`): dropping `.` parts and repeated
  slashes changes nothing on the way of the system (`walk_trimmed`), and the way from the root to the
  working directory is the one that the text spells out.
-/

namespace NativeBuild.FileTree

open NativeBuild.Path

/-! ## Without dots -/

/-- The second list is the first without some of its `.` parts. -/
inductive Trimmed : List String → List String → Prop
  | nil : Trimmed [] []
  | dot {names names' : List String} (h : Trimmed names names') : Trimmed ("." :: names) names'
  | keep {name : String} {names names' : List String} (h : Trimmed names names') :
      Trimmed (name :: names) (name :: names')

namespace Trimmed

theorem append_left {names names' : List String} (before : List String) (h : Trimmed names names') :
    Trimmed (before ++ names) (before ++ names') := by
  induction before with
  | nil => exact h
  | cons name rest ih => exact ih.keep

end Trimmed

/-- The names of a path are its steps without the dots. -/
theorem trimmed_steps (path : String) : Trimmed (steps path) (ofString path).names := by
  have hfilter : ∀ names : List String, (∀ name ∈ names, name ≠ "") →
      Trimmed names (names.filter isName) := by
    intro names hnames
    induction names with
    | nil => exact .nil
    | cons name rest ih =>
      obtain ⟨hname, hrest⟩ := List.forall_mem_cons.mp hnames
      by_cases hdot : name = "."
      · rw [hdot, List.filter_cons_of_neg (by decide)]
        exact .dot (ih hrest)
      · rw [List.filter_cons_of_pos (by simp [isName, hname, hdot])]
        exact .keep (ih hrest)
  have hsteps : ∀ name ∈ steps path, name ≠ "" := by
    intro name hname
    rcases List.mem_append.mp hname with hpiece | hlast
    · simpa using (List.mem_filter.mp hpiece).2
    · split at hlast
      · rw [List.mem_singleton.mp hlast]
        decide
      · cases hlast
  have htrimmed := hfilter _ hsteps
  rw [filter_steps] at htrimmed
  exact htrimmed

/-- A way that leads to a directory leads there without the dots, links aside. -/
theorem descend_trimmed {t : FileTree} (hlegal : t.NamesLegal) {place : Location} {mode : Nat}
    {onLink : Location → String → List String → Except Errno Reached}
    (hlink : ∀ here target rest rest', Trimmed rest rest' →
      onLink here target rest = .ok (.found place (.directory mode)) →
      onLink here target rest' = .ok (.found place (.directory mode)))
    {names names' : List String} (h : Trimmed names names') (here : Location)
    (hwalk : t.descend true onLink here names = .ok (.found place (.directory mode))) :
    t.descend true onLink here names' = .ok (.found place (.directory mode)) := by
  induction h generalizing here with
  | nil => exact hwalk
  | dot h ih =>
    rcases descend_cases hwalk with ⟨-, -, hrest⟩ | ⟨-, hup, -⟩ | ⟨_, hdot, -⟩ | ⟨_, hdot, -⟩
    · exact ih here hrest
    · exact absurd hup (by decide)
    · exact absurd rfl hdot
    · exact absurd rfl hdot
  | @keep name names names' h ih =>
    rcases descend_cases hwalk with ⟨hright, rfl, hrest⟩ | ⟨hright, rfl, hrest⟩ |
      ⟨mode', -, -, hlooks, hrest⟩ | ⟨target, -, -, hlooks, hrest⟩
    · rw [descend_dot hright]
      exact ih here hrest
    · rw [descend_up hright]
      exact ih here.dropLast hrest
    · rw [descend_directory (hlooks.legal hlegal).plain hlooks]
      exact ih (here ++ [name]) hrest
    · rw [descend_link (hlooks.legal hlegal).plain hlooks]
      exact hlink here target names names' h hrest

/-- A way that leads to a directory leads there without the dots. -/
theorem walk_trimmed {t : FileTree} (hlegal : t.NamesLegal) {place : Location} {mode : Nat}
    (links : Nat) {names names' : List String} (h : Trimmed names names') (here : Location)
    (hwalk : t.walk true links here names = .ok (.found place (.directory mode))) :
    t.walk true links here names' = .ok (.found place (.directory mode)) := by
  induction links generalizing names names' here with
  | zero =>
    refine descend_trimmed hlegal (fun _ _ _ _ _ hnone => ?_) h here hwalk
    cases hnone
  | succ links ih =>
    refine descend_trimmed hlegal (fun _ target _ _ hrest hwalk' => ?_) h here hwalk
    exact ih (hrest.append_left (steps target)) _ hwalk'

/-- The links on a way are the same without the dots, as far as the first. -/
theorem linkPathsFrom_trimmed (t : FileTree)
    {onLink : Path → Location → String → List String → List Path}
    (hlink : ∀ p here target rest rest', Trimmed rest rest' →
      onLink p here target rest' = onLink p here target rest)
    {names names' : List String} (h : Trimmed names names') (p : Path) (here : Location) :
    t.linkPathsFrom onLink p here names' = t.linkPathsFrom onLink p here names := by
  induction h generalizing p here with
  | nil => rfl
  | dot _ ih =>
    conv => rhs; rw [linkPathsFrom]
    rw [if_pos rfl]
    exact ih p here
  | keep hrest ih =>
    unfold linkPathsFrom
    simp only [ih, hlink _ _ _ _ _ hrest]

/-- The links on a way are the same without the dots. -/
theorem linkPaths_trimmed (t : FileTree) (links : Nat) {names names' : List String}
    (h : Trimmed names names') (p : Path) (here : Location) :
    t.linkPaths links p here names' = t.linkPaths links p here names := by
  induction links generalizing names names' p here with
  | zero => exact linkPathsFrom_trimmed t (fun _ _ _ _ _ _ => rfl) h p here
  | succ links ih =>
    refine linkPathsFrom_trimmed t (fun p here target _ _ hrest => ?_) h p here
    exact ih (hrest.append_left (steps target)) _ _

/-- A path and the text without its dots and repeated slashes start at the same place and meet the
same links. -/
theorem linksMet_toString (t : FileTree) (cwd : Location) (path : String) :
    t.linksMet cwd (ofString path).toString = t.linksMet cwd path := by
  have hspells : ofString (ofString path).toString = ofString path := ofString_normal path
  have htext := trimmed_steps (ofString path).toString
  rw [hspells] at htext
  unfold linksMet
  rw [← linkPaths_trimmed t linkLimit htext, ← linkPaths_trimmed t linkLimit (trimmed_steps path),
    startOf_eq, startOf_eq, seenFrom_eq, seenFrom_eq, hspells]

/-! ## Absolute forms -/

/-- The text of an anchored path leads where its names lead from the root. -/
theorem reach_toString {t : FileTree} {p : Path} (hanchor : p.anchor ≠ .relative)
    (hparts : ∀ name ∈ p.names, Part name) (hshort : p.toString.utf8ByteSize < pathLimit)
    {place : Location} {mode : Nat}
    (hwalk : t.walk true linkLimit [] p.names = .ok (.found place (.directory mode)))
    (base : Location) : t.reach base true p.toString = .ok (.found place (.directory mode)) := by
  by_cases hne : p.names = []
  · obtain ⟨anchor, names⟩ := p
    cases hne
    obtain ⟨rfl, hnode⟩ := Reached.found.inj (Except.ok.inj hwalk)
    rw [← hnode]
    cases anchor with
    | relative => exact absurd rfl hanchor
    | root => rfl
    | doubleRoot => rfl
  · rw [reach, if_neg (toString_ne_empty hne hparts), if_neg (Nat.not_le.mpr hshort),
      isAbsolute_toString hne hparts, if_pos (by simpa using hanchor), steps_toString hne hparts]
    exact hwalk

/-- Without `..` the absolute form of a path leads where the path leads, wherever it is looked up. -/
theorem reach_absolute {t : FileTree} (hlegal : t.NamesLegal) {cwd place : Location} {path : String}
    {mode : Nat} (hcwd : t.Spelled [] (ofLocation cwd) cwd)
    (hreach : t.reach cwd true path = .ok (.found place (.directory mode)))
    (hplain : ∀ name ∈ (ofString path).names, name ≠ "..")
    (hshort : ((ofLocation cwd).absolute (ofString path)).toString.utf8ByteSize < pathLimit)
    (base : Location) :
    t.reach base true ((ofLocation cwd).absolute (ofString path)).toString =
      .ok (.found place (.directory mode)) := by
  have hlegalCwd := hcwd.legal Anchor.noConfusion
  rw [absolute_of_plain (fun name hname => (hlegalCwd name hname).plain.2) hplain] at hshort ⊢
  have hwalk := walk_trimmed hlegal linkLimit (trimmed_steps path) _ (reach_eq_walk hreach)
  unfold seenFrom at hwalk
  have hparts : ∀ name ∈ (ofString path).names, Part name := fun _ => part_of_mem_names
  by_cases hanchor : (ofString path).anchor = .relative
  · rw [join_relative hanchor] at hshort ⊢
    have hstart : isAbsolute path = false := by
      rw [show isAbsolute path = ((ofString path).anchor != .relative) from rfl, hanchor]
      rfl
    rw [if_neg (by simp [hstart])] at hwalk
    refine reach_toString Anchor.noConfusion (List.forall_mem_append.mpr ⟨hcwd.parts, hparts⟩)
      hshort ?_ base
    obtain ⟨onLink, hdescend⟩ := t.walk_eq_descend true linkLimit
    rw [hdescend] at hwalk ⊢
    exact (hcwd.descend true onLink _).trans hwalk
  · rw [join_anchored hanchor] at hshort ⊢
    have hstart : isAbsolute path = true := by
      rw [show isAbsolute path = ((ofString path).anchor != .relative) from rfl]
      simpa using hanchor
    rw [if_pos hstart] at hwalk
    exact reach_toString hanchor hparts hshort hwalk base

/-- A path without `..` whose absolute form the system can take: the text is not too long, and
neither is that of a link on the way. -/
structure GoesPlainly (t : FileTree) (cwd : Location) (path : String) : Prop where
  plain : ∀ name ∈ (ofString path).names, name ≠ ".."
  short : ((ofLocation cwd).absolute (ofString path)).toString.utf8ByteSize < pathLimit
  looksUp : t.CanLookUp cwd path
  looksUpAbsolute : t.CanLookUp cwd ((ofLocation cwd).absolute (ofString path)).toString

/-- So does the text of the path without its dots and repeated slashes. -/
theorem GoesPlainly.toString {t : FileTree} {cwd : Location} {path : String}
    (h : t.GoesPlainly cwd path) : t.GoesPlainly cwd (ofString path).toString := by
  have hspells : ofString (ofString path).toString = ofString path := ofString_normal path
  constructor
  · rw [hspells]
    exact h.plain
  · rw [hspells]
    exact h.short
  · rw [CanLookUp, linksMet_toString]
    exact h.looksUp
  · rw [hspells]
    exact h.looksUpAbsolute

/-- Such a path leads the system to a directory. -/
structure LeadsPlainly (t : FileTree) (cwd : Location) (path : String) (place : Location) : Prop
    extends t.GoesPlainly cwd path where
  reached : ∃ mode, t.reach cwd true path = .ok (.found place (.directory mode))

/-- The absolute form of such a path leads to the same directory, and so does its canonical form. -/
theorem LeadsPlainly.absolute {t : FileTree} (hlegal : t.NamesLegal) {cwd place : Location}
    {path : String} (hcwd : t.Spelled [] (ofLocation cwd) cwd) (h : t.LeadsPlainly cwd path place) :
    (∃ mode, t.reach cwd true ((ofLocation cwd).absolute (ofString path)).toString =
      .ok (.found place (.directory mode))) ∧
    t.canonical cwd ((ofLocation cwd).absolute (ofString path)).toString =
      .ok (ofLocation place).toString := by
  obtain ⟨mode, hreach⟩ := h.reached
  obtain ⟨mode', hfound⟩ := hcwd.find?_of_anchored Anchor.noConfusion
  have habsolute : t.LeadsTo cwd ((ofLocation cwd).absolute (ofString path)).toString place :=
    ⟨⟨mode, reach_absolute hlegal hcwd hreach h.plain h.short cwd⟩, h.looksUpAbsolute⟩
  exact ⟨habsolute.reached, habsolute.canonical hlegal hfound⟩

end NativeBuild.FileTree
