import NativeBuild.Proofs.FileTree.Spelling

/-
  Canonical paths and the way of the system. Both take a path name by name, but the system follows a
  link by putting its target in front of the names that remain, while a canonical path resolves the
  target by itself, remembers it, and looks a link up under the path that it has resolved so far.
  `Leads` tells the way of the system together with that path. What carries the agreement
  (`resolvePieces_of_leads`) is the number of links that are still ahead: a link that is being
  resolved has more of them ahead than any link that is met on its own way, so it is never met again.

  `LeadsTo.canonical`: the canonical form of a path that leads to a directory is the text of the
  place of the directory, provided every link on the way can be looked up.
-/

namespace NativeBuild.FileTree

open NativeBuild.Path

/-! ## The paths that links are met by -/

/-- The paths, as resolved so far, that the links on a way are met by. At a link the way goes on with
`onLink`. -/
def linkPathsFrom (t : FileTree) (onLink : Path → Location → String → List String → List Path) :
    Path → Location → List String → List Path
  | _, _, [] => []
  | p, here, name :: rest =>
    if name = "." then linkPathsFrom t onLink p here rest
    else if name = ".." then linkPathsFrom t onLink (up p) here.dropLast rest
    else
      match t.find? (here ++ [name]) with
      | some (.link target) => p.child name :: onLink p here target rest
      | _ => linkPathsFrom t onLink (p.child name) (here ++ [name]) rest

/-- The directory that the target of a link is seen from. -/
def seenFrom (here : Location) (target : String) : Location := if isAbsolute target then [] else here

theorem startOf_eq (p : Path) (target : String) :
    startOf p (pieces target) = if (ofString target).anchor = .relative then p else ⟨.root, []⟩ := rfl

theorem seenFrom_eq (here : Location) (target : String) :
    seenFrom here target = if (ofString target).anchor != .relative then [] else here := rfl

/-- The paths that the links on a way are met by, with at most so many links to follow. -/
def linkPaths (t : FileTree) : Nat → Path → Location → List String → List Path
  | 0 => t.linkPathsFrom fun _ _ _ _ => []
  | links + 1 => t.linkPathsFrom fun p here target rest =>
      linkPaths t links (startOf p (pieces target)) (seenFrom here target) (steps target ++ rest)

/-- The paths that the links on the way of a path are met by. -/
def linksMet (t : FileTree) (cwd : Location) (path : String) : List Path :=
  t.linkPaths linkLimit (startOf ⟨.relative, []⟩ (pieces path)) (seenFrom cwd path) (steps path)

/-- The system takes the path of every link that is met for a path. -/
def CanLookUp (t : FileTree) (cwd : Location) (path : String) : Prop :=
  ∀ p ∈ t.linksMet cwd path, p.toString.utf8ByteSize < pathLimit

instance (t : FileTree) (cwd : Location) (path : String) : Decidable (t.CanLookUp cwd path) :=
  inferInstanceAs (Decidable (∀ _ ∈ _, _))

theorem length_linkPathsFrom {t : FileTree} {n : Nat}
    {onLink : Path → Location → String → List String → List Path}
    (h : ∀ p here target rest, (onLink p here target rest).length ≤ n) (p : Path) (here : Location)
    (names : List String) : (t.linkPathsFrom onLink p here names).length ≤ n + 1 := by
  induction names generalizing p here with
  | nil => exact Nat.zero_le _
  | cons name rest ih =>
    unfold linkPathsFrom
    split
    · exact ih _ _
    · split
      · exact ih _ _
      · split
        · exact Nat.succ_le_succ (h _ _ _ _)
        · exact ih _ _

theorem length_linkPaths (t : FileTree) (links : Nat) (p : Path) (here : Location)
    (names : List String) : (t.linkPaths links p here names).length ≤ links + 1 := by
  induction links generalizing p here names with
  | zero => exact length_linkPathsFrom (fun _ _ _ _ => Nat.le_refl 0) p here names
  | succ links ih => exact length_linkPathsFrom (fun _ _ _ _ => ih _ _ _) p here names

/-! ## The way of the system -/

/-- From a directory, under the path that it was resolved to, names lead on to a place under a path;
the links on the way are met by the paths of the list. -/
inductive Leads (t : FileTree) :
    Path → Location → List String → Path → Location → List Path → Prop
  | nil {p : Path} {here : Location} : Leads t p here [] p here []
  | up {p q : Path} {here place : Location} {rest : List String} {met : List Path}
      (hright : t.permits here .execute = true)
      (hrest : Leads t (FileTree.up p) here.dropLast rest q place met) :
      Leads t p here (".." :: rest) q place met
  | directory {p q : Path} {here place : Location} {name : String} {rest : List String}
      {met : List Path} {mode : Nat} (hname : t.LooksUp here name (.directory mode))
      (hrest : Leads t (p.child name) (here ++ [name]) rest q place met) :
      Leads t p here (name :: rest) q place met
  | link {p q : Path} {here place : Location} {name target : String} {rest : List String}
      {met : List Path} (hname : t.LooksUp here name (.link target))
      (hrest : Leads t (startOf p (pieces target)) (seenFrom here target)
        ((pieces target).filter isName ++ rest) q place met) :
      Leads t p here (name :: rest) q place (p.child name :: met)

theorem filter_steps (path : String) : (steps path).filter isName = (pieces path).filter isName := by
  have hlast : (if (pieces path).getLast? = some "" then ["."] else []).filter isName = [] := by
    split <;> rfl
  rw [steps, List.filter_append, hlast, List.append_nil, List.filter_filter]
  refine List.filter_congr fun name _ => ?_
  by_cases hname : name = ""
  · simp [hname, isName]
  · simp [hname]

/-- The way of the system from a directory, links aside. -/
theorem leads_of_descend {t : FileTree} (hlegal : t.NamesLegal)
    {onLink : Location → String → List String → Except Errno Reached}
    {onPath : Path → Location → String → List String → List Path} {place : Location} {mode : Nat}
    (hlink : ∀ p here target rest, onLink here target rest = .ok (.found place (.directory mode)) →
      ∃ q, t.Leads (startOf p (pieces target)) (seenFrom here target)
        ((pieces target).filter isName ++ rest.filter isName) q place (onPath p here target rest))
    (names : List String) (p : Path) (here : Location)
    (h : t.descend true onLink here names = .ok (.found place (.directory mode))) :
    ∃ q, t.Leads p here (names.filter isName) q place (t.linkPathsFrom onPath p here names) := by
  induction names generalizing p here with
  | nil =>
    obtain ⟨rfl, -⟩ := Reached.found.inj (Except.ok.inj h)
    exact ⟨p, .nil⟩
  | cons name rest ih =>
    unfold linkPathsFrom
    rcases descend_cases h with ⟨-, rfl, hrest⟩ | ⟨hright, rfl, hrest⟩ |
      ⟨mode', hdot, hup, hlooks, hrest⟩ | ⟨target, hdot, hup, hlooks, hrest⟩
    · rw [if_pos rfl, List.filter_cons_of_neg (by decide)]
      exact ih p here hrest
    · rw [if_neg (by decide), if_pos rfl, List.filter_cons_of_pos (by decide)]
      obtain ⟨q, hq⟩ := ih (up p) here.dropLast hrest
      exact ⟨q, .up hright hq⟩
    · rw [if_neg hdot, if_neg hup, hlooks.found,
        List.filter_cons_of_pos (hlooks.legal hlegal).plain.1]
      obtain ⟨q, hq⟩ := ih (p.child name) (here ++ [name]) hrest
      exact ⟨q, .directory hlooks hq⟩
    · rw [if_neg hdot, if_neg hup, hlooks.found,
        List.filter_cons_of_pos (hlooks.legal hlegal).plain.1]
      obtain ⟨q, hq⟩ := hlink p here target rest hrest
      exact ⟨q, .link hlooks hq⟩

/-- The way of the system. -/
theorem leads_of_walk {t : FileTree} (hlegal : t.NamesLegal) {place : Location} {mode : Nat}
    (links : Nat) (names : List String) (p : Path) (here : Location)
    (h : t.walk true links here names = .ok (.found place (.directory mode))) :
    ∃ q, t.Leads p here (names.filter isName) q place (t.linkPaths links p here names) := by
  induction links generalizing names p here with
  | zero =>
    refine leads_of_descend hlegal (fun _ _ _ _ hrest => ?_) names p here h
    cases hrest
  | succ links ih =>
    refine leads_of_descend hlegal (fun p here target rest hrest => ?_) names p here h
    rw [← filter_steps, ← List.filter_append]
    exact ih (steps target ++ rest) _ _ hrest

namespace Leads

variable {t : FileTree} {cwd here place : Location} {p q : Path} {names : List String}
  {met : List Path}

/-- The way is determined by where it starts. -/
theorem unique (hlegal : t.NamesLegal) (h : t.Leads p here names q place met) {q' : Path}
    {place' : Location} {met' : List Path} (h' : t.Leads p here names q' place' met') :
    q = q' ∧ met = met' := by
  induction h generalizing met' with
  | nil =>
    cases h'
    exact ⟨rfl, rfl⟩
  | up hright hrest ih =>
    cases h' with
    | up _ hrest' => exact ih hrest'
    | directory hname _ => exact absurd rfl (hname.legal hlegal).plain.2
    | link hname _ => exact absurd rfl (hname.legal hlegal).plain.2
  | directory hname hrest ih =>
    cases h' with
    | up _ _ => exact absurd rfl (hname.legal hlegal).plain.2
    | directory _ hrest' => exact ih hrest'
    | link hname' _ => cases hname.unique hname'
  | link hname hrest ih =>
    cases h' with
    | up _ _ => exact absurd rfl (hname.legal hlegal).plain.2
    | directory hname' _ => cases hname.unique hname'
    | link hname' hrest' =>
      cases hname.unique hname'
      obtain ⟨hq, hmet⟩ := ih hrest'
      exact ⟨hq, congrArg _ hmet⟩

/-- A way along some names and others passes a place between them. -/
theorem split {before after : List String} (h : t.Leads p here (before ++ after) q place met) :
    ∃ q₁ place₁ met₁ met₂, t.Leads p here before q₁ place₁ met₁ ∧
      t.Leads q₁ place₁ after q place met₂ ∧ met = met₁ ++ met₂ := by
  generalize hnames : before ++ after = names at h
  induction h generalizing before with
  | nil =>
    obtain ⟨rfl, rfl⟩ := List.append_eq_nil_iff.mp hnames
    exact ⟨_, _, [], [], .nil, .nil, rfl⟩
  | up hright hrest ih =>
    rcases List.append_eq_cons_iff.mp hnames with ⟨rfl, rfl⟩ | ⟨more, rfl, rfl⟩
    · exact ⟨_, _, [], _, .nil, .up hright hrest, rfl⟩
    · obtain ⟨q₁, place₁, met₁, met₂, h₁, h₂, rfl⟩ := ih rfl
      exact ⟨q₁, place₁, met₁, met₂, .up hright h₁, h₂, rfl⟩
  | directory hname hrest ih =>
    rcases List.append_eq_cons_iff.mp hnames with ⟨rfl, rfl⟩ | ⟨more, rfl, rfl⟩
    · exact ⟨_, _, [], _, .nil, .directory hname hrest, rfl⟩
    · obtain ⟨q₁, place₁, met₁, met₂, h₁, h₂, rfl⟩ := ih rfl
      exact ⟨q₁, place₁, met₁, met₂, .directory hname h₁, h₂, rfl⟩
  | @link p _ _ _ name _ _ _ hname hrest ih =>
    rcases List.append_eq_cons_iff.mp hnames with ⟨rfl, rfl⟩ | ⟨more, rfl, rfl⟩
    · exact ⟨_, _, [], _, .nil, .link hname hrest, rfl⟩
    · obtain ⟨q₁, place₁, met₁, met₂, h₁, h₂, rfl⟩ := ih (List.append_assoc _ more after)
      exact ⟨q₁, place₁, p.child name :: met₁, met₂, .link hname h₁, h₂, rfl⟩

theorem spelled_startOf (h : Spelled t cwd p here) (target : String) :
    Spelled t cwd (startOf p (pieces target)) (seenFrom here target) := by
  unfold startOf seenFrom isAbsolute
  by_cases hanchor : anchorOf (pieces target) = .relative
  · rw [if_pos hanchor, if_neg (by simp [hanchor])]
    exact h
  · have hroot : Anchor.root ≠ .doubleRoot := Anchor.noConfusion
    rw [if_neg hanchor, if_pos (by simpa using hanchor)]
    exact .start hroot

/-- A path that is spelled out stays so along the way. -/
theorem spelled (hlegal : t.NamesLegal) (h : t.Leads p here names q place met)
    (hstart : Spelled t cwd p here) : Spelled t cwd q place := by
  induction h with
  | nil => exact hstart
  | up hright _ ih => exact ih (hstart.goesUp hright)
  | directory hname _ ih =>
    exact ih (.child hstart (hname.legal hlegal) hname)
  | @link p _ _ _ _ target _ _ _ _ ih => exact ih (spelled_startOf hstart target)

/-- A link that is met stands in the tree. -/
theorem exists_link (h : t.Leads p here names q place met) (hmet : met ≠ []) :
    ∃ (there : Location) (target : String), t.find? there = some (.link target) := by
  induction h with
  | nil => exact absurd rfl hmet
  | up _ _ ih => exact ih hmet
  | directory _ _ ih => exact ih hmet
  | link hname _ _ => exact ⟨_, _, hname.found⟩

end Leads

theorem links_ne_nil {t : FileTree} {place : Location} {target : String}
    (h : t.find? place = some (.link target)) : t.links ≠ [] := by
  have hne : place ≠ [] := by
    rintro rfl
    rw [find?_root] at h
    cases h
  rw [find?_of_ne_nil _ hne, entryAt?] at h
  obtain ⟨entry, hentry, hnode⟩ := Option.map_eq_some_iff.mp h
  refine List.ne_nil_of_mem (a := entry.place) (List.mem_filterMap.mpr ⟨entry, ?_, ?_⟩)
  · exact List.mem_of_find?_eq_some hentry
  · rw [hnode]

/-! ## Resolving -/

/-- Resolving the link that is met by a path leads to the other path. -/
def Resolves (t : FileTree) (cwd : Location) (link q : Path) (met : List Path) : Prop :=
  ∃ p here name place, link = p.child name ∧ Spelled t cwd p here ∧
    t.Leads p here [name] q place met

theorem Resolves.unique {t : FileTree} (hlegal : t.NamesLegal) {cwd : Location} {link q q' : Path}
    {met met' : List Path} (h : t.Resolves cwd link q met) (h' : t.Resolves cwd link q' met') :
    q = q' ∧ met = met' := by
  obtain ⟨p, here, name, place, rfl, hspelled, hleads⟩ := h
  obtain ⟨p', here', name', place', hlink, hspelled', hleads'⟩ := h'
  obtain ⟨hanchor, hnames⟩ := Path.mk.inj hlink
  obtain ⟨hbefore, hname⟩ := List.append_inj' hnames rfl
  obtain ⟨anchor, names⟩ := p
  obtain ⟨anchor', names'⟩ := p'
  cases hanchor
  cases hbefore
  cases hname
  cases hspelled.locate.symm.trans hspelled'.locate
  exact hleads.unique hlegal hleads'

/-- What is known of links is right, and one that is being resolved has more links ahead than there
are on the way. -/
structure Trusted (t : FileTree) (cwd : Location) (known : KnownLinks) (ahead : Nat) : Prop where
  resolved : ∀ link q, known.lookup link = some (some q) → ∃ met, t.Resolves cwd link q met
  pending : ∀ link, known.lookup link = some none →
    ∃ q met, t.Resolves cwd link q met ∧ ahead < met.length

/-- What is known after a part of the way: it is right, and no other link is being resolved. -/
structure Learned (t : FileTree) (cwd : Location) (known known' : KnownLinks) : Prop where
  resolved : ∀ link q, known'.lookup link = some (some q) → ∃ met, t.Resolves cwd link q met
  pending : ∀ link, known'.lookup link = some none → known.lookup link = some none

section Known

variable {t : FileTree} {cwd : Location} {known known' : KnownLinks} {ahead : Nat}

theorem Trusted.learned (h : Trusted t cwd known ahead) : Learned t cwd known known :=
  ⟨h.resolved, fun _ hlink => hlink⟩

theorem Trusted.mono (h : Trusted t cwd known ahead) {fewer : Nat} (hle : fewer ≤ ahead) :
    Trusted t cwd known fewer :=
  ⟨h.resolved, fun link hlink =>
    have ⟨q, met, hresolves, hmore⟩ := h.pending link hlink
    ⟨q, met, hresolves, Nat.lt_of_le_of_lt hle hmore⟩⟩

/-- Entering a link: it is being resolved, and has more links ahead than its target. -/
theorem Trusted.enter (h : Trusted t cwd known ahead) {link q : Path} {met : List Path}
    (hresolves : t.Resolves cwd link q met) {fewer : Nat} (hle : fewer ≤ ahead)
    (hmore : fewer < met.length) : Trusted t cwd ((link, none) :: known) fewer := by
  have hfewer := h.mono hle
  constructor
  · intro other q' hother
    rw [List.lookup_cons] at hother
    split at hother
    · cases hother
    · exact hfewer.resolved other q' hother
  · intro other hother
    rw [List.lookup_cons] at hother
    split at hother
    · next heq => exact ⟨q, met, (eq_of_beq heq) ▸ hresolves, hmore⟩
    · exact hfewer.pending other hother

/-- Leaving a link: it is resolved. -/
theorem Learned.leave {link q : Path} {met : List Path}
    (h : Learned t cwd ((link, none) :: known) known') (hresolves : t.Resolves cwd link q met) :
    Learned t cwd known ((link, some q) :: known') := by
  constructor
  · intro other q' hother
    rw [List.lookup_cons] at hother
    split at hother
    · next heq =>
      cases hother
      exact ⟨met, (eq_of_beq heq) ▸ hresolves⟩
    · exact h.resolved other q' hother
  · intro other hother
    rw [List.lookup_cons] at hother
    split at hother
    · cases hother
    · next hne =>
      have hbefore := h.pending other hother
      rw [List.lookup_cons, hne] at hbefore
      exact hbefore

theorem Learned.trusted (h : Learned t cwd known known') (htrusted : Trusted t cwd known ahead) :
    Trusted t cwd known' ahead :=
  ⟨h.resolved, fun link hlink => htrusted.pending link (h.pending link hlink)⟩

theorem Learned.trans {known'' : KnownLinks} (h : Learned t cwd known known')
    (h' : Learned t cwd known' known'') : Learned t cwd known known'' :=
  ⟨h'.resolved, fun link hlink => h.pending link (h'.pending link hlink)⟩

end Known

/-- Looked up by their paths in the second tree, links are found as they stand on the ways of the
first one, and so are directories: as no links. -/
structure ShownBy (t u : FileTree) (cwd : Location) : Prop where
  link : ∀ {p : Path} {here : Location} {name target : String}, Spelled t cwd p here → Legal name →
    t.LooksUp here name (.link target) → (p.child name).toString.utf8ByteSize < pathLimit →
    u.linkTarget? cwd (p.child name) = some target
  directory : ∀ {p : Path} {here : Location} {name : String} {mode : Nat}, Spelled t cwd p here →
    Legal name → t.LooksUp here name (.directory mode) → u.linkTarget? cwd (p.child name) = none

theorem shownBy_self (t : FileTree) (cwd : Location) : t.ShownBy t cwd :=
  ⟨linkTarget?_of_link, linkTarget?_of_directory⟩

/-- The target of a link, on its way to a place, resolves to a path that leads there. -/
def EntersWithin (t : FileTree) (cwd : Location)
    (enter : KnownLinks → Path → String → Except Fault Resolution) (most : Nat) : Prop :=
  ∀ (known : KnownLinks) (p q : Path) (here place : Location) (target : String) (met : List Path),
    Spelled t cwd p here →
    t.Leads (startOf p (pieces target)) (seenFrom here target) ((pieces target).filter isName)
      q place met →
    met.length < most → (∀ link ∈ met, link.toString.utf8ByteSize < pathLimit) →
    Trusted t cwd known met.length →
    ∃ known', enter known p target = .ok ⟨q, true, known'⟩ ∧ Learned t cwd known known'

/-- A link that is met counts as the path that its target leads to: it is resolved when it is met
first, and remembered. It is never met while it is being resolved, because more links were ahead when
that began. -/
theorem resolvePieces_link {t u : FileTree} (hlegal : t.NamesLegal) {cwd : Location}
    (hshown : t.ShownBy u cwd) {enter : KnownLinks → Path → String → Except Fault Resolution}
    {most : Nat} (henter : t.EntersWithin cwd enter most) {p q : Path} {here place : Location}
    {name target : String} {met : List Path} {known : KnownLinks} {ahead : Nat}
    (hspelled : Spelled t cwd p here) (hname : t.LooksUp here name (.link target))
    (htarget : t.Leads (startOf p (pieces target)) (seenFrom here target)
      ((pieces target).filter isName) q place met)
    (hmost : met.length < most) (hahead : met.length < ahead)
    (hshort : ∀ link ∈ p.child name :: met, link.toString.utf8ByteSize < pathLimit)
    (hknown : Trusted t cwd known ahead) (rest : List String) :
    ∃ known', u.resolvePieces cwd enter known p (name :: rest) =
        u.resolvePieces cwd enter known' q rest ∧
      Learned t cwd known known' := by
  have hlegalName := hname.legal hlegal
  obtain ⟨hshortLink, hshortMet⟩ := List.forall_mem_cons.mp hshort
  have hresolves : t.Resolves cwd (p.child name) q (p.child name :: met) :=
    ⟨p, here, name, place, rfl, hspelled, .link hname (by rwa [List.append_nil])⟩
  rw [resolvePieces, if_neg (by simp [hlegalName.plain.1]), if_neg hlegalName.plain.2,
    if_neg hlegalName.noNul]
  dsimp only
  rw [hshown.link hspelled hlegalName hname hshortLink]
  dsimp only
  cases hlookup : known.lookup (p.child name) with
  | none =>
    obtain ⟨known', hentered, hlearned⟩ := henter ((p.child name, none) :: known) p q here place
      target met hspelled htarget hmost hshortMet
      (hknown.enter hresolves (Nat.le_of_lt hahead) (Nat.lt_succ_self _))
    exact ⟨(p.child name, some q) :: known', by rw [hentered], hlearned.leave hresolves⟩
  | some memory =>
    cases memory with
    | some resolved =>
      obtain ⟨met', hresolves'⟩ := hknown.resolved _ _ hlookup
      obtain ⟨rfl, -⟩ := hresolves.unique hlegal hresolves'
      exact ⟨known, rfl, hknown.learned⟩
    | none =>
      obtain ⟨q', met', hresolves', hmore⟩ := hknown.pending _ hlookup
      obtain ⟨-, rfl⟩ := hresolves.unique hlegal hresolves'
      rw [List.length_cons] at hmore
      omega

/-- The pieces of a path resolve to a path that leads where the system goes. -/
theorem resolvePieces_of_leads {t u : FileTree} (hlegal : t.NamesLegal) {cwd : Location}
    (hshown : t.ShownBy u cwd) {enter : KnownLinks → Path → String → Except Fault Resolution}
    {most : Nat} (henter : t.EntersWithin cwd enter most) (ps : List String) {p q : Path}
    {here place : Location} {met : List Path} {known : KnownLinks} (hspelled : Spelled t cwd p here)
    (hleads : t.Leads p here (ps.filter isName) q place met) (hmost : met.length ≤ most)
    (hshort : ∀ link ∈ met, link.toString.utf8ByteSize < pathLimit)
    (hknown : Trusted t cwd known met.length) :
    ∃ known', u.resolvePieces cwd enter known p ps = .ok ⟨q, true, known'⟩ ∧
      Learned t cwd known known' := by
  induction ps generalizing p here met known with
  | nil =>
    cases hleads
    exact ⟨known, rfl, hknown.learned⟩
  | cons piece rest ih =>
    by_cases hpiece : isName piece = false
    · rw [List.filter_cons_of_neg (by simp [hpiece])] at hleads
      rw [resolvePieces, if_pos hpiece]
      exact ih hspelled hleads hmost hshort hknown
    rw [List.filter_cons_of_pos (by simpa using hpiece)] at hleads
    cases hleads with
    | up hright hrest =>
      rw [resolvePieces, if_neg hpiece, if_pos rfl]
      exact ih (hspelled.goesUp hright) hrest hmost hshort hknown
    | directory hname hrest =>
      have hlegalName := hname.legal hlegal
      rw [resolvePieces, if_neg hpiece, if_neg hlegalName.plain.2, if_neg hlegalName.noNul]
      dsimp only
      rw [hshown.directory hspelled hlegalName hname]
      exact ih (.child hspelled hlegalName hname) hrest hmost hshort hknown
    | link hname hrest =>
      -- the way passes the place of the target before it goes on with the names that remain
      obtain ⟨q₁, place₁, met₁, met₂, htarget, hafter, rfl⟩ := hrest.split
      rw [← List.cons_append] at hshort
      obtain ⟨hshort₁, hshort₂⟩ := List.forall_mem_append.mp hshort
      rw [List.length_cons, List.length_append] at hmost hknown
      obtain ⟨known₁, hresolved, hlearned⟩ := resolvePieces_link hlegal hshown henter hspelled hname
        htarget (by omega) (by omega) hshort₁ hknown rest
      have hspelled₁ := htarget.spelled hlegal (Leads.spelled_startOf hspelled _)
      obtain ⟨known', hrest', hlearned'⟩ := ih hspelled₁ hafter (by omega) hshort₂
        ((hlearned.trusted hknown).mono (by omega))
      exact ⟨known', hresolved.trans hrest', hlearned.trans hlearned'⟩

/-- With more levels than links on the way, a path resolves to one that leads where the system
goes. -/
theorem resolve_of_leads {t u : FileTree} (hlegal : t.NamesLegal) {cwd : Location}
    (hshown : t.ShownBy u cwd) (depth : Nat) :
    t.EntersWithin cwd (fun known p target => u.resolve cwd depth known p (pieces target)) depth := by
  induction depth with
  | zero =>
    intro known p q here place target met _ _ hnone
    cases hnone
  | succ depth ih =>
    intro known p q here place target met hspelled hleads hdepth hshort hknown
    exact resolvePieces_of_leads hlegal hshown ih (pieces target) (Leads.spelled_startOf hspelled target)
      hleads (Nat.le_of_lt_succ hdepth) hshort hknown

/-- No way has more links than can be resolved at one time. -/
theorem lt_depthLimit {u : FileTree} {n : Nat} (hn : n ≤ linkLimit + 1)
    (hlinks : n ≠ 0 → u.links ≠ []) : n < u.depthLimit := by
  by_cases hzero : n = 0
  · rw [hzero]
    exact Nat.succ_pos _
  · have hsome : 0 < u.links.length := List.length_pos_iff.mpr (hlinks hzero)
    have hlimit : 1 * (pathLimit / 3 + 2) ≤ u.links.length * (pathLimit / 3 + 2) :=
      Nat.mul_le_mul_right _ hsome
    unfold depthLimit
    unfold linkLimit at hn
    unfold pathLimit at hlimit ⊢
    omega

/-- What the system walks, when a path is one that it takes. -/
theorem reach_eq_walk {t : FileTree} {cwd place : Location} {path : String} {node : Node}
    (h : t.reach cwd true path = .ok (.found place node)) :
    t.walk true linkLimit (seenFrom cwd path) (steps path) = .ok (.found place node) := by
  unfold reach at h
  split at h
  · cases h
  split at h
  · cases h
  exact h

/-- A path leads the system to a directory, and every link on its way can be looked up. -/
structure LeadsTo (t : FileTree) (cwd : Location) (path : String) (place : Location) : Prop where
  reached : ∃ mode, t.reach cwd true path = .ok (.found place (.directory mode))
  looksUp : t.CanLookUp cwd path

/-- The canonical form of a path is the text of the place that it leads to, when the links on the way
are found by their paths. -/
theorem canonical_of_leads {t u : FileTree} (hlegal : t.NamesLegal) {cwd place : Location}
    {path : String} {q : Path} {met : List Path} {mode : Nat} (hshown : t.ShownBy u cwd)
    (hcwd : u.find? cwd = some (.directory mode)) (hnames : ∀ name ∈ cwd, name ≠ "..")
    (hleads : t.Leads (startOf ⟨.relative, []⟩ (pieces path)) (seenFrom cwd path)
      (ofString path).names q place met)
    (hdepth : met.length < u.depthLimit)
    (hshort : ∀ link ∈ met, link.toString.utf8ByteSize < pathLimit) :
    u.canonical cwd path = .ok (ofLocation place).toString := by
  have hstart : Spelled t cwd ⟨.relative, []⟩ cwd := .start Anchor.noConfusion
  have hnothing : Trusted t cwd [] met.length :=
    ⟨fun _ _ h => (nomatch h), fun _ h => nomatch h⟩
  obtain ⟨known, hresolved, -⟩ := resolve_of_leads hlegal hshown u.depthLimit [] ⟨.relative, []⟩ q
    cwd place path met hstart hleads hdepth hshort hnothing
  have habsolute := (hleads.spelled hlegal (Leads.spelled_startOf hstart path)).absolute hnames
  have hthere : ¬ (q.anchor = .relative ∧ u.find? cwd = none) := by simp [hcwd]
  dsimp only at hresolved
  rw [FileTree.canonical, hresolved, ← habsolute]
  simp only [bind, Except.bind, pure, Except.pure]
  rw [if_neg hthere]

/-- The way of the system to the directory that a path leads to. -/
theorem leads_of_reach {t : FileTree} (hlegal : t.NamesLegal) {cwd place : Location} {path : String}
    {mode : Nat} (h : t.reach cwd true path = .ok (.found place (.directory mode))) :
    ∃ q, t.Leads (startOf ⟨.relative, []⟩ (pieces path)) (seenFrom cwd path) (ofString path).names q
      place (t.linksMet cwd path) := by
  obtain ⟨q, hleads⟩ := leads_of_walk hlegal linkLimit (steps path)
    (startOf ⟨.relative, []⟩ (pieces path)) (seenFrom cwd path) (reach_eq_walk h)
  rw [filter_steps] at hleads
  exact ⟨q, hleads⟩

/-- The canonical form of a path that leads to a directory is the text of the place of the
directory. -/
theorem LeadsTo.canonical {t : FileTree} (hlegal : t.NamesLegal) {cwd place : Location}
    {path : String} {mode : Nat} (hcwd : t.find? cwd = some (.directory mode))
    (h : t.LeadsTo cwd path place) : t.canonical cwd path = .ok (ofLocation place).toString := by
  obtain ⟨⟨mode', hreach⟩, hlooks⟩ := h
  obtain ⟨q, hleads⟩ := leads_of_reach hlegal hreach
  refine canonical_of_leads hlegal (t.shownBy_self cwd) hcwd
    (fun name hname => (hlegal.of_found hcwd hname).plain.2) hleads ?_ hlooks
  refine lt_depthLimit (t.length_linkPaths linkLimit _ _ _) fun hmet => ?_
  obtain ⟨there, target, hlink⟩ := hleads.exists_link (mt List.length_eq_zero_iff.mpr hmet)
  exact links_ne_nil hlink

end NativeBuild.FileTree
