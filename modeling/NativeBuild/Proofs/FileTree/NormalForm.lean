import NativeBuild.Proofs.FileTree.Spelling

/-
  Spelled paths and their normal forms. The normal form of a text is the text of the path that it
  spells: empty and `.` pieces are gone between its names. Pieces that name nothing are passed over
  when a path is resolved, so a text has the canonical form of its normal form (`canonical_normal`),
  with one exception: what comes after a link that cannot be resolved is put after it as a path of its
  own, and that path leads from the root when it begins with a slash (`Restarts`). A text whose links
  can be resolved is never of that kind (`not_restarts_of_complete`).

  What carries the induction is that a piece takes a turn of its own, whatever comes after it
  (`resolvePieces_cons`).
-/

namespace NativeBuild

open NativeBuild.Path

namespace Path

/-- The pieces of a text that begins with a slash: the first is empty and not the last. -/
def slashFirst : List String → Bool
  | "" :: _ :: _ => true
  | _ => false

/-- A text that does not begin with a slash spells a relative path. -/
theorem anchorOf_eq_relative {ps : List String} (h : slashFirst ps = false) :
    anchorOf ps = .relative := by
  unfold anchorOf
  split
  · cases h
  · cases h
  · cases h
  · rfl

theorem slashFirst_filter_isName (ps : List String) : slashFirst (ps.filter isName) = false := by
  unfold slashFirst
  split
  · next hnames =>
    have hempty : "" ∈ ps.filter isName := hnames ▸ List.mem_cons_self
    exact absurd (List.mem_filter.mp hempty).2 (by decide)
  · rfl

end Path

namespace FileTree

/-! ## Turns -/

/-- What a piece of a path does in front of others, whatever they are: they are resolved from another
path, something is wrong, or a link is given up and they are put after it. -/
inductive Turn where
  | onward (known : KnownLinks) (path : Path)
  | failed (fault : Fault)
  | givenUp (known : KnownLinks) (path : Path)

section Turns

variable (t : FileTree) (cwd : Location)
  (enter : KnownLinks → Path → String → Except Fault Resolution)

/-- The turn that a piece takes. -/
def turn (known : KnownLinks) (p : Path) (piece : String) : Turn :=
  if isName piece = false then .onward known p
  else if piece = ".." then .onward known (up p)
  else if '\x00' ∈ piece.toList then .failed .embeddedNul
  else
    match t.linkTarget? cwd (p.child piece) with
    | none => .onward known (p.child piece)
    | some target =>
      match known.lookup (p.child piece) with
      | some (some resolved) => .onward known resolved
      | some none => .givenUp known (p.child piece)
      | none =>
        match enter ((p.child piece, none) :: known) p target with
        | .error fault => .failed fault
        | .ok ⟨resolved, true, known⟩ => .onward ((p.child piece, some resolved) :: known) resolved
        | .ok ⟨resolved, false, known⟩ => .givenUp known resolved

/-- A path is resolved turn by turn. -/
theorem resolvePieces_cons (known : KnownLinks) (p : Path) (piece : String) (rest : List String) :
    t.resolvePieces cwd enter known p (piece :: rest) =
      match t.turn cwd enter known p piece with
      | .onward known q => t.resolvePieces cwd enter known q rest
      | .failed fault => .error fault
      | .givenUp known q => .ok ⟨q.join (ofPieces rest), false, known⟩ := by
  rw [resolvePieces]
  unfold turn
  by_cases hname : isName piece = false
  · rw [if_pos hname, if_pos hname]
  by_cases hup : piece = ".."
  · rw [if_neg hname, if_neg hname, if_pos hup, if_pos hup]
  by_cases hnul : '\x00' ∈ piece.toList
  · rw [if_neg hname, if_neg hname, if_neg hup, if_neg hup, if_pos hnul, if_pos hnul]
  rw [if_neg hname, if_neg hname, if_neg hup, if_neg hup, if_neg hnul, if_neg hnul]
  dsimp only
  cases t.linkTarget? cwd (p.child piece) with
  | none => rfl
  | some target =>
    rcases known.lookup (p.child piece) with _ | _ | resolved
    · dsimp only
      rcases enter ((p.child piece, none) :: known) p target with fault | ⟨resolved, _ | _, known'⟩
      · rfl
      · rfl
      · rfl
    · rfl
    · rfl

/-- The first link that is given up on the way is followed by more than one slash. -/
def restartsFrom : KnownLinks → Path → List String → Bool
  | _, _, [] => false
  | known, p, piece :: rest =>
    match t.turn cwd enter known p piece with
    | .onward known q => restartsFrom known q rest
    | .failed _ => false
    | .givenUp _ _ => slashFirst rest

end Turns

variable {t : FileTree} {cwd : Location}
  {enter : KnownLinks → Path → String → Except Fault Resolution}

theorem turn_of_nameless {piece : String} (h : isName piece = false) (known : KnownLinks) (p : Path) :
    t.turn cwd enter known p piece = .onward known p := if_pos h

/-- Pieces that name nothing are passed over. -/
theorem resolvePieces_skip {lead : List String} (hlead : ∀ piece ∈ lead, isName piece = false)
    (known : KnownLinks) (p : Path) (rest : List String) :
    t.resolvePieces cwd enter known p (lead ++ rest) = t.resolvePieces cwd enter known p rest := by
  induction lead with
  | nil => rfl
  | cons piece more ih =>
    rw [List.cons_append, resolvePieces_cons, turn_of_nameless (hlead piece List.mem_cons_self)]
    exact ih fun other hother => hlead other (List.mem_cons_of_mem _ hother)

/-- Pieces are resolved like the names among them. -/
theorem resolvePieces_filter (known : KnownLinks) (p : Path) (ps : List String)
    (h : t.restartsFrom cwd enter known p ps = false) :
    t.resolvePieces cwd enter known p (ps.filter isName) = t.resolvePieces cwd enter known p ps := by
  induction ps generalizing known p with
  | nil => rfl
  | cons piece rest ih =>
    unfold restartsFrom at h
    rw [resolvePieces_cons]
    by_cases hname : isName piece = true
    · rw [List.filter_cons_of_pos hname, resolvePieces_cons]
      cases hturn : t.turn cwd enter known p piece with
      | onward known' q =>
        rw [hturn] at h
        exact ih known' q h
      | failed fault => rfl
      | givenUp known' q =>
        rw [hturn] at h
        have hnames := anchorOf_eq_relative (slashFirst_filter_isName rest)
        dsimp only
        rw [ofPieces, ofPieces, anchorOf_eq_relative h, hnames, List.filter_filter]
        simp only [Bool.and_self]
    · have hturn : t.turn cwd enter known p piece = .onward known p :=
        turn_of_nameless (Bool.eq_false_iff.mpr hname) known p
      rw [hturn] at h
      rw [List.filter_cons_of_neg hname, hturn]
      exact ih known p h

/-- Only at a link that is given up does a path start anew. -/
theorem incomplete_of_restartsFrom {known : KnownLinks} {p : Path} {ps : List String}
    (h : t.restartsFrom cwd enter known p ps = true) :
    ∃ r, t.resolvePieces cwd enter known p ps = .ok r ∧ r.complete = false := by
  induction ps generalizing known p with
  | nil => cases h
  | cons piece rest ih =>
    unfold restartsFrom at h
    rw [resolvePieces_cons]
    cases hturn : t.turn cwd enter known p piece with
    | onward known' q =>
      rw [hturn] at h
      exact ih h
    | failed fault =>
      rw [hturn] at h
      cases h
    | givenUp known' q => exact ⟨_, rfl, rfl⟩

/-! ## Canonical forms -/

/-- How the target of a link on the way of a path is resolved. -/
def enterLink (t : FileTree) (cwd : Location) (known : KnownLinks) (p : Path) (target : String) :
    Except Fault Resolution :=
  t.resolve cwd (t.links.length * (pathLimit / 3 + 2)) known p (pieces target)

theorem resolve_eq_resolvePieces (t : FileTree) (cwd : Location) (ps : List String) :
    t.resolve cwd t.depthLimit [] ⟨.relative, []⟩ ps =
      t.resolvePieces cwd (t.enterLink cwd) [] (startOf ⟨.relative, []⟩ ps) ps := rfl

/-- A text starts anew on its way: the first link that cannot be resolved is followed by more than one
slash, and so what comes after it is spelled from the root. -/
def Restarts (t : FileTree) (cwd : Location) (path : String) : Prop :=
  t.restartsFrom cwd (t.enterLink cwd) [] (startOf ⟨.relative, []⟩ (pieces path)) (pieces path) = true

instance (t : FileTree) (cwd : Location) (path : String) : Decidable (t.Restarts cwd path) :=
  inferInstanceAs (Decidable (_ = true))

/-- A text whose links can all be resolved does not start anew. -/
theorem not_restarts_of_complete {path : String} {r : Resolution}
    (h : t.resolve cwd t.depthLimit [] ⟨.relative, []⟩ (pieces path) = .ok r)
    (hcomplete : r.complete = true) : ¬ t.Restarts cwd path := by
  intro hrestarts
  obtain ⟨r', hr', hincomplete⟩ := incomplete_of_restartsFrom hrestarts
  rw [resolve_eq_resolvePieces, hr'] at h
  cases h
  rw [hincomplete] at hcomplete
  cases hcomplete

/-- A text that does not start anew has the canonical form of its normal form. -/
theorem canonical_normal {path : String} (h : ¬ t.Restarts cwd path) :
    t.canonical cwd (normal path) = t.canonical cwd path := by
  have hparts : ∀ name ∈ (ofString path).names, Part name := fun _ hname => part_of_mem_names hname
  obtain ⟨lead, hlead, hpieces⟩ := exists_pieces_toString hparts
  have hanchor : anchorOf (pieces (normal path)) = anchorOf (pieces path) :=
    congrArg Path.anchor (ofString_normal path)
  have hresolve : t.resolve cwd t.depthLimit [] ⟨.relative, []⟩ (pieces (normal path)) =
      t.resolve cwd t.depthLimit [] ⟨.relative, []⟩ (pieces path) := by
    rw [resolve_eq_resolvePieces, resolve_eq_resolvePieces, startOf, hanchor, ← startOf, normal, hpieces,
      resolvePieces_skip hlead]
    exact resolvePieces_filter _ _ _ (Bool.eq_false_iff.mpr h)
  rw [canonical, hresolve, canonical]

end FileTree

end NativeBuild
