import NativeBuild.FileTree.Basic

/-
  Paths and their texts. The text of a path splits into its names again (`pieces_toString`), so
  what the system is given is what was meant, and the normal form of a text spells the same path
  (`ofString_normal`). Cancelling `..` by text gives the place that a path names when no link is
  followed (`absolute_eq_locate`), and a place below another one has a text that starts with the text
  of the other (`isPrefix_toString_ofLocation`).
-/

namespace NativeBuild.Path

/-- A name that a file may have. -/
structure Legal (name : String) : Prop where
  plain : Plain name
  noSlash : '/' ∉ name.toList
  noNul : '\x00' ∉ name.toList

instance (name : String) : Decidable (Plain name) := inferInstanceAs (Decidable (_ ∧ _))

instance (name : String) : Decidable (Legal name) :=
  decidable_of_iff (Plain name ∧ '/' ∉ name.toList ∧ '\x00' ∉ name.toList)
    ⟨fun h => ⟨h.1, h.2.1, h.2.2⟩, fun h => ⟨h.plain, h.noSlash, h.noNul⟩⟩

theorem Plain.ne_dot {name : String} (h : Plain name) : name ≠ "." := by
  rintro rfl
  exact absurd h.1 (by decide)

/-- A part of a path that no slash divides. -/
structure Part (name : String) : Prop where
  named : isName name = true
  noSlash : '/' ∉ name.toList

theorem Legal.part {name : String} (h : Legal name) : Part name := ⟨h.plain.1, h.noSlash⟩

theorem part_up : Part ".." := ⟨by decide, by decide⟩

theorem Part.ne_empty {name : String} (h : Part name) : name ≠ "" := by
  rintro rfl
  exact absurd h.named (by decide)

/-! ## Texts -/

theorem splitSlashes_cons_slash (rest : List Char) :
    splitSlashes ('/' :: rest) = [] :: splitSlashes rest := by
  rw [splitSlashes]
  cases h : splitSlashes rest with
  | nil => exact absurd h (splitSlashes_ne_nil rest)
  | cons piece more => exact if_pos rfl

theorem splitSlashes_cons_of_ne {c : Char} (hc : c ≠ '/') {rest piece : List Char}
    {more : List (List Char)} (h : splitSlashes rest = piece :: more) :
    splitSlashes (c :: rest) = (c :: piece) :: more := by
  rw [splitSlashes, h]
  exact if_neg hc

theorem splitSlashes_of_not_mem {piece : List Char} (h : '/' ∉ piece) :
    splitSlashes piece = [piece] := by
  induction piece with
  | nil => rfl
  | cons c rest ih =>
    obtain ⟨hc, hrest⟩ := not_or.mp (mt List.mem_cons.mpr h)
    exact splitSlashes_cons_of_ne (Ne.symm hc) (ih hrest)

theorem splitSlashes_append_slash (before after : List Char) :
    splitSlashes (before ++ '/' :: after) = splitSlashes before ++ splitSlashes after := by
  induction before with
  | nil => exact splitSlashes_cons_slash after
  | cons c before ih =>
    by_cases hc : c = '/'
    · rw [hc, List.cons_append, splitSlashes_cons_slash, splitSlashes_cons_slash, ih, List.cons_append]
    · obtain ⟨first, more, hsplit⟩ := List.exists_cons_of_ne_nil (splitSlashes_ne_nil before)
      rw [hsplit, List.cons_append] at ih
      rw [List.cons_append, splitSlashes_cons_of_ne hc ih, splitSlashes_cons_of_ne hc hsplit,
        List.cons_append]

theorem splitSlashes_append {piece : List Char} (h : '/' ∉ piece) (rest : List Char) :
    splitSlashes (piece ++ '/' :: rest) = piece :: splitSlashes rest := by
  rw [splitSlashes_append_slash, splitSlashes_of_not_mem h, List.singleton_append]

/-- Names between slashes are the pieces of the text. -/
theorem splitSlashes_intercalate {names : List (List Char)} (hne : names ≠ [])
    (h : ∀ name ∈ names, '/' ∉ name) : splitSlashes (['/'].intercalate names) = names := by
  induction names with
  | nil => exact absurd rfl hne
  | cons name rest ih =>
    have hname := h name List.mem_cons_self
    cases rest with
    | nil => rw [List.intercalate_singleton, splitSlashes_of_not_mem hname]
    | cons next more =>
      rw [List.intercalate_cons_cons, List.append_assoc, List.singleton_append,
        splitSlashes_append hname, ih (List.cons_ne_nil _ _) fun n hn => h n (List.mem_cons_of_mem _ hn)]

theorem pieces_intercalate {names : List String} (hne : names ≠ []) (h : ∀ name ∈ names, Part name) :
    pieces ("/".intercalate names) = names := by
  have hnames : ∀ name ∈ names.map String.toList, '/' ∉ name := by
    rintro _ hmem
    obtain ⟨name, hname, rfl⟩ := List.mem_map.mp hmem
    exact (h name hname).noSlash
  rw [pieces, String.toList_intercalate, show "/".toList = ['/'] from rfl,
    splitSlashes_intercalate (by simpa using hne) hnames, List.map_map]
  exact (List.map_congr_left fun name _ => String.ofList_toList).trans (List.map_id _)

/-- The empty pieces in front of the names of a path. -/
def Anchor.lead : Anchor → List String
  | relative => []
  | root => [""]
  | doubleRoot => ["", ""]

theorem pieces_slash (s : String) : pieces ("/" ++ s) = "" :: pieces s := by
  rw [pieces, String.toList_append, show "/".toList = ['/'] from rfl, List.singleton_append,
    splitSlashes_cons_slash]
  rfl

/-- The text of a path has the names of the path as its pieces. -/
theorem pieces_toString {p : Path} (hne : p.names ≠ []) (h : ∀ name ∈ p.names, Part name) :
    pieces p.toString = p.anchor.lead ++ p.names := by
  obtain ⟨anchor, names⟩ := p
  cases anchor with
  | relative =>
    cases names with
    | nil => exact absurd rfl hne
    | cons name rest =>
      exact (congrArg pieces String.empty_append).trans (pieces_intercalate hne h)
  | root => exact (pieces_slash _).trans (congrArg ("" :: ·) (pieces_intercalate hne h))
  | doubleRoot =>
    have htext : (Path.mk .doubleRoot names).toString = "/" ++ "/" ++ "/".intercalate names := rfl
    rw [htext, String.append_assoc, pieces_slash, pieces_slash, pieces_intercalate hne h]
    rfl

theorem anchorOf_lead {anchor : Anchor} {names : List String} (hne : names ≠ [])
    (h : ∀ name ∈ names, Part name) : anchorOf (anchor.lead ++ names) = anchor := by
  cases names with
  | nil => exact absurd rfl hne
  | cons name rest =>
    have hname := (h name List.mem_cons_self).ne_empty
    cases anchor <;> simp [Anchor.lead, anchorOf, hname]

/-- The text of a path spells the path. -/
theorem ofString_toString {p : Path} (h : ∀ name ∈ p.names, Part name) : ofString p.toString = p := by
  by_cases hne : p.names = []
  · obtain ⟨anchor, names⟩ := p
    cases hne
    cases anchor <;> decide
  · have hlead : p.anchor.lead.filter isName = [] := by
      cases p.anchor <;> rfl
    have hnames : p.names.filter isName = p.names := List.filter_eq_self.mpr fun n hn => (h n hn).named
    rw [ofString, pieces_toString hne h, ofPieces, anchorOf_lead hne h, List.filter_append, hlead,
      hnames]
    rfl

/-- A piece of a text is not divided. -/
theorem not_mem_of_mem_splitSlashes {s piece : List Char} (h : piece ∈ splitSlashes s) :
    '/' ∉ piece := by
  induction s generalizing piece with
  | nil =>
    rw [List.mem_singleton.mp h]
    exact List.not_mem_nil
  | cons c rest ih =>
    obtain ⟨first, more, hsplit⟩ := List.exists_cons_of_ne_nil (splitSlashes_ne_nil rest)
    by_cases hc : c = '/'
    · subst hc
      rw [splitSlashes_cons_slash] at h
      rcases List.mem_cons.mp h with rfl | hmem
      · exact List.not_mem_nil
      · exact ih hmem
    · rw [splitSlashes_cons_of_ne hc hsplit] at h
      rw [hsplit] at ih
      rcases List.mem_cons.mp h with rfl | hmem
      · exact fun hslash => (List.mem_cons.mp hslash).elim (fun heq => hc heq.symm)
          (ih List.mem_cons_self)
      · exact ih (List.mem_cons_of_mem _ hmem)

/-- A piece of a text has no other characters than the text. -/
theorem mem_of_mem_splitSlashes {s piece : List Char} (h : piece ∈ splitSlashes s) {c : Char}
    (hc : c ∈ piece) : c ∈ s := by
  induction s generalizing piece with
  | nil =>
    rw [List.mem_singleton.mp h] at hc
    exact hc
  | cons d rest ih =>
    obtain ⟨first, more, hsplit⟩ := List.exists_cons_of_ne_nil (splitSlashes_ne_nil rest)
    by_cases hd : d = '/'
    · subst hd
      rw [splitSlashes_cons_slash] at h
      rcases List.mem_cons.mp h with rfl | hmem
      · cases hc
      · exact List.mem_cons_of_mem _ (ih hmem hc)
    · rw [splitSlashes_cons_of_ne hd hsplit] at h
      rw [hsplit] at ih
      rcases List.mem_cons.mp h with rfl | hmem
      · exact (List.mem_cons.mp hc).elim (fun heq => heq ▸ List.mem_cons_self)
          fun hfirst => List.mem_cons_of_mem _ (ih List.mem_cons_self hfirst)
      · exact List.mem_cons_of_mem _ (ih (List.mem_cons_of_mem _ hmem) hc)

/-- A character of a text other than a slash stands in one of its pieces. -/
theorem exists_mem_splitSlashes {s : List Char} {c : Char} (hc : c ∈ s) (hslash : c ≠ '/') :
    ∃ piece ∈ splitSlashes s, c ∈ piece := by
  induction s with
  | nil => cases hc
  | cons d rest ih =>
    by_cases hd : d = '/'
    · subst hd
      obtain ⟨piece, hpiece, hmem⟩ := ih ((List.mem_cons.mp hc).resolve_left hslash)
      rw [splitSlashes_cons_slash]
      exact ⟨piece, List.mem_cons_of_mem _ hpiece, hmem⟩
    · obtain ⟨first, more, hsplit⟩ := List.exists_cons_of_ne_nil (splitSlashes_ne_nil rest)
      rw [splitSlashes_cons_of_ne hd hsplit]
      rcases List.mem_cons.mp hc with rfl | hrest
      · exact ⟨_, List.mem_cons_self, List.mem_cons_self⟩
      · obtain ⟨piece, hpiece, hmem⟩ := ih hrest
        rw [hsplit] at hpiece
        rcases List.mem_cons.mp hpiece with rfl | hmore
        · exact ⟨_, List.mem_cons_self, List.mem_cons_of_mem _ hmem⟩
        · exact ⟨piece, List.mem_cons_of_mem _ hmore, hmem⟩

theorem part_of_mem_names {s name : String} (h : name ∈ (ofString s).names) : Part name := by
  obtain ⟨hpiece, hnamed⟩ := List.mem_filter.mp h
  obtain ⟨piece, hmem, rfl⟩ := List.mem_map.mp hpiece
  exact ⟨hnamed, String.toList_ofList ▸ not_mem_of_mem_splitSlashes hmem⟩

/-- The names of a text that a file may have: the text has no NUL, and they are not `..`. -/
theorem legal_of_mem_names {s name : String} (hnul : '\x00' ∉ s.toList)
    (h : name ∈ (ofString s).names) (hup : name ≠ "..") : Legal name := by
  obtain ⟨hnamed, hslash⟩ := part_of_mem_names h
  obtain ⟨piece, hmem, rfl⟩ := List.mem_map.mp (List.mem_filter.mp h).1
  refine ⟨⟨hnamed, hup⟩, hslash, fun hc => hnul (mem_of_mem_splitSlashes hmem ?_)⟩
  rwa [String.toList_ofList] at hc

/-! ## Normal forms -/

/-- A text has the character zero when one of the names has it that it spells. -/
theorem nul_mem_iff {s : String} :
    '\x00' ∈ s.toList ↔ ∃ name ∈ (ofString s).names, '\x00' ∈ name.toList := by
  constructor
  · intro h
    obtain ⟨piece, hpiece, hmem⟩ := exists_mem_splitSlashes h (by decide)
    refine ⟨.ofList piece, List.mem_filter.mpr ⟨List.mem_map_of_mem hpiece, ?_⟩, ?_⟩
    · -- neither the empty piece nor `.` has a character zero
      have hne : ∀ other : String, '\x00' ∉ other.toList → String.ofList piece ≠ other := by
        rintro other hother rfl
        exact hother (String.toList_ofList ▸ hmem)
      simp [isName, hne "" (by decide), hne "." (by decide)]
    · rwa [String.toList_ofList]
  · rintro ⟨name, hname, hmem⟩
    obtain ⟨piece, hpiece, rfl⟩ := List.mem_map.mp (List.mem_filter.mp hname).1
    rw [String.toList_ofList] at hmem
    exact mem_of_mem_splitSlashes hpiece hmem

/-- The normal form of a text: the text of the path that it spells. -/
def normal (s : String) : String := (ofString s).toString

/-- The normal form of a text spells the same path. -/
theorem ofString_normal (s : String) : ofString (normal s) = ofString s :=
  ofString_toString fun _ hname => part_of_mem_names hname

theorem nul_mem_normal (s : String) : '\x00' ∈ (normal s).toList ↔ '\x00' ∈ s.toList := by
  rw [nul_mem_iff, ofString_normal, ← nul_mem_iff]

/-- In the text of a path, pieces that name nothing stand in front of the names alone. -/
theorem exists_pieces_toString {p : Path} (h : ∀ name ∈ p.names, Part name) :
    ∃ lead, (∀ piece ∈ lead, isName piece = false) ∧ pieces p.toString = lead ++ p.names := by
  by_cases hne : p.names = []
  · obtain ⟨anchor, names⟩ := p
    cases hne
    cases anchor
    · exact ⟨["."], by decide, by decide⟩
    · exact ⟨["", ""], by decide, by decide⟩
    · exact ⟨["", "", ""], by decide, by decide⟩
  · refine ⟨p.anchor.lead, ?_, pieces_toString hne h⟩
    cases p.anchor <;> decide

/-! ## Places -/

/-- A name taken by itself: `..` drops the last name of a place. -/
def onwards (place : Location) (name : String) : Location :=
  if name = ".." then place.dropLast else place ++ [name]

theorem locate_eq (cwd : Location) (p : Path) :
    p.locate cwd = p.names.foldl onwards (if p.anchor = .relative then cwd else []) := rfl

theorem locate_child (cwd : Location) (p : Path) (name : String) :
    (p.child name).locate cwd = onwards (p.locate cwd) name := by
  simp [locate_eq, child]

theorem foldl_onwards_of_plain {names : List String} (h : ∀ name ∈ names, name ≠ "..")
    (place : Location) : names.foldl onwards place = place ++ names := by
  induction names generalizing place with
  | nil => simp
  | cons name rest ih =>
    rw [List.foldl_cons, ih fun n hn => h n (List.mem_cons_of_mem _ hn), onwards,
      if_neg (h name List.mem_cons_self), List.append_assoc, List.singleton_append]

/-- At an anchor, cancelling `..` gives the place that is named. -/
theorem cancelFrom_anchored (kept names : List String) (h : ∀ name ∈ kept, name ≠ "..") :
    cancelFrom true kept names = names.foldl onwards kept.reverse := by
  induction names generalizing kept with
  | nil => rfl
  | cons name rest ih =>
    rw [List.foldl_cons, onwards]
    unfold cancelFrom
    by_cases hname : name = ".."
    · rw [if_pos hname, if_pos hname]
      cases kept with
      | nil => exact ih [] h
      | cons last before =>
        dsimp only
        rw [if_neg (h last List.mem_cons_self), List.reverse_cons, List.dropLast_concat]
        exact ih before fun n hn => h n (List.mem_cons_of_mem _ hn)
    · rw [if_neg hname, if_neg hname, ← List.reverse_cons]
      exact ih (name :: kept) (List.forall_mem_cons.mpr ⟨hname, h⟩)

/-- The absolute form of a path is the text of the place that the path names when no link is
followed. -/
theorem absolute_eq_locate {cwd : Location} (hcwd : ∀ name ∈ cwd, name ≠ "..") {p : Path}
    (hanchor : p.anchor ≠ .doubleRoot) : (ofLocation cwd).absolute p = ofLocation (p.locate cwd) := by
  obtain ⟨anchor, names⟩ := p
  rw [locate_eq]
  cases anchor with
  | doubleRoot => exact absurd rfl hanchor
  | relative =>
    have hcancel := cancelFrom_anchored [] (cwd ++ names) fun _ h => nomatch h
    rw [List.foldl_append, List.reverse_nil, foldl_onwards_of_plain hcwd, List.nil_append] at hcancel
    exact congrArg ofLocation hcancel
  | root =>
    exact congrArg ofLocation (cancelFrom_anchored [] names fun _ h => nomatch h)

/-- Without `..` there is nothing to cancel. -/
theorem absolute_of_plain {cwd p : Path} (hcwd : ∀ name ∈ cwd.names, name ≠ "..")
    (hp : ∀ name ∈ p.names, name ≠ "..") : cwd.absolute p = cwd.join p := by
  have hcancel : ∀ q : Path, (∀ name ∈ q.names, name ≠ "..") → q.cancel = q := fun q hq => by
    rw [cancel, cancelFrom_plain _ _ _ hq]
    rfl
  refine hcancel _ ?_
  by_cases hanchor : p.anchor = .relative
  · rw [join_relative hanchor]
    exact List.forall_mem_append.mpr ⟨hcwd, hp⟩
  · rw [join_anchored hanchor]
    exact hp

theorem isPrefix_intercalate (sep : List Char) (xs ys : List (List Char)) :
    sep.intercalate xs <+: sep.intercalate (xs ++ ys) := by
  induction xs with
  | nil => exact List.nil_prefix
  | cons x rest ih =>
    cases rest with
    | nil =>
      cases ys with
      | nil => exact List.prefix_refl _
      | cons y more =>
        rw [List.intercalate_singleton, List.singleton_append, List.intercalate_cons_cons,
          List.append_assoc]
        exact List.prefix_append _ _
    | cons next more =>
      rw [List.cons_append, List.cons_append, List.intercalate_cons_cons,
        List.intercalate_cons_cons]
      exact (List.prefix_append_right_inj _).mpr ih

/-- The text of a place below another one starts with the text of the other. -/
theorem isPrefix_toString_ofLocation {place below : Location} (h : place <+: below) :
    (ofLocation place).toString.toList <+: (ofLocation below).toString.toList := by
  obtain ⟨rest, rfl⟩ := h
  simp only [ofLocation, toString, Anchor.text]
  rw [String.toList_append, String.toList_append, String.toList_intercalate,
    String.toList_intercalate, List.map_append]
  exact (List.prefix_append_right_inj _).mpr (isPrefix_intercalate _ _ _)

end NativeBuild.Path
