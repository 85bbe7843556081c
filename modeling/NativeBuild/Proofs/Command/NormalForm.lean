import Mathlib.Data.List.TakeWhile
import NativeBuild.Proofs.Environment
import NativeBuild.Proofs.FileTree.Spelling
import NativeBuild.World

/-
  Building a command puts it into normal form. The text of its directory begins with one slash, or with
  two where the text that was given does so, and goes on with parts that are names (`InNormalForm`);
  such texts are exactly those of normal paths (`inNormalForm_iff`), and a normal path is its own
  absolute form, wherever it is seen from (`absolute_of_isNormal`). So a command built again from its own
  parts is the same command, in whatever directory that happens (`make_projects`).
-/

namespace NativeBuild.Path

/-! ## Normal paths -/

/-- A path in normal form: anchored, of names that no slash divides, and without `..`. -/
structure IsNormal (p : Path) : Prop where
  anchored : p.anchor ≠ .relative
  parts : ∀ name ∈ p.names, Part name
  settled : ∀ name ∈ p.names, name ≠ ".."

theorem IsNormal.plain {p : Path} (hp : p.IsNormal) {name : String} (h : name ∈ p.names) :
    Plain name := ⟨(hp.parts name h).named, hp.settled name h⟩

/-- What is left at an anchor are given names, and none of them is `..`. -/
theorem mem_foldl_onwards {names : List String} {place : Location} (hplace : ∀ n ∈ place, n ≠ "..")
    {name : String} (h : name ∈ names.foldl onwards place) :
    (name ∈ place ∨ name ∈ names) ∧ name ≠ ".." := by
  induction names generalizing place with
  | nil => exact ⟨.inl h, hplace name h⟩
  | cons next rest ih =>
    rw [List.foldl_cons] at h
    by_cases hup : next = ".."
    · rw [onwards, if_pos hup] at h
      obtain ⟨hmem, hne⟩ := ih (fun n hn => hplace n (List.dropLast_subset place hn)) h
      exact ⟨hmem.imp (List.dropLast_subset place ·) (List.mem_cons_of_mem _), hne⟩
    · rw [onwards, if_neg hup] at h
      have hfurther : ∀ n ∈ place ++ [next], n ≠ ".." := by
        intro n hn
        rcases List.mem_append.mp hn with hold | hnew
        · exact hplace n hold
        · rw [List.mem_singleton.mp hnew]
          exact hup
      obtain ⟨hmem, hne⟩ := ih hfurther h
      refine ⟨?_, hne⟩
      rcases hmem with hmem | hmem
      · rcases List.mem_append.mp hmem with hold | hnew
        · exact .inl hold
        · exact .inr (List.mem_singleton.mp hnew ▸ List.mem_cons_self)
      · exact .inr (List.mem_cons_of_mem _ hmem)

theorem names_absolute {cwd : Path} (hcwd : cwd.anchor ≠ .relative) (p : Path) :
    (cwd.absolute p).names = (cwd.join p).names.foldl onwards [] := by
  have hanchor : ((cwd.join p).anchor != .relative) = true := by
    have hne := anchor_absolute hcwd p
    rw [absolute, anchor_cancel] at hne
    simpa using hne
  show cancelFrom ((cwd.join p).anchor != .relative) [] (cwd.join p).names = _
  rw [hanchor]
  exact cancelFrom_anchored [] _ fun name hname => absurd hname List.not_mem_nil

/-- The absolute form of a path is in normal form. -/
theorem isNormal_absolute {cwd p : Path} (hcwd : cwd.IsNormal) (hp : ∀ name ∈ p.names, Part name) :
    (cwd.absolute p).IsNormal := by
  have hjoin : ∀ name ∈ (cwd.join p).names, Part name := by
    by_cases hanchor : p.anchor = .relative
    · rw [join_relative hanchor]
      exact List.forall_mem_append.mpr ⟨hcwd.parts, hp⟩
    · rw [join_anchored hanchor]
      exact hp
  have hleft : ∀ name ∈ (cwd.absolute p).names, name ∈ (cwd.join p).names ∧ name ≠ ".." := by
    intro name hname
    rw [names_absolute hcwd.anchored] at hname
    have hnil : ∀ n ∈ ([] : Location), n ≠ ".." := fun n hn => absurd hn List.not_mem_nil
    obtain ⟨hmem, hne⟩ := mem_foldl_onwards hnil hname
    exact ⟨hmem.resolve_left List.not_mem_nil, hne⟩
  exact ⟨anchor_absolute hcwd.anchored p, fun name hname => hjoin name (hleft name hname).1,
    fun name hname => (hleft name hname).2⟩

/-- A normal path is its own absolute form, wherever it is seen from. -/
theorem absolute_of_isNormal {p : Path} (hp : p.IsNormal) (here : Path) : here.absolute p = p := by
  rw [absolute, join_anchored hp.anchored, cancel, cancelFrom_plain _ _ _ hp.settled]
  rfl

/-! ## Slashes in front -/

/-- How many slashes a text begins with. -/
def leadingSlashes (text : String) : Nat := (text.toList.takeWhile (· = '/')).length

/-- What a text goes on with after the slashes in front. -/
def afterSlashes (text : String) : String := .ofList (text.toList.dropWhile (· = '/'))

/-- The anchor of a text that begins with so many slashes. -/
def anchorFor (slashes : Nat) : Anchor :=
  if slashes = 0 then .relative else if slashes = 2 then .doubleRoot else .root

theorem takeWhile_slashes (n : Nat) {rest : List Char} (h : rest.head? ≠ some '/') :
    (List.replicate n '/' ++ rest).takeWhile (· = '/') = List.replicate n '/' ∧
      (List.replicate n '/' ++ rest).dropWhile (· = '/') = rest := by
  have hslashes : ∀ c ∈ List.replicate n '/', decide (c = '/') = true := by
    intro c hc
    rw [(List.mem_replicate.mp hc).2]
    rfl
  have hrest : rest.takeWhile (· = '/') = [] ∧ rest.dropWhile (· = '/') = rest := by
    cases rest with
    | nil => exact ⟨rfl, rfl⟩
    | cons c rest =>
      have hc : c ≠ '/' := by simpa using h
      simp [hc]
  rw [List.takeWhile_append_of_pos hslashes, List.dropWhile_append_of_pos hslashes, hrest.1, hrest.2,
    List.append_nil]
  exact ⟨rfl, rfl⟩

/-- A text is its slashes in front and what comes after them. -/
theorem toList_eq_slashes (text : String) :
    text.toList = List.replicate (leadingSlashes text) '/' ++ (afterSlashes text).toList ∧
      (afterSlashes text).toList.head? ≠ some '/' := by
  have hfront : text.toList.takeWhile (· = '/') =
      List.replicate (leadingSlashes text) '/' := by
    rw [List.eq_replicate_iff]
    refine ⟨rfl, fun c hc => ?_⟩
    simpa using List.mem_takeWhile_imp hc
  rw [afterSlashes, String.toList_ofList, ← hfront, List.takeWhile_append_dropWhile]
  refine ⟨rfl, fun hhead => ?_⟩
  have := List.head?_dropWhile_not (fun c => decide (c = '/')) text.toList
  rw [hhead] at this
  simp at this

theorem splitSlashes_replicate (n : Nat) (rest : List Char) :
    splitSlashes (List.replicate n '/' ++ rest) = List.replicate n [] ++ splitSlashes rest := by
  induction n with
  | zero => rfl
  | succ n ih =>
    rw [List.replicate_succ, List.cons_append, splitSlashes_cons_slash, ih, List.replicate_succ,
      List.cons_append]

/-- Empty pieces in front stand for the slashes of the anchor. -/
theorem anchorOf_replicate (n : Nat) {after : List String}
    (h : after = [""] ∨ ∃ piece more, after = piece :: more ∧ piece ≠ "") :
    anchorOf (List.replicate n "" ++ after) = anchorFor n := by
  match n with
  | 0 => rcases h with rfl | ⟨piece, more, rfl, hne⟩ <;> simp [anchorOf, anchorFor, *]
  | 1 => rcases h with rfl | ⟨piece, more, rfl, hne⟩ <;> simp [anchorOf, anchorFor, *]
  | 2 => rcases h with rfl | ⟨piece, more, rfl, hne⟩ <;> simp [anchorOf, anchorFor, *]
  | n + 3 =>
    have hne : List.replicate n "" ++ after ≠ [] := by
      rcases h with rfl | ⟨piece, more, rfl, -⟩ <;> simp
    obtain ⟨piece, more, hbehind⟩ := List.exists_cons_of_ne_nil hne
    have hthree : List.replicate (n + 3) "" ++ after = "" :: "" :: "" :: piece :: more := by
      rw [← hbehind]
      rfl
    rw [hthree]
    rfl

/-- What comes after the slashes in front is nothing or begins with a piece that is not empty. -/
theorem pieces_of_no_slash {text : String} (h : text.toList.head? ≠ some '/') :
    pieces text = [""] ∨ ∃ piece more, pieces text = piece :: more ∧ piece ≠ "" := by
  unfold pieces
  cases htext : text.toList with
  | nil => exact .inl rfl
  | cons c rest =>
    obtain ⟨first, more, hsplit⟩ := List.exists_cons_of_ne_nil (splitSlashes_ne_nil rest)
    have hc : c ≠ '/' := by simpa [htext] using h
    refine .inr ⟨.ofList (c :: first), more.map .ofList, ?_, by simp⟩
    rw [splitSlashes_cons_of_ne hc hsplit, List.map_cons]

/-- The anchor of a text is told by the slashes in front. -/
theorem anchor_ofString (text : String) : (ofString text).anchor = anchorFor (leadingSlashes text) := by
  obtain ⟨htext, hafter⟩ := toList_eq_slashes text
  have hpieces : pieces text =
      List.replicate (leadingSlashes text) "" ++ pieces (afterSlashes text) := by
    rw [pieces, htext, splitSlashes_replicate, List.map_append, List.map_replicate]
    rfl
  show anchorOf (pieces text) = anchorFor (leadingSlashes text)
  rw [hpieces, anchorOf_replicate _ (pieces_of_no_slash hafter)]

/-! ## Texts of normal paths -/

theorem toString_of_anchored {p : Path} (hp : p.anchor ≠ .relative) :
    p.toString = p.anchor.text ++ "/".intercalate p.names := by
  obtain ⟨anchor, names⟩ := p
  cases anchor with
  | relative => exact absurd rfl hp
  | root => rfl
  | doubleRoot => rfl

theorem toList_text (anchor : Anchor) :
    anchor.text.toList = List.replicate anchor.lead.length '/' := by
  cases anchor <;> rfl

/-- Names between slashes do not begin with one. -/
theorem head?_intercalate {names : List String} (hne : names ≠ []) (h : ∀ name ∈ names, Part name)
    (more : List Char) : (("/".intercalate names).toList ++ more).head? ≠ some '/' := by
  obtain ⟨name, rest, rfl⟩ := List.exists_cons_of_ne_nil hne
  have hname := h name List.mem_cons_self
  obtain ⟨c, tail, htail⟩ := List.exists_cons_of_ne_nil (mt String.toList_eq_nil_iff.mp hname.ne_empty)
  have hc : c ≠ '/' := by
    rintro rfl
    exact hname.noSlash (htail ▸ List.mem_cons_self)
  have hbegin : ∃ tail', ("/".intercalate (name :: rest)).toList = c :: tail' := by
    rw [String.toList_intercalate, List.map_cons, htail]
    cases rest with
    | nil => exact ⟨tail, by simp⟩
    | cons next more => exact ⟨_, by rw [List.map_cons, List.intercalate_cons_cons]; rfl⟩
  obtain ⟨tail', hbegin⟩ := hbegin
  rw [hbegin]
  simpa using hc

/-- The slashes in front of the text of a path are those of its anchor, whatever stands behind. -/
theorem slashes_toString_append {p : Path} (hp : p.IsNormal) {more : String}
    (h : p.names ≠ [] ∨ more.toList.head? ≠ some '/') :
    leadingSlashes (p.toString ++ more) = p.anchor.lead.length ∧
      afterSlashes (p.toString ++ more) = "/".intercalate p.names ++ more := by
  have hbehind : (("/".intercalate p.names).toList ++ more.toList).head? ≠ some '/' := by
    by_cases hne : p.names = []
    · rw [hne]
      exact h.resolve_left (absurd hne ·)
    · exact head?_intercalate hne hp.parts more.toList
  have htext : (p.toString ++ more).toList = List.replicate p.anchor.lead.length '/' ++
      (("/".intercalate p.names).toList ++ more.toList) := by
    rw [toString_of_anchored hp.anchored, String.toList_append, String.toList_append, toList_text,
      List.append_assoc]
  obtain ⟨hfront, hafter⟩ := takeWhile_slashes p.anchor.lead.length hbehind
  refine ⟨?_, ?_⟩
  · rw [leadingSlashes, htext, hfront, List.length_replicate]
  · rw [afterSlashes, htext, hafter, String.ofList_append, String.ofList_toList, String.ofList_toList]

theorem slashes_toString {p : Path} (hp : p.IsNormal) :
    leadingSlashes p.toString = p.anchor.lead.length ∧
      afterSlashes p.toString = "/".intercalate p.names := by
  have hslashes : leadingSlashes (p.toString ++ "") = p.anchor.lead.length ∧
      afterSlashes (p.toString ++ "") = "/".intercalate p.names ++ "" :=
    slashes_toString_append hp (.inr (by decide))
  rwa [String.append_empty, String.append_empty] at hslashes

/-- A directory as it is seen from another one, both texts: put behind it with a slash between them,
unless it begins with a slash itself. -/
def joined (cwd : Path) (directory : String) : String :=
  if directory.toList.head? = some '/' then directory
  else if cwd.toString.toList.getLast? = some '/' then cwd.toString ++ directory
  else cwd.toString ++ ("/" ++ directory)

theorem leadingSlashes_eq_zero {text : String} :
    leadingSlashes text = 0 ↔ text.toList.head? ≠ some '/' := by
  unfold leadingSlashes
  cases text.toList with
  | nil => simp
  | cons c rest => by_cases hc : c = '/' <;> simp [hc]

/-- Two slashes are kept apart from one exactly when the joined text begins with two. -/
theorem anchor_join {cwd : Path} (hcwd : cwd.IsNormal) (directory : String) :
    (cwd.join (ofString directory)).anchor = .doubleRoot ↔
      leadingSlashes (cwd.joined directory) = 2 := by
  by_cases hslash : directory.toList.head? = some '/'
  · have hsome : leadingSlashes directory ≠ 0 := mt leadingSlashes_eq_zero.mp (not_not.mpr hslash)
    have hanchor := anchor_ofString directory
    have hjoined : cwd.joined directory = directory := if_pos hslash
    have hanchored : (ofString directory).anchor ≠ .relative := by
      rw [hanchor, anchorFor, if_neg hsome]
      split <;> decide
    rw [join_anchored hanchored, hanchor, hjoined, anchorFor, if_neg hsome]
    split <;> simp [*]
  · have hrelative : (ofString directory).anchor = .relative := by
      rw [anchor_ofString, leadingSlashes_eq_zero.mpr hslash]
      rfl
    have hfront : leadingSlashes (cwd.joined directory) = cwd.anchor.lead.length := by
      rw [joined, if_neg hslash]
      split
      · exact (slashes_toString_append hcwd (.inr hslash)).1
      · rename_i hlast
        -- The text of the root ends in a slash, so this directory has names.
        refine (slashes_toString_append hcwd (.inl fun hroot => hlast ?_)).1
        rw [toString_of_anchored hcwd.anchored, hroot]
        cases hanchor : cwd.anchor with
        | relative => exact absurd hanchor hcwd.anchored
        | root => rfl
        | doubleRoot => rfl
    rw [join_relative hrelative, hfront]
    cases hanchor : cwd.anchor with
    | relative => exact absurd hanchor hcwd.anchored
    | root => simp [Anchor.lead]
    | doubleRoot => simp [Anchor.lead]

/-! ## Normal forms -/

/-- The text of a directory in normal form: one slash or two in front, then names between slashes and
no slash at the end, or nothing at the root. -/
structure InNormalForm (text : String) : Prop where
  slashes : leadingSlashes text = 1 ∨ leadingSlashes text = 2
  parts : afterSlashes text ≠ "" → ∀ piece ∈ pieces (afterSlashes text), piece ∉ ["", ".", ".."]
  ending : text.toList.getLast? = some '/' → afterSlashes text = ""

theorem plain_iff {name : String} : Plain name ↔ name ∉ ["", ".", ".."] := by
  simp [Plain, isName, and_assoc]

/-- The last piece of a text that ends with a slash is empty. -/
theorem getLast?_pieces {text : String} (h : text.toList.getLast? = some '/') :
    (pieces text).getLast? = some "" := by
  obtain ⟨before, htext⟩ := List.getLast?_eq_some_iff.mp h
  rw [pieces, htext, splitSlashes_append_slash, List.map_append, List.getLast?_append]
  rfl

/-- The text of a normal path is in normal form. -/
theorem inNormalForm_toString {p : Path} (hp : p.IsNormal) : InNormalForm p.toString := by
  obtain ⟨hfront, hafter⟩ := slashes_toString hp
  refine ⟨?_, ?_, ?_⟩
  · rw [hfront]
    cases hanchor : p.anchor with
    | relative => exact absurd hanchor hp.anchored
    | root => exact .inl rfl
    | doubleRoot => exact .inr rfl
  · rw [hafter]
    intro hne piece hpiece
    have hnames : p.names ≠ [] := by
      intro hnil
      rw [hnil] at hne
      exact hne rfl
    rw [pieces_intercalate hnames hp.parts] at hpiece
    exact plain_iff.mp (hp.plain hpiece)
  · rw [hafter]
    intro hlast
    by_cases hnames : p.names = []
    · rw [hnames]
      rfl
    · have hpiece := getLast?_pieces hlast
      rw [pieces_toString hnames hp.parts] at hpiece
      exact absurd hpiece (FileTree.getLast?_pieces_ne hnames hp.parts)

theorem intercalate_splitSlashes (s : List Char) : ['/'].intercalate (splitSlashes s) = s := by
  induction s with
  | nil => rfl
  | cons c rest ih =>
    obtain ⟨first, more, hsplit⟩ := List.exists_cons_of_ne_nil (splitSlashes_ne_nil rest)
    rw [hsplit] at ih
    by_cases hc : c = '/'
    · rw [hc, splitSlashes_cons_slash, hsplit, List.intercalate_cons_cons, ih]
      rfl
    · rw [splitSlashes_cons_of_ne hc hsplit]
      cases more with
      | nil =>
        rw [List.intercalate_singleton] at ih ⊢
        rw [ih]
      | cons next more =>
        rw [List.intercalate_cons_cons] at ih ⊢
        rw [← ih]
        rfl

theorem intercalate_pieces (text : String) : "/".intercalate (pieces text) = text := by
  have hchars := intercalate_splitSlashes text.toList
  apply String.toList_injective
  rw [String.toList_intercalate, pieces, List.map_map]
  simpa [Function.comp_def] using hchars

/-- Texts in normal form are those of normal paths. -/
theorem inNormalForm_iff {text : String} :
    InNormalForm text ↔ ∃ p : Path, p.IsNormal ∧ p.toString = text := by
  constructor
  · intro h
    obtain ⟨anchor, hanchored, hlead⟩ : ∃ anchor : Anchor,
        anchor ≠ .relative ∧ anchor.lead.length = leadingSlashes text := by
      rcases h.slashes with hone | htwo
      · exact ⟨.root, by decide, hone.symm⟩
      · exact ⟨.doubleRoot, by decide, htwo.symm⟩
    obtain ⟨names, hnames, hplain⟩ : ∃ names : List String,
        "/".intercalate names = afterSlashes text ∧ ∀ name ∈ names, Part name ∧ name ≠ ".." := by
      by_cases hroot : afterSlashes text = ""
      · exact ⟨[], hroot.symm, fun name hname => absurd hname List.not_mem_nil⟩
      · refine ⟨pieces (afterSlashes text), intercalate_pieces _, fun name hname => ?_⟩
        have hname' := plain_iff.mpr (h.parts hroot name hname)
        obtain ⟨piece, hpiece, rfl⟩ := List.mem_map.mp hname
        refine ⟨⟨hname'.1, ?_⟩, hname'.2⟩
        rw [String.toList_ofList]
        exact not_mem_of_mem_splitSlashes hpiece
    refine ⟨⟨anchor, names⟩, ⟨hanchored, fun name hname => (hplain name hname).1,
      fun name hname => (hplain name hname).2⟩, String.toList_injective ?_⟩
    rw [toString_of_anchored hanchored, hnames, String.toList_append, toList_text, hlead]
    exact (toList_eq_slashes text).1.symm
  · rintro ⟨p, hp, rfl⟩
    exact inNormalForm_toString hp

end NativeBuild.Path

namespace NativeBuild

open Command

/-! ## Commands -/

/-- Settings agree with themselves. -/
theorem Settings.agree_self {s : Settings} (h : UniqueNames s) : s.agree s = true := by
  have hall : ∀ entry ∈ s, s.lookup entry.1 = some entry.2 := fun entry hmem => h.lookup_of_mem hmem
  simpa [agree] using fun name value? hmem => hall (name, value?) hmem

namespace CommandSpec

theorem sameAs_self {spec : CommandSpec} (h : UniqueNames spec.overlay) :
    spec.sameAs spec = true := by
  simp [sameAs, Settings.agree_self h]

theorem make_of_ne_nil (base : Path) {arguments : List Argument} (hne : arguments ≠ [])
    (directory : String) (overlay : Settings) (mergeStderr : Bool) :
    ∃ spec, make (.ok base) arguments directory overlay mergeStderr = .ok spec ∧
      spec.arguments = arguments.map Argument.render ∧
      spec.directory = base.absolute (.ofString directory) ∧ spec.overlay = overlay ∧
      spec.mergeStderr = mergeStderr := by
  obtain ⟨program, operands, rfl⟩ := List.exists_cons_of_ne_nil hne
  exact ⟨_, rfl, rfl, rfl, rfl, rfl⟩

/-- A command whose directory is in normal form is built again from its parts, seen from anywhere. -/
theorem make_again {spec : CommandSpec} (h : spec.directory.IsNormal) (here : Path) :
    make (.ok here) (spec.arguments.map .text) spec.directory.toString spec.overlay
      spec.mergeStderr = .ok spec := by
  have hdirectory : here.absolute (.ofString spec.directory.toString) = spec.directory := by
    rw [Path.ofString_toString h.parts, Path.absolute_of_isNormal h]
  have hrender : (spec.arguments.map Argument.text).map Argument.render = spec.arguments := by
    simp [Function.comp_def, Argument.render]
  unfold make
  rw [hrender]
  simp only [arguments, hdirectory]

/-- Building a command is a projection onto normal forms. From an absolute normal directory every
command with a token can be built. The text of its directory is then in normal form, with two slashes
in front exactly when what was given, joined to the current directory, has two, and its names are those
of the joined path where every `..` takes back the name before it, at the root nothing; a text that is
in normal form already is kept. Building the command again from its own parts gives the same command, so
also the same text and the same environment, from any directory and in any world, also in one whose
working directory is gone; and the program's own comparison of commands says so. -/
theorem make_projects {cwd : Path} (hcwd : cwd.IsNormal) {arguments : List Argument}
    (hne : arguments ≠ []) (directory : String) (overlay : Settings) (mergeStderr : Bool) :
    ∃ spec, make (.ok cwd) arguments directory overlay mergeStderr = .ok spec ∧
      spec.arguments = arguments.map Argument.render ∧ spec.overlay = overlay ∧
      spec.mergeStderr = mergeStderr ∧
      Path.InNormalForm spec.directory.toString ∧
      (Path.leadingSlashes spec.directory.toString = 2 ↔
        Path.leadingSlashes (cwd.joined directory) = 2) ∧
      spec.directory.names = (cwd.join (.ofString directory)).names.foldl Path.onwards [] ∧
      (Path.InNormalForm directory → spec.directory.toString = directory) ∧
      (∀ here : Path, make (.ok here) (spec.arguments.map .text) spec.directory.toString spec.overlay
        spec.mergeStderr = .ok spec) ∧
      (∀ (σ : Type) (w : World σ), make (w.base [spec.directory.toString])
        (spec.arguments.map .text) spec.directory.toString spec.overlay spec.mergeStderr =
          .ok spec) ∧
      (UniqueNames overlay → spec.sameAs spec = true) := by
  obtain ⟨spec, hmake, harguments, hdirectory, hoverlay, hmerge⟩ :=
    make_of_ne_nil cwd hne directory overlay mergeStderr
  have hnormal : spec.directory.IsNormal := by
    rw [hdirectory]
    exact Path.isNormal_absolute hcwd fun _ => Path.part_of_mem_names
  refine ⟨spec, hmake, harguments, hoverlay, hmerge, Path.inNormalForm_toString hnormal, ?slashes,
    ?names, ?kept, make_again hnormal, ?world, ?same⟩
  case slashes =>
    have hfront := (Path.slashes_toString hnormal).1
    have hanchor : spec.directory.anchor = (cwd.join (.ofString directory)).anchor := by
      rw [hdirectory, Path.absolute, Path.anchor_cancel]
    rw [← Path.anchor_join hcwd, ← hanchor, hfront]
    cases spec.directory.anchor <;> decide
  case names =>
    rw [hdirectory, Path.names_absolute hcwd.anchored]
  case kept =>
    intro hform
    obtain ⟨p, hp, rfl⟩ := Path.inNormalForm_iff.mp hform
    rw [hdirectory, Path.ofString_toString hp.parts, Path.absolute_of_isNormal hp]
  case world =>
    intro σ w
    have hanchored : (Path.ofString spec.directory.toString).anchor ≠ .relative := by
      rw [Path.ofString_toString hnormal.parts]
      exact hnormal.anchored
    rw [w.base_of_anchored hanchored]
    exact make_again hnormal (.ofLocation w.cwd)
  case same =>
    intro hnames
    exact sameAs_self (hoverlay ▸ hnames)

theorem make_projects_climbing :
    (Path.mk .root ["home"]).IsNormal ∧ [Argument.text "make", .integer 4] ≠ [] ∧
      ∃ spec, make (.ok ⟨.root, ["home"]⟩) [.text "make", .integer 4] "//../a/./../b//"
          [("CC", some "clang")] false = .ok spec ∧
        spec.arguments = ["make", "4"] ∧ spec.directory.toString = "//b" ∧
        Path.leadingSlashes ((Path.mk .root ["home"]).joined "//../a/./../b//") = 2 ∧
        make (.ok ⟨.root, ["elsewhere"]⟩) [.text "make", .text "4"] "//b" [("CC", some "clang")]
          false = .ok spec := by
  have hlegal : ∀ name ∈ ["home"], Path.Legal name := by decide
  have hcwd : (Path.mk .root ["home"]).IsNormal :=
    ⟨by decide, fun name hname => (hlegal name hname).part, by decide⟩
  have hne : [Argument.text "make", .integer 4] ≠ [] := by simp
  obtain ⟨spec, hmake, harguments, hoverlay, hmerge, -, hslashes, -, -, hagain, -⟩ :=
    make_projects hcwd hne "//../a/./../b//" [("CC", some "clang")] false
  have htext : spec.directory.toString = "//b" := by
    cases hmake
    decide
  have hagain := hagain ⟨.root, ["elsewhere"]⟩
  rw [harguments, htext, hoverlay, hmerge] at hagain
  exact ⟨hcwd, hne, spec, hmake, harguments, htext, hslashes.mp (htext ▸ by decide), hagain⟩

end CommandSpec

end NativeBuild
