/-
  Paths as texts. A path is an anchor and a list of names: repeated and trailing slashes and `.`
  parts are gone, `..` parts are kept, because what `..` means depends on symbolic links. Cancelling
  `..` against the name before it is a separate, textual step (`Path.cancel`), and `Path.absolute`
  is that step on the path put after a working directory.
-/

namespace NativeBuild

/-- What a path starts from. Exactly two leading slashes are kept apart from one; three or more
count as one. -/
inductive Path.Anchor where
  | relative
  | root
  | doubleRoot
  deriving Repr, DecidableEq

/-- A path without empty and `.` parts. -/
structure Path where
  anchor : Path.Anchor
  names : List String
  deriving Repr, DecidableEq

namespace Path

/-- The text of an anchor. -/
def Anchor.text : Anchor → String
  | relative => ""
  | root => "/"
  | doubleRoot => "//"

/-- The pieces of a text between its slashes, empty ones included: one more than slashes. -/
def splitSlashes : List Char → List (List Char)
  | [] => [[]]
  | c :: rest =>
    match splitSlashes rest with
    | [] => [[]]
    | piece :: more => if c = '/' then [] :: piece :: more else (c :: piece) :: more

theorem splitSlashes_ne_nil (s : List Char) : splitSlashes s ≠ [] := by
  cases s with
  | nil => simp [splitSlashes]
  | cons c rest =>
    unfold splitSlashes
    split
    · simp
    · split <;> simp

/-- The pieces of a text between its slashes. -/
def pieces (s : String) : List String := (splitSlashes s.toList).map String.ofList

/-- A piece that names something: neither empty nor `.`. -/
def isName (piece : String) : Bool := piece != "" && piece != "."

/-- The anchor of a text, by the number of pieces that are empty in front. -/
def anchorOf : List String → Anchor
  | "" :: "" :: "" :: _ :: _ => .root
  | "" :: "" :: _ :: _ => .doubleRoot
  | "" :: _ :: _ => .root
  | _ => .relative

/-- The path of a text given by its pieces. -/
def ofPieces (ps : List String) : Path := ⟨anchorOf ps, ps.filter isName⟩

/-- The path that a text spells. -/
def ofString (s : String) : Path := ofPieces (pieces s)

/-- The text of a path: the anchor and the names between slashes, `.` when there is nothing. -/
def toString (p : Path) : String :=
  match p.anchor, p.names with
  | .relative, [] => "."
  | anchor, names => anchor.text ++ "/".intercalate names

/-- The path `q` seen from `p`: an anchored `q` stands for itself. -/
def join (p q : Path) : Path :=
  match q.anchor with
  | .relative => ⟨p.anchor, p.names ++ q.names⟩
  | _ => q

/-- A name under a path. -/
def child (p : Path) (name : String) : Path := ⟨p.anchor, p.names ++ [name]⟩

/-- The path without its last name. -/
def parent (p : Path) : Path := ⟨p.anchor, p.names.dropLast⟩

/-- Names with `..` cancelled. The names kept so far stand newest first; at an anchor `..` stays
there, and a relative path keeps the `..` that it starts with. -/
def cancelFrom (anchored : Bool) : List String → List String → List String
  | kept, [] => kept.reverse
  | kept, name :: rest =>
    if name = ".." then
      match kept with
      | [] => cancelFrom anchored (if anchored then [] else [".."]) rest
      | last :: before =>
        if last = ".." then cancelFrom anchored (".." :: kept) rest
        else cancelFrom anchored before rest
    else cancelFrom anchored (name :: kept) rest

/-- The path with every `..` cancelled against the name before it. -/
def cancel (p : Path) : Path := ⟨p.anchor, cancelFrom (p.anchor != .relative) [] p.names⟩

/-- The absolute form of a path, by its text alone. -/
def absolute (cwd p : Path) : Path := (cwd.join p).cancel

theorem join_relative {p q : Path} (h : q.anchor = .relative) :
    p.join q = ⟨p.anchor, p.names ++ q.names⟩ := by
  simp [join, h]

theorem join_anchored {p q : Path} (h : q.anchor ≠ .relative) : p.join q = q := by
  unfold join
  split
  · contradiction
  · rfl

theorem anchor_cancel (p : Path) : p.cancel.anchor = p.anchor := rfl

/-- From an anchored directory every path is anchored. -/
theorem anchor_absolute {cwd : Path} (h : cwd.anchor ≠ .relative) (p : Path) :
    (absolute cwd p).anchor ≠ .relative := by
  by_cases hp : p.anchor = .relative
  · simpa [absolute, cancel, join_relative hp] using h
  · simpa [absolute, cancel, join_anchored hp] using hp

/-- A name that no cancelling touches. -/
def Plain (name : String) : Prop := isName name = true ∧ name ≠ ".."

/-- Names without `..` are left alone. -/
theorem cancelFrom_plain (anchored : Bool) (kept names : List String)
    (h : ∀ n ∈ names, n ≠ "..") : cancelFrom anchored kept names = kept.reverse ++ names := by
  induction names generalizing kept with
  | nil => simp [cancelFrom]
  | cons n rest ih =>
    have hn : n ≠ ".." := h n (by simp)
    have hr : ∀ m ∈ rest, m ≠ ".." := fun m hm => h m (by simp [hm])
    simp [cancelFrom, hn, ih _ hr]

end Path

end NativeBuild
