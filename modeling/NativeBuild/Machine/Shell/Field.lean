import NativeBuild.Machine.Bytes

/-
  Fields: how an expanded word falls into the arguments of a command. An expansion gives marks, in
  segments that say where the text may be split: at the characters of a separator set, at the
  divisions between parameters only, or not at all.
-/

namespace NativeBuild.Machine

/-- A part of an expanded word. -/
inductive Mark where
  | char (c : Char) (escaped : Bool)
  /-- A quotation mark: the field is there even if nothing else is in it. -/
  | quote
  /-- The division between two parameters. -/
  | division
  deriving Repr, DecidableEq

/-- Where a segment may be split. -/
inductive Region where
  | whole
  | separated
  /-- At the divisions between parameters. -/
  | divided
  deriving Repr, DecidableEq

/-- Marks that are split in the same way. -/
structure Segment where
  marks : List Mark
  region : Region := .whole

/-- A text as marks. -/
def marksOf (escaped : Bool) (cs : List Char) : List Mark := cs.map fun c => .char c escaped

/-- The characters of marks; a division between parameters is none. -/
def Mark.text (marks : List Mark) : List Char :=
  marks.filterMap fun m => match m with
    | .char c _ => some c
    | .quote | .division => none

/-- The text of segments. -/
def Segment.text (segments : List Segment) : List Char :=
  segments.flatMap fun s => Mark.text s.marks

/-- Marks as a pattern: a backslash stands in front of characters that mean themselves. One that
stands there of itself takes the place of another. -/
def patternText : Bool → List Mark → List Char
  | _, [] => []
  | free, .char c escaped :: rest =>
    if c = '\\' ∧ escaped = false then c :: patternText false rest
    else if escaped ∧ free then '\\' :: c :: patternText true rest
    else c :: patternText true rest
  | _, _ :: rest => patternText true rest

/-- The pattern that segments make. -/
def Segment.pattern (segments : List Segment) : List Char :=
  patternText true (segments.flatMap (·.marks))

/-- The separators that count as blanks. -/
def isBlankSeparator (c : Char) : Bool := c == ' ' || c == '\t' || c == '\n'

/-- The state of splitting: the fields that are done, newest first, and the one that is being
made, last mark first. -/
structure Splitting where
  done : List (List Mark) := []
  current : List Mark := []
  /-- How many more fields may be made; nothing means any number. -/
  left : Option Nat := none
  /-- From here on the last field holds nothing but blanks and perhaps one separator. -/
  cut : Option Nat := none
  afterDivided : Bool := false
  blank : Bool := false
  /-- Separators are passed over that belong to the one before. -/
  passing : Bool := false

namespace Splitting

/-- A mark separates fields, and whether it counts as a blank. -/
def separates (separators : List Char) (region : Region) (m : Mark) : Bool × Bool :=
  match m with
  | .division => (true, true)
  | .char c _ =>
    if region = .divided then (false, false)
    else (separators.contains c, separators.contains c && isBlankSeparator c)
  | .quote => (false, false)

/-- A mark that separates no fields or comes after the last field has begun. -/
def keep (m : Mark) (s : Splitting) : Splitting := { s with current := m :: s.current }

/-- A mark of a segment that may be split. -/
def step (separators : List Char) (region : Region) (after : Bool) (s : Splitting) (m : Mark) :
    Splitting :=
  let (isSeparator, isBlank) := separates separators region m
  if s.left = some 0 then
    if isBlank then { s.keep m with cut := some (s.cut.getD s.current.length) }
    else { s.keep m with cut := if isSeparator ∧ s.blank then s.cut else none, blank := false }
  else if s.passing ∧ isSeparator ∧ (isBlank ∨ s.blank) then
    if isBlank then s else { s with blank := false }
  else
    let s := { s with passing := false }
    if isSeparator = false then s.keep m
    else
      let s := if after ∨ region = .divided then s else { s with blank := isBlank }
      if s.current = [] ∧ s.blank then s
      else if s.left = some 1 then
        { s.keep m with left := some 0, cut := some s.current.length }
      else
        { s with
          done := s.current.reverse :: s.done, current := [], left := s.left.map (· - 1)
          passing := region = .separated }

/-- A segment. -/
def segment (separators : List Char) (s : Splitting) (g : Segment) : Splitting :=
  match g.region with
  | .whole => { s with current := g.marks.reverse ++ s.current, passing := false }
  | region =>
    let after := s.afterDivided
    let s := { s with afterDivided := region = .divided, blank := false, passing := false }
    g.marks.foldl (step separators region after) s

/-- The fields at the end. -/
def finish (s : Splitting) : List (List Mark) :=
  let current := match s.cut with
    | some n => s.current.drop (s.current.length - n)
    | none => s.current
  (if current = [] ∧ s.afterDivided = false then s.done else current.reverse :: s.done).reverse

end Splitting

/-- Splits segments into fields, at most as many as asked for; the last one then takes the rest. -/
def splitSegments (separators : List Char) (limit : Option Nat) (segments : List Segment) :
    List (List Mark) :=
  (segments.foldl (Splitting.segment separators) { left := limit }).finish

end NativeBuild.Machine
