import NativeBuild.Machine.Utility.Call

/-
  Lines that are compared, and which of them count as equal. Two lines are equal if they have one
  key, what is left of them when all that is ignored has been taken out.
-/

namespace NativeBuild.Machine.Difference

/-- A line of a file. -/
structure Line where
  text : List UInt8
  /-- It has its end. Only the last line of a file can lack it. -/
  ended : Bool := true
  deriving Repr, DecidableEq

/-- What is ignored when lines are compared. -/
structure Likeness where
  /-- All blanks. -/
  allBlanks : Bool := false
  /-- How many blanks stand in a place, and whether there are any at the end of a line. -/
  blankCounts : Bool := false
  /-- Blanks at the end of a line. -/
  lastBlanks : Bool := false
  /-- Whether tabs or as many blanks are used. -/
  tabs : Bool := false
  letterCase : Bool := false
  /-- Whether the last line has its end. -/
  lastEnd : Bool := false
  tabSize : Nat := 8

/-- A byte is white space. -/
def isBlankByte (b : UInt8) : Bool := b == 32 || (9 ≤ b && b ≤ 13)

/-- A text with blanks for its tabs, from a column on. -/
def withoutTabs (size : Nat) : Nat → List UInt8 → List UInt8
  | _, [] => []
  | column, b :: rest =>
    if b = 9 then
      let count := size - column % size
      List.replicate count 32 ++ withoutTabs size (column + count) rest
    else b :: withoutTabs size (column + 1) rest

/-- A text with one blank for each row of blanks. -/
def oneBlank : List UInt8 → List UInt8
  | [] => []
  | b :: rest =>
    if isBlankByte b then
      if rest.head?.any isBlankByte then oneBlank rest else 32 :: oneBlank rest
    else b :: oneBlank rest

/-- A text without blanks at its end. -/
def withoutLastBlanks (text : List UInt8) : List UInt8 :=
  (text.reverse.dropWhile isBlankByte).reverse

namespace Likeness

/-- What counts of a text. -/
def textKey (l : Likeness) (text : List UInt8) : List UInt8 :=
  let text :=
    if l.allBlanks then text.filter (!isBlankByte ·)
    else if l.blankCounts then withoutLastBlanks (oneBlank text)
    else
      let text := if l.tabs then withoutTabs l.tabSize 0 text else text
      if l.lastBlanks then withoutLastBlanks text else text
  if l.letterCase then text.map fun b => if 65 ≤ b && b ≤ 90 then b + 32 else b else text

/-- What counts of a line. A line without an end is marked by one inside of its key. -/
def key (l : Likeness) (line : Line) : List UInt8 :=
  let endCounts := !(l.allBlanks || l.blankCounts || l.lastBlanks || l.lastEnd)
  l.textKey line.text ++ if endCounts && !line.ended then [10] else []

end Likeness

/-- Numbers for keys, equal ones for equal keys. -/
def numbered (keys : List (List UInt8)) : List Nat :=
  let sorted := keys.zipIdx.mergeSort fun a b =>
    !decide (b.1.map UInt8.toNat < a.1.map UInt8.toNat)
  let (placed, _, _) := sorted.foldl (fun (placed, last, n) (key, place) =>
    let n := if last = some key then n else n + 1
    ((place, n) :: placed, some key, n)) (([] : List (Nat × Nat)), (none : Option (List UInt8)), 0)
  (placed.foldl (fun (a : Array Nat) (place, n) => a.setIfInBounds place n)
    (Array.replicate keys.length 0)).toList

/-- The lines of a content. -/
def linesOfContent (content : List UInt8) : List Line :=
  let (texts, lacksEnd) := Call.linesOf true content
  texts.zipIdx.map fun (text, k) => ⟨text, !(lacksEnd && k + 1 == texts.length)⟩

end NativeBuild.Machine.Difference
