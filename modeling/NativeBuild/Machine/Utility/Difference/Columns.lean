import NativeBuild.Machine.Utility.Difference.Hunk

/-
  Two files side by side. Each line of the one stands in a column beside its partner, with a sign
  between them that tells how they differ, and is cut off where its column ends.
-/

namespace NativeBuild.Machine.Difference

/-- Two columns. -/
structure Columns where
  /-- How wide a column is. -/
  half : Nat
  /-- Where the second one starts. -/
  second : Nat
  tabSize : Nat
  expandsTabs : Bool
  /-- Lines that both files have are shown in the first column alone. -/
  leftOnly : Bool
  /-- Lines that both files have are not shown. -/
  hidesCommon : Bool

namespace Columns

/-- The least number of places between the columns. -/
def leastGap : Nat := 3

/-- The widest columns that fit into lines of a width. With tabs kept, the second one starts where a
tab leads to. -/
def ofWidth (width tabSize : Nat) (expandsTabs leftOnly hidesCommon : Bool) : Columns :=
  let t := if expandsTabs then 1 else tabSize
  let gap := t + leastGap
  let middle := width / 2 + gap / 2 + (if width % 2 = 1 ∧ gap % 2 = 1 then 1 else 0)
  let second := middle - middle % t
  let half := min (second - leastGap) (width - second)
  ⟨half, if half = 0 then width else second, tabSize, expandsTabs, leftOnly, hidesCommon⟩

/-- Tabs as long as they do not lead too far. -/
def tabs (size : Nat) : Nat → Nat → Nat → Nat × List UInt8
  | 0, start, _ => (start, [])
  | fuel + 1, start, stop =>
    let next := start + size - start % size
    if stop < next then (start, [])
    else
      let (reached, text) := tabs size fuel next stop
      (reached, 9 :: text)

/-- What leads from a place in a line to another. -/
def filling (c : Columns) (start stop : Nat) : List UInt8 :=
  let (reached, text) := if c.expandsTabs then (start, []) else tabs c.tabSize (stop + 1) start stop
  text ++ List.replicate (stop - reached) 32

/-- A line that is cut off: where its text is, how much of it is shown, and what is shown. -/
structure Cut where
  place : Nat := 0
  shown : Nat := 0
  bytes : List UInt8 := []

namespace Cut

/-- Shows more. -/
def add (k : Cut) (more : List UInt8) : Cut := { k with bytes := k.bytes ++ more }

/-- The next byte of the text. -/
def next (c : Columns) (indent : Nat) (k : Cut) (b : UInt8) : Cut :=
  if b = 9 then
    let width := c.tabSize - k.place % c.tabSize
    let moved : Cut := { k with place := k.place + width }
    if k.place ≠ k.shown then moved
    else
      let stop := k.shown + width
      if c.expandsTabs then
        let stop := min stop c.half
        ({ moved with shown := max stop k.shown } : Cut).add (List.replicate (stop - k.shown) 32)
      else if stop < c.half then ({ moved with shown := stop } : Cut).add [9]
      else moved
  else if b = 13 then ({ k with place := 0, shown := 0 } : Cut).add (13 :: c.filling 0 indent)
  else if b = 8 then
    let back : Cut := { k with place := k.place - 1 }
    if k.place = 0 ∨ c.half ≤ back.place then back
    else if k.shown ≤ back.place then
      ({ back with shown := back.place } : Cut).add (List.replicate (back.place - k.shown) 32)
    else ({ back with shown := back.place } : Cut).add [8]
  else if b = 11 ∨ b = 12 then if k.place < c.half then k.add [b] else k
  else if 32 ≤ b ∧ b < 127 then
    if k.place < c.half then ({ k with place := k.place + 1, shown := k.place + 1 } : Cut).add [b]
    else { k with place := k.place + 1 }
  else if k.place ≤ c.half then ({ k with shown := k.place } : Cut).add [b]
  else k

end Cut

/-- A line in its column, and where its text ends. -/
def halfLine (c : Columns) (indent : Nat) (text : List UInt8) : List UInt8 × Nat :=
  let k := text.foldl (Cut.next c indent) {}
  (k.bytes, k.shown)

/-- A line of both columns. The sign tells it if only one of two that differ has its end. -/
def row (c : Columns) (left : Option Line) (sign : Char) (right : Option Line) : List UInt8 :=
  let hasEnd := fun (line : Option Line) => line.any (·.ended)
  let (first, column) := (left.map fun line => c.halfLine 0 line.text).getD ([], 0)
  let sign := if sign = '|' ∧ hasEnd left ≠ hasEnd right then (if hasEnd left then '/' else '\\')
    else sign
  let middle := (c.half + c.second - 1) / 2
  let (gap, column) := if sign = ' ' then ([], column)
    else (c.filling column middle ++ toBytes [sign], max column middle + 1)
  let last := match right with
    | some line =>
      if line.text = [] ∧ line.ended then []
      else c.filling column c.second ++ (c.halfLine c.second line.text).1
    | none => []
  first ++ gap ++ last ++ if hasEnd left || hasEnd right then [10] else []

/-- Lines that both files have. -/
def common (c : Columns) (left right : List Line) : List UInt8 :=
  if c.hidesCommon then []
  else
    let pairs := if c.leftOnly then 0 else min left.length right.length
    ((left.zip right).take pairs).flatMap (fun (a, b) => c.row (some a) ' ' (some b)) ++
      (if c.leftOnly then [] else (right.drop pairs).flatMap fun line => c.row none ')' (some line)) ++
      (left.drop pairs).flatMap fun line => c.row (some line) '(' none

/-- A change: lines in pairs, then what one of the files has more. -/
def change (c : Columns) (s : Sides) (e : Change) : List UInt8 :=
  let left := s.removed e
  let right := s.inserted e
  let pairs := min left.length right.length
  ((left.zip right).flatMap fun (a, b) => c.row (some a) '|' (some b)) ++
    ((right.drop pairs).flatMap fun line => c.row none '>' (some line)) ++
    (left.drop pairs).flatMap fun line => c.row (some line) '<' none

/-- Two files with their changes. -/
def body (c : Columns) (s : Sides) (changes : List Change) : List UInt8 :=
  let (shown, place, other) := changes.foldl (fun (shown, place, other) e =>
    (shown ++ c.common (part s.left place e.before) (part s.right other e.after) ++ c.change s e,
      e.stop, e.stopAfter)) (([] : List UInt8), 0, 0)
  shown ++ c.common (s.left.drop place) (s.right.drop other)

end Columns

end NativeBuild.Machine.Difference
