import NativeBuild.Machine.Utility.Difference.Alignment

/-
  Where marked elements stand. A row of marked elements can slide over the others as long as the one
  that it gives up equals the one that it takes: the sequences are aligned as well as before. Rows
  slide together where they touch, and then to a row of the other sequence at the same place, or
  down as far as they go.
-/

namespace NativeBuild.Machine.Difference

/-- An element is marked. None is outside of a sequence. -/
def isMarked (marks : Array Bool) (i : Int) : Bool := 0 ≤ i && marks.getD i.toNat false

/-- How many elements in a row are marked, or are not, from a place on in steps. -/
def rowLength (marks : Array Bool) (wanted : Bool) (step : Int) : Nat → Int → Nat
  | 0, _ => 0
  | fuel + 1, i =>
    if isMarked marks i = wanted ∧ 0 ≤ i then rowLength marks wanted step fuel (i + step) + 1 else 0

/-- The end of the row of marked elements that starts at a place. -/
def rowEnd (marks : Array Bool) (i : Int) : Int := i + rowLength marks true 1 marks.size i

/-- The start of the row of marked elements that ends at a place. -/
def rowStart (marks : Array Bool) (i : Int) : Int := i - rowLength marks true (-1) marks.size (i - 1)

/-- Sets the mark of an element. -/
def putMark (marks : Array Bool) (i : Int) (value : Bool) : Array Bool :=
  marks.setIfInBounds i.toNat value

/-- A row of marked elements that slides. -/
structure Slide where
  marks : Array Bool
  start : Int
  stop : Int
  /-- The place of the other sequence that belongs to the end of the row. -/
  partner : Int
  /-- The last place of the end at which the row belonged to one of the other sequence. -/
  met : Option Int := none

/-- What a row slides over. -/
structure Track where
  numbers : Array Nat
  other : Array Bool

namespace Track

/-- The element at a place. -/
def element (t : Track) (i : Int) : Option Nat := if i < 0 then none else t.numbers[i.toNat]?

/-- One place up. -/
def stepUp (t : Track) (s : Slide) : Slide :=
  let marks := putMark (putMark s.marks (s.start - 1) true) (s.stop - 1) false
  { s with
    marks := marks
    start := rowStart marks (s.start - 1)
    stop := s.stop - 1
    partner := rowStart t.other s.partner - 1 }

/-- Up as far as it goes. -/
def slideUp (t : Track) : Nat → Slide → Slide
  | 0, s => s
  | fuel + 1, s =>
    if 0 < s.start ∧ t.element (s.start - 1) = t.element (s.stop - 1) then
      slideUp t fuel (t.stepUp s)
    else s

/-- Down as far as it goes. -/
def slideDown (t : Track) : Nat → Slide → Slide
  | 0, s => s
  | fuel + 1, s =>
    if s.stop < t.numbers.size ∧ t.element s.start = t.element s.stop then
      let marks := putMark (putMark s.marks s.start false) s.stop true
      let stop := rowEnd marks s.stop
      let partner := rowEnd t.other (s.partner + 1)
      slideDown t fuel { s with
        marks := marks
        start := s.start + 1
        stop := stop
        partner := partner
        met := if s.partner + 1 < partner then some stop else s.met }
    else s

/-- Up and down until the row grows no more. -/
def slide (t : Track) : Nat → Slide → Slide
  | 0, s => s
  | fuel + 1, s =>
    let up := t.slideUp (t.numbers.size + 1) s
    let up := { up with met := if isMarked t.other (up.partner - 1) then some up.stop else none }
    let down := t.slideDown (t.numbers.size + 1) up
    if down.stop - down.start = s.stop - s.start then down else slide t fuel down

/-- Back up to the last place where the row met one of the other sequence. -/
def slideBack (t : Track) : Nat → Slide → Slide
  | 0, s => s
  | fuel + 1, s =>
    if s.met.any (· < s.stop) then
      let marks := putMark (putMark s.marks (s.start - 1) true) (s.stop - 1) false
      slideBack t fuel { s with
        marks := marks
        start := s.start - 1
        stop := s.stop - 1
        partner := rowStart t.other s.partner - 1 }
    else s

/-- The place of the other sequence that is reached when one goes over elements that are not marked. -/
def pass (t : Track) : Nat → Int → Int
  | 0, j => j
  | count + 1, j => pass t count (rowEnd t.other j + 1)

/-- Slides all rows from a place on. -/
def slideAll (t : Track) : Nat → Array Bool → Int → Int → Array Bool
  | 0, marks, _, _ => marks
  | fuel + 1, marks, i, j =>
    let plain := rowLength marks false 1 (t.numbers.size - i.toNat) i
    let start := i + plain
    if t.numbers.size ≤ start then marks
    else
      let partner := rowEnd t.other (t.pass plain j)
      let room := t.numbers.size + 1
      let s := t.slide room ⟨marks, start, rowEnd marks start, partner, none⟩
      let s := t.slideBack room s
      slideAll t fuel s.marks s.stop s.partner

end Track

namespace Marks

/-- All marked rows where they settle, first those of the left sequence. -/
def settled (m : Marks) (s : Sequences) : Marks :=
  let left := ({ numbers := s.left, other := m.right } : Track).slideAll (s.left.size + 1) m.left 0 0
  let right := ({ numbers := s.right, other := left } : Track).slideAll (s.right.size + 1) m.right 0 0
  ⟨left, right⟩

end Marks

end NativeBuild.Machine.Difference
