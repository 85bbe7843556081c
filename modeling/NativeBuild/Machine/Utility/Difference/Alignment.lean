import NativeBuild.Machine.Bytes

/-
  How two sequences are aligned: a shortest way from one to the other by taking away and putting in.
  The search goes over the diagonals of the square that the two span, from both corners at once, and
  splits the square where the two ways meet. Diagonal `d` holds the places whose difference is `d`,
  and of each diagonal only the farthest place reached is kept.
-/

namespace NativeBuild.Machine.Difference

/-- Two sequences. Equal lines have equal numbers. -/
structure Sequences where
  left : Array Nat
  right : Array Nat

/-- The elements of each sequence that belong to one of the two alone. -/
structure Marks where
  left : Array Bool
  right : Array Bool

namespace Marks

/-- No element is marked. -/
def none (s : Sequences) : Marks :=
  ⟨Array.replicate s.left.size false, Array.replicate s.right.size false⟩

/-- Marks a part of the left sequence. -/
def markLeft (m : Marks) (start count : Nat) : Marks :=
  { m with left := (List.range count).foldl (fun a k => a.setIfInBounds (start + k) true) m.left }

/-- Marks a part of the right sequence. -/
def markRight (m : Marks) (start count : Nat) : Marks :=
  { m with right := (List.range count).foldl (fun a k => a.setIfInBounds (start + k) true) m.right }

end Marks

/-- A part of each of two sequences. -/
structure Window where
  left : Int
  leftEnd : Int
  right : Int
  rightEnd : Int

namespace Window

/-- The diagonals that go through a window. -/
def firstDiagonal (w : Window) : Int := w.left - w.rightEnd

/-- The last of these diagonals. -/
def lastDiagonal (w : Window) : Int := w.leftEnd - w.right

/-- How many elements are in a window. -/
def size (w : Window) : Nat := (w.leftEnd - w.left).toNat + (w.rightEnd - w.right).toNat

end Window

/-- How far a search has come: the places in the left sequence that it has reached on the diagonals
from the first to the last one that it works on. -/
structure Frontier where
  first : Int
  last : Int
  /-- The diagonal of the first one of the places. -/
  base : Int
  places : Array Int

namespace Frontier

/-- The place on a diagonal. -/
def place (f : Frontier) (d : Int) : Int := f.places.getD (d - f.base).toNat 0

/-- Puts down the place on a diagonal. -/
def put (f : Frontier) (d place : Int) : Frontier :=
  { f with places := f.places.setIfInBounds (d - f.base).toNat place }

/-- A search that starts on a diagonal. -/
def start (w : Window) (d place : Int) : Frontier :=
  let base := w.firstDiagonal - 1
  let room := (w.lastDiagonal + 1 - base).toNat + 1
  ({ first := d, last := d, base := base, places := Array.replicate room 0 } : Frontier).put d place

/-- The diagonals of the next step: one more on either side, or one less where the window ends. A
diagonal that has not been reached has a place that is never taken. -/
def widen (f : Frontier) (w : Window) (unreached : Int) : Frontier :=
  let f := if w.firstDiagonal < f.first then
      ({ f with first := f.first - 1 } : Frontier).put (f.first - 2) unreached
    else { f with first := f.first + 1 }
  if f.last < w.lastDiagonal then
    ({ f with last := f.last + 1 } : Frontier).put (f.last + 2) unreached
  else { f with last := f.last - 1 }

/-- A diagonal is among those of the last step. -/
def covers (f : Frontier) (d : Int) : Bool := f.first ≤ d && d ≤ f.last

end Frontier

namespace Sequences

/-- The sequences have the same at two places. -/
def agree (s : Sequences) (x y : Int) : Bool :=
  match s.left[x.toNat]?, s.right[y.toNat]? with
  | some a, some b => 0 ≤ x && 0 ≤ y && a == b
  | _, _ => false

/-- The whole of two sequences. -/
def whole (s : Sequences) : Window := ⟨0, s.left.size, 0, s.right.size⟩

/-- How many elements are the same from two places on, within a window. -/
def sameAhead (s : Sequences) (w : Window) : Nat → Int → Int → Nat
  | 0, _, _ => 0
  | fuel + 1, x, y =>
    if x < w.leftEnd ∧ y < w.rightEnd ∧ s.agree x y = true then
      sameAhead s w fuel (x + 1) (y + 1) + 1
    else 0

/-- How many elements are the same in front of two places, within a window. -/
def sameBehind (s : Sequences) (w : Window) : Nat → Int → Int → Nat
  | 0, _, _ => 0
  | fuel + 1, x, y =>
    if w.left < x ∧ w.right < y ∧ s.agree (x - 1) (y - 1) = true then
      sameBehind s w fuel (x - 1) (y - 1) + 1
    else 0

/-- A step of the search from the start on the diagonals from `d` down, or the point where it meets
the search from the end. -/
def advance (s : Sequences) (w : Window) (meets : Bool) (back : Frontier) :
    Nat → Int → Frontier → Except (Int × Int) Frontier
  | 0, _, f => .ok f
  | fuel + 1, d, f =>
    if d < f.first then .ok f
    else
      let start := max (f.place (d - 1) + 1) (f.place (d + 1))
      let x := start + s.sameAhead w w.size start (start - d)
      if meets && back.covers d && back.place d ≤ x then .error (x, x - d)
      else advance s w meets back fuel (d - 2) (f.put d x)

/-- A step of the search from the end on the diagonals from `d` down, or the point where it meets
the search from the start. -/
def retreat (s : Sequences) (w : Window) (meets : Bool) (front : Frontier) :
    Nat → Int → Frontier → Except (Int × Int) Frontier
  | 0, _, f => .ok f
  | fuel + 1, d, f =>
    if d < f.first then .ok f
    else
      let start := min (f.place (d - 1)) (f.place (d + 1) - 1)
      let x := start - s.sameBehind w w.size start (start - d)
      if meets && front.covers d && x ≤ front.place d then .error (x, x - d)
      else retreat s w meets front fuel (d - 2) (f.put d x)

/-- The point where the searches from both corners of a window meet. They take turns, a step each;
which of them can see the other first hangs on whether the corners lie on diagonals of one kind. -/
def meetingPoint (s : Sequences) (w : Window) : Nat → Frontier → Frontier → Int × Int
  | 0, _, _ => (w.left, w.right)
  | fuel + 1, front, back =>
    let odd := (w.firstDiagonal + w.lastDiagonal) % 2 ≠ 0
    let front := front.widen w (-1)
    match s.advance w odd back (w.size + 1) front.last front with
    | .error point => point
    | .ok front =>
      let back := back.widen w (w.leftEnd + w.rightEnd + 1)
      match s.retreat w (!odd) front (w.size + 1) back.last back with
      | .error point => point
      | .ok back => meetingPoint s w fuel front back

/-- Marks what differs within a window. -/
def markWithin (s : Sequences) : Nat → Window → Marks → Marks
  | 0, _, m => m
  | fuel + 1, w, m =>
    let front := s.sameAhead w w.size w.left w.right
    let w : Window := { w with left := w.left + front, right := w.right + front }
    let back := s.sameBehind w w.size w.leftEnd w.rightEnd
    let w : Window := { w with leftEnd := w.leftEnd - back, rightEnd := w.rightEnd - back }
    if w.left = w.leftEnd then m.markRight w.right.toNat (w.rightEnd - w.right).toNat
    else if w.right = w.rightEnd then m.markLeft w.left.toNat (w.leftEnd - w.left).toNat
    else
      let (x, y) := s.meetingPoint w (w.size + 1) (.start w (w.left - w.right) w.left)
        (.start w (w.leftEnd - w.rightEnd) w.leftEnd)
      let m := markWithin s fuel ⟨w.left, x, w.right, y⟩ m
      markWithin s fuel ⟨x, w.leftEnd, y, w.rightEnd⟩ m

/-- Marks what differs. -/
def marks (s : Sequences) : Marks := s.markWithin (s.whole.size + 1) s.whole (.none s)

end Sequences

end NativeBuild.Machine.Difference
