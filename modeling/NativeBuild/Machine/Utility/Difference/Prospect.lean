import NativeBuild.Machine.Utility.Difference.Alignment

/-
  What is left out before two sequences are aligned. An element that the other sequence does not
  have at all cannot be kept and is marked at once. One that the other has very often says little
  about where it belongs; it is left out too where it stands among those that are.
-/

namespace NativeBuild.Machine.Difference

/-- What is thought of an element before the search. -/
inductive Prospect where
  /-- It takes part in the search. -/
  | open
  /-- The other sequence does not have it. -/
  | hopeless
  /-- The other sequence has it very often. -/
  | common
  deriving Repr, DecidableEq

namespace Prospect

/-- A base, doubled for each time that a number can be divided by four before nothing is left. -/
def doubled (base n : Nat) : Nat :=
  if h : n / 4 = 0 then base else doubled (2 * base) (n / 4)
termination_by n

/-- More copies than this in the other sequence are very many. -/
def commonLimit (size : Nat) : Nat := doubled 5 (size / 64)

/-- What is thought of an element by the number of its copies in the other sequence. -/
def ofCount (limit copies : Nat) : Prospect :=
  if copies = 0 then hopeless else if limit < copies then common else .open

/-- A common element that takes part after all. -/
def cancel (p : Prospect) : Prospect := if p = common then .open else p

/-- Cancels each row of common elements that is too long. -/
def cancelRows (least : Nat) (ps : List Prospect) : List Prospect :=
  (ps.splitBy fun p q => p == q).flatMap fun row =>
    if row.head? = some common ∧ least ≤ row.length then row.map cancel else row

/-- Cancels the common elements at the front, up to three hopeless ones in a row, or to the first
hopeless one behind eight others. -/
def cancelFront : Nat → Nat → List Prospect → List Prospect
  | _, _, [] => []
  | place, row, p :: rest =>
    if row = 3 ∨ (8 ≤ place ∧ p = hopeless) then p :: rest
    else p.cancel :: cancelFront (place + 1) (if p = hopeless then row + 1 else 0) rest

/-- Cancels the common elements of a stretch from a hopeless element to another where there are too
many of them. -/
def cancelInside (ps : List Prospect) : List Prospect :=
  if ps.length < ps.count common * 4 then ps.map cancel
  else
    let ps := cancelRows (doubled 1 (ps.length / 4) + 1) ps
    let ps := cancelFront 0 0 ps
    (cancelFront 0 0 ps.reverse).reverse

/-- Decides on the common elements of a stretch in which none takes part so far: those at its two
ends do. -/
def cancelStretch (ps : List Prospect) : List Prospect :=
  let front := ps.takeWhile (· == common)
  let rest := ps.drop front.length
  let back := rest.reverse.takeWhile (· == common)
  front.map cancel ++ cancelInside (rest.take (rest.length - back.length)) ++ back.map cancel

/-- Decides on all common elements. -/
def decide (ps : List Prospect) : List Prospect :=
  (ps.splitBy fun p q => (p == .open) == (q == .open)).flatMap fun stretch =>
    if stretch.head? = some .open then stretch else cancelStretch stretch

end Prospect

/-- How often each number stands in a sequence. -/
def copies (limit : Nat) (numbers : Array Nat) : Array Nat :=
  numbers.foldl (fun counts n => counts.modify n (· + 1)) (Array.replicate limit 0)

/-- What is thought of the elements of a sequence. -/
def prospects (numbers other : Array Nat) : List Prospect :=
  let limit := (numbers ++ other).foldl max 0 + 1
  let counts := copies limit other
  let most := Prospect.commonLimit numbers.size
  Prospect.decide (numbers.toList.map fun n => .ofCount most (counts.getD n 0))

/-- The places of the elements that take part in the search. -/
def openPlaces (ps : List Prospect) : Array Nat :=
  (ps.zipIdx.filterMap fun (p, k) => if p = .open then some k else none).toArray

/-- The marks of a sequence some elements of which have been left out and the others searched. -/
def restored (ps : List Prospect) (places : Array Nat) (found : Array Bool) : Array Bool :=
  (places.zip found).foldl (fun marks (place, isMarked) => marks.setIfInBounds place isMarked)
    (ps.map (· != .open)).toArray

namespace Sequences

/-- Marks what differs. What is hopeless is left out of the search, unless the fewest marks are
wanted. -/
def differences (s : Sequences) (fewest : Bool) : Marks :=
  if fewest then s.marks
  else
    let left := prospects s.left s.right
    let right := prospects s.right s.left
    let leftPlaces := openPlaces left
    let rightPlaces := openPlaces right
    let found := ({
      left := leftPlaces.map fun k => s.left.getD k 0
      right := rightPlaces.map fun k => s.right.getD k 0 } : Sequences).marks
    ⟨restored left leftPlaces found.left, restored right rightPlaces found.right⟩

end Sequences

end NativeBuild.Machine.Difference
