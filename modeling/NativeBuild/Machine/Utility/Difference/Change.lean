import NativeBuild.Machine.Utility.Difference.Line
import NativeBuild.Machine.Utility.Difference.Prospect
import NativeBuild.Machine.Utility.Difference.Sliding

/-
  The changes from one file to another: lines of the one that give way to lines of the other. What
  both files have in common at their starts and at their ends is left out of the comparison, but for
  as many lines as are shown around a change.
-/

namespace NativeBuild.Machine.Difference

/-- A change: how many lines stand before it in each file, and how many it takes and brings. -/
structure Change where
  before : Nat
  removed : Nat
  after : Nat
  inserted : Nat
  deriving Repr, DecidableEq

namespace Change

/-- How many lines of the first file stand before the end of a change. -/
def stop (d : Change) : Nat := d.before + d.removed

/-- How many lines of the second file stand before the end of a change. -/
def stopAfter (d : Change) : Nat := d.after + d.inserted

end Change

/-- The changes that marks tell of, from two places on. Lines without marks go in pairs. -/
def changesFrom (m : Marks) : Nat → Nat → Nat → List Change
  | 0, _, _ => []
  | fuel + 1, i, j =>
    if m.left.size ≤ i ∧ m.right.size ≤ j then []
    else
      let removed := rowLength m.left true 1 m.left.size i
      let inserted := rowLength m.right true 1 m.right.size j
      let rest := changesFrom m fuel (i + removed + 1) (j + inserted + 1)
      if removed = 0 ∧ inserted = 0 then rest else ⟨i, removed, j, inserted⟩ :: rest

/-- How many elements two lists have in common at their starts. -/
def commonStart {α : Type} [DecidableEq α] : List α → List α → Nat
  | a :: as, b :: bs => if a = b then commonStart as bs + 1 else 0
  | _, _ => 0

/-- The changes from one file to another. -/
def changes (l : Likeness) (fewest : Bool) (around : Nat) (left right : List Line) : List Change :=
  let same := fun (line : Line) => if l.lastEnd then { line with ended := true } else line
  let start := commonStart (left.map same) (right.map same) - around
  let restLeft := left.drop start
  let restRight := right.drop start
  let stop := if l.lastEnd || (left.all Line.ended) == (right.all Line.ended) then
      commonStart (restLeft.map same).reverse (restRight.map same).reverse - around
    else 0
  let middleLeft := restLeft.take (restLeft.length - stop)
  let middleRight := restRight.take (restRight.length - stop)
  let numbers := numbered ((middleLeft ++ middleRight).map l.key)
  let s : Sequences := ⟨(numbers.take middleLeft.length).toArray,
    (numbers.drop middleLeft.length).toArray⟩
  let m := (s.differences fewest).settled s
  (changesFrom m (middleLeft.length + middleRight.length + 1) 0 0).map fun d =>
    { d with before := d.before + start, after := d.after + start }

end NativeBuild.Machine.Difference
