import NativeBuild.Machine.Utility.Call

/-
  Amounts among arguments: digits, and a letter for a unit. The letters count in powers of 1024, or
  of 1000 with a `B` behind them.
-/

namespace NativeBuild.Machine

/-- What is wrong with an amount. -/
inductive AmountFault where
  | invalid
  /-- It is an amount, but more than 64 bits hold. -/
  | tooLarge
  /-- The number is followed by something that is no unit. -/
  | strange
  deriving Repr, DecidableEq

/-- The power of 1024 that a letter stands for. -/
def unitPower? (letter : Char) : Option Nat :=
  [('k', 1), ('K', 1), ('M', 2), ('m', 2), ('G', 3), ('T', 4), ('t', 4), ('P', 5), ('E', 6), ('Z', 7),
    ('Y', 8)].lookup letter

/-- The size of a unit that some letters are allowed for. A zero among the letters allows endings
such as `iB`. -/
def unitSize? (letters : String) (cs : List Char) : Option Nat :=
  match cs with
  | [] => some 1
  | letter :: ending =>
    if letters.toList.contains letter = false then none
    else
      match unitPower? letter with
      | some n =>
        if ending = [] then some (Nat.pow 1024 n)
        else if letters.toList.contains '0' = false then none
        else if ending = ['B'] ∨ ending = ['D'] then some (Nat.pow 1000 n)
        else if ending = ['i', 'B'] then some (Nat.pow 1024 n)
        else none
      | none =>
        if ending ≠ [] then none
        else [('b', 512), ('B', 1024), ('c', 1), ('w', 2)].lookup letter

/-- The amount that a text gives, with letters for units. -/
def amount? (letters : String) (text : String) : Except AmountFault Nat :=
  let cs := text.toList.dropWhile isSpace
  let cs := if cs.head? = some '+' then cs.drop 1 else cs
  let digits := cs.takeWhile Char.isDigit
  let unit := cs.drop digits.length
  if digits = [] ∧ (unit = [] ∨ text.toList.any fun c => c == '+' || isSpace c) then .error .invalid
  else
    let n := if digits = [] then 1 else ofDigits 10 digits
    match unitSize? letters unit with
    | none => .error (if digits = [] then .invalid else .strange)
    | some size => if Nat.pow 2 64 ≤ n * size then .error .tooLarge else .ok (n * size)

namespace Call

/-- Complains about an amount and ends. -/
def refusesAmount (c : Call) (status : Nat) (what text : String) (fault : AmountFault) : Progress :=
  c.fails status (what ++ ": " ++ quotedText text ++
    if fault = .tooLarge then ": Value too large for defined data type" else "")

end Call

end NativeBuild.Machine
