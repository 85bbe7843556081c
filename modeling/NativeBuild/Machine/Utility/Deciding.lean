import NativeBuild.Machine.Condition
import NativeBuild.Machine.Utility.Call

/-
  The utility that decides conditions. How the words are read depends on how many there are: up to
  four have fixed forms, more of them are read from left to right, and `-a` binds more tightly
  than `-o`.
-/

namespace NativeBuild.Machine

/-- The words of a condition, of which so many count, and what they are about. -/
structure Trial where
  words : List String
  count : Nat
  surroundings : Surroundings

/-- A value and the place behind the words that give it; or what is wrong with them. -/
abbrev Verdict := Except String (Bool × Nat)

/-- The operators between two words. -/
def dyadicOperators : List String :=
  ["=", "!=", "==", "-nt", "-ot", "-ef", "-eq", "-ne", "-lt", "-le", "-gt", "-ge"]

/-- The integer that a word spells. -/
def trialNumber (word : String) : Except String Int :=
  let cs := word.toList.dropWhile isSpace
  let cs := (cs.reverse.dropWhile isSpace).reverse
  match integer? cs with
  | some n => .ok n
  | none => .error ("invalid integer " ++ quotedText word)

namespace Trial

/-- The word at a place. -/
def word (t : Trial) (place : Nat) : String := (t.words[place]?).getD ""

/-- A word is missing at the end. -/
def beyond (t : Trial) : String :=
  "missing argument after " ++ quotedText (t.word (t.count - 1))

/-- An operator with the length of a text for a number. -/
def number (t : Trial) (isLength : Bool) (place : Nat) : Except String Int :=
  if isLength then .ok (t.word place).length else trialNumber (t.word place)

/-- Decides an operator between two words; either may be the length of a text. -/
def dyadic (t : Trial) (leftLength : Bool) (place : Nat) : Verdict := do
  let place := if leftLength then place + 1 else place
  let op := place + 1
  let rightLength : Bool := op + 2 < t.count && t.word (op + 1) == "-l"
  let start := if rightLength then place + 1 else place
  let operator := t.word op
  let a := t.word (op - 1)
  let b := t.word (op + 1)
  let compare := fun (f : Int → Int → Bool) => (do
    let x ← t.number leftLength (op - 1)
    let y ← t.number rightLength (if rightLength then op + 2 else op + 1)
    return (f x y, start + 3) : Verdict)
  let date := t.surroundings.modified?
  let files := fun (f : Bool) =>
    if leftLength ∨ rightLength then (.error (operator ++ " does not accept -l") : Verdict)
    else .ok (f, start + 3)
  match operator with
  | "-eq" => compare (· == ·)
  | "-ne" => compare (· != ·)
  | "-lt" => compare fun x y => x < y
  | "-le" => compare fun x y => x ≤ y
  | "-gt" => compare fun x y => y < x
  | "-ge" => compare fun x y => y ≤ x
  | "-nt" => files ((date a).any fun x => (date b).all fun y => y < x)
  | "-ot" => files ((date b).any fun y => (date a).all fun x => x < y)
  | "-ef" =>
    let number := t.surroundings.number?
    files ((number a).isSome && number a == number b)
  | "!=" => return (t.word start != t.word (start + 2), start + 3)
  | _ => return (t.word start == t.word (start + 2), start + 3)

/-- Decides an operator in front of a word. -/
def monadic (t : Trial) (place : Nat) : Verdict :=
  let operator := t.word place
  let known := ["-e", "-r", "-w", "-x", "-N", "-O", "-G", "-f", "-d", "-s", "-S", "-c", "-b", "-p",
    "-L", "-h", "-u", "-g", "-k", "-t", "-n", "-z"]
  if known.contains operator = false then
    .error (quotedText operator ++ ": unary operator expected")
  else if t.count ≤ place + 1 then .error t.beyond
  else
    let operand := t.word (place + 1)
    match operator with
    | "-n" => .ok (operand != "", place + 2)
    | "-z" => .ok (operand == "", place + 2)
    | "-t" => (trialNumber operand).map fun _ => (false, place + 2)
    | "-N" => .ok (t.surroundings.changedSinceRead operand, place + 2)
    | _ => .ok (t.surroundings.holds operator operand, place + 2)

/-- A word is an operator with one letter. -/
def isMonadic (word : String) : Bool :=
  match word.toList with
  | ['-', _] => true
  | _ => false

/-- Decides one word. -/
def single (t : Trial) (place : Nat) : Bool × Nat := (t.word place != "", place + 1)

/-- Decides two words. -/
def double (t : Trial) (place : Nat) : Verdict :=
  if t.word place = "!" then
    let (value, place) := t.single (place + 1)
    .ok (!value, place)
  else if isMonadic (t.word place) then t.monadic place
  else .error t.beyond

mutual

/-- Decides so many words. -/
def group (t : Trial) : Nat → Nat → Nat → Verdict
  | 0, _, _ => .error "too deep"
  | fuel + 1, size, place =>
    let three := fun (place : Nat) => (
      if dyadicOperators.contains (t.word (place + 1)) then t.dyadic false place
      else if t.word place = "!" then (t.double (place + 1)).map fun (value, place) => (!value, place)
      else if t.word place = "(" ∧ t.word (place + 2) = ")" then
        let (value, place) := t.single (place + 1)
        .ok (value, place + 1)
      else if t.word (place + 1) = "-a" ∨ t.word (place + 1) = "-o" then
        either t fuel false place
      else .error (quotedText (t.word (place + 1)) ++ ": binary operator expected") : Verdict)
    match size with
    | 1 => .ok (t.single place)
    | 2 => t.double place
    | 3 => three place
    | 4 =>
      if t.word place = "!" then (three (place + 1)).map fun (value, place) => (!value, place)
      else if t.word place = "(" ∧ t.word (place + 3) = ")" then
        (t.double (place + 1)).map fun (value, place) => (value, place + 1)
      else either t fuel false place
    | _ => either t fuel false place

/-- Decides conditions joined by `-o`. -/
def either (t : Trial) : Nat → Bool → Nat → Verdict
  | 0, _, _ => .error "too deep"
  | fuel + 1, before, place => do
    if t.count ≤ place ∧ before = false then throw t.beyond
    let (value, place) ← both t fuel true place
    if place < t.count ∧ t.word place = "-o" then either t fuel (before || value) (place + 1)
    else return (before || value, place)

/-- Decides conditions joined by `-a`. -/
def both (t : Trial) : Nat → Bool → Nat → Verdict
  | 0, _, _ => .error "too deep"
  | fuel + 1, before, place => do
    let (value, place) ← term t fuel place
    if place < t.count ∧ t.word place = "-a" then both t fuel (before && value) (place + 1)
    else return (before && value, place)

/-- Decides a condition that may be negated or in parentheses. -/
def term (t : Trial) : Nat → Nat → Verdict
  | 0, _ => .error "too deep"
  | fuel + 1, place => do
    let left := t.count - place
    if t.count ≤ place then throw t.beyond
    if t.word place = "!" then
      if left = 1 then throw t.beyond
      let (value, place) ← term t fuel (place + 1)
      return (!value, place)
    else if t.word place = "(" then
      if left = 1 then throw t.beyond
      let start := place + 1
      let behind := ((t.words.take t.count).drop (start + 1)).takeWhile (· != ")")
      let size := if behind.length < 3 then behind.length + 1 else t.count - start
      let (value, place) ← group t fuel size start
      match t.words[place]? with
      | none => throw (quotedText ")" ++ " expected")
      | some found =>
        if found = ")" then return (value, place + 1)
        else throw (quotedText ")" ++ " expected, found " ++ quotedText found)
    else if 4 ≤ left ∧ t.word place = "-l" ∧ dyadicOperators.contains (t.word (place + 2)) then
      t.dyadic true place
    else if 3 ≤ left ∧ dyadicOperators.contains (t.word (place + 1)) then t.dyadic false place
    else if isMonadic (t.word place) then t.monadic place
    else return t.single place

end

/-- The value of all words. -/
def decide (t : Trial) : Except String Bool :=
  if t.count = 0 then .ok false
  else
    match t.group (8 * t.count + 8) t.count 0 with
    | .error text => .error text
    | .ok (value, place) =>
      if place = t.count then .ok value
      else .error ("extra argument " ++ quotedText (t.word place))

end Trial

namespace Call

/-- Decides a condition; in brackets it ends with the closing one. -/
def test (c : Call) (bracketed : Bool) : Progress :=
  if bracketed ∧ c.arguments.getLast? ≠ some "]" then c.fails 2 "missing ']'"
  else
    let count := if bracketed then c.arguments.length - 1 else c.arguments.length
    match ({ words := c.arguments, count := count, surroundings := ⟨c.files, c.cwd⟩ } : Trial).decide with
    | .ok value => c.ends (if value then 0 else 1) []
    | .error text => c.fails 2 text

end Call

end NativeBuild.Machine
