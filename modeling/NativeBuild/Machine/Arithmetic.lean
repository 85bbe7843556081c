import NativeBuild.Machine.Bytes

/-
  Arithmetic: expressions of 64-bit integers, as in `$((a + 1))`. A name stands for the number that
  its variable spells; an assignment changes the variable. Parts that the value does not depend on
  are read but not carried out.
-/

namespace NativeBuild.Machine

/-- A number as a word of 64 bits. -/
def wrapped (n : Int) : Int := Int.bmod n (Nat.pow 2 64)

/-- The digits in front of a text, as a number in the base that its first characters show, and the
rest. -/
def spelledNumber (cs : List Char) : Nat × List Char :=
  let (base, digits) := match cs with
    | '0' :: x :: d :: rest =>
      if (x = 'x' ∨ x = 'X') ∧ digitValue d < 16 then (16, d :: rest) else (8, cs)
    | '0' :: _ => (8, cs)
    | _ => (10, cs)
  let taken := digits.takeWhile fun c => digitValue c < base
  (ofDigits base taken, digits.drop taken.length)

/-- The largest number of a word. -/
def largestNumber : Nat := Nat.pow 2 63 - 1

/-- The number that a text spells, if it is in range and only blanks stand around it. In an
expression it may be in another base than ten, and a blank text is zero. -/
def numberText? (inExpression : Bool) (cs : List Char) : Option Int :=
  let cs := cs.dropWhile isSpace
  let negative := cs.head? == some '-'
  let digits := if negative || cs.head? == some '+' then cs.drop 1 else cs
  let taken := digits.takeWhile Char.isDigit
  let (n, rest) := if inExpression then spelledNumber digits
    else (ofDigits 10 taken, digits.drop taken.length)
  if taken = [] then if inExpression ∧ cs = [] then some 0 else none
  else if rest.all isSpace ∧ n ≤ largestNumber + (if negative then 1 else 0) then
    some (if negative then -(n : Int) else n)
  else none

/-- The tokens of an expression. -/
inductive ArithmeticToken where
  | number (n : Nat)
  | name (s : String)
  | sign (s : String)
  /-- A character that means nothing. -/
  | bad
  | finish
  deriving Repr, DecidableEq

/-- The signs, the longest first. -/
def arithmeticSigns : List String :=
  ["<<=", ">>=", "<<", ">>", "<=", ">=", "==", "!=", "&&", "||", "*=", "/=", "%=", "+=", "-=",
    "&=", "^=", "|=", "=", "<", ">", "!", "&", "|", "*", "/", "%", "+", "-", "~", "^", "?", ":",
    "(", ")"]

/-- Takes an expression apart. -/
def arithmeticTokens : Nat → List Char → List ArithmeticToken
  | 0, _ => []
  | _, [] => []
  | fuel + 1, c :: rest =>
    if c = ' ' ∨ c = '\t' ∨ c = '\n' then arithmeticTokens fuel rest
    else if c.isDigit then
      let (n, rest) := spelledNumber (c :: rest)
      .number (min n largestNumber) :: arithmeticTokens fuel rest
    else if startsName c then
      let name := (c :: rest).takeWhile inName
      .name (String.ofList name) :: arithmeticTokens fuel ((c :: rest).drop name.length)
    else
      match arithmeticSigns.find? fun sign => sign.toList.isPrefixOf (c :: rest) with
      | some sign => .sign sign :: arithmeticTokens fuel ((c :: rest).drop sign.length)
      | none => .bad :: arithmeticTokens fuel rest

/-- How strongly a sign between two values binds; smaller is stronger. -/
def precedence? (sign : String) : Option Nat :=
  match sign with
  | "*" | "/" | "%" => some 0
  | "+" | "-" => some 1
  | "<<" | ">>" => some 2
  | "<" | ">" | "<=" | ">=" => some 3
  | "==" | "!=" => some 4
  | "&" => some 5
  | "^" => some 6
  | "|" => some 7
  | _ => none

/-- Why an expression has no value. -/
inductive ArithmeticError where
  | divisionByZero
  | missingValue
  | missingEnd
  | missingParenthesis
  | missingColon
  /-- The value of a variable is no number. -/
  | illegalNumber (text : String)
  /-- A variable cannot be changed. -/
  | readOnly (name : String)
  deriving Repr, DecidableEq

/-- The bits of a word. -/
def toBits (n : Int) : Nat := (n % (Nat.pow 2 64 : Nat)).toNat

/-- The value of a sign between two values. -/
def applySign (sign : String) (a b : Int) : Except ArithmeticError Int :=
  let truth := fun (p : Bool) => Except.ok (if p then 1 else 0)
  let bits := fun (f : Nat → Nat → Nat) => Except.ok (wrapped (f (toBits a) (toBits b)))
  match sign with
  | "*" => .ok (wrapped (a * b))
  | "/" => if b = 0 then .error .divisionByZero else .ok (wrapped (Int.tdiv a b))
  | "%" => if b = 0 then .error .divisionByZero else .ok (wrapped (Int.tmod a b))
  | "+" => .ok (wrapped (a + b))
  | "-" => .ok (wrapped (a - b))
  | "<<" => .ok (wrapped (toBits a <<< (toBits b % 64)))
  | ">>" => .ok (a >>> (toBits b % 64))
  | "<" => truth (a < b)
  | ">" => truth (b < a)
  | "<=" => truth (a ≤ b)
  | ">=" => truth (b ≤ a)
  | "==" => truth (a == b)
  | "!=" => truth (a != b)
  | "&" => bits Nat.land
  | "^" => bits Nat.xor
  | "|" => bits Nat.lor
  | _ => .error .missingValue

/-- The variables that an expression reads and changes. -/
structure ArithmeticStore (σ : Type) where
  lookup : σ → String → Except ArithmeticError Int
  assign : σ → String → Int → Except ArithmeticError σ

/-- Reads a part of an expression: its value, the tokens behind it and the variables after it. -/
abbrev ArithmeticStep (σ : Type) :=
  List ArithmeticToken → σ → Except ArithmeticError (Int × List ArithmeticToken × σ)

variable {σ : Type} (vars : ArithmeticStore σ)

mutual

/-- Reads a single value, with the signs in front of it. -/
def readPrimary : Nat → Bool → ArithmeticStep σ
  | 0, _, _, _ => .error .missingValue
  | fuel + 1, skipped, tokens, s =>
    match tokens with
    | .number n :: rest => .ok (n, rest, s)
    | .name name :: rest =>
      if skipped then .ok (0, rest, s)
      else (vars.lookup s name).map fun n => (n, rest, s)
    | .sign "(" :: rest =>
      match readAssignment fuel skipped rest s with
      | .ok (n, .sign ")" :: rest, s) => .ok (n, rest, s)
      | .ok _ => .error .missingParenthesis
      | .error e => .error e
    | .sign "+" :: rest => readPrimary fuel skipped rest s
    | .sign "-" :: rest =>
      (readPrimary fuel skipped rest s).map fun (n, rest, s) => (wrapped (-n), rest, s)
    | .sign "!" :: rest =>
      (readPrimary fuel skipped rest s).map fun (n, rest, s) => (if n = 0 then 1 else 0, rest, s)
    | .sign "~" :: rest =>
      (readPrimary fuel skipped rest s).map fun (n, rest, s) => (-n - 1, rest, s)
    | _ => .error .missingValue

/-- Goes on with signs between values that bind more strongly than a limit. -/
def readBinary : Nat → Bool → Nat → Int → ArithmeticStep σ
  | 0, _, _, _, _, _ => .error .missingValue
  | fuel + 1, skipped, limit, a, tokens, s =>
    match tokens with
    | .sign sign :: rest =>
      match precedence? sign with
      | none => .ok (a, tokens, s)
      | some level =>
        if limit ≤ level then .ok (a, tokens, s)
        else
          match readPrimary fuel skipped rest s with
          | .error e => .error e
          | .ok (b, rest, s) =>
            match readBinary fuel skipped level b rest s with
            | .error e => .error e
            | .ok (b, rest, s) =>
              match if skipped then .ok b else applySign sign a b with
              | .error e => .error e
              | .ok n => readBinary fuel skipped limit n rest s
    | _ => .ok (a, tokens, s)

/-- Reads values joined by `&&`. -/
def readBoth : Nat → Bool → ArithmeticStep σ
  | 0, _, _, _ => .error .missingValue
  | fuel + 1, skipped, tokens, s =>
    match readPrimary fuel skipped tokens s with
    | .error e => .error e
    | .ok (a, rest, s) =>
      match readBinary fuel skipped 8 a rest s with
      | .error e => .error e
      | .ok (a, .sign "&&" :: rest, s) =>
        (readBoth fuel (skipped || a == 0) rest s).map fun (b, rest, s) =>
          (if a ≠ 0 ∧ b ≠ 0 then 1 else 0, rest, s)
      | .ok done => .ok done

/-- Reads values joined by `||`. -/
def readEither : Nat → Bool → ArithmeticStep σ
  | 0, _, _, _ => .error .missingValue
  | fuel + 1, skipped, tokens, s =>
    match readBoth fuel skipped tokens s with
    | .error e => .error e
    | .ok (a, .sign "||" :: rest, s) =>
      (readEither fuel (skipped || a != 0) rest s).map fun (b, rest, s) =>
        (if a ≠ 0 ∨ b ≠ 0 then 1 else 0, rest, s)
    | .ok done => .ok done

/-- Reads a choice between two values. -/
def readChoice : Nat → Bool → ArithmeticStep σ
  | 0, _, _, _ => .error .missingValue
  | fuel + 1, skipped, tokens, s =>
    match readEither fuel skipped tokens s with
    | .error e => .error e
    | .ok (a, .sign "?" :: rest, s) =>
      match readAssignment fuel (skipped || a == 0) rest s with
      | .error e => .error e
      | .ok (b, .sign ":" :: rest, s) =>
        (readChoice fuel (skipped || a != 0) rest s).map fun (c, rest, s) =>
          (if a ≠ 0 then b else c, rest, s)
      | .ok _ => .error .missingColon
    | .ok done => .ok done

/-- Reads an assignment or any other expression. -/
def readAssignment : Nat → Bool → ArithmeticStep σ
  | 0, _, _, _ => .error .missingValue
  | fuel + 1, skipped, tokens, s =>
    match tokens with
    | .name name :: .sign sign :: rest =>
      let operation := String.ofList sign.toList.dropLast
      if sign = "=" ∨ (sign.toList.getLast? = some '=' ∧ (precedence? operation).isSome
          ∧ (precedence? sign).isNone) then
        match readAssignment fuel skipped rest s with
        | .error e => .error e
        | .ok (n, rest, s) =>
          if skipped then .ok (n, rest, s)
          else
            let value := if sign = "=" then Except.ok n
              else (vars.lookup s name).bind fun old => applySign operation old n
            match value with
            | .error e => .error e
            | .ok value => (vars.assign s name value).map fun s => (value, rest, s)
      else readChoice fuel skipped tokens s
    | _ => readChoice fuel skipped tokens s

end

/-- The value of an expression, and the variables after it. -/
def evaluate (expression : List Char) (s : σ) : Except ArithmeticError (Int × σ) :=
  let tokens := arithmeticTokens (expression.length + 1) expression
  match readAssignment vars (16 * (tokens.length + 2)) false tokens s with
  | .ok (n, [], s) => .ok (n, s)
  | .ok _ => .error .missingEnd
  | .error e => .error e

end NativeBuild.Machine
