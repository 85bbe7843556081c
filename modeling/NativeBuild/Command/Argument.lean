import NativeBuild.Decimal.Shortest

/-
  Arguments of a command as a caller gives them: texts, but also numbers, truth values and the
  absent value. Each has one text, and a command is launched with the texts.
-/

namespace NativeBuild.Command

open NativeBuild.Decimal

/-- How a decimal is written: positionally while the power of ten of its first digit is from
`lowest` to below `highest`, and with an exponent of at least `exponentWidth` digits otherwise. -/
structure NumberStyle where
  lowest : Int
  highest : Int
  exponentWidth : Nat

/-- Arguments are written positionally from `0.0001` to below `10 ^ 16`. -/
def argumentNumbers : NumberStyle := ⟨-4, 16, 2⟩

/-- Digits around a decimal point that stands after the first `point` of them. -/
def positional (digits : List Char) (point : Int) : List Char :=
  if point ≤ 0 then '0' :: '.' :: List.replicate (-point).toNat '0' ++ digits
  else if digits.length ≤ point.toNat then
    digits ++ List.replicate (point.toNat - digits.length) '0' ++ ['.', '0']
  else digits.take point.toNat ++ '.' :: digits.drop point.toNat

/-- Digits with the point after the first and a signed exponent. -/
def withExponent (style : NumberStyle) (digits : List Char) (exponent : Int) : List Char :=
  let written := Nat.toDigits 10 exponent.natAbs
  let fraction := if digits.length ≤ 1 then [] else '.' :: digits.drop 1
  digits.take 1 ++ fraction ++ 'e' :: (if exponent < 0 then '-' else '+') ::
    List.replicate (style.exponentWidth - written.length) '0' ++ written

/-- A decimal in the given style. -/
def NumberStyle.write (style : NumberStyle) (d : Numeral) : List Char :=
  let digits := Nat.toDigits 10 d.digits
  let point := (digits.length : Int) + d.exponent
  if style.lowest < point ∧ point ≤ style.highest then positional digits point
  else withExponent style digits (point - 1)

/-- The text of a double: the shortest decimal that reads back. -/
def numberText (x : Float) : String :=
  match Double.ofFloat x with
  | .notANumber => "nan"
  | .infinite negative => if negative then "-inf" else "inf"
  | .finite negative m e =>
    let text := String.ofList (argumentNumbers.write (Shortest.ofParts m e))
    if negative then "-" ++ text else text

/-- One argument of a command. -/
inductive Argument where
  | text (value : String)
  | integer (value : Int)
  | number (value : Float)
  | truth (value : Bool)
  | absent

/-- The text that the program receives for an argument. -/
def Argument.render : Argument → String
  | text value => value
  | integer value => toString value
  | number value => numberText value
  | truth true => "True"
  | truth false => "False"
  | absent => "None"

end NativeBuild.Command
