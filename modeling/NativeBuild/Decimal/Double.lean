/-
  The exact value of a double: not a number, an infinity, or a sign and a natural number times a
  power of two. The parts are read off the 64 bits of its encoding.
-/

namespace NativeBuild.Decimal

/-- A double as an exact value. -/
inductive Double where
  | notANumber
  | infinite (negative : Bool)
  /-- The value `mantissa · 2 ^ exponent`, with its sign. -/
  | finite (negative : Bool) (mantissa : Nat) (exponent : Int)
  deriving Repr, DecidableEq

namespace Double

/-- How many bits of a double hold its fraction. -/
def fractionWidth : Nat := 52

/-- How many bits of a double hold its exponent. -/
def exponentWidth : Nat := 11

/-- The value encoded by a sign bit, eleven bits of exponent and fifty-two of fraction. -/
def ofFields (negative : Bool) (biased fraction : Nat) : Double :=
  if biased = 2047 then if fraction = 0 then infinite negative else notANumber
  else if biased = 0 then finite negative fraction (-1074)
  else finite negative (fraction + 1 <<< fractionWidth) ((biased : Int) - 1075)

/-- The value of a double. -/
def ofFloat (x : Float) : Double :=
  let bits := x.toBits.toNat
  ofFields (1 <<< (fractionWidth + exponentWidth) ≤ bits)
    (bits >>> fractionWidth % 1 <<< exponentWidth) (bits % 1 <<< fractionWidth)

/-- The double of a value that has one. -/
def toFloat : Double → Float
  | notANumber => 0.0 / 0.0
  | infinite negative => if negative then -1.0 / 0.0 else 1.0 / 0.0
  | finite negative m e =>
    let x := (Float.ofNat m).scaleB e
    if negative then -x else x

/-- The integer nearest to zero among the two around `mantissa · 2 ^ exponent`. -/
def truncate (mantissa : Nat) (exponent : Int) : Nat :=
  if 0 ≤ exponent then mantissa <<< exponent.toNat else mantissa >>> (-exponent).toNat

end Double

end NativeBuild.Decimal
