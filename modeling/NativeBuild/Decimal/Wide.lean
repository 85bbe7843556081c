import NativeBuild.Decimal.Rounded
import NativeBuild.Decimal.Double

/-
  Numbers of 64 binary digits. The result of each operation is the number nearest to the exact one,
  a tie goes to the even one; exponents have no bounds.
-/

namespace NativeBuild.Decimal

/-- The number `mantissa · 2 ^ exponent` with a sign. -/
structure Wide where
  negative : Bool := false
  mantissa : Nat
  exponent : Int := 0
  deriving Repr, DecidableEq

namespace Wide

/-- The number nearest to a quotient. -/
def ofRatio (negative : Bool) (num den : Nat) : Wide :=
  if num = 0 ∨ den = 0 then ⟨negative, 0, 0⟩
  else
    let guess : Int := (Nat.log2 num : Int) - Nat.log2 den - 63
    let rounded := fun (e : Int) =>
      nearest (num * Nat.pow 2 (-e).toNat) (den * Nat.pow 2 e.toNat)
    let e := if rounded guess < Nat.pow 2 63 then guess - 1 else guess
    ⟨negative, rounded e, e⟩

/-- A whole number. -/
def ofInt (n : Int) : Wide := ofRatio (n < 0) n.natAbs 1

/-- The numerator of the size of a number. -/
def num (x : Wide) : Nat := x.mantissa * Nat.pow 2 x.exponent.toNat

/-- The denominator of the size of a number. -/
def den (x : Wide) : Nat := Nat.pow 2 (-x.exponent).toNat

/-- The numerator with the sign. -/
def top (x : Wide) : Int := if x.negative then -(x.num : Int) else x.num

/-- The opposite number. -/
def neg (x : Wide) : Wide := { x with negative := !x.negative }

/-- The sum of two numbers. -/
def add (x y : Wide) : Wide :=
  let n : Int := x.top * y.den + y.top * x.den
  ofRatio (n < 0 || n == 0 && x.negative && y.negative) n.natAbs (x.den * y.den)

/-- The difference of two numbers. -/
def sub (x y : Wide) : Wide := x.add y.neg

/-- The product of two numbers. -/
def mul (x y : Wide) : Wide := ofRatio (x.negative != y.negative) (x.num * y.num) (x.den * y.den)

/-- The quotient of two numbers; it is zero where the second one is. -/
def div (x y : Wide) : Wide := ofRatio (x.negative != y.negative) (x.num * y.den) (x.den * y.num)

/-- A number without its places. -/
def toInt (x : Wide) : Int :=
  let n : Int := (x.num / x.den : Nat)
  if x.negative then -n else n

/-- A number is smaller than another one. -/
def isBelow (x y : Wide) : Bool := x.top * y.den < y.top * x.den

/-- The size of a number. -/
def size (x : Wide) : Wide := { x with negative := false }

/-- A power with each step rounded. -/
def powered (x : Wide) : Nat → Wide
  | 0 => ofInt 1
  | 1 => x
  | n + 2 => (powered x (n + 1)).mul x

/-- The value as what formats print. -/
def toDouble (x : Wide) : Double := .finite x.negative x.mantissa x.exponent

end Wide

end NativeBuild.Decimal
