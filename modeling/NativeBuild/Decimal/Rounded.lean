import NativeBuild.Decimal.Double

/-
  Doubles rounded to a number of places. The exact value is rounded to the nearest decimal with so
  many places, and a tie goes to the even one.
-/

namespace NativeBuild.Decimal

/-- A quotient rounded to the nearest natural number, a tie to the even one. -/
def nearest (num den : Nat) : Nat :=
  let q := num / den
  let r := 2 * (num % den)
  if r < den ∨ (r = den ∧ q % 2 = 0) then q else q + 1

/-- The value `mantissa · 2 ^ exponent · 10 ^ places` rounded to an integer. -/
def scaled (mantissa : Nat) (exponent places : Int) : Nat :=
  let num := mantissa * Nat.pow 2 exponent.toNat * Nat.pow 10 places.toNat
  nearest num (Nat.pow 2 (-exponent).toNat * Nat.pow 10 (-places).toNat)

/-- The power of ten of the first digit of `mantissa · 2 ^ exponent`, which is not zero. -/
def magnitude (mantissa : Nat) (exponent : Int) : Int :=
  let guess : Int := ((Nat.log2 mantissa : Int) + exponent) * 30103 / 100000
  let atLeast := fun (k : Int) =>
    Nat.pow 10 k.toNat * Nat.pow 2 (-exponent).toNat ≤ mantissa * Nat.pow 2 exponent.toNat * Nat.pow 10 (-k).toNat
  if atLeast (guess + 1) then guess + 1 else if atLeast guess then guess else guess - 1

/-- The first digits of a value, so many of them, and the power of ten of the first one. -/
def leadingDigits (count : Nat) (mantissa : Nat) (exponent : Int) : Nat × Int :=
  if mantissa = 0 then (0, 0)
  else
    let power := magnitude mantissa exponent
    let digits := scaled mantissa exponent ((count : Int) - 1 - power)
    if digits < Nat.pow 10 count then (digits, power) else (digits / 10, power + 1)

end NativeBuild.Decimal
