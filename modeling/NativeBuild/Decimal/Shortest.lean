import NativeBuild.Decimal.Double

/-
  The shortest decimal of a double. Among the decimals that are read back as the same double, the
  one with the fewest digits is taken, and of those the one nearest to the exact value. The search
  looks at the two neighbours of the value on the grid of one digit, of two digits, and so on; on
  the grid of seventeen digits one of them always reads back.
-/

namespace NativeBuild.Decimal

/-- The decimal `digits · 10 ^ exponent`. -/
structure Numeral where
  digits : Nat
  exponent : Int
  deriving Repr, DecidableEq

namespace Shortest

/-- A positive double times four and its rounding interval, as fractions over one denominator:
the reals from `low` to `high` read back as `value`, the two ends included when `closed`. -/
structure Interval where
  low : Nat
  value : Nat
  high : Nat
  denominator : Nat
  closed : Bool

/-- The rounding interval of `mantissa · 2 ^ exponent`: half a unit to each side, and only a
quarter below a power of two, where the doubles under it lie closer. -/
def Interval.of (mantissa : Nat) (exponent : Int) : Interval :=
  let e := exponent - 2
  let scale := 1 <<< e.toNat
  let below := if mantissa = 1 <<< Double.fractionWidth ∧ exponent ≠ -1074 then 1 else 2
  { low := (4 * mantissa - below) * scale
    value := 4 * mantissa * scale
    high := (4 * mantissa + 2) * scale
    denominator := 1 <<< (-e).toNat
    closed := mantissa % 2 = 0 }

/-- A power of ten. -/
def tenTo (n : Nat) : Nat := Nat.pow 10 n

/-- The power of ten at or below a positive fraction. -/
def order (value denominator : Nat) : Int :=
  if denominator ≤ value then ((Nat.toDigits 10 (value / denominator)).length : Int) - 1
  else -(((List.range 400).takeWhile fun k => value * tenTo k < denominator).length : Int)

/-- The neighbour of the value on the grid of multiples of `10 ^ exponent` that reads back, the
nearer one when both do. -/
def onGrid (i : Interval) (exponent : Int) : Option Numeral :=
  let up := tenTo exponent.toNat * i.denominator
  let down := tenTo (-exponent).toNat
  let floor := i.value * down / up
  let inside (n : Nat) : Bool :=
    if i.closed then i.low * down ≤ n * up && n * up ≤ i.high * down
    else i.low * down < n * up && n * up < i.high * down
  let nearer : Bool := 2 * (i.value * down) < (2 * floor + 1) * up ||
    (2 * (i.value * down) == (2 * floor + 1) * up && floor % 2 == 0)
  match inside floor, inside (floor + 1) with
  | true, true => some ⟨if nearer then floor else floor + 1, exponent⟩
  | true, false => some ⟨floor, exponent⟩
  | false, true => some ⟨floor + 1, exponent⟩
  | false, false => none

/-- The same decimal without zeros at the end of its digits. -/
def strip : Nat → Numeral → Numeral
  | 0, d => d
  | fuel + 1, d => if d.digits % 10 = 0 then strip fuel ⟨d.digits / 10, d.exponent + 1⟩ else d

/-- The shortest decimal that reads back as `mantissa · 2 ^ exponent`. -/
def ofParts (mantissa : Nat) (exponent : Int) : Numeral :=
  if mantissa = 0 then ⟨0, 0⟩
  else
    let i := Interval.of mantissa exponent
    let top := order i.value i.denominator
    match (List.range 17).findSome? fun (n : Nat) => onGrid i (top - (n : Int)) with
    | some d => strip 20 d
    | none => ⟨i.value / i.denominator, 0⟩

end Shortest

end NativeBuild.Decimal
