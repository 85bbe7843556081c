/-
  Numeric escapes: a code written as a backslash, a letter for its width and that many lower-case
  hexadecimal digits. Undecodable bytes and unprintable characters are shown so.
-/

namespace NativeBuild.Text

/-- A hexadecimal digit, in lower case. -/
def hexDigit (n : Nat) : Char := Char.ofNat (if n < 10 then 48 + n else 87 + n)

/-- The last `width` hexadecimal digits of `n`. -/
def hex : Nat → Nat → List Char
  | 0, _ => []
  | width + 1, n => hex width (n / 16) ++ [hexDigit (n % 16)]

/-- A byte as an escape of two digits. -/
def escapeByte (b : UInt8) : List Char := '\\' :: 'x' :: hex 2 b.toNat

/-- A character as an escape, in the shortest of the three widths that holds its code point. -/
def escapeChar (c : Char) : List Char :=
  if c.toNat ≤ 0xFF then '\\' :: 'x' :: hex 2 c.toNat
  else if c.toNat ≤ 0xFFFF then '\\' :: 'u' :: hex 4 c.toNat
  else '\\' :: 'U' :: hex 8 c.toNat

end NativeBuild.Text
