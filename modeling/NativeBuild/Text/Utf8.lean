import NativeBuild.Text.Escape

/-
  Lenient UTF-8: bytes become characters one at a time, and no byte is lost. A sequence of bytes
  that no character has is shown as one escape for each byte. The decoder takes a byte at a time
  and holds the bytes of a character that is not complete; a byte that cannot go on with them ends
  them as malformed and is read afresh.
-/

namespace NativeBuild.Text

/-- Where the decoder stands between two bytes. -/
inductive Utf8 where
  /-- Between characters. -/
  | start
  /-- Inside a character: `owed` more bytes, the next from `low` to `high`; `code` is the part of
  the code point read so far and `seen` the bytes it came from. -/
  | within (owed : Nat) (low high : UInt8) (code : Nat) (seen : List UInt8)
  /-- After `ED` and a byte from `A0` to `BF`. No character starts so, but the two are held until
  something follows them. -/
  | surrogate (second : UInt8)
  deriving Repr, DecidableEq

namespace Utf8

/-- The first byte of a character: where the decoder stands after it, and what is complete. -/
def first (b : UInt8) : Utf8 × List Char :=
  if b < 0x80 then (start, [Char.ofNat b.toNat])
  else if b < 0xC2 then (start, escapeByte b)
  else if b < 0xE0 then (within 1 0x80 0xBF (b.toNat - 0xC0) [b], [])
  else if b = 0xE0 then (within 2 0xA0 0xBF 0 [b], [])
  else if b = 0xED then (within 2 0x80 0x9F 0xD [b], [])
  else if b < 0xF0 then (within 2 0x80 0xBF (b.toNat - 0xE0) [b], [])
  else if b = 0xF0 then (within 3 0x90 0xBF 0 [b], [])
  else if b < 0xF4 then (within 3 0x80 0xBF (b.toNat - 0xF0) [b], [])
  else if b = 0xF4 then (within 3 0x80 0x8F 4 [b], [])
  else (start, escapeByte b)

/-- One byte: where the decoder stands after it, and the characters it completes. -/
def step : Utf8 → UInt8 → Utf8 × List Char
  | start, b => first b
  | within owed low high code seen, b =>
    if low ≤ b ∧ b ≤ high then
      let code := code * 64 + (b.toNat - 0x80)
      if owed ≤ 1 then (start, [Char.ofNat code])
      else (within (owed - 1) 0x80 0xBF code (seen ++ [b]), [])
    else if seen = [0xED] ∧ 0xA0 ≤ b ∧ b ≤ 0xBF then (surrogate b, [])
    else
      let (next, out) := first b
      (next, seen.flatMap escapeByte ++ out)
  | surrogate second, b =>
    let (next, out) := first b
    (next, escapeByte 0xED ++ escapeByte second ++ out)

/-- The end of the bytes: an incomplete character is malformed. -/
def flush : Utf8 → List Char
  | start => []
  | within _ _ _ _ seen => seen.flatMap escapeByte
  | surrogate second => escapeByte 0xED ++ escapeByte second

/-- All characters of a text given as bytes. -/
def decode (bytes : List UInt8) : List Char :=
  let (last, out) := bytes.foldl
    (fun (state, out) b => let (next, more) := step state b; (next, more.reverse ++ out))
    (start, [])
  out.reverse ++ last.flush

theorem first_ascii {b : UInt8} (h : b < 0x80) : first b = (start, [Char.ofNat b.toNat]) := by
  simp [first, h]

end Utf8

end NativeBuild.Text
