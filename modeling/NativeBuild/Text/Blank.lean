/-
  Blank characters and letter case, as settings given through the environment are read:
  the text is trimmed of blanks on both sides and its letters are lowered.
-/

namespace NativeBuild.Text

/-- The characters trimmed from either end of a setting: the white space of Unicode and the four
information separators `1C` to `1F`. -/
def isBlank (c : Char) : Bool :=
  (0x09 ≤ c.val && c.val ≤ 0x0D) || (0x1C ≤ c.val && c.val ≤ 0x20) || c.val == 0x85 ||
  c.val == 0xA0 || c.val == 0x1680 || (0x2000 ≤ c.val && c.val ≤ 0x200A) || c.val == 0x2028 ||
  c.val == 0x2029 || c.val == 0x202F || c.val == 0x205F || c.val == 0x3000

/-- The text without the blanks at its two ends. -/
def trim (s : String) : String :=
  String.ofList ((s.toList.dropWhile isBlank).reverse.dropWhile isBlank).reverse

/-- The text with the letters `A` to `Z` lowered. It is compared with the words `win`, `true` and
`false` only. Outside ASCII two characters lower to a text with a letter of ASCII, the Kelvin sign
to `k` and the dotted capital I to `i` with a combining dot after it, and no text with one of them
lowers to one of these words or starts with one. -/
def lower (s : String) : String :=
  String.ofList (s.toList.map Char.toLower)

end NativeBuild.Text
