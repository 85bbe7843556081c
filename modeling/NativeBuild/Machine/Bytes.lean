import NativeBuild.Text.Utf8

/-
  Texts of the machine. Programs read and write bytes, and inside the machine a text holds one
  character for each byte, so that a byte that belongs to no character is kept as it is. A text
  from outside is taken apart into its bytes; it is put together again where it names a file.
-/

namespace NativeBuild.Machine

/-- The characters that stand for bytes. -/
def ofBytes (bytes : List UInt8) : List Char := bytes.map fun b => Char.ofNat b.toNat

/-- The bytes that characters stand for. -/
def toBytes (cs : List Char) : List UInt8 := cs.map fun c => c.toNat.toUInt8

/-- The text of the machine for a text from outside. -/
def inward (s : String) : String := String.ofList (ofBytes s.toUTF8.toList)

/-- The text that the bytes spell; a byte of no character is shown as an escape. -/
def outward (s : String) : String := String.ofList (Text.Utf8.decode (toBytes s.toList))

/-- A letter from `A` to `Z` or `a` to `z`. -/
def isLetter (c : Char) : Bool := ('A' ≤ c && c ≤ 'Z') || ('a' ≤ c && c ≤ 'z')

/-- The first character of a name. -/
def startsName (c : Char) : Bool := isLetter c || c == '_'

/-- A character inside a name. -/
def inName (c : Char) : Bool := startsName c || c.isDigit

/-- A text that can name a variable. -/
def isName (cs : List Char) : Bool :=
  match cs with
  | [] => false
  | c :: rest => startsName c && rest.all inName

/-- A blank, a control character that moves the print position, or a line end. -/
def isSpace (c : Char) : Bool := c == ' ' || ('\x09' ≤ c && c ≤ '\x0d')

/-- The pieces of a list between the elements that satisfy a test; one more than these. -/
def piecesAt {α : Type} (cut : α → Bool) : List α → List (List α)
  | [] => [[]]
  | a :: rest =>
    match piecesAt cut rest with
    | [] => [[]]
    | piece :: more => if cut a then [] :: piece :: more else (a :: piece) :: more

/-- A list in groups of a size. -/
def inGroups {α : Type} (size : Nat) : Nat → List α → List (List α)
  | 0, _ => []
  | fuel + 1, xs => if xs = [] then [] else xs.take size :: inGroups size fuel (xs.drop size)

/-- The lines of a text without their ends; a last line may lack its end. -/
def linesIn (cs : List Char) : List (List Char) :=
  let pieces := piecesAt (· == '\n') cs
  if pieces.getLast? = some [] then pieces.dropLast else pieces

/-- The value of a digit in a base of up to sixteen. -/
def digitValue (c : Char) : Nat :=
  if c.isDigit then c.toNat - 48
  else if 'a' ≤ c ∧ c ≤ 'f' then c.toNat - 87
  else if 'A' ≤ c ∧ c ≤ 'F' then c.toNat - 55
  else 16

/-- The number that digits of a base spell. -/
def ofDigits (base : Nat) (digits : List Char) : Nat :=
  digits.foldl (fun n c => n * base + digitValue c) 0

/-- The number that a text of decimal digits spells. -/
def natural? (cs : List Char) : Option Nat :=
  if cs ≠ [] ∧ cs.all Char.isDigit then some (ofDigits 10 cs) else none

/-- The integer that a text spells, with an optional sign. -/
def integer? (cs : List Char) : Option Int :=
  match cs with
  | '-' :: digits => (natural? digits).map fun n => -(n : Int)
  | '+' :: digits => (natural? digits).map Int.ofNat
  | digits => (natural? digits).map Int.ofNat

/-- The sum of numbers. -/
def total (numbers : List Nat) : Nat := numbers.foldl (· + ·) 0

/-- A character repeated before a text up to a width. -/
def padLeft (fill : Char) (width : Nat) (cs : List Char) : List Char :=
  List.replicate (width - cs.length) fill ++ cs

/-- A text filled up with blanks to a width. -/
def padRight (width : Nat) (cs : List Char) : List Char :=
  cs ++ List.replicate (width - cs.length) ' '

/-- The digits of a number. -/
def decimal (n : Nat) : List Char := Nat.toDigits 10 n

/-- A number in octal digits of at least a width. -/
def octalText (width n : Nat) : String := String.ofList (padLeft '0' width (Nat.toDigits 8 n))

/-- A text with a part put in place of each mark, as far as a number of characters goes. -/
def substitutedWithin (mark part : List Char) : Nat → List Char → List Char
  | 0, cs => cs
  | _, [] => []
  | fuel + 1, c :: cs =>
    if mark ≠ [] ∧ mark.isPrefixOf (c :: cs) then
      part ++ substitutedWithin mark part fuel ((c :: cs).drop mark.length)
    else c :: substitutedWithin mark part fuel cs

/-- A text with a part put in place of each mark. -/
def substituted (mark part text : String) : String :=
  String.ofList (substitutedWithin mark.toList part.toList (text.length + 1) text.toList)

/-- The text of an integer. -/
def signed (n : Int) : List Char := if n < 0 then '-' :: decimal n.natAbs else decimal n.natAbs

end NativeBuild.Machine
