import NativeBuild.Decimal.Rounded
import NativeBuild.Machine.Arithmetic

/-
  Formats: texts with escapes and conversions, as commands that print read them. A format is
  applied again while it uses arguments and some are left.
-/

namespace NativeBuild.Machine

/-- An octal digit. -/
def isOctal (c : Char) : Bool := '0' ≤ c && c ≤ '7'

/-- The byte of a number, as a character. -/
def byteChar (n : Nat) : Char := Char.ofNat (n % 256)

/-- What a letter behind a backslash stands for. -/
def escapeLetter (c : Char) : Option Char :=
  match c with
  | '\\' => some '\\'
  | 'a' => some '\x07'
  | 'b' => some '\x08'
  | 'e' => some '\x1b'
  | 'f' => some '\x0c'
  | 'n' => some '\n'
  | 'r' => some '\r'
  | 't' => some '\t'
  | 'v' => some '\x0b'
  | _ => none

/-- The character of an escape, seen from behind its backslash, and what follows it. An escape that
means nothing leaves the backslash. -/
def escape (cs : List Char) : Char × List Char :=
  match cs with
  | [] => ('\\', [])
  | c :: rest =>
    if isOctal c then
      let digits := (cs.take 3).takeWhile isOctal
      (byteChar (ofDigits 8 digits), cs.drop digits.length)
    else
      match escapeLetter c with
      | some d => (d, rest)
      | none => ('\\', cs)

/-- A text with its escapes replaced, and whether `\c` has ended it. An octal number may have a
zero in front of its digits. -/
def unescape : Nat → List Char → List Char × Bool
  | 0, _ => ([], false)
  | _, [] => ([], false)
  | fuel + 1, '\\' :: rest =>
    match rest with
    | 'c' :: _ => ([], true)
    | _ =>
      let rest := match rest with
        | '0' :: d :: more => if isOctal d then d :: more else rest
        | _ => rest
      let (c, rest) := escape rest
      let (more, stop) := unescape fuel rest
      (c :: more, stop)
  | fuel + 1, c :: rest =>
    let (more, stop) := unescape fuel rest
    (c :: more, stop)

/-- A text with its escapes replaced. -/
def unescapeAll (cs : List Char) : List Char × Bool := unescape (cs.length + 1) cs

/-- A conversion of a format: its flags, the least width, the precision, and its letter. -/
structure Conversion where
  flags : List Char := []
  width : Nat := 0
  precision : Option Nat := none
  /-- A number with places has four bits in front of its point instead of one. -/
  isWide : Bool := false
  letter : Char

namespace Conversion

/-- A flag is set. -/
def has (f : Conversion) (flag : Char) : Bool := f.flags.contains flag

/-- A text in the field of a conversion. Zeros fill it behind what stands in front. -/
def field (f : Conversion) (zeros : Bool) (front body : List Char) : List Char :=
  let fill := f.width - front.length - body.length
  if f.has '-' then front ++ body ++ List.replicate fill ' '
  else if zeros ∧ f.has '0' then front ++ List.replicate fill '0' ++ body
  else List.replicate fill ' ' ++ front ++ body

/-- A text with at most as many characters as the precision allows. -/
def text (f : Conversion) (cs : List Char) : List Char :=
  f.field false [] (match f.precision with
    | some n => cs.take n
    | none => cs)

/-- The sign of a number. -/
def sign (f : Conversion) (negative : Bool) : List Char :=
  if negative then ['-'] else if f.has '+' then ['+'] else if f.has ' ' then [' '] else []

/-- A whole number. -/
def integer (f : Conversion) (n : Int) : List Char :=
  let isSigned := f.letter = 'd' ∨ f.letter = 'i'
  let magnitude := if isSigned then n.natAbs else toBits n
  let digits := match f.letter with
    | 'o' => Nat.toDigits 8 magnitude
    | 'x' => Nat.toDigits 16 magnitude
    | 'X' => (Nat.toDigits 16 magnitude).map Char.toUpper
    | _ => decimal magnitude
  let digits := if f.precision = some 0 ∧ magnitude = 0 then [] else digits
  let digits := padLeft '0' (f.precision.getD 0) digits
  let digits := if f.has '#' ∧ f.letter = 'o' ∧ digits.head? ≠ some '0' then '0' :: digits
    else digits
  let mark := if f.has '#' ∧ magnitude ≠ 0 then
      if f.letter = 'x' then ['0', 'x'] else if f.letter = 'X' then ['0', 'X'] else []
    else []
  f.field f.precision.isNone ((if isSigned then f.sign (n < 0) else []) ++ mark) digits

/-- Digits with a point before the last ones. -/
def pointed (f : Conversion) (places digits : Nat) : List Char :=
  let cs := padLeft '0' (places + 1) (decimal digits)
  let whole := cs.take (cs.length - places)
  whole ++ if places = 0 then (if f.has '#' then ['.'] else [])
    else '.' :: cs.drop (cs.length - places)

/-- A number without the zeros that end its places. -/
def stripped (cs : List Char) : List Char :=
  if cs.contains '.' then
    let cs := (cs.reverse.dropWhile (· == '0')).reverse
    if cs.getLast? = some '.' then cs.dropLast else cs
  else cs

/-- The exponent of a number. -/
def exponent (power : Int) : List Char :=
  ['e', if power < 0 then '-' else '+'] ++ padLeft '0' 2 (decimal power.natAbs)

/-- The digits of `mantissa · 2 ^ e`, as the letter asks for. -/
def digits (f : Conversion) (mantissa : Nat) (e : Int) : List Char :=
  let precision := f.precision.getD 6
  match f.letter.toLower with
  | 'f' => f.pointed precision (Decimal.scaled mantissa e precision)
  | 'e' =>
    let (d, power) := Decimal.leadingDigits (precision + 1) mantissa e
    f.pointed precision d ++ exponent power
  | 'g' =>
    let count := max precision 1
    let (d, power) := Decimal.leadingDigits count mantissa e
    let kept := fun (cs : List Char) => if f.has '#' then cs else stripped cs
    if power < -4 ∨ (count : Int) ≤ power then kept (f.pointed (count - 1) d) ++ exponent power
    else
      let places := ((count : Int) - 1 - power).toNat
      kept (f.pointed places (Decimal.scaled mantissa e places))
  | _ =>
    if mantissa = 0 then "0x0p+0".toList
    else
      let bits := Nat.log2 mantissa
      let (whole, places, width) := if f.isWide then (3, 60, 15) else (0, 52, 13)
      let shown := mantissa * Nat.pow 2 (places + whole - bits) / Nat.pow 2 (bits - places - whole)
      let fraction := padLeft '0' width (Nat.toDigits 16 (shown % Nat.pow 2 places))
      let fraction := (fraction.reverse.dropWhile (· == '0')).reverse
      let power := e + bits - whole
      ['0', 'x'] ++ Nat.toDigits 16 (shown / Nat.pow 2 places) ++
        (if fraction = [] then [] else '.' :: fraction) ++
        ['p', if power < 0 then '-' else '+'] ++ decimal power.natAbs

/-- A number with places. -/
def real (f : Conversion) (x : Decimal.Double) : List Char :=
  let upper := fun (cs : List Char) => if f.letter.isUpper then cs.map Char.toUpper else cs
  match x with
  | .notANumber => f.field false [] (upper "nan".toList)
  | .infinite negative => f.field false (f.sign negative) (upper "inf".toList)
  | .finite negative mantissa e => f.field true (f.sign negative) (upper (f.digits mantissa e))

end Conversion

/-- What is wrong with a number among the arguments. -/
inductive NumberFault where
  /-- It does not begin like a number. -/
  | missing
  /-- More follows behind the number. -/
  | unfinished
  | outOfRange
  deriving Repr, DecidableEq

/-- The fault of a number, if it has one. -/
def numberFault? (isMissing rest tooLarge : Bool) : Option NumberFault :=
  if rest then some (if isMissing then .missing else .unfinished)
  else if tooLarge then some .outOfRange else none

/-- What a fault of a number is called. -/
def NumberFault.text : NumberFault → String
  | .missing => "expected numeric value"
  | .unfinished => "not completely converted"
  | .outOfRange => "Numerical result out of range"

/-- The whole number that an argument gives, and what is wrong with it. A quote stands before a
character that gives its code. -/
def wholeNumber (signed : Bool) (argument : String) : Int × Option NumberFault :=
  match argument.toList with
  | [] => (0, none)
  | c :: more =>
    if c = '\'' ∨ c = '"' then ((more.headD '\x00').toNat, none)
    else
      let cs := argument.toList.dropWhile isSpace
      let negative := cs.head? == some '-'
      let digits := if negative || cs.head? == some '+' then cs.drop 1 else cs
      let (n, rest) := spelledNumber digits
      let nothing := (digits.takeWhile Char.isDigit).isEmpty
      let rest := if nothing then argument.toList else rest
      let limit := if signed then largestNumber + (if negative then 1 else 0) else Nat.pow 2 64 - 1
      let value : Int := if negative then -(min n limit : Nat) else (min n limit : Nat)
      (value, numberFault? nothing (!rest.isEmpty) (limit < n))

/-- A number with places as it is spelled. -/
inductive Spelled where
  | notANumber
  | infinite (negative : Bool)
  /-- The value `digits · 2 ^ two · 10 ^ ten`, with its sign. -/
  | figure (negative : Bool) (digits : Nat) (two ten : Int)
  deriving Repr, DecidableEq

/-- The double of a spelled number. -/
def Spelled.double : Spelled → Decimal.Double
  | .notANumber => .notANumber
  | .infinite negative => .infinite negative
  | .figure negative digits two ten =>
    let size : Int := (decimal digits).length
    if digits = 0 then .finite negative 0 0
    else if two ≠ 0 then .finite negative digits two
    else if 400 < ten + size then .infinite negative
    else if ten + size < -400 then .finite negative 0 0
    else
      match Decimal.Double.ofFloat (Float.ofScientific digits (ten < 0) ten.natAbs) with
      | .finite _ m e => .finite negative m e
      | .infinite _ => .infinite negative
      | .notANumber => .notANumber

/-- The nearest value with 64 bits to a spelled number: what has room for more than a double. -/
def Spelled.wide : Spelled → Decimal.Double
  | .notANumber => .notANumber
  | .infinite negative => .infinite negative
  | .figure negative digits two ten =>
    let size : Int := (decimal digits).length
    if digits = 0 ∨ ten + size < -5000 then .finite negative 0 0
    else if 5000 < ten + size then .infinite negative
    else
      let num := digits * Nat.pow 2 two.toNat * Nat.pow 10 ten.toNat
      let den := Nat.pow 2 (-two).toNat * Nat.pow 10 (-ten).toNat
      let guess : Int := (Nat.log2 num : Int) - Nat.log2 den - 63
      let mantissa := fun (e : Int) =>
        Decimal.nearest (num * Nat.pow 2 (-e).toNat) (den * Nat.pow 2 e.toNat)
      let e := if mantissa guess < Nat.pow 2 63 then guess - 1 else guess
      let e := max e (-16445)
      if 16384 < e + 64 then .infinite negative else .finite negative (mantissa e) e

/-- A power behind a mark such as `e`, and what follows. -/
def powerBehind (mark : Char) (cs : List Char) : Int × List Char :=
  match cs with
  | c :: rest =>
    if c.toLower ≠ mark then (0, cs)
    else
      let negative := rest.head? == some '-'
      let digits := if negative || rest.head? == some '+' then rest.drop 1 else rest
      let taken := digits.takeWhile Char.isDigit
      if taken = [] then (0, cs)
      else
        let n : Int := min (ofDigits 10 taken) 100000
        (if negative then -n else n, digits.drop taken.length)
  | [] => (0, cs)

/-- The number with places in front of a text, and the rest; without one the rest is the whole
text. -/
def spelledFigure (cs : List Char) : Option Spelled × List Char :=
  let start := cs.dropWhile isSpace
  let negative := start.head? == some '-'
  let body := if negative || start.head? == some '+' then start.drop 1 else start
  let lower := body.map Char.toLower
  if "infinity".toList.isPrefixOf lower then (some (.infinite negative), body.drop 8)
  else if "inf".toList.isPrefixOf lower then (some (.infinite negative), body.drop 3)
  else if "nan".toList.isPrefixOf lower then (some .notANumber, body.drop 3)
  else
    let isHex := "0x".toList.isPrefixOf lower &&
      ((lower.drop 2).filter (· != '.')).head?.any fun c => digitValue c < 16
    let base := if isHex then 16 else 10
    let rest := if isHex then body.drop 2 else body
    let inBase := fun (c : Char) => digitValue c < base
    let whole := rest.takeWhile inBase
    let rest := rest.drop whole.length
    let places := if rest.head? = some '.' then (rest.drop 1).takeWhile inBase else []
    if whole = [] ∧ places = [] then (none, cs)
    else
      let rest := if rest.head? = some '.' then rest.drop (1 + places.length) else rest
      let digits := ofDigits base (whole ++ places)
      if isHex then
        let (power, rest) := powerBehind 'p' rest
        (some (.figure negative digits (power - 4 * places.length) 0), rest)
      else
        let (power, rest) := powerBehind 'e' rest
        (some (.figure negative digits 0 (power - places.length)), rest)

/-- The double in front of a text, and the rest. -/
def spelledReal (cs : List Char) : Option Decimal.Double × List Char :=
  let (figure, rest) := spelledFigure cs
  (figure.map Spelled.double, rest)

/-- The number with places that an argument gives, and what is wrong with it. -/
def realNumber (argument : String) : Decimal.Double × Option NumberFault :=
  match argument.toList with
  | [] => (.finite false 0 0, none)
  | c :: more =>
    if c = '\'' ∨ c = '"' then (.finite false (more.headD '\x00').toNat 0, none)
    else
      match spelledReal argument.toList with
      | (none, _) => (.finite false 0 0, numberFault? true true false)
      | (some x, rest) =>
        let tooLarge := match x with
          | .infinite _ => argument.toList.any Char.isDigit
          | _ => false
        (x, numberFault? false (!rest.isEmpty) tooLarge)

/-- What a format gave. -/
structure Formatted where
  /-- What it prints, newest first. -/
  printed : List (List Char) := []
  left : List String
  /-- Some argument was used. -/
  used : Bool := false
  /-- Arguments and what is wrong with them, newest first. -/
  problems : List (String × NumberFault) := []
  /-- The format is broken off, with what is wrong with it if anything is. -/
  stopped : Option (Option String) := none

namespace Formatted

/-- Prints more. -/
def print (cs : List Char) (f : Formatted) : Formatted := { f with printed := cs :: f.printed }

/-- Takes an argument; without one there is none. -/
def argument (f : Formatted) : Option String × Formatted :=
  (f.left.head?, { f with left := f.left.drop 1, used := true })

/-- Notes what is wrong with an argument. -/
def note (argument : String) (fault : Option NumberFault) (f : Formatted) : Formatted :=
  { f with problems := (fault.map fun fault => (argument, fault)).toList ++ f.problems }

/-- A number for a width or precision among the arguments, or the digits that stand there. -/
def measure (cs : List Char) (f : Formatted) : Option Int × List Char × Formatted :=
  match cs with
  | '*' :: rest =>
    let (a, f) := f.argument
    let (n, problem) := wholeNumber true (a.getD "")
    (some n, rest, f.note (a.getD "") problem)
  | _ =>
    let digits := cs.takeWhile Char.isDigit
    (if digits = [] then none else some (ofDigits 10 digits), cs.drop digits.length, f)

/-- Applies a conversion to the next argument. -/
def convert (c : Conversion) (f : Formatted) : Formatted :=
  let (a, f) := f.argument
  let text := (a.getD "").toList
  match c.letter with
  | 's' => f.print (c.text text)
  | 'c' => f.print (c.field false [] [text.headD '\x00'])
  | 'b' =>
    let (shown, stop) := unescapeAll text
    let f := f.print (c.text shown)
    if stop then { f with stopped := some none } else f
  | 'd' | 'i' | 'o' | 'u' | 'x' | 'X' =>
    let (n, problem) := wholeNumber (c.letter = 'd' || c.letter = 'i') (a.getD "")
    (f.note (a.getD "") problem).print (c.integer n)
  | _ =>
    let (x, problem) := realNumber (a.getD "")
    (f.note (a.getD "") problem).print (c.real x)

/-- Applies a format once. -/
def once : Nat → List Char → Formatted → Formatted
  | 0, _, f => f
  | _, [], f => f
  | fuel + 1, '\\' :: rest, f =>
    let (c, rest) := escape rest
    once fuel rest (f.print [c])
  | fuel + 1, '%' :: '%' :: rest, f => once fuel rest (f.print ['%'])
  | fuel + 1, '%' :: rest, f =>
    let flags := rest.takeWhile fun c => c ∈ ['#', '-', '+', ' ', '0']
    let (width, after, f) := f.measure (rest.drop flags.length)
    let (flags, width) := match width with
      | some (.negSucc n) => ('-' :: flags, n + 1)
      | some (.ofNat n) => (flags, n)
      | none => (flags, 0)
    let (precision, after, f) := match after with
      | '.' :: more =>
        let (n, after, f) := f.measure more
        (match n with
          | some (.negSucc _) => none
          | n => some (n.getD 0).toNat, after, f)
      | _ => (none, after, f)
    match after with
    | [] => { f with stopped := some (some "missing format character") }
    | letter :: after' =>
      if letter ∈ ['s', 'c', 'b', 'd', 'i', 'o', 'u', 'x', 'X', 'a', 'A', 'e', 'E', 'f', 'F',
          'g', 'G'] then
        let f := f.convert { flags := flags, width := width, precision := precision,
                             letter := letter }
        if f.stopped.isSome then f else once fuel after' f
      else
        let shown := rest.take (rest.length - after'.length)
        { f with stopped := some (some ("%" ++ String.ofList shown ++ ": invalid directive")) }
  | fuel + 1, c :: rest, f => once fuel rest (f.print [c])

/-- Applies a format until no arguments are left. -/
def all (format : List Char) : Nat → Formatted → Formatted
  | 0, f => f
  | fuel + 1, f =>
    let f := once (format.length + 1) format { f with used := false }
    if f.used ∧ f.left ≠ [] ∧ f.stopped.isNone then all format fuel f else f

end Formatted

/-- Applies a format to arguments. -/
def format (cs : List Char) (arguments : List String) : Formatted :=
  Formatted.all cs (arguments.length + 1) { left := arguments }

end NativeBuild.Machine
