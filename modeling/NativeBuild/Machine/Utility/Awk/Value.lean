import NativeBuild.Machine.Format

/-
  Values of `awk`: numbers and texts. A text from outside that looks like a number is compared as
  one.
-/

namespace NativeBuild.Machine.Awk

/-- A value. -/
inductive Value where
  /-- Nothing was assigned yet: zero, and an empty text. -/
  | nothing
  | number (x : Float)
  | text (cs : List Char)
  /-- A text from outside. -/
  | given (cs : List Char)

/-- The number in front of a text. -/
def leadingValue (cs : List Char) : Float :=
  match spelledReal cs with
  | (some x, _) => x.toFloat
  | (none, _) => 0

/-- A text is a number, with nothing but blanks around it. -/
def looksNumeric (cs : List Char) : Bool :=
  let body := cs.dropWhile isSpace
  let digits := if body.head? = some '-' ∨ body.head? = some '+' then body.drop 1 else body
  (digits.head?.any fun c => c.isDigit || c == '.') &&
    match spelledReal cs with
    | (some _, rest) => rest.all isSpace
    | (none, _) => false

/-- The whole number that a double is cut to. -/
def wholePart (x : Float) : Int :=
  match Decimal.Double.ofFloat x with
  | .finite negative m e =>
    let n : Int := Decimal.Double.truncate m e
    if negative then -n else n
  | _ => 0

/-- A double that is a whole number of at most 31 bits; only those are shown with all their digits. -/
def isWhole (x : Float) : Bool := x.floor == x && x.abs ≤ 2147483647.0

/-- The whole number that a double is cut to, as far as it fits into 64 bits. -/
def boundedPart (x : Float) : Int :=
  if 9223372036854775807.0 ≤ x then 9223372036854775807
  else if -9223372036854775807.0 < x then wholePart x
  else -9223372036854775807

namespace Value

/-- The number that a value stands for. -/
def toNumber : Value → Float
  | nothing => 0
  | number x => x
  | text cs | given cs => leadingValue cs

/-- A value is compared as a number. -/
def isNumeric : Value → Bool
  | nothing | number _ => true
  | text _ => false
  | given cs => looksNumeric cs

/-- A value holds. -/
def isTrue : Value → Bool
  | nothing => false
  | number x => x != 0
  | text cs => !cs.isEmpty
  | given cs => if looksNumeric cs then leadingValue cs != 0 else !cs.isEmpty

/-- One for what holds, zero for what does not. -/
def ofBool (b : Bool) : Value := number (if b then 1 else 0)

end Value

/-- The measure at the front of a conversion: digits, or an argument in place of a star. -/
def measure (cs : List Char) (values : List Value) : Option Int × List Char × List Value :=
  match cs, values with
  | '*' :: rest, v :: values => (some (wholePart v.toNumber), rest, values)
  | _, _ =>
    let digits := cs.takeWhile Char.isDigit
    (if digits = [] then none else some (ofDigits 10 digits), cs.drop digits.length, values)

/-- A number with places. One that is none has the sign that invalid operations give it. -/
def realText (c : Conversion) (x : Float) : List Char :=
  if x.isNaN then c.field false [] "-nan".toList else c.real (Decimal.Double.ofFloat x)

/-- A number in a format for one number. -/
def shownIn (format : List Char) (x : Float) : List Char :=
  let precision := ((format.dropWhile (· ≠ '.')).drop 1).takeWhile Char.isDigit
  let conversion : Conversion := {
    precision := if precision = [] then none else some (ofDigits 10 precision)
    letter := format.getLast?.getD 'g' }
  if conversion.letter = 'd' ∨ conversion.letter = 'i' then conversion.integer (boundedPart x)
  else realText conversion x

/-- The text of a value; a number that is not whole is shown in a format. -/
def Value.toText (format : List Char) : Value → List Char
  | nothing => []
  | number x => if isWhole x then signed (wholePart x) else shownIn format x
  | text cs | given cs => cs

/-- A format with values in place of its conversions, up to one for which there is no value; also
whether that did not happen. -/
def formatted (shown : List Char) : Nat → List Char → List Value → List Char × Bool
  | 0, _, _ => ([], true)
  | _, [], _ => ([], true)
  | fuel + 1, '%' :: '%' :: rest, values =>
    let (more, isWhole) := formatted shown fuel rest values
    ('%' :: more, isWhole)
  | fuel + 1, '%' :: rest, values =>
    let flags := rest.takeWhile fun c => c ∈ ['#', '-', '+', ' ', '0']
    let (width, after, values) := measure (rest.drop flags.length) values
    let (flags, width) := match width with
      | some (.negSucc n) => ('-' :: flags, n + 1)
      | some (.ofNat n) => (flags, n)
      | none => (flags, 0)
    let (precision, after, values) := match after with
      | '.' :: more =>
        let (n, after, values) := measure more values
        (some ((n.getD 0).toNat), after, values)
      | _ => (none, after, values)
    match after, values with
    | [], _ => ('%' :: rest, true)
    | _, [] => ([], false)
    | letter :: after, v :: values =>
      let c : Conversion := { flags := flags, width := width, precision := precision, letter := letter }
      let part := match letter with
        | 's' => c.text (v.toText shown)
        | 'c' =>
          c.field false [] (match v with
            | .number x => [byteChar (wholePart x).toNat]
            | v => (v.toText shown).take 1)
        | 'd' | 'i' => { c with letter := 'd' }.integer (boundedPart v.toNumber)
        | 'o' | 'x' | 'X' | 'u' => c.integer (boundedPart v.toNumber)
        | _ => realText c v.toNumber
      let (more, isWhole) := formatted shown fuel after values
      (part ++ more, isWhole)
  | fuel + 1, c :: rest, values =>
    let (more, isWhole) := formatted shown fuel rest values
    (c :: more, isWhole)

/-- The hash of a key, by which the elements of an array are ordered. -/
def keyHash (cs : List Char) : Nat :=
  (cs.foldl (fun (h : UInt32) c => (h ^^^ c.toNat.toUInt32) * 16777619) 2166136261).toNat

/-- A table with an entry changed, or added in front. -/
def stored {κ α : Type} [BEq κ] (table : List (κ × α)) (key : κ) (a : α) : List (κ × α) :=
  if table.any fun e => e.1 == key then table.map fun e => if e.1 == key then (key, a) else e
  else (key, a) :: table

/-- The elements of an array by their keys, last first. -/
abbrev Elements := List (List Char × Value)

namespace Elements

/-- The keys in the order in which a loop takes them. -/
def keys (es : Elements) : List (List Char) :=
  let lists := (List.range 64).map fun k => es.filter fun e => keyHash e.1 % 64 == k
  (lists.flatten).map (·.1)

end Elements

end NativeBuild.Machine.Awk
