import NativeBuild.Machine.Format
import NativeBuild.Machine.Utility.Amount

/-
  Numbers: `seq` counts from one to another, and `factor` takes them apart. What is counted are
  decimals, which are exact, so that the last number is reached if it is one of the series.
-/

namespace NativeBuild.Machine.Call

/-- A decimal number: digits, and how many of them stand behind the point. -/
structure Figure where
  digits : Int
  places : Nat
  /-- How many characters it takes to write it, and how many places it is written with; nothing if
  that cannot be seen from how it was given. -/
  width : Nat := 0
  precision : Option Nat := some 0
  deriving Repr, DecidableEq

namespace Figure

/-- The number one. -/
def one : Figure := ⟨1, 0, 1, some 0⟩

/-- The digits of a number with more places. -/
def scaledTo (x : Figure) (places : Nat) : Int := x.digits * (Nat.pow 10 (places - x.places) : Nat)

/-- The power of ten behind the digits of a text. -/
def powerIn (cs : List Char) : Option Int :=
  match cs.dropWhile fun c => c != 'e' && c != 'E' with
  | _ :: rest =>
    let negative := rest.head? == some '-'
    let digits := (if negative || rest.head? == some '+' then rest.drop 1 else rest).takeWhile
      Char.isDigit
    let n : Int := min (ofDigits 10 digits) 5000
    some (if negative then -n else n)
  | [] => none

/-- How wide a text shows its number to be, and with how many places. -/
def look (cs : List Char) : Nat × Option Nat :=
  let front := cs.takeWhile (· != '.')
  let hasPoint := cs.contains '.'
  let isPlain := !(cs.contains 'x' || cs.contains 'X')
  let base := if !hasPoint && !cs.contains 'p' then some 0 else none
  if !isPlain then (0, base)
  else
    let fraction := ((cs.drop (front.length + 1)).takeWhile fun c => c != 'e' && c != 'E').length
    let width : Int := cs.length + (if hasPoint then
      (if fraction = 0 then -1 else if !front.getLast?.any Char.isDigit then 1 else 0) else 0)
    let precision : Nat := if hasPoint then fraction else 0
    match powerIn cs with
    | none => (width.toNat, some precision)
    | some power =>
      let mark := (cs.dropWhile fun c => c != 'e' && c != 'E').length
      let width := width - mark
      if power < 0 then
        let extra := if hasPoint then (if fraction = 0 then 1 else 0) else 1
        ((width + extra + power.natAbs).toNat, some (precision + power.natAbs))
      else
        let left := precision - min precision power.toNat
        let lost := if hasPoint && left == 0 && fraction != 0 then 1 else 0
        ((width - lost + (power.toNat - min fraction power.toNat : Nat)).toNat, some left)

/-- The number that digits of a base with a point and a power give. -/
def ofParts (negative : Bool) (digits : Nat) (base places : Nat) (power : Int) : Int × Nat :=
  let n : Int := if negative then -digits else digits
  if base = 16 then
    -- A power of two below one has as many places as its exponent.
    let e := power - 4 * places
    if 0 ≤ e then (n * Nat.pow 2 e.toNat, 0) else (n * Nat.pow 5 (-e).toNat, (-e).toNat)
  else
    let e := power - places
    if 0 ≤ e then (n * Nat.pow 10 e.toNat, 0) else (n, (-e).toNat)

end Figure

/-- A number among the arguments. -/
inductive Spelled where
  | figure (x : Figure)
  | infinite (negative : Bool)
  | notANumber
  | nothing

/-- The number that an argument spells. -/
def spelledFigure (text : String) : Spelled :=
  match spelledReal text.toList with
  | (none, _) => .nothing
  | (some .notANumber, rest) => if rest = [] then .notANumber else .nothing
  | (some x, rest) =>
    if rest ≠ [] then .nothing
    else
      let cs := text.toList.dropWhile fun c => isSpace c || c == '+'
      let negative := cs.head? == some '-'
      let body := if negative then cs.drop 1 else cs
      match x, body.any Char.isDigit with
      | .infinite negative, false => .infinite negative
      | _, _ =>
        let isHex := "0x".toList.isPrefixOf (body.map Char.toLower)
        let base := if isHex then 16 else 10
        let body := if isHex then body.drop 2 else body
        let inBase := fun (c : Char) => digitValue c < base
        let whole := body.takeWhile inBase
        let rest := body.drop whole.length
        let places := if rest.head? = some '.' then (rest.drop 1).takeWhile inBase else []
        let power := (powerBehind (if isHex then 'p' else 'e')
          (if rest.head? = some '.' then rest.drop (1 + places.length) else rest)).1
        let power := max (-5000) (min 5000 power)
        let (n, k) := Figure.ofParts negative (ofDigits base (whole ++ places)) base places.length power
        let (width, precision) := Figure.look cs
        .figure ⟨n, k, width, precision⟩

/-- A format with one conversion, for a number: what stands in front of it, the conversion, and what
follows. -/
structure FigureFormat where
  front : List Char
  conversion : Conversion
  back : List Char

/-- Text without conversions, where two percent signs stand for one, and what follows it. -/
def plainFormat : List Char → List Char × List Char
  | '%' :: '%' :: rest =>
    let (front, rest) := plainFormat rest
    ('%' :: front, rest)
  | '%' :: rest => ([], '%' :: rest)
  | c :: rest =>
    let (front, rest) := plainFormat rest
    (c :: front, rest)
  | [] => ([], [])

/-- Reads a format for numbers. -/
def figureFormat (text : String) : Except String FigureFormat :=
  let complaint := fun (what : String) => "format " ++ quotedText text ++ " " ++ what
  match plainFormat text.toList with
  | (_, []) => .error (complaint "has no % directive")
  | (front, _ :: rest) =>
    let flags := rest.takeWhile fun c => "-+#0 '".toList.contains c
    let rest := rest.drop flags.length
    let width := rest.takeWhile Char.isDigit
    let rest := rest.drop width.length
    let (precision, rest) := match rest with
      | '.' :: more =>
        let digits := more.takeWhile Char.isDigit
        (some (ofDigits 10 digits), more.drop digits.length)
      | rest => (none, rest)
    match if rest.head? = some 'L' then rest.drop 1 else rest with
    | [] => .error (complaint "ends in %")
    | letter :: rest =>
      if "efgaEFGA".toList.contains letter = false then
        .error (complaint ("has unknown %" ++ String.ofList [letter] ++ " directive"))
      else
        match plainFormat rest with
        | (back, []) =>
          .ok ⟨front, { flags := flags, width := ofDigits 10 width, precision := precision
                        letter := letter }, back⟩
        | _ => .error (complaint "has too many % directives")

/-- A decimal as a number of 64 bits times a power of two, the nearest one. -/
def binaryFigure (digits : Int) (places : Nat) : Decimal.Double :=
  let n := digits.natAbs
  if n = 0 then .finite (digits < 0) 0 0
  else
    let size : Int := (Nat.log2 n : Int) - Nat.log2 (Nat.pow 10 places)
    let shift := 64 - size
    let m := Decimal.nearest (n * Nat.pow 2 shift.toNat) (Nat.pow 10 places * Nat.pow 2 (-shift).toNat)
    .finite (digits < 0) m (-shift)

/-- Counts: where from and by how much, with so many places, and where it ends if it does. -/
structure Series where
  first : Int
  step : Int
  last : Option Int
  places : Nat
  format : FigureFormat

namespace Series

/-- A number as it is written. -/
def shown (s : Series) (n : Int) : List Char :=
  s.format.front ++ s.format.conversion.real (binaryFigure n s.places) ++ s.format.back

/-- How many numbers there are, if there is a last one. -/
def count? (s : Series) : Option Nat :=
  s.last.map fun last =>
    if 0 < s.step then ((last - s.first) / s.step + 1).toNat
    else ((s.first - last) / (-s.step) + 1).toNat

/-- The number behind the last one is written like the last one, and other than the one before. -/
def hasExtra (s : Series) (count : Nat) : Bool :=
  match s.last with
  | none => false
  | some last =>
    let text := fun (n : Int) => s.format.conversion.real (binaryFigure n s.places)
    let next := text (s.first + s.step * count)
    match spelledFigure (String.ofList next) with
    | .figure x =>
      let places := max x.places s.places
      x.scaledTo places == last * (Nat.pow 10 (places - s.places) : Nat) &&
        next != text (s.first + s.step * (count - 1 : Nat))
    | _ => false

end Series

/-- The format of a series of which none is given. -/
def seriesFormat (equalWidth : Bool) (first step last : Figure) (endless : Bool) : FigureFormat :=
  match first.precision, step.precision, last.precision with
  | some p, some q, some r =>
    let places := max p q
    if equalWidth ∧ !endless then
      let firstWidth := first.width + (places - p) + (if p = 0 ∧ places ≠ 0 then 1 else 0)
      let lastWidth := last.width + places - r - (if r ≠ 0 ∧ places = 0 then 1 else 0) +
        (if r = 0 ∧ places ≠ 0 then 1 else 0)
      ⟨[], { flags := ['0'], width := max firstWidth lastWidth, precision := some places, letter := 'f' },
        []⟩
    else ⟨[], { precision := some places, letter := 'f' }, []⟩
  | _, _, _ => ⟨[], { letter := 'g' }, []⟩

/-- Numbers are written on without end, or up to the last one. More are made each time. -/
def countOn (c : Call) (s : Series) (separator : List Char) : Progress :=
  let wanted := 2 * c.made + 16384
  let number := fun (k : Nat) => s.shown (s.first + s.step * k)
  let size := (number 0).length + separator.length
  let many := wanted / (max size 1) + 1
  let endless : Progress :=
    ⟨[(1, toBytes ((List.range many).flatMap fun k => number k ++ separator))], c.files, .again⟩
  match s.count? with
  | none => endless
  | some count =>
    if count = 0 then c.ends 0 []
    else if many < count then endless
    else
      let all := if s.hasExtra count then count + 1 else count
      c.ends 0 [(1, toBytes (List.intercalate separator ((List.range all).map number) ++ ['\n']))]

/-- The options in front of numbers, which may be negative. -/
def optionCount (g : Grammar) : List String → Nat
  | a :: rest =>
    match a.toList with
    | '-' :: c :: cs =>
      if c = '.' ∨ c.isDigit then 0
      else if (c :: cs) = ['-'] then 1
      else
        let waits := if c = '-' then !cs.contains '=' &&
            (g.names.any fun entry => cs.isPrefixOf entry.1.toList && g.takesValue entry.2)
          else
            let after := (c :: cs).dropWhile fun l => (g.behind l).isSome && !g.takesValue l
            after.length == 1 && after.any g.takesValue
        match rest, waits with
        | _ :: more, true => 2 + optionCount g more
        | rest, _ => 1 + optionCount g rest
    | _ => 0
  | [] => 0

/-- Counts from one number to another. -/
def seq (c : Call) : Progress :=
  let g : Grammar := {
    letters := "f:s:w", anywhere := false
    names := [("equal-width", 'w'), ("format", 'f'), ("separator", 's')] }
  let count := optionCount g c.arguments
  let operands := c.arguments.drop count
  ({ c with arguments := c.arguments.take count } : Call).withOptions 1 g fun o =>
    let bad := fun (text : String) =>
      match spelledFigure text with
      | .nothing => some (c.misused 1 ("invalid floating point argument: " ++ quotedText text))
      | .notANumber => some (c.misused 1 ("invalid 'not-a-number' argument: " ++ quotedText text))
      | _ => none
    let isZero := fun (text : String) => match spelledFigure text with
      | .figure x => x.digits == 0
      | _ => false
    let fault := fun (text : String) (k : Nat) =>
      (bad text).or (if k = 1 ∧ operands.length = 3 ∧ isZero text then
        some (c.misused 1 ("invalid Zero increment value: " ++ quotedText text)) else none)
    let format := (o.value? 'f').map figureFormat
    match operands, format with
    | [], _ => c.misused 1 "missing operand"
    | _ :: _ :: _ :: extra :: _, _ => c.misused 1 ("extra operand " ++ quotedText extra)
    | _, some (.error text) => c.fails 1 text
    | operands, format =>
      if format.isSome ∧ o.has 'w' then
        c.misused 1 "format string may not be specified when printing equal width strings"
      else
        match operands.zipIdx.findSome? fun (text, k) => fault text k with
        | some refusal => refusal
        | none =>
          let numbers := operands.map spelledFigure
          let figure := fun (x : Spelled) => match x with
            | .figure x => x
            | _ => Figure.one
          let (first, step, last) := match numbers with
            | [last] => (Figure.one, Figure.one, last)
            | [first, last] => (figure first, Figure.one, last)
            | [first, step, last] => (figure first, figure step, last)
            | _ => (Figure.one, Figure.one, .nothing)
          let endless := match last with
            | .infinite negative => negative == decide (step.digits < 0)
            | _ => false
          let never := match last with
            | .infinite negative => negative != decide (step.digits < 0)
            | _ => false
          let lastFigure := match last with
            | .figure x => x
            | _ => ⟨0, 0, 3, some 0⟩
          let places := max (max first.places step.places) lastFigure.places
          let chosen := match format with
            | some (.ok f) => f
            | _ => seriesFormat (o.has 'w') first step lastFigure endless
          let s : Series := {
            first := first.scaledTo places, step := step.scaledTo places
            last := if endless then none else some (lastFigure.scaledTo places)
            places := places, format := chosen }
          if never then c.ends 0 [] else c.countOn s ((o.value? 's').getD "\n").toList

/-- The prime factors of a number from a divisor on, smallest first. -/
def primeFactors : Nat → Nat → Nat → List Nat
  | 0, _, n => if n ≤ 1 then [] else [n]
  | fuel + 1, d, n =>
    if n ≤ 1 then []
    else if n < d * d then [n]
    else if n % d = 0 then d :: primeFactors fuel d (n / d)
    else primeFactors fuel (if d = 2 then 3 else d + 2) n

/-- Prints the prime factors of numbers. -/
def factor (c : Call) : Progress :=
  c.withOptions 1 { letters := "" } fun o =>
    if o.operands = [] ∧ c.ended = false then c.waits []
    else
      let isBlank := fun (ch : Char) => ch == ' ' || ch == '\t' || ch == '\n'
      let words := if o.operands = [] then
          ((piecesAt isBlank (ofBytes c.input)).filter (· ≠ [])).map String.ofList
        else o.operands
      let one := fun (text : String) =>
        let cs := text.toList.dropWhile (· == ' ')
        match natural? (if cs.head? = some '+' then cs.drop 1 else cs) with
        | some n => (1, toBytes ((decimal n) ++ ':' :: (primeFactors 200000 2 n).flatMap
            (fun p => ' ' :: decimal p) ++ ['\n']))
        | none => c.message (quotedText text ++ " is not a valid positive integer")
      let writes := words.map one
      c.ends (if writes.any fun w => w.1 == 2 then 1 else 0) writes

end NativeBuild.Machine.Call
