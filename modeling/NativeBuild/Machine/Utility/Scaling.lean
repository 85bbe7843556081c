import NativeBuild.Decimal.Wide
import NativeBuild.Machine.Format
import NativeBuild.Machine.Utility.Amount
import NativeBuild.Machine.Utility.Columns
import NativeBuild.Machine.Utility.Numbers

/-
  Numbers with units: `numfmt` reads numbers that may have a letter for a power of 1000 or 1024
  behind them, and writes them with such a letter or without.
-/

namespace NativeBuild.Machine.Call

/-- What letters behind a number mean. -/
inductive Scale where
  | plain
  /-- Powers of 1000, or of 1024 with an `i` behind the letter. -/
  | either
  /-- Powers of 1000. -/
  | thousands
  /-- Powers of 1024. -/
  | binary
  /-- Powers of 1024, and an `i` stands behind the letter. -/
  | marked
  deriving Repr, DecidableEq

/-- The number whose powers letters stand for. -/
def Scale.base : Scale → Nat
  | binary | marked => 1024
  | _ => 1000

/-- The scale that a word names. -/
def Scale.named : String → Scale
  | "auto" => either
  | "si" => thousands
  | "iec" => binary
  | "iec-i" => marked
  | _ => plain

/-- Letters in the order of their powers, from the first one on. -/
def scaleLetters : List Char := "KMGTPEZY".toList

/-- The letter of a power. -/
def scaleLetter (power : Nat) : List Char :=
  if power = 0 then [] else (scaleLetters[power - 1]?.toList)

/-- Where a number goes that lies between two. -/
inductive Leaning where
  | up
  | down
  | fromZero
  | towardsZero
  | nearest
  deriving Repr, DecidableEq

/-- The leaning that a word names. -/
def Leaning.named : String → Leaning
  | "up" => up
  | "down" => down
  | "towards-zero" => towardsZero
  | "nearest" => nearest
  | _ => fromZero

open Decimal (Wide)

/-- The next whole number from a number on. -/
def ceiling (x : Wide) : Int :=
  let n := x.toInt
  if (Wide.ofInt n).isBelow x then n + 1 else n

/-- A number made whole; what is far beyond 63 bits is cut off before and added again. -/
def Leaning.rounded (l : Leaning) (x : Wide) : Wide :=
  let limit := Wide.ofInt (Nat.pow 2 63 - 1 : Nat)
  let far := (Wide.ofInt (x.div limit).toInt).mul limit
  let x := x.sub far
  let floor := fun (x : Wide) => -ceiling x.neg
  let half : Wide := ⟨false, 1, -1⟩
  let isNegative := x.isBelow (Wide.ofInt 0)
  let whole := match l with
    | up => ceiling x
    | down => floor x
    | fromZero => if isNegative then floor x else ceiling x
    | towardsZero => x.toInt
    | nearest => if isNegative then (x.sub half).toInt else (x.add half).toInt
  far.add (Wide.ofInt whole)

/-- A number made whole behind some places. -/
def Leaning.roundedTo (l : Leaning) (places : Nat) (x : Wide) : Wide :=
  let power := (Wide.ofInt 10).powered places
  (l.rounded (x.mul power)).div power

/-- A number divided by a base until it is smaller, and how often that was. -/
def normalized (base : Wide) : Nat → Wide → Wide × Nat
  | 0, x => (x, 0)
  | fuel + 1, x =>
    if x.size.isBelow base then (x, 0)
    else
      let (x, power) := normalized base fuel (x.div base)
      (x, power + 1)

/-- What keeps a text from being a number. -/
inductive ScaleFault where
  | tooLarge
  | noNumber
  | forbidden
  | strange
  | unmarked
  /-- Something is left behind the number. -/
  | more (rest : List Char)
  deriving Repr, DecidableEq

/-- What is said about a text that is no number. -/
def ScaleFault.text (text : String) : ScaleFault → String
  | tooLarge => "value too large to be converted: " ++ quotedText text
  | noNumber => "invalid number: " ++ quotedText text
  | forbidden => "rejecting suffix in input: " ++ quotedText text ++ " (consider using --from)"
  | strange => "invalid suffix in input: " ++ quotedText text
  | unmarked => "missing 'i' suffix in input: " ++ quotedText text ++ " (e.g Ki/Mi/Gi)"
  | more rest => "invalid suffix in input " ++ quotedText text ++ ": " ++ quotedText (String.ofList rest)

/-- The number of digits that a number keeps exactly, and the number of those that are taken. -/
def keptDigits : Nat := 18

/-- The most digits of a number. -/
def mostDigits : Nat := 27

/-- A number as it is read. -/
structure Amount where
  value : Wide
  places : Nat := 0
  /-- More digits than are kept exactly. -/
  isInexact : Bool := false

/-- The number of digits without zeros in front. -/
def weight (digits : List Char) : Nat := (digits.dropWhile (· == '0')).length

/-- Reads digits into a number. -/
def readDigits (digits : List Char) : Wide :=
  digits.foldl (fun x d => (x.mul (Wide.ofInt 10)).add (Wide.ofInt (digitValue d))) (Wide.ofInt 0)

/-- Reads a number with places, and what stands behind it. -/
def readPlain (cs : List Char) : Except ScaleFault (Amount × List Char) :=
  let negative := cs.head? == some '-'
  let body := if negative then cs.drop 1 else cs
  let whole := body.takeWhile Char.isDigit
  let rest := body.drop whole.length
  let apply := fun (x : Wide) => if negative then x.neg else x
  if mostDigits < weight whole then .error .tooLarge
  else if whole = [] ∧ rest.head? ≠ some '.' then .error .noNumber
  else
    let inexact := keptDigits < weight whole
    match rest with
    | '.' :: more =>
      let places := more.takeWhile Char.isDigit
      let behind := more.drop places.length
      if mostDigits < weight places then .error .tooLarge
      else if places = [] ∧ behind.head? ≠ some '.' then .error .noNumber
      else
        let fraction := (readDigits places).div ((Wide.ofInt 10).powered places.length)
        .ok (⟨apply ((readDigits whole).add fraction), places.length,
          inexact || keptDigits < weight places⟩, behind)
    | rest => .ok (⟨apply (readDigits whole), 0, inexact⟩, rest)

/-- Reads a number with its letter. -/
def readScaled (scale : Scale) (cs : List Char) : Except ScaleFault Amount :=
  match readPlain cs with
  | .error fault => .error fault
  | .ok (x, []) => if scale = .marked then .error .unmarked else .ok x
  | .ok (x, rest) =>
    match rest.dropWhile fun c => c == ' ' || c == '\t' with
    | [] => .error .strange
    | letter :: behind =>
      if scaleLetters.contains letter = false then .error .strange
      else if scale = .plain then .error .forbidden
      else
        let hasMark := behind.head? == some 'i'
        let isBinary := scale.base = 1024 ∨ scale = .either ∧ hasMark
        if scale = .marked ∧ hasMark = false then .error .unmarked
        else
          let behind := if hasMark ∧ (scale = .either ∨ scale = .marked) then behind.drop 1 else behind
          let base := Wide.ofInt (if isBinary then 1024 else 1000)
          if behind ≠ [] then .error (.more behind)
          else .ok { x with
            value := x.value.mul (base.powered (scaleLetters.idxOf letter + 1)), places := 0 }

/-- What is done about a text that is no number. -/
inductive Strictness where
  | abort
  | fail
  | warn
  | ignore
  deriving Repr, DecidableEq

/-- The strictness that a word names. -/
def Strictness.named : String → Strictness
  | "fail" => fail
  | "warn" => warn
  | "ignore" => ignore
  | _ => abort

/-- How numbers are read and written. -/
structure ScaleStyle where
  source : Scale := .plain
  target : Scale := .plain
  sourceUnit : Nat := 1
  targetUnit : Nat := 1
  leaning : Leaning := .fromZero
  /-- The least width, and the side that blanks go to. -/
  width : Nat := 0
  isLeft : Bool := false
  zeroWidth : Nat := 0
  precision : Option Nat := none
  front : List Char := []
  back : List Char := []
  suffix : List Char := []
  strictness : Strictness := .abort
  delimiter : Option Char := none
  fields : Option (List (Nat × Option Nat)) := none
  stop : UInt8 := 10
  debugs : Bool := false
  /-- The width of a field is kept. -/
  keepsWidth : Bool := false

namespace ScaleStyle

/-- A field is one of those that are converted. -/
def converts (s : ScaleStyle) (field : Nat) : Bool :=
  match s.fields with
  | none => field == 1
  | some ranges => inRanges ranges field

/-- A number as it is written. -/
def figures (s : ScaleStyle) (x : Wide) (places : Nat) : List Char :=
  let print := fun (places : Nat) (x : Wide) =>
    ({ letter := 'f', precision := some places, flags := ['0'], width := s.zeroWidth } :
      Conversion).real x.toDouble
  if s.target = .plain then print places (s.leaning.roundedTo places x)
  else
    let base := Wide.ofInt s.target.base
    let (x, power) := normalized base 40 x
    let shift := match s.precision with
      | some n => min (power * 3) n
      | none => if x.size.isBelow (Wide.ofInt 10) then 1 else 0
    let x := s.leaning.roundedTo shift x
    let isFull := !x.size.isBelow base
    let x := if isFull then x.div base else x
    let power := if isFull then power + 1 else power
    let hasPlace := x.mantissa ≠ 0 ∧ (x.size.isBelow (Wide.ofInt 10) = true) ∧ 0 < power
    let places := s.precision.getD (if hasPlace then 1 else 0)
    print places x ++ scaleLetter power ++ if s.target = .marked ∧ 0 < power then ['i'] else []

/-- A number as it is written, or why it is not. -/
def shown (s : ScaleStyle) (x : Wide) (places : Nat) : Except String (List Char) :=
  let places := s.precision.getD places
  let power := (normalized (Wide.ofInt 10) 5000 x).2
  let general := "'" ++ String.ofList (({ letter := 'g' } : Conversion).real x.toDouble)
  if s.target = .plain ∧ keptDigits < power + places then
    .error (if places = 0 then
        "value too large to be printed: " ++ general ++ "' (consider using --to)"
      else "value/precision too large to be printed: " ++ general ++ "/" ++ toString places ++
        "' (consider using --to)")
  else if mostDigits - 1 < power then
    .error ("value too large to be printed: " ++ general ++ "' (cannot handle values > 999Y)")
  else .ok (s.figures x places ++ s.suffix)

end ScaleStyle

/-- What has been written of lines with numbers. -/
structure Conversions where
  /-- Newest first. -/
  writes : List (Nat × List UInt8) := []
  failed : Bool := false
  /-- A number has ended it all. -/
  stopped : Bool := false
  width : Nat

namespace Conversions

/-- Writes characters. -/
def print (cs : List Char) (k : Conversions) : Conversions :=
  { k with writes := (1, toBytes cs) :: k.writes }

/-- Says what is wrong with a number. -/
def refuse (c : Call) (s : ScaleStyle) (text : String) (k : Conversions) : Conversions :=
  if s.strictness = .ignore then { k with failed := true }
  else { k with
    writes := c.message text :: k.writes, failed := true, stopped := s.strictness == .abort }

/-- Converts a field. -/
def field (c : Call) (s : ScaleStyle) (number : Nat) (cs : List Char) (k : Conversions) :
    Conversions :=
  if k.stopped then k
  else if s.converts number = false then k.print cs
  else
    let bare := cs.take (cs.length - s.suffix.length)
    let cs := if s.suffix.length < cs.length ∧ bare ++ s.suffix = cs then bare else cs
    let body := cs.dropWhile fun ch => ch == ' ' || ch == '\t'
    let k := if s.keepsWidth then
        { k with width := if body.length < cs.length ∨ 1 < number then cs.length else 0 }
      else k
    let given := fun (k : Conversions) => if k.stopped then k else k.print cs
    match readScaled s.source body with
    | .error fault => given (k.refuse c s (fault.text (String.ofList body)))
    | .ok x =>
      let k := if x.isInexact ∧ s.debugs then
          { k with writes := c.message ("large input value " ++ quotedText (String.ofList body) ++
              ": possible precision loss") :: k.writes }
        else k
      let value := if s.sourceUnit ≠ 1 ∨ s.targetUnit ≠ 1 then
          (x.value.mul (Wide.ofInt s.sourceUnit)).div (Wide.ofInt s.targetUnit)
        else x.value
      match s.shown value x.places with
      | .error text => given (k.refuse c s text)
      | .ok figures =>
        let padded := if s.isLeft then padRight k.width figures else padLeft ' ' k.width figures
        k.print (s.front ++ padded ++ s.back)

/-- The fields of a line, each with the blanks in front of it. -/
def fieldsOf (s : ScaleStyle) : Nat → List Char → List (List Char)
  | 0, _ => []
  | fuel + 1, cs =>
    let isBlank := fun (ch : Char) => ch == ' ' || ch == '\t' || ch == '\n'
    let size := match s.delimiter with
      | some d => (cs.takeWhile (· ≠ d)).length
      | none =>
        let blanks := cs.takeWhile isBlank
        blanks.length + ((cs.drop blanks.length).takeWhile fun ch => !isBlank ch).length
    if cs.length ≤ size then [cs] else cs.take size :: fieldsOf s fuel (cs.drop (size + 1))

/-- Converts a line. -/
def line (c : Call) (s : ScaleStyle) (k : Conversions) (cs : List Char) (hasEnd : Bool) :
    Conversions :=
  let joint := [s.delimiter.getD ' ']
  let k := (fieldsOf s (cs.length + 2) cs).zipIdx.foldl (fun k (cs, number) =>
    let k := if number = 0 ∨ k.stopped = true then k else k.print joint
    k.field c s (number + 1) cs) k
  if hasEnd ∧ k.stopped = false then { k with writes := (1, [s.stop]) :: k.writes } else k

end Conversions

/-- Reads the number of a unit of size. -/
def unitAmount? (text : String) : Option Nat :=
  let cs := text.toList
  let endsPlain := match cs.getLast? with
    | some c => c.isDigit
    | none => true
  let found :=
    if endsPlain then amount? "KMGTPEZY" text
    else
      let front := cs.dropLast
      let adjusted := if cs.getLast? = some 'i' ∧ (front.getLast?.any fun c => !c.isDigit) then front
        else cs ++ ['B']
      amount? "0KMGTPEZY" (String.ofList adjusted)
  match found with
  | .ok 0 => none
  | .ok n => some n
  | .error _ => none

/-- Reads a format into a style. -/
def ScaleStyle.withFormat (s : ScaleStyle) (text : String) : Except String ScaleStyle :=
  let cs := text.toList
  let (plain, rest) := plainFormat cs
  let front := cs.take plain.length
  let shown := quotedText text
  match rest with
  | [] => .error ("format " ++ shown ++ " has no % directive")
  | _ :: rest =>
    let flags := rest.takeWhile fun c => c == ' ' || c == '\'' || c == '0'
    let zeros := flags.contains '0'
    let rest := rest.drop flags.length
    let isNegative := rest.head? == some '-'
    let signed := isNegative || rest.head? == some '+'
    let digits := (if signed then rest.drop 1 else rest).takeWhile Char.isDigit
    let rest := if digits = [] then rest else rest.drop (digits.length + signed.toNat)
    let width := ofDigits 10 digits
    if Nat.pow 2 63 ≤ width then .error ("invalid format " ++ shown ++ " (width overflow)")
    else
      let s := if width = 0 then s
        else if isNegative then { s with isLeft := true, width := width }
        else if zeros then { s with zeroWidth := width }
        else { s with width := width }
      if rest = [] then .error ("format " ++ shown ++ " ends in %")
      else
        let dotted := rest.head? == some '.'
        let places := (rest.drop 1).takeWhile Char.isDigit
        let next := (rest.drop 1).head?
        let isBad := dotted && ((next.any fun c => c == ' ' || c == '\t' || c == '+' || c == '-') ||
          Nat.pow 2 63 ≤ ofDigits 10 places)
        if isBad then .error ("invalid precision in format " ++ shown)
        else
          let s := if dotted then { s with precision := some (ofDigits 10 places) } else s
          let rest := if dotted then rest.drop (places.length + 1) else rest
          match rest with
          | 'f' :: back =>
            if (plainFormat back).2 ≠ [] then .error ("format " ++ shown ++ " has too many % directives")
            else .ok { s with front := front, back := back }
          | _ => .error ("invalid format " ++ shown ++ ", directive must be %[0]['][-][N][.][N]f")

/-- The style that options ask for. -/
def scaleStyle (o : Options) : ScaleStyle :=
  let unit := fun (letter : Char) => ((o.value? letter).bind unitAmount?).getD 1
  let word := fun (letter : Char) (words : List String) =>
    ((o.value? letter).bind (wordChoice? words)).getD ""
  let width := ((o.value? 'ε').bind fun v => integer? v.toList).getD 0
  { source := .named (word 'α' ["none", "auto", "si", "iec", "iec-i"])
    target := .named (word 'γ' ["none", "si", "iec", "iec-i"])
    sourceUnit := unit 'β', targetUnit := unit 'δ'
    leaning := .named (word 'ρ' ["up", "down", "from-zero", "towards-zero", "nearest"])
    width := width.natAbs, isLeft := width < 0
    suffix := ((o.value? 'σ').getD "").toList
    strictness := .named (word 'ι' ["abort", "fail", "warn", "ignore"])
    delimiter := (o.value? 'd').map fun v => v.toList.headD '\x00'
    fields := (o.value? 'φ').bind fun v =>
      if v = "-" then some [(1, none)] else (readPlaces true v.toList {}).toOption
    stop := if o.has 'z' then 0 else 10
    debugs := o.has 'Δ' }

/-- Why an option is refused. -/
def scaleRefusal? (c : Call) (letter : Char) (value : String) : Option Progress :=
  let word := fun (option : String) (words : List String) =>
    if (wordChoice? words value).isNone then some (c.refusesWord 1 option value words) else none
  match letter with
  | 'α' => word "--from" ["none", "auto", "si", "iec", "iec-i"]
  | 'γ' => word "--to" ["none", "si", "iec", "iec-i"]
  | 'ρ' => word "--round" ["up", "down", "from-zero", "towards-zero", "nearest"]
  | 'ι' => word "--invalid" ["abort", "fail", "warn", "ignore"]
  | 'β' | 'δ' =>
    if (unitAmount? value).isNone then some (c.fails 1 ("invalid unit size: " ++ quotedText value))
    else none
  | 'ε' =>
    if ((integer? value.toList).getD 0) = 0 then
      some (c.fails 1 ("invalid padding value " ++ quotedText value))
    else none
  | 'φ' =>
    match if value = "-" then .ok [] else readPlaces true value.toList {} with
    | .error text => some (c.misused 1 text)
    | .ok _ => none
  | 'd' =>
    if 1 < (toBytes value.toList).length then
      some (c.fails 1 "the delimiter must be a single character")
    else none
  | 'η' =>
    if value ≠ "" ∧ ((natural? value.toList).getD 0) = 0 then
      some (c.fails 1 ("invalid header value " ++ quotedText value))
    else none
  | _ => none

/-- Converts numbers to and from forms with units. -/
def numfmt (c : Call) : Progress :=
  let g : Grammar := {
    letters := "d:zα:β:γ:δ:ρ:ε:σ:φ:θη::ι:Δκ:"
    names := [("from", 'α'), ("from-unit", 'β'), ("to", 'γ'), ("to-unit", 'δ'), ("round", 'ρ'),
      ("padding", 'ε'), ("suffix", 'σ'), ("grouping", 'θ'), ("delimiter", 'd'), ("field", 'φ'),
      ("zero-terminated", 'z'), ("debug", 'Δ'), ("header", 'η'), ("format", 'κ'), ("invalid", 'ι')] }
  c.withChecked 1 g c.scaleRefusal? fun o =>
    let s := scaleStyle o
    let styled := match o.value? 'κ' with
      | some text => s.withFormat text
      | none => .ok s
    if 1 < (o.given.filter fun entry => entry.1 == 'φ').length then
      c.fails 1 "multiple field specifications"
    else if o.has 'κ' ∧ o.has 'θ' then c.fails 1 "--grouping cannot be combined with --format"
    else
      match styled with
      | .error text => c.fails 1 text
      | .ok s =>
        let groups := o.has 'θ' || (o.value? 'κ').any fun text =>
          (((plainFormat text.toList).2.drop 1).takeWhile fun ch =>
            ch == ' ' || ch == '\'' || ch == '0').contains '\''
        let s := { s with keepsWidth := s.width == 0 && s.delimiter.isNone }
        let notes := if s.debugs = false then [] else
          (if s.source = .plain ∧ s.target = .plain ∧ o.has 'θ' = false ∧ o.has 'ε' = false ∧
              o.has 'κ' = false then
            [c.message "no conversion option specified"] else []) ++
          if groups then [c.message "grouping has no effect in this locale"] else []
        if groups ∧ s.target ≠ .plain then c.fails 1 "grouping cannot be combined with --to"
        else
          let start : Conversions := { writes := notes.reverse, width := s.width }
          let finish := fun (k : Conversions) =>
            let status := if k.stopped then 2
              else if k.failed ∧ (s.strictness = .abort ∨ s.strictness = .fail) then 2 else 0
            let writes := if k.failed ∧ k.stopped = false ∧ s.debugs = true then
                c.message "failed to convert some of the input numbers" :: k.writes
              else k.writes
            c.ends status writes.reverse
          let heading := match o.value? 'η' with
            | some "" => 1
            | some v => (natural? v.toList).getD 0
            | none => 0
          if o.operands ≠ [] then
            let start := if s.debugs ∧ 0 < heading then
                { start with writes := c.message "--header ignored with command-line input" :: start.writes }
              else start
            finish (o.operands.foldl (fun k text => k.line c s text.toList true) start)
          else if c.ended = false ∧ c.inputFault.isNone then c.waits []
          else
            let (lines, lacksEnd) := linesOf true (if c.inputFault.isSome then [] else c.input) s.stop
            let count := lines.length
            let k := lines.zipIdx.foldl (fun (k : Conversions) (line, number) =>
              let hasEnd := !lacksEnd || number + 1 < count
              if number < heading then
                { k with writes := (1, line ++ if hasEnd then [s.stop] else []) :: k.writes }
              else k.line c s (ofBytes line) hasEnd) start
            let k := match c.inputFault with
              | some text => { k with writes := c.message ("error reading input: " ++ text) :: k.writes }
              | none => k
            finish k

end NativeBuild.Machine.Call
