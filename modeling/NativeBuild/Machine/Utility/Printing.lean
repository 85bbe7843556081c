import NativeBuild.Machine.Format
import NativeBuild.Machine.Utility.Call

/-
  Utilities that print: arguments as they are or by a format, variables of the environment, and one
  line again and again.
-/

namespace NativeBuild.Machine

/-- What an escape of a format gives. -/
inductive Escaped where
  | shown (cs : List Char)
  /-- Nothing more is printed. -/
  | finish
  /-- It is no escape, and everything ends with a message. -/
  | refused (text : String)
  deriving Repr, DecidableEq

/-- A hexadecimal digit. -/
def isHexadecimal (c : Char) : Bool := digitValue c < 16

/-- The character of an escape with a `u`: only those beyond the first ones can be named so. -/
def namedCharacter (letter : Char) (width : Nat) (rest : List Char) : Escaped :=
  let digits := (rest.take width).takeWhile isHexadecimal
  let code := ofDigits 16 digits
  let upper := (Nat.toDigits 16 code).map Char.toUpper
  if digits.length < width then .refused "missing hexadecimal number in escape"
  else if (code ≤ 0x9f ∧ code ∉ [0x24, 0x40, 0x60]) ∨ (0xd800 ≤ code ∧ code ≤ 0xdfff) then
    .refused ("invalid universal character name \\" ++ String.ofList (letter ::
      padLeft '0' width (Nat.toDigits 16 code)))
  else if code < 0x80 then .shown [Char.ofNat code]
  else if code < 0x10000 then .shown ('\\' :: 'u' :: padLeft '0' 4 upper)
  else .shown ('\\' :: 'U' :: padLeft '0' 8 upper)

/-- What an escape gives, seen from behind its backslash, and what follows it. In an argument an
octal number may have a zero in front. -/
def fullEscape (inArgument : Bool) (cs : List Char) : Escaped × List Char :=
  match cs with
  | [] => (.shown ['\\'], [])
  | c :: rest =>
    if c = 'x' then
      let digits := (rest.take 2).takeWhile isHexadecimal
      if digits = [] then (.refused "missing hexadecimal number in escape", [])
      else (.shown [byteChar (ofDigits 16 digits)], rest.drop digits.length)
    else if isOctal c then
      let cs := if inArgument ∧ c = '0' then rest else cs
      let digits := (cs.take 3).takeWhile isOctal
      (.shown [byteChar (ofDigits 8 digits)], cs.drop digits.length)
    else if c = 'c' then (.finish, [])
    else if c = '"' then (.shown ['"'], rest)
    else if c = 'u' then (namedCharacter c 4 rest, rest.drop 4)
    else if c = 'U' then (namedCharacter c 8 rest, rest.drop 8)
    else
      match escapeLetter c with
      | some d => (.shown [d], rest)
      | none => (.shown ['\\', c], rest)

/-- What a format has given so far. -/
structure Printout where
  /-- What has been written, newest first. -/
  writes : List (Nat × List UInt8) := []
  left : List String
  status : Nat := 0
  /-- Nothing more is printed. -/
  stopped : Bool := false

namespace Printout

/-- Prints more. -/
def print (p : Printout) (cs : List Char) : Printout :=
  { p with writes := (1, toBytes cs) :: p.writes }

/-- Complains and goes on. -/
def complain (p : Printout) (c : Call) (text : String) : Printout :=
  { p with writes := c.message text :: p.writes, status := 1 }

/-- Complains and stops. -/
def refuse (p : Printout) (c : Call) (text : String) : Printout :=
  { p.complain c text with stopped := true }

/-- Prints what an escape gives. -/
def put (p : Printout) (c : Call) : Escaped → Printout
  | .shown cs => p.print cs
  | .finish => { p with stopped := true, status := 0 }
  | .refused text => p.refuse c text

/-- Takes an argument. -/
def argument (p : Printout) : String × Printout :=
  (p.left.headD "", { p with left := p.left.drop 1 })

/-- Prints an argument with its escapes replaced. -/
def putEscaped (c : Call) : Nat → List Char → Printout → Printout
  | 0, _, p => p
  | _, [], p => p
  | fuel + 1, '\\' :: rest, p =>
    let (escaped, rest) := fullEscape true rest
    let p := p.put c escaped
    if p.stopped then p else putEscaped c fuel rest p
  | fuel + 1, ch :: rest, p => putEscaped c fuel rest (p.print [ch])

/-- Tells what is wrong with a number. -/
def note (p : Printout) (c : Call) (argument : String) : Option NumberFault → Printout
  | none => p
  | some .outOfRange => p.complain c (quotedText argument ++ ": " ++ NumberFault.outOfRange.text)
  | some .missing => p.complain c (quotedText argument ++ ": expected a numeric value")
  | some .unfinished => p.complain c (quotedText argument ++ ": value not completely converted")

/-- The code of the character behind a quote, if an argument is one, and what is ignored of it. -/
def quotedCode? (argument : String) : Option (Nat × List Char) :=
  match argument.toList with
  | q :: ch :: rest => if q = '\'' ∨ q = '"' then some (ch.toNat, rest) else none
  | _ => none

/-- The value of an argument: the code of a quoted character, or a number that is read. -/
def valueOf {α : Type} (p : Printout) (c : Call) (argument : String) (ofCode : Nat → α)
    (read : String → α × Option NumberFault) : α × Printout :=
  match quotedCode? argument with
  | some (code, rest) =>
    let p := if rest = [] ∨ (c.environment.get? "POSIXLY_CORRECT").isSome then p
      else { p with writes := c.message ("warning: " ++ String.ofList rest ++
        ": character(s) following character constant have been ignored") :: p.writes }
    (ofCode code, p)
  | none =>
    let (value, fault) := if argument = "'" ∨ argument = "\"" then
        ((read "").1, some .missing) else read argument
    (value, p.note c argument fault)

/-- A whole number that an argument gives. -/
def whole (p : Printout) (c : Call) (isSigned : Bool) (argument : String) : Int × Printout :=
  p.valueOf c argument Int.ofNat (wholeNumber isSigned)

/-- A number with places that an argument gives. -/
def real (p : Printout) (c : Call) (argument : String) : Decimal.Double × Printout :=
  p.valueOf c argument (.finite false · 0) fun text =>
    match spelledFigure text.toList with
    | (none, rest) => (.finite false 0 0, numberFault? true (!rest.isEmpty) false)
    | (some figure, rest) =>
      let x := figure.wide
      let tooLarge := match x with
        | .infinite _ => text.toList.any Char.isDigit
        | _ => false
      (x, numberFault? false (!rest.isEmpty) tooLarge)

/-- Prints an argument by a conversion. -/
def convert (p : Printout) (c : Call) (conversion : Conversion) : Printout :=
  let (argument, p) := p.argument
  match conversion.letter with
  | 's' => p.print (conversion.text argument.toList)
  | 'c' => p.print (conversion.field false [] [argument.toList.headD '\x00'])
  | 'd' | 'i' | 'o' | 'u' | 'x' | 'X' =>
    let (n, p) := p.whole c (conversion.letter = 'd' || conversion.letter = 'i') argument
    p.print (conversion.integer n)
  | _ =>
    let (x, p) := p.real c argument
    p.print ({ conversion with isWide := true }.real x)

/-- The letters of conversions that go with some flags. -/
def lettersFor (flags : List Char) (hasPrecision : Bool) : List Char :=
  let excluded := (if flags.contains '\'' ∨ flags.contains 'I' then "aAceEosxX".toList else []) ++
    (if flags.contains '#' then "cdisu".toList else []) ++
    (if flags.contains '0' then "cs".toList else []) ++ (if hasPrecision then ['c'] else [])
  "aAcdeEfFgGiosuxX".toList.filter fun l => !excluded.contains l

/-- A number in a conversion that is an argument or stands there. -/
def measure (p : Printout) (c : Call) (cs : List Char) : Option (Int × String) × List Char × Printout :=
  match cs with
  | '*' :: rest =>
    if p.left = [] then (some (0, ""), rest, p)
    else
      let (argument, p) := p.argument
      let (n, p) := p.whole c true argument
      (some (n, argument), rest, p)
  | _ =>
    let digits := cs.takeWhile Char.isDigit
    (if digits = [] then none else some (ofDigits 10 digits, ""), cs.drop digits.length, p)

/-- Prints by the conversion at the front of a format, seen from behind its percent sign. -/
def direct (p : Printout) (c : Call) (cs : List Char) : List Char × Printout :=
  let flags := cs.takeWhile fun ch => ch ∈ ['#', '-', '+', ' ', '0', '\'', 'I']
  let (width, after, p) := p.measure c (cs.drop flags.length)
  let hasPrecision := after.head? == some '.'
  let (precision, after, p) := if hasPrecision then p.measure c (after.drop 1) else (none, after, p)
  let after := after.dropWhile fun ch => ch ∈ ['l', 'L', 'h', 'j', 't', 'z']
  let most : Int := 2147483647
  let (w, widthText) := width.getD (0, "")
  let (n, precisionText) := precision.getD (0, "")
  if w < -most - 1 ∨ most < w then
    ([], p.refuse c ("invalid field width: " ++ quotedText widthText))
  else if most < n then ([], p.refuse c ("invalid precision: " ++ quotedText precisionText))
  else
    match after with
    | [] => ([], p.refuse c ("%" ++ String.ofList cs ++ ": invalid conversion specification"))
    | letter :: rest =>
      if (lettersFor flags hasPrecision).contains letter then
        (rest, p.convert c {
          flags := if w < 0 then '-' :: flags else flags, width := w.natAbs
          precision := if hasPrecision ∧ 0 ≤ n then some n.toNat else none, letter := letter })
      else
        ([], p.refuse c ("%" ++ String.ofList (cs.take (cs.length - rest.length)) ++
          ": invalid conversion specification"))

/-- Applies a format once. -/
def once (c : Call) : Nat → List Char → Printout → Printout
  | 0, _, p => p
  | _, [], p => p
  | fuel + 1, ch :: rest, p =>
    if p.stopped then p
    else if ch = '\\' then
      let (escaped, rest) := fullEscape false rest
      once c fuel rest (p.put c escaped)
    else if ch ≠ '%' then
      let plain := (ch :: rest).takeWhile fun ch => ch ≠ '\\' ∧ ch ≠ '%'
      once c fuel (rest.drop (plain.length - 1)) (p.print plain)
    else
      match rest with
      | '%' :: rest => once c fuel rest (p.print ['%'])
      | 'b' :: rest =>
        let (argument, p) := p.argument
        once c fuel rest (putEscaped c (argument.length + 1) argument.toList p)
      | 'q' :: rest =>
        let (argument, q) := p.argument
        once c fuel rest (if p.left = [] then p else q.print (shownName argument).toList)
      | rest =>
        let (rest, p) := p.direct c rest
        once c fuel rest p

/-- Applies a format until no arguments are left or it uses none. -/
def all (c : Call) (format : List Char) : Nat → Printout → Printout
  | 0, p => p
  | fuel + 1, p =>
    let q := once c (format.length + 1) format p
    if q.stopped ∨ q.left = [] then q
    else if q.left.length < p.left.length then all c format fuel q
    else { q with writes := c.message ("warning: ignoring excess arguments, starting with " ++
      quotedText (q.left.headD "")) :: q.writes }

end Printout

namespace Call

/-- Prints arguments by a format. -/
def printf (c : Call) : Progress :=
  match if c.arguments.head? = some "--" then c.arguments.drop 1 else c.arguments with
  | [] => c.misused 1 "missing operand"
  | format :: arguments =>
    let p := Printout.all c format.toList (arguments.length + 1) { left := arguments }
    c.ends p.status p.writes.reverse

/-- A text with its escapes replaced, and whether `\c` has ended it. Characters are not named by
their codes here except by two hexadecimal digits. -/
def replaced : Nat → List Char → List Char × Bool
  | 0, _ => ([], false)
  | _, [] => ([], false)
  | fuel + 1, c :: rest =>
    let more := fun (front rest : List Char) =>
      let (back, stop) := replaced fuel rest
      (front ++ back, stop)
    let isPlain := match rest with
      | [] => true
      | 'x' :: digits => !digits.head?.any isHexadecimal
      | next :: _ => ['"', 'u', 'U'].contains next
    if c ≠ '\\' ∨ isPlain = true then more [c] rest
    else
      match fullEscape true rest with
      | (.shown cs, rest) => more cs rest
      | _ => ([], true)

/-- Prints arguments; options choose whether a line end follows and escapes have a meaning. -/
def echo (c : Call) : Progress :=
  let strict := (c.environment.get? "POSIXLY_CORRECT").isSome
  let isOption := fun (a : String) =>
    match a.toList with
    | '-' :: l :: ls => (l :: ls).all fun x => x ∈ ['n', 'e', 'E']
    | _ => false
  let options := if strict ∧ c.arguments.head? ≠ some "-n" then []
    else c.arguments.takeWhile isOption
  let flags := options.flatMap fun a => a.toList.drop 1
  let text := " ".intercalate (c.arguments.drop options.length)
  let escapes := strict || (flags.reverse.find? fun x => x ∈ ['e', 'E']) == some 'e'
  let (shown, stop) := if escapes then replaced (text.length + 1) text.toList
    else (text.toList, false)
  c.prints (String.ofList (if flags.contains 'n' ∨ stop then shown else shown ++ ['\n']))

/-- The variables of an environment, one on each line. -/
def shownEnvironment (environment : Variables) (ending : Char) : String :=
  String.join (environment.map fun (name, value) =>
    name ++ "=" ++ value ++ String.ofList [ending])

/-- Prints variables of the environment, or all of it. -/
def printenv (c : Call) : Progress :=
  c.withOptions 2 { letters := "0", names := [("null", '0')], anywhere := false } fun o =>
    let ending := if o.has '0' then '\x00' else '\n'
    match o.operands with
    | [] => c.prints (shownEnvironment c.environment ending)
    | names =>
      let found := names.filterMap c.environment.get?
      let text := String.join (found.map fun value => value ++ String.ofList [ending])
      c.ends (if found.length = names.length then 0 else 1) [(1, toBytes text.toList)]

/-- Prints a line again and again. -/
def yes (c : Call) : Progress :=
  c.withOptions 1 { letters := "" } fun o =>
    let line := toBytes ((if o.operands = [] then "y" else " ".intercalate o.operands) ++ "\n").toList
    let count := (c.made + 16384) / line.length + 1
    ⟨[(1, (List.replicate count line).flatten)], c.files, .again⟩

end Call

end NativeBuild.Machine
