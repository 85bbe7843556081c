import NativeBuild.Machine.Format
import NativeBuild.Machine.Utility.Deed
import NativeBuild.Machine.VersionOrder

/-
  Putting lines in order. A line is compared by parts of it, the keys, one after the other; each key
  has a way of its own to be compared. Lines of equal keys are compared as they are in the end,
  unless the order in which they came is to be kept.
-/

namespace NativeBuild.Machine.Call

/-- What a line is ordered by: a part of it, and how parts are compared. -/
structure SortKey where
  /-- How many fields, and how many characters behind them, come before the part. -/
  firstField : Nat := 0
  firstCharacter : Nat := 0
  /-- The last field, counted from one, and the last character in it, where zero is its end. -/
  last : Option (Nat × Nat) := none
  skipsBlanks : Bool := false
  skipsEndBlanks : Bool := false
  letters : List Char := []
  deriving Repr, DecidableEq

/-- Letters for ways to compare, in the order in which they are named. -/
def orderingLetters : List Char := ['d', 'f', 'g', 'h', 'i', 'M', 'n', 'R', 'V', 'r']

/-- A number in a field, and what follows it. -/
def fieldNumber (what : String) (text : String) (cs : List Char) :
    Except String (Nat × List Char) :=
  let digits := cs.takeWhile Char.isDigit
  if digits = [] then
    .error (what ++ ": invalid count at start of " ++ quotedText (String.ofList cs))
  else
    let _ := text
    .ok (ofDigits 10 digits, cs.drop digits.length)

/-- Puts the letters of one end of a key into it. -/
def keyLetters (k : SortKey) (isEnd : Bool) : List Char → SortKey × List Char
  | c :: rest =>
    if c = 'b' then
      keyLetters (if isEnd then { k with skipsEndBlanks := true } else { k with skipsBlanks := true })
        isEnd rest
    else if orderingLetters.contains c then
      keyLetters { k with letters := k.letters ++ [c] } isEnd rest
    else (k, c :: rest)
  | [] => (k, [])

/-- Reads a key. -/
def sortKey (text : String) : Except String SortKey := do
  let bad := fun (what : String) => what ++ ": invalid field specification " ++ quotedText text
  let (field, rest) ← fieldNumber "invalid number at field start" text text.toList
  if field = 0 then throw (bad "field number is zero")
  let (character, rest) ← match rest with
    | '.' :: rest => fieldNumber "invalid number after '.'" text rest
    | rest => pure (1, rest)
  if character = 0 then throw (bad "character offset is zero")
  let (k, rest) := keyLetters { firstField := field - 1, firstCharacter := character - 1 } false rest
  match rest with
  | [] => return k
  | ',' :: rest => do
    let (field, rest) ← fieldNumber "invalid number after ','" text rest
    if field = 0 then throw (bad "field number is zero")
    let (character, rest) ← match rest with
      | '.' :: rest => fieldNumber "invalid number after '.'" text rest
      | rest => pure (0, rest)
    let (k, rest) := keyLetters { k with last := some (field, character) } true rest
    if rest ≠ [] then throw (bad "stray character in field spec")
    return k
  | _ => throw (bad "stray character in field spec")

/-- A byte that separates words. -/
def isBlankByte (b : UInt8) : Bool := b == 32 || b == 9 || b == 10

/-- Where a line goes on behind so many fields. -/
def behindFields (separator : Option UInt8) : Nat → List UInt8 → Nat
  | 0, _ => 0
  | n + 1, line =>
    match separator with
    | some t =>
      let front := (line.takeWhile (· != t)).length
      let step := if front < line.length then front + 1 else front
      step + behindFields separator n (line.drop step)
    | none =>
      let blanks := (line.takeWhile isBlankByte).length
      let step := blanks + ((line.drop blanks).takeWhile (!isBlankByte ·)).length
      step + behindFields separator n (line.drop step)

/-- The part of a line that a key names. -/
def keyPart (separator : Option UInt8) (k : SortKey) (line : List UInt8) : List UInt8 :=
  let blanksFrom := fun (place : Nat) => ((line.drop place).takeWhile isBlankByte).length
  let start := behindFields separator k.firstField line
  let start := if k.skipsBlanks then start + blanksFrom start else start
  let start := min line.length (start + k.firstCharacter)
  let stop := match k.last with
    | none => line.length
    | some (field, 0) =>
      let stop := behindFields separator field line
      -- The separator behind the last field is no part of it.
      if separator.isSome ∧ separator = (line.drop (stop - 1)).head? ∧
          behindFields separator (field - 1) line < stop then stop - 1 else stop
    | some (field, character) =>
      let stop := behindFields separator (field - 1) line
      let stop := if k.skipsEndBlanks then stop + blanksFrom stop else stop
      min line.length (stop + character)
  (line.take stop).drop start

/-- A number in front of a text: its sign, and its digits before and after the point. -/
def leadingDigits (cs : List Char) : Bool × Nat × List Char × List Char :=
  let (negative, cs) := match cs with
    | '-' :: rest => (true, rest)
    | cs => (false, cs)
  let whole := cs.takeWhile Char.isDigit
  let rest := cs.drop whole.length
  let (places, rest) := match rest with
    | '.' :: more =>
      let places := more.takeWhile Char.isDigit
      (places, more.drop places.length)
    | rest => ([], rest)
  (negative, ofDigits 10 whole, (places.reverse.dropWhile (· == '0')).reverse, rest)

/-- The order of the numbers in front of two texts. -/
def compareNumbers (a b : List Char) : Ordering :=
  let (s, m, x, _) := leadingDigits a
  let (t, n, y, _) := leadingDigits b
  let isZero := fun (m : Nat) (x : List Char) => m == 0 && x.isEmpty
  let order := (compare m n).then (if x < y then .lt else if y < x then .gt else .eq)
  match s && !isZero m x, t && !isZero n y with
  | false, false => order
  | true, true => order.swap
  | true, false => .lt
  | false, true => .gt

/-- The rank of the unit behind a number: higher units come later, and before for negative ones. -/
def unitRank (cs : List Char) : Int :=
  let (negative, m, x, rest) := leadingDigits cs
  let rank : Int := match rest.head? with
    | some 'k' => 1
    | some c => ((("KMGTPEZY".toList).idxOf? c).elim 0 (· + 1) : Nat)
    | none => 0
  if m = 0 ∧ x = [] then 0 else if negative then -rank else rank

/-- The place of a month in the year, from one on; zero for what is none. -/
def monthRank (cs : List Char) : Nat :=
  let name := String.ofList ((cs.take 3).map Char.toUpper)
  (["JAN", "FEB", "MAR", "APR", "MAY", "JUN", "JUL", "AUG", "SEP", "OCT", "NOV", "DEC"].idxOf?
    name).elim 0 (· + 1)

/-- The order of numbers of any notation; what is no number comes first, then what is none. -/
def compareReals (a b : List Char) : Ordering :=
  let real := fun (cs : List Char) => (spelledReal cs).1.map Decimal.Double.toFloat
  match real a, real b with
  | none, none => .eq
  | none, _ => .lt
  | _, none => .gt
  | some x, some y =>
    if x < y then .lt else if y < x then .gt else if x == y then .eq
    else if x.isNaN ∧ y.isNaN then .eq else if x.isNaN then .lt else .gt

/-- The order of two texts as they are. -/
def compareBytes (a b : List UInt8) : Ordering :=
  if a.map UInt8.toNat < b.map UInt8.toNat then .lt
  else if b.map UInt8.toNat < a.map UInt8.toNat then .gt else .eq

/-- The order of two parts of lines, as letters ask for it. -/
def compareParts (letters : List Char) (a b : List UInt8) : Ordering :=
  let reduced := fun (bytes : List UInt8) =>
    let cs := ofBytes bytes
    let cs := if letters.contains 'd' then
        cs.filter fun ch => isLetter ch || ch.isDigit || ch == ' ' || ch == '\t' || ch == '\n'
      else if letters.contains 'i' then cs.filter fun ch => ' ' ≤ ch && ch ≤ '~'
      else cs
    if letters.contains 'f' then cs.map Char.toUpper else cs
  let x := reduced a
  let y := reduced b
  let trimmed := fun (cs : List Char) => cs.dropWhile fun c => c == ' ' || c == '\t' || c == '\n'
  let order := if letters.contains 'n' then compareNumbers (trimmed x) (trimmed y)
    else if letters.contains 'g' then compareReals x y
    else if letters.contains 'h' then
      (compare (unitRank (trimmed x)) (unitRank (trimmed y))).then
        (compareNumbers (trimmed x) (trimmed y))
    else if letters.contains 'M' then compare (monthRank (trimmed x)) (monthRank (trimmed y))
    else if letters.contains 'V' then compareVersionTexts x y
    else compareBytes (toBytes x) (toBytes y)
  if letters.contains 'r' then order.swap else order

/-- How lines are put in order. -/
structure SortTask where
  keys : List SortKey
  separator : Option UInt8
  /-- Lines of equal keys stay as they came. -/
  stable : Bool
  unique : Bool
  reverse : Bool

namespace SortTask

/-- The order of two lines by their keys. -/
def byKeys (t : SortTask) (a b : List UInt8) : Ordering :=
  t.keys.foldl (fun order k => order.then
    (compareParts k.letters (keyPart t.separator k a) (keyPart t.separator k b))) .eq

/-- The order of two lines. -/
def compare (t : SortTask) (a b : List UInt8) : Ordering :=
  let order := t.byKeys a b
  if t.unique ∨ t.stable then order
  else order.then (if t.reverse then (compareBytes a b).swap else compareBytes a b)

/-- Lines in order, equal ones as they came; only the first of equal ones if that is asked for. -/
def arranged (t : SortTask) (lines : List (List UInt8)) : List (List UInt8) :=
  let sorted := lines.mergeSort fun a b => t.compare a b != .gt
  if t.unique = false then sorted
  else (sorted.foldl (fun (kept : List (List UInt8)) line =>
    match kept with
    | last :: _ => if t.compare last line == .eq then kept else line :: kept
    | [] => [line]) []).reverse

/-- Two lists of lines put together: the smaller of the first lines goes first. -/
def mergeTwo (t : SortTask) : Nat → List (List UInt8) → List (List UInt8) → List (List UInt8)
  | 0, a, b => a ++ b
  | _, [], b => b
  | _, a, [] => a
  | fuel + 1, x :: a, y :: b =>
    if t.compare x y == .gt then y :: mergeTwo t fuel (x :: a) b
    else x :: mergeTwo t fuel a (y :: b)

/-- Lists of lines put together. -/
def merged (t : SortTask) (lists : List (List (List UInt8))) : List (List UInt8) :=
  let all := lists.foldl (fun a b => t.mergeTwo (a.length + b.length) a b) []
  if t.unique then
    (all.foldl (fun (kept : List (List UInt8)) line =>
      match kept with
      | last :: _ => if t.compare last line == .eq then kept else line :: kept
      | [] => [line]) []).reverse
  else all

end SortTask

/-- The letters of ways to compare that do not go together. -/
def clashingLetters (k : SortKey) : Option String :=
  let kinds := ['n', 'g', 'h', 'M'].filter k.letters.contains
  let texts := ['V', 'R', 'd', 'i'].any k.letters.contains
  if 1 < kinds.length + (if texts then 1 else 0) then
    some (String.ofList (['d', 'f', 'g', 'h', 'i', 'M', 'n', 'R', 'V'].filter k.letters.contains))
  else none

/-- The letter that a word for a way to compare stands for. -/
def orderWord? (word : String) : Option Char :=
  let words := [("general-numeric", 'g'), ("human-numeric", 'h'), ("month", 'M'), ("numeric", 'n'),
    ("random", 'R'), ("version", 'V')]
  match words.filter fun w => word.toList.isPrefixOf w.1.toList with
  | [(_, letter)] => some letter
  | _ => none

/-- The byte that separates fields. -/
def separatorOf (o : Options) : Except String (Option UInt8) :=
  let texts := (o.given.filter (·.1 == 't')).map (·.2)
  let one : String → Except String UInt8 := fun text => match toBytes text.toList with
    | [] => .error "empty tab"
    | [b] => .ok b
    | _ => if text = "\\0" then .ok 0
      else .error ("multi-character tab " ++ quotedText text)
  match texts.mapM one with
  | .error text => .error text
  | .ok [] => .ok none
  | .ok (b :: bs) => if bs.all (· == b) then .ok (some b) else .error "incompatible tabs"

/-- Puts lines in order. -/
def sort (c : Call) : Progress :=
  let g : Grammar := {
    letters := "bcCdfghik:mMnro:RsS:t:T:uVzα:β::γ:δ"
    names := [("ignore-leading-blanks", 'b'), ("check", 'β'), ("ignore-case", 'f'),
      ("dictionary-order", 'd'), ("ignore-nonprinting", 'i'), ("month-sort", 'M'),
      ("numeric-sort", 'n'), ("general-numeric-sort", 'g'), ("random-sort", 'R'), ("reverse", 'r'),
      ("key", 'k'), ("merge", 'm'), ("output", 'o'), ("stable", 's'), ("field-separator", 't'),
      ("unique", 'u'), ("human-numeric-sort", 'h'), ("version-sort", 'V'), ("sort", 'α'),
      ("buffer-size", 'S'), ("temporary-directory", 'T'), ("zero-terminated", 'z'),
      ("parallel", 'γ'), ("debug", 'δ')] }
  c.withOptions 2 g fun o =>
    let words := o.given.map fun (letter, value) =>
      if letter = 'α' then match orderWord? value with
        | some l => .ok (l, "")
        | none => .error value
      else if letter = 'β' then
        .ok (if ["quiet", "silent"].contains value then ('C', "") else ('c', ""))
      else (.ok (letter, value) : Except String (Char × String))
    match words.findSome? fun w => match w with
      | .error text => some text
      | .ok _ => none with
    | some text =>
      c.ends 2 [c.message ("invalid argument " ++ quotedText text ++ " for '--sort'"),
        (2, toBytes ("Valid arguments are:\n" ++ String.join (["general-numeric", "human-numeric",
          "month", "numeric", "random", "version"].map fun w => "  - '" ++ w ++ "'\n")).toList),
        c.advice]
    | none =>
    let o : Options := { o with given := words.filterMap Except.toOption }
    let keyTexts := (o.given.filter (·.1 == 'k')).map (·.2)
    let whole : SortKey := {
      letters := orderingLetters.filter o.has, skipsBlanks := o.has 'b', skipsEndBlanks := o.has 'b' }
    let inherited := fun (k : SortKey) =>
      if k.letters = [] ∧ !k.skipsBlanks ∧ !k.skipsEndBlanks then
        { k with letters := whole.letters, skipsBlanks := whole.skipsBlanks
                 skipsEndBlanks := whole.skipsEndBlanks }
      else k
    match keyTexts.mapM sortKey, separatorOf o with
    | .error text, _ => c.fails 2 text
    | _, .error text => c.fails 2 text
    | .ok keys, .ok separator =>
      let keys := if keys = [] then [whole] else keys.map inherited
      let checks := o.has 'c' || o.has 'C'
      match keys.findSome? clashingLetters with
      | some letters => c.fails 2 ("options '-" ++ letters ++ "' are incompatible")
      | none =>
        if o.has 'c' ∧ o.has 'C' then c.fails 2 "options '-cC' are incompatible"
        else if checks ∧ o.has 'o' then
          c.fails 2 ("options '-" ++ (if o.has 'c' then "c" else "C") ++ "o' are incompatible")
        else if checks ∧ 1 < o.operands.length then
          c.fails 2 ("extra operand " ++ quotedText (o.operands.getD 1 "") ++ " not allowed with -" ++
            (if o.has 'c' then "c" else "C"))
        else
          let (contents, complete) := c.load o.operands
          match contents.findSome? fun (name, content) => content.fault?.map fun text => (name, text) with
          | some (name, text) =>
            if text = Errno.isDirectory.text then
              c.fails 2 ("read failed: " ++ shownName name ++ ": " ++ text)
            else c.fails 2 ("cannot read: " ++ shownName name ++ ": " ++ text)
          | none =>
            if complete = false then c.waits []
            else
              let stop : UInt8 := if o.has 'z' then 0 else 10
              let lists := contents.map fun (_, content) => (linesOf true content.data stop).1
              let task : SortTask := {
                keys := keys, separator := separator, stable := o.has 's', unique := o.has 'u'
                reverse := o.has 'r' }
              if checks then
                let lines := lists.flatten
                let pairs := (lines.zip (lines.drop 1)).zipIdx
                match pairs.find? fun ((a, b), _) =>
                  task.compare a b == .gt || (o.has 'u' && task.compare a b == .eq) with
                | none => c.ends 0 []
                | some ((_, b), k) =>
                  if o.has 'C' then c.ends 1 []
                  else c.ends 1 [(2, toBytes (c.title ++ ": " ++ o.operands.headD "-" ++ ":" ++
                    toString (k + 2) ++ ": disorder: ").toList ++ b ++ [10])]
              else
                let sorted := if o.has 'm' then task.merged lists else task.arranged lists.flatten
                let output := unlines sorted false stop
                match o.value? 'o' with
                | none => c.ends 0 [(1, output)]
                | some path =>
                  match c.files.writeFile c.cwd (outward path) output c.newMode false with
                  | .ok files => ⟨[], files, .done 0 0⟩
                  | .error e => c.fails 2 ("open failed: " ++ shownName path ++ ": " ++ e.text)

end NativeBuild.Machine.Call
