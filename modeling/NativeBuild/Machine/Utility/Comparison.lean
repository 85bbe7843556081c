import NativeBuild.Machine.Utility.Amount
import NativeBuild.Machine.Utility.Deed

/-
  The comparison of two files byte by byte: `cmp` tells the first place where they differ, or all of
  them, or only whether there is one.
-/

namespace NativeBuild.Machine.Call

/-- What is told of two files that differ. -/
inductive Telling where
  | firstPlace
  | allPlaces
  | nothing
  deriving Repr, DecidableEq

/-- A byte as it is shown beside its number. -/
def byteSign (b : UInt8) : String :=
  let low := b &&& 127
  let front := if 128 ≤ b then "M-" else ""
  if 32 ≤ b ∧ b < 127 then String.ofList (ofBytes [b])
  else if low < 32 then front ++ "^" ++ String.ofList (ofBytes [low + 64])
  else if low = 127 then front ++ "^?"
  else front ++ String.ofList (ofBytes [low])

/-- A byte as an octal number of three places. -/
def octalByte (b : UInt8) : String := String.ofList (padLeft ' ' 3 (Nat.toDigits 8 b.toNat))

/-- The number at the start of a text, as digits of a base that it tells itself, with a unit; and
what stands behind it. -/
def basedAmount? (text : List Char) : Option (Nat × List Char) :=
  let cs := text.dropWhile isSpace
  let cs := if cs.head? = some '+' then cs.drop 1 else cs
  let (base, cs) := match cs with
    | '0' :: 'x' :: rest | '0' :: 'X' :: rest => (16, rest)
    | '0' :: _ => (8, cs)
    | _ => (10, cs)
  let digits := cs.takeWhile fun c => (c.isDigit || isLetter c) && digitValue c < base
  if digits = [] then none
  else
    let rest := cs.drop digits.length
    let unit := rest.takeWhile (· ≠ ':')
    (unitSize? "kKMGTPEZY0" unit).map fun size => (ofDigits base digits * size, rest.drop unit.length)

/-- How much an argument skips: a number for each file, or one for both; or the part of it that is
no number. -/
def skips (text : String) : Except String (Nat × Nat) :=
  match basedAmount? text.toList with
  | some (first, []) => .ok (first, first)
  | some (first, _ :: rest) =>
    match basedAmount? rest with
    | some (second, []) => .ok (first, second)
    | _ => .error (String.ofList rest)
  | none => .error text

/-- What is asked for when bytes are compared. -/
structure ByteRequest where
  telling : Telling := .firstPlace
  showsBytes : Bool := false
  skips : Nat × Nat := (0, 0)
  limit : Option Nat := none

namespace ByteRequest

/-- Takes an option, or tells why it cannot be taken. -/
def take (r : ByteRequest) (letter : Char) (value : String) : Except String ByteRequest :=
  let tell := fun (telling : Telling) =>
    if r.telling = .firstPlace ∨ r.telling = telling then
      Except.ok ({ r with telling := telling } : ByteRequest)
    else .error "options -l and -s are incompatible"
  match letter with
  | 'l' => tell .allPlaces
  | 's' => tell .nothing
  | 'i' =>
    match Call.skips value with
    | .ok (a, b) => .ok { r with skips := (max a r.skips.1, max b r.skips.2) }
    | .error text => .error ("invalid --ignore-initial value '" ++ text ++ "'")
  | 'n' =>
    match basedAmount? value.toList with
    | some (n, []) => .ok { r with limit := some (min n (r.limit.getD n)) }
    | _ => .error ("invalid --bytes value '" ++ value ++ "'")
  | _ => .ok { r with showsBytes := true }

/-- The bytes of a file that are compared. -/
def kept (r : ByteRequest) (skip : Nat) (data : List UInt8) : List UInt8 :=
  let rest := data.drop skip
  match r.limit with
  | some n => rest.take n
  | none => rest

/-- What is told of the first place where two files differ. -/
def firstPlace (r : ByteRequest) (names : String × String) (place line : Nat) (a b : UInt8) : String :=
  names.1 ++ " " ++ names.2 ++ " differ: " ++ (if r.showsBytes then "byte " else "char ") ++
    toString place ++ ", line " ++ toString line ++
    (if r.showsBytes then " is " ++ octalByte a ++ " " ++ byteSign a ++ " " ++ octalByte b ++ " " ++
      byteSign b else "") ++ "\n"

/-- What is told of a place among others. -/
def laterPlace (r : ByteRequest) (width place : Nat) (a b : UInt8) : String :=
  let first := if r.showsBytes then
      " " ++ String.ofList (padRight 4 (byteSign a).toList) else ""
  String.ofList (padLeft ' ' width (decimal place)) ++ " " ++ octalByte a ++ first ++ " " ++
    octalByte b ++ (if r.showsBytes then " " ++ byteSign b else "") ++ "\n"

/-- What is told of a file that ends early. The line is told if nothing differs before. -/
def earlyEnd (r : ByteRequest) (name : String) (common : List UInt8) : String :=
  let place := if common = [] then " which is empty" else " after byte " ++ toString common.length
  let line := if common = [] ∨ r.telling ≠ .firstPlace then ""
    else
      let ends := common.count 10
      if common.getLast? = some 10 then ", line " ++ toString ends
      else ", in line " ++ toString (ends + 1)
  "cmp: EOF on " ++ name ++ place ++ line ++ "\n"

end ByteRequest

/-- Compares what has come of two files. -/
def compareData (c : Call) (r : ByteRequest) (names : String × String) (width : Nat)
    (left right : List UInt8) (moreLeft moreRight : Bool) : Progress :=
  let pairs := left.zip right
  let same := (pairs.takeWhile fun (a, b) => a == b).length
  let short := if left.length ≤ right.length then left else right
  let cut := left.length ≠ right.length
  let shortName := if left.length < right.length then names.1 else names.2
  let goesOn := if left.length < right.length then moreLeft
    else if right.length < left.length then moreRight else moreLeft || moreRight
  if same < pairs.length ∧ r.telling ≠ .allPlaces then
    match pairs[same]? with
    | some (a, b) =>
      c.ends 1 (if r.telling = .nothing then []
        else [(1, toBytes (r.firstPlace names (same + 1) ((left.take same).count 10 + 1) a b).toList)])
    | none => c.ends 1 []
  else if goesOn then c.waits []
  else
    let shown := if r.telling = .allPlaces then pairs.zipIdx.flatMap fun ((a, b), k) =>
        if a = b then [] else toBytes (r.laterPlace width (k + 1) a b).toList
      else []
    let ending := if cut ∧ r.telling ≠ .nothing then
        [(2, toBytes (r.earlyEnd shortName short).toList)] else []
    let places := if shown = [] then [] else [(1, shown)]
    c.ends (if cut ∨ same < pairs.length then 1 else 0) (ending ++ places)

/-- Compares two files of which a request is known. -/
def compareFiles (c : Call) (r : ByteRequest) (names : String × String) : Progress :=
  let order := if names.2 = "-" then [names.2, names.1] else [names.1, names.2]
  let faults := order.filterMap fun name => match c.content name with
    | .fault text => some (name, text)
    | _ => none
  let unopened := faults.find? fun fault => fault.2 != Errno.isDirectory.text
  let numberOf := fun (name : String) => (c.statusIn c.files true name).toOption.map Status.number
  let areSame := r.skips.1 == r.skips.2 && (names.1 == names.2 ||
    !isInput names.1 && (numberOf names.1).isSome && numberOf names.1 == numberOf names.2)
  match unopened, areSame, faults with
  | some (name, text), _, _ =>
    c.ends 2 (if r.telling = .nothing then [] else [c.message (name ++ ": " ++ text)])
  | none, true, _ => c.ends 0 []
  | none, false, (name, text) :: _ => c.fails 2 (name ++ ": " ++ text)
  | none, false, [] =>
    let isEndless := fun (name : String) => c.content name == .endless
    let data := fun (name other : String) => match c.content name with
      | .bytes data => data
      | _ => List.replicate ((c.content other).data.length + r.skips.1 + r.skips.2 + 1) 0
    if isEndless names.1 && isEndless names.2 && r.limit.isNone then c.waits []
    else
    let left := r.kept r.skips.1 (data names.1 names.2)
      let right := r.kept r.skips.2 (data names.2 names.1)
      let isFull := fun (data : List UInt8) => r.limit.any (· ≤ data.length)
      let sizeOf := fun (name : String) (skip : Nat) =>
        if isInput name then (if name = "-" then c.inputSize.map (· - skip) else none)
        else
          match c.statusIn c.files true name with
          | .ok ⟨_, .file content _, _⟩ =>
            if (markedDevice? content).isSome then none else some (content.length - skip)
          | _ => none
      let longest := ((sizeOf names.1 r.skips.1).toList ++ (sizeOf names.2 r.skips.2).toList).foldl min
        (min (r.limit.getD (Nat.pow 2 63 - 1)) (Nat.pow 2 63 - 1))
      c.compareData r names (decimal longest).length left right
        ((c.isPending names.1 || isEndless names.1) && !isFull left)
        ((c.isPending names.2 || isEndless names.2) && !isFull right)

/-- Compares two files byte by byte. -/
def cmp (c : Call) : Progress :=
  let g : Grammar := {
    letters := "bci:ln:sv"
    names := [("print-bytes", 'b'), ("print-chars", 'c'), ("ignore-initial", 'i'), ("verbose", 'l'),
      ("bytes", 'n'), ("silent", 's'), ("quiet", 's')] }
  match g.read (c.arguments.length + 1) c.arguments [] [] with
  | .error fault => c.misusedByName 2 fault.text
  | .ok o =>
    let taken := o.given.foldlM (fun (r : ByteRequest) (letter, value) => r.take letter value) {}
    match taken, o.operands with
    | .error text, _ => c.misusedByName 2 text
    | .ok _, [] =>
      c.misusedByName 2 ("missing operand after '" ++ (c.arguments.getLast?).getD c.title ++ "'")
    | .ok r, a :: rest =>
      let b := rest.headD "-"
      let skip := fun (known : Nat) (text : Option String) => match text with
        | none => Except.ok known
        | some text =>
          match basedAmount? text.toList with
          | some (n, []) => .ok (max known n)
          | _ => .error text
      match rest.drop 3, skip r.skips.1 rest[1]?, skip r.skips.2 rest[2]? with
      | _, .error text, _ | _, _, .error text =>
        c.misusedByName 2 ("invalid --ignore-initial value '" ++ text ++ "'")
      | extra :: _, _, _ => c.misusedByName 2 ("extra operand '" ++ extra ++ "'")
      | [], .ok first, .ok second => c.compareFiles { r with skips := (first, second) } (a, b)

end NativeBuild.Machine.Call
