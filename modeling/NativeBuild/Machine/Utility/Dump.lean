import NativeBuild.Machine.Utility.Amount

/-
  Bytes shown as numbers or characters, in rows with their addresses in front.
-/

namespace NativeBuild.Machine.Call

/-- How bytes are shown: the letter of a kind, and how many bytes make a number. -/
structure DumpFormat where
  kind : Char
  size : Nat
  /-- The characters of the row stand behind the numbers. -/
  showsText : Bool := false

namespace DumpFormat

/-- The width of a number with the blank in front of it. -/
def width (f : DumpFormat) : Nat :=
  match f.kind, f.size with
  | 'c', _ | 'a', _ => 4
  | 'o', 1 => 4
  | 'o', 2 => 7
  | 'o', 4 => 12
  | 'o', _ => 23
  | 'x', n => 2 * n + 1
  | 'd', 1 => 5
  | 'd', 2 => 7
  | 'd', 4 => 12
  | 'd', _ => 21
  | _, 1 => 4
  | _, 2 => 6
  | _, 4 => 11
  | _, _ => 21

/-- The names of bytes that cannot be printed. -/
def byteNames : List String :=
  ["nul", "soh", "stx", "etx", "eot", "enq", "ack", "bel", "bs", "ht", "nl", "vt", "ff", "cr", "so",
    "si", "dle", "dc1", "dc2", "dc3", "dc4", "nak", "syn", "etb", "can", "em", "sub", "esc", "fs",
    "gs", "rs", "us", "sp"]

/-- Some bytes as they are shown. -/
def shown (f : DumpFormat) (bytes : List UInt8) : List Char :=
  let value := bytes.foldr (fun b n => n * 256 + b.toNat) 0
  match f.kind with
  | 'c' =>
    match value with
    | 0 => ['\\', '0']
    | 7 => ['\\', 'a']
    | 8 => ['\\', 'b']
    | 9 => ['\\', 't']
    | 10 => ['\\', 'n']
    | 11 => ['\\', 'v']
    | 12 => ['\\', 'f']
    | 13 => ['\\', 'r']
    | n => if 32 ≤ n ∧ n < 127 then [Char.ofNat n] else padLeft '0' 3 (Nat.toDigits 8 n)
  | 'a' =>
    let n := value % 128
    if n = 127 then "del".toList
    else (byteNames[n]?.map String.toList).getD [Char.ofNat n]
  | 'x' => padLeft '0' (2 * f.size) (Nat.toDigits 16 value)
  | 'o' => padLeft '0' (f.width - 1) (Nat.toDigits 8 value)
  | 'd' =>
    let half := Nat.pow 2 (8 * f.size - 1)
    signed (if half ≤ value then (value : Int) - 2 * half else value)
  | _ => decimal value

/-- Reads the kinds of a text such as `x1c`; a `z` behind one asks for the characters of a row. -/
def read (whole : String) : Nat → List Char → Except String (List DumpFormat)
  | _, [] => .ok []
  | 0, _ => .ok []
  | fuel + 1, k :: rest =>
    let marked := fun (f : DumpFormat) (rest : List Char) =>
      let isMarked := rest.head? == some 'z'
      (read whole fuel (if isMarked then rest.drop 1 else rest)).map
        ({ f with showsText := isMarked } :: ·)
    if k = 'c' ∨ k = 'a' then marked { kind := k, size := 1 } rest
    else if k ∈ ['d', 'o', 'u', 'x'] then
      let letter := [('C', 1), ('S', 2), ('I', 4), ('L', 8)].lookup (rest.headD ' ')
      let digits := rest.takeWhile Char.isDigit
      let size := letter.getD (if digits = [] then 4 else ofDigits 10 digits)
      let rest := if letter.isSome then rest.drop 1 else rest.drop digits.length
      if [1, 2, 4, 8].contains size then marked { kind := k, size := size } rest
      else .error ("invalid type string " ++ quotedText whole ++ ";\nthis system doesn't provide a " ++
        toString size ++ "-byte integral type")
    else .error ("invalid character '" ++ String.ofList [k] ++ "' in type string " ++
      quotedText whole)

end DumpFormat

/-- The kinds that letters stand for as options. -/
def dumpLetters : List (Char × String) :=
  [('a', "a"), ('b', "o1"), ('c', "c"), ('d', "u2"), ('o', "o2"), ('x', "x2"), ('i', "d4"),
    ('s', "d2"), ('l', "d8"), ('h', "x2"), ('B', "o2"), ('D', "u4"), ('H', "x4"), ('I', "d8"),
    ('L', "d8"), ('O', "o4"), ('X', "x4")]

/-- How rows are shown. -/
structure DumpTask where
  formats : List DumpFormat
  width : Nat
  address : Nat → List Char
  /-- The first byte of a number counts most. -/
  highFirst : Bool
  /-- Rows that repeat the one before are shown too. -/
  showsAll : Bool

namespace DumpTask

/-- A row by one of the formats. Numbers stand below each other in all of them. -/
def line (t : DumpTask) (row : List UInt8) (f : DumpFormat) : List Char :=
  let rowWidth := (t.formats.map fun f => f.width * (t.width / f.size)).foldl max 0
  let fields := t.width / f.size
  let pad := rowWidth - f.width * fields
  let shown := (inGroups f.size row.length row).zipIdx.flatMap fun (group, k) =>
    let padded := group ++ List.replicate (f.size - group.length) 0
    let padded := if t.highFirst then padded.reverse else padded
    let left := fields - k
    let extra := pad * left / fields - pad * (left - 1) / fields
    padLeft ' ' (f.width + extra) (f.shown padded)
  if f.showsText then
    padRight rowWidth shown ++ "  >".toList ++
      row.map (fun b => if 32 ≤ b ∧ b < 127 then Char.ofNat b.toNat else '.') ++ ['<']
  else shown

/-- A row in all formats, with its address in front. -/
def row (t : DumpTask) (place : Nat) (bytes : List UInt8) : List Char :=
  let front := t.address place
  let blank := List.replicate front.length ' '
  t.formats.zipIdx.flatMap fun (f, j) =>
    (if j = 0 then front else blank) ++ t.line bytes f ++ ['\n']

/-- All rows. A full row like the one before is left out, and a star stands for all that follow. -/
def text (t : DumpTask) (start : Nat) (bytes : List UInt8) : List Char :=
  let rows := (inGroups t.width (bytes.length + 1) bytes).zipIdx
  let shown := (rows.foldl (fun (taken, previous, starred) (row, k) =>
    if previous == some row && row.length == t.width && !t.showsAll then
      (if starred then taken else ['*', '\n'] :: taken, previous, true)
    else (t.row (start + k * t.width) row :: taken, some row, false))
    (([] : List (List Char)), (none : Option (List UInt8)), false)).1
  let last := t.address (start + bytes.length)
  shown.reverse.flatten ++ if last = [] then [] else last ++ ['\n']

end DumpTask

/-- Shows bytes as numbers or characters. -/
def od (c : Call) : Progress :=
  let g : Grammar := {
    letters := "A:aBbcDdHhIij:LlN:OosS:t:vw::Xxα:"
    names := [("skip-bytes", 'j'), ("address-radix", 'A'), ("read-bytes", 'N'), ("format", 't'),
      ("output-duplicates", 'v'), ("width", 'w'), ("endian", 'α')] }
  let units := "bEGKkMmPTYZ0"
  let refuse := fun (letter : Char) (value : String) =>
    let number := match amount? units value with
      | .ok _ => none
      | .error fault => some (c.fails 1 (match fault with
        | .strange => "invalid suffix in -" ++ String.ofList [letter] ++ " argument " ++ quotedText value
        | .tooLarge => "-" ++ String.ofList [letter] ++ " argument " ++ quotedText value ++ " too large"
        | .invalid => "invalid -" ++ String.ofList [letter] ++ " argument " ++ quotedText value))
    match letter with
    | 'A' => if ["d", "o", "x", "n"].contains (String.ofList (value.toList.take 1)) then none
      else some (c.fails 1 ("invalid output address radix '" ++ String.ofList (value.toList.take 1) ++
        "'; it must be one character from [doxn]"))
    | 'j' | 'N' => number
    | 'w' => if value = "" then none else number
    | 'α' => if ["big", "little"].any fun w => value.toList.isPrefixOf w.toList then none
      else some (c.ends 1 [c.message ("invalid argument " ++ quotedText value ++ " for '--endian'"),
        (2, toBytes "Valid arguments are:\n  - 'little'\n  - 'big'\n".toList), c.advice])
    | _ => none
  c.withChecked 1 g refuse fun o =>
    let wanted := o.given.filterMap fun (letter, value) =>
      if letter = 't' then some value else dumpLetters.lookup letter
    let wanted := if wanted = [] then ["o2"] else wanted
    match wanted.mapM fun text => DumpFormat.read text (text.length + 1) text.toList with
    | .error text => c.fails 1 text
    | .ok read =>
      let formats := read.flatten
      let (contents, complete) := c.load o.operands
      let (bytes, messages) := c.joinContents contents
      let endless := contents.any fun (_, content) => content == .endless
      let number := fun (letter : Char) => (o.value? letter).bind fun v => (amount? units v).toOption
      let limit := number 'N'
      let skip := (number 'j').getD 0
      let bytes := if endless then bytes ++ List.replicate (limit.getD 0) 0 else bytes
      if complete = false then c.waits []
      else if messages ≠ [] ∧ (contents.all fun (_, content) =>
          content.fault?.any (· != Errno.isDirectory.text)) then c.ends 1 messages
      else if bytes.length < skip then
        c.ends 1 (messages ++ [c.message "cannot skip past end of combined input"])
      else
        let bytes := bytes.drop skip
        let bytes := match limit with
          | some n => bytes.take n
          | none => bytes
        let largest := (formats.map DumpFormat.size).foldl max 1
        let asked := (o.value? 'w').map fun v => if v = "" then 32 else (number 'w').getD 16
        let fits := asked.all fun n => n ≠ 0 ∧ n % largest = 0
        let width := if fits then asked.getD 16 else largest
        let warning := if fits then []
          else [c.message ("warning: invalid width " ++ toString (asked.getD 0) ++ "; using " ++
            toString width ++ " instead")]
        let address := fun (n : Nat) => match (o.value? 'A').bind (·.toList.head?) with
          | some 'n' => []
          | some 'd' => padLeft '0' 7 (decimal n)
          | some 'x' => padLeft '0' 6 (Nat.toDigits 16 n)
          | _ => padLeft '0' 7 (Nat.toDigits 8 n)
        let task : DumpTask := {
          formats := formats, width := width, address := address
          highFirst := (o.value? 'α').any fun v => v.toList.head? == some 'b', showsAll := o.has 'v' }
        c.ends (if messages = [] then 0 else 1)
          (warning ++ messages ++ [(1, toBytes (task.text skip bytes))])

end NativeBuild.Machine.Call
