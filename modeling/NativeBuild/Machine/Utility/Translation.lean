import NativeBuild.Machine.Utility.Amount

/-
  Translation of bytes. A set of bytes is written as a list of characters, ranges, classes and
  repetitions; the bytes of one set are replaced by those of another at the same place, deleted, or
  made one where they stand several times in a row.
-/

namespace NativeBuild.Machine.Call

/-- The bytes from one to another. -/
def byteRange (first last : Nat) : List UInt8 :=
  (List.range (last + 1 - first)).map fun k => (first + k).toUInt8

/-- A member of a set of bytes. -/
inductive SetMember where
  | one (b : UInt8)
  | range (first last : UInt8)
  | named (name : String)
  /-- All that counts as equal to a byte, which is only itself. -/
  | equal (b : UInt8)
  /-- A byte so many times; zero times stands for as often as it is needed. -/
  | repeated (b : UInt8) (count : Nat)
  deriving Repr, DecidableEq

namespace SetMember

/-- All bytes in a named class. -/
def classBytes (name : String) : List UInt8 :=
  match characterClasses.lookup name with
  | some test => (byteRange 0 127).filter fun b => test (Char.ofNat b.toNat)
  | none => []

/-- The bytes of a member. -/
def bytes : SetMember → List UInt8
  | one b | equal b => [b]
  | range first last => byteRange first.toNat last.toNat
  | named name => classBytes name
  | repeated b count => List.replicate count b

/-- A member is a class of letters of one case. -/
def isCase : SetMember → Bool
  | named name => name == "upper" || name == "lower"
  | _ => false

/-- A member is a class. -/
def isClass : SetMember → Bool
  | named _ => true
  | _ => false

/-- A member fills up what is missing. -/
def isFilling : SetMember → Bool
  | repeated _ 0 => true
  | _ => false

end SetMember

/-- A character of a set: its byte, and whether it lost its meaning by a backslash. -/
abbrev SetSign := UInt8 × Bool

/-- Reads the escapes of a set; what is odd is noted. -/
def readSigns : Nat → List UInt8 → List SetSign × List String
  | 0, _ => ([], [])
  | _, [] => ([], [])
  | _, [92] =>
    ([(92, false)], ["warning: an unescaped backslash at end of string is not portable"])
  | fuel + 1, 92 :: b :: rest =>
    let isDigit := fun (x : UInt8) => 48 ≤ x && x ≤ 55
    let digits := ((b :: rest).take 3).takeWhile isDigit
    let value := digits.foldl (fun n x => n * 8 + (x.toNat - 48)) 0
    if digits = [] then
      let known := [(97, 7), (98, 8), (102, 12), (110, 10), (114, 13), (116, 9), (118, 11)]
      let (signs, notes) := readSigns fuel rest
      (((known.lookup b).getD b, true) :: signs, notes)
    else if 255 < value then
      let text := fun (digits : List UInt8) => String.ofList (ofBytes digits)
      let note := "warning: the ambiguous octal escape \\" ++ text digits ++
        " is being\n\tinterpreted as the 2-byte sequence \\0" ++ text (digits.take 2) ++ ", " ++
        text (digits.drop 2)
      let (signs, notes) := readSigns fuel ((b :: rest).drop 2)
      ((((value / 8).toUInt8, true)) :: signs, note :: notes)
    else
      let (signs, notes) := readSigns fuel ((b :: rest).drop digits.length)
      ((value.toUInt8, true) :: signs, notes)
  | fuel + 1, b :: rest =>
    let (signs, notes) := readSigns fuel rest
    ((b, false) :: signs, notes)

/-- A byte as messages show it. -/
def shownByte (b : UInt8) : String :=
  if 32 ≤ b ∧ b < 127 then String.ofList [Char.ofNat b.toNat]
  else String.ofList (match controlLetters.lookup (Char.ofNat b.toNat) with
    | some letter => ['\\', letter]
    | none => '\\' :: padLeft '0' 3 (Nat.toDigits 8 b.toNat))

/-- Signs as messages show them. -/
def shownSigns (signs : List SetSign) : String := String.join (signs.map fun s => shownByte s.1)

/-- A repetition behind an opening bracket, and what follows it; nothing if there is none. -/
def repetition? (signs : List SetSign) : Option (Except String (SetMember × List SetSign)) :=
  match signs with
  | (b, _) :: (42, false) :: rest =>
    let inside := rest.takeWhile fun s => s != (93, false) && !s.2
    match rest.drop inside.length with
    | (93, false) :: more =>
      let digits := ofBytes (inside.map (·.1))
      let base := if digits.head? = some '0' then 8 else 10
      if digits.all fun d => digitValue d < base then
        some (.ok (.repeated b (ofDigits base digits), more))
      else some (.error ("invalid repeat count " ++ quotedText (shownSigns inside) ++
        " in [c*n] construct"))
    | _ => none
  | _ => none

/-- What stands between a mark and the mark with a closing bracket behind it, and what follows. -/
def enclosed? (mark : UInt8) : List SetSign → Option (List SetSign × List SetSign)
  | a :: b :: rest =>
    if a = (mark, false) ∧ b = (93, false) then some ([], rest)
    else (enclosed? mark (b :: rest)).map fun (inside, rest) => (a :: inside, rest)
  | _ => none

/-- A class behind an opening bracket, and what follows it; nothing if there is none. -/
def bracketed? (signs : List SetSign) : Option (Except String (SetMember × List SetSign)) :=
  match signs with
  | (mark, false) :: rest =>
    if mark ≠ 58 ∧ mark ≠ 61 then repetition? signs
    else match enclosed? mark rest with
      | none => repetition? signs
      | some ([], _) =>
        some (.error (if mark = 58 then "missing character class name '[::]'"
          else "missing equivalence class character '[==]'"))
      | some (inside, more) =>
        let name := String.ofList (ofBytes (inside.map (·.1)))
        let isRepetition := rest.head? == some (42, false) &&
          ((rest.drop 1).dropWhile fun s => 48 ≤ s.1 && s.1 ≤ 57).head? == some (93, false)
        if mark = 58 then
          if (characterClasses.lookup name).isSome then some (.ok (.named name, more))
          else if isRepetition then repetition? signs
          else some (.error ("invalid character class " ++ quotedText (shownSigns inside)))
        else match inside with
          | [(b, _)] => some (.ok (.equal b, more))
          | _ =>
            if isRepetition then repetition? signs
            else some (.error (shownSigns inside ++
              ": equivalence class operand must be a single character"))
  | _ => repetition? signs

/-- Reads the members of a set. -/
def readMembers : Nat → List SetSign → Except String (List SetMember)
  | 0, _ => .ok []
  | _, [] => .ok []
  | fuel + 1, s :: rest =>
    let found := if s = (91, false) ∧ 2 ≤ rest.length then bracketed? rest else none
    match found with
    | some (.error text) => .error text
    | some (.ok (member, rest)) => (readMembers fuel rest).map (member :: ·)
    | none =>
      match rest with
      | (45, false) :: last :: more =>
        if last.1 < s.1 then
          .error ("range-endpoints of '" ++ shownByte s.1 ++ "-" ++ shownByte last.1 ++
            "' are in reverse collating sequence order")
        else (readMembers fuel more).map (.range s.1 last.1 :: ·)
      | rest => (readMembers fuel rest).map (.one s.1 :: ·)

/-- The size of a set. -/
def setSize (members : List SetMember) : Nat := total (members.map fun m => m.bytes.length)

/-- The members of a set with its filling as large as a size asks for. -/
def filledSet (size : Nat) (members : List SetMember) : List SetMember :=
  members.map fun m => match m with
    | .repeated b 0 => .repeated b (size - setSize members)
    | m => m

/-- All bytes of a set. -/
def setBytes (members : List SetMember) : List UInt8 := members.flatMap SetMember.bytes

/-- All bytes that are not in a set. -/
def complementOf (bytes : List UInt8) : List UInt8 :=
  (byteRange 0 255).filter fun b => !bytes.contains b

/-- The places in a set at which classes of one case begin, where a class counts as one place. -/
def caseStarts : Nat → List SetMember → List (Nat × SetMember)
  | _, [] => []
  | at1, m :: rest =>
    if m.isCase then (at1, m) :: caseStarts (at1 + 1) rest
    else caseStarts (at1 + m.bytes.length) rest

/-- Each class of one case in the second set has one at the same place in the first set. -/
def areAligned (first second : List SetMember) : Bool :=
  let starts := (caseStarts 0 first).map (·.1)
  (caseStarts 0 second).all fun s => starts.contains s.1

/-- What is wrong with two sets that are to be translated into each other. -/
def translationFault? (truncates complements : Bool) (first second : List SetMember) :
    Option String :=
  let from1 := setBytes first
  let size := if complements then (complementOf from1).length else from1.length
  let into := filledSet size second
  let total := setSize into
  let sameCase := !complements && into.any SetMember.isClass
  -- Classes of one case count as one place each once they have been found to be aligned.
  let pairs := if sameCase then ((into.filter SetMember.isCase).length * 25) else 0
  if second.any fun m => match m with
    | .equal _ => true
    | _ => false then some "[=c=] expressions may not appear in string2 when translating"
  else if second.any fun m => m.isClass && !m.isCase then
    some ("when translating, the only character classes that may appear in\n" ++
      "string2 are 'upper' and 'lower'")
  else if sameCase && !areAligned first into then
    some "misaligned [:upper:] and/or [:lower:] construct"
  else if total - pairs < size - pairs ∧ !truncates ∧ total = 0 then
    some "when not truncating set1, string2 must be non-empty"
  else if total < size ∧ !truncates ∧ into.getLast?.any SetMember.isClass then
    some ("when translating with string1 longer than string2,\n" ++
      "the latter string must not end with a character class")
  else if complements ∧ first.any SetMember.isClass ∧
      !(((setBytes into).eraseDups.length == 1) && (total == size || !truncates)) then
    some ("when translating with complemented character classes,\n" ++
      "string2 must map all characters in the domain to one")
  else none

/-- The table that translates each byte. The last byte of the other set stands for all that it
lacks, unless the first set is to be cut. -/
def translationTable (truncates : Bool) (before after : List UInt8) : Array UInt8 :=
  let after := if truncates then after
    else after ++ List.replicate (before.length - after.length) (after.getLastD 0)
  (before.zip after).foldl (fun (table : Array UInt8) (a, b) => table.set! a.toNat b)
    (byteRange 0 255).toArray

/-- Bytes with each run of a byte of a set made into one. -/
def squeeze (set : List UInt8) (bytes : List UInt8) : List UInt8 :=
  let isIn := ((byteRange 0 255).map set.contains).toArray
  (bytes.foldl (fun (taken : List UInt8) b =>
    if taken.head? = some b ∧ isIn.getD b.toNat false then taken else b :: taken) []).reverse

/-- Bytes without those of a set. -/
def without (set : List UInt8) (bytes : List UInt8) : List UInt8 :=
  let isIn := ((byteRange 0 255).map set.contains).toArray
  bytes.filter fun b => !isIn.getD b.toNat false

/-- Translates the bytes of its input, deletes some of them, or squeezes runs of them. -/
def tr (c : Call) : Progress :=
  let g : Grammar := {
    letters := "cCdst", anywhere := false
    names := [("complement", 'c'), ("delete", 'd'), ("squeeze-repeats", 's'),
      ("truncate-set1", 't')] }
  c.withOptions 1 g fun o =>
    let complements := o.has 'c' || o.has 'C'
    let deletes := o.has 'd'
    let squeezes := o.has 's'
    let least := if deletes == squeezes then 2 else 1
    let most := if deletes && !squeezes then 1 else 2
    let count := o.operands.length
    let explained := fun (what : String) => (2, toBytes (what ++ "\n").toList)
    if count < least then
      if count = 0 then c.misused 1 "missing operand"
      else c.ends 1 [c.message ("missing operand after " ++ quotedText (o.operands.getLastD "")),
        explained (if squeezes then
          "Two strings must be given when both deleting and squeezing repeats."
        else "Two strings must be given when translating."), c.advice]
    else if most < count then
      let note := if count = 2 then
          [explained "Only one string may be given when deleting without squeezing repeats."] else []
      c.ends 1 (c.message ("extra operand " ++ quotedText (o.operands.getD most "")) ::
        note ++ [c.advice])
    else
      let read := o.operands.map fun text =>
        let bytes := toBytes text.toList
        let (signs, notes) := readSigns (bytes.length + 1) bytes
        (readMembers (signs.length + 1) signs, notes)
      let notes := read.flatMap fun (_, notes) => notes.map c.message
      match read.mapM fun (members, _) => members with
      | .error text => c.ends 1 (notes ++ [c.message text])
      | .ok sets =>
        let first := sets.headD []
        let second := sets[1]?
        let fillings := ((second.getD []).filter SetMember.isFilling).length
        let translates := second.isSome && !deletes
        let fault :=
          if first.any SetMember.isFilling then
            some "the [c*] repeat construct may not appear in string1"
          else if 1 < fillings then some "only one [c*] repeat construct may appear in string2"
          else if translates then translationFault? (o.has 't') complements first (second.getD [])
          else if 0 < fillings then
            some "the [c*] construct may appear in string2 only when translating"
          else none
        match fault with
        | some text => c.ends 1 (notes ++ [c.message text])
        | none =>
          let from1 := if complements then complementOf (setBytes first) else setBytes first
          let into := setBytes (filledSet from1.length (second.getD []))
          let change : List UInt8 → List UInt8 :=
            if deletes then
              if squeezes then fun bytes => squeeze into (without from1 bytes) else without from1
            else if second.isNone then squeeze from1
            else
              let table := translationTable (o.has 't') from1 into
              let translate := fun (bytes : List UInt8) => bytes.map fun b => table.getD b.toNat b
              if squeezes then fun bytes => squeeze into (translate bytes) else translate
          let shown := notes ++ [(1, change c.input)]
          if c.ended then
            match c.inputFault with
            | some text => c.ends 1 (notes ++ [c.message ("read error: " ++ text)])
            | none => c.ends 0 shown
          else c.waits shown

end NativeBuild.Machine.Call
