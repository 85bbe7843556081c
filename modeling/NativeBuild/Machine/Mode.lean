import NativeBuild.FileTree.Basic
import NativeBuild.Machine.Bytes

/-
  Modes of files as texts: octal numbers, and clauses such as `u+rw,go-x` that say whose rights
  change, how, and which. Main statement: a change only touches the bits that it is about.
-/

namespace NativeBuild.Machine

/-- All bits of a mode. -/
def allModeBits : Nat := 0o7777

/-- A mode without some bits. -/
def withoutBits (mode bits : Nat) : Nat := mode &&& (allModeBits ^^^ (bits &&& allModeBits))

/-- Where the bits of a change come from. -/
inductive ModeSource where
  /-- They are written in the text. -/
  | given
  /-- They are those that somebody has already. -/
  | copied
  /-- The right to execute is added if the file is a directory or anybody has that right. -/
  | givenIfExecutable
  deriving Repr, DecidableEq

/-- One change of a mode. -/
structure ModeChange where
  /-- It adds with `+`, takes away with `-`, and replaces with `=`. -/
  operator : Char
  source : ModeSource := .given
  /-- The bits of those whose rights change; none if the text does not say whose. -/
  affected : Nat
  value : Nat
  /-- The bits that the text speaks of. -/
  mentioned : Nat
  deriving Repr, DecidableEq

namespace ModeChange

/-- The bits of those that a letter names. -/
def whose : Char → Nat
  | 'u' => 0o4700
  | 'g' => 0o2070
  | 'o' => 0o1007
  | _ => allModeBits

/-- The rights that a letter names. -/
def rights : Char → Nat
  | 'r' => 0o444
  | 'w' => 0o222
  | 'x' => 0o111
  | 's' => 0o6000
  | 't' => 0o1000
  | _ => 0

/-- The changes behind the names of those that they are for. -/
def readOperations (affected : Nat) : Nat → List Char → Option (List ModeChange × List Char)
  | 0, _ => none
  | fuel + 1, cs =>
    match cs with
    | operator :: rest =>
      if operator ∉ ['+', '-', '='] then some ([], cs)
      else
        let digits := rest.takeWhile fun c => '0' ≤ c && c ≤ '7'
        let go := fun (change : ModeChange) (rest : List Char) =>
          (readOperations affected fuel rest).map fun (more, rest) => (change :: more, rest)
        if digits ≠ [] then
          let after := rest.drop digits.length
          if affected ≠ 0 ∨ allModeBits < ofDigits 8 digits ∨ after.head?.any (· != ',') then none
          else go ⟨operator, .given, allModeBits, ofDigits 8 digits, allModeBits⟩ after
        else
          match rest with
          | 'u' :: after =>
            go ⟨operator, .copied, affected, 0o700, if affected = 0 then 0o700 else affected &&& 0o700⟩
              after
          | 'g' :: after =>
            go ⟨operator, .copied, affected, 0o070, if affected = 0 then 0o070 else affected &&& 0o070⟩
              after
          | 'o' :: after =>
            go ⟨operator, .copied, affected, 0o007, if affected = 0 then 0o007 else affected &&& 0o007⟩
              after
          | _ =>
            let letters := rest.takeWhile "rwxXst".toList.contains
            let value := letters.foldl (fun bits c => bits ||| rights c) 0
            let source := if letters.contains 'X' then ModeSource.givenIfExecutable else .given
            go ⟨operator, source, affected, value, if affected = 0 then value else affected &&& value⟩
              (rest.drop letters.length)
    | [] => some ([], [])

/-- The changes of one clause. -/
def ofClause? (clause : List Char) : Option (List ModeChange) :=
  let who := clause.takeWhile "ugoa".toList.contains
  let affected := who.foldl (fun bits c => bits ||| whose c) 0
  match readOperations affected (clause.length + 1) (clause.drop who.length) with
  | some (c :: cs, []) => some (c :: cs)
  | _ => none

/-- The changes that a text asks for; nothing if it asks for none. -/
def ofText? (text : List Char) : Option (List ModeChange) :=
  if text.head?.any fun c => '0' ≤ c && c ≤ '7' then
    let mode := ofDigits 8 text
    if text.all (fun c => '0' ≤ c && c ≤ '7') ∧ mode ≤ allModeBits then
      let mentioned := if text.length < 5 then (mode &&& 0o7000) ||| 0o777 else allModeBits
      some [⟨'=', .given, allModeBits, mode, mentioned⟩]
    else none
  else ((piecesAt (· == ',') text).mapM ofClause?).map List.flatten

/-- Rights that somebody has, for everybody. -/
def spread (bits : Nat) : Nat :=
  [0o444, 0o222, 0o111].foldl (fun all right => if bits &&& right = 0 then all else all ||| right)
    bits

/-- The bits of a mode that a change of a file touches, in so far as the mask lets it, and those
of them that are set. -/
def bitsFor (c : ModeChange) (mode : Nat) (directory : Bool) (mask : Nat) : Nat × Nat :=
  let omitted := if directory then withoutBits 0o6000 c.mentioned else 0
  let value := match c.source with
    | .given => c.value
    | .copied => spread (c.value &&& mode)
    | .givenIfExecutable =>
      if directory ∨ mode &&& 0o111 ≠ 0 then c.value ||| 0o111 else c.value
  let open_ := withoutBits (if c.affected = 0 then withoutBits allModeBits mask else c.affected) omitted
  let touched := withoutBits (if c.affected = 0 then allModeBits else c.affected) omitted
  (if c.operator = '=' then touched else value &&& open_, value &&& open_)

/-- A mode after a change. -/
def apply (c : ModeChange) (mode : Nat) (directory : Bool) (mask : Nat) : Nat :=
  let (touched, value) := c.bitsFor mode directory mask
  if c.operator = '-' then withoutBits mode touched else withoutBits mode touched ||| value

end ModeChange

/-- A mode after changes, one after the other. -/
def adjustMode (changes : List ModeChange) (mode : Nat) (directory : Bool) (mask : Nat) : Nat :=
  changes.foldl (fun mode c => c.apply mode directory mask) (mode &&& allModeBits)

/-- The rights of a mode in letters; special bits stand where the right to execute would. -/
def permissionLetters (mode : Nat) : List Char :=
  let three := fun (shift special : Nat) (small big : Char) =>
    let executes := mode.testBit shift
    [if mode.testBit (shift + 2) then 'r' else '-', if mode.testBit (shift + 1) then 'w' else '-',
      if mode.testBit special then (if executes then small else big)
      else if executes then 'x' else '-']
  three 6 11 's' 'S' ++ three 3 10 's' 'S' ++ three 0 9 't' 'T'

/-- The letter of a kind of file. -/
def kindLetter : Node → Char
  | .directory _ => 'd'
  | .link _ => 'l'
  | .pipe _ => 'p'
  | .file _ _ => '-'

end NativeBuild.Machine
