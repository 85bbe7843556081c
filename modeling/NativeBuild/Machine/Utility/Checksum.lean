import NativeBuild.Machine.Utility.Digest
import NativeBuild.Machine.Utility.Runs

/-
  Digests and sums of files. A list of digests can be read again, to see whether the files are still
  what they were.
-/

namespace NativeBuild.Machine.Call

/-- A name with its line ends and backslashes marked, and whether there are any. -/
def markedName (name : String) : Bool × String :=
  let marked := name.toList.flatMap fun ch =>
    if ch = '\\' then ['\\', '\\'] else if ch = '\n' then ['\\', 'n']
    else if ch = '\r' then ['\\', 'r'] else [ch]
  (String.ofList marked != name, String.ofList marked)

/-- A name with marks taken away. -/
def unmarkedName : List Char → Option (List Char)
  | '\\' :: 'n' :: rest => (unmarkedName rest).map ('\n' :: ·)
  | '\\' :: 'r' :: rest => (unmarkedName rest).map ('\r' :: ·)
  | '\\' :: '\\' :: rest => (unmarkedName rest).map ('\\' :: ·)
  | '\\' :: _ => none
  | c :: rest => (unmarkedName rest).map (c :: ·)
  | [] => some []

/-- The digest and the name of a file in a line. -/
def readDigest (kind : DigestKind) (line : List Char) : Option (List Char × String) :=
  let isBlank := fun (c : Char) => c == ' ' || c == '\t'
  let line := line.dropWhile isBlank
  let isMarked := line.head? == some '\\'
  let line := if isMarked then line.drop 1 else line
  let named := fun (name : List Char) =>
    (if isMarked then unmarkedName name else some name).map String.ofList
  let isDigest := fun (cs : List Char) =>
    cs.length == 2 * kind.size && cs.all fun c => digitValue c < 16
  let title := kind.title.toList
  if title.isPrefixOf line then
    let rest := line.drop title.length
    let rest := if rest.head? = some ' ' then rest.drop 1 else rest
    match rest with
    | '(' :: rest =>
      let back := rest.reverse.takeWhile (· ≠ ')')
      let name := (rest.reverse.drop (back.length + 1)).reverse
      match back.reverse.dropWhile isBlank with
      | '=' :: digits =>
        let digits := digits.dropWhile isBlank
        if isDigest digits ∧ back.length < rest.length then (named name).map fun n => (digits, n)
        else none
      | _ => none
    | _ => none
  else
    let digits := line.take (2 * kind.size)
    match line.drop (2 * kind.size) with
    | blank :: mark :: name =>
      if isDigest digits ∧ isBlank blank ∧ (mark = ' ' ∨ mark = '*') ∧ name ≠ [] then
        (named name).map fun n => (digits, n)
      else none
    | _ => none

/-- What has been found out about the files of a list. -/
structure Verification where
  writes : List (Nat × List UInt8) := []
  misformed : Nat := 0
  unread : Nat := 0
  mismatched : Nat := 0
  matched : Nat := 0
  readable : Nat := 0

/-- One or more of something. -/
def counted (n : Nat) (one many : String) : String :=
  "WARNING: " ++ toString n ++ " " ++ if n = 1 then one else many

/-- Looks whether the files of a list are still what they were. -/
def verify (c : Call) (kind : DigestKind) (o : Options) (list : String) (data : List UInt8) :
    Verification × Bool :=
  let listName := shownName (inputName list)
  let isStatus := o.last? ['σ', 'q', 'w'] == some 'σ'
  let isQuiet := isStatus || o.last? ['σ', 'q', 'w'] == some 'q'
  let say := fun (name : String) (what : String) =>
    let (isMarked, shown) := markedName name
    (1, toBytes ((if isMarked then "\\" else "") ++ shown ++ ": " ++ what ++ "\n").toList)
  let v := ((linesOf true data).1.zipIdx).foldl (fun (v : Verification) (line, k) =>
    let cs := ofBytes line
    let cs := if cs.getLast? = some '\r' then cs.dropLast else cs
    if cs = [] ∨ cs.head? = some '#' then v
    else match readDigest kind cs with
      | none =>
        { v with
          misformed := v.misformed + 1
          writes := if o.last? ['σ', 'q', 'w'] = some 'w' then
              v.writes ++ [c.message (listName ++ ": " ++ toString (k + 1) ++
                ": improperly formatted " ++ kind.title ++ " checksum line")]
            else v.writes }
      | some (digits, name) =>
        let v := { v with readable := v.readable + 1 }
        let content := c.content name
        match content.fault? with
        | some text =>
          if o.has 'ι' ∧ text = Errno.noEntry.text then v
          else { v with
            unread := v.unread + 1
            writes := v.writes ++ [c.message (shownName name ++ ": " ++ text)] ++
              if isStatus then [] else [say name "FAILED open or read"] }
        | none =>
          if kind.digits content.data = digits.map Char.toLower then
            { v with
              matched := v.matched + 1
              writes := if isQuiet then v.writes else v.writes ++ [say name "OK"] }
          else
            { v with
              mismatched := v.mismatched + 1
              writes := if isStatus then v.writes else v.writes ++ [say name "FAILED"] }) {}
  if v.readable = 0 then
    ({ v with writes := v.writes ++
        [c.message (listName ++ ": no properly formatted checksum lines found")] }, false)
  else
    let warnings := if isStatus then [] else
      (if v.misformed = 0 then [] else
        [counted v.misformed "line is improperly formatted" "lines are improperly formatted"]) ++
      (if v.unread = 0 then [] else
        [counted v.unread "listed file could not be read" "listed files could not be read"]) ++
      (if v.mismatched = 0 then [] else
        [counted v.mismatched "computed checksum did NOT match" "computed checksums did NOT match"]) ++
      (if o.has 'ι' ∧ v.matched = 0 then [listName ++ ": no file was verified"] else [])
    ({ v with writes := v.writes ++ warnings.map c.message },
      v.mismatched == 0 && v.unread == 0 && (!o.has 'τ' || v.misformed == 0) &&
        (!o.has 'ι' || v.matched != 0))

/-- The digest of a file as it is shown. -/
def shownDigest (kind : DigestKind) (o : Options) (isTagged : Bool) (data : List UInt8)
    (name : String) : List UInt8 :=
  let (isMarked, marked) := if o.has 'z' then (false, name) else markedName name
  let digits := String.ofList (kind.digits data)
  let binary := o.last? ['b', 't'] == some 'b'
  let text := (if isMarked then "\\" else "") ++
    if isTagged then kind.title ++ " (" ++ marked ++ ") = " ++ digits
    else digits ++ (if binary then " *" else "  ") ++ marked
  toBytes text.toList ++ [if o.has 'z' then 0 else 10]

/-- Prints the digests of files, or looks whether they are still those of a list. -/
def digestsBy (c : Call) (kind : DigestKind) (o : Options) (isTagged : Bool) : Progress :=
  let only := fun (letter : Char) (name : String) =>
    if o.has letter ∧ !o.has 'c' then
      some ("the --" ++ name ++ " option is meaningful only when verifying checksums")
    else none
  let fault :=
    if o.has 'g' ∧ o.last? ['b', 't'] = some 't' then some "--tag does not support --text mode"
    else if o.has 'z' ∧ o.has 'c' then
      some "the --zero option is not supported when verifying checksums"
    else if o.has 'g' ∧ o.has 'c' then
      some "the --tag option is meaningless when verifying checksums"
    else if (o.has 'b' ∨ o.has 't') ∧ o.has 'c' then
      some "the --binary and --text options are meaningless when verifying checksums"
    else (only 'ι' "ignore-missing").or ((only 'σ' "status").or ((only 'w' "warn").or
      ((only 'q' "quiet").or (only 'τ' "strict"))))
  match fault with
  | some text => c.misused 1 text
  | none =>
    let operands := if o.operands = [] then ["-"] else o.operands
    let (contents, complete) := c.load operands
    if complete = false then c.waits []
    else
      let results := contents.map fun (name, content) =>
        match content.fault? with
        | some text =>
          if o.has 'c' ∧ text = Errno.isDirectory.text then
            ([c.message (shownName name ++ ": read error")], false)
          else ([c.message (shownName name ++ ": " ++ text)], false)
        | none =>
          if o.has 'c' then
            let (v, good) := c.verify kind o name content.data
            (v.writes, good)
          else ([(1, shownDigest kind o isTagged content.data name)], true)
      c.ends (if results.all (·.2) then 0 else 1) (results.flatMap (·.1))

/-- The options of digests. -/
def digestGrammar : Grammar := {
  letters := "bctwzgqισταβ:υδ"
  names := [("binary", 'b'), ("check", 'c'), ("ignore-missing", 'ι'), ("quiet", 'q'),
    ("status", 'σ'), ("text", 't'), ("warn", 'w'), ("strict", 'τ'), ("tag", 'g'), ("zero", 'z')] }

/-- Prints the digests of files. -/
def digests (c : Call) (kind : DigestKind) : Progress :=
  c.withOptions 1 digestGrammar fun o => c.digestsBy kind o (o.has 'g')

/-- Prints digests of which the number of bits is chosen. -/
def b2sum (c : Call) : Progress :=
  let g : Grammar := { digestGrammar with
    letters := "l:" ++ digestGrammar.letters, names := ("length", 'l') :: digestGrammar.names }
  let invalid := fun (value : String) => c.message ("invalid length: " ++ quotedText value)
  let refuse := fun (letter : Char) (value : String) =>
    if letter ≠ 'l' then none
    else
      match natural? value.toList with
      | none => some (c.ends 1 [invalid value])
      | some n =>
        if n % 8 ≠ 0 then some (c.ends 1 [invalid value, c.message "length is not a multiple of 8"])
        else if 512 < n then
          some (c.ends 1 [invalid value, c.message "maximum digest length for 'BLAKE2b' is 512 bits"])
        else none
  c.withChecked 1 g refuse fun o =>
    let bits := (o.number? 'l').getD 512
    c.digestsBy (.blake2b (if bits = 0 then 64 else bits / 8)) o (o.has 'g')

/-- Prints a number and a size for each file. -/
def sums (c : Call) (operands : List String) (shown : List UInt8 → String → String) : Progress :=
  let (contents, complete) := c.load operands
  if complete = false then c.waits []
  else
    let writes := contents.map fun (name, content) => match content.fault? with
      | some text => c.message (shownName name ++ ": " ++ text)
      | none => (1, toBytes (shown content.data name ++ "\n").toList)
    c.ends (if writes.any (·.1 == 2) then 1 else 0) writes

/-- Prints sums of files with the numbers of their blocks. -/
def sumOf (c : Call) (isPlain : Bool) (o : Options) : Progress :=
  c.sums o.operands fun data name =>
    let blocks := fun (size : Nat) => (data.length + size - 1) / size
    let named := if o.operands = [] then "" else " " ++ name
    if isPlain then toString (plainSum data) ++ " " ++ toString (blocks 512) ++ named
    else String.ofList (padLeft '0' 5 (decimal (turnedSum data))) ++ " " ++
      String.ofList (padLeft ' ' 5 (decimal (blocks 1024))) ++ named

/-- Prints sums of files. -/
def sum (c : Call) : Progress :=
  c.withOptions 1 { letters := "rs", names := [("sysv", 's')] } fun o =>
    c.sumOf (o.last? ['r', 's'] == some 's') o

/-- Prints redundancy checks, or digests, of files. -/
def cksum (c : Call) : Progress :=
  let g : Grammar := {
    letters := "a:bctwzισταυgqd"
    names := digestGrammar.names ++ [("algorithm", 'a'), ("untagged", 'υ'), ("debug", 'd')] }
  let kinds := ["bsd", "sysv", "crc", "md5", "sha1", "sha224", "sha256", "sha384", "sha512",
    "blake2b", "sm3"]
  let refuse := fun (letter : Char) (value : String) =>
    if letter = 'a' ∧ (wordChoice? kinds value).isNone then
      some (c.refusesWord 1 "--algorithm" value kinds)
    else none
  c.withChecked 1 g refuse fun o =>
    match (o.value? 'a').bind (wordChoice? kinds) with
    | some "bsd" => c.sumOf false o
    | some "sysv" => c.sumOf true o
    | kind =>
      match kind.bind DigestKind.named? with
      | some kind => c.digestsBy kind o (!o.has 'υ')
      | none => c.sums o.operands fun data name =>
          toString (redundancy data) ++ " " ++ toString data.length ++
            if o.operands = [] then "" else " " ++ name

end NativeBuild.Machine.Call
