import NativeBuild.Machine.Format
import NativeBuild.Machine.Utility.Listing

/-
  Utilities for whole files: copying blocks of bytes, cutting files to a size, and showing what is
  known of them.
-/

namespace NativeBuild.Machine.Call

/-- The units of sizes. -/
def unitOf? (unit : String) : Option Nat :=
  let letters := "KMGTPE".toList
  match unit.toList with
  | [] => some 1
  | [ch] => if ch = 'k' then some 1024 else (letters.idxOf? ch).map fun k => Nat.pow 1024 (k + 1)
  | [ch, 'B'] => if ch = 'k' then some 1000 else (letters.idxOf? ch).map fun k => Nat.pow 1000 (k + 1)
  | [ch, 'i', 'B'] => if ch = 'k' then some 1024 else (letters.idxOf? ch).map fun k => Nat.pow 1024 (k + 1)
  | _ => none

/-- A number of bytes with letters for its unit. -/
def byteCount? (text : String) : Option Nat :=
  let digits := text.toList.takeWhile Char.isDigit
  if digits = [] then none
  else
    let n := ofDigits 10 digits
    match String.ofList (text.toList.drop digits.length) with
    | "c" | "B" => some n
    | "w" => some (n * 2)
    | "b" => some (n * 512)
    | unit => (unitOf? unit).map (n * ·)

/-- A product of numbers of bytes. -/
def byteProduct? (text : String) : Option Nat :=
  ((piecesAt (· == 'x') text.toList).mapM fun part => byteCount? (String.ofList part)).map
    fun ns => ns.foldl (· * ·) 1

/-- Bytes in pairs the other way round. -/
def swapPairs : List UInt8 → List UInt8
  | a :: b :: rest => b :: a :: swapPairs rest
  | rest => rest

/-- Lines filled up with blanks to a size, without their ends. -/
def blockLines (size : Nat) (bytes : List UInt8) : List UInt8 :=
  (linesOf true bytes).1.flatMap fun line =>
    line.take size ++ List.replicate (size - line.length) 32

/-- Records of a size as lines, without the blanks at their ends. -/
def unblockLines (size : Nat) : Nat → List UInt8 → List UInt8
  | 0, _ => []
  | fuel + 1, bytes =>
    if bytes = [] then []
    else
      let line := ((bytes.take size).reverse.dropWhile (· == 32)).reverse
      line ++ [10] ++ unblockLines size fuel (bytes.drop size)

/-- What `dd` can do with bytes between reading and writing them. -/
def knownConversions : List String :=
  ["ascii", "ebcdic", "ibm", "block", "unblock", "lcase", "ucase", "sparse", "swab", "sync", "excl",
    "nocreat", "notrunc", "noerror", "fdatasync", "fsync"]

/-- Bytes after the conversions. -/
def converted (conversions : List String) (inSize recordSize : Nat) (data : List UInt8) :
    List UInt8 :=
  let has := conversions.contains
  let missing := (inSize - data.length % inSize) % inSize
  let data := if has "sync" then
      data ++ List.replicate missing (if has "block" ∨ has "unblock" then 32 else 0) else data
  let data := data.map fun b =>
    if has "ucase" ∧ 97 ≤ b ∧ b ≤ 122 then b - 32
    else if has "lcase" ∧ 65 ≤ b ∧ b ≤ 90 then b + 32 else b
  let data := if has "swab" then swapPairs data else data
  if recordSize = 0 then data
  else if has "block" then blockLines recordSize data
  else if has "unblock" then unblockLines recordSize (data.length + 1) data
  else data

/-- How many records of a size some bytes are, full ones and others. -/
def recordCount (size length : Nat) : String :=
  toString (length / size) ++ "+" ++ if length % size = 0 then "0" else "1"

/-- A size with a letter for thousands, and a blank in front of it. -/
def spacedSize (base n : Nat) : String :=
  let (digits, unit) := (humanSize base n).toList.partition fun ch => ch.isDigit || ch == '.'
  String.ofList digits ++ " " ++ String.ofList unit ++ if base = 1024 then "iB" else "B"

/-- The bytes that were copied, in words. -/
def bytesCopied (n : Nat) : String :=
  toString n ++ (if n = 1 then " byte" else " bytes") ++
    (if n < 1000 then "" else " (" ++ spacedSize 1000 n ++
      (if n < 1024 then "" else ", " ++ spacedSize 1024 n) ++ ")") ++ " copied"

/-- Copies blocks of bytes. -/
def dd (c : Call) : Progress :=
  let nameOf := fun (a : String) => String.ofList (a.toList.takeWhile (· ≠ '='))
  let valueOf := fun (a : String) => String.ofList (a.toList.drop ((nameOf a).length + 1))
  let value? := fun (name : String) =>
    (c.arguments.reverse.find? fun a => nameOf a == name).map valueOf
  let numeric := ["bs", "cbs", "count", "ibs", "obs", "seek", "skip", "iseek", "oseek"]
  let known := numeric ++ ["if", "of", "conv", "status", "iflag", "oflag"]
  let odd := c.arguments.find? fun a =>
    !(a.toList.contains '=') || !known.contains (nameOf a)
  let words := fun (name : String) => ((value? name).getD "").splitOn "," |>.filter (· ≠ "")
  let conversions := words "conv"
  let badConversion := conversions.find? fun w => !knownConversions.contains w
  let badNumber := c.arguments.find? fun a => numeric.contains (nameOf a) &&
    ((byteProduct? (valueOf a)).isNone ||
      (["bs", "ibs", "obs", "cbs"].contains (nameOf a) && byteProduct? (valueOf a) == some 0))
  let status := (value? "status").getD ""
  match odd, badConversion, badNumber with
  | some a, _, _ => c.misused 1 ("unrecognized operand " ++ quotedText a)
  | _, some w, _ => c.misused 1 ("invalid conversion: " ++ quotedText w)
  | _, _, some a => c.fails 1 ("invalid number: " ++ quotedText (valueOf a))
  | none, none, none =>
    if ["", "none", "noxfer", "progress"].contains status = false then
      c.misused 1 ("invalid status level: " ++ quotedText status)
    else
      let number := fun (name : String) => (value? name).bind byteProduct?
      let inSize := ((number "bs").or (number "ibs")).getD 512
      let outSize := ((number "bs").or (number "obs")).getD 512
      let bytewise := fun (name flag list : String) =>
        (words list).contains flag || ((value? name).any fun v => v.toList.getLast? == some 'B' &&
          (v.toList.dropLast.all Char.isDigit))
      let amount := fun (name flag list : String) (size : Nat) =>
        (number name).map fun n => if bytewise name flag list then n else n * size
      let wanted := amount "count" "count_bytes" "iflag" inSize
      let skip := ((amount "skip" "skip_bytes" "iflag" inSize).or
        (amount "iseek" "skip_bytes" "iflag" inSize)).getD 0
      let seek := ((amount "seek" "seek_bytes" "oflag" outSize).or
        (amount "oseek" "seek_bytes" "oflag" outSize)).getD 0
      let source := (value? "if").getD "-"
      let (contents, complete) := c.load [source]
      let enough := wanted.any fun n => skip + n ≤ c.input.length
      match contents with
      | [(_, .fault text)] =>
        if text = Errno.isDirectory.text then
          c.ends 1 [c.message ("error reading " ++ quotedName source ++ ": " ++ text)]
        else c.fails 1 ("failed to open " ++ quotedName source ++ ": " ++ text)
      | _ =>
        if complete = false ∧ enough = false then c.waits []
        else
          let data := match contents with
            | [(_, .bytes data)] => data.drop skip
            | [(_, .endless)] => List.replicate (wanted.getD 0) 0
            | _ => []
          let data := match wanted with
            | some n => data.take n
            | none => data
          let surplus := if isInput source then c.input.length - skip - data.length else 0
          let result := converted conversions inSize ((number "cbs").getD 0) data
          let report := if status = "none" then [] else
            [(2, toBytes (recordCount inSize data.length ++ " records in\n" ++
              recordCount outSize result.length ++ " records out\n").toList)] ++
            if status = "noxfer" then [] else
              [(2, toBytes (bytesCopied result.length ++ ", 0.0 s, 0.0 kB/s\n").toList)]
          match value? "of" with
          | none => ⟨[(1, result)] ++ report, c.files, .done 0 surplus⟩
          | some path =>
            let there := c.statusIn c.files true path
            let old := match there with
              | .ok ⟨_, .file content _, _⟩ => content
              | _ => []
            let keepsRest := conversions.contains "notrunc"
            let new := if (markedDevice? old).isSome then old
              else if (words "oflag").contains "append" then (if keepsRest then old else []) ++ result
              else System.overwritten (if keepsRest then old else old.take seek) seek result
            let refused : Option Errno := match there with
              | .ok _ => if conversions.contains "excl" then some .fileExists else none
              | .error _ => if conversions.contains "nocreat" then some .noEntry else none
            match refused, c.files.writeFile c.cwd (outward path) new c.newMode false with
            | none, .ok files => ⟨report, files, .done 0 surplus⟩
            | some e, _ | none, .error e =>
              c.fails 1 ("failed to open " ++ quotedName path ++ ": " ++ e.text)

/-- A size as `truncate` takes it: how it is meant, and a number. -/
def sizeChange? (text : String) : Option (Char × Nat) :=
  match text.toList.dropWhile isSpace with
  | sign :: rest =>
    if "+-<>/%".toList.contains sign then (byteCount? (String.ofList rest)).map (sign, ·)
    else (byteCount? (String.ofList (sign :: rest))).map ('=', ·)
  | [] => none

/-- A size after a change. -/
def changedSize (sign : Char) (n old : Nat) : Nat :=
  match sign with
  | '+' => old + n
  | '-' => old - n
  | '<' => min old n
  | '>' => max old n
  | '/' => old / n * n
  | '%' => (old + n - 1) / n * n
  | _ => n

/-- Cuts files to a size, or fills them up. -/
def truncate (c : Call) : Progress :=
  let g : Grammar := {
    letters := "cor:s:"
    names := [("size", 's'), ("no-create", 'c'), ("reference", 'r'), ("io-blocks", 'o')] }
  c.withOptions 1 g fun o =>
    let text := (o.value? 's').getD ""
    let change := sizeChange? text
    let reference := (o.value? 'r').map fun file => (file, c.statusIn c.files true file)
    if o.has 's' ∧ change.isNone then c.fails 1 ("Invalid number: " ++ quotedText text)
    else if !o.has 's' ∧ !o.has 'r' then
      c.misused 1 "you must specify either '--size' or '--reference'"
    else if o.has 'r' ∧ change.any (·.1 == '=') then
      c.misused 1 "you must specify a relative '--size' with '--reference'"
    else if change.any fun e => (e.1 == '/' || e.1 == '%') && e.2 == 0 then c.fails 1 "division by zero"
    else if o.operands = [] then c.misused 1 "missing file operand"
    else
      match reference with
      | some (file, .error e) => c.fails 1 ("cannot stat " ++ quotedName file ++ ": " ++ e.text)
      | _ =>
        let base := match reference with
          | some (_, .ok st) => some (sizeOf st.node)
          | _ => none
        c.forEach o.operands fun operand => do
          let files ← Work.files
          let there := c.statusIn files true operand
          let old := match there with
            | .ok ⟨_, .file content _, _⟩ => content
            | _ => []
          let from_ := base.getD old.length
          let length := match change with
            | some (sign, n) => changedSize sign n from_
            | none => from_
          let content := old.take length ++ List.replicate (length - old.length) 0
          unless o.has 'c' && there.toOption.isNone do
            let written := files.writeFile c.cwd (outward operand) content c.newMode false
            if let some e ← Work.attempt written then
              c.complain ("cannot open " ++ quotedName operand ++ " for writing: " ++ e.text)

/-- A time as a format of `stat` shows it. -/
def instantText (f : Conversion) (instant : Int) : List Char :=
  let seconds := instant.fdiv 1000000000
  let rest := padLeft '0' 9 (decimal (instant.fmod 1000000000).toNat)
  match f.precision with
  | none => ({ f with letter := 'd' } : Conversion).integer seconds
  | some n =>
    let places := if n = 0 then 9 else n
    ({ f with precision := none } : Conversion).text
      (signed seconds ++ ['.'] ++ (rest ++ List.replicate places '0').take places)

/-- What a letter of a format says about a file. -/
def statPart (c : Call) (name : String) (e : Listed) (f : Conversion) : List Char :=
  let text := fun (s : String) => f.text s.toList
  let number := fun (letter : Char) (n : Nat) =>
    ({ f with letter := letter } : Conversion).integer n
  let kind := match e.node with
    | .directory _ => 0o040000
    | .link _ => 0o120000
    | .pipe _ => 0o010000
    | .file _ _ => if isDevice e.node then 0o020000 else 0o100000
  let date := fun (instant : Int) =>
    text ((c.zone.shown instant).format "%Y-%m-%d %H:%M:%S.%N %z")
  match f.letter with
  | 'n' => text name
  | 'N' => text (match e.node with
      | .link target => quotedName name ++ " -> " ++ quotedName (inward target)
      | _ => quotedName name)
  | 's' => number 'u' (sizeOf e.node)
  | 'b' => number 'u' (e.room / 512)
  | 'B' => number 'u' 512
  | 'o' => number 'u' 4096
  | 'a' => number 'o' e.node.mode
  | 'A' => text (modeLetters e.node)
  | 'f' => number 'x' (kind + e.node.mode)
  | 'F' => text (kindText e.node)
  | 'U' | 'G' => text "root"
  | 'u' | 'g' => number 'u' 0
  | 'h' => number 'u' e.names
  | 'i' => number 'u' e.number
  | 'd' => number 'u' 42
  | 'D' => number 'x' 42
  | 't' => number 'x' (if isDevice e.node then 1 else 0)
  | 'T' => number 'x' (if isDevice e.node then 3 else 0)
  | 'm' => text "/"
  | 'x' => date e.dates.accessed
  | 'y' | 'z' => date e.dates.modified
  | 'X' => instantText f e.dates.accessed
  | 'Y' | 'Z' => instantText f e.dates.modified
  | 'w' => text "-"
  | 'W' => number 'u' 0
  | _ => text "?"

/-- A format with what it says about a file in place of its letters. -/
def statText (c : Call) (name : String) (e : Listed) (escapes : Bool) : Nat → List Char → List Char
  | 0, _ => []
  | fuel + 1, '%' :: rest =>
    let flags := rest.takeWhile "#'-+ 0I".toList.contains
    let after := rest.drop flags.length
    let width := after.takeWhile Char.isDigit
    let after := after.drop width.length
    let (precision, after) := match after with
      | '.' :: more =>
        let digits := more.takeWhile Char.isDigit
        (some (ofDigits 10 digits), more.drop digits.length)
      | more => (none, more)
    match after with
    | [] => ['%']
    | '%' :: more => '%' :: statText c name e escapes fuel more
    | letter :: more =>
      c.statPart name e ⟨flags, ofDigits 10 width, precision, false, letter⟩ ++
        statText c name e escapes fuel more
  | fuel + 1, '\\' :: rest =>
    if escapes = false then '\\' :: statText c name e escapes fuel rest
    else
      match rest with
      | 'x' :: more =>
        let digits := (more.take 2).takeWhile fun ch => digitValue ch < 16
        if digits = [] then 'x' :: statText c name e escapes fuel more
        else byteChar (ofDigits 16 digits) :: statText c name e escapes fuel (more.drop digits.length)
      | '"' :: more => '"' :: statText c name e escapes fuel more
      | ch :: more =>
        if isOctal ch ∨ (escapeLetter ch).isSome then
          let (shown, after) := escape rest
          shown :: statText c name e escapes fuel after
        else ch :: statText c name e escapes fuel more
      | [] => ['\\']
  | fuel + 1, ch :: rest => ch :: statText c name e escapes fuel rest
  | _ + 1, [] => []

/-- All that is known of a file, as it is shown without a format. -/
def usualStat (node : Node) : String :=
  let size := if isDevice node then "Device: %d\tInode: %-11i Links: %-5h Device type: %t,%T\n"
    else "Device: %d\tInode: %-11i Links: %h\n"
  "  File: " ++ (if node.isLink then "%N" else "%n") ++ "\n  Size: %-10s\tBlocks: %-10b IO Block: %-6o %F\n" ++ size ++
    "Access: (%04a/%10.10A)  Uid: (%5u/%8U)   Gid: (%5g/%8G)\n" ++
    "Access: %x\nModify: %y\nChange: %z\n Birth: %w\n"

/-- Shows what is known of files, by a format. -/
def stat (c : Call) : Progress :=
  let g : Grammar := {
    letters := "Lfc:tα:β:"
    names := [("dereference", 'L'), ("format", 'c'), ("printf", 'α'), ("terse", 't'),
      ("file-system", 'f'), ("cached", 'β')] }
  c.withOptions 1 g fun o =>
    if o.operands = [] then c.misused 1 "missing operand"
    else c.forEach o.operands fun operand => do
      match ← c.status (o.has 'L') operand with
      | .error e =>
        c.complain ((if o.has 'f' then "cannot read file system information for "
          else "cannot statx ") ++ quotedName operand ++ ": " ++ e.text)
      | .ok st =>
        let e := listedAt (← Work.files) operand st.place st.node
        let (format, escapes, ending) := match o.last? ['c', 'α'], o.value? 'c', o.value? 'α' with
          | some 'c', some f, _ => (f, false, "\n")
          | some _, _, some f => (f, true, "")
          | _, _, _ => if o.has 't' then
              ("%n %s %b %f %u %g %D %i %h %t %T %X %Y %Z %W %o", false, "\n")
            else (usualStat st.node, false, "")
        Work.print (String.ofList (c.statText operand e escapes (2 * format.length + 2)
          format.toList) ++ ending)

end NativeBuild.Machine.Call
