import NativeBuild.Machine.Utility.Amount
import NativeBuild.Machine.Utility.Deed

/-
  Files in pieces. The names of the pieces go on in order, and grow longer when the short ones have
  been used up, so that they stay in the order of the alphabet.
-/

namespace NativeBuild.Machine.Call

/-- The digits that names of pieces are made of, and how long they are. -/
structure PieceNames where
  front : String := "x"
  back : String := ""
  digits : List Char := "abcdefghijklmnopqrstuvwxyz".toList
  length : Nat := 2
  /-- The names grow when they are used up. -/
  grows : Bool := true
  first : Nat := 0

namespace PieceNames

/-- A number in so many digits. -/
def spelled (digits : List Char) : Nat → Nat → List Char
  | 0, _ => []
  | n + 1, k => spelled digits n (k / digits.length) ++ [digits.getD (k % digits.length) 'a']

/-- The digits of the name of a number. Names that grow keep their last digit for longer ones. -/
def suffix? (p : PieceNames) : Nat → Nat → Nat → List Char → Option (List Char)
  | 0, _, _, _ => none
  | fuel + 1, length, k, front =>
    let base := p.digits.length
    if p.grows then
      let room := Nat.pow base length - Nat.pow base (length - 1)
      if k < room then some (front ++ spelled p.digits length k)
      else suffix? p fuel (length + 1) (k - room) (front ++ p.digits.drop (base - 1))
    else if k < Nat.pow base length then some (spelled p.digits length k) else none

/-- The name of a piece. -/
def name? (p : PieceNames) (k : Nat) : Option String :=
  (p.suffix? (k + 2) p.length (k + p.first) []).map fun cs =>
    p.front ++ String.ofList cs ++ p.back

end PieceNames

/-- A content in pieces of so many lines each. -/
def linePieces (stop : UInt8) (n : Nat) (bytes : List UInt8) : List (List UInt8) :=
  let (lines, lacksEnd) := linesOf true bytes stop
  let groups := inGroups n (lines.length + 1) lines
  groups.zipIdx.map fun (group, k) => unlines group (lacksEnd && k + 1 == groups.length) stop

/-- Lines gathered up to a number of bytes; a line that is longer is broken. -/
def gatherLines (limit : Nat) : Nat → List (List UInt8) → List UInt8 → List (List UInt8)
  | 0, _, piece => [piece]
  | _, [], piece => if piece = [] then [] else [piece]
  | fuel + 1, line :: rest, piece =>
    if piece.length + line.length ≤ limit then gatherLines limit fuel rest (piece ++ line)
    else if piece = [] then line.take limit :: gatherLines limit fuel (line.drop limit :: rest) []
    else piece :: gatherLines limit fuel (line :: rest) []

/-- The lines of a content with their ends. -/
def wholeLines (stop : UInt8) (bytes : List UInt8) : List (List UInt8) :=
  let (lines, lacksEnd) := linesOf true bytes stop
  lines.zipIdx.map fun (line, k) =>
    if lacksEnd && k + 1 == lines.length then line else line ++ [stop]

/-- A content in so many pieces. They are of equal size, or end with lines, or lines go to them in
turn. -/
def numberedPieces (stop : UInt8) (kind : Char) (n : Nat) (bytes : List UInt8) : List (List UInt8) :=
  let size := bytes.length / n
  let extra := bytes.length % n
  let starts := (List.range (n + 1)).map fun k => k * size + min k extra
  if kind = 'r' then
    (List.range n).map fun k =>
      ((wholeLines stop bytes).zipIdx.filter fun (_, j) => j % n == k).flatMap (·.1)
  else if kind = 'l' then
    let lines := (wholeLines stop bytes).foldl (fun ((taken, at1) : List (Nat × List UInt8) × Nat) line =>
      ((at1, line) :: taken, at1 + line.length)) ([], 0)
    (List.range n).map fun k =>
      (lines.1.reverse.filter fun (at1, _) =>
        starts.getD k 0 ≤ at1 && at1 < starts.getD (k + 1) 0).flatMap (·.2)
  else (List.range n).map fun k => (bytes.take (starts.getD (k + 1) 0)).drop (starts.getD k 0)

/-- How many pieces a text asks for: their kind, the one that is printed if only one is, and their
number. -/
def pieceCount? (text : String) : Except String (Char × Option Nat × Nat) :=
  let (kind, body) := match text.toList with
    | 'l' :: '/' :: rest => ('l', rest)
    | 'r' :: '/' :: rest => ('r', rest)
    | rest => ('b', rest)
  let number := fun (cs : List Char) => match amount? "" (String.ofList cs) with
    | .ok 0 | .error _ => Except.error ("invalid number of chunks: " ++ quotedText (String.ofList cs))
    | .ok n => .ok n
  match piecesAt (· == '/') body with
  | [n] => (number n).map fun n => (kind, none, n)
  | [k, n] => do
    let n ← number n
    match amount? "" (String.ofList k) with
    | .ok k' =>
      if k' = 0 ∨ n < k' then throw ("invalid chunk number: " ++ quotedText (String.ofList k))
      else return (kind, some k', n)
    | .error _ => throw ("invalid chunk number: " ++ quotedText (String.ofList k))
  | _ => .error ("invalid number of chunks: " ++ quotedText (String.ofList body))

/-- Writes the pieces of a file into files of their own. -/
def split (c : Call) : Progress :=
  let g : Grammar := {
    letters := "C:a:b:del:n:t:uxα:β::γ::ζ"
    names := [("bytes", 'b'), ("lines", 'l'), ("line-bytes", 'C'), ("number", 'n'),
      ("elide-empty-files", 'e'), ("unbuffered", 'u'), ("suffix-length", 'a'),
      ("additional-suffix", 'α'), ("numeric-suffixes", 'β'), ("hex-suffixes", 'γ'),
      ("verbose", 'ζ'), ("separator", 't')] }
  let arguments := c.arguments.map fun a => match a.toList with
    | '-' :: d :: ds => if d.isDigit ∧ ds.all Char.isDigit then "-l" ++ String.ofList (d :: ds) else a
    | _ => a
  let units := "bEGKkMmPTYZ0"
  let refuse := fun (letter : Char) (value : String) =>
    let number := fun (letters what : String) (least : Nat) => match amount? letters value with
      | .ok n => if n < least then
          some (c.fails 1 (what ++ ": " ++ quotedText value ++ ": Numerical result out of range"))
        else none
      | .error fault => some (c.refusesAmount 1 what value fault)
    match letter with
    | 'a' => number "" "invalid suffix length" 0
    | 'b' | 'C' => number units "invalid number of bytes" 1
    | 'l' => number "" "invalid number of lines" 1
    | 'n' => match pieceCount? value with
      | .error text => some (c.fails 1 text)
      | .ok _ => none
    | 'α' => if value.toList.contains '/' then
        some (c.misused 1 ("invalid suffix " ++ quotedText value ++ ", contains directory separator"))
      else none
    | 't' => match toBytes value.toList with
      | [] => some (c.fails 1 "empty record separator")
      | [_] => none
      | _ => if value = "\\0" then none
        else some (c.fails 1 ("multi-character separator " ++ quotedText value))
    | _ => none
  ({ c with arguments := arguments } : Call).withChecked 1 g refuse fun o =>
    let ways := o.given.filter fun (l, _) => ['b', 'C', 'l', 'n'].contains l
    match ways, o.operands with
    | _ :: _ :: _, _ => c.misused 1 "cannot split in more than one way"
    | _, _ :: _ :: extra :: _ => c.misused 1 ("extra operand " ++ quotedText extra)
    | ways, operands =>
      let (way, value) := ways.headD ('l', "1000")
      let name := operands.headD "-"
      let (contents, complete) := c.load [name]
      match contents.findSome? fun (_, content) => content.fault? with
      | some text =>
        c.fails 1 (if text = Errno.isDirectory.text ∨ isInput name then shownName name ++ ": " ++ text
          else "cannot open " ++ quotedName name ++ " for reading: " ++ text)
      | none =>
        if complete = false then c.waits []
        else
          let data := contents.flatMap fun (_, content) => content.data
          let stop := match o.value? 't' with
            | none => 10
            | some v => if v = "\\0" then 0 else (toBytes v.toList).headD 10
          let n := ((amount? units value).toOption).getD 1
          let count := if way = 'n' then (pieceCount? value).toOption else none
          let pieces := match way with
            | 'b' => inGroups n (data.length + 1) data
            | 'C' => gatherLines n (data.length + 2) (wholeLines stop data) []
            | 'n' => match count with
              | some (kind, _, n) => numberedPieces stop kind n data
              | none => []
            | _ => linePieces stop n data
          let kind := o.last? ['d', 'x', 'β', 'γ']
          let digits := match kind with
            | some 'd' | some 'β' => "0123456789".toList
            | some _ => "0123456789abcdef".toList
            | none => "abcdefghijklmnopqrstuvwxyz".toList
          let first := (kind.bind o.value?).getD ""
          let length := (o.value? 'a').bind fun v => (amount? "" v).toOption
          let needed := match count with
            | some (_, _, n) =>
              ((List.range 8).find? fun k => decide (n ≤ Nat.pow digits.length k)).getD 8
            | none => 2
          let names : PieceNames := {
            front := operands.getD 1 "x", back := (o.value? 'α').getD "", digits := digits
            length := match length with
              | some n => if n = 0 then 2 else n
              | none => max 2 needed
            grows := (length.getD 0) == 0 && first == "" && count.isNone
            first := ofDigits digits.length first.toList }
          let pieces := if o.has 'e' then pieces.filter (· ≠ []) else pieces
          match count with
          | some (_, some k, _) => c.ends 0 [(1, pieces.getD (k - 1) [])]
          | _ => c.perform (pieces.zipIdx.forM fun (piece, k) => do
            if (← get).failed then return
            match names.name? k with
            | none => c.complain "output file suffixes exhausted"
            | some path =>
              if o.has 'ζ' then Work.say ("creating file " ++ quotedName path)
              let written := (← Work.files).writeFile c.cwd (outward path) piece c.newMode false
              if let some e ← Work.attempt written then
                c.complain (shownName path ++ ": " ++ e.text))

end NativeBuild.Machine.Call
