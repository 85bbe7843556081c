import NativeBuild.Machine.Regex
import NativeBuild.Machine.Utility.Columns

/-
  The other way round: `tac` prints the last line first, and `rev` the last character of each line.
-/

namespace NativeBuild.Machine.Call

/-- A content in pieces that end with a mark, or that begin with one. -/
def recordsAt (mark : List UInt8) (inFront : Bool) : Nat → List UInt8 → List UInt8 →
    List (List UInt8)
  | 0, piece, rest => [piece.reverse ++ rest]
  | _, piece, [] => if piece = [] then [] else [piece.reverse]
  | fuel + 1, piece, b :: rest =>
    if mark.isPrefixOf (b :: rest) then
      if inFront then
        let more := recordsAt mark inFront fuel mark.reverse ((b :: rest).drop mark.length)
        if piece = [] then more else piece.reverse :: more
      else (piece.reverse ++ mark) :: recordsAt mark inFront fuel [] ((b :: rest).drop mark.length)
    else recordsAt mark inFront fuel (b :: piece) rest

/-- What an expression finds in a text in front of a place, looked for from the end on: the starts
and ends, first ones first. -/
def matchesBefore (r : Regex) (text : List Char) : Nat → Nat → List (Nat × Nat) → List (Nat × Nat)
  | 0, _, found => found
  | fuel + 1, limit, found =>
    let front := { text := (text.take limit).toArray, exact := r.hasReference : Regex.Setting }
    let starts := (List.range limit).reverse
    match starts.findSome? fun k => (r.matchAt front k).map fun reached => (k, reached.place) with
    | some (first, last) => matchesBefore r text fuel first ((first, last) :: found)
    | none => found

/-- A content in pieces between what an expression finds. -/
def recordsBetween (r : Regex) (inFront : Bool) (bytes : List UInt8) : List (List UInt8) :=
  let found := matchesBefore r (ofBytes bytes) (bytes.length + 1) bytes.length []
  let cuts := found.map (if inFront then Prod.fst else Prod.snd) ++ [bytes.length]
  ((cuts.foldl (fun ((pieces, from1) : List (List UInt8) × Nat) cut =>
    (((bytes.take cut).drop from1) :: pieces, cut)) ([], 0)).1.reverse).filter (· ≠ [])

/-- Prints lines last first. -/
def tac (c : Call) : Progress :=
  let g : Grammar := {
    letters := "brs:", names := [("before", 'b'), ("regex", 'r'), ("separator", 's')] }
  c.withOptions 1 g fun o =>
    let text := (o.value? 's').getD "\n"
    let complaint := fun (name fault : String) =>
      if fault = Errno.isDirectory.text then shownName name ++ ": read error: Invalid argument"
      else "failed to open " ++ quotedName name ++ " for reading: " ++ fault
    if o.has 'r' then
      if text = "" then c.fails 1 "separator cannot be empty"
      else match Regex.parse { signs := true, bounded := false } text.toList with
        | .error e => c.fails 1 e
        | .ok parsed =>
          c.reshape o.operands
            (fun data => (recordsBetween parsed.regex (o.has 'b') data).reverse.flatten) complaint
    else
      let mark := if text = "" then [0] else toBytes text.toList
      c.reshape o.operands
        (fun data => (recordsAt mark (o.has 'b') (data.length + 1) [] data).reverse.flatten) complaint

/-- Prints lines with their characters last first. -/
def rev (c : Call) : Progress :=
  c.withOptions 1 { letters := "" } fun o =>
    c.reshape o.operands (fun data =>
      let (lines, lacksEnd) := linesOf true data
      unlines (lines.map List.reverse) lacksEnd) fun name text =>
        if text = Errno.isDirectory.text then name ++ ": " ++ text
        else "cannot open " ++ name ++ ": " ++ text

end NativeBuild.Machine.Call
