import NativeBuild.Machine.Utility.Amount
import NativeBuild.Machine.Utility.Deed

/-
  Lines in a random order: `shuf` draws numbers from a source of bytes and puts lines into the order
  that they give. Without a source that is named every draw gives the first of the choices.
-/

namespace NativeBuild.Machine.Call

/-- What is left of a source of random bytes, and the part of a number that is not used yet. -/
structure Randomness where
  /-- The bytes; nothing if they never end and are all zero. -/
  bytes : Option (List UInt8) := none
  value : Nat := 0
  most : Nat := 0

namespace Randomness

/-- Takes bytes until numbers go up to a limit. Nothing is given if there are too few. -/
def fill (limit : Nat) : Nat → Randomness → Option Randomness
  | 0, r => some r
  | fuel + 1, r =>
    if limit ≤ r.most then some r
    else
      let grown := fun (b : Nat) (bytes : Option (List UInt8)) =>
        fill limit fuel ⟨bytes, r.value * 256 + b, r.most * 256 + 255⟩
      match r.bytes with
      | none => grown 0 none
      | some [] => none
      | some (b :: bytes) => grown b.toNat (some bytes)

/-- Draws one of so many numbers, from zero on. What falls behind the last full round of choices is
kept for another draw. -/
def draw (choices : Nat) : Nat → Randomness → Option (Nat × Randomness)
  | 0, r => some (0, r)
  | fuel + 1, r =>
    let limit := choices - 1
    match r.fill limit 9 with
    | none => none
    | some r =>
      if r.most = limit then some (r.value, ⟨r.bytes, 0, 0⟩)
      else
        let excess := r.most - limit
        let unusable := excess % choices
        let last := r.most - unusable
        if r.value ≤ last then some (r.value % choices, ⟨r.bytes, r.value / choices, excess / choices⟩)
        else draw choices fuel ⟨r.bytes, r.value - (last + 1), unusable - 1⟩

/-- The first places of a random order of so many things. -/
def order (count : Nat) : Nat → Nat → Array Nat → Randomness → Option (List Nat × Randomness)
  | 0, _, _, r => some ([], r)
  | wanted + 1, k, places, r =>
    match r.draw (count - k) 200 with
    | none => none
    | some (n, r) =>
      let j := k + n
      let chosen := places.getD j 0
      let places := (places.setIfInBounds j (places.getD k 0)).setIfInBounds k chosen
      (order count wanted (k + 1) places r).map fun (rest, r) => (chosen :: rest, r)

/-- Draws so many numbers, each anew. -/
def repeated (choices : Nat) : Nat → Randomness → Option (List Nat)
  | 0, _ => some []
  | wanted + 1, r =>
    match r.draw choices 200 with
    | none => none
    | some (n, r) => (repeated choices wanted r).map (n :: ·)

/-- Lets each line take the place of one of the first ones at random. -/
def sample (room : Nat) (kept : Array (List UInt8)) (seen : Nat) (r : Randomness) :
    List (List UInt8) → Option (Array (List UInt8) × Randomness)
  | [] =>
    match r.draw (seen + 1) 200 with
    | none => none
    | some (_, r) => some (kept, r)
  | line :: rest =>
    match r.draw (seen + 1) 200 with
    | none => none
    | some (j, r) => sample room (if j < room then kept.setIfInBounds j line else kept) (seen + 1) r rest

end Randomness

/-- A range of numbers from one to another. -/
def readRange (text : String) : Option (Nat × Nat) :=
  match piecesAt (· == '-') text.toList with
  | [low, high] =>
    match natural? low, natural? high with
    | some a, some b => if a ≤ b + 1 then some (a, b) else none
    | _, _ => none
  | _ => none

/-- Prints lines in a random order. -/
def shuf (c : Call) : Progress :=
  let g : Grammar := {
    letters := "ei:n:o:rzα:"
    names := [("echo", 'e'), ("input-range", 'i'), ("head-count", 'n'), ("output", 'o'),
      ("random-source", 'α'), ("repeat", 'r'), ("zero-terminated", 'z')] }
  let refuse := fun (letter : Char) (value : String) => match letter with
    | 'i' =>
      if (readRange value).isNone then
        some (c.fails 1 ("invalid input range: " ++ quotedText value))
      else none
    | 'n' =>
      if (natural? value.toList).isNone then
        some (c.fails 1 ("invalid line count: " ++ quotedText value))
      else none
    | _ => none
  c.withChecked 1 g refuse fun o =>
    let many := fun (letter : Char) => o.given.filter fun entry => entry.1 == letter
    let differ := fun (letter : Char) => 1 < ((many letter).map (·.2)).eraseDups.length
    let range := (o.value? 'i').bind readRange
    if 1 < (many 'i').length then c.fails 1 "multiple -i options specified"
    else if differ 'o' then c.fails 1 "multiple output files specified"
    else if differ 'α' then c.fails 1 "multiple random sources specified"
    else if o.has 'e' ∧ range.isSome then c.misused 1 "cannot combine -e and -i options"
    else if range.isSome ∧ o.operands ≠ [] then
      c.misused 1 ("extra operand " ++ quotedText (o.operands.headD ""))
    else if range.isNone ∧ o.has 'e' = false ∧ 1 < o.operands.length then
      c.misused 1 ("extra operand " ++ quotedText (o.operands.getD 1 ""))
    else
      let wanted := ((many 'n').filterMap fun entry => natural? entry.2.toList).min?
      let reads := !(o.has 'e' || range.isSome || wanted == some 0)
      let (contents, complete) := if reads then c.load o.operands else ([], true)
      let stop : UInt8 := if o.has 'z' then 0 else 10
      let asLine := fun (text : String) => toBytes text.toList ++ [stop]
      let lines := if wanted = some 0 then []
        else if o.has 'e' then o.operands.map asLine
        else match range with
          | some (a, b) => (List.range (b + 1 - a)).map fun k => asLine (toString (a + k))
          | none =>
            (linesOf true (contents.flatMap fun entry => entry.2.data) stop).1.map (· ++ [stop])
      let size := if (o.operands.headD "-") = "-" then c.inputSize else some 0
      let samples := reads && !o.has 'r' && wanted.isSome && !(size.any (· ≤ 8388608))
      let fault := contents.findSome? fun (name, content) => content.fault?.map fun text =>
        if text = Errno.isDirectory.text ∨ isInput name = true then "read error: " ++ text
        else shownName name ++ ": " ++ text
      let source : Except String Randomness := match o.value? 'α' with
        | none => .ok {}
        | some name =>
          match c.content name with
          | .bytes data => .ok { bytes := some data }
          | .endless => .ok {}
          | .fault text => .error (shownName name ++ ": " ++ text)
      let drawn := fun (r : Randomness) =>
        if o.has 'r' then
          (r.repeated lines.length (wanted.getD (c.made + 4096))).map fun places =>
            places.flatMap fun k => lines.getD k []
        else
          let room := wanted.getD lines.length
          let start := (lines.take room).toArray
          let sampled := if samples ∧ room ≤ lines.length then
              r.sample room start room (lines.drop room)
            else some (lines.toArray, r)
          match sampled with
          | none => none
          | some (lines, r) =>
            (r.order lines.size (min room lines.size) 0 (Array.range lines.size)).map fun (places, _) =>
              places.flatMap fun k => lines.getD k []
      if let some text := fault then c.fails 1 text
      else if complete = false then c.waits []
      else if o.has 'r' ∧ lines = [] ∧ wanted ≠ some 0 then c.fails 1 "no lines to repeat"
      else
        match source with
        | .error text => c.fails 1 text
        | .ok r =>
          match drawn r with
          | none => c.fails 1 (quotedText ((o.value? 'α').getD "") ++ ": end of file")
          | some printed =>
            match o.value? 'o' with
            | none =>
              if o.has 'r' ∧ wanted.isNone = true then ⟨[(1, printed)], c.files, .again⟩
              else c.ends 0 [(1, printed)]
            | some name =>
              match c.files.writeFile c.cwd (outward name) printed c.newMode false with
              | .ok files => ⟨[], files, .done 0 0⟩
              | .error e => c.fails 1 (shownName name ++ ": " ++ e.text)

end NativeBuild.Machine.Call
