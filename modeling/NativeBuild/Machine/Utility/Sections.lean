import NativeBuild.Machine.Format
import NativeBuild.Machine.Regex
import NativeBuild.Machine.Utility.Deed

/-
  Sections of a file: `csplit` cuts it before lines that are given by their numbers or found by
  expressions, writes each section to a file of its own, and tells how long it is. If a line is not
  found the files are taken away again.
-/

namespace NativeBuild.Machine.Call

/-- How often a cut is made. -/
inductive CutCount where
  | times (more : Nat)
  | always
  deriving Repr, DecidableEq

/-- The repetition of a number is still made. -/
def CutCount.covers : CutCount → Nat → Bool
  | times more, k => k ≤ more
  | always, _ => true

/-- Where a section ends. -/
inductive CutPlace where
  /-- Before every line whose number is a multiple of this one. -/
  | line (number : Nat)
  /-- So many lines behind a line that an expression is found in; the section may be passed over. -/
  | found (regex : Regex) (offset : Int) (isSkipped : Bool)

/-- A cut. -/
structure Cut where
  /-- The argument that tells it. -/
  argument : String
  place : CutPlace
  count : CutCount := .times 0

/-- A number with a sign. -/
def signedNumber? (text : String) : Option Int :=
  match text.toList with
  | '+' :: cs => (natural? cs).map Int.ofNat
  | '-' :: cs => (natural? cs).map fun n => -(n : Int)
  | cs => (natural? cs).map Int.ofNat

/-- Reads a cut at an expression between delimiters. -/
def readFoundCut (argument : String) (delimiter : Char) (cs : List Char) : Except String Cut :=
  let behind := cs.reverse.takeWhile (· ≠ delimiter)
  if behind.length = cs.length then
    .error (argument ++ ": closing delimiter '" ++ String.ofList [delimiter] ++ "' missing")
  else
    let text := cs.take (cs.length - behind.length - 1)
    match Regex.parse { emptyRanges := true } text with
    | .error fault => .error (quotedText argument ++ ": invalid regular expression: " ++ fault)
    | .ok parsed =>
      let offset := if behind = [] then some 0 else signedNumber? (String.ofList behind.reverse)
      match offset with
      | some n => .ok { argument := argument, place := .found parsed.regex n (delimiter == '%') }
      | none => .error (quotedText argument ++ ": integer expected after delimiter")

/-- Reads the repetitions of a cut. -/
def readCutCount (argument : String) (cs : List Char) : Except String CutCount :=
  if cs.getLast? ≠ some '\x7d' then
    .error (quotedText argument ++ ": '\x7d' is required in repeat count")
  else
    let inner := (cs.drop 1).dropLast
    if inner = ['*'] then .ok .always
    else
      match natural? inner with
      | some n => .ok (.times n)
      | none =>
        .error (quotedText (String.ofList cs.dropLast) ++
          "\x7d: integer required between '\x7b' and '\x7d'")

/-- Reads cuts, with warnings. Line numbers must not get smaller. -/
def readCuts : Nat → Nat → List String → Except (String × List String) (List Cut × List String)
  | 0, _, _ => .ok ([], [])
  | _, _, [] => .ok ([], [])
  | fuel + 1, last, argument :: rest =>
    let one : Except String (Cut × Nat × List String) :=
      match argument.toList with
      | '/' :: cs => (readFoundCut argument '/' cs).map fun cut => (cut, last, [])
      | '%' :: cs => (readFoundCut argument '%' cs).map fun cut => (cut, last, [])
      | cs =>
        match natural? cs with
        | none => .error (quotedText argument ++ ": invalid pattern")
        | some 0 => .error (argument ++ ": line number must be greater than zero")
        | some n =>
          if n < last then
            .error ("line number " ++ quotedText argument ++ " is smaller than preceding line number, " ++
              toString last)
          else
            let warnings := if n = last then ["warning: line number " ++ quotedText argument ++
              " is the same as preceding line number"] else []
            .ok ({ argument := argument, place := .line n }, n, warnings)
    match one with
    | .error text => .error (text, [])
    | .ok (cut, last, warnings) =>
      let counted : Except String (Cut × List String) :=
        match rest with
        | next :: more =>
          if next.toList.head? = some '\x7b' then
            (readCutCount next next.toList).map fun count => ({ cut with count := count }, more)
          else .ok (cut, rest)
        | [] => .ok (cut, rest)
      match counted with
      | .error text => .error (text, warnings)
      | .ok (cut, rest) =>
        match readCuts fuel last rest with
        | .error (text, more) => .error (text, warnings ++ more)
        | .ok (cuts, more) => .ok (cut :: cuts, warnings ++ more)

/-- What is wrong with the format of numbers in names. It has to have one conversion. -/
def suffixFault? (cs : List Char) : Option String :=
  let conversions := (piecesAt (· == '%') (substituted "%%" "" (String.ofList cs)).toList).drop 1
  match conversions with
  | [] => some "missing % conversion specification in suffix"
  | [conversion] =>
    let body := conversion.dropWhile fun c => c.isDigit || "-+ #0'.".toList.contains c
    match body with
    | [] => some "missing conversion specifier in suffix"
    | c :: _ =>
      if "diouxX".toList.contains c then none
      else some ("invalid conversion specifier in suffix: " ++ String.ofList [c])
  | _ => some "too many % conversion specifications in suffix"

/-- How sections are named and told about. -/
structure SectionStyle where
  front : String := "xx"
  suffix : String := "%02d"
  keepsFiles : Bool := false
  isQuiet : Bool := false
  dropsEmpty : Bool := false
  dropsFound : Bool := false

/-- The name of the file of a section. -/
def SectionStyle.name (s : SectionStyle) (k : Nat) : String :=
  s.front ++ String.ofList ((format s.suffix.toList [toString k]).printed.reverse.flatten)

/-- What is left of a file that is cut. -/
structure Cutting where
  /-- The lines that are left, with their ends, and the number of the first one. -/
  rest : List (List UInt8)
  first : Nat := 1
  /-- The line that was looked at last. -/
  current : Nat := 0
  /-- What the section holds so far that is being written. -/
  piece : Option (List UInt8) := none
  /-- How many sections have been written. -/
  made : Nat := 0

/-- Cuts a file. It may break off. -/
abbrev Cutter := ExceptT Unit (StateT Cutting Work)

namespace Cutter

/-- Writes a part of a section to its file. -/
def writePiece (c : Call) (s : SectionStyle) (k : Nat) (content : List UInt8) : Cutter Unit := do
  let path := s.name k
  let t : FileTree ← (Work.files : Work FileTree)
  let fault ← (Work.attempt (t.writeFile c.cwd (outward path) content c.newMode false) :
    Work (Option Errno))
  if let some e := fault then
    (c.complain (shownName path ++ ": " ++ e.text) : Work Unit)
    throw ()

/-- Ends a section and tells its size. -/
def closePiece (c : Call) (s : SectionStyle) : Cutter Unit := do
  let k ← get
  match k.piece with
  | none => return
  | some content =>
    set { k with piece := none }
    if content = [] ∧ s.dropsEmpty then
      let t : FileTree ← (Work.files : Work FileTree)
      let _ ← (Work.attempt (t.removeFile c.cwd (outward (s.name (k.made - 1)))) : Work (Option Errno))
      modify fun k => { k with made := k.made - 1 }
    else
      writePiece c s (k.made - 1) content
      unless s.isQuiet do (Work.say (toString content.length) : Work Unit)

/-- Breaks off: what was made is taken away. -/
def giveUp {α : Type} (c : Call) (s : SectionStyle) : Cutter α := do
  (Work.markFailed : Work Unit)
  closePiece c s
  unless s.keepsFiles do
    for k in List.range (← get).made do
      let t : FileTree ← (Work.files : Work FileTree)
      let _ ← (Work.attempt (t.removeFile c.cwd (outward (s.name k))) : Work (Option Errno))
  throw ()

/-- Complains and breaks off. A complaint may come before or after what has been told so far. -/
def complain {α : Type} (c : Call) (s : SectionStyle) (isLate : Bool) (text : String) : Cutter α := do
  if isLate then (c.complain text : Work Unit)
  else (Work.writeError (c.title ++ ": " ++ text ++ "\n") : Work Unit)
  giveUp c s

/-- Begins a section. -/
def openPiece (c : Call) (s : SectionStyle) : Cutter Unit := do
  modify fun k => { k with piece := some [], made := k.made + 1 }
  writePiece c s ((← get).made - 1) []

/-- Takes the first line that is left. -/
def takeLine : Cutter (Option (List UInt8)) := do
  let k ← get
  match k.rest with
  | [] => return none
  | line :: rest =>
    set { k with rest := rest, first := k.first + 1, current := max k.current k.first }
    return some line

/-- Adds a line to the section. -/
def keep (line : List UInt8) : Cutter Unit :=
  modify fun k => { k with piece := k.piece.map (· ++ line) }

/-- Adds all that is left to the section. -/
def keepRest : Cutter Unit :=
  modify fun k => { k with
    piece := k.piece.map (· ++ k.rest.flatten), rest := [], first := k.first + k.rest.length }

/-- Ends a section before a line of a number. -/
def cutAtLine (c : Call) (s : SectionStyle) (number repetition : Nat) : Cutter Unit := do
  let outOfRange : Cutter Unit := complain c s false (quotedText (toString number) ++
    ": line number out of range" ++
    if repetition = 0 then "" else " on repetition " ++ toString repetition)
  openPiece c s
  if s.dropsFound ∧ (← get).rest = [] then outOfRange
  if (← get).rest = [] then
    (c.complain "input disappeared" : Work Unit)
    throw ()
  for _ in List.range (number * (repetition + 1) - (← get).first) do
    match ← takeLine with
    | none => outOfRange
    | some line => keep line
  closePiece c s
  if s.dropsFound then
    let _ ← takeLine
  if (← get).rest = [] ∧ s.dropsFound = false then outOfRange

/-- Looks for a line, from the one behind the last one that was looked at. Where lines need not be
held back, those that are passed go into the section. -/
def search (regex : Regex) (isSkipped holdsBack : Bool) : Nat → Cutter Bool
  | 0 => return false
  | fuel + 1 => do
    modify fun k => { k with current := k.current + 1 }
    let k ← get
    match if k.current < k.first then none else k.rest[k.current - k.first]? with
    | none => return false
    | some line =>
      let text := if line.getLast? = some 10 then line.dropLast else line
      if regex.isIn (ofBytes text) then return true
      else
        unless holdsBack do
          if let some line ← takeLine then
            unless isSkipped do keep line
        search regex isSkipped holdsBack fuel

/-- Ends a section near a line that is found. -/
def cutAtFound (c : Call) (s : SectionStyle) (cut : Cut) (regex : Regex) (offset : Int)
    (isSkipped : Bool) (repetition : Nat) : Cutter Unit := do
  unless isSkipped do openPiece c s
  if (← search regex isSkipped (offset < 0) ((← get).rest.length + 2)) = false then
    if cut.count = .always then
      unless isSkipped do
        keepRest
        closePiece c s
      throw ()
    else
      (Work.writeError (c.title ++ ": " ++ quotedText cut.argument ++ ": match not found" ++
        (if repetition = 0 then "" else " on repetition " ++ toString repetition) ++ "\n") : Work Unit)
      unless isSkipped do
        keepRest
        closePiece c s
      giveUp c s
  let stop : Int := (← get).current + offset
  let outOfRange : Cutter Unit :=
    complain c s true (quotedText cut.argument ++ ": line number out of range")
  let first := (← get).first
  if stop < first then outOfRange
  for _ in List.range (stop - first).toNat do
    match ← takeLine with
    | none => outOfRange
    | some line => unless isSkipped do keep line
  unless isSkipped do closePiece c s
  if 0 < offset then modify fun k => { k with current := stop.toNat }
  if s.dropsFound then
    let _ ← takeLine

/-- Makes a cut as often as it is to be made. -/
def cutAll (c : Call) (s : SectionStyle) (cut : Cut) : Nat → Nat → Cutter Unit
  | 0, _ => return
  | fuel + 1, repetition => do
    if cut.count.covers repetition then
      match cut.place with
      | .line number => cutAtLine c s number repetition
      | .found regex offset isSkipped => cutAtFound c s cut regex offset isSkipped repetition
      cutAll c s cut fuel (repetition + 1)

/-- Makes all cuts, and a section of what is left. -/
def cutFile (c : Call) (s : SectionStyle) (cuts : List Cut) : Cutter Unit := do
  let fuel := 2 * (← get).rest.length + 3
  for cut in cuts do
    let times := match cut.count with
      | .times more => more + 1
      | .always => fuel
    cutAll c s cut (min times fuel) 0
  openPiece c s
  keepRest
  closePiece c s

end Cutter

/-- Cuts a file into sections. -/
def csplit (c : Call) : Progress :=
  let g : Grammar := {
    letters := "b:f:kn:sqzμ"
    names := [("prefix", 'f'), ("suffix-format", 'b'), ("digits", 'n'), ("quiet", 'q'),
      ("silent", 's'), ("keep-files", 'k'), ("elide-empty-files", 'z'), ("suppress-matched", 'μ')] }
  let refuse := fun (letter : Char) (value : String) =>
    if letter = 'n' ∧ (natural? value.toList).isNone then
      some (c.fails 1 ("invalid number: " ++ quotedText value))
    else none
  c.withChecked 1 g refuse fun o =>
    match o.operands with
    | [] => c.misused 1 "missing operand"
    | [a] => c.misused 1 ("missing operand after " ++ quotedText a)
    | name :: arguments =>
      match (o.value? 'b').bind fun v => suffixFault? v.toList with
      | some text => c.fails 1 text
      | none =>
        let (contents, complete) := c.load [name]
        match contents.findSome? fun entry => entry.2.fault? with
        | some text =>
          if text = Errno.isDirectory.text then
            let sizes := if o.has 's' || o.has 'q' then [] else [(1, toBytes ['0', '\n'])]
            c.ends 1 (c.message ("read error: " ++ text) :: sizes)
          else c.fails 1 ("cannot open " ++ quotedName name ++ " for reading: " ++ text)
        | none =>
          match readCuts (arguments.length + 1) 0 arguments with
          | .error (text, warnings) => c.ends 1 ((warnings ++ [text]).map c.message)
          | .ok (cuts, warnings) =>
            if complete = false then c.waits []
            else
              let s : SectionStyle := {
                front := (o.value? 'f').getD "xx"
                suffix := (o.value? 'b').getD ("%0" ++ (o.value? 'n').getD "2" ++ "d")
                keepsFiles := o.has 'k', isQuiet := o.has 's' || o.has 'q'
                dropsEmpty := o.has 'z', dropsFound := o.has 'μ' }
              let data := contents.flatMap fun entry => entry.2.data
              let (lines, lacksEnd) := linesOf true data
              let whole := lines.zipIdx.map fun (line, k) =>
                if lacksEnd ∧ k + 1 = lines.length then line else line ++ [10]
              c.perform do
                for text in warnings do c.warn text
                let _ ← ((Cutter.cutFile c s cuts).run.run { rest := whole } : Work _)
                return

end NativeBuild.Machine.Call
