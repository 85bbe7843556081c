import NativeBuild.Machine.Utility.Runs

/-
  Two files in order, side by side: `comm` tells which lines both have, and `join` puts lines of
  equal keys together. Both go through the files once, and complain when they see that one is not in
  order and lines have found no partner.
-/

namespace NativeBuild.Machine.Call

/-- The order of two texts as they are. -/
def byteOrder (a b : List UInt8) : Ordering :=
  if a.map UInt8.toNat < b.map UInt8.toNat then .lt
  else if b.map UInt8.toNat < a.map UInt8.toNat then .gt else .eq

/-- When the order of lines is looked at: never, when it may matter, or always. -/
inductive OrderCheck where
  | never
  | whenUnpaired
  | always
  deriving Repr, DecidableEq

/-- A choice of when the order of lines is looked at; the last one counts. -/
def orderCheck (o : Options) (never always : Char) : OrderCheck :=
  match o.last? [never, always] with
  | some letter => if letter = never then .never else .always
  | none => .whenUnpaired

/-- A file that is gone through: the lines behind the current one, the current one, and those before,
newest first. -/
structure Passage where
  current : Option (List UInt8)
  ahead : List (List UInt8)
  passed : List (List UInt8) := []
  isBroken : Bool := false

namespace Passage

/-- The start of a passage. -/
def start (lines : List (List UInt8)) : Passage := { current := lines.head?, ahead := lines.drop 1 }

/-- Goes on to the next line. -/
def next (p : Passage) : Passage :=
  { p with current := p.ahead.head?, ahead := p.ahead.drop 1, passed := p.current.toList ++ p.passed }

/-- The two lines whose order shows after a step: the last one and the new one, or the last two at the
end. -/
def latest (p : Passage) : Option (List UInt8 × List UInt8) :=
  match p.current, p.passed with
  | some line, last :: _ => some (last, line)
  | none, last :: before :: _ => some (before, last)
  | _, _ => none

end Passage

/-- What has been found in two files: lines in columns, newest first, and complaints. -/
structure Comparison where
  left : Passage
  right : Passage
  lines : List (Nat × List UInt8) := []
  complaints : List String := []
  isUnpaired : Bool := false
  isStopped : Bool := false

namespace Comparison

/-- Looks at the order of the latest lines of a file. -/
def check (k : OrderCheck) (number : Nat) (p : Passage) (c : Comparison) : Passage × Comparison :=
  let looks := k == .always || (k == .whenUnpaired && c.isUnpaired)
  if !looks || p.isBroken || c.isStopped then (p, c)
  else match p.latest with
    | some (a, b) =>
      if byteOrder a b = .gt then
        ({ p with isBroken := true }, { c with
          complaints := ("file " ++ toString number ++ " is not in sorted order") :: c.complaints
          isStopped := k == .always })
      else (p, c)
    | none => (p, c)

/-- Takes the smaller of two lines, or both if they are equal. -/
def step (k : OrderCheck) (c : Comparison) : Comparison :=
  let order := match c.left.current, c.right.current with
    | some a, some b => byteOrder a b
    | none, _ => .gt
    | _, none => .lt
  let line := ((if order = .lt then c.left else c.right).current).getD []
  let column := match order with
    | .lt => 0
    | .gt => 1
    | .eq => 2
  let c := { c with
    lines := (column, line) :: c.lines, isUnpaired := c.isUnpaired || order != .eq }
  let c := if order = .gt then c else
    let (p, c) := check k 1 c.left.next c
    { c with left := p }
  if order = .lt then c else
    let (p, c) := check k 2 c.right.next c
    { c with right := p }

/-- Goes through both files. -/
def run (k : OrderCheck) : Nat → Comparison → Comparison
  | 0, c => c
  | fuel + 1, c =>
    if c.isStopped || (c.left.current.isNone && c.right.current.isNone) then c
    else run k fuel (c.step k)

end Comparison

/-- Compares two sorted files line by line. -/
def comm (c : Call) : Progress :=
  let g : Grammar := {
    letters := "123zα:βγδ"
    names := [("check-order", 'γ'), ("nocheck-order", 'δ'), ("output-delimiter", 'α'),
      ("total", 'β'), ("zero-terminated", 'z')] }
  c.withOptions 1 g fun o =>
    match o.operands with
    | [] => c.misused 1 "missing operand"
    | [a] => c.misused 1 ("missing operand after " ++ quotedText a)
    | [a, b] =>
      let delimiters := ((o.given.filter (·.1 == 'α')).map (·.2)).eraseDups
      let (contents, complete) := c.load [a, b]
      match contents.findSome? fun (name, content) => content.fault?.map fun text => (name, text) with
      | some (name, text) => c.fails 1 (shownName name ++ ": " ++ text)
      | none =>
        if 1 < delimiters.length then c.fails 1 "multiple output delimiters specified"
        else if complete = false then c.waits []
        else
          let stop : UInt8 := if o.has 'z' then 0 else 10
          let tab := match delimiters with
            | [] => [9]
            | text :: _ => if text = "" then [0] else toBytes text.toList
          let lines := contents.map fun (_, content) => (linesOf true content.data stop).1
          let lines := if isInput a ∧ isInput b then [lines.getD 0 [], []] else lines
          let left := lines.getD 0 []
          let right := lines.getD 1 []
          let found := Comparison.run (orderCheck o 'δ' 'γ') (left.length + right.length + 1)
            { left := .start left, right := .start right }
          let hidden := fun (k : Nat) => o.has (['1', '2', '3'].getD k '1')
          let front := fun (k : Nat) =>
            ((List.range k).filter fun j => !hidden j).flatMap fun _ => tab
          let shown := found.lines.reverse.filterMap fun (k, line) =>
            if hidden k then none else some (front k ++ line)
          let total := if o.has 'β' ∧ found.isStopped = false then
              let number := fun (k : Nat) =>
                toBytes (decimal (found.lines.countP fun line => line.1 == k)) ++ tab
              [number 0 ++ number 1 ++ number 2 ++ toBytes "total".toList]
            else []
          let complaints := found.complaints.reverse.map c.message
          let last := if complaints ≠ [] ∧ found.isStopped = false then
              [c.message "input is not in sorted order"] else []
          c.ends (if complaints = [] then 0 else 1)
            (complaints ++ [(1, unlines (shown ++ total) false stop)] ++ last)
    | _ :: _ :: extra :: _ => c.misused 1 ("extra operand " ++ quotedText extra)

/-- A field of a joined line: the key, or a field of one of the files, counted from zero. -/
inductive FieldChoice where
  | key
  | field (file : Nat) (number : Nat)
  deriving Repr, DecidableEq

/-- How lines are joined. -/
structure JoinTask where
  separator : Option UInt8 := none
  ignoresCase : Bool := false
  stop : UInt8 := 10
  keys : Nat × Nat := (0, 0)
  /-- Lines without a partner are shown, of either file. -/
  unpaired : Bool × Bool := (false, false)
  showsPairs : Bool := true
  filler : List UInt8 := []
  fields : List FieldChoice := []
  /-- How many fields are shown of lines of either file, if they are all to have the same number. -/
  counts : Option (Nat × Nat) := none
  check : OrderCheck := .whenUnpaired
  /-- The first line of each file is a heading. -/
  isHeaded : Bool := false

/-- A line that is joined: its number, its text, and its fields. -/
structure JoinLine where
  number : Nat
  text : List UInt8
  fields : List (List UInt8)
  deriving DecidableEq

namespace JoinTask

/-- The fields of a line. -/
def fieldsOf (t : JoinTask) (line : List UInt8) : List (List UInt8) :=
  if line = [] then []
  else match t.separator with
    | some b => if b = 10 then [line] else piecesAt (· == b) line
    | none =>
      let isBlank := fun (b : UInt8) => b == 32 || b == 9 || b == 10
      let body := line.dropWhile isBlank
      let words := (piecesAt isBlank body).filter (· ≠ [])
      if body ≠ [] ∧ body.getLast?.any isBlank then words ++ [[]] else words

/-- The lines of a content. -/
def linesOf (t : JoinTask) (data : List UInt8) : List JoinLine :=
  ((Call.linesOf true data t.stop).1.zipIdx).map fun (line, k) => ⟨k + 1, line, t.fieldsOf line⟩

/-- The order of the keys of two lines. -/
def compareKeys (t : JoinTask) (i j : Nat) (a b : JoinLine) : Ordering :=
  let part := fun (k : Nat) (line : JoinLine) =>
    let bytes := line.fields.getD k []
    if t.ignoresCase then upperBytes bytes else bytes
  byteOrder (part i a) (part j b)

/-- A field of a line, or what stands for one that is missing or empty. -/
def fieldText (t : JoinTask) (line : Option JoinLine) (k : Nat) : List UInt8 :=
  match (line.map (·.fields.getD k [])).getD [] with
  | [] => t.filler
  | bytes => bytes

/-- Two lines joined, of which one may be missing. -/
def joined (t : JoinTask) (a b : Option JoinLine) : List UInt8 :=
  let between := [t.separator.getD 32]
  let key := match a with
    | some _ => t.fieldText a t.keys.1
    | none => t.fieldText b t.keys.2
  let others := fun (line : Option JoinLine) (k count : Nat) =>
    ((List.range count).filter (· ≠ k)).map (t.fieldText line)
  if t.fields ≠ [] then
    List.intercalate between (t.fields.map fun choice => match choice with
      | .key => key
      | .field file k => t.fieldText (if file = 1 then a else b) k)
  else
    let size := fun (line : Option JoinLine) => (line.map (·.fields.length)).getD 0
    let (m, n) := t.counts.getD (size a, size b)
    List.intercalate between (key :: others a t.keys.1 m ++ others b t.keys.2 n)

end JoinTask

/-- Where a joining stands. -/
structure Joining where
  left : List JoinLine
  right : List JoinLine
  output : List (List UInt8) := []
  isUnpaired : Bool := false
  /-- How many lines of each file have been read, the files that are not in order, and the
  complaints about them. -/
  reached : Nat × Nat := (0, 0)
  broken : List Nat := []
  complaints : List String := []
  isStopped : Bool := false

namespace Joining

/-- Reads the lines of a file up to one of them, and looks at their order. -/
def reach (t : JoinTask) (names : Nat → String) (file : Nat) (all : Array JoinLine) (goal : Nat)
    (j : Joining) : Joining :=
  let old := if file = 1 then j.reached.1 else j.reached.2
  let goal := min goal all.size
  let looks := t.check == .always || (t.check == .whenUnpaired && j.isUnpaired)
  let key := if file = 1 then t.keys.1 else t.keys.2
  let fault := if !looks || j.broken.contains file || j.isStopped then none
    else ((List.range goal).drop old).findSome? fun k =>
      match all[k - 1]?, all[k]? with
      | some a, some b => if 0 < k ∧ t.compareKeys key key a b = .gt then some b else none
      | _, _ => none
  let j := if file = 1 then { j with reached := (max old goal, j.reached.2) }
    else { j with reached := (j.reached.1, max old goal) }
  match fault with
  | none => j
  | some line =>
    let text := names file ++ ":" ++ toString (line.number + t.isHeaded.toNat) ++ ": is not sorted: " ++
      String.ofList (ofBytes line.text)
    { j with
      broken := file :: j.broken, complaints := text :: j.complaints
      isStopped := t.check == .always }

/-- Goes through both files as long as both have lines. -/
def run (t : JoinTask) (names : Nat → String) (first second : Array JoinLine) :
    Nat → Joining → Joining
  | 0, j => j
  | fuel + 1, j =>
    if j.isStopped then j
    else match j.left, j.right with
      | a :: left, b :: right =>
        match t.compareKeys t.keys.1 t.keys.2 a b with
        | .lt =>
          let j := { j with
            output := if t.unpaired.1 then t.joined (some a) none :: j.output else j.output
            left := left }
          let j := j.reach t names 1 first (a.number + 1)
          run t names first second fuel { j with isUnpaired := true }
        | .gt =>
          let j := { j with
            output := if t.unpaired.2 then t.joined none (some b) :: j.output else j.output
            right := right }
          let j := j.reach t names 2 second (b.number + 1)
          run t names first second fuel { j with isUnpaired := true }
        | .eq =>
          let mine := (a :: left).takeWhile fun x => t.compareKeys t.keys.1 t.keys.2 x b == .eq
          let theirs := (b :: right).takeWhile fun y => t.compareKeys t.keys.1 t.keys.2 a y == .eq
          let j := j.reach t names 1 first (a.number + mine.length)
          let j := j.reach t names 2 second (b.number + theirs.length)
          let pairs := if t.showsPairs then
              mine.flatMap fun x => theirs.map fun y => t.joined (some x) (some y)
            else []
          run t names first second fuel { j with
            output := pairs.reverse ++ j.output
            left := (a :: left).drop mine.length, right := (b :: right).drop theirs.length }
      | _, _ => j

/-- What is left of the files when one of them has ended. -/
def finish (t : JoinTask) (names : Nat → String) (first second : Array JoinLine) (j : Joining) :
    Joining :=
  let looksOn := t.check != .never && j.broken.length < 2
  let j := if (t.unpaired.1 || looksOn) && j.left != [] then
      let j := { j with isUnpaired := j.isUnpaired || j.right != [] }
      let j := j.reach t names 1 first first.size
      if t.unpaired.1 then
        { j with output := (j.left.map fun a => t.joined (some a) none).reverse ++ j.output }
      else j
    else j
  if (t.unpaired.2 || looksOn) && j.right != [] then
    let j := { j with isUnpaired := j.isUnpaired || j.left != [] }
    let j := j.reach t names 2 second second.size
    if t.unpaired.2 then
      { j with output := (j.right.map fun b => t.joined none (some b)).reverse ++ j.output }
    else j
  else j

end Joining

/-- The number of a field, counted from zero. -/
def fieldIndex (text : String) : Except String Nat :=
  match amount? "" text with
  | .ok 0 => .error ("invalid field number: " ++ quotedText text)
  | .ok n => .ok (n - 1)
  | .error .tooLarge => .ok (Nat.pow 2 64)
  | .error _ => .error ("invalid field number: " ++ quotedText text)

/-- Reads a list of fields. -/
def fieldChoices (text : String) : Except String (List FieldChoice) :=
  (piecesAt (fun c => c == ',' || c == ' ' || c == '\t') text.toList).mapM fun piece =>
    match piece with
    | ['0'] => .ok .key
    | '0' :: _ => .error ("invalid field specifier: " ++ quotedText (String.ofList piece))
    | file :: rest =>
      if file ≠ '1' ∧ file ≠ '2' then
        .error ("invalid file number in field spec: " ++ quotedText (String.ofList piece))
      else
        match rest with
        | '.' :: digits =>
          (fieldIndex (String.ofList digits)).map fun k => .field (digitValue file) k
        | _ => .error ("invalid field specifier: " ++ quotedText (String.ofList piece))
    | [] => .error "invalid file number in field spec: ''"

/-- Joins the lines of two sorted files that have equal keys. -/
def join (c : Call) : Progress :=
  let g : Grammar := {
    letters := "a:e:i1:2:j:o:t:v:zαβγ"
    names := [("ignore-case", 'i'), ("check-order", 'α'), ("nocheck-order", 'β'),
      ("zero-terminated", 'z'), ("header", 'γ')] }
  let refuse := fun (letter : Char) (value : String) =>
    let failed := fun {α : Type} (result : Except String α) => match result with
      | .error text => some (c.fails 1 text)
      | .ok _ => none
    match letter with
    | 'a' | 'v' => match natural? value.toList with
      | some 1 | some 2 => none
      | _ => some (c.fails 1 ("invalid field number: " ++ quotedText value))
    | '1' | '2' | 'j' => failed (fieldIndex value)
    | 'o' => if value = "auto" then none else failed (fieldChoices value)
    | 't' => if (toBytes value.toList).length ≤ 1 ∨ value = "\\0" then none
      else some (c.fails 1 ("multi-character tab " ++ quotedText value))
    | _ => none
  c.withChecked 1 g refuse fun o =>
    -- Operands that are too many are fields if fields are asked for.
    let surplus := if o.has 'o' then o.operands.length - 2 else 0
    let operands := o.operands.drop surplus
    let lists := ((o.given.filter fun (l, v) => l == 'o' && v != "auto").map (·.2)) ++
      o.operands.take surplus
    match lists.mapM fieldChoices, operands with
    | .error text, _ => c.fails 1 text
    | _, [] => c.misused 1 "missing operand"
    | _, [_] => c.misused 1 ("missing operand after " ++ quotedText (c.arguments.getLastD ""))
    | _, _ :: _ :: extra :: _ => c.misused 1 ("extra operand " ++ quotedText extra)
    | .ok fields, [a, b] =>
      let index := fun (letter : Char) =>
        ((o.last? [letter, 'j']).bind o.value?).bind fun v => (fieldIndex v).toOption
      let fillers := ((o.given.filter (·.1 == 'e')).map (·.2)).eraseDups
      let shows := fun (file : String) => o.given.any fun (l, v) => (l == 'a' || l == 'v') && v == file
      let indices := fun (letter : Char) =>
        ((o.given.filterMap fun (l, v) =>
          if l = letter ∨ l = 'j' then (fieldIndex v).toOption else none).eraseDups).map toString
      let clash := [indices '1', indices '2'].find? fun list => 1 < list.length
      let tabs := ((o.given.filter (·.1 == 't')).map (·.2)).eraseDups
      if clash.isSome then
        c.fails 1 ("incompatible join fields " ++ ", ".intercalate ((clash.getD []).take 2))
      else if 1 < tabs.length then c.fails 1 "incompatible tabs"
      else if 1 < fillers.length then c.fails 1 "conflicting empty-field replacement strings"
      else if a = "-" ∧ b = "-" then c.fails 1 "both files cannot be standard input"
      else
        let (contents, complete) := c.load [a, b]
        match contents.findSome? fun (name, content) => content.fault?.map fun text => (name, text) with
        | some (name, text) =>
          c.fails 1 (if text = Errno.isDirectory.text then "read error: " ++ text
            else shownName name ++ ": " ++ text)
        | none =>
          if complete = false then c.waits []
          else
            let separator := (o.value? 't').map fun v => match toBytes v.toList with
              | [] => (10 : UInt8)
              | [b] => b
              | _ => 0
            let task : JoinTask := {
              separator := separator, ignoresCase := o.has 'i', stop := if o.has 'z' then 0 else 10
              keys := ((index '1').getD 0, (index '2').getD 0), unpaired := (shows "1", shows "2")
              showsPairs := !o.has 'v', filler := toBytes (fillers.headD "").toList
              fields := fields.flatten, check := orderCheck o 'β' 'α', isHeaded := o.has 'γ' }
            let lines := contents.map fun (_, content) => task.linesOf content.data
            let left := lines.getD 0 []
            let right := lines.getD 1 []
            let size := fun (lines : List JoinLine) => (lines.head?.map (·.fields.length)).getD 0
            let task := if o.given.any fun (l, v) => l == 'o' && v == "auto" then
                { task with counts := some (size left, size right) } else task
            let heads := if o.has 'γ' ∧ (left ≠ [] ∨ right ≠ []) then
                [task.joined (some (left.headD ⟨0, [], []⟩)) (some (right.headD ⟨0, [], []⟩))] else []
            let (left, right) := if o.has 'γ' then (left.drop 1, right.drop 1) else (left, right)
            let renumbered := fun (lines : List JoinLine) => lines.zipIdx.map fun (line, k) =>
              { line with number := k + 1 }
            let (first, second) := ((renumbered left).toArray, (renumbered right).toArray)
            let names := fun (file : Nat) => if file = 1 then a else b
            let j := Joining.run task names first second (left.length + right.length + 1)
              { left := first.toList, right := second.toList, reached := (1, 1) }
            let j := if j.isStopped then j else j.finish task names first second
            let complaints := j.complaints.reverse.map c.message
            let last := if complaints ≠ [] ∧ j.isStopped = false then
                [c.message "input is not in sorted order"] else []
            c.ends (if complaints = [] then 0 else 1)
              (complaints ++ [(1, unlines (heads ++ j.output.reverse) false task.stop)] ++ last)

end NativeBuild.Machine.Call
