import NativeBuild.Machine.Utility.Deed
import NativeBuild.Machine.Utility.Sed.Script

/-
  Running the stream editor: line after line comes into the pattern space, the commands change it,
  and what is left of it is printed.
-/

namespace NativeBuild.Machine.Sed

/-- A line that has not been read. -/
structure InputLine where
  text : List Char
  lacksEnd : Bool
  file : String

/-- Whether a range of lines has begun, and the line with which it ends if that is known. -/
inductive RangeState where
  | outside
  | inside (last : Option Nat)
  deriving DecidableEq

/-- The state of the editor. -/
structure Editor where
  space : List Char := []
  /-- The line in the pattern space lacks its end. -/
  lacksEnd : Bool := false
  held : List Char := []
  number : Nat := 0
  file : String := "-"
  left : List InputLine
  /-- More lines may come. -/
  isOpen : Bool := false
  /-- What has been printed, newest first. -/
  printed : List (List Char) := []
  /-- The line end of what was printed last is still missing. -/
  owed : Bool := false
  /-- What is printed after this line. -/
  appended : List (List Char) := []
  /-- Something has been replaced since the line was read. -/
  replaced : Bool := false
  /-- The next cycle begins without a new line. -/
  keeps : Bool := false
  ranges : List (Nat × RangeState) := []
  lastMatcher : Option Matcher := none
  /-- What has been written to files, newest first. -/
  written : List (String × List Char) := []
  /-- Lines have run out, and more may come. -/
  stalled : Bool := false
  finished : Option Nat := none

/-- How the editor works. -/
structure Manner where
  quiet : Bool := false
  program : Array Instruction
  /-- The content of a file. -/
  content : String → Option (List Char)
  ending : Char := '\n'
  wrap : Nat := 70

namespace Editor

/-- Prints a text as it is. -/
def put (cs : List Char) (e : Editor) : Editor :=
  { e with printed := cs :: (if e.owed then ['\n'] :: e.printed else e.printed), owed := false }

/-- Prints a line. -/
def putLine (m : Manner) (cs : List Char) (lacksEnd : Bool) (e : Editor) : Editor :=
  if lacksEnd then { e.put cs with owed := true } else e.put (cs ++ [m.ending])

/-- Writes a line to a file. -/
def writeTo (m : Manner) (name : String) (cs : List Char) (e : Editor) : Editor :=
  if name = "/dev/stdout" then e.putLine m cs e.lacksEnd
  else { e with written := (name, cs ++ [m.ending]) :: e.written }

/-- Prints what was to be printed after the line. -/
def flush (e : Editor) : Editor :=
  let e' := e.appended.reverse.foldl (fun e cs => if cs = [] then e else e.put cs) e
  { e' with appended := [] }

/-- The line is the last one. -/
def isLast (e : Editor) : Bool := e.left.isEmpty && !e.isOpen

/-- The next line, if there is one, after what was to be printed before. -/
def read (e : Editor) : Option (List Char × Editor) :=
  match e.left with
  | [] => none
  | line :: left =>
    let e := e.flush
    some (line.text, { e with
      left := left, lacksEnd := line.lacksEnd, number := e.number + 1, file := line.file })

/-- The expression that is meant. -/
def meant (m : Matcher) (e : Editor) : Matcher :=
  match m.regex with
  | some _ => m
  | none => e.lastMatcher.getD { m with regex := some .empty }

/-- The setting in which an expression is matched. -/
def setting (m : Matcher) (cs : List Char) : Regex.Setting :=
  { text := cs.toArray, folded := m.folded, lines := m.lines
    exact := m.regex.any Regex.hasReference }

/-- The line satisfies an address. -/
def satisfies (a : Address) (e : Editor) : Bool × Editor :=
  match a with
  | .line n => (e.number == n, e)
  | .step first every =>
    (if every = 0 then e.number == first
     else decide (first ≤ e.number) && (e.number - first) % every == 0, e)
  | .last => (e.isLast, e)
  | .matching m =>
    let m := e.meant m
    let r := m.regex.getD .empty
    ((r.search (setting m e.space) 0).isSome, { e with lastMatcher := some m })

/-- The state of the range of a command. -/
def rangeState (place : Nat) (s : Selection) (e : Editor) : RangeState :=
  (e.ranges.lookup place).getD (match s.first with
    | some (.line 0) => .inside none
    | _ => .outside)

/-- The command at a place is for this line. -/
def isSelected (place : Nat) (s : Selection) (e : Editor) : Bool × Editor :=
  match s.first with
  | none => (true, e)
  | some first =>
    match s.second with
    | none => e.satisfies first
    | some second =>
      let leave := fun (state : RangeState) (e : Editor) =>
        { e with ranges := (place, state) :: e.ranges.filter fun r => r.1 != place }
      match e.rangeState place s with
      | .inside (some n) =>
        if e.number < n then (true, e) else (e.number == n, leave .outside e)
      | .inside none =>
        match second with
        | .address a =>
          let (ends, e) := e.satisfies a
          (true, if ends then leave .outside e else e)
        | _ => (true, e)
      | .outside =>
        let (begins, e) := e.satisfies first
        if begins = false then (false, e)
        else
          match second with
          | .address (.line n) =>
            (true, if n ≤ e.number then e else leave (.inside (some n)) e)
          | .address _ => (true, leave (.inside none) e)
          | .after n => (true, if n = 0 then e else leave (.inside (some (e.number + n))) e)
          | .multiple n =>
            if n = 0 ∨ e.number % n = 0 then (true, e)
            else (true, leave (.inside (some (e.number + n - e.number % n))) e)

/-- A letter as the cases ask for it. -/
def cased (mode : Casing) (c : Char) : Char :=
  match mode with
  | .upper | .upperNext => c.toUpper
  | .lower | .lowerNext => c.toLower
  | .asIs => c

/-- Characters as the cases ask for them: a case for the next one, and one for all. -/
def casedAll (next all : Casing) : List Char → List Char × Casing
  | [] => ([], next)
  | c :: cs =>
    let first := if next = .asIs then cased all c else cased next c
    (first :: cs.map (cased all), .asIs)

/-- A replacement for a match. -/
def replacement (text : Array Char) (start : Nat) (r : Regex.Reached) (ps : List Part) :
    List Char :=
  let slice := fun (first last : Nat) => (text.toList.take last).drop first
  (ps.foldl (fun (taken, next, all) part =>
    let add := fun (cs : List Char) =>
      let (cs, next) := casedAll next all cs
      (cs :: taken, next, all)
    match part with
    | .text c => add [c]
    | .group 0 => add (slice start r.place)
    | .group n =>
      match r.groups.lookup n with
      | some (first, last) => add (slice first last)
      | none => (taken, next, all)
    | .casing .upper => (taken, .asIs, .upper)
    | .casing .lower => (taken, .asIs, .lower)
    | .casing .asIs => (taken, .asIs, .asIs)
    | .casing next => (taken, next, all))
    (([] : List (List Char)), Casing.asIs, Casing.asIs)).1.reverse.flatten

/-- Replaces matches from a place on; `before` is where the match before ended. -/
def replaceFrom (t : Regex.Setting) (r : Regex) (ps : List Part) (nth : Nat) (all : Bool) :
    Nat → Nat → Nat → Option Nat → List (List Char) × Bool
  | 0, _, _, _ => ([], false)
  | fuel + 1, count, place, before =>
    let rest := fun (from1 : Nat) => [t.text.toList.drop from1]
    if t.text.size < place then ([], false)
    else
      match r.search t place with
      | none => (rest place, false)
      | some (start, reached) =>
        let stop := reached.place
        let front := (t.text.toList.take start).drop place
        let single := (t.text[stop]?).toList
        if start = stop ∧ before = some start then
          let (more, done) := replaceFrom t r ps nth all fuel count (start + 1) none
          (front :: single :: more, done)
        else
          let count := count + 1
          let wanted := nth ≤ count
          let put := if wanted then replacement t.text start reached ps
            else (t.text.toList.take stop).drop start
          if wanted ∧ all = false then (front :: put :: rest stop, true)
          else if start = stop then
            let (more, done) := replaceFrom t r ps nth all fuel count (stop + 1) none
            (front :: put :: single :: more, done || wanted)
          else
            let (more, done) := replaceFrom t r ps nth all fuel count stop (some stop)
            (front :: put :: more, done || wanted)

/-- A character as it is shown without doubt. -/
def shownCharacter (c : Char) : List Char :=
  match c with
  | '\\' => ['\\', '\\']
  | '\x07' => ['\\', 'a']
  | '\x08' => ['\\', 'b']
  | '\x0c' => ['\\', 'f']
  | '\n' => ['\\', 'n']
  | '\r' => ['\\', 'r']
  | '\t' => ['\\', 't']
  | '\x0b' => ['\\', 'v']
  | c => if ' ' ≤ c ∧ c ≤ '~' then [c] else '\\' :: padLeft '0' 3 (Nat.toDigits 8 c.toNat)

/-- The pattern space as it is shown without doubt, in lines of a width. -/
def shownSpace (width : Nat) (cs : List Char) : List Char :=
  let (text, _) := cs.foldl (fun (taken, column) c =>
    let shown := shownCharacter c
    if 1 < width ∧ width - 1 < column + shown.length then
      (taken ++ ['\\', '\n'] ++ shown, shown.length)
    else (taken ++ shown, column + shown.length)) (([] : List Char), 0)
  text ++ ['$']

/-- Where the commands go on. -/
inductive Flow where
  | goOn (place : Nat)
  /-- The cycle ends; what is left is printed. -/
  | endCycle
  /-- The cycle ends at once. -/
  | newCycle

/-- The place of a label; the end without one. -/
def placeOf (program : Array Instruction) (name : String) : Nat :=
  if name = "" then program.size
  else
    (program.toList.findIdx? fun i => match i.action with
      | .label l => l == name
      | _ => false).getD program.size

/-- Does what a command asks for. -/
def perform (m : Manner) (place : Nat) (i : Instruction) (e : Editor) : Flow × Editor :=
  let next := Flow.goOn (place + 1)
  match i.action with
  | .block _ | .nothing | .label _ => (next, e)
  | .substitute matcher ps nth all prints file =>
    let matcher := e.meant matcher
    let t := setting matcher e.space
    let (pieces, done) := replaceFrom t (matcher.regex.getD .empty) ps nth all
      (t.text.size + 2) 0 0 none
    let e := { e with lastMatcher := some matcher }
    if done = false then (next, e)
    else
      let e := { e with space := pieces.flatten, replaced := true }
      let e := if prints then e.putLine m e.space e.lacksEnd else e
      let e := match file with
        | some name => e.writeTo m name e.space
        | none => e
      (next, e)
  | .translate table =>
    (next, { e with space := e.space.map fun c => (table.lookup c).getD c })
  | .append text => (next, { e with appended := text :: e.appended })
  | .insert text => (next, e.put text)
  | .change text =>
    let shows := i.selection.second.isNone || i.selection.negated ||
      e.rangeState place i.selection == .outside
    (.newCycle, if shows then e.put text else e)
  | .delete => (.newCycle, e)
  | .deleteFirst =>
    if e.space.contains '\n' then
      (.newCycle, { e with space := (e.space.dropWhile (· ≠ '\n')).drop 1, keeps := true })
    else (.newCycle, e)
  | .print => (next, e.putLine m e.space e.lacksEnd)
  | .printFirst =>
    (next, e.putLine m (e.space.takeWhile (· ≠ '\n')) (e.lacksEnd && !e.space.contains '\n'))
  | .next =>
    match e.left with
    | [] => if e.isOpen then (.newCycle, { e with stalled := true }) else (.endCycle, e)
    | _ =>
      let e := if m.quiet then e else e.putLine m e.space e.lacksEnd
      match e.read with
      | some (text, e) => (next, { e with space := text })
      | none => (.endCycle, e)
  | .nextAppend =>
    match e.read with
    | some (text, e) => (next, { e with space := e.space ++ '\n' :: text })
    | none => if e.isOpen then (.newCycle, { e with stalled := true }) else (.endCycle, e)
  | .hold => (next, { e with held := e.space })
  | .holdAppend => (next, { e with held := e.held ++ '\n' :: e.space })
  | .get => (next, { e with space := e.held })
  | .getAppend => (next, { e with space := e.space ++ '\n' :: e.held })
  | .exchange => (next, { e with space := e.held, held := e.space })
  | .number => (next, e.put (decimal e.number ++ ['\n']))
  | .fileName => (next, e.put (e.file.toList ++ ['\n']))
  | .clear => (next, { e with space := [] })
  | .show width => (next, e.put (shownSpace (width.getD m.wrap) e.space ++ ['\n']))
  | .quit status silent =>
    let e := if silent then e
      else (if m.quiet then e else e.putLine m e.space e.lacksEnd).flush
    (.newCycle, { e with finished := some status })
  | .branch name => (.goOn (placeOf m.program name), e)
  | .branchIf wanted name =>
    let jumps := e.replaced == wanted
    (if jumps then .goOn (placeOf m.program name) else next, { e with replaced := false })
  | .readFile name => (next, { e with appended := (m.content name).getD [] :: e.appended })
  | .writeFile name firstLine =>
    (next, e.writeTo m name (if firstLine then e.space.takeWhile (· ≠ '\n') else e.space))

/-- Runs the commands for the line in the pattern space, from a place on. -/
def runFrom (m : Manner) : Nat → Nat → Editor → Editor
  | 0, _, e => { e with finished := some 1 }
  | fuel + 1, place, e =>
    let endCycle := fun (e : Editor) =>
      (if m.quiet then e else e.putLine m e.space e.lacksEnd).flush
    match m.program[place]? with
    | none => endCycle e
    | some i =>
      let (selected, e) := e.isSelected place i.selection
      if selected == i.selection.negated then
        match i.action with
        | .block behind => runFrom m fuel behind e
        | _ => runFrom m fuel (place + 1) e
      else
        match e.perform m place i with
        | (.goOn place, e) => runFrom m fuel place e
        | (.endCycle, e) => endCycle e
        | (.newCycle, e) => if e.stalled ∨ e.finished.isSome then e else e.flush

/-- How many commands may be run for one line. -/
def commandLimit : Nat := 10000000

/-- Runs the commands for all lines. -/
def runAll (m : Manner) : Nat → Editor → Editor
  | 0, e => e
  | fuel + 1, e =>
    if e.finished.isSome ∨ e.stalled then e
    else if e.keeps then
      runAll m fuel (runFrom m commandLimit 0 { e with keeps := false })
    else
      match e.read with
      | none => e
      | some (text, e) =>
        runAll m fuel (runFrom m commandLimit 0 { e with space := text, replaced := false })

end Editor

/-- The lines of a content, in which the last may lack its end. -/
def inputLines (ending : Char) (file : String) (cs : List Char) : List InputLine :=
  let pieces := piecesAt (· == ending) cs
  let last := (pieces.getLast?).getD []
  let whole := pieces.dropLast.map fun text => ({ text, lacksEnd := false, file } : InputLine)
  if last = [] then whole else whole ++ [{ text := last, lacksEnd := true, file }]

/-- The labels that commands go to without being there. -/
def lostLabel? (program : List Instruction) : Option String :=
  let labels := program.filterMap fun i => match i.action with
    | .label name => some name
    | _ => none
  program.findSome? fun i => match i.action with
    | .branch name | .branchIf _ name =>
      if name = "" ∨ labels.contains name then none else some name
    | _ => none

/-- The files to which a script writes. -/
def outputFiles (program : List Instruction) : List String :=
  (program.filterMap fun i => match i.action with
    | .writeFile name _ => some name
    | .substitute _ _ _ _ _ file => file
    | _ => none).eraseDups.filter fun name => name != "/dev/stdout" && name != "/dev/stderr"

/-- The number of the piece of a script in which a place lies, and the place in it. -/
def pieceOf : List (List Char) → Nat → Nat → Nat × Nat
  | [], k, n => (k, n)
  | [_], k, n => (k, n)
  | piece :: rest, k, n =>
    if n ≤ piece.length then (k, n) else pieceOf rest (k + 1) (n - piece.length - 1)

end NativeBuild.Machine.Sed

namespace NativeBuild.Machine.Call

/-- What files have got of the output of an editor. -/
def storeWritten (c : Call) (files : FileTree) (names : List String) (e : Sed.Editor) : FileTree :=
  names.foldl (fun files name =>
    let content := (e.written.reverse.filter fun w => w.1 == name).flatMap (·.2)
    match files.writeFile c.cwd (outward name) (toBytes content) c.newMode false with
    | .ok files => files
    | .error _ => files) files

/-- Puts an edited file in the place of another one, which may stay under another name. -/
def replaceFile (c : Call) (files : FileTree) (name copy : String) (edited : List UInt8)
    (mode : Nat) : Except Errno FileTree := do
  match ← files.reach c.cwd false (outward name) with
  | .missing _ _ => throw .noEntry
  | .found place _ =>
    files.require place.dropLast .write
    let files ← if copy = "" then pure (files.erase place)
      else files.rename c.cwd (outward name) (outward copy)
    return files.add place (.file edited mode)

/-- Edits files in their places. -/
def editInPlace (c : Call) (m : Sed.Manner) (suffix : String) (names outputs : List String) :
    Progress :=
  let start : Sed.Editor := { left := [] }
  let (files, messages, status, e) := names.foldl
    (fun (files, messages, status, (e : Sed.Editor)) name =>
      let unread := fun (text : String) =>
        (files, messages ++ [c.message ("can't read " ++ name ++ ": " ++ text)], max status 2, e)
      match files.reach c.cwd true (outward name), ({ c with files := files } : Call).fileContent name with
      | .ok (.found _ (.file _ mode)), .bytes content =>
        let cs := ofBytes content
        let e := Sed.Editor.runAll m (cs.length + 2)
          { e with left := Sed.inputLines m.ending name cs, printed := [], owed := false, number := 0 }
        let rest := e.left.flatMap fun line =>
          line.text ++ if line.lacksEnd then [] else [m.ending]
        let edited := toBytes (e.printed.reverse.flatten ++ rest)
        let front := String.ofList ((name.toList.reverse.dropWhile (· != '/')).reverse)
        let copy := if suffix = "" then "" else if suffix.toList.contains '*' then
            (if suffix.toList.contains '/' then "" else front) ++ suffix.replace "*" (lastPiece name)
          else name ++ suffix
        match c.replaceFile files name copy edited mode with
        | .ok files => (files, messages, (e.finished.getD status), { e with finished := none })
        | .error err => (files, messages ++ [c.message ("couldn't open temporary file " ++
            (if front = "" then "./" else front) ++ "sedXXXXXX: " ++ err.text)], 4, e)
      | .ok (.found _ (.file _ _)), .fault text => unread text
      | .ok (.found _ _), _ =>
        (files, messages ++ [c.message ("couldn't edit " ++ name ++ ": not a regular file")], 4, e)
      | .ok (.missing _ _), _ => unread Errno.noEntry.text
      | .error err, _ => unread err.text)
    (c.files, ([] : List (Nat × List UInt8)), 0, start)
  ⟨messages, c.storeWritten files outputs e, .done status 0⟩

/-- Edits lines as a script says. -/
def sed (c : Call) : Progress :=
  let g : Grammar := {
    letters := "nEre:f:i::sul:zx"
    names := [("quiet", 'n'), ("silent", 'n'), ("regexp-extended", 'E'), ("expression", 'e'),
      ("file", 'f'), ("in-place", 'i'), ("separate", 's'), ("unbuffered", 'u'),
      ("line-length", 'l'), ("null-data", 'z'), ("posix", 'x')] }
  let usage := (2, toBytes ("Usage: " ++ c.title ++
    " [OPTION]... \x7bscript-only-if-no-other-script\x7d [input-file]...\n\n").toList)
  match g.read (c.arguments.length + 1) c.arguments [] [] with
  | .error ⟨text, _⟩ => c.ends 1 [c.message text, usage]
  | .ok o =>
    let given := o.given.filterMap fun (letter, value) =>
      match letter with
      | 'e' => some value.toList
      | 'f' =>
        match c.content value with
        | .bytes data =>
          let cs := ofBytes data
          some (if cs.getLast? = some '\n' then cs.dropLast else cs)
        | _ => some []
      | _ => none
    match if given ≠ [] then some (given, o.operands) else
        match o.operands with
        | [] => none
        | text :: rest => some ([text.toList], rest) with
    | none => c.ends 1 [usage]
    | some (pieces, names) =>
      let extended := o.has 'E' || o.has 'r'
      let text := List.intercalate ['\n'] pieces
      match Sed.readScript extended text with
      | .error (n, complaint) =>
        let (piece, place) := Sed.pieceOf pieces 1 n
        if complaint = Regex.confusingSet then c.fails 4 complaint
        else c.fails 1 ("-e expression #" ++ toString piece ++ ", char " ++ toString place ++ ": " ++
          complaint)
      | .ok program =>
        match Sed.lostLabel? program with
        | some name => c.fails 4 ("can't find label for jump to \x60" ++ name ++ "'")
        | none =>
          let silenced := text.take 2 = ['#', 'n'] ∧
            (text.drop 2).head?.all (· == '\n')
          let m : Sed.Manner := {
            quiet := o.has 'n' || decide silenced, program := program.toArray
            content := fun name => match c.content name with
              | .bytes data => some (ofBytes data)
              | _ => none
            ending := if o.has 'z' then '\x00' else '\n'
            wrap := (o.number? 'l').getD 70 }
          let outputs := Sed.outputFiles program
          if o.has 'i' then
            if names = [] then c.fails 4 "no input files"
            else c.editInPlace m ((o.value? 'i').getD "") names outputs
          else
            let (contents, complete) := c.load names
            let (messages, status) := contents.foldl (fun (messages, status) (name, content) =>
              match content with
              | .fault fault =>
                if fault = Errno.isDirectory.text then
                  let shown := if isInput name then "stdin" else name
                  (messages ++ [c.message ("read error on " ++ shown ++ ": " ++ fault)], 4)
                else (messages ++ [c.message ("can't read " ++ name ++ ": " ++ fault)], max status 2)
              | _ => (messages, status)) (([] : List (Nat × List UInt8)), 0)
            let lists := contents.map fun (name, content) => match content with
              | .bytes data => Sed.inputLines m.ending name (ofBytes data)
              | _ => []
            let separate := o.has 's'
            let runs := if separate then lists else [lists.flatten]
            let runs := if complete then runs
              else runs.dropLast ++ (runs.getLast?.toList.map List.dropLast)
            let last := runs.length - 1
            let e := runs.zipIdx.foldl (fun (e : Sed.Editor) (lines, k) =>
              if e.finished.isSome ∨ e.stalled then e
              else
                let e := { e with
                  left := lines, isOpen := !complete && k == last
                  number := if separate then 0 else e.number }
                Sed.Editor.runAll m (2 * total (lines.map fun l => l.text.length + 2) + 2) e)
              { left := [] }
            let shown := messages ++ [(1, toBytes e.printed.reverse.flatten)]
            match complete, e.finished with
            | false, none => c.waits shown
            | _, finished =>
              ⟨shown, c.storeWritten c.files outputs e, .done (finished.getD status) 0⟩

end NativeBuild.Machine.Call
