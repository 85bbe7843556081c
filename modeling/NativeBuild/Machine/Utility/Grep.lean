import NativeBuild.Machine.Regex
import NativeBuild.Machine.Utility.Call

/-
  Searching: `grep` prints the lines in which there is a match, or counts them, or prints the
  matches themselves.
-/

namespace NativeBuild.Machine.Call

/-- What is searched for, and what is shown of it. -/
structure Search where
  patterns : List Regex
  folded : Bool := false
  /-- A match has to be a word, or a whole line. -/
  words : Bool := false
  wholeLines : Bool := false
  /-- Lines without a match are wanted. -/
  inverted : Bool := false
  /-- No more than so many lines are wanted of a file. -/
  most : Option Nat := none

namespace Search

/-- How the expressions are matched with a line. -/
def setting (s : Search) (line : List UInt8) : Regex.Setting :=
  { text := (ofBytes line).toArray, folded := s.folded, exact := s.patterns.any Regex.hasReference }

/-- The end of the longest match that starts at a place, if it is one that is wanted. -/
def endAt (s : Search) (t : Regex.Setting) (place : Nat) : Option Nat :=
  let ends := (s.patterns.flatMap fun r => (r.ends t ⟨place, []⟩).map (·.place))
  let good := ends.filter fun stop =>
    (!s.wholeLines || (place == 0 && stop == t.text.size)) &&
      (!s.words || s.wholeLines || (!t.wordBefore place && !t.wordAt stop))
  good.max?

/-- The first match from a place on. -/
def matchFrom (s : Search) (t : Regex.Setting) : Nat → Nat → Option (Nat × Nat)
  | 0, _ => none
  | fuel + 1, place =>
    match s.endAt t place with
    | some stop => some (place, stop)
    | none => if s.wholeLines then none else matchFrom s t fuel (place + 1)

/-- All matches of a line that are not empty. -/
def allMatches (s : Search) (t : Regex.Setting) : Nat → Nat → List (Nat × Nat)
  | 0, _ => []
  | fuel + 1, place =>
    match s.matchFrom t (t.text.size + 1 - place) place with
    | none => []
    | some (first, last) =>
      if last = first then
        if t.text.size ≤ first then [] else allMatches s t fuel (first + 1)
      else (first, last) :: allMatches s t fuel last

/-- A line is wanted. -/
def wants (s : Search) (line : List UInt8) : Bool :=
  (s.matchFrom (s.setting line) (line.length + 1) 0).isSome != s.inverted

/-- The lines that are wanted, with their numbers from one on and where they start. -/
def wantedLines (s : Search) : Nat → Nat → Nat → List (List UInt8) → List (Nat × Nat × List UInt8)
  | _, _, _, [] => []
  | found, number, start, line :: rest =>
    let next := start + line.length + 1
    if s.most.any (· ≤ found) then []
    else if s.wants line then
      (number, start, line) :: wantedLines s (found + 1) (number + 1) next rest
    else wantedLines s found (number + 1) next rest

end Search

/-- What is printed of each line. -/
structure Shown where
  search : Search
  counts : Bool := false
  named : Bool := false
  numbers : Bool := false
  places : Bool := false
  onlyMatches : Bool := false
  before : Nat := 0
  after : Nat := 0

/-- The text in front of a line: its file, its number, and where it starts. -/
def Shown.front (o : Shown) (name : String) (sign : Char) (number start : Nat) : List Char :=
  (if o.named then name.toList ++ [sign] else []) ++
    (if o.numbers then decimal number ++ [sign] else []) ++
    (if o.places then decimal start ++ [sign] else [])

/-- The lines of a file that are printed, with what stands around them. -/
def Shown.lines (o : Shown) (name : String) (lines : List (List UInt8))
    (wanted : List (Nat × Nat × List UInt8)) : List UInt8 :=
  if o.onlyMatches then
    if o.search.inverted then []
    else wanted.flatMap fun (number, start, line) =>
      let t := o.search.setting line
      (o.search.allMatches t (line.length + 2) 0).flatMap fun (first, last) =>
        toBytes (o.front name ':' number (start + first)) ++ (line.take last).drop first ++ [10]
  else if o.before = 0 ∧ o.after = 0 then
    wanted.flatMap fun (number, start, line) =>
      toBytes (o.front name ':' number start) ++ line ++ [10]
  else
    let numbers := wanted.map (·.1)
    let near := fun (k : Nat) => numbers.any fun n => n ≤ k + o.before && k ≤ n + o.after
    let shown := (lines.zipIdx 1).filter fun (_, k) => near k
    (shown.foldl (fun (taken, previous, start) (line, k) =>
      let gap := previous != 0 && previous + 1 != k
      let sign := if numbers.contains k then ':' else '-'
      (taken ++ (if gap then [45, 45, 10] else []) ++
        toBytes (o.front name sign k start) ++ line ++ [10], k, start + line.length + 1))
      (([] : List UInt8), 0, 0)).1

/-- All files below a path that are searched; links among them only if all links are followed. A
directory that cannot be read stands for itself. -/
def filesBelow (c : Call) (follows : Bool) : Nat → Bool → String → List String
  | 0, _, _ => []
  | fuel + 1, isOperand, path =>
    match c.files.reach c.cwd (follows || isOperand) (outward path) with
    | .ok (.found place (.directory _)) =>
      if c.files.permits place .read = false then [path]
      else (c.files.children place).flatMap fun (name, _) =>
        filesBelow c follows fuel false (inDirectory path (inward name))
    | .ok (.found _ (.file content _)) =>
      if isOperand = false ∧ (markedDevice? content).isSome then [] else [path]
    | .ok (.found _ _) => []
    | _ => if isOperand then [path] else []

/-- Prints or counts the lines that match. The exit code tells whether any did. -/
def grep (c : Call) : Progress :=
  let g : Grammar := {
    letters := "EFGPe:f:iyvwxcLlqsnbHhom:A:B:C:rRaIzZTUuD:d:X:Y:K::"
    names := [("extended-regexp", 'E'), ("fixed-strings", 'F'), ("basic-regexp", 'G'),
      ("regexp", 'e'), ("file", 'f'), ("ignore-case", 'i'), ("invert-match", 'v'),
      ("word-regexp", 'w'), ("line-regexp", 'x'), ("count", 'c'),
      ("files-without-match", 'L'), ("files-with-matches", 'l'), ("quiet", 'q'), ("silent", 'q'),
      ("no-messages", 's'), ("line-number", 'n'), ("byte-offset", 'b'), ("with-filename", 'H'),
      ("no-filename", 'h'), ("only-matching", 'o'), ("max-count", 'm'), ("after-context", 'A'),
      ("before-context", 'B'), ("context", 'C'), ("recursive", 'r'), ("text", 'a'),
      ("include", 'X'), ("exclude", 'Y'), ("color", 'K'), ("colour", 'K'), ("line-buffered", 'U'),
      ("null-data", 'z'), ("null", 'Z')] }
  let numbered := c.arguments.map fun a => match a.toList with
    | '-' :: d :: ds => if (d :: ds).all Char.isDigit then "-C" ++ String.ofList (d :: ds) else a
    | _ => a
  let usage := [(2, toBytes ("Usage: " ++ c.title ++ " [OPTION]... PATTERNS [FILE]...\n").toList),
    c.advice]
  match g.read (numbered.length + 1) numbered [] [] with
  | .error ⟨text, _⟩ => c.ends 2 (c.message text :: usage)
  | .ok o =>
    let given := o.given.flatMap fun (letter, value) =>
      match letter with
      | 'e' => [value]
      | 'f' =>
        match c.content value with
        | .bytes data => (linesOf true data).1.map fun line => String.ofList (ofBytes line)
        | _ => []
      | _ => []
    let readsPatterns := o.given.any fun (letter, value) => letter == 'f' && isInput value
    let lost := o.given.findSome? fun (letter, value) =>
      if letter = 'f' then
        match c.content value with
        | .fault text => some (value ++ ": " ++ text)
        | _ => none
      else none
    let chosen := o.has 'e' ∨ o.has 'f'
    match if chosen then some (given, o.operands) else
        match o.operands with
        | [] => none
        | pattern :: rest => some ([pattern], rest) with
    | none => c.ends 2 usage
    | some (texts, names) =>
      if readsPatterns && !c.ended then c.waits []
      else if let some text := lost then c.fails 2 text
      else
      let kind := (o.last? ['E', 'F', 'G', 'P']).getD
        (if c.title.endsWith "egrep" then 'E' else if c.title.endsWith "fgrep" then 'F' else 'G')
      let pieces := texts.flatMap fun text => piecesAt (· == '\n') text.toList
      let read := pieces.map fun cs =>
        if kind = 'F' then Except.ok (Regex.literal cs, [])
        else (Regex.parse { extended := kind == 'E' || kind == 'P', careful := true } cs).map fun r =>
          (r.regex, r.warnings)
      match read.findSome? fun r => match r with
        | .error text => some text
        | .ok _ => none with
      | some text => c.fails 2 text
      | none =>
        let warnings := read.flatMap fun r => match r with
          | .ok (_, texts) => texts.map fun text => c.message ("warning: " ++ text)
          | .error _ => []
        let search : Search := {
          patterns := read.filterMap fun r => r.toOption.map (·.1)
          folded := o.has 'i' || o.has 'y', words := o.has 'w', wholeLines := o.has 'x'
          inverted := o.has 'v', most := o.number? 'm' }
        let recursive := o.has 'r' || o.has 'R'
        let plainFile := match names with
          | [name] => !c.files.leadsToDirectory c.cwd (outward name)
          | _ => false
        let names := if recursive then
            (if names = [] then ["."] else names).flatMap fun name =>
              let found := filesBelow c (o.has 'R') (c.files.entries.length + 1) true name
              if names = [] then found.map fun path => String.ofList (path.toList.drop 2)
              else found
          else names
        let kept := fun (name : String) =>
          let last := ((piecesAt (· == '/') name.toList).getLast?).getD []
          let fits := fun (letter : Char) => (o.given.filter (·.1 == letter)).any fun entry =>
            matchesPattern entry.2.toList last
          (!o.has 'X' || fits 'X') && !(o.has 'Y' && fits 'Y')
        let names := if recursive then names.filter kept else names
        let context := (o.number? 'C').getD 0
        let shown : Shown := {
          search := search, counts := o.has 'c'
          named := match o.last? ['H', 'h'] with
            | some 'H' => true
            | some _ => false
            | none =>
              recursive && !plainFile ||
                decide (1 < names.length)
          numbers := o.has 'n', places := o.has 'b', onlyMatches := o.has 'o'
          before := (o.number? 'B').getD context, after := (o.number? 'A').getD context }
        let quiet := o.has 'q'
        let listing := o.last? ['l', 'L']
        let (contents, complete) := if recursive ∧ names = [] then ([], true) else c.load names
        let count := contents.length
        let (writes, found, failed, _) := contents.zipIdx.foldl
          (fun (writes, found, failed, started) ((name, content), k) =>
            let title := if isInput name then "(standard input)" else name
            match content with
            | .fault text =>
              if found ∧ quiet then (writes, found, failed, started)
              else
                let message := if o.has 's' then [] else [c.message (name ++ ": " ++ text)]
                (writes ++ message, found, true, started)
            | .endless => (writes, found, failed, started)
            | .bytes data =>
              let whole := complete || k + 1 < count
              let lines := (linesOf whole data).1
              let wanted := search.wantedLines 0 1 0 lines
              let any := !wanted.isEmpty
              let binary := data.contains 0 && !o.has 'a' && !shown.counts && !quiet &&
                listing.isNone
              let output := if quiet then []
                else match listing with
                | some 'l' => if any then toBytes (title ++ "\n").toList else []
                | some _ => if any then [] else toBytes (title ++ "\n").toList
                | none =>
                  if shown.counts then
                    if whole then
                      toBytes ((if shown.named then title ++ ":" else "") ++
                        toString wanted.length ++ "\n").toList
                    else []
                  else if binary then []
                  else shown.lines title lines wanted
              let contexts := shown.before ≠ 0 ∨ shown.after ≠ 0
              let gap := started && contexts && output != [] && listing.isNone && !shown.counts
              let any := if listing = some 'L' then !any else any
              let note := if binary && any then [c.message (title ++ ": binary file matches")] else []
              (writes ++ note ++ (if gap then [(1, [45, 45, 10])] else []) ++ [(1, output)], found || any,
                failed, started || output != []))
          (warnings, false, false, false)
        let status := if failed ∧ !(quiet ∧ found) then 2 else if found then 0 else 1
        let enough := found && (quiet || listing.isSome) && count == max names.length 1
        if complete ∨ enough then c.ends status writes
        else if shown.counts ∨ listing.isSome ∨ shown.before ≠ 0 ∨ shown.after ≠ 0 then
          c.waits warnings
        else c.waits writes

end NativeBuild.Machine.Call
