import NativeBuild.Machine.Regex

/-
  Scripts of the stream editor: commands with the lines that they are for, and how they are read
  from text.
-/

namespace NativeBuild.Machine.Sed

/-- A regular expression of a script; without one the last that was used is meant. -/
structure Matcher where
  regex : Option Regex
  groups : Nat := 0
  folded : Bool := false
  lines : Bool := false

/-- A line that a command is for. -/
inductive Address where
  | line (n : Nat)
  | step (first every : Nat)
  | last
  | matching (m : Matcher)

/-- Where a range of lines ends. -/
inductive RangeEnd where
  | address (a : Address)
  | after (lines : Nat)
  | multiple (n : Nat)

/-- The lines that a command is for. -/
structure Selection where
  first : Option Address := none
  second : Option RangeEnd := none
  negated : Bool := false

/-- How letters are changed in a replacement. -/
inductive Casing where
  | upper
  | lower
  | upperNext
  | lowerNext
  | asIs
  deriving DecidableEq

/-- A part of a replacement. -/
inductive Part where
  | text (c : Char)
  | group (n : Nat)
  | casing (c : Casing)

/-- What a command does. -/
inductive Action where
  /-- The commands up to a place belong to it. -/
  | block (behind : Nat)
  | nothing
  | label (name : String)
  | substitute (m : Matcher) (parts : List Part) (nth : Nat) (all : Bool) (prints : Bool)
      (file : Option String)
  | translate (table : List (Char × Char))
  | append (text : List Char)
  | insert (text : List Char)
  | change (text : List Char)
  | delete
  | deleteFirst
  | print
  | printFirst
  | next
  | nextAppend
  | hold
  | holdAppend
  | get
  | getAppend
  | exchange
  | number
  | fileName
  | clear
  | show (width : Option Nat)
  | quit (status : Nat) (silent : Bool)
  | branch (name : String)
  | branchIf (replaced : Bool) (name : String)
  | readFile (name : String)
  | writeFile (name : String) (firstLine : Bool)

/-- A command. -/
structure Instruction where
  selection : Selection
  action : Action

/-- The text of a script that is being read. -/
structure Unread where
  rest : List Char
  /-- How many characters have been read. -/
  count : Nat := 0
  extended : Bool := false
  /-- The commands so far, newest first. -/
  made : List Instruction := []
  /-- How many there are. -/
  size : Nat := 0
  /-- The places of blocks that are open. -/
  blocks : List Nat := []

/-- Reads from a script, or finds an error after a number of characters. -/
abbrev Reader := StateT Unread (Except (Nat × String))

namespace Reader

/-- Ends with an error. -/
def fail {α : Type} (text : String) : Reader α := do throw ((← get).count, text)

/-- Takes a character. -/
def char : Reader (Option Char) := modifyGet fun s =>
  match s.rest with
  | [] => (none, s)
  | c :: rest => (some c, { s with rest := rest, count := s.count + 1 })

/-- The next character, which is not taken. -/
def peek : Reader (Option Char) := do return (← get).rest.head?

/-- Takes the characters in front that satisfy a test. -/
def takeWhile (test : Char → Bool) : Reader (List Char) := modifyGet fun s =>
  let taken := s.rest.takeWhile test
  (taken, { s with rest := s.rest.drop taken.length, count := s.count + taken.length })

/-- Passes over blanks. -/
def blanks : Reader Unit := do let _ ← takeWhile fun c => c == ' ' || c == '\t'

/-- Passes over blanks and line ends. -/
def spaces : Reader Unit := do let _ ← takeWhile isSpace

/-- Takes a number, if there is one. -/
def number? : Reader (Option Nat) := do
  let digits ← takeWhile Char.isDigit
  return if digits = [] then none else some (ofDigits 10 digits)

/-- How many characters belong to a set in brackets, its closing bracket included. -/
def setLength : Nat → List Char → Nat → Option Nat
  | 0, _, _ => none
  | fuel + 1, cs, n =>
    match cs with
    | [] => none
    | ']' :: _ => some (n + 1)
    | '[' :: ':' :: rest =>
      let name := rest.takeWhile (· != ':')
      match rest.drop name.length with
      | ':' :: ']' :: more => setLength fuel more (n + name.length + 4)
      | _ => setLength fuel (':' :: rest) (n + 1)
    | _ :: rest => setLength fuel rest (n + 1)

/-- Takes the text up to a delimiter. In an expression a set in brackets may hold the delimiter. -/
def delimited (stop : Char) (isRegex : Bool) : Nat → List Char → Reader (Option (List Char))
  | 0, _ => return none
  | fuel + 1, taken => do
    match ← char with
    | none => return none
    | some c =>
      if c = stop then return some taken.reverse
      else if c = '\\' then
        match ← char with
        | none => return none
        | some d =>
          if d = stop ∧ (isRegex ∨ d ≠ '&') then delimited stop isRegex fuel (d :: taken)
          else if d = 'n' ∧ isRegex then delimited stop isRegex fuel ('\n' :: taken)
          else delimited stop isRegex fuel (d :: '\\' :: taken)
      else if c = '\n' ∧ isRegex then return none
      else if c = '[' ∧ isRegex then
        let s ← get
        let first := match s.rest with
          | '^' :: ']' :: _ => 2
          | '^' :: _ => 1
          | ']' :: _ => 1
          | _ => 0
        match setLength (s.rest.length + 1) (s.rest.drop first) first with
        | none =>
          set { s with rest := [], count := s.count + s.rest.length }
          return none
        | some n =>
          set { s with rest := s.rest.drop n, count := s.count + n }
          delimited stop isRegex fuel ((s.rest.take n).reverse ++ c :: taken)
      else delimited stop isRegex fuel (c :: taken)

/-- Takes the text up to a delimiter, or fails. -/
def upTo (stop : Char) (isRegex : Bool) (complaint : String) : Reader (List Char) := do
  match ← delimited stop isRegex ((← get).rest.length + 1) [] with
  | some cs => return cs
  | none => fail complaint

/-- Makes an expression of a text with its flags. -/
def matcher (cs : List Char) (folded lines : Bool) : Reader Matcher := do
  if cs = [] then return { regex := none, folded := folded, lines := lines }
  let dialect : Regex.Dialect := {
    extended := (← get).extended, controls := true, strict := true, careful := true }
  match Regex.parse dialect cs with
  | .ok ⟨r, groups, _⟩ =>
    return { regex := some r, groups := groups, folded := folded, lines := lines }
  | .error text => fail text

/-- Takes letters in front one by one. -/
def letters (known : List Char) : Reader (List Char) := takeWhile known.contains

/-- Reads an address, if there is one. -/
def address? : Reader (Option Address) := do
  let expression := fun (stop : Char) => do
    let cs ← upTo stop true "unterminated address regex"
    let flags ← letters ['I', 'M']
    return some (Address.matching (← matcher cs (flags.contains 'I') (flags.contains 'M')))
  match ← peek with
  | some '/' => do
    let _ ← char
    expression '/'
  | some '\\' => do
    let _ ← char
    match ← char with
    | some stop => expression stop
    | none => fail "unexpected \x60,'"
  | some '$' => do
    let _ ← char
    return some .last
  | some c =>
    if c.isDigit = false then return none
    else
      let first := (← number?).getD 0
      blanks
      if (← peek) = some '~' then
        let _ ← char
        blanks
        return some (.step first ((← number?).getD 0))
      else return some (.line first)
  | none => return none

/-- Reads the end of a range. -/
def rangeEnd : Reader RangeEnd := do
  match ← peek with
  | some '+' => do
    let _ ← char
    match ← number? with
    | some n => return .after n
    | none => fail "expected number"
  | some '~' => do
    let _ ← char
    match ← number? with
    | some n => return .multiple n
    | none => fail "expected number"
  | _ =>
    match ← address? with
    | some a => return .address a
    | none => fail "unexpected \x60,'"

/-- Reads the lines that a command is for. -/
def selection : Reader Selection := do
  let first ← address?
  blanks
  let second ← if first.isSome ∧ (← peek) = some ',' then do
      let _ ← char
      blanks
      pure (some (← rangeEnd))
    else pure none
  match first, second with
  | some (.line 0), some (.address (.matching _)) => pure ()
  | some (.line 0), _ => fail "invalid usage of line address 0"
  | _, _ => pure ()
  spaces
  if (← peek) = some '!' then
    let _ ← char
    spaces
    if (← peek) = some '!' then
      let _ ← char
      fail "multiple \x60!'s"
    return ⟨first, second, true⟩
  return ⟨first, second, false⟩

/-- Reads the end of a command. -/
def commandEnd (complaint : String) : Reader Unit := do
  blanks
  match ← peek with
  | none | some '\x7d' | some '#' => pure ()
  | some c =>
    let _ ← char
    if c ≠ '\n' ∧ c ≠ ';' then fail complaint

/-- Reads the text of a command that prints one. -/
def textLines : Nat → List Char → Reader (List Char)
  | 0, taken => return taken.reverse
  | fuel + 1, taken => do
    match ← char with
    | none | some '\n' => return ('\n' :: taken).reverse
    | some '\\' =>
      match ← char with
      | none => return ('\n' :: taken).reverse
      | some c => textLines fuel (c :: taken)
    | some c => textLines fuel (c :: taken)

/-- Reads the text of a command behind its letter. -/
def commandText : Reader (List Char) := do
  blanks
  match ← peek with
  | none => fail "expected \\ after \x60a', \x60c' or \x60i'"
  | some '\\' => do
    let _ ← char
    let s ← get
    let skipped := s.rest.dropWhile fun c => c == ' ' || c == '\t'
    match skipped with
    | '\n' :: more => set { s with rest := more, count := s.count + (s.rest.length - more.length) }
    | _ => pure ()
    if (← get).rest = [] then return []
    textLines ((← get).rest.length + 1) []
  | some _ => textLines ((← get).rest.length + 1) []

/-- Reads a label or the name of a file. -/
def word (stops : Char → Bool) : Reader String := do
  blanks
  return String.ofList (← takeWhile fun c => !stops c)

/-- The parts of a replacement. -/
def parts : Nat → List Char → List Part
  | 0, _ => []
  | fuel + 1, cs =>
    match cs with
    | [] => []
    | '\\' :: c :: rest =>
      let part := match c with
        | 'n' => .text '\n'
        | 'L' => .casing .lower
        | 'U' => .casing .upper
        | 'l' => .casing .lowerNext
        | 'u' => .casing .upperNext
        | 'E' => .casing .asIs
        | c => if c.isDigit then .group (digitValue c) else .text ((Regex.control? c).getD c)
      part :: parts fuel rest
    | '&' :: rest => .group 0 :: parts fuel rest
    | c :: rest => .text c :: parts fuel rest

/-- The flags of a substitution. -/
structure Flags where
  nth : Nat := 1
  all : Bool := false
  prints : Bool := false
  folded : Bool := false
  lines : Bool := false
  file : Option String := none

/-- Reads the flags of a substitution and its end. -/
def flags : Nat → Flags → Reader Flags
  | 0, f => return f
  | fuel + 1, f => do
    match ← peek with
    | some 'g' => do
      let _ ← char
      flags fuel { f with all := true }
    | some 'p' => do
      let _ ← char
      flags fuel { f with prints := true }
    | some 'i' | some 'I' => do
      let _ ← char
      flags fuel { f with folded := true }
    | some 'm' | some 'M' => do
      let _ ← char
      flags fuel { f with lines := true }
    | some 'w' => do
      let _ ← char
      let name ← word (· == '\n')
      if name = "" then fail "missing filename in r/R/w/W commands"
      return { f with file := some name }
    | some c =>
      if c.isDigit then
        match ← number? with
        | some 0 => fail "number option to \x60s' command may not be zero"
        | n => flags fuel { f with nth := n.getD 1 }
      else
        commandEnd "unknown option to \x60s'"
        return f
    | none => return f

/-- Reads a substitution behind its letter. -/
def substitution : Reader Action := do
  let complaint := "unterminated \x60s' command"
  match ← char with
  | none => fail complaint
  | some stop =>
    let pattern ← upTo stop true complaint
    let replacement ← upTo stop false complaint
    let f ← flags ((← get).rest.length + 1) {}
    let m ← matcher pattern f.folded f.lines
    let ps := parts (replacement.length + 1) replacement
    let highest := ps.foldl (fun n part => match part with
      | .group k => max n k
      | _ => n) 0
    if m.regex.isSome ∧ m.groups < highest then
      fail ("invalid reference \\" ++ toString highest ++ " on \x60s' command's RHS")
    return .substitute m ps f.nth f.all f.prints f.file

/-- The characters of one side of a translation. -/
def plainCharacters : Nat → List Char → List Char
  | 0, _ => []
  | fuel + 1, cs =>
    match cs with
    | [] => []
    | '\\' :: '\\' :: rest => '\\' :: plainCharacters fuel rest
    | '\\' :: c :: rest =>
      match Regex.control? c with
      | some d => d :: plainCharacters fuel rest
      | none => '\\' :: c :: plainCharacters fuel rest
    | c :: rest => c :: plainCharacters fuel rest

/-- Reads a translation behind its letter. -/
def translation : Reader Action := do
  let complaint := "unterminated \x60y' command"
  match ← char with
  | none => fail complaint
  | some stop =>
    let a ← upTo stop false complaint
    let b ← upTo stop false complaint
    let a := plainCharacters (a.length + 1) a
    let b := plainCharacters (b.length + 1) b
    if a.length ≠ b.length then fail "strings for \x60y' command are different lengths"
    commandEnd "extra characters after command"
    return .translate (a.zip b)

/-- Reads what a command does, from its letter on. -/
def action (s : Selection) (c : Char) : Reader Action := do
  let simple := fun (a : Action) => do
    commandEnd "extra characters after command"
    return a
  let oneAddress := do
    if s.second.isSome then fail "command only uses one address"
  let file := do
    let name ← word (· == '\n')
    if name = "" then fail "missing filename in r/R/w/W commands"
    return name
  let target := do
    let name ← word fun c => c == ';' || isSpace c
    commandEnd "extra characters after command"
    return name
  match c with
  | 's' => substitution
  | 'y' => translation
  | 'a' => return .append (← commandText)
  | 'i' => return .insert (← commandText)
  | 'c' => return .change (← commandText)
  | 'd' => simple .delete
  | 'D' => simple .deleteFirst
  | 'p' => simple .print
  | 'P' => simple .printFirst
  | 'n' => simple .next
  | 'N' => simple .nextAppend
  | 'h' => simple .hold
  | 'H' => simple .holdAppend
  | 'g' => simple .get
  | 'G' => simple .getAppend
  | 'x' => simple .exchange
  | '=' => simple .number
  | 'F' => simple .fileName
  | 'z' => simple .clear
  | 'l' => do
    blanks
    let width ← number?
    simple (.show width)
  | 'q' | 'Q' => do
    oneAddress
    blanks
    let status ← number?
    simple (.quit (status.getD 0) (c == 'Q'))
  | 'b' => return .branch (← target)
  | 't' => return .branchIf true (← target)
  | 'T' => return .branchIf false (← target)
  | ':' => do
    if s.first.isSome then fail ": doesn't want any addresses"
    let name ← word fun c => c == ';' || isSpace c
    if name = "" then fail "\":\" lacks a label"
    simple (.label name)
  | 'r' => return .readFile (← file)
  | 'w' => return .writeFile (← file) false
  | 'W' => return .writeFile (← file) true
  | c => fail ("unknown command: \x60" ++ String.ofList [c] ++ "'")

/-- Adds a command to those that have been read. -/
def add (i : Instruction) : Reader Unit :=
  modify fun s => { s with made := i :: s.made, size := s.size + 1 }

/-- Reads the commands of a script. -/
def commands : Nat → Reader Unit
  | 0 => pure ()
  | fuel + 1 => do
    let _ ← takeWhile fun c => isSpace c || c == ';'
    if (← get).rest ≠ [] then
      let s ← selection
      match ← char with
      | none => fail "missing command"
      | some '#' =>
        if s.first.isSome then fail "comments don't accept any addresses"
        let _ ← takeWhile (· != '\n')
      | some '\x7b' => do
        let u ← get
        set { u with blocks := u.size :: u.blocks }
        add ⟨s, .block 0⟩
      | some '\x7d' => do
        let u ← get
        match u.blocks with
        | [] => fail "unexpected \x60\x7d'"
        | place :: rest =>
          let made := u.made.modify (u.size - 1 - place) fun i => { i with action := .block u.size }
          set { u with made := made, blocks := rest }
          commandEnd "extra characters after command"
      | some c => add ⟨s, ← action s c⟩
      commands fuel

end Reader

/-- The commands of a script, or an error and where it was found. -/
def readScript (extended : Bool) (cs : List Char) : Except (Nat × String) (List Instruction) :=
  match (Reader.commands (cs.length + 1)).run { rest := cs, extended := extended } with
  | .error e => .error e
  | .ok (_, s) =>
    if s.blocks ≠ [] then .error (0, "unmatched \x60\x7b'") else .ok s.made.reverse

end NativeBuild.Machine.Sed
