import NativeBuild.Machine.Arithmetic
import NativeBuild.Machine.Pattern
import NativeBuild.Machine.Shell.Basic
import NativeBuild.Machine.Shell.Field

/-
  Expansion: what the words of a script become. An expansion that needs what a command prints stops
  and names the command; once the command has run, the expansion starts again from the same state
  with one answer more.
-/

namespace NativeBuild.Machine

/-- Why an expansion stops. -/
inductive Stop where
  /-- It needs what a command prints. -/
  | needs (body : Command)
  | error (text : String)

/-- The state of an expansion: the shell, and the answers not used yet. -/
structure Expansion where
  shell : Shell
  left : List (List Char)

/-- An expansion; a stop keeps the state. -/
abbrev Expanding := ExceptT Stop (StateM Expansion)

/-- How pieces are expanded. -/
structure Manner where
  /-- Parameters in quotes stay apart, for fields. -/
  apart : Bool := false
  quoted : Bool := false
  /-- Characters of the word itself may separate fields. -/
  splitsText : Bool := false
  /-- A tilde in front stands for a directory. -/
  tilde : Bool := false
  /-- So does one behind the first equals sign and behind colons. -/
  values : Bool := false
  deriving Repr, DecidableEq

/-- The home directories of users. -/
def userHomes : List (String × String) :=
  [("root", "/root"), ("daemon", "/usr/sbin"), ("bin", "/bin"), ("sys", "/dev"),
    ("games", "/usr/games"), ("man", "/var/cache/man"), ("mail", "/var/mail"),
    ("news", "/var/spool/news"), ("backup", "/var/backups"), ("nobody", "/nonexistent")]

namespace Expanding

/-- The shell as it is. -/
def shell : Expanding Shell := do return (← get).shell

/-- Changes the shell. -/
def setShell (s : Shell) : Expanding Unit := modify fun e => { e with shell := s }

/-- Stops with an error. -/
def fail {α : Type} (text : String) : Expanding α := throw (.error text)

end Expanding

/-- The separators of a shell, and whether they are set at all. -/
def Shell.separators (s : Shell) : List Char := ((s.value? "IFS").getD " \t\n").toList

/-- What joins all parameters into one text. -/
def Shell.joiner (s : Shell) : List Char :=
  match s.value? "IFS" with
  | none => [' ']
  | some separators => separators.toList.take 1

/-- A value given to a variable in an expansion. -/
def assignIn (name value : String) : Expanding Unit := do
  if isName name.toList = false then Expanding.fail (name ++ ": bad variable name")
  match (← Expanding.shell).assign? name (some value) {} with
  | some s => Expanding.setShell s
  | none => Expanding.fail (name ++ ": is read only")

/-- The value of a parameter; nothing if it is not set. -/
def parameterMarks (s : Shell) (name : String) (m : Manner) : Option (List Mark) :=
  let marks := fun (text : String) => marksOf m.quoted text.toList
  let number := fun (n : Nat) => some (marksOf m.quoted (decimal n))
  let all :=
    let isMarked := m.apart && (m.quoted || (s.value? "IFS").isSome)
    let division := if isMarked then [Mark.division] else marksOf m.quoted s.joiner
    List.intercalate division (s.parameters.map marks)
  let joined := List.intercalate (marksOf m.quoted s.joiner) (s.parameters.map marks)
  match name with
  | "$" => number s.rootPid
  | "?" => number s.status
  | "#" => number s.parameters.length
  | "!" => s.lastBackground.bind number
  | "-" => some (marksOf m.quoted s.optionLetters)
  | "@" => some all
  | "*" => some (if m.quoted then joined else all)
  | _ =>
    match natural? name.toList with
    | some 0 => some (marks s.name)
    | some n => s.parameters[n - 1]?.map marks
    | none => (s.value? name).map marks

/-- The number of characters of a parameter. -/
def parameterSize (s : Shell) (name : String) : Option Nat :=
  (parameterMarks s name { quoted := true }).map List.length

/-- The variables of a shell in an expression. -/
def shellStore : ArithmeticStore Shell where
  lookup := fun s name =>
    let text := (s.value? name).getD ""
    match numberText? true text.toList with
    | some n => .ok n
    | none => .error (.illegalNumber text)
  assign := fun s name n =>
    match s.assign? name (some (String.ofList (signed n))) {} with
    | some s => .ok s
    | none => .error (.readOnly name)

/-- The text of an arithmetic error in an expression. -/
def ArithmeticError.text (expression : List Char) (e : ArithmeticError) : String :=
  let about := fun (text : String) =>
    "arithmetic expression: " ++ text ++ ": \"" ++ String.ofList expression ++ "\""
  match e with
  | illegalNumber text => "Illegal number: " ++ text
  | readOnly name => name ++ ": is read only"
  | divisionByZero => about "division by zero"
  | missingValue => about "expecting primary"
  | missingEnd => about "expecting EOF"
  | missingParenthesis => about "expecting ')'"
  | missingColon => about "expecting ':'"

/-- The directory that a tilde stands for with the name behind it. -/
def tildeHome (s : Shell) (name : List Char) : Option (List Char) :=
  if name = [] then (s.value? "HOME").map String.toList
  else (userHomes.lookup (String.ofList name)).map String.toList

/-- Expands characters of the word itself, where tildes may stand for directories: `here` tells
whether one may stand here, and `atEnd` that nothing follows the characters. -/
def expandLiteral (s : Shell) (m : Manner) (inQuotes atEnd : Bool) :
    Nat → Bool → Bool → List Char → List Segment × Bool
  | 0, _, seen, cs => ([⟨marksOf false cs, .whole⟩], seen)
  | fuel + 1, here, seen, cs =>
    let region := if m.splitsText ∧ !m.quoted ∧ !inQuotes then Region.separated else .whole
    let plain := fun (here : Bool) =>
      let triggers := fun (c : Char) => m.values && (c == ':' || (c == '=' && !seen))
      let run := cs.takeWhile fun c => !triggers c
      match cs.drop run.length with
      | [] => (if run = [] then [] else [(⟨marksOf false run, region⟩ : Segment)], seen)
      | c :: rest =>
        let (more, seen) := expandLiteral s m inQuotes atEnd fuel here (seen || c == '=') rest
        (⟨marksOf false (run ++ [c]), region⟩ :: more, seen)
    match here, cs with
    | true, '~' :: rest =>
      let name := rest.takeWhile fun c => c != '/' && !(m.values && c == ':')
      let behind := rest.drop name.length
      if behind = [] ∧ atEnd = false then plain true
      else
        match tildeHome s name with
        | none => plain true
        | some home =>
          let (more, seen) := expandLiteral s m inQuotes atEnd fuel false seen behind
          (⟨marksOf true home, .whole⟩ :: more, seen)
    | _, _ => plain true

/-- Takes the answer of a command. -/
def takeAnswer (body : Command) : Expanding (List Char) := do
  let e ← get
  match e.left with
  | answer :: left =>
    set { e with left := left }
    return answer
  | [] => throw (.needs body)

/-- The segment of a value: split unless it is quoted, and then only between parameters. -/
def valueSegment (s : Shell) (name : String) (m : Manner) (marks : List Mark) : Segment :=
  let region := if m.quoted then
      if name = "@" ∧ s.parameters ≠ [] then Region.divided else .whole
    else .separated
  ⟨marks, region⟩

/-- All parameters and a closing quotation mark. -/
def startsAllParameters : List Piece → Bool
  | .parameter "@" .plain false _ :: .quotes :: _ => true
  | _ => false

/-- The characters of marks up to the first division between parameters. -/
def untilDivision (marks : List Mark) : List Char :=
  Mark.text (marks.takeWhile fun m => m != .division)

/-- Takes off the end or the beginning of a value what a pattern matches. The pattern sees no
further than to a division between parameters, but what is taken off goes on behind it. -/
def trimMarks (atEnd longest : Bool) (pattern : List Char) (marks : List Mark) : List Mark :=
  let size := marks.length
  let first := (marks.takeWhile fun m => m != .division).length
  let places := if atEnd = longest then List.range (first + 1) else (List.range (size + 1)).reverse
  let fits := fun (k : Nat) =>
    matchesPattern pattern (untilDivision (if atEnd then marks.drop k else marks.take k))
  match places.find? fits with
  | some k => if atEnd then marks.take k else marks.drop k
  | none => marks

mutual

/-- Expands a piece other than text and quotation marks. -/
def expandPiece (m : Manner) : Piece → Expanding (List Segment)
  | .text _ _ => pure []
  | .quotes => pure []
  | .captured body => do
    let answer ← takeAnswer body
    return [⟨marksOf m.quoted answer, if m.quoted then .whole else .separated⟩]
  | .arithmetic word => do
    let segments ← expandPieces {} false false false false word
    let expression := Segment.text segments
    match evaluate shellStore expression (← Expanding.shell) with
    | .error e => Expanding.fail (e.text expression)
    | .ok (n, s) =>
      Expanding.setShell s
      return [⟨marksOf m.quoted (signed n), if m.quoted then .whole else .separated⟩]
  | .parameter name use orNull word => do
    let s ← Expanding.shell
    let marks := parameterMarks s name m
    let isSet := match marks with
      | none => false
      | some marks => !(orNull && marks.isEmpty)
    let value := fun (s : Shell) => match parameterMarks s name m with
      | none => []
      | some marks => [valueSegment s name m marks]
    let known := do
      if isSet = false ∧ s.has "nounset" then Expanding.fail (name ++ ": parameter not set")
    match use with
    | .invalid => Expanding.fail "Bad substitution"
    | .plain => do
      known
      return value s
    | .size => do
      known
      match parameterSize s name with
      | none => return [valueSegment s "" m (marksOf m.quoted ['0'])]
      | some n => return [valueSegment s "" m (marksOf m.quoted (decimal n))]
    | .default =>
      if isSet then return value s
      else expandPieces { m with tilde := true, splitsText := true } false true false false word
    | .alternative =>
      if isSet then
        expandPieces { m with tilde := true, splitsText := true } false true false false word
      else return [valueSegment s name m []]
    | .assignment =>
      if isSet then return value s
      else
        let segments ← expandPieces { tilde := true } false true false false word
        assignIn name (String.ofList (Segment.text segments))
        return value (← Expanding.shell)
    | .demand =>
      if isSet then return value s
      else
        let segments ← expandPieces { tilde := true } false true false false word
        let text := if word.isEmpty then
            if orNull then "parameter not set or null" else "parameter not set"
          else String.ofList (Segment.text segments)
        Expanding.fail (name ++ ": " ++ text)
    | .trimEnd longest => do
      known
      match marks with
      | none => return []
      | some marks =>
        let segments ← expandPieces { tilde := true } false true false false word
        return [valueSegment s name m (trimMarks true longest (Segment.pattern segments) marks)]
    | .trimStart longest => do
      known
      match marks with
      | none => return []
      | some marks =>
        let segments ← expandPieces { tilde := true } false true false false word
        return [valueSegment s name m (trimMarks false longest (Segment.pattern segments) marks)]

/-- Expands pieces: `tilde` tells whether a tilde may stand in front, `seen` that an equals sign
has been seen, and `bare` that the quotes around all parameters leave no marks. -/
def expandPieces (m : Manner) (inQuotes tilde seen bare : Bool) :
    List Piece → Expanding (List Segment)
  | [] => pure []
  | .text cs escaped :: rest => do
    if escaped then
      return ⟨marksOf true cs, .whole⟩ :: (← expandPieces m inQuotes false seen bare rest)
    else
      let (segments, seen) := expandLiteral (← Expanding.shell) m inQuotes rest.isEmpty
        (2 * cs.length + 2) (tilde && !inQuotes) seen cs
      return segments ++ (← expandPieces m inQuotes false seen bare rest)
  | .quotes :: rest => do
    let opensBare := !inQuotes && startsAllParameters rest
    let more ← expandPieces m (!inQuotes) false seen opensBare rest
    return if opensBare || bare then more else ⟨[.quote], .whole⟩ :: more
  | piece :: rest => do
    let segments ← expandPiece { m with quoted := m.quoted || inQuotes } piece
    return segments ++ (← expandPieces m inQuotes false seen bare rest)

end

/-- The manner of a mode. -/
def Mode.manner : Mode → Manner
  | fields => { apart := true, tilde := true }
  | assignment => { values := true }
  | text | pattern => { tilde := true }
  | document => { quoted := true }

/-- The texts of a field: the files that it names, or else the field as it is. -/
def fieldTexts (files : FileTree) (cwd : Location) (literal : Bool) (marks : List Mark) :
    List String :=
  let found := if literal then [] else matchingPaths files cwd (patternText true marks)
  if found = [] then [String.ofList (Mark.text marks)] else found.map String.ofList

/-- The texts that the segments of a word make. -/
def finishWord (mode : Mode) (files : FileTree) (cwd : Location) (s : Shell)
    (segments : List Segment) : List String :=
  match mode with
  | .fields =>
    (splitSegments s.separators none segments).flatMap (fieldTexts files cwd (s.has "noglob"))
  | .assignment | .text | .document => [String.ofList (Segment.text segments)]
  | .pattern => [String.ofList (Segment.pattern segments)]

/-- Expands a word with the answers that are there. -/
def expandWord (mode : Mode) (files : FileTree) (cwd : Location) (w : Word) (s : Shell) :
    Except Stop (List String) × Shell :=
  let m := mode.manner
  match (expandPieces m false m.tilde false false w).run ⟨s, s.answers⟩ with
  | (.ok segments, e) => (.ok (finishWord mode files cwd e.shell segments), e.shell)
  | (.error stop, e) => (.error stop, e.shell)

end NativeBuild.Machine
