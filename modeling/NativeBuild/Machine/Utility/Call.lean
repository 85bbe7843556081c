import NativeBuild.FileTree.Files
import NativeBuild.Machine.Program
import NativeBuild.Machine.System
import NativeBuild.Machine.Utility.Quotation

/-
  Calls of utilities. A utility is a function from what it has been given to all that it has written
  so far and what it does next. It is called again from the start when more input has come, and then
  what it has written before is passed over.
-/

namespace NativeBuild.Machine

/-- What a utility is given. -/
structure Call where
  /-- The name it was called by, which stands in front of its messages. -/
  title : String
  arguments : List String
  /-- What has come from standard input. -/
  input : List UInt8 := []
  /-- Nothing more will come from there. -/
  ended : Bool := false
  inputFault : Option String := none
  /-- How long the file is that standard input comes from, if it comes from one. -/
  inputSize : Option Nat := none
  /-- What has come from pipes that have names, by their paths, and whether that is all. -/
  feeds : List (String × List UInt8 × Bool) := []
  cwd : Location
  umask : Nat := 0o022
  environment : Variables := []
  files : FileTree
  /-- The files as they were when it was called first. -/
  before : FileTree := files
  /-- How many bytes were made before. -/
  made : Nat := 0
  /-- The exit codes of the commands that it has run, what they printed for it, and the files after
  each of them. -/
  replies : List Nat := []
  heard : List (List UInt8) := []
  snapshots : List FileTree := []
  /-- The command has not ended in time. -/
  isLate : Bool := false
  niceness : Int := 0

/-- What a utility has done. -/
structure Progress where
  /-- What it has written since its start, by descriptor, in order. -/
  writes : List (Nat × List UInt8) := []
  files : FileTree
  next : Next

namespace Call

/-- It ends with an exit code. -/
def ends (c : Call) (status : Nat) (writes : List (Nat × List UInt8)) : Progress :=
  ⟨writes, c.files, .done status 0⟩

/-- It prints a text and ends. -/
def prints (c : Call) (text : String) : Progress := c.ends 0 [(1, toBytes text.toList)]

/-- A message of a utility. -/
def message (c : Call) (text : String) : Nat × List UInt8 :=
  (2, toBytes (c.title ++ ": " ++ text ++ "\n").toList)

/-- It complains and ends. -/
def fails (c : Call) (status : Nat) (text : String) : Progress := c.ends status [c.message text]

/-- It reads more before it does anything else. -/
def waits (c : Call) (writes : List (Nat × List UInt8)) : Progress := ⟨writes, c.files, .more⟩

/-- The advice behind a complaint about arguments. -/
def advice (c : Call) : Nat × List UInt8 :=
  (2, toBytes ("Try '" ++ c.title ++ " --help' for more information.\n").toList)

/-- It complains about its arguments and ends. -/
def misused (c : Call) (status : Nat) (text : String) : Progress :=
  c.ends status [c.message text, c.advice]

/-- The same, with its name in front of the advice. -/
def misusedByName (c : Call) (status : Nat) (text : String) : Progress :=
  c.ends status [c.message text, c.message ("Try '" ++ c.title ++ " --help' for more information.")]

end Call

/-- The options of a call with their values, in order, and the other arguments. -/
structure Options where
  given : List (Char × String) := []
  operands : List String := []

namespace Options

/-- An option was given. -/
def has (o : Options) (letter : Char) : Bool := o.given.any fun entry => entry.1 == letter

/-- The last value of an option. -/
def value? (o : Options) (letter : Char) : Option String :=
  (o.given.reverse.find? fun entry => entry.1 == letter).map (·.2)

/-- The last of some options that was given. -/
def last? (o : Options) (letters : List Char) : Option Char :=
  (o.given.reverse.find? fun entry => letters.contains entry.1).map (·.1)

/-- The value of an option that is a number. -/
def number? (o : Options) (letter : Char) : Option Nat :=
  (o.value? letter).bind fun v => natural? v.toList

end Options

/-- What is wrong with arguments, and the options in front of it, newest first. -/
structure Misuse where
  text : String
  taken : List (Char × String)

/-- The options that a utility knows: letters, those with a colon behind them with a value, and
long names with the letters that they stand for. -/
structure Grammar where
  letters : String
  names : List (String × Char) := []
  /-- Options may stand behind other arguments. -/
  anywhere : Bool := true

namespace Grammar

/-- The letters behind one: nothing if it is not an option. -/
def behind (g : Grammar) (letter : Char) : Option (List Char) :=
  if letter = ':' then none
  else match g.letters.toList.dropWhile (· ≠ letter) with
    | [] => none
    | _ :: after => some after

/-- An option takes a value. -/
def takesValue (g : Grammar) (letter : Char) : Bool := ((g.behind letter).bind List.head?) == some ':'

/-- An option may have a value, but only in the same argument. -/
def mayHaveValue (g : Grammar) (letter : Char) : Bool :=
  ((g.behind letter).getD []).take 2 == [':', ':']

/-- Reads the letters of an argument. -/
def readLetters (g : Grammar) : List Char → List String → List (Char × String) →
    Except Misuse (List String × List (Char × String))
  | [], rest, taken => .ok (rest, taken)
  | c :: cs, rest, taken =>
    match g.behind c with
    | none => .error ⟨"invalid option -- '" ++ String.ofList [c] ++ "'", taken⟩
    | some _ =>
      if g.takesValue c then
        if cs ≠ [] ∨ g.mayHaveValue c then .ok (rest, (c, String.ofList cs) :: taken)
        else
          match rest with
          | value :: rest => .ok (rest, (c, value) :: taken)
          | [] => .error ⟨"option requires an argument -- '" ++ String.ofList [c] ++ "'", taken⟩
      else readLetters g cs rest ((c, "") :: taken)

/-- Reads an option with a long name. -/
def readName (g : Grammar) (text : List Char) (rest : List String) (taken : List (Char × String)) :
    Except Misuse (List String × List (Char × String)) :=
  let bad := fun (text : String) => .error (⟨text, taken⟩ : Misuse)
  let name := text.takeWhile (· ≠ '=')
  let value := text.drop (name.length + 1)
  let hasValue := text.contains '='
  let full := g.names.find? fun entry => entry.1.toList == name
  let matching := g.names.filter fun entry => name.isPrefixOf entry.1.toList
  match full.or (if matching.length = 1 then matching.head? else none) with
  | none =>
    if matching = [] then bad ("unrecognized option '--" ++ String.ofList text ++ "'")
    else bad ("option '--" ++ String.ofList text ++ "' is ambiguous; possibilities:" ++
      String.join (matching.map fun entry => " '--" ++ entry.1 ++ "'"))
  | some (long, letter) =>
    if g.takesValue letter then
      if hasValue ∨ g.mayHaveValue letter then .ok (rest, (letter, String.ofList value) :: taken)
      else
        match rest with
        | value :: rest => .ok (rest, (letter, value) :: taken)
        | [] => bad ("option '--" ++ long ++ "' requires an argument")
    else if hasValue then bad ("option '--" ++ long ++ "' doesn't allow an argument")
    else .ok (rest, (letter, "") :: taken)

/-- Reads arguments. -/
def read (g : Grammar) : Nat → List String → List (Char × String) → List String →
    Except Misuse Options
  | 0, rest, taken, operands => .ok ⟨taken.reverse, operands.reverse ++ rest⟩
  | fuel + 1, arguments, taken, operands =>
    match arguments with
    | [] => .ok ⟨taken.reverse, operands.reverse⟩
    | a :: rest =>
      match a.toList with
      | ['-', '-'] => .ok ⟨taken.reverse, operands.reverse ++ rest⟩
      | '-' :: '-' :: text =>
        match g.readName text rest taken with
        | .ok (rest, taken) => read g fuel rest taken operands
        | .error misuse => .error misuse
      | '-' :: c :: cs =>
        match g.readLetters (c :: cs) rest taken with
        | .ok (rest, taken) => read g fuel rest taken operands
        | .error misuse => .error misuse
      | _ =>
        if g.anywhere then read g fuel rest taken (a :: operands)
        else .ok ⟨taken.reverse, operands.reverse ++ arguments⟩

/-- The arguments that are options or values of them. -/
def optionWords (g : Grammar) : Nat → List String → List String
  | 0, _ => []
  | _, [] => []
  | fuel + 1, a :: rest =>
    let withValues := fun (read : Except Misuse (List String × List (Char × String))) =>
      match read with
      | .ok (left, _) => a :: rest.take (rest.length - left.length) ++ optionWords g fuel left
      | .error _ => [a]
    match a.toList with
    | ['-', '-'] => [a]
    | '-' :: '-' :: text => withValues (g.readName text rest [])
    | '-' :: c :: cs => withValues (g.readLetters (c :: cs) rest [])
    | _ => optionWords g fuel rest

end Grammar

namespace Call

/-- Reads the arguments of a call by a grammar and goes on with the options. Each option may be
refused by itself, before what comes behind it is looked at. -/
def withChecked (c : Call) (status : Nat) (g : Grammar) (refuse : Char → String → Option Progress)
    (act : Options → Progress) : Progress :=
  let first := fun (given : List (Char × String)) => given.findSome? fun (l, value) => refuse l value
  match g.read (c.arguments.length + 1) c.arguments [] [] with
  | .ok o => (first o.given).getD (act o)
  | .error ⟨text, taken⟩ => (first taken.reverse).getD (c.misused status text)

/-- Reads the arguments of a call by a grammar and goes on with the options. -/
def withOptions (c : Call) (status : Nat) (g : Grammar) (act : Options → Progress) : Progress :=
  c.withChecked status g (fun _ _ => none) act

/-- A choice among words by their beginnings, as options take them. -/
def wordChoice? (words : List String) (text : String) : Option String :=
  if words.contains text then some text
  else match words.filter fun w => text.toList.isPrefixOf w.toList with
    | [w] => some w
    | _ => none

/-- Refuses a word that is none of those an option takes. -/
def refusesWord (c : Call) (status : Nat) (option text : String) (words : List String) :
    Progress :=
  let isAmbiguous := 1 < (words.filter fun w => text.toList.isPrefixOf w.toList).length
  let kind := if isAmbiguous then "ambiguous" else "invalid"
  c.ends status [c.message (kind ++ " argument " ++ quotedText text ++ " for '" ++ option ++ "'"),
    (2, toBytes ("Valid arguments are:\n" ++ String.join (words.map fun w =>
      "  - '" ++ w ++ "'\n")).toList), c.advice]

/-- What an operand leads to. -/
inductive Content where
  | bytes (data : List UInt8)
  /-- Zero bytes without end. -/
  | endless
  | fault (text : String)
  deriving Repr, DecidableEq

/-- A name stands for standard input. -/
def isInput (operand : String) : Bool :=
  ["-", "/dev/stdin", "/dev/fd/0", "/proc/self/fd/0"].contains operand

/-- The name of an operand in titles and messages. -/
def inputName (operand : String) : String :=
  if isInput operand then "standard input" else operand

/-- The content of a file. -/
def fileContent (c : Call) (path : String) : Content :=
  match c.files.reach c.cwd true (outward path) with
  | .ok (.found place node) =>
    if c.files.permits place .read = false then .fault Errno.accessDenied.text
    else
      match node with
      | .file content _ =>
        match markedDevice? content with
        | some "null" => .bytes []
        | some "tty" => .fault "No such device or address"
        | some _ => .endless
        | none => .bytes content
      | .directory _ => .fault Errno.isDirectory.text
      | _ => .bytes []
  | .ok (.missing _ _) => .fault Errno.noEntry.text
  | .error e => .fault e.text

/-- The content of an operand, as far as it has come. -/
def content (c : Call) (operand : String) : Content :=
  if isInput operand then
    match c.inputFault with
    | some text => .fault text
    | none => .bytes c.input
  else
    match c.feeds.lookup operand with
    | some (data, _) => .bytes data
    | none => c.fileContent operand

/-- A path leads to a pipe. -/
def leadsToPipe (files : FileTree) (cwd : Location) (path : String) : Bool :=
  match files.reach cwd true (outward path) with
  | .ok (.found place (.pipe _)) => files.permits place .read
  | _ => false

/-- More may come from an operand. -/
def isPending (c : Call) (operand : String) : Bool :=
  if isInput operand then !c.ended
  else leadsToPipe c.files c.cwd operand && !((c.feeds.lookup operand).any fun feed => feed.2)

/-- The contents of operands in order, and whether they have come completely. Without operands it
is standard input that is read. -/
def load (c : Call) (operands : List String) : List (String × Content) × Bool :=
  let operands := if operands = [] then ["-"] else operands
  let front := operands.takeWhile fun operand => !c.isPending operand
  let shown := operands.take (front.length + 1)
  (shown.map fun operand => (operand, c.content operand), front.length = operands.length)

/-- All bytes of contents that can be read, and messages about the others. -/
def joinContents (c : Call) (contents : List (String × Content)) :
    List UInt8 × List (Nat × List UInt8) :=
  contents.foldl (fun (bytes, messages) (name, content) =>
    match content with
    | .bytes data => (bytes ++ data, messages)
    | .endless => (bytes, messages)
    | .fault text => (bytes, messages ++ [c.message (shownName name ++ ": " ++ text)])) ([], [])

/-- The lines of a content, and whether the last one lacks its end. One that may go on is left out
as long as more may come. -/
def linesOf (complete : Bool) (bytes : List UInt8) (stop : UInt8 := 10) : List (List UInt8) × Bool :=
  let pieces := piecesAt (· == stop) bytes
  let last := (pieces.getLast?).getD []
  if last = [] then (pieces.dropLast, false)
  else if complete then (pieces, true)
  else (pieces.dropLast, false)

/-- Lines with their ends. -/
def unlines (lines : List (List UInt8)) (lacksEnd : Bool) (stop : UInt8 := 10) : List UInt8 :=
  let text := lines.flatMap fun line => line ++ [stop]
  if lacksEnd then text.dropLast else text

/-- The bytes of a content that has some. -/
def Content.data : Content → List UInt8
  | .bytes data => data
  | _ => []

/-- What is wrong with a content. -/
def Content.fault? : Content → Option String
  | .fault text => some text
  | _ => none

end Call

end NativeBuild.Machine
