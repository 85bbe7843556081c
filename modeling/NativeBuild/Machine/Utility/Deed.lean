import NativeBuild.Machine.Utility.Call

/-
  What utilities do to files. They go through their operands one after the other, change the tree,
  say what they have done, complain, and may ask before they do something. A question that has no
  answer yet stops them; they begin again once more has come from standard input, and until then
  the tree stays as it is.
-/

namespace NativeBuild.Machine

/-- What a utility has done so far. -/
structure Deed where
  files : FileTree
  /-- What has been written, newest first. -/
  writes : List (Nat × List UInt8) := []
  /-- What is to be written to standard output before the next complaint, newest first. -/
  held : List (List UInt8) := []
  failed : Bool := false
  /-- What is left of standard input. -/
  answers : List UInt8 := []

/-- Something that a utility does; it gives nothing where an answer is missing. -/
abbrev Work := OptionT (StateM Deed)

namespace Work

/-- The tree as it is now. -/
def files : Work FileTree := return (← get).files

/-- Takes over a changed tree. -/
def putFiles (t : FileTree) : Work Unit := modify fun d => { d with files := t }

/-- Takes over a changed tree, or tells why there is none. -/
def attempt (result : Except Errno FileTree) : Work (Option Errno) := do
  match result with
  | .ok t => putFiles t; return none
  | .error e => return some e

/-- Writes a text to standard output. -/
def print (text : String) : Work Unit :=
  modify fun d => { d with held := toBytes text.toList :: d.held }

/-- Writes a line to standard output. -/
def say (text : String) : Work Unit := print (text ++ "\n")

/-- Writes what is held back. -/
def flush : Work Unit := modify fun d =>
  if d.held = [] then d
  else { d with writes := (1, d.held.reverse.flatten) :: d.writes, held := [] }

/-- Writes to standard error. -/
def writeError (text : String) : Work Unit :=
  modify fun d => { d with writes := (2, toBytes text.toList) :: d.writes }

/-- Something has gone wrong. -/
def markFailed : Work Unit := modify fun d => { d with failed := true }

end Work

/-- What is known of a file. -/
structure Status where
  place : Location
  node : Node
  number : Nat
  deriving Repr, DecidableEq

namespace Call

/-- Says something on standard error that is no fault. -/
def warn (c : Call) (text : String) : Work Unit := do
  Work.flush
  Work.writeError (c.title ++ ": " ++ text ++ "\n")

/-- Complains: something has gone wrong. -/
def complain (c : Call) (text : String) : Work Unit := do
  c.warn text
  Work.markFailed

/-- Asks a question. A line that starts with `y` is a yes. -/
def ask (c : Call) (question : String) : Work Bool := do
  Work.writeError (c.title ++ ": " ++ question ++ "? ")
  let answers := (← get).answers
  let line := answers.takeWhile (· ≠ 10)
  if line.length = answers.length ∧ c.ended = false then failure
  modify fun d => { d with answers := answers.drop (line.length + 1) }
  return line.head?.any fun b => b == 121 || b == 89

/-- Does something and ends. -/
def perform (c : Call) (act : Work Unit) : Progress :=
  match (act.run).run { files := c.files, answers := c.input } with
  | (some (), d) =>
    let writes := if d.held = [] then d.writes else (1, d.held.reverse.flatten) :: d.writes
    ⟨writes.reverse, d.files, .done (if d.failed then 1 else 0) d.answers.length⟩
  | (none, d) => c.waits d.writes.reverse

/-- Does something for each operand. -/
def forEach (c : Call) (operands : List String) (act : String → Work Unit) : Progress :=
  c.perform (operands.forM act)

/-- What is known of the file that a path leads to. -/
def statusIn (c : Call) (files : FileTree) (follow : Bool) (path : String) :
    Except Errno Status :=
  match files.reach c.cwd follow (outward path) with
  | .ok (.found place node) => .ok ⟨place, node, (files.numberAt? place).getD 0⟩
  | .ok (.missing _ _) => .error .noEntry
  | .error e => .error e

/-- What is known of the file that a path leads to now. -/
def status (c : Call) (follow : Bool) (path : String) : Work (Except Errno Status) :=
  return c.statusIn (← Work.files) follow path

/-- A path leads to a directory. -/
def isDirectory (c : Call) (files : FileTree) (path : String) : Bool :=
  files.leadsToDirectory c.cwd (outward path)

/-- The rights that files get when they are made. -/
def newModeOf (c : Call) (mode : Nat) : Nat := mode &&& (0o777 ^^^ (c.umask &&& 0o777))

/-- The mode of a file that is made. -/
def newMode (c : Call) : Nat := c.newModeOf 0o666

end Call

/-- The name of an operand without the directories in front. -/
def lastPiece (path : String) : String :=
  (((piecesAt (· == '/') path.toList).filter (· ≠ [])).getLast?.map String.ofList).getD
    (if path = "" then "" else "/")

/-- A path without slashes behind it. -/
def withoutSlashes (path : String) : String :=
  let short := String.ofList ((path.toList.reverse.dropWhile (· == '/')).reverse)
  if short = "" ∧ path ≠ "" then "/" else short

/-- The paths of the directories that lead to a path, as they stand in it, from the first on. -/
def frontPaths (path : String) : List String :=
  let cs := path.toList
  (List.range cs.length).filterMap fun k =>
    if 0 < k ∧ cs[k]? = some '/' ∧ cs[k - 1]? ≠ some '/' ∧ (cs.drop k).any (· != '/') then
      some (String.ofList (cs.take k))
    else none

/-- What kind of file a node is, in words. -/
def kindText : Node → String
  | .file [] _ => "regular empty file"
  | .file content _ => if (markedDevice? content).isSome then "character special file" else "regular file"
  | .directory _ => "directory"
  | .link _ => "symbolic link"
  | .pipe _ => "fifo"

end NativeBuild.Machine
