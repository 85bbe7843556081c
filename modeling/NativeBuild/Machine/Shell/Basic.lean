import NativeBuild.FileTree.Basic
import NativeBuild.Machine.Script.Reading
import NativeBuild.Machine.Shell.Variable

/-
  The state of a shell. A shell runs its script in small steps: what it still has to do is a stack
  of tasks, so that it can be stopped between any two of them, wait for other processes, and end a
  task with all that was begun inside it.
-/

namespace NativeBuild.Machine

/-- How a command is run. -/
structure Flags where
  /-- The shell ends with it. -/
  leaves : Bool := false
  /-- Its failure is looked at, and so it does not end the shell. -/
  tested : Bool := false
  deriving Repr, DecidableEq

/-- The way in which what follows in the script is passed over. -/
inductive Skip where
  | none
  | breakOut (loops : Nat)
  | goOn (loops : Nat)
  /-- To the end of a function or script; tells whether an exit code was given. -/
  | giveBack (given : Bool)
  deriving Repr, DecidableEq

/-- Why tasks are given up: an error, or the end of the shell. -/
inductive Raised where
  | error
  | exit
  deriving Repr, DecidableEq

/-- How a process ended. -/
inductive Ending where
  | code (n : Nat)
  | signal (n : Nat)
  deriving Repr, DecidableEq

/-- The exit code by which a shell knows an ending. -/
def Ending.status : Ending → Nat
  | code n => n
  | signal n => 128 + n

/-- How an ending is told to the program that has waited for it: signals count from 256 on. -/
def Ending.reply : Ending → Nat
  | code n => n
  | signal n => 256 + n

/-- Processes that a shell has started together. -/
structure Job where
  number : Nat
  /-- The processes, and how they ended. -/
  processes : List (Nat × Option Ending)
  /-- It has changed since it was listed. -/
  changed : Bool := false
  /-- Its end was waited for. -/
  waited : Bool := false

namespace Job

/-- All processes of a job have ended. -/
def isDone (j : Job) : Bool := j.processes.all (·.2.isSome)

/-- The job with the ending of a process noted, if the process is one of its own. -/
def note (pid : Nat) (ending : Ending) (j : Job) : Job :=
  if j.processes.any fun e => e.1 == pid then
    let processes := j.processes.map fun e => if e.1 == pid then (pid, some ending) else e
    { j with processes := processes, changed := j.changed || processes.all (·.2.isSome) }
  else j

/-- The exit code of a job: that of its last process. -/
def status (j : Job) : Nat := ((j.processes.getLast?.bind (·.2)).map Ending.status).getD 0

end Job

/-- How a word is expanded. -/
inductive Mode where
  /-- Into fields, which may name files. -/
  | fields
  /-- The value of an assignment, which is not split. -/
  | assignment
  /-- One text, as for the target of a redirection. -/
  | text
  /-- A pattern for names. -/
  | pattern
  /-- The text of a document. -/
  | document
  deriving Repr, DecidableEq

/-- A redirection whose target is known. -/
inductive Resolved where
  | file (descriptor : Nat) (opening : Opening) (path : String)
  | duplicate (descriptor : Nat) (source : Option Nat)
  | document (descriptor : Nat) (number : Nat)

/-- What was found behind the first word of a command. -/
inductive Located where
  | builtin
  | function (line : Nat) (body : Command)
  /-- A program that is looked for when it is started. -/
  | program
  | nothing

/-- A simple command on its way. -/
structure Invocation where
  line : Nat
  flags : Flags
  assignments : List Word
  redirections : List Redirection
  /-- The words not expanded yet. -/
  words : List Word
  /-- The fields of the others. -/
  arguments : List String := []
  assigned : List String := []
  /-- Where its trace goes: standard error from before its redirections. -/
  traceChannel : Option Nat := none
  /-- How many arguments in front only say how the command is looked for. -/
  skipped : Nat := 0
  /-- The name is looked for among functions too. -/
  functions : Bool := true
  /-- The program is looked for in the standard directories. -/
  standardPath : Bool := false
  located : Located := .nothing
  /-- It is a built-in command whose failure ends the shell. -/
  special : Bool := false
  /-- Its arguments may be assignments. -/
  assigns : Bool := false
  replaces : Bool := false
  /-- Its assignments hold for itself alone. -/
  ownScope : Bool := false
  /-- How deep redirections, texts and scopes lay before it. -/
  redirectionDepth : Nat := 0
  inputDepth : Nat := 0
  scopeDepth : Nat := 0

/-- What joins two commands. -/
inductive Joint where
  | both
  | either
  | sequence
  deriving Repr, DecidableEq

/-- A task of a shell. -/
inductive Task where
  | eval (c : Command) (f : Flags)
  /-- After signals have been looked at. -/
  | dispatch (c : Command) (f : Flags)
  /-- The end of a command: signals, and whether the shell ends. -/
  | finish (checked : Bool) (f : Flags)
  | settle (checked : Bool) (f : Flags)
  /-- Looks whether signals have come. -/
  | signals
  /-- Does what signals from a number on ask for; then there is the exit code from before again. -/
  | handle (status : Nat) (outer : Option Nat) (least : Nat)
  | handled (status : Nat) (outer : Option Nat) (least : Nat)
  | negate
  | second (joint : Joint) (c : Command) (f : Flags)
  | branch (yes no : Command) (f : Flags)
  | loopTest (untilTrue : Bool) (test body : Command) (f : Flags) (status : Nat)
  | loopJudge (untilTrue : Bool) (test body : Command) (f : Flags) (status : Nat)
  | loopTurned (untilTrue : Bool) (test body : Command) (f : Flags)
  | eachWord (name : String) (words : List Word) (values : List String) (body : Command) (f : Flags)
  | eachValues (name : String) (words : List Word) (values : List String) (body : Command)
      (f : Flags)
  | eachTurn (name : String) (values : List String) (body : Command) (f : Flags) (status : Nat)
  | eachTurned (name : String) (values : List String) (body : Command) (f : Flags)
  | chooseFrom (cases : List (List Word × Command)) (f : Flags)
  | choose (subject : String) (cases : List (List Word × Command)) (f : Flags)
  | chooseJudge (subject : String) (cases : List (List Word × Command)) (f : Flags)
  /-- Expands a word; its fields are left in the shell. -/
  | expand (w : Word) (m : Mode)
  /-- Takes what a captured command prints. -/
  | capture (job : Nat) (taken : List (List UInt8))
  | captured (job : Nat) (text : List UInt8)
  | gather (i : Invocation)
  | gathered (i : Invocation)
  | complete (i : Invocation)
  | completed (i : Invocation)
  | prepare (i : Invocation)
  | redirect (i : Invocation)
  | redirected (i : Invocation)
  | assign (i : Invocation)
  | assigned (i : Invocation)
  | traced (i : Invocation)
  | run (i : Invocation)
  | conclude (i : Invocation)
  /-- Expands the targets of redirections. -/
  | targets (rs : List Redirection) (done : List Resolved)
  | target (r : Redirection) (rs : List Redirection) (done : List Resolved)
  /-- Carries redirections out; what they change may be kept for later. -/
  | apply (rs : List Resolved) (keeps : Bool)
  | applyDocument (descriptor : Nat) (rs : List Resolved) (keeps : Bool)
  | guardRedirections
  /-- A command in redirections of its own. -/
  | compound (body : Command) (f : Flags)
  | compoundBody (body : Command) (f : Flags)
  | compoundEnd
  /-- A command in a shell of its own. -/
  | subshell (body : Command) (f : Flags) (background : Bool)
  | waitFor (job : Nat)
  /-- A built-in command with its arguments. -/
  | builtin (name : String) (arguments : List String) (f : Flags)
  | builtinEnd (outer : Option String) (special : Bool)
  | functionEnd (parameters : List String) (next : Nat × Nat) (line : Nat) (loops : Nat)
  /-- Writes bytes; an error is noted. -/
  | write (descriptor : Nat) (bytes : List UInt8)
  /-- Runs the text on top, line by line. The exit code of the last command is set in the end if it
  is asked for. -/
  | text (f : Flags) (status : Option Nat)
  | textStep (f : Flags) (status : Option Nat) (wasNothing : Bool)
  /-- Runs the script on top. -/
  | file (status : Nat)
  | fileStep (status : Nat) (wasNothing : Bool)
  | sourceEnd (outer : Option String)
  /-- Opens the script of the shell. -/
  | openScript (path : String)
  /-- Reads the whole script from standard input. -/
  | readScript (taken : List (List UInt8))
  /-- Becomes a program. -/
  | startProgram (arguments : List String) (standardPath : Bool)
  /-- Complains and ends. -/
  | refuse (text : String)
  /-- Gives up job control, for which there is no terminal. -/
  | giveUpControl
  /-- Complains that the working directory has been removed. -/
  | lostDirectory
  /-- Raises an error or the end of the shell. -/
  | raised (r : Raised)
  | leave
  | exitTrapEnd
  | die
  /-- Reads a line into variables; what was read so far stands last character first, with
  characters behind a backslash marked. -/
  | readLine (names : List String) (raw : Bool) (taken : List (Char × Bool)) (escaped : Bool)

/-- A text that is being run. -/
structure Input where
  source : Source
  /-- Its lines are printed as they are read. -/
  isFile : Bool := false

/-- A variable as it was outside of a function or command. -/
inductive Shadowed where
  | variable (name : String) (outer : Option Variable)
  | options (outer : List String)

/-- What a shell is doing and what it knows. -/
structure Shell where
  /-- The name of the script. -/
  name : String
  /-- The number of the shell that started the script. -/
  rootPid : Nat
  /-- The built-in command or the script within the script that is running. -/
  commandName : Option String := none
  line : Nat := 1
  table : VariableTable := []
  functions : List (String × Nat × Command) := []
  aliases : List (String × String) := []
  options : List String := []
  parameters : List String := []
  /-- The next parameter to be looked at for options, and the next letter in the one before. -/
  nextOption : Nat × Nat := (1, 0)
  status : Nat := 0
  /-- The exit code from before a signal was handled. -/
  savedStatus : Option Nat := none
  /-- The exit code of the last captured command. -/
  capturedStatus : Nat := 0
  lastBackground : Option Nat := none
  /-- What is done at signals; 0 stands for the end of the shell. -/
  traps : List (Nat × String) := []
  /-- Signals that have come and are to be handled. -/
  caught : List Nat := []
  /-- The signal that came last, until signals are looked at. -/
  alert : Option Nat := none
  skip : Skip := .none
  loops : Nat := 0
  /-- The line of the function that runs; zero outside of functions. -/
  functionLine : Nat := 0
  scopes : List (List Shadowed) := []
  /-- The descriptors that redirections have changed, as they were: closed, or leading somewhere. -/
  redirections : List (List (Nat × Option Nat)) := []
  /-- The open files that the shell which this one came from had put aside. -/
  kept : List Nat := []
  jobs : List Job := []
  inputs : List Input := []
  documents : List (Nat × Document) := []
  numbered : Nat := 0
  /-- The programs that were found on the search path. -/
  hashed : List String := []
  /-- The directory as it was reached. -/
  path : String := "/"
  tasks : List Task := []
  /-- The fields that the last expansion gave. -/
  fields : List String := []
  /-- What the captured commands of the word that is being expanded have printed. -/
  answers : List (List Char) := []
  resolved : List Resolved := []
  redirectionFailed : Bool := false
  /-- Output of a built-in command could not be written. -/
  writeFailed : Bool := false
  /-- A trace is being made. -/
  tracing : Bool := false

namespace Shell

/-- An option is on. -/
def has (s : Shell) (option : String) : Bool := s.options.contains option

/-- The value of a variable. -/
def value? (s : Shell) (name : String) : Option String := s.table.value? name

/-- The shell with tasks put in front. -/
def push (tasks : List Task) (s : Shell) : Shell := { s with tasks := tasks ++ s.tasks }

/-- The shell with a job changed. -/
def modifyJob (s : Shell) (number : Nat) (f : Job → Job) : Shell :=
  { s with jobs := s.jobs.map fun j => if j.number == number then f j else j }

/-- The letters of the options that are on. -/
def optionLetters (s : Shell) : List Char :=
  (shellOptions.reverse.filter fun o => s.has o.1).filterMap (·.2)

/-- A variable gets a value or loses it; nothing if it is protected. -/
def assign? (s : Shell) (name : String) (value : Option String) (m : Marking) : Option Shell :=
  let m := if s.has "allexport" then { m with exported := true } else m
  (s.table.assign? name value m).map fun table =>
    let s := { s with table := table }
    if name = "PATH" then { s with hashed := [] }
    else if name = "OPTIND" then
      let n := ((value.bind fun v => natural? v.toList).getD 1)
      { s with nextOption := (if n = 0 then 1 else n, 0) }
    else s

end Shell

end NativeBuild.Machine
