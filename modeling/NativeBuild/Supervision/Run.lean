import NativeBuild.FileTree.Walk
import NativeBuild.Supervision.Reader
import NativeBuild.Tracing.Scope

/-
  Running one command. The program is started in its working directory, its streams are drained by
  readers, and its exit is waited for. Whatever interrupts this, the child is gone at the end, and
  what it had written by then is kept in the error that is raised.
-/

namespace NativeBuild

/-- A machine that starts programs: it is given the environment of the parent and the launch, and
may change the files and a state of its own. -/
abbrev Host (σ : Type) :=
  Variables → Launch → FileTree → σ → Except Problem Child × FileTree × σ

namespace Supervision

open NativeBuild.Action

variable {σ : Type}

/-- What is wrong with the working directory of a command, if anything. -/
def directoryError (w : World σ) (spec : CommandSpec) : Option SystemError :=
  let directory := spec.directory.toString
  if w.files.pathExists w.cwd directory = false then some (.about .noEntry directory)
  else if w.files.leadsToDirectory w.cwd directory = false then
    some (.about .notDirectory directory)
  else none

/-- Refuses a command whose working directory is missing or is no directory. -/
def checkDirectory (spec : CommandSpec) : Action σ Unit := do
  match ← look fun w => directoryError w spec with
  | some error => raise (.chained (.launch spec.arguments error) (.fault (.system error)))
  | none => pure ()

/-- What the machine is asked for a command. -/
def launchOf (w : World σ) (spec : CommandSpec) : Launch :=
  ⟨spec.arguments, spec.directory.toString, spec.environment? w.environment, spec.mergeStderr⟩

/-- Starts a program. The working directory is followed when the program moves it. -/
def start (host : Host σ) (spec : CommandSpec) : Action σ (Except Problem Child) := fun w =>
  let launch := launchOf w spec
  let (started, files, tools) := host w.environment launch w.files w.tools
  (.ok started, { w with
    files := files
    cwd := files.follow w.files w.cwd
    tools := tools
    launched := w.launched ++ [⟨launch, started.toOption.map fun child => ⟨child, none, []⟩⟩] })

/-- Keeps what became of the process that was started last. -/
def remember (p : Supervised) : Action σ Unit := change fun w =>
  match w.launched.getLast? with
  | some last => { w with launched := w.launched.dropLast ++ [{ last with process := some p }] }
  | none => w

/-- The streams of a child with their names; there is no standard error when it is merged. -/
def streamsOf (spec : CommandSpec) (child : Child) : List (String × Stream) :=
  if spec.mergeStderr then [("stdout", child.stdout)]
  else [("stdout", child.stdout), ("stderr", child.stderr)]

/-- The streams of a child after their readers have ended. -/
def readAll (spec : CommandSpec) (child : Child) : List Drained :=
  (streamsOf spec child).map fun (name, stream) => stream.drain name

/-- The records of the readers that kept a problem. -/
def readerRecords (readers : List Drained) : List Record :=
  readers.filterMap fun reader => reader.error.map fun _ =>
    ⟨.reader, .debug, "error draining " ++ reader.output.name⟩

/-- Makes sure that the child is gone, and says so when it has to be killed. -/
def terminate (spec : CommandSpec) (p : Supervised) : Action σ Supervised := do
  let (killed, p) := p.terminate
  if killed then
    note .supervision .debug ("killing " ++ Text.quotedList spec.arguments ++ " (pid " ++
      toString p.child.pid ++ ")")
  remember p
  pure p

/-- The output of a name among those that were read. -/
def outputOf (readers : List Drained) (name : String) : Option CapturedOutput :=
  (readers.find? fun reader => reader.output.name == name).map fun reader => reader.output.snapshot

/-- The record of a process whose readers have ended. Its code is the one waited for, else the one
known otherwise, else -1. -/
def record (spec : CommandSpec) (readers : List Drained) (code? : Option Int) (p : Supervised)
    (duration : Float) : CommandResult where
  command := spec.arguments
  returnCode := (code? <|> p.exit).getD (-1)
  stdout := (outputOf readers "stdout").getD (.final "stdout" [])
  stderr := outputOf readers "stderr"
  duration := duration

/-- The joining of the readers is interrupted. -/
def joinInterrupted (child : Child) (readers : List Drained) : Bool :=
  match child.joinInterrupted with
  | some k => 1 ≤ k && k ≤ readers.length
  | none => false

/-- The readers as an interrupted join finds them: those joined before have ended, and the others
may still have lines to append. -/
def readersAtInterrupt (child : Child) (readers : List Drained) : List Drained :=
  let joined := child.joinInterrupted.getD 1 - 1
  readers.take joined ++
    (readers.drop joined).map fun reader => reader.lagging (child.behind reader.output.name)

/-- The first reader that kept a problem, with the name of its stream. -/
def firstProblem (readers : List Drained) : Option (String × Problem) :=
  readers.findSome? fun reader => reader.error.map fun problem => (reader.output.name, problem)

/-- Joins the readers and gives the record of the process. An interrupt while joining comes before
a problem of a reader, and a problem of an earlier reader before one of a later. What the readers
have captured by the time of an interrupt is kept as it is. -/
def collect (spec : CommandSpec) (started : Float) (readers : List Drained) (code? : Option Int)
    (p : Supervised) : Action σ CommandResult := do
  let stopped ← readCommandClock
  if joinInterrupted p.child readers then
    let result := record spec (readersAtInterrupt p.child readers) code? p (stopped - started)
    raise (.chained
      (.execution ("Interrupted while joining output readers of " ++ spec.program) (some result))
      (.fault (.interrupt "")))
  else
    let result := record spec readers code? p (stopped - started)
    match firstProblem readers with
    | some (name, problem) =>
      raise (.chained
        (.execution ("Error reading " ++ name ++ " of " ++ spec.program) (some result)) problem)
    | none => pure result

/-- Waits for a child and collects what it wrote. A wait that is interrupted kills the child and
fails with what was captured; a wait that ends in anything else kills the child and passes it on. -/
def attend (spec : CommandSpec) (started : Float) (child : Child) : Action σ CommandResult := do
  let readers := readAll spec child
  write (readerRecords readers)
  let p : Supervised := ⟨child, none, []⟩
  match child.wait with
  | .ok code =>
    let p := p.waited code
    let ending ← attempt (collect spec started readers (some code) p)
    let _ ← terminate spec p
    conclude ending
  | .error problem =>
    if problem.isInterruption then
      let p ← terminate spec p
      let ending ← attempt do
        let result ← collect spec started readers none p
        raise (.chained
          (.execution ("Interrupted while waiting for " ++ spec.program ++ " process")
            (some result))
          problem)
      let _ ← terminate spec p
      conclude ending
    else
      let _ ← terminate spec p
      raise ⟨problem, none⟩

/-- Starts a program and attends to it. A program that the system cannot start is a launch error;
anything else that keeps it from starting passes. -/
def startAndAttend (host : Host σ) (spec : CommandSpec) : Action σ CommandResult := do
  let started ← readCommandClock
  match ← start host spec with
  | .ok child => attend spec started child
  | .error (.fault (.system error)) =>
    note .supervision .debug ("Exception for " ++ spec.commandLine)
    raise (.chained (.launch spec.arguments error) (.fault (.system error)))
  | .error problem => raise ⟨problem, none⟩

/-- Runs a command to its end and gives the record of its process. -/
def run (host : Host σ) (spec : CommandSpec) : Action σ CommandResult := do
  checkDirectory spec
  note .supervision .debug ("Running " ++ spec.commandLine ++ " in " ++ spec.directory.toString)
  let result ← inSpan "cmakebuild.run" [("program", .text spec.program)] fun active => do
    let result ← startAndAttend host spec
    setAttribute active "returncode" (.integer result.returnCode)
    pure result
  let elapsed ← ofFault result.elapsed
  note .supervision .debug (spec.program ++ " exited with " ++ toString result.returnCode ++
    " after " ++ toString elapsed ++ " ms")
  pure result

end Supervision

end NativeBuild
