import NativeBuild.Machine.Schedule
import NativeBuild.Supervision.Run

/-
  A machine that starts programs: it runs a program on the tree of files, from its start to the end
  of all that it left behind, and gives the child with its exit code and the bytes of its streams.
  Standard input is the null device.
-/

namespace NativeBuild.Machine

/-- The number of the process that is started. -/
def firstPid : Nat := 4242

/-- How many steps a program may make. -/
def stepLimit : Nat := 100000000

/-- What keeps a launch from reaching the system: a variable whose name holds an equals sign, or a
NUL character in an argument or a variable. -/
def launchFault (launch : Launch) : Option Fault :=
  let environment := launch.environment.getD []
  let hasNul := fun (s : String) => s.toList.contains '\x00'
  if environment.any fun entry => entry.1.toList.contains '=' then some .variableName
  else if launch.arguments.any hasNul then some .embeddedNul
  else if environment.any fun entry => hasNul entry.1 || hasNul entry.2 then some .embeddedNul
  else none

/-- The place of a working directory. -/
def placeOf (files : FileTree) (directory : String) : Location :=
  match files.reach [] true directory with
  | .ok (.found place _) => place
  | _ => []

/-- The system at the start of a program: its only process has the null device for its input and
streams that leave the machine for its output. -/
def startSystem (program : Program) (place : Location) (files : FileTree) (environment : Variables)
    (merged : Bool) : System :=
  let s : System := { files := files, nextPid := firstPid + 1 }
  let (input, s) := s.newOpened { target := .null, readable := true }
  let (output, s) := s.newOpened { target := .outlet 1, writable := true }
  let (problems, s) := if merged then (output, s)
    else s.newOpened { target := .outlet 2, writable := true }
  let p : Process := {
    pid := firstPid, parent := 1, clock := 0, cwd := place
    channels := [(0, input), (1, output), (2, problems)]
    image := .utility { program := "", title := "", arguments := [], environment := [] } }
  let isMentioned := fun (text : String) => mentions processMark text.toUTF8.toList
  let looksAtProcesses := program.tokens.any isMentioned || place.head? == some "proc" ||
    environment.any (fun e => isMentioned e.2) || files.entries.any fun e => match e.node with
      | .file content _ => mentions processMark content
      | .link target => isMentioned target
      | _ => false
  { s with
    processes := [p.become files environment program], showsProcesses := looksAtProcesses }

/-- What has left a system by a stream. -/
def System.written (s : System) (stream : Nat) : List UInt8 :=
  ((s.outlets.lookup stream).getD []).reverse.flatten

/-- The exit code of a process as those outside see it. -/
def Ending.exitCode : Ending → Int
  | code n => n
  | signal n => -(n : Int)

/-- The time between the end of a program and the start of the next one, in nanoseconds. -/
def pauseTime : Int := 8000000

/-- Runs a program to its end: the child that the supervision sees, and the files after it. -/
def runToEnd (s : System) : Child × FileTree :=
  let s := s.runUntil firstPid stepLimit
  let files := System.withoutProcessFiles s.files
  let ending := (s.ended.find? fun entry => entry.1 == firstPid).map (·.2.2)
  let code := (ending.getD (.code 0)).exitCode
  ({ pid := firstPid
     wait := .ok code
     poll := fun _ => some code
     reap := fun _ => some code
     stdout := { bytes := s.written 1 }
     stderr := { bytes := s.written 2 } }, { files with now := files.now + pauseTime })

/-- Starts a program. -/
def host : Host Unit := fun parent launch files _ =>
  match launchFault launch with
  | some fault => (.error (.fault fault), files, ())
  | none =>
    let environment := (launch.environment.getD parent).map fun (name, value) =>
      (inward name, inward value)
    let place := placeOf files launch.directory
    let refused := fun (e : Errno) (file : String) => .error (.fault (.system (.about e file)))
    if files.permits place .execute = false then
      (refused .accessDenied launch.directory, files, ())
    else
    match findProgram files place environment (launch.arguments.map inward) with
    | .error e => (refused e (launch.arguments.headD ""), files, ())
    | .ok program =>
      let (child, files) := runToEnd (startSystem program place files environment launch.merged)
      (.ok child, files, ())

end NativeBuild.Machine
