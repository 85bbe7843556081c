import NativeBuild.Machine.Shell.Step
import NativeBuild.Machine.ProcessFiles
import NativeBuild.Machine.Utility

/-
  The schedule of a machine: the process whose clock is furthest behind does a step, until all has
  been done that matters. A step is a task of a shell, or a read, a write or a call of a utility.
-/

namespace NativeBuild.Machine

/-- A process with the signals that have come: some end it, some are for its shell, and the others
do nothing. -/
def Process.receive (p : Process) : List Nat → Option Ending × Process
  | [] => (none, { p with pending := [] })
  | n :: rest =>
    if p.diesOf n then (some (.signal n), p)
    else
      match p.image with
      | .shell s =>
        if p.ignored.contains n ∨ (s.traps.lookup n).isNone then p.receive rest
        else
          let caught := if s.caught.contains n then s.caught else s.caught ++ [n]
          receive { p with image := .shell { s with caught := caught, alert := some n } } rest
      | .utility _ => p.receive rest

namespace System

/-- The system with a process put back. -/
def putProcess (s : System) (p : Process) : System := s.modifyProcess p.pid fun _ => p

/-- How long the file is that a descriptor of a process leads to. -/
def sizeBehind? (s : System) (p : Process) (descriptor : Nat) : Option Nat :=
  match (p.channels.lookup descriptor).bind fun id => (s.opened.lookup id).map Opened.target with
  | some (.file number) => some (s.contentOf number).length
  | some (.loose content) => some content.length
  | _ => none

/-- The call of a utility that is running. -/
def callOf (s : System) (p : Process) (u : Running) : Call :=
  { title := u.title, arguments := u.arguments, input := u.input, ended := u.ended
    inputFault := u.inputFault, inputSize := s.sizeBehind? p 0
    feeds := u.feeds.map fun (path, feed) => (path, feed.data, feed.opened.isNone)
    cwd := p.cwd, umask := p.umask, environment := u.environment
    files := s.files, before := u.before.getD s.files, made := u.made, replies := u.replies
    heard := u.heard, snapshots := u.snapshots, isLate := u.limit.any (· ≤ p.clock)
    niceness := p.niceness }

/-- Writes without the bytes that were made before. -/
def dropMade : Nat → List (Nat × List UInt8) → List (Nat × List UInt8)
  | _, [] => []
  | n, (d, bytes) :: rest =>
    if bytes.length ≤ n then dropMade (n - bytes.length) rest
    else (d, bytes.drop n) :: rest

/-- Calls a utility. -/
def callUtility (s : System) (p : Process) (u : Running) : System :=
  let progress := (s.callOf p u).run u.program
  let queue := (dropMade u.made progress.writes).filter (·.2 ≠ [])
  let made := u.made + total (queue.map (·.2.length))
  let before := u.before.getD s.files
  let u := { u with queue := queue, made := made, before := before, next := some progress.next }
  let cwd := progress.files.follow s.files p.cwd
  (s.withFiles progress.files).putProcess
    { p with image := .utility u, cwd := cwd, clock := p.clock + 20 }

/-- What is said when a utility cannot write, and its exit code. -/
def writeFault (u : Running) (fault : String) : Nat × String :=
  let about := fun (what : String) => u.title ++ ": " ++ what ++ ": " ++ fault ++ "\n"
  match u.program with
  | "sed" => (4, about "couldn't write 1 item to stdout")
  | "grep" | "sort" => (2, about "write error")
  | "yes" => (1, about "standard output")
  | "tee" => (1, about "'standard output'")
  | "env" | "printenv" => (if u.program = "env" then 125 else 2, about "write error")
  | _ => (1, about (if fault = "Bad file descriptor" then "standard output" else "write error"))

/-- Writes the first of what a utility has to write. -/
def writeQueue (s : System) (p : Process) (u : Running) (descriptor : Nat) (bytes : List UInt8)
    (rest : List (Nat × List UInt8)) : System :=
  let failed := fun (s : System) (fault : String) =>
    let (status, text) := writeFault u fault
    let queue := if descriptor = 1 then [(2, toBytes text.toList)] else rest
    let next := if descriptor = 1 then some (.done status 0) else u.next
    s.putProcess { p with image := .utility { u with queue := queue, next := next } }
  match p.channels.lookup descriptor with
  | none => failed s "Bad file descriptor"
  | some id =>
    match s.push id bytes p.fileLimit with
    | (.written n, s) =>
      let queue := if n < bytes.length then (descriptor, bytes.drop n) :: rest else rest
      s.putProcess { p with image := .utility { u with queue := queue } }
    | (.later, s) => s.putProcess { p with wake := .room id }
    | (.broken, s) =>
      if p.ignored.contains 13 then failed s "Broken pipe"
      else s.endProcess p.pid (.signal 13)
    | (.failed .tooLarge, s) =>
      if p.diesOf 25 then s.endProcess p.pid (.signal 25) else failed s Refusal.tooLarge.text
    | (.failed why, s) => failed s why.text

/-- The pipe with a name that a utility reads next, if it is that and not standard input: the first
among its arguments of which not all has been read. -/
def pendingPipe? (s : System) (p : Process) (u : Running) : Option String :=
  let isOver := fun (path : String) =>
    (u.feeds.lookup path).any fun feed => feed.opened.isNone
  let isSource := fun (a : String) =>
    if Call.isInput a then !u.ended else Call.leadsToPipe s.files p.cwd a && !isOver a
  if u.program = "tee" then none
  else (u.arguments.find? isSource).filter fun a => !Call.isInput a

/-- Reads more from a pipe that has a name, which is opened first. -/
def readPipe (s : System) (p : Process) (u : Running) (path : String) : System :=
  let others := u.feeds.filter fun entry => entry.1 != path
  let put := fun (s : System) (p : Process) (feed : Feed) (next : Option Next) =>
    s.putProcess { p with
      image := .utility { u with feeds := others ++ [(path, feed)], next := next } }
  match u.feeds.lookup path with
  | none =>
    let number := match s.files.reach p.cwd true (outward path) with
      | .ok (.found place _) => s.files.numberAt? place
      | _ => none
    let (id, wake, s) := s.openNamed (number.getD 0) true false
    put s { p with wake := wake } { opened := some id } u.next
  | some feed =>
    let id := feed.opened.getD 0
    match s.pull id chunkSize with
    | (.bytes data, s) => put s p { feed with data := feed.data ++ data } none
    | (.later, s) => put s { p with wake := .input id } feed u.next
    | (_, s) => put s p { feed with opened := none } none

/-- Reads more from the standard input of a utility. -/
def readInput (s : System) (p : Process) (u : Running) : System :=
  let finished := fun (s : System) (fault : Option String) =>
    s.putProcess { p with
      image := .utility { u with ended := true, inputFault := fault, next := none } }
  match p.channels.lookup 0 with
  | none => finished s (some "Bad file descriptor")
  | some id =>
    match s.pull id chunkSize with
    | (.bytes data, s) =>
      s.putProcess { p with image := .utility { u with input := u.input ++ data, next := none } }
    | (.finished, s) => finished s none
    | (.later, s) => s.putProcess { p with wake := .input id }
    | (.failed directory, s) =>
      finished s (some (if directory then Errno.isDirectory.text else "Bad file descriptor"))

/-- Reads more for a utility. -/
def readMore (s : System) (p : Process) (u : Running) : System :=
  match s.pendingPipe? p u with
  | some path => s.readPipe p u path
  | none => s.readInput p u

/-- What is said when a utility cannot start a program. -/
def startFault (u : Running) (name : String) (e : Errno) : String :=
  let what := match u.program with
    | "env" | "find" => quotedName name
    | "xargs" => shownName name
    | _ => "failed to run command " ++ quotedName name
  u.title ++ ": " ++ what ++ ": " ++ e.text ++ "\n"

/-- A utility becomes another program. -/
def becomeProgram (s : System) (p : Process) (u : Running) (start : Start) : System :=
  let p := { p with
    cwd := start.place.getD p.cwd, ignored := start.ignored ++ p.ignored
    niceness := start.niceness.getD p.niceness }
  let (tokens, environment) := (start.tokens, start.environment)
  let name := tokens.headD ""
  let path := (environment.get? "PATH").getD defaultSearchPath
  let found := if exceedsLimits tokens environment then .error .argumentsTooLong
    else firstStarted s.files p.cwd tokens none .noEntry (candidates path name)
  match found with
  | .ok program => s.putProcess (p.become s.files environment program)
  | .error .execFormat =>
    let program : Program := ⟨"dash", ["/bin/sh", name] ++ tokens.drop 1⟩
    s.putProcess (p.become s.files environment program)
  | .error e =>
    let status := if u.program = "find" then 1 else if e = .noEntry then 127 else 126
    s.putProcess { p with image := .utility { u with
      queue := [(2, toBytes (startFault u name e).toList)], next := some (.done status 0) } }

/-- The number of the stream that takes what a process prints for another one. -/
def streamFor (pid : Nat) : Nat := pid + 1000000

/-- A utility starts another program and waits for it. -/
def spawnProgram (s : System) (p : Process) (u : Running) (start : Start) : System :=
  let due := fun (alarms : List (Nat × Nat)) => alarms.map fun (time, n) => (p.clock + time, n)
  match u.awaited with
  | none =>
    let pid := s.nextPid
    let (channels, s) := match start.input with
      | none => (p.channels, s)
      | some bytes =>
        let (reader, _, s) := s.newPipe bytes
        (update p.channels 0 reader, s)
    let (channels, s) := if start.listens then
        let (writer, s) := s.newOpened { target := .outlet (streamFor pid), writable := true }
        (update channels 1 writer, s)
      else (channels, s)
    let child : Process := { p with
      pid := pid, parent := p.pid, clock := p.clock + 200, pending := []
      alarms := due start.alarms ++ p.alarms
      channels := channels
      image := .utility { u with queue := [], next := some (.become start) } }
    let s := { s with nextPid := pid + 1, processes := s.processes ++ [child] }
    s.putProcess { p with
      wake := .child, alarms := due start.ownAlarms ++ p.alarms
      image := .utility { u with
        awaited := some pid, limit := (due start.alarms).head?.map (·.1), keptAlarms := p.alarms } }
  | some pid =>
    match s.ended.find? fun entry => entry.1 == pid with
    | none => s.putProcess { p with wake := .child }
    | some (_, _, ending) =>
      let heard := ((s.outlets.lookup (streamFor pid)).getD []).reverse.flatten
      let s := { s with
        ended := s.ended.filter fun entry => entry.1 != pid
        outlets := s.outlets.filter fun entry => entry.1 != streamFor pid }
      s.putProcess { p with
        alarms := u.keptAlarms
        image := .utility { u with
          awaited := none, next := none, replies := u.replies ++ [ending.reply]
          heard := u.heard ++ [heard], snapshots := u.snapshots ++ [s.files] } }

/-- A step of a utility. -/
def stepUtility (s : System) (p : Process) (u : Running) : System :=
  match u.queue, u.next with
  | (descriptor, bytes) :: rest, _ => s.writeQueue p u descriptor bytes rest
  | [], none => s.callUtility p u
  | [], some .more => s.readMore p u
  | [], some .again => s.putProcess { p with image := .utility { u with next := none } }
  | [], some (.done status surplus) =>
    let s := match p.channels.lookup 0 with
      | some id => if surplus = 0 then s else s.unread id surplus
      | none => s
    s.endProcess p.pid (.code (status % 256))
  | [], some (.nap time) =>
    s.putProcess { p with
      clock := p.clock + time
      image := .utility { u with next := none, replies := u.replies ++ [0] } }
  | [], some (.become start) => s.becomeProgram p u start
  | [], some (.spawn start) => s.spawnProgram p u start
  | [], some (.die signal) => s.endProcess p.pid (.signal signal)

/-- A step of a shell. -/
def stepShell (s : System) (p : Process) (sh : Shell) : System :=
  let h := (Act.step.run { system := s, self := p, shell := sh }).2
  match h.ended with
  | some ending => h.system.endProcess p.pid ending
  | none => h.system.putProcess { h.self with image := h.replaced.getD (.shell h.shell) }

/-- The time that a step takes. -/
def stepTime : Nat := 2

/-- Processes go on that have got what they waited for. -/
def wakeReady (s : System) : System :=
  if s.processes.all fun p => p.wake == .now then s
  else
    { s with processes := s.processes.map fun p =>
        if p.wake ≠ .now ∧ s.isReady p then { p with wake := .now, clock := max p.clock s.clock }
        else p }

/-- A process does a step at a time, or gets a signal while it is at something that takes longer. -/
def advance (s : System) (time : Nat) (p : Process) : System :=
  let due := (p.alarms.filter fun alarm => alarm.1 ≤ time).map (·.2)
  let isBusy := p.wake = .now ∧ time < p.clock
  let p := { p with alarms := p.alarms.filter fun alarm => time < alarm.1 }
  let s := s.atTime time
  let s := if s.showsProcesses then s.withProcessFiles p.pid else s
  let s := match p.receive (p.pending ++ due) with
    | (some ending, _) => s.endProcess p.pid ending
    | (none, p) =>
      if isBusy then s.putProcess p
      else
        let p := { p with clock := time + stepTime, wake := .now }
        let s := s.putProcess p
        match p.image with
        | .shell sh => s.stepShell p sh
        | .utility u => s.stepUtility p u
  s.wakeReady

/-- When a process goes on: at its time, or when it gets a signal. Nothing if it only waits. -/
def nextTime? (p : Process) : Option Nat :=
  match p.wake, (p.alarms.map (·.1)).min? with
  | .now, some time => some (min p.clock time)
  | .now, none => some p.clock
  | _, first => first

/-- The process that goes on next, and when. -/
def nextProcess? (s : System) : Option (Nat × Process) :=
  s.processes.foldl (fun (best : Option (Nat × Process)) p =>
    match nextTime? p, best with
    | none, best => best
    | some time, none => some (time, p)
    | some time, some b => if time < b.1 then some (time, p) else best) none

/-- A process can still write to a stream that leaves the machine. -/
def reachesOutside (s : System) : Bool :=
  s.processes.any fun p => p.held.any fun id =>
    match s.opened.lookup id with
    | some o => match o.target with
      | .outlet _ => true
      | _ => false
    | none => false

/-- Lets processes go on until one of them has ended and nothing is left that writes to the
outside, for a number of steps at most. -/
def runUntil (main : Nat) : Nat → System → System
  | 0, s => s
  | fuel + 1, s =>
    if (s.process? main).isNone && !s.reachesOutside then s
    else
      match s.nextProcess? with
      | none => s
      | some (time, p) => runUntil main fuel (s.advance time p)

end System

end NativeBuild.Machine
