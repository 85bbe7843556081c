import NativeBuild.FileTree.Directory
import NativeBuild.Machine.Shell.Basic

/-
  The system that processes share: files, pipes, open files and the processes themselves. Every
  process has a clock of its own, as if it had a processor to itself, and the one whose clock is
  furthest behind goes on first. Main statement: what is written to an open end of a pipe is what
  its reader gets, in order.
-/

namespace NativeBuild.Machine

/-- What an open file leads to. -/
inductive Target where
  | null
  | zero
  | full
  | pipe (id : Nat)
  /-- A stream that leaves the machine; it takes whatever is written. -/
  | outlet (id : Nat)
  /-- The file of a number in the tree. -/
  | file (number : Nat)
  /-- A file that has been removed from the tree. -/
  | loose (content : List UInt8)
  | directory (place : Location)
  deriving Repr, DecidableEq

/-- An open file; descriptors of several processes may share it. -/
structure Opened where
  target : Target
  offset : Nat := 0
  readable : Bool := false
  writable : Bool := false
  append : Bool := false

/-- What is written to a pipe and not read yet. -/
structure Pipe where
  /-- The bytes to be read next. -/
  front : List UInt8 := []
  /-- What was written after them, newest first. -/
  back : List (List UInt8) := []
  size : Nat := 0
  /-- How often it has been opened by a name for reading, and for writing. -/
  readers : Nat := 0
  writers : Nat := 0

namespace Pipe

/-- All bytes of a pipe in order. -/
def content (p : Pipe) : List UInt8 := p.front ++ p.back.reverse.flatten

/-- The pipe with bytes written to it. -/
def push (bytes : List UInt8) (p : Pipe) : Pipe :=
  { p with back := bytes :: p.back, size := p.size + bytes.length }

/-- The pipe with something in front if it holds anything. -/
def advanced (p : Pipe) : Pipe :=
  if p.front = [] then { p with front := p.back.reverse.flatten, back := [] } else p

/-- Up to a number of bytes of a pipe, and the pipe without them. -/
def pull (limit : Nat) (p : Pipe) : List UInt8 × Pipe :=
  let p := p.advanced
  let taken := p.front.take limit
  (taken, { p with front := p.front.drop limit, size := p.size - taken.length })

end Pipe

/-- The most bytes that are read at once. -/
def chunkSize : Nat := 65536

/-- The most bytes that a pipe holds. -/
def pipeCapacity : Nat := 65536

/-- What a process waits for. -/
inductive Wake where
  /-- It can go on when its time has come. -/
  | now
  /-- Bytes in an open file, or the end of all that could write them. -/
  | input (opened : Nat)
  /-- Room in an open file, or the end of all that could read from it. -/
  | room (opened : Nat)
  /-- That a pipe is opened for writing, or for reading, once more than so many times. -/
  | partner (pipe : Nat) (writing : Bool) (count : Nat)
  /-- The end of one of its processes, or a signal. -/
  | child
  deriving Repr, DecidableEq

/-- A program that a utility starts. -/
structure Start where
  tokens : List String
  environment : Variables
  /-- Where it works, if that is not where the utility does. -/
  place : Option Location := none
  /-- What it has to read, if that is not what the utility reads. -/
  input : Option (List UInt8) := none
  /-- What it prints is for the utility. -/
  listens : Bool := false
  /-- Signals that it gets if it is still there after so many microseconds, and those that the
  utility gets then. -/
  alarms : List (Nat × Nat) := []
  ownAlarms : List (Nat × Nat) := []
  /-- Signals that do nothing to it. -/
  ignored : List Nat := []
  /-- How far it stands back for others. -/
  niceness : Option Int := none

/-- What a utility does after it has written what it had to write. -/
inductive Next where
  /-- It reads more. -/
  | more
  /-- It makes more. -/
  | again
  /-- It ends with an exit code and leaves bytes that it has read for others. -/
  | done (status : Nat) (surplus : Nat)
  | nap (time : Nat)
  /-- It becomes another program. -/
  | become (start : Start)
  /-- It starts another program and waits for it. -/
  | spawn (start : Start)
  /-- It ends itself by a signal. -/
  | die (signal : Nat)

/-- What a utility reads from a pipe that has a name. -/
structure Feed where
  /-- The open file of the pipe, until all has been read. -/
  opened : Option Nat
  data : List UInt8 := []

/-- A utility that is running. -/
structure Running where
  /-- The program and the name it was called by. -/
  program : String
  title : String
  arguments : List String
  environment : Variables
  /-- What it has read from standard input, and whether that has ended. -/
  input : List UInt8 := []
  ended : Bool := false
  /-- Why standard input cannot be read. -/
  inputFault : Option String := none
  /-- What it reads from pipes, by their paths. -/
  feeds : List (String × Feed) := []
  /-- What it still has to write, by descriptor. -/
  queue : List (Nat × List UInt8) := []
  /-- How many bytes it has made so far. -/
  made : Nat := 0
  /-- The files as they were when it was called first. -/
  before : Option FileTree := none
  /-- The exit codes of the commands it has run, and of naps. -/
  replies : List Nat := []
  /-- What the commands printed that it wanted to read itself. -/
  heard : List (List UInt8) := []
  /-- The files as they were after each reply. -/
  snapshots : List FileTree := []
  /-- The command that it waits for, when that had to be done, and the alarms of before. -/
  awaited : Option Nat := none
  limit : Option Nat := none
  keptAlarms : List (Nat × Nat) := []
  /-- What it does once all is written; nothing while that is not known. -/
  next : Option Next := none

/-- What a process runs. -/
inductive Image where
  | shell (s : Shell)
  | utility (u : Running)

/-- A process. -/
structure Process where
  pid : Nat
  parent : Nat
  /-- When it goes on, in microseconds. -/
  clock : Nat
  wake : Wake := .now
  /-- The open files of its descriptors. -/
  channels : List (Nat × Nat)
  cwd : Location
  umask : Nat := 0o022
  /-- Limits by their letters, the one that holds and the one that it can be raised to. -/
  limits : List (Char × Option Nat × Option Nat) := []
  ignored : List Nat := []
  /-- Signals that it gets at a time, the first one first. -/
  alarms : List (Nat × Nat) := []
  niceness : Int := 0
  /-- Signals that have come. -/
  pending : List Nat := []
  image : Image

/-- All that processes share. -/
structure System where
  files : FileTree
  clock : Nat := 0
  /-- The date of the clock's zero, in nanoseconds from the start of 1970. -/
  start : Int := files.now
  opened : List (Nat × Opened) := []
  pipes : List (Nat × Pipe) := []
  /-- The pipes that have names, by the numbers of their files. -/
  named : List (Nat × Nat) := []
  /-- What has left the machine, by stream, newest first. -/
  outlets : List (Nat × List (List UInt8)) := []
  processes : List Process := []
  /-- Processes that ended, with their parents; newest first. -/
  ended : List (Nat × Nat × Ending) := []
  fresh : Nat := 1
  nextPid : Nat
  /-- Programs look at the files of processes. -/
  showsProcesses : Bool := false

/-- A list with the entry of a key changed, or added in front. -/
def update {α : Type} (entries : List (Nat × α)) (key : Nat) (value : α) : List (Nat × α) :=
  (key, value) :: entries.filter fun entry => entry.1 != key

/-- The result of reading from an open file. -/
inductive Pulled where
  | bytes (data : List UInt8)
  | finished
  | later
  | failed (directory : Bool)

/-- Why a file takes nothing. -/
inductive Refusal where
  | closed
  | full
  /-- It would become longer than a process may make it. -/
  | tooLarge
  deriving Repr, DecidableEq

/-- What is said about a file that takes nothing. -/
def Refusal.text : Refusal → String
  | closed => "Bad file descriptor"
  | full => "No space left on device"
  | tooLarge => "File too large"

/-- The result of writing to an open file. -/
inductive Pushed where
  /-- So many bytes were written. -/
  | written (count : Nat)
  | later
  /-- Nobody can read it any more. -/
  | broken
  | failed (why : Refusal)

namespace Process

/-- All open files that a process holds, those that its redirections have put aside included. -/
def held (p : Process) : List Nat :=
  p.channels.map (·.2) ++ match p.image with
    | .shell s => s.kept ++ s.redirections.flatMap fun saved => saved.filterMap (·.2)
    | .utility u => u.feeds.filterMap fun entry => entry.2.opened

/-- The most bytes that the process may make a file have. -/
def fileLimit (p : Process) : Option Nat :=
  ((p.limits.lookup 'f').bind fun limit => limit.1).map (· * 512)

end Process

namespace System

/-- Some process holds an open file of a pipe for reading, or for writing. -/
def holds (s : System) (pipe : Nat) (reading : Bool) : Bool :=
  s.processes.any fun p => p.held.any fun id =>
    match s.opened.lookup id with
    | some o => o.target == .pipe pipe && (if reading then o.readable else o.writable)
    | none => false

/-- A new open file. -/
def newOpened (s : System) (o : Opened) : Nat × System :=
  (s.fresh, { s with fresh := s.fresh + 1, opened := (s.fresh, o) :: s.opened })

/-- A new pipe: its open file for reading and the one for writing. -/
def newPipe (s : System) (content : List UInt8) : Nat × Nat × System :=
  let pipe : Pipe := { front := content, size := content.length }
  let id := s.fresh
  let s := { s with fresh := id + 1, pipes := (id, pipe) :: s.pipes }
  let (reader, s) := s.newOpened { target := .pipe id, readable := true }
  let (writer, s) := s.newOpened { target := .pipe id, writable := true }
  (reader, writer, s)

/-- Opens the pipe of a file's number, and tells what has to be waited for: that somebody opens its
other end. -/
def openNamed (s : System) (number : Nat) (reading writing : Bool) : Nat × Wake × System :=
  let (id, s) := match s.named.lookup number with
    | some id => (id, s)
    | none => (s.fresh, { s with fresh := s.fresh + 1, named := (number, s.fresh) :: s.named })
  let (hasReader, hasWriter) := (s.holds id true, s.holds id false)
  let pipe := (s.pipes.lookup id).getD {}
  let pipe := if hasReader ∨ hasWriter then pipe else { pipe with front := [], back := [], size := 0 }
  let wake := if reading = writing then .now
    else if reading then if hasWriter then .now else .partner id true pipe.writers
    else if hasReader then .now else .partner id false pipe.readers
  let pipe := { pipe with
    readers := pipe.readers + reading.toNat, writers := pipe.writers + writing.toNat }
  let s := { s with pipes := update s.pipes id pipe }
  let (opened, s) := s.newOpened { target := .pipe id, readable := reading, writable := writing }
  (opened, wake, s)

/-- A place of the file of a number, with its content and its mode. -/
def fileOf? (s : System) (number : Nat) : Option (Location × List UInt8 × Nat) :=
  (s.files.entries.find? fun entry => entry.number == number).bind fun entry =>
    match entry.node with
    | .file content mode => some (entry.place, content, mode)
    | _ => none

/-- The content of the file of a number. -/
def contentOf (s : System) (number : Nat) : List UInt8 :=
  ((s.fileOf? number).map fun found => found.2.1).getD []

/-- Reads up to a number of bytes from an open file. -/
def pull (s : System) (id limit : Nat) : Pulled × System :=
  match s.opened.lookup id with
  | none => (.failed false, s)
  | some o =>
    let advance := fun (data : List UInt8) =>
      if data = [] then (Pulled.finished, s)
      else (.bytes data,
        { s with opened := update s.opened id { o with offset := o.offset + data.length } })
    if o.readable = false then (.failed false, s)
    else
      match o.target with
      | .null => (.finished, s)
      | .zero | .full => (.bytes (List.replicate (min limit 8192) 0), s)
      | .outlet _ => (.finished, s)
      | .directory _ => (.failed true, s)
      | .file number => advance (((s.contentOf number).drop o.offset).take limit)
      | .loose content => advance ((content.drop o.offset).take limit)
      | .pipe p =>
        let pipe := (s.pipes.lookup p).getD {}
        if pipe.size = 0 then (if s.holds p false then .later else .finished, s)
        else
          let (data, pipe) := pipe.pull limit
          (.bytes data, { s with pipes := update s.pipes p pipe })

/-- Puts bytes back that were read too many from a file. -/
def unread (s : System) (id count : Nat) : System :=
  match s.opened.lookup id with
  | some o =>
    match o.target with
    | .file _ | .loose _ =>
      { s with opened := update s.opened id { o with offset := o.offset - count } }
    | _ => s
  | none => s

/-- A content with bytes written over it from an offset on. -/
def overwritten (content : List UInt8) (offset : Nat) (bytes : List UInt8) : List UInt8 :=
  let gap := List.replicate (offset - content.length) 0
  content.take offset ++ gap ++ bytes ++ content.drop (offset + bytes.length)

/-- How many bytes may be written from an offset on when a file may have so many. -/
def roomFrom (limit : Option Nat) (offset count : Nat) : Nat :=
  match limit with
  | some most => min count (most - offset)
  | none => count

/-- Writes bytes to an open file, as many as it takes. What a process writes to a file may be
limited. -/
def push (s : System) (id : Nat) (bytes : List UInt8) (limit : Option Nat := none) :
    Pushed × System :=
  match s.opened.lookup id with
  | none => (.failed .closed, s)
  | some o =>
    if o.writable = false then (.failed .closed, s)
    else
      match o.target with
      | .null | .zero => (.written bytes.length, s)
      | .full => (.failed .full, s)
      | .directory _ => (.failed .closed, s)
      | .outlet n =>
        let chunks := (s.outlets.lookup n).getD []
        (.written bytes.length, { s with outlets := update s.outlets n (bytes :: chunks) })
      | .file number =>
        match s.fileOf? number with
        | some (place, content, mode) =>
          let offset := if o.append then content.length else o.offset
          let taken := bytes.take (roomFrom limit offset bytes.length)
          if taken = [] ∧ bytes ≠ [] then (.failed .tooLarge, s)
          else
            let files := s.files.rewrite place (.file (overwritten content offset taken) mode)
            (.written taken.length,
              { s with files := files,
                       opened := update s.opened id { o with offset := offset + taken.length } })
        | _ => (.written bytes.length, s)
      | .loose content =>
        let offset := if o.append then content.length else o.offset
        (.written bytes.length,
          { s with opened := update s.opened id
                    { o with target := .loose (overwritten content offset bytes),
                             offset := offset + bytes.length } })
      | .pipe p =>
        if s.holds p true = false then (.broken, s)
        else
          let pipe := (s.pipes.lookup p).getD {}
          let room := pipeCapacity - pipe.size
          if room = 0 then (.later, s)
          else
            let taken := bytes.take room
            (.written taken.length, { s with pipes := update s.pipes p (pipe.push taken) })

/-- A process can go on. -/
def isReady (s : System) (p : Process) : Bool :=
  match p.wake with
  | .now => true
  | .input id =>
    !p.pending.isEmpty || match s.opened.lookup id with
    | some ⟨.pipe n, _, _, _, _⟩ =>
      0 < ((s.pipes.lookup n).getD {}).size || !s.holds n false
    | _ => true
  | .room id =>
    !p.pending.isEmpty || match s.opened.lookup id with
    | some ⟨.pipe n, _, _, _, _⟩ =>
      ((s.pipes.lookup n).getD {}).size < pipeCapacity || !s.holds n true
    | _ => true
  | .partner id writing count =>
    let pipe := (s.pipes.lookup id).getD {}
    p.pending.any (· != 17) || count < if writing then pipe.writers else pipe.readers
  | .child => !p.pending.isEmpty || s.ended.any fun (_, parent, _) => parent == p.pid

/-- The system with a changed tree. Open files that have lost their last name keep their content,
and processes stay in their directories wherever these are. -/
def withFiles (s : System) (files : FileTree) : System :=
  let opened := s.opened.map fun (id, o) =>
    match o.target with
    | .file number =>
      if files.nameCount number = 0 then (id, { o with target := .loose (s.contentOf number) })
      else (id, o)
    | _ => (id, o)
  let processes := s.processes.map fun p => { p with cwd := files.follow s.files p.cwd }
  { s with files := files, opened := opened, processes := processes }

/-- The system at a time. Dates are counted in steps of four milliseconds. -/
def atTime (s : System) (clock : Nat) : System :=
  let now := s.start + ((clock / 4000 * 4000000 : Nat) : Int)
  { s with clock := clock, files := { s.files with now := now } }

/-- The process of a number. -/
def process? (s : System) (pid : Nat) : Option Process := s.processes.find? (·.pid == pid)

/-- The system with a process changed. -/
def modifyProcess (s : System) (pid : Nat) (f : Process → Process) : System :=
  { s with processes := s.processes.map fun p => if p.pid == pid then f p else p }

/-- The system after the end of a process; its parent can learn of it. -/
def endProcess (s : System) (pid : Nat) (ending : Ending) : System :=
  match s.process? pid with
  | none => s
  | some p =>
    let others := s.processes.filter (·.pid != pid)
    let others := others.map fun q =>
      if q.pid == p.parent then { q with pending := q.pending ++ [17] }
      else if q.parent == pid then { q with parent := 1 }
      else q
    { s with processes := others, ended := (pid, p.parent, ending) :: s.ended }

end System

end NativeBuild.Machine
