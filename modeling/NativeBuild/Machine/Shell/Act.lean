import NativeBuild.Machine.Program
import NativeBuild.Machine.Shell.Expansion
import NativeBuild.Machine.System

/-
  What a shell does to the system around it: it opens files, redirects descriptors, starts
  processes, sends signals and complains. A step of a shell is a change of the system, of the
  process and of the shell itself.
-/

namespace NativeBuild.Machine

/-- The process that is running a step, with the system around it. -/
structure Here where
  system : System
  self : Process
  shell : Shell
  /-- What a built-in command has printed, newest first. -/
  printed : List (List Char) := []
  /-- The process has become something else. -/
  replaced : Option Image := none
  /-- The process has ended. -/
  ended : Option Ending := none

/-- A step of a shell. -/
abbrev Act := StateM Here

/-- A part of a step that may raise an error. -/
abbrev Doing := ExceptT Raised Act

/-- The names of signals, by their numbers; zero stands for the end of the shell. -/
def signalNames : List String :=
  ["EXIT", "HUP", "INT", "QUIT", "ILL", "TRAP", "ABRT", "BUS", "FPE", "KILL", "USR1", "SEGV",
    "USR2", "PIPE", "ALRM", "TERM", "16", "CHLD", "CONT", "STOP", "TSTP", "TTIN", "TTOU", "URG",
    "XCPU", "XFSZ", "VTALRM", "PROF", "WINCH", "IO", "PWR", "SYS", "32", "33", "RTMIN"] ++
  (List.range 15).map (fun k => "RTMIN+" ++ toString (k + 1)) ++
  (List.range 14).map (fun k => "RTMAX-" ++ toString (14 - k)) ++ ["RTMAX"]

/-- The signal that a text names, by its number or by its name in any case. -/
def signalNumber? (least : Nat) (text : String) : Option Nat :=
  match natural? text.toList with
  | some n => if n < signalNames.length then some n else none
  | none =>
    let upper := text.toUpper
    (signalNames.zipIdx.find? fun (name, k) => least ≤ k && name == upper).map (·.2)

/-- What is said about a process that a signal has ended. -/
def signalText (signal : Nat) : String :=
  let texts := ["", "Hangup", "Interrupt", "Quit", "Illegal instruction", "Trace/breakpoint trap",
    "Aborted", "Bus error", "Floating point exception", "Killed", "User defined signal 1",
    "Segmentation fault", "User defined signal 2", "Broken pipe", "Alarm clock", "Terminated",
    "Stack fault", "Child exited", "Continued", "Stopped (signal)", "Stopped",
    "Stopped (tty input)", "Stopped (tty output)", "Urgent I/O condition",
    "CPU time limit exceeded", "File size limit exceeded", "Virtual timer expired",
    "Profiling timer expired", "Window changed", "I/O possible", "Power failure",
    "Bad system call", "Unknown signal 32", "Unknown signal 33"]
  texts.getD signal ("Real-time signal " ++ toString (signal - 34))

/-- Signals that end no process when nothing is done about them. -/
def harmlessSignals : List Nat := [0, 17, 18, 19, 20, 21, 22, 23, 28]

/-- What a shell does at a signal, if anything. -/
def Image.trap? (signal : Nat) : Image → Option String
  | .shell s => s.traps.lookup signal
  | .utility _ => none

/-- A signal ends a process. -/
def Process.diesOf (p : Process) (signal : Nat) : Bool :=
  signal == 9 || !(p.ignored.contains signal || harmlessSignals.contains signal ||
    (p.image.trap? signal).isSome)

namespace Act

/-- Changes the shell. -/
def onShell (f : Shell → Shell) : Act Unit := modify fun h => { h with shell := f h.shell }

/-- Changes the process. -/
def onSelf (f : Process → Process) : Act Unit := modify fun h => { h with self := f h.self }

/-- Changes the system. -/
def onSystem (f : System → System) : Act Unit := modify fun h => { h with system := f h.system }

/-- The shell as it is. -/
def shell : Act Shell := do return (← get).shell

/-- Puts tasks in front. -/
def push (tasks : List Task) : Act Unit := onShell (Shell.push tasks)

/-- Settles the exit code. -/
def setStatus (n : Nat) : Act Unit := onShell fun s => { s with status := n }

/-- The process waits. -/
def await (w : Wake) : Act Unit := onSelf fun p => { p with wake := w }

/-- The open file of a descriptor. -/
def channel? (descriptor : Nat) : Act (Option Nat) := do
  return (← get).self.channels.lookup descriptor

/-- Lets a descriptor lead to an open file. -/
def direct (descriptor opened : Nat) : Act Unit :=
  onSelf fun p => { p with channels := update p.channels descriptor opened }

/-- Closes a descriptor. -/
def shut (descriptor : Nat) : Act Unit :=
  onSelf fun p => { p with channels := p.channels.filter fun entry => entry.1 != descriptor }

/-- Writes a text to an open file at once; what cannot be written is lost. -/
def sayTo (opened : Option Nat) (text : String) : Act Unit := do
  match opened with
  | none => pure ()
  | some id => onSystem fun s => (s.push id (toBytes text.toList)).2

/-- Writes a text to standard error. -/
def say (text : String) : Act Unit := do sayTo (← channel? 2) text

/-- Complains about the command that is running. -/
def complain (text : String) : Act Unit := do
  let s ← shell
  let front := s.name ++ ": " ++ toString s.line ++ ": " ++
    match s.commandName with
    | some name => name ++ ": "
    | none => ""
  say (front ++ text ++ "\n")

/-- Prints a text, once the built-in command has ended. -/
def print (text : String) : Act Unit :=
  modify fun h => { h with printed := text.toList :: h.printed }

/-- Opens what a path leads to. -/
def openPath (path : String) (opening : Opening) : Act (Except Errno Nat) := do
  let h ← get
  let digits := fun (front : String) =>
    if front.toList.isPrefixOf path.toList then natural? (path.toList.drop front.length) else none
  let descriptor := match path with
    | "/dev/stdin" => some 0
    | "/dev/stdout" => some 1
    | "/dev/stderr" => some 2
    | _ => (digits "/dev/fd/").or (digits "/proc/self/fd/")
  match descriptor with
  | some n =>
    match h.self.channels.lookup n with
    | some id => return .ok id
    | none => return .error .noEntry
  | none =>
    let writes := opening ≠ .read
    let creates := writes
    let truncates := opening = .write ∨ opening = .overwrite
    let new := fun (t : Target) =>
      let o : Opened := { target := t, readable := opening = .read ∨ opening = .readWrite
                          writable := writes, append := opening = .append }
      modifyGet fun h =>
        let (id, system) := h.system.newOpened o
        (Except.ok id, { h with system := system })
    let files := h.system.files
    match files.reach h.self.cwd true (outward path) with
    | .error e => return .error e
    | .ok (.found place (.directory _)) =>
      if writes then return .error .isDirectory
      else if files.permits place .read then new (.directory place)
      else return .error .accessDenied
    | .ok (.found place node) =>
      let denied := (writes && !node.allows .write) || (!writes && !node.allows .read) ||
        (opening = .readWrite && !node.allows .read)
      if denied then return .error .accessDenied
      else
        match node with
        | .file content mode =>
          match markedDevice? content with
          | some "null" | some "tty" => new .null
          | some "full" => new .full
          | some _ => new .zero
          | none =>
            if truncates then
              onSystem fun s => { s with files := s.files.rewrite place (.file [] mode) }
            new (.file ((files.numberAt? place).getD 0))
        | .pipe _ =>
          let reading := opening = .read ∨ opening = .readWrite
          modifyGet fun h =>
            let (id, wake, system) :=
              h.system.openNamed ((files.numberAt? place).getD 0) reading writes
            (Except.ok id, { h with system := system, self := { h.self with wake := wake } })
        | _ => return .error .noEntry
    | .ok (.missing parent name) =>
      if creates = false then return .error .noEntry
      else if path.toList.getLast? = some '/' then return .error .isDirectory
      else if files.permits parent .write = false then return .error .accessDenied
      else
        let mode := 0o666 &&& (0o777 - (h.self.umask &&& 0o777))
        onSystem fun s => { s with files := s.files.add (parent ++ [name]) (.file [] mode) }
        new (.file files.fresh)

/-- A new process that goes on with tasks of its own in a shell that knows what this one knows.
In the background it reads nothing and is not interrupted. -/
def fork (tasks : List Task) (channels : List (Nat × Nat)) (inBackground : Bool) : Act Nat :=
  modifyGet fun h =>
    let pid := h.system.nextPid
    let s := { h.shell with
      tasks := tasks, jobs := [], caught := [], alert := none, redirections := []
      kept := h.shell.kept ++ h.shell.redirections.flatMap fun saved => saved.filterMap (·.2)
      traps := h.shell.traps.filter fun t => t.2 = "" }
    let child : Process := { h.self with
      pid := pid, parent := h.self.pid, clock := h.self.clock + 200, wake := .now, pending := []
      channels := channels
      ignored := if inBackground then h.self.ignored ++ [2, 3] else h.self.ignored
      image := .shell s }
    let system := { h.system with
      nextPid := pid + 1, processes := h.system.processes ++ [child] }
    (pid, { h with system := system, self := { h.self with clock := h.self.clock + 120 } })

/-- A new job of processes; its number is the first that is free. -/
def newJob (pids : List Nat) : Act Nat :=
  modifyGet fun h =>
    let jobs := h.shell.jobs.filter fun j => !(j.isDone && j.waited)
    let used := jobs.map (·.number)
    let number := ((List.range (used.length + 1)).map (· + 1)).find? (fun n => !used.contains n)
    let job : Job := { number := number.getD 1, processes := pids.map (·, none) }
    (job.number, { h with shell := { h.shell with jobs := job :: jobs } })

/-- A process is added to a job. -/
def addToJob (number pid : Nat) : Act Unit :=
  onShell fun s => s.modifyJob number fun j => { j with processes := j.processes ++ [(pid, none)] }

/-- The job of a number. -/
def job? (number : Nat) : Act (Option Job) := do
  return (← shell).jobs.find? (·.number == number)

/-- Forgets a job. -/
def dropJob (number : Nat) : Act Unit :=
  onShell fun s => { s with jobs := s.jobs.filter (·.number != number) }

/-- Notes which of the shell's processes have ended; says so of those of a job that a signal
ended. -/
def reap (watched : Option Nat) : Act Unit := do
  let h ← get
  let mine := (h.system.ended.filter fun e => e.2.1 == h.self.pid).reverse
  if mine ≠ [] then
    onSystem fun s => { s with ended := s.ended.filter fun e => e.2.1 != h.self.pid }
    for (pid, _, ending) in mine do
      let jobs := (← shell).jobs
      for j in jobs do
        if j.processes.any (·.1 == pid) then
          if some j.number = watched then
            match ending with
            | .signal n => if n ≠ 2 ∧ n ≠ 13 then say (signalText n ++ "\n")
            | .code _ => pure ()
      onShell fun s => { s with jobs := s.jobs.map (Job.note pid ending) }

/-- Sends a signal to a process; tells whether there is one of that number. -/
def signal (pid signal : Nat) : Act Bool := do
  let h ← get
  if pid = h.self.pid then
    if signal ≠ 0 then onSelf fun p => { p with pending := p.pending ++ [signal] }
    return true
  else if h.system.processes.any (·.pid == pid) then
    if signal ≠ 0 then
      onSystem fun s => s.modifyProcess pid fun p =>
        { p with
          pending := p.pending ++ [signal]
          clock := if p.diesOf signal then min p.clock (h.self.clock + 1) else p.clock }
    return true
  else return h.system.ended.any fun e => e.1 == pid

/-- Puts the descriptors back that the innermost redirections have changed, or leaves them. -/
def popRedirection (keep : Bool) : Act Unit := do
  match (← shell).redirections with
  | [] => pure ()
  | saved :: rest =>
    if keep = false then
      for (descriptor, was) in saved do
        match was with
        | none => shut descriptor
        | some id => direct descriptor id
    onShell fun s => { s with redirections := rest }

/-- Undoes redirections down to a depth. -/
def unwindRedirections (depth : Nat) : Act Unit := do
  for _ in List.range ((← shell).redirections.length - depth) do
    popRedirection false

/-- Puts a variable or the options back as they were outside. -/
def restore (s : Shell) : Shadowed → Shell
  | .options outer => { s with options := outer }
  | .variable name none =>
    { s with table := s.table.erase name, hashed := if name = "PATH" then [] else s.hashed }
  | .variable name (some v) =>
    let table := if (s.table.find? name).isSome then s.table.modify name fun _ => v
      else s.table ++ [v]
    let s := { s with table := table, hashed := if name = "PATH" then [] else s.hashed }
    if name = "OPTIND" then
      { s with nextOption := (((v.value.bind fun t => natural? t.toList).getD 1), 0) }
    else s

/-- Leaves scopes down to a depth. -/
def unwindScopes (depth : Nat) : Act Unit := do
  for _ in List.range ((← shell).scopes.length - depth) do
    onShell fun s =>
      match s.scopes with
      | [] => s
      | scope :: rest => scope.foldl restore { s with scopes := rest }

/-- Gives up texts down to a depth. -/
def unwindInputs (depth : Nat) : Act Unit :=
  onShell fun s => { s with inputs := s.inputs.drop (s.inputs.length - depth) }

/-- The shell leaves everything that was begun, before it ends. -/
def reset (r : Raised) (afterTrap : Bool) : Act Unit := do
  onShell fun s =>
    let status := match s.savedStatus with
      | some saved => if r = .exit ∨ afterTrap then saved else s.status
      | none => s.status
    { s with status := status, savedStatus := none, skip := .none, loops := 0, tracing := false
             answers := [] }
  unwindRedirections 0

/-- Gives up tasks down to one that deals with what was raised. -/
def unwind (r : Raised) : List Task → Act Unit
  | [] => do
    onShell fun s => { s with tasks := [.leave] }
    reset r false
  | task :: rest => do
    match task with
    | .exitTrapEnd => do
      onShell fun s => { s with tasks := [.die] }
      reset r false
    | .guardRedirections =>
      if r = .error then
        onShell fun s => { s with tasks := rest, redirectionFailed := true }
      else unwind r rest
    | .builtinEnd outer special => do
      onShell fun s => { s with commandName := outer }
      modify fun h => { h with printed := [] }
      if r = .error ∧ special = false then
        onShell fun s => { s with tasks := rest }
      else unwind r rest
    | .functionEnd parameters next line loops => do
      onShell fun s => { s with
        parameters := parameters, nextOption := next, functionLine := line, loops := loops
        skip := match s.skip with
          | .giveBack _ => .none
          | skip => skip }
      unwind r rest
    | _ => unwind r rest

/-- Gives up job control, for which there is no terminal. -/
def giveUpControl : Act Unit := do
  complain "can't access tty; job control turned off"
  onShell fun s => { s with options := s.options.filter (· ≠ "monitor") }

/-- Raises an error or the end of the shell. -/
def raise (r : Raised) : Act Unit := do
  unwind r (← shell).tasks

end Act

namespace Doing

/-- Complains and raises an error; the exit code is then that of a misuse. -/
def fail {α : Type} (text : String) : Doing α := do
  Act.complain text
  Act.setStatus 2
  throw .error

/-- The number that an argument spells. -/
def number (text : String) : Doing Nat := do
  match numberText? false text.toList with
  | some (.ofNat n) => if n ≤ 2147483647 then return n else fail ("Illegal number: " ++ text)
  | _ => fail ("Illegal number: " ++ text)

/-- Gives a value to a variable. -/
def assign (name : String) (value : Option String) (m : Marking) : Doing Unit := do
  if isName name.toList = false then fail (name ++ ": bad variable name")
  match (← Act.shell).assign? name value m with
  | some s => Act.onShell fun _ => s
  | none => fail (name ++ ": is read only")

/-- The options among the arguments of a built-in command, with the values of those that take one,
and the other arguments. Letters with a colon behind them take a value. -/
def options (letters : List Char) : Nat → List String → List (Char × String) →
    Doing (List (Char × String) × List String)
  | 0, arguments, taken => return (taken.reverse, arguments)
  | fuel + 1, arguments, taken => do
    match arguments with
    | [] => return (taken.reverse, [])
    | a :: rest =>
      match a.toList with
      | ['-', '-'] => return (taken.reverse, rest)
      | '-' :: c :: more =>
        match letters.dropWhile (· ≠ c) with
        | [] => fail ("Illegal option -" ++ String.ofList [c])
        | _ :: after =>
          if c = ':' then fail ("Illegal option -" ++ String.ofList [c])
          else if after.head? = some ':' then
            match more, rest with
            | [], [] => fail ("No arg for -" ++ String.ofList [c] ++ " option")
            | [], value :: rest => options letters fuel rest ((c, value) :: taken)
            | value, rest => options letters fuel rest ((c, String.ofList value) :: taken)
          else
            let rest := if more = [] then rest else String.ofList ('-' :: more) :: rest
            options letters fuel rest ((c, "") :: taken)
      | _ => return (taken.reverse, arguments)

/-- The options of a built-in command and its other arguments. -/
def optionsOf (letters : String) (arguments : List String) :
    Doing (List (Char × String) × List String) :=
  options letters.toList (total (arguments.map String.length) + arguments.length + 1) arguments []

/-- A variable is given a scope of its own, with a value if there is one. -/
def shadow (text : String) (m : Marking) : Doing Unit := do
  let s ← Act.shell
  let keep := fun (x : Shadowed) => Act.onShell fun s =>
    match s.scopes with
    | [] => { s with scopes := [[x]] }
    | scope :: rest => { s with scopes := (x :: scope) :: rest }
  if text = "-" then keep (.options s.options)
  else
    let name := String.ofList (text.toList.takeWhile (· ≠ '='))
    let value := if text.toList.contains '=' then
        some (String.ofList (text.toList.drop (name.length + 1)))
      else none
    match s.table.find? name with
    | none =>
      assign name value { m with fixed := true }
      keep (.variable name none)
    | some v =>
      Act.onShell fun s =>
        let table := s.table.modify name fun v => { v with fixed := true }
        { s with table := table }
      match value with
      | some value => assign name (some value) m
      | none => pure ()
      keep (.variable name (some v))

end Doing

end NativeBuild.Machine
