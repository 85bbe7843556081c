import NativeBuild.Machine.Shell.Launch
import NativeBuild.Machine.Shell.Redirect

/-
  The steps of a shell: what is done for each task. Tasks that need others put these in front of
  what is left to do.
-/

namespace NativeBuild.Machine.Step

open Act Doing

/-- The descriptor from which a shell reads what a captured command prints. -/
def captureChannel : Nat := 1000

/-- Something is done when a signal comes or at the end. -/
def hasTraps (s : Shell) : Bool := s.traps.any fun t => t.2 != ""

/-- The line of a command that is being run. -/
def enterLine (line : Nat) : Act Unit := onShell fun s => { s with line := line }

/-- Begins to pass over commands, or ends that. -/
def setSkip (skip : Skip) : Act Unit := onShell fun s => { s with skip := skip }

/-- Counts a loop that has been left or passed to its next turn. Gives what the loop has to do. -/
def skipLoop : Act Skip := do
  match (← shell).skip with
  | .none => return .none
  | .breakOut n =>
    setSkip (if n ≤ 1 then .none else .breakOut (n - 1))
    return .breakOut n
  | .goOn n =>
    setSkip (if n ≤ 1 then .none else .goOn (n - 1))
    return if n ≤ 1 then .goOn n else .breakOut n
  | .giveBack given => return .giveBack given

/-- The innermost loop begins or ends. -/
def countLoops (f : Nat → Nat) : Act Unit := onShell fun s => { s with loops := f s.loops }

/-- Ends a loop with an exit code. -/
def endLoop (status : Nat) : Act Unit := do
  countLoops (· - 1)
  setStatus status

/-- Loops go on after this. -/
def goesOn (skip : Skip) : Bool :=
  match skip with
  | .none | .goOn _ => true
  | _ => false

/-- The shell waits for the end of a job and then has its exit code. -/
def waitForJob (number : Nat) (again : Task) (done : Nat → Act Unit) : Act Unit := do
  match ← job? number with
  | none => done 0
  | some _ =>
    reap (some number)
    match ← job? number with
    | none => done 0
    | some j =>
      if j.isDone then
        dropJob number
        done j.status
      else
        push [again]
        await .child

/-- Looks at a signal of at least a number: what it asks for is done, and then the exit code is as
before. -/
def handleSignal (status : Nat) (outer : Option Nat) (least : Nat) : Act Unit := do
  let s ← shell
  let waiting := s.caught.filter (least ≤ ·)
  match waiting.min? with
  | none => onShell fun s => { s with savedStatus := outer }
  | some n =>
    if s.skip ≠ .none then
      onShell fun s => { s with savedStatus := outer, alert := some n }
    else
      onShell fun s => { s with caught := s.caught.filter (· != n) }
      match s.traps.lookup n with
      | none => push [.handle status outer (n + 1)]
      | some action =>
        let input : Input := { source := .ofList action.toList }
        onShell fun s => { s with inputs := input :: s.inputs }
        push [.text {} none, .handled status outer (n + 1)]

/-- Looks whether signals have come. -/
def lookAtSignals : Act Unit := do
  let s ← shell
  if s.alert.isSome then
    let status := s.savedStatus.getD s.status
    onShell fun s => { s with alert := none, savedStatus := some status }
    push [.handle status s.savedStatus 1]

/-- Starts a job of one process that goes on with tasks of its own. -/
def startJob (tasks : List Task) (channels : List (Nat × Nat)) (inBackground : Bool) :
    Act (Nat × Nat) := do
  let job ← newJob []
  let pid ← fork tasks channels inBackground
  addToJob job pid
  return (job, pid)

/-- The channels of this process. -/
def channels : Act (List (Nat × Nat)) := do return (← get).self.channels

/-- A command in the background reads nothing. -/
def withoutInput (cs : List (Nat × Nat)) : Act (List (Nat × Nat)) := do
  modifyGet fun h =>
    let (id, system) := h.system.newOpened { target := .null, readable := true }
    (update cs 0 id, { h with system := system })

/-- Remembers the program of a command that a process of its own will start. -/
def remember (c : Command) : Act Unit := do
  match c with
  | .simple _ _ (word :: _) _ =>
    match Word.plain? word with
    | some cs =>
      let name := String.ofList cs
      let s ← shell
      if isName cs ∧ builtinNames.contains name = false ∧ (s.functions.lookup name).isNone then
        let _ ← findFile name false
    | none => pure ()
  | _ => pure ()

/-- Starts the stages of a pipe; each reads what the one before writes. -/
def startStages (job : Nat) (f : Flags) (inBackground isFirst : Bool) :
    Option Nat → List Command → Act Nat
  | _, [] => return 0
  | input, stage :: rest => do
    remember stage
    let mine ← channels
    let base ← if inBackground && isFirst then withoutInput mine else pure mine
    let base := match input with
      | some id => update base 0 id
      | none => base
    let (next, cs) ← if rest.isEmpty then pure (none, base) else
      modifyGet fun h =>
        let (reader, writer, system) := h.system.newPipe []
        ((some reader, update base 1 writer), { h with system := system })
    -- The reading end stays open here until the stage that reads from it has been started.
    match next with
    | some id => direct captureChannel id
    | none => shut captureChannel
    let pid ← fork [.eval stage { f with leaves := true }]
      (cs.filter fun channel => channel.1 != captureChannel) inBackground
    addToJob job pid
    let last ← startStages job f inBackground false next rest
    return if rest.isEmpty then pid else last

/-- What is done for a kind of command. -/
def dispatch (c : Command) (f : Flags) : Act Unit := do
  let tested : Flags := { tested := true }
  let inner : Flags := { tested := f.tested }
  match c with
  | .nothing => push [.finish false f]
  | .simple line assignments words redirections =>
    enterLine line
    onShell fun s => { s with capturedStatus := 0 }
    push [.gather { line, flags := f, assignments, redirections, words }, .finish true f]
  | .pipe stages background =>
    let job ← newJob []
    let last ← startStages job f background true none stages
    if background then
      onShell fun s => { s with lastBackground := some last }
      setStatus 0
      push [.finish true f]
    else push [.waitFor job, .finish true f]
  | .redirected line body redirections =>
    enterLine line
    push [.targets redirections [], .compound body inner, .finish false f]
  | .subshell line body redirections =>
    enterLine line
    push [.targets redirections [], .subshell body f false, .finish true f]
  | .background line body redirections =>
    enterLine line
    push [.targets redirections [], .subshell body f true, .finish true f]
  | .both first second => push [.eval first tested, .second .both second f, .finish false f]
  | .either first second => push [.eval first tested, .second .either second f, .finish false f]
  | .sequence first second => push [.eval first inner, .second .sequence second f, .finish false f]
  | .negated body => push [.eval body tested, .negate, .finish false f]
  | .conditional test yes no => push [.eval test tested, .branch yes no f, .finish false f]
  | .loop untilTrue test body =>
    countLoops (· + 1)
    push [.loopTest untilTrue test body inner 0, .finish false f]
  | .each line name words body =>
    enterLine line
    push [.eachWord name words [] body inner, .finish false f]
  | .select line word cases =>
    enterLine line
    push [.expand word .text, .chooseFrom cases f, .finish false f]
  | .define line name body =>
    onShell fun s => { s with
      functions := (name, line, body) :: s.functions.filter fun entry => entry.1 != name }
    setStatus 0
    push [.finish false f]

/-- The arguments behind the name `command`: how many of them only say how the command is looked
for, and whether that is in the standard directories. Nothing means that another argument has to be
known first. -/
inductive CommandOperands where
  | needsMore
  /-- It is the built-in command itself that is called. -/
  | itself
  | found (skipped : Nat) (standardPath : Bool)

/-- Reads the arguments behind the name `command`. -/
def commandOperands (hasMore : Bool) : Nat → Bool → List String → CommandOperands
  | _, _, [] => if hasMore then .needsMore else .itself
  | n, standard, a :: rest =>
    match a.toList with
    | ['-', '-'] =>
      if rest = [] then (if hasMore then .needsMore else .itself) else .found (n + 1) standard
    | '-' :: c :: cs =>
      if (c :: cs).all (· == 'p') then commandOperands hasMore (n + 1) true rest else .itself
    | _ => .found n standard

/-- The built-in commands that are found before anything is looked for on the search path. -/
def isRegular (name : String) : Bool :=
  builtinNames.contains name &&
    !(["echo", "printf", "test", "[", "hash", "pwd", "type", "ulimit"].contains name)

/-- Looks at the first arguments of a command: what is known of it decides how the others are
expanded. -/
def identify : Nat → Bool → Invocation → Act Unit
  | 0, _, i => push [.complete i]
  | fuel + 1, isFirst, i => do
    match i.arguments.drop i.skipped with
    | [] => push [.gather i]
    | name :: rest =>
      let s ← shell
      let isFunction := i.functions && (s.functions.lookup name).isSome
      let builtin := !name.toList.contains '/' && !isFunction && isRegular name
      if builtin = false then
        push [.complete { i with ownScope := i.ownScope || isFirst, replaces := false }]
      else
        let special := if isFirst then specialBuiltins.contains name else i.special
        let i := { i with
          special := special, ownScope := !special
          assigns := assigningBuiltins.contains name, replaces := name == "exec" }
        if name ≠ "command" then push [.complete { i with located := .builtin }]
        else
          match commandOperands (!i.words.isEmpty) 0 i.standardPath rest with
          | .needsMore => push [.gather i]
          | .itself => push [.complete { i with located := .builtin }]
          | .found n standard =>
            identify fuel false
              { i with skipped := i.skipped + 1 + n, standardPath := standard, functions := false }

/-- Begins to work on a simple command whose words are known. -/
def prepare (i : Invocation) : Act Unit := do
  let s ← shell
  let i := { i with
    redirectionDepth := s.redirections.length
    inputDepth := s.inputs.length, scopeDepth := s.scopes.length
    traceChannel := ← channel? 2 }
  if i.ownScope then onShell fun s => { s with scopes := [] :: s.scopes }
  push [.targets i.redirections [], .redirect i]

/-- Begins to carry the redirections of a command out. -/
def beginRedirections (isNeeded : Bool) (next : Task) : Act Unit := do
  let s ← shell
  if isNeeded then
    onShell fun s => { s with redirections := [] :: s.redirections }
    push [.apply s.resolved true, .guardRedirections, next]
  else push [next]

/-- Looks whether redirections have failed. -/
def redirectionsFailed : Act Bool :=
  modifyGet fun h =>
    (h.shell.redirectionFailed, { h with shell := { h.shell with redirectionFailed := false } })

/-- Goes on with the next assignment of a command, or with its trace. -/
def assignNext (i : Invocation) : Act Unit := do
  match i.assignments with
  | word :: _ => push [.expand word .assignment, .assigned i]
  | [] =>
    let s ← shell
    if s.has "xtrace" ∧ s.tracing = false then
      onShell fun s => { s with tracing := true }
      let text := (s.value? "PS4").getD ""
      match Reading.prompt.run (Source.ofList text.toList) with
      | .ok (word, _) => push [.expand word .document, .traced i]
      | .error _ =>
        onShell fun s => { s with fields := [text] }
        push [.traced i]
    else push [.run i]

/-- Gives the variable of an assignment its value. -/
def assignOne (i : Invocation) : Doing Unit := do
  let text := (← shell).fields.headD ""
  if i.ownScope then shadow text { exported := true }
  else
    let name := String.ofList (text.toList.takeWhile (· ≠ '='))
    let value := String.ofList (text.toList.drop (name.length + 1))
    let exported := i.replaces && decide (1 < (i.arguments.drop i.skipped).length)
    assign name (some value) { exported := exported }
  push [.assign { i with assignments := i.assignments.drop 1, assigned := i.assigned ++ [text] }]

/-- Prints the trace of a command. -/
def trace (i : Invocation) : Act Unit := do
  let front := (← shell).fields.headD ""
  onShell fun s => { s with tracing := false }
  sayTo i.traceChannel (front ++ " ".intercalate (i.assigned ++ i.arguments) ++ "\n")
  push [.run i]

/-- Calls a function. -/
def callFunction (line : Nat) (body : Command) (arguments : List String) (f : Flags)
    (i : Invocation) : Act Unit := do
  let s ← shell
  push [.eval body { tested := f.tested },
    .functionEnd s.parameters s.nextOption s.functionLine s.loops, .conclude i]
  onShell fun s => { s with
    parameters := arguments, nextOption := (1, 0), functionLine := line, loops := 0 }

/-- Calls a built-in command. -/
def callBuiltin (name : String) (arguments : List String) (i : Invocation) : Act Unit := do
  let s ← shell
  push [.builtin name arguments i.flags, .builtinEnd s.commandName i.special, .conclude i]
  onShell fun s => { s with commandName := some name }

/-- Starts the program of a command, in a process of its own unless the shell ends with it. -/
def callProgram (arguments : List String) (i : Invocation) : Act Unit := do
  let s ← shell
  let task := Task.startProgram arguments i.standardPath
  if i.flags.leaves ∧ hasTraps s = false then push [task]
  else
    let (job, _) ← startJob [task] (← channels) false
    push [.waitFor job, .conclude i]

/-- Runs a command whose redirections and assignments have been carried out. -/
def run (i : Invocation) : Act Unit := do
  let s ← shell
  match i.arguments.drop i.skipped with
  | [] =>
    setStatus s.capturedStatus
    push [.conclude i]
  | name :: arguments =>
    let slash := name.toList.contains '/'
    match i.located, if i.functions && !slash then s.functions.lookup name else none with
    | .builtin, _ => callBuiltin name arguments i
    | _, some (line, body) => callFunction line body arguments i.flags i
    | _, none =>
      if slash then callProgram (name :: arguments) i
      else if builtinNames.contains name then callBuiltin name arguments i
      else
        match ← findFile name i.standardPath with
        | .ok _ => callProgram (name :: arguments) i
        | .error e =>
          complain (name ++ ": " ++ if e = .noEntry then "not found" else e.text)
          setStatus 127
          push [.conclude i]

/-- Ends a simple command. -/
def conclude (i : Invocation) : Act Unit := do
  if i.redirections.isEmpty = false then popRedirection i.replaces
  unwindRedirections i.redirectionDepth
  unwindInputs i.inputDepth
  unwindScopes i.scopeDepth

/-- Runs a command in a shell of its own. -/
def subshell (body : Command) (f : Flags) (background : Bool) : Act Unit := do
  let s ← shell
  let rs := s.resolved
  if background = false ∧ f.leaves ∧ hasTraps s = false then
    push [.apply rs false, .eval body f]
  else
    let mine ← channels
    let cs ← if background then withoutInput mine else pure mine
    let inner : Flags := { leaves := true, tested := !background && f.tested }
    if background = false then remember body
    let (job, pid) ← startJob [.apply rs false, .eval body inner] cs background
    if background then
      onShell fun s => { s with lastBackground := some pid }
      setStatus 0
    else push [.waitFor job]

/-- Starts a command whose output is captured. The command finds the shell as the expansion has
left it, while the expansion itself will start again. -/
def beginCapture (after : Shell) (body : Command) : Act Unit := do
  let before ← shell
  if body.isNothing then onShell fun s => { s with answers := s.answers ++ [[]] }
  else
    let (reader, writer) ← modifyGet fun h =>
      let (reader, writer, system) := h.system.newPipe []
      ((reader, writer), { h with system := system, shell := { after with answers := [] } })
    let (job, _) ← startJob [.eval body { leaves := true }] (update (← channels) 1 writer) false
    let jobs := (← shell).jobs
    onShell fun _ => { before with jobs := jobs }
    direct captureChannel reader
    push [.capture job []]

/-- Expands a word. -/
def expand (w : Word) (m : Mode) : Doing Unit := do
  let h ← getThe Here
  match expandWord m h.system.files h.self.cwd w h.shell with
  | (.ok fields, s) => onShell fun _ => { s with fields := fields, answers := [] }
  | (.error (.error text), s) =>
    onShell fun _ => { s with answers := [] }
    fail text
  | (.error (.needs body), s) =>
    push [.expand w m]
    (beginCapture s body : Act Unit)

/-- Takes what a captured command has printed, until all has been taken. -/
def capture (job : Nat) (taken : List (List UInt8)) : Act Unit := do
  match ← channel? captureChannel with
  | none => push [.captured job []]
  | some id =>
    let pulled ← modifyGet fun h =>
      let (pulled, system) := h.system.pull id chunkSize
      (pulled, { h with system := system })
    match pulled with
    | .bytes data => push [.capture job (data :: taken)]
    | .later =>
      push [.capture job taken]
      await (.input id)
    | _ =>
      shut captureChannel
      push [.captured job taken.reverse.flatten]

/-- What a captured command has printed, without the line ends behind it. -/
def answerOf (bytes : List UInt8) : List Char :=
  ofBytes (((bytes.filter (· != 0)).reverse.dropWhile (· == 10)).reverse)

/-- Reads the next line of commands of the text on top. -/
def readCommands : Doing (Option Command) := do
  let s ← shell
  match s.inputs with
  | [] => return none
  | input :: rest =>
    let source := { input.source with
      aliases := s.aliases, documents := s.documents, numbered := s.numbered }
    let echo := fun (remains : List Char) => do
      if input.isFile && s.has "verbose" then
        let count := input.source.rest.length - remains.length
        (say (String.ofList (input.source.rest.take count)) : Act Unit)
    match Reading.commandLine.run source with
    | .error (line, e) =>
      onShell fun s => { s with line := line }
      fail ("Syntax error: " ++ e.text)
    | .ok (command, source) =>
      echo source.rest
      onShell fun s => { s with
        inputs := { input with source := source } :: rest
        documents := source.documents, numbered := source.numbered }
      return command

/-- Gives up the text on top. -/
def popInput : Act Unit := onShell fun s => { s with inputs := s.inputs.drop 1 }

/-- Ends a text; the exit code of its last command may be asked for. -/
def endText (status : Option Nat) : Act Unit := do
  popInput
  match status with
  | some n => setStatus n
  | none => pure ()

/-- Runs the next line of the text on top. -/
def text (f : Flags) (status : Option Nat) : Doing Unit := do
  match ← readCommands with
  | none => (endText status : Act Unit)
  | some command =>
    let atEnd := match (← shell).inputs with
      | input :: _ => input.source.atEnd
      | [] => true
    push [.eval command { f with leaves := f.leaves && atEnd },
      .textStep f status command.isNothing]

/-- Runs the next line of the script on top. -/
def file (status : Nat) : Doing Unit := do
  match ← readCommands with
  | none => (endText (some status) : Act Unit)
  | some command => push [.eval command {}, .fileStep status command.isNothing]

/-- Reads the script from standard input and then runs it. -/
def readScript (taken : List (List UInt8)) : Act Unit := do
  let finish := do
    let content := ofBytes taken.reverse.flatten
    let input : Input := { source := .ofList content, isFile := true }
    onShell fun s => { s with inputs := [input] }
    push [.file 0, .leave]
  match ← channel? 0 with
  | none => finish
  | some id =>
    let pulled ← modifyGet fun h =>
      let (pulled, system) := h.system.pull id chunkSize
      (pulled, { h with system := system })
    match pulled with
    | .bytes data => push [.readScript (data :: taken)]
    | .later =>
      push [.readScript taken]
      await (.input id)
    | _ => finish

/-- Writes bytes, as many as the open file takes. -/
def write (descriptor : Nat) (bytes : List UInt8) : Act Unit := do
  let failed := onShell fun s => { s with writeFailed := true }
  if bytes ≠ [] then
    match ← channel? descriptor with
    | none => failed
    | some id =>
      let pushed ← modifyGet fun h =>
        let (pushed, system) := h.system.push id bytes h.self.fileLimit
        (pushed, { h with system := system })
      match pushed with
      | .written n => if n < bytes.length then push [.write descriptor (bytes.drop n)]
      | .later =>
        push [.write descriptor bytes]
        await (.room id)
      | .broken =>
        onSelf fun p => { p with pending := p.pending ++ [13] }
        failed
      | .failed .tooLarge =>
        onSelf fun p => { p with pending := p.pending ++ [25] }
        failed
      | .failed _ => failed

/-- Calls a built-in command; what it prints is written when it ends. -/
def builtin (name : String) (arguments : List String) (f : Flags) : Act Unit := do
  let called ← (Builtin.call name arguments f).run
  let printed ← modifyGet fun h =>
    (toBytes h.printed.reverse.flatten, { h with printed := [] })
  let output := if printed = [] then [] else [Task.write 1 printed]
  match called with
  | .error r => push (output ++ [.raised r])
  | .ok (.done status) =>
    setStatus status
    push output
  | .ok (.tasks ts) => push (output ++ ts)
  | .ok (.again w) =>
    push [.builtin name arguments f]
    await w

/-- Ends a built-in command. -/
def builtinEnd (outer : Option String) : Act Unit := do
  let s ← shell
  if s.writeFailed then
    complain (s.commandName.getD "" ++ ": I/O error")
    onShell fun s => { s with writeFailed := false, status := s.status ||| 1 }
  onShell fun s => { s with commandName := outer }

/-- Reads the next byte of a line. -/
def readLine (names : List String) (raw : Bool) (taken : List (Char × Bool)) (escaped : Bool) :
    Doing Unit := do
  let finish := fun (status : Nat) => do
    Builtin.assignFields names taken.reverse
    (setStatus status : Act Unit)
  let more := fun (taken : List (Char × Bool)) (escaped : Bool) =>
    push [.readLine names raw taken escaped]
  if (← shell).alert.isSome then finish 1
  else
    match ← (channel? 0 : Act _) with
    | none => finish 1
    | some id =>
      let pulled ← modifyGetThe Here fun h =>
        let (pulled, system) := h.system.pull id 1
        (pulled, { h with system := system })
      match pulled with
      | .bytes [b] =>
        let c := Char.ofNat b.toNat
        if b = 0 then more taken escaped
        else if escaped then more (if c = '\n' then taken else (c, true) :: taken) false
        else if raw = false ∧ c = '\\' then more taken true
        else if c = '\n' then finish 0
        else more ((c, false) :: taken) false
      | .later => do
        (more taken escaped : Act Unit)
        await (.input id)
      | _ => finish 1

/-- The shell is about to end: what it has to do then is done. -/
def leave : Act Unit := do
  let s ← shell
  onShell fun s => { s with
    savedStatus := some s.status, traps := s.traps.filter fun t => t.1 != 0, tasks := [.exitTrapEnd]
    inputs := [] }
  match s.traps.lookup 0 with
  | some action =>
    let input : Input := { source := .ofList action.toList }
    onShell fun s => { s with skip := .none, inputs := [input] }
    push [.text {} none]
  | none => pure ()

/-- Does what a task asks for. -/
def perform : Task → Doing Unit
  | .eval c f => do
    if (← shell).has "noexec" || c.isNothing then push [.finish false f]
    else push [.signals, .dispatch c f]
  | .dispatch c f => dispatch c f
  | .finish checked f => push [.signals, .settle checked f]
  | .settle checked f => do
    let s ← shell
    if f.leaves ∨ (checked ∧ f.tested = false ∧ s.status ≠ 0 ∧ s.has "errexit") then throw .exit
  | .signals => lookAtSignals
  | .handle status outer least => handleSignal status outer least
  | .handled status outer least => do
    if (← shell).skip ≠ .giveBack true then (setStatus status : Act Unit)
    push [.handle status outer least]
  | .negate => do
    let s ← shell
    if s.skip = .none then (setStatus (if s.status = 0 then 1 else 0) : Act Unit)
  | .second joint c f => do
    let s ← shell
    let stops := match joint with
      | .both => s.status != 0
      | .either => s.status == 0
      | .sequence => false
    if stops = false ∧ s.skip = .none then push [.eval c f]
  | .branch yes no f => do
    let s ← shell
    if s.skip = .none then
      if s.status = 0 then push [.eval yes f]
      else if no.isNothing then (setStatus 0 : Act Unit)
      else push [.eval no f]
  | .loopTest untilTrue test body f status =>
    push [.eval test { tested := true }, .loopJudge untilTrue test body f status]
  | .loopJudge untilTrue test body f status => do
    let found := (← shell).status
    match ← (skipLoop : Act Skip) with
    | .none =>
      if (found == 0) != untilTrue then push [.eval body f, .loopTurned untilTrue test body f]
      else (endLoop status : Act Unit)
    | .goOn _ => push [.loopTest untilTrue test body f status]
    | .breakOut _ => (endLoop status : Act Unit)
    | .giveBack given => (endLoop (if given then found else status) : Act Unit)
  | .loopTurned untilTrue test body f => do
    let status := (← shell).status
    let skip ← (skipLoop : Act Skip)
    if goesOn skip then push [.loopTest untilTrue test body f status]
    else (endLoop status : Act Unit)
  | .eachWord name words values body f => do
    match words with
    | w :: rest => push [.expand w .fields, .eachValues name rest values body f]
    | [] => do
      (countLoops (· + 1) : Act Unit)
      push [.eachTurn name values body f 0]
  | .eachValues name words values body f => do
    let values := values ++ (← shell).fields
    push [.eachWord name words values body f]
  | .eachTurn name values body f status => do
    match values with
    | [] => (endLoop status : Act Unit)
    | value :: rest => do
      assign name (some value) {}
      push [.eval body f, .eachTurned name rest body f]
  | .eachTurned name values body f => do
    let status := (← shell).status
    let skip ← (skipLoop : Act Skip)
    if goesOn skip then push [.eachTurn name values body f status]
    else (endLoop status : Act Unit)
  | .chooseFrom cases f => do
    let subject := (← shell).fields.headD ""
    push [.choose subject cases f]
  | .choose subject cases f => do
    match cases with
    | [] => (setStatus 0 : Act Unit)
    | ([], _) :: rest => push [.choose subject rest f]
    | (pattern :: _, _) :: _ => push [.expand pattern .pattern, .chooseJudge subject cases f]
  | .chooseJudge subject cases f => do
    let pattern := ((← shell).fields.headD "").toList
    match cases with
    | (_ :: patterns, body) :: rest =>
      if matchesPattern pattern subject.toList then
        if body.isNothing then (setStatus 0 : Act Unit) else push [.eval body f]
      else push [.choose subject ((patterns, body) :: rest) f]
    | _ => (setStatus 0 : Act Unit)
  | .expand w m => expand w m
  | .capture job taken => capture job taken
  | .captured job text =>
    waitForJob job (.captured job text) fun status =>
      onShell fun s => { s with
        capturedStatus := status, answers := s.answers ++ [answerOf text] }
  | .gather i => do
    match i.words with
    | [] => push [.complete i]
    | w :: rest => push [.expand w .fields, .gathered { i with words := rest }]
  | .gathered i => do
    let i := { i with arguments := i.arguments ++ (← shell).fields }
    identify (i.arguments.length + 1) true { i with
      skipped := 0, special := false, ownScope := false, assigns := false, functions := true }
  | .complete i => do
    match i.words with
    | [] => push [.prepare i]
    | w :: rest =>
      let mode := if i.assigns && w.isAssignment then Mode.assignment else .fields
      push [.expand w mode, .completed { i with words := rest }]
  | .completed i => do
    let arguments := i.arguments ++ (← shell).fields
    push [.complete { i with arguments := arguments }]
  | .prepare i => prepare i
  | .redirect i => beginRedirections (!i.redirections.isEmpty) (.redirected i)
  | .redirected i => do
    if ← (redirectionsFailed : Act Bool) then
      (setStatus 2 : Act Unit)
      if i.special then throw .error
      push [.conclude i]
    else push [.assign i]
  | .assign i => assignNext i
  | .assigned i => assignOne i
  | .traced i => trace i
  | .run i => run i
  | .conclude i => conclude i
  | .targets rs done => Redirect.expandTargets done rs
  | .target r rs done => do
    match (← shell).fields with
    | [] => fail "redir error"
    | text :: _ =>
      let resolved ← Redirect.resolve r text
      push [.targets rs (resolved :: done)]
  | .apply rs keeps => Redirect.apply keeps rs
  | .applyDocument descriptor rs keeps => Redirect.applyDocument descriptor rs keeps
  | .guardRedirections => pure ()
  | .compound body f => beginRedirections true (.compoundBody body f)
  | .compoundBody body f => do
    if ← (redirectionsFailed : Act Bool) then
      push [.compoundEnd]
      (setStatus 2 : Act Unit)
    else push [.eval body f, .compoundEnd]
  | .compoundEnd => popRedirection false
  | .subshell body f background => subshell body f background
  | .waitFor job => waitForJob job (.waitFor job) setStatus
  | .builtin name arguments f => builtin name arguments f
  | .builtinEnd outer _ => builtinEnd outer
  | .functionEnd parameters next line loops =>
    onShell fun s => { s with
      parameters := parameters, nextOption := next, functionLine := line, loops := loops
      skip := match s.skip with
        | .giveBack _ => .none
        | skip => skip }
  | .write descriptor bytes => write descriptor bytes
  | .text f status => text f status
  | .textStep f status wasNothing => do
    let s ← shell
    let status := if wasNothing then status else status.map fun _ => s.status
    if s.skip ≠ .none then (endText status : Act Unit) else push [.text f status]
  | .file status => file status
  | .fileStep status wasNothing => do
    let s ← shell
    let status := if wasNothing then status else s.status
    if s.skip ≠ .none then
      match s.skip with
      | .giveBack _ => (setSkip .none : Act Unit)
      | _ => pure ()
      (endText (some status) : Act Unit)
    else push [.file status]
  | .sourceEnd outer => onShell fun s => { s with commandName := outer }
  | .openScript path => openScript path
  | .readScript taken => readScript taken
  | .startProgram arguments standard => startProgram arguments standard
  | .refuse text => fail text
  | .giveUpControl => (giveUpControl : Act Unit)
  | .lostDirectory => do
    let _ ← (Builtin.placeText : Act String)
  | .raised r => throw r
  | .leave => leave
  | .exitTrapEnd => do
    onShell fun s => { s with tasks := [.die] }
    (reset .exit true : Act Unit)
  | .die => do
    let status := (← shell).status % 256
    modifyThe Here fun h => { h with ended := some (.code status) }
  | .readLine names raw taken escaped => readLine names raw taken escaped

end Step

/-- A step of a shell: its first task is done. -/
def Act.step : Act Unit := do
  match (← Act.shell).tasks with
  | [] => Act.push [.leave]
  | task :: rest =>
    Act.onShell fun s => { s with tasks := rest }
    match ← (Step.perform task).run with
    | .ok () => pure ()
    | .error r => Act.raise r

end NativeBuild.Machine
