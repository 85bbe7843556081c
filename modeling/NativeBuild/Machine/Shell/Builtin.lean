import NativeBuild.Machine.Condition
import NativeBuild.Machine.Format
import NativeBuild.Machine.Shell.Describe

/-
  The built-in commands of the shell. Each of them ends with an exit code, waits and is called
  again, or leaves tasks to be done, the last of which settles the exit code.
-/

namespace NativeBuild.Machine

/-- How a call of a built-in command ends. -/
inductive Called where
  | done (status : Nat)
  | again (w : Wake)
  | tasks (ts : List Task)

namespace Builtin

open Act Doing

/-- Prints arguments with escapes; only `-n` in front is an option. -/
def echo (arguments : List String) : Doing Called := do
  let silent := arguments.head? = some "-n"
  let text := " ".intercalate (if silent then arguments.drop 1 else arguments)
  let (shown, stop) := unescapeAll text.toList
  print (String.ofList (if silent ∨ stop then shown else shown ++ ['\n']))
  return .done 0

/-- Prints arguments by a format. -/
def printf (arguments : List String) : Doing Called := do
  let (_, arguments) ← optionsOf "" arguments
  match arguments with
  | [] => fail "usage: printf format [arg ...]"
  | f :: arguments =>
    let formatted := format f.toList arguments
    for (argument, fault) in formatted.problems.reverse do
      complain (argument ++ ": " ++ fault.text)
    print (String.ofList formatted.printed.reverse.flatten)
    match formatted.stopped with
    | some (some text) => fail text
    | _ => return .done (if formatted.problems = [] then 0 else 1)

/-- Decides a condition. -/
def condition (name : String) (arguments : List String) : Doing Called := do
  let h ← getThe Here
  if name = "[" ∧ arguments.getLast? ≠ some "]" then fail "missing ]"
  let words := if name = "[" then arguments.dropLast else arguments
  match decideCondition ⟨h.system.files, h.self.cwd⟩ words with
  | .ok b => return .done (if b then 0 else 1)
  | .error text => fail text

/-- The directory that a path leads to in the text of another one. -/
def reachedPath (here path : String) : String :=
  let double := path.toList.take 2 = ['/', '/'] ∧ (path.toList.drop 2).head? ≠ some '/'
  let start := if path.toList.head? = some '/' then [] else
    (piecesAt (· == '/') here.toList).filter (· ≠ [])
  let doubled := double ∨ (path.toList.head? ≠ some '/' ∧ here.toList.take 2 = ['/', '/'])
  let names := ((piecesAt (· == '/') path.toList).filter (· ≠ [])).foldl
    (fun names name =>
      if name = ['.'] then names else if name = ['.', '.'] then names.dropLast
      else names ++ [name]) start
  String.ofList ((if doubled then ['/', '/'] else ['/']) ++ List.intercalate ['/'] names)

/-- The text of the place where a process is; there is none when the directory has been removed. -/
def physicalPath (files : FileTree) (cwd : Location) : String :=
  if (files.find? cwd).isSome then inward (Path.ofLocation cwd).toString else ""

/-- The text of the place where the process is; a shell complains when there is none. -/
def placeText : Act String := do
  let h ← get
  if (h.system.files.find? h.self.cwd).isNone then
    complain ("getcwd() failed: " ++ Errno.noEntry.text)
  return physicalPath h.system.files h.self.cwd

/-- Goes to a directory; tells whether that was possible. -/
def enter (path : String) (physical : Bool) : Doing Bool := do
  let h ← getThe Here
  let physical := physical || (h.shell.path = "" && path.toList.head? != some '/')
  let goal := if physical then path else reachedPath h.shell.path path
  match h.system.files.reach h.self.cwd true (outward goal) with
  | .ok (.found place node) =>
    if node.isDirectory ∧ node.allows .execute then
      onSelf fun p => { p with cwd := place }
      let shown ← if physical then (placeText : Act String) else pure goal
      assign "OLDPWD" (some h.shell.path) { exported := true }
      onShell fun s => { s with path := shown }
      assign "PWD" (some shown) { exported := true }
      return true
    else return false
  | _ => return false

/-- Tries directories for a path that names none itself. -/
def enterFirst (physical : Bool) : List (String × String) → Doing (Option Bool)
  | [] => return none
  | (front, path) :: rest => do
    let h ← getThe Here
    if h.system.files.leadsToDirectory h.self.cwd (outward path) then
      if ← enter path physical then return some (front != "")
      else return none
    else enterFirst physical rest

/-- Changes the working directory. -/
def cd (arguments : List String) : Doing Called := do
  let (chosen, operands) ← optionsOf "LP" arguments
  let physical := (chosen.getLast?.map (·.1)) = some 'P'
  let s ← shell
  let (goal, prints) := match operands with
    | [] => ((s.value? "HOME").getD "", false)
    | "-" :: _ => ((s.value? "OLDPWD").getD "", true)
    | goal :: _ => (goal, false)
  let direct := goal.toList.head? = some '/' ∨ goal = "." ∨ goal = ".." ∨
    goal.toList.take 2 = ['.', '/'] ∨ goal.toList.take 3 = ['.', '.', '/']
  let name := if goal = "" then "." else goal
  let attempts := if direct then []
    else (searchDirectories ((s.value? "CDPATH").getD "")).map fun d => (d, inDirectory d name)
  match ← enterFirst physical attempts with
  | some announced =>
    if prints ∨ announced then print ((← shell).path ++ "\n")
    return .done 0
  | none =>
    if ← enter (if direct then goal else name) physical then
      if prints then print ((← shell).path ++ "\n")
      return .done 0
    else fail ("can't cd to " ++ goal)

/-- Prints the working directory. -/
def pwd (arguments : List String) : Doing Called := do
  let (chosen, _) ← optionsOf "LP" arguments
  let h ← getThe Here
  let physical := (chosen.getLast?.map (·.1)) = some 'P'
  print ((← if physical then (placeText : Act String) else pure h.shell.path) ++ "\n")
  return .done 0

/-- Marks variables and gives them values, or lists those that are marked. -/
def mark (name : String) (arguments : List String) : Doing Called := do
  let (chosen, operands) ← optionsOf "p" arguments
  let m : Marking := { exported := name = "export", readOnly := name = "readonly" }
  if chosen ≠ [] ∨ operands = [] then
    for v in (← shell).table.sorted do
      if (m.exported ∧ v.exported) ∨ (m.readOnly ∧ v.readOnly) then
        print (shownVariable (name ++ " ") v)
  else
    for text in operands do
      let key := String.ofList (text.toList.takeWhile (· ≠ '='))
      if text.toList.contains '=' then
        assign key (some (String.ofList (text.toList.drop (key.length + 1)))) m
      else if ((← shell).table.find? key).isSome then
        onShell fun s =>
          let table := s.table.modify key fun v =>
            { v with exported := v.exported || m.exported, readOnly := v.readOnly || m.readOnly }
          { s with table := table }
      else assign key none m
  return .done 0

/-- Gives variables of a function a scope. -/
def makeLocal (arguments : List String) : Doing Called := do
  if (← shell).scopes = [] then fail "not in a function"
  for text in arguments do
    shadow text {}
  return .done 0

/-- Forgets variables or functions. -/
def unset (arguments : List String) : Doing Called := do
  let (chosen, operands) ← optionsOf "vf" arguments
  for name in operands do
    if (chosen.getLast?.map (·.1)) = some 'f' then
      onShell fun s => { s with functions := s.functions.filter fun f => f.1 != name }
    else assign name none {}
  return .done 0

/-- Turns an option on or off by its letter. -/
def setLetter (c : Char) (on : Bool) : Doing Unit := do
  match shellOptions.find? fun o => o.2 == some c with
  | some (name, _) => onShell fun s =>
    let others := s.options.filter (· != name)
    { s with options := if on then name :: others else others }
  | none => fail ("Illegal option -" ++ String.ofList [c])

/-- Turns an option on or off by its name, or lists the options. -/
def setName (name : Option String) (on : Bool) : Doing Unit := do
  match name with
  | none =>
    let s ← shell
    print (if on then shownOptions s else optionCommands s)
  | some name =>
    if shellOptions.any fun o => o.1 == name then
      onShell fun s =>
        let others := s.options.filter (· != name)
        { s with options := if on then name :: others else others }
    else fail ("Illegal option -o " ++ name)

/-- Turns options on and off; the letters of one argument may ask for names among the next. -/
def setLetters (on : Bool) : List Char → List String → Doing (List String)
  | [], rest => return rest
  | 'o' :: cs, rest => do
    setName rest.head? on
    setLetters on cs (rest.drop 1)
  | c :: cs, rest => do
    setLetter c on
    setLetters on cs rest

/-- Reads options as `set` takes them; gives the new parameters if there are any. -/
def setOptions : Nat → List String → Doing (Option (List String))
  | 0, _ => return none
  | fuel + 1, arguments => do
    match arguments with
    | [] => return none
    | a :: rest =>
      match a.toList with
      | ['-'] =>
        onShell fun s => { s with options := s.options.filter fun o => o ∉ ["xtrace", "verbose"] }
        return if rest = [] then none else some rest
      | ['-', '-'] => return some rest
      | '-' :: cs => setOptions fuel (← setLetters true cs rest)
      | '+' :: cs => setOptions fuel (← setLetters false cs rest)
      | _ => return some arguments

/-- Changes options and parameters, or lists the variables. -/
def set (arguments : List String) : Doing Called := do
  if arguments = [] then
    for v in (← shell).table.sorted do
      if v.value.isSome then print (shownVariable "" v)
  else
    let parameters? ← setOptions (arguments.length + 1) arguments
    if (← shell).has "monitor" then (giveUpControl : Act Unit)
    match parameters? with
    | none => pure ()
    | some parameters =>
      onShell fun s => { s with parameters := parameters, nextOption := (1, 0) }
  return .done 0

/-- Drops parameters in front. -/
def shift (arguments : List String) : Doing Called := do
  let n ← match arguments with
    | [] => pure 1
    | a :: _ => number a
  if (← shell).parameters.length < n then fail "can't shift that many"
  onShell fun s => { s with parameters := s.parameters.drop n, nextOption := (1, 0) }
  return .done 0

/-- Leaves loops, or goes on with their next turn. -/
def leaveLoops (name : String) (arguments : List String) : Doing Called := do
  let n ← match arguments with
    | [] => pure 1
    | a :: _ => number a
  if n = 0 then fail ("Illegal number: " ++ arguments.headD "")
  let n := min n (← shell).loops
  if 0 < n then
    onShell fun s => { s with skip := if name = "break" then .breakOut n else .goOn n }
  return .done 0

/-- Ends a function or a script. -/
def giveBack (arguments : List String) : Doing Called := do
  let status ← match arguments with
    | [] => pure (← shell).status
    | a :: _ => number a
  let given := arguments ≠ []
  onShell fun s => { s with skip := .giveBack given }
  return .done status

/-- Ends the shell. -/
def exit (arguments : List String) : Doing Called := do
  match arguments with
  | [] => pure ()
  | a :: _ =>
    let n ← number a
    onShell fun s => if s.savedStatus.isSome then { s with savedStatus := some n }
      else { s with status := n }
  throw .exit

/-- Runs its arguments as a text of the script. -/
def eval (arguments : List String) (f : Flags) : Doing Called := do
  match arguments with
  | [] => return .done 0
  | _ =>
    let text := " ".intercalate arguments
    let input : Input := { source := .ofList text.toList }
    onShell fun s => { s with inputs := input :: s.inputs }
    return .tasks [.text { tested := f.tested } (some 0)]

/-- The file of a script to be run by the shell itself. -/
def findScript (name : String) : Doing String := do
  if name.toList.contains '/' then return name
  let h ← getThe Here
  let path ← searchPath false
  let found := (candidates path name).find? fun file =>
    match h.system.files.reach h.self.cwd true (outward file) with
    | .ok (.found _ (.file _ _)) => true
    | _ => false
  match found with
  | some file => return file
  | none => fail (name ++ ": not found")

/-- The text of an error when a file cannot be opened, or cannot be made. -/
def openingFault (e : Errno) (making : Bool) : String :=
  if e = .noEntry ∨ e = .notDirectory then
    if making then "Directory nonexistent" else "No such file"
  else e.text

/-- Runs a script in the shell itself. -/
def source (arguments : List String) : Doing Called := do
  let (_, operands) ← optionsOf "" arguments
  match operands with
  | [] => return .done 0
  | name :: _ =>
    let file ← findScript name
    match ← (openPath file .read : Act _) with
    | .error e => fail ("cannot open " ++ file ++ ": " ++ openingFault e false)
    | .ok id =>
      let h ← getThe Here
      let content := match h.system.pull id 100000000 with
        | (.bytes data, _) => data
        | _ => []
      let outer := h.shell.commandName
      let input : Input := { source := .ofList (ofBytes content), isFile := true }
      onShell fun s => { s with inputs := input :: s.inputs, commandName := some file }
      return .tasks [.file 0, .sourceEnd outer]

/-- Replaces the shell by a program, or keeps the redirections of the command. -/
def exec (arguments : List String) : Doing Called := do
  let (_, operands) ← optionsOf "" arguments
  if operands = [] then return .done 0 else return .tasks [.startProgram operands false]

/-- Sets what is done at signals, or lists it. -/
def trap (arguments : List String) : Doing Called := do
  let (_, operands) ← optionsOf "" arguments
  match operands with
  | [] =>
    let s ← shell
    for (name, k) in signalNames.zipIdx do
      match s.traps.lookup k with
      | some action => print ("trap -- " ++ singleQuoted action ++ " " ++ name ++ "\n")
      | none => pure ()
    return .done 0
  | first :: rest =>
    let listed := rest = [] ∨ (natural? first.toList).any (· < signalNames.length)
    let action := if listed ∨ first = "-" then none else some first
    let names := if listed then operands else rest
    for name in names do
      match signalNumber? 0 name with
      | none => do
        say ("trap: " ++ name ++ ": bad trap\n")
        return .done 1
      | some k =>
        onShell fun s =>
          let others := s.traps.filter fun t => t.1 != k
          { s with traps := match action with
                  | some action => (k, action) :: others
                  | none => others }
        if k ≠ 0 then
          onSelf fun p =>
            let others := p.ignored.filter (· != k)
            { p with ignored := if action = some "" then k :: others else others }
    return .done 0

/-- The job that an argument names. -/
def jobOf (name : String) (controlled : Bool) : Doing Job := do
  let jobs := (← shell).jobs
  let settled := fun (j : Job) => do
    if controlled then fail ("job " ++ name ++ " not created under job control") else pure j
  let chosen := fun (j : Option Job) (text : String) => do
    match j with
    | some j => settled j
    | none => fail text
  match name.toList with
  | ['%'] | ['%', '+'] | ['%', '%'] | [] => chosen jobs.head? "No current job"
  | ['%', '-'] => chosen jobs[1]? "No previous job"
  | '%' :: digits =>
    chosen ((natural? digits).bind fun n => jobs.find? (·.number == n)) ("No such job: " ++ name)
  | _ => fail ("No such job: " ++ name)

/-- Sends signals to processes, or lists the names of signals. -/
def kill (arguments : List String) : Doing Called := do
  let usage := fun () => (fail (
    "Usage: kill [-s sigspec | -signum | -sigspec] [pid | job]... or\n" ++
    "kill -l [exitstatus]") : Doing Called)
  let first := (arguments.headD "").toList
  if arguments = [] then usage ()
  else
    let direct := if first.head? = some '-' then
        signalNumber? 1 (String.ofList (first.drop 1)) else none
    let (given, listing, operands) ← match direct with
      | some n => pure (some n, false, arguments.drop 1)
      | none =>
        let (chosen, operands) ← optionsOf "ls:" arguments
        let mut given : Option Nat := none
        for (c, value) in chosen do
          if c = 's' then
            match signalNumber? 1 value with
            | some n => given := some n
            | none => fail ("invalid signal number or name: " ++ value)
        pure (given, chosen.any (·.1 == 'l'), operands)
    if listing then
      if given.isSome then usage ()
      else
        match operands with
        | [] =>
          print (String.join ("0\n" :: (signalNames.drop 1).map (· ++ "\n")))
          return .done 0
        | a :: _ =>
          let n ← number a
          let k := if 128 < n then n - 128 else n
          if 0 < k ∧ k < signalNames.length then
            print (signalNames.getD k "" ++ "\n")
            return .done 0
          else fail ("invalid signal number or exit status: " ++ a)
    else if operands = [] then usage ()
    else
      let mut status := 0
      for a in operands do
        let found ← if a.toList.head? = some '%' then do
            let _ ← jobOf a false
            pure false
          else if a.toList.head? = some '-' then do
            let _ ← number (String.ofList (a.toList.drop 1))
            pure false
          else do
            let pid ← number a
            (signal pid (given.getD 15) : Act Bool)
        if found = false then
          complain "No such process\n"
          status := 1
      return .done status

/-- Waits for jobs. -/
def wait (arguments : List String) : Doing Called := do
  let (_, operands) ← optionsOf "" arguments
  let interrupted : Doing (Option Called) := do
    return (← shell).alert.map fun n => Called.done (128 + n)
  if operands = [] then
    (reap none : Act Unit)
    if let some c ← interrupted then return c
    if (← shell).jobs.any fun j => !j.isDone then return .again .child
    onShell fun s => { s with jobs := s.jobs.map fun j => { j with waited := true } }
    return .done 0
  else
    let mut status := 127
    for a in operands do
      let job ← if a.toList.head? = some '%' then do pure (some (← jobOf a false))
        else do
          let pid ← number a
          pure ((← shell).jobs.find? fun j => (j.processes.getLast?.map (·.1)) == some pid)
      match job with
      | none => status := 127
      | some j =>
        if j.isDone = false then (reap (some j.number) : Act Unit)
        match (← shell).jobs.find? (·.number == j.number) with
        | none => status := 127
        | some j =>
          if j.isDone = false then
            if let some c ← interrupted then return c
            return .again .child
          onShell fun s => s.modifyJob j.number fun j => { j with waited := true }
          status := j.status
    return .done status

/-- Lists jobs; those that are done are then forgotten. -/
def jobs (arguments : List String) : Doing Called := do
  let (chosen, operands) ← optionsOf "lp" arguments
  (reap none : Act Unit)
  let asked ← if operands = [] then pure (← shell).jobs
    else operands.mapM fun a => jobOf a false
  for j in asked do
    let rest := (← shell).jobs
    let mark := if (rest.head?.map (·.number)) = some j.number then '+'
      else if (rest[1]?.map (·.number)) = some j.number then '-' else ' '
    if chosen.any (·.1 == 'p') then
      print (toString ((j.processes.head?.map (·.1)).getD 0) ++ "\n")
    else
      print (shownJob mark (chosen.any (·.1 == 'l')) j)
      if j.isDone then (dropJob j.number : Act Unit)
  return .done 0

/-- Takes an option from the parameters or from further arguments. -/
def getopts (arguments : List String) : Doing Called := do
  let (_, operands) ← optionsOf "" arguments
  match operands with
  | letters :: name :: given =>
    let s ← shell
    let words := if given = [] then s.parameters else given
    let (next, letter) := if words.length + 1 < s.nextOption.1 then (1, 0) else s.nextOption
    let current := (words[next - 2]?.getD "").toList.drop letter
    let inWord := 1 < next ∧ letter ≠ 0 ∧ current ≠ []
    let silent := letters.toList.head? = some ':'
    let finish := fun (c : Char) (next letter : Nat) (status : Nat) => do
      onShell fun s =>
        match s.table.assign? "OPTIND" (some (toString next)) {} with
        | some table => { s with table := table, nextOption := (next, letter) }
        | none => s
      assign name (some (String.ofList [c])) {}
      return Called.done status
    let word := (words[next - 1]?.getD "").toList
    if inWord = false ∧ (word.head? ≠ some '-' ∨ word.length < 2) then
      finish '?' next 0 1
    else if inWord = false ∧ word = ['-', '-'] then finish '?' (next + 1) 0 1
    else
      let (next, cs, at') := if inWord then (next, current, letter) else (next + 1, word.drop 1, 1)
      match cs with
      | [] => finish '?' next 0 1
      | c :: more =>
        let after := if more = [] then 0 else at' + 1
        let spec := (if silent then letters.toList.drop 1 else letters.toList).dropWhile (· ≠ c)
        if spec = [] ∨ c = ':' then
          if silent then assign "OPTARG" (some (String.ofList [c])) {}
          else
            say ("Illegal option -" ++ String.ofList [c] ++ "\n")
            assign "OPTARG" none {}
          finish '?' next after 0
        else if (spec.drop 1).head? = some ':' then
          if more ≠ [] then
            assign "OPTARG" (some (String.ofList more)) {}
            finish c next 0 0
          else
            match words[next - 1]? with
            | some value =>
              assign "OPTARG" (some value) {}
              finish c (next + 1) 0 0
            | none =>
              if silent then
                assign "OPTARG" (some (String.ofList [c])) {}
                finish ':' next 0 0
              else
                say ("No arg for -" ++ String.ofList [c] ++ " option\n")
                assign "OPTARG" none {}
                finish '?' next 0 0
        else
          assign "OPTARG" (some "") {}
          finish c next after 0
  | _ => fail "Usage: getopts optstring var [arg...]"

/-- Reads a line into variables. -/
def read (arguments : List String) : Doing Called := do
  let (chosen, operands) ← optionsOf "p:r" arguments
  if operands = [] then fail "arg count"
  return .tasks [.readLine operands (chosen.any (·.1 == 'r')) [] false]

/-- Gives the fields of a line to variables. -/
def assignFields (names : List String) (line : List (Char × Bool)) : Doing Unit := do
  let s ← shell
  let segments := line.map fun (c, escaped) =>
    (⟨[.char c escaped], if escaped then .whole else .separated⟩ : Segment)
  let merged := segments.foldr (fun g rest => match rest with
    | h :: more => if g.region = h.region then ⟨g.marks ++ h.marks, g.region⟩ :: more else g :: rest
    | [] => [g]) []
  let fields := (splitSegments s.separators (some names.length) merged).map Mark.text
  for (name, k) in names.zipIdx do
    assign name (some (String.ofList (fields[k]?.getD []))) {}

/-- Shows or changes the mask of permissions. -/
def umask (arguments : List String) : Doing Called := do
  let (chosen, operands) ← optionsOf "S" arguments
  let mask := (← getThe Here).self.umask
  match operands with
  | [] =>
    print ((if chosen = [] then octalText 4 mask else maskLetters mask) ++ "\n")
    return .done 0
  | a :: _ =>
    if (a.toList.head?.map Char.isDigit) = some true then
      if a.toList.all isOctal then
        onSelf fun p => { p with umask := ofDigits 8 a.toList &&& 0o777 }
        return .done 0
      else fail ("Illegal number: " ++ a)
    else
      match changedPermissions (0o777 - mask) a.toList with
      | some allowed =>
        onSelf fun p => { p with umask := 0o777 - allowed }
        return .done 0
      | none => fail ("Illegal mode: " ++ a)

/-- Lists aliases or makes them. -/
def aliasing (arguments : List String) : Doing Called := do
  let s ← shell
  if arguments = [] then
    for (name, value) in orderedAliases s do
      print (shownAlias name value)
    return .done 0
  let mut status := 0
  for a in arguments do
    let rest := (a.toList.drop 1).takeWhile (· ≠ '=')
    let name := String.ofList (a.toList.take 1 ++ rest)
    if name.length < a.length then
      let value := String.ofList (a.toList.drop (name.length + 1))
      onShell fun s => { s with
        aliases := if s.aliases.any fun e => e.1 == name then
            s.aliases.map fun e => if e.1 == name then (name, value) else e
          else s.aliases ++ [(name, value)] }
    else
      match (← shell).aliases.lookup name with
      | some value => print (shownAlias name value)
      | none =>
        say ("alias: " ++ name ++ " not found\n")
        status := 1
  return .done status

/-- Forgets aliases. -/
def unalias (arguments : List String) : Doing Called := do
  let (chosen, operands) ← optionsOf "a" arguments
  if chosen ≠ [] then
    onShell fun s => { s with aliases := [] }
    return .done 0
  let mut status := 0
  for name in operands do
    if ((← shell).aliases.lookup name).isSome then
      onShell fun s => { s with aliases := s.aliases.filter fun e => e.1 != name }
    else
      say ("unalias: " ++ name ++ " not found\n")
      status := 1
  return .done status

/-- Says what names mean as commands. -/
def type (arguments : List String) : Doing Called := do
  let mut status := 0
  for name in arguments do
    let n ← (describe name true false : Act Nat)
    status := status ||| n
  return .done status

/-- Says what a name means as a command; without a name nothing is done. -/
def command (arguments : List String) : Doing Called := do
  let (chosen, operands) ← optionsOf "pvV" arguments
  let kind := (chosen.filter fun o => o.1 != 'p').getLast?.map (·.1)
  match operands, kind with
  | name :: _, some c =>
    return .done (← (describe name (c = 'V') (chosen.any (·.1 == 'p')) : Act Nat))
  | _, _ => return .done 0

/-- Lists the programs that were found, or looks for more. -/
def hash (arguments : List String) : Doing Called := do
  let (chosen, operands) ← optionsOf "r" arguments
  if chosen ≠ [] then
    onShell fun s => { s with hashed := [] }
    return .done 0
  if operands = [] then
    let s ← shell
    let h ← getThe Here
    let path ← (searchPath false : Act String)
    for name in s.hashed.mergeSort fun a b => commandRow a ≤ commandRow b do
      match findOnPath h.system.files h.self.cwd path name with
      | .ok file => print (file ++ "\n")
      | .error _ => pure ()
    return .done 0
  let mut status := 0
  for name in operands do
    if builtinNames.contains name ∨ ((← shell).functions.lookup name).isSome then pure ()
    else
      match ← (findFile name false : Act _) with
      | .ok _ => pure ()
      | .error e =>
        complain (name ++ ": " ++ if e = .noEntry then "not found" else e.text)
        status := 1
  return .done status

/-- The limits that hold for a process from its start, the one that holds and the one that it can
be raised to; others are not set. -/
def firstLimits : List (Char × Option Nat × Option Nat) :=
  [('n', some 1048576, some 1048576), ('s', some 8192, none)]

/-- The limits of a process of a kind. -/
def limitsOf (p : Process) (kind : Char) : Option Nat × Option Nat :=
  ((p.limits.lookup kind).or (firstLimits.lookup kind)).getD (none, none)

/-- A limit lets at least as much as another one. -/
def allows (wide narrow : Option Nat) : Bool :=
  match wide, narrow with
  | none, _ => true
  | some _, none => false
  | some a, some b => b ≤ a

/-- Shows a limit or sets it. One that may be raised no more may be lowered only. -/
def ulimit (arguments : List String) : Doing Called := do
  let (chosen, operands) ← optionsOf "HSatfdscmlpnvwr" arguments
  let kind := ((chosen.filter fun o => !(['H', 'S', 'a'].contains o.1)).getLast?.map (·.1)).getD 'f'
  let how := (chosen.filter fun o => ['H', 'S'].contains o.1).getLast?.map (·.1)
  let (soft, hard) := limitsOf (← getThe Here).self kind
  match operands with
  | [] =>
    let shown := if how = some 'H' then hard else soft
    print (((shown.map toString).getD "unlimited") ++ "\n")
  | [value] =>
    if value ≠ "unlimited" ∧ !value.all Char.isDigit then fail "bad number"
    let new := if value = "unlimited" then none else some (ofDigits 10 value.toList)
    let soft := if how = some 'H' then soft else new
    let raised := if how = some 'S' then hard else new
    if allows hard raised = false then
      fail ("error setting limit: " ++ Errno.notPermitted.text)
    if allows raised soft = false then
      fail ("error setting limit: " ++ Errno.invalidArgument.text)
    onSelf fun p =>
      { p with limits := (kind, soft, raised) :: p.limits.filter fun entry => entry.1 != kind }
  | _ => fail "too many arguments"
  return .done 0

/-- Calls a built-in command. -/
def call (name : String) (arguments : List String) (f : Flags) : Doing Called := do
  match name with
  | ":" | "true" => return .done 0
  | "false" => return .done 1
  | "echo" => echo arguments
  | "printf" => printf arguments
  | "test" | "[" => condition name arguments
  | "cd" | "chdir" => cd arguments
  | "pwd" => pwd arguments
  | "export" | "readonly" => mark name arguments
  | "local" => makeLocal arguments
  | "unset" => unset arguments
  | "set" => set arguments
  | "shift" => shift arguments
  | "break" | "continue" => leaveLoops name arguments
  | "return" => giveBack arguments
  | "exit" => exit arguments
  | "eval" => eval arguments f
  | "." => source arguments
  | "exec" => exec arguments
  | "trap" => trap arguments
  | "kill" => kill arguments
  | "wait" => wait arguments
  | "jobs" => jobs arguments
  | "getopts" => getopts arguments
  | "read" => read arguments
  | "umask" => umask arguments
  | "alias" => aliasing arguments
  | "unalias" => unalias arguments
  | "type" => type arguments
  | "command" => command arguments
  | "hash" => hash arguments
  | "ulimit" => ulimit arguments
  | "times" =>
    print "0m0.000000s 0m0.000000s\n0m0.000000s 0m0.000000s\n"
    return .done 0
  | "fg" | "bg" =>
    let _ ← jobOf (arguments.headD "") true
    return .done 0
  | _ => return .done 127

end Builtin

end NativeBuild.Machine
