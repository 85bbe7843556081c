import NativeBuild.Machine.Shell.Builtin

/-
  Starting programs: a process becomes a utility, or a shell with the variables, options and script
  that its arguments and its environment give it.
-/

namespace NativeBuild.Machine

/-- What the arguments of a shell say. -/
structure StartOptions where
  options : List String := []
  /-- The script is an argument. -/
  commands : Bool := false
  operands : List String := []

/-- Reads the letters of an argument of options; names of options stand among the next ones. -/
def readStartLetters (on : Bool) : List Char → List String → StartOptions →
    Except String (List String × StartOptions)
  | [], rest, o => .ok (rest, o)
  | c :: cs, rest, o =>
    let turned := fun (name : String) =>
      let others := o.options.filter (· != name)
      { o with options := if on then name :: others else others }
    match c with
    | 'c' => readStartLetters on cs rest { o with commands := true }
    | 'l' => readStartLetters on cs rest o
    | 'o' =>
      match rest with
      | [] => readStartLetters on cs rest o
      | name :: rest =>
        if shellOptions.any fun entry => entry.1 == name then
          readStartLetters on cs rest (turned name)
        else .error ("Illegal option -o " ++ name)
    | c =>
      match shellOptions.find? fun entry => entry.2 == some c with
      | some (name, _) => readStartLetters on cs rest (turned name)
      | none => .error ("Illegal option -" ++ String.ofList [c])

/-- Reads the arguments of a shell. -/
def readStartOptions : Nat → List String → StartOptions → Except String StartOptions
  | 0, arguments, o => .ok { o with operands := arguments }
  | fuel + 1, arguments, o =>
    match arguments with
    | [] => .ok { o with operands := [] }
    | a :: rest =>
      match a.toList with
      | ['-'] | ['-', '-'] => .ok { o with operands := rest }
      | '-' :: cs =>
        match readStartLetters true cs rest o with
        | .ok (rest, o) => readStartOptions fuel rest o
        | .error text => .error text
      | '+' :: cs =>
        match readStartLetters false cs rest o with
        | .ok (rest, o) => readStartOptions fuel rest o
        | .error text => .error text
      | _ => .ok { o with operands := arguments }

/-- A table in which a variable has a value, whatever it had before. -/
def VariableTable.put (t : VariableTable) (name value : String) (m : Marking) : VariableTable :=
  (t.assign? name (some value) m).getD t

/-- The variables that every shell knows from its start, in their order. -/
def builtinVariables : VariableTable :=
  [⟨"IFS", some " \t\n", false, false, true⟩, ⟨"MAIL", none, false, false, true⟩,
    ⟨"MAILPATH", none, false, false, true⟩,
    ⟨"PATH", some standardSearchPath, false, false, true⟩,
    ⟨"PS1", some "# ", false, false, true⟩, ⟨"PS2", some "> ", false, false, true⟩,
    ⟨"PS4", some "+ ", false, false, true⟩, ⟨"OPTIND", some "1", false, false, true⟩]

/-- The working directory that the environment names, if it is the right one. -/
def namedDirectory? (files : FileTree) (cwd : Location) (path : String) : Option String :=
  if path.toList.head? = some '/' then
    match files.reach cwd true (outward path) with
    | .ok (.found place (.directory _)) => if place = cwd then some path else none
    | _ => none
  else none

/-- The shell that a process becomes. -/
def Shell.start (p : Process) (files : FileTree) (environment : Variables) (tokens : List String) :
    Shell :=
  let imported := environment.foldl (fun (t : VariableTable) (name, value) =>
    if isName name.toList then t.put name value { exported := true } else t) builtinVariables
  let table := (imported.put "IFS" " \t\n" {}).put "OPTIND" "1" {}
  let table := table.put "PPID" (toString p.parent) {}
  let path := ((table.value? "PWD").bind (namedDirectory? files p.cwd)).getD
    (Builtin.physicalPath files p.cwd)
  let table := table.put "PWD" path { exported := true }
  let name := tokens.headD ""
  let s : Shell := { name := name, rootPid := p.pid, line := 0, table := table, path := path }
  let lost := if path = "" then [Task.lostDirectory] else []
  match readStartOptions tokens.length (tokens.drop 1) {} with
  | .error text => { s with tasks := lost ++ [.refuse text] }
  | .ok o =>
    let first := lost ++ if o.options.contains "monitor" ∨ o.options.contains "interactive" then
      [Task.giveUpControl] else []
    match o.commands, o.operands with
    | true, [] => { s with tasks := lost ++ [.refuse "-c requires an argument"] }
    | true, text :: rest =>
      { s with
        options := o.options, name := rest.headD name, parameters := rest.drop 1
        inputs := [{ source := .ofList text.toList }]
        tasks := first ++ [.text { leaves := true } none, .leave] }
    | false, file :: rest =>
      if o.options.contains "stdin" then
        { s with options := o.options, parameters := o.operands, tasks := first ++ [.readScript []] }
      else { s with
        options := o.options, parameters := rest
        tasks := lost ++ [.openScript file] ++ first.drop lost.length ++ [.file 0, .leave] }
    | false, [] => { s with
      options := "stdin" :: o.options, tasks := first ++ [.readScript []] }

/-- A program is a shell. -/
def isShell (name : String) : Bool := ["dash", "bash", "rbash"].contains name

/-- What a process becomes when it starts a program. -/
def Process.become (p : Process) (files : FileTree) (environment : Variables)
    (program : Program) : Process :=
  let image := if isShell program.name then
      Image.shell (Shell.start p files environment program.tokens)
    else .utility {
      program := program.name, title := program.tokens.headD ""
      arguments := program.tokens.drop 1, environment := environment }
  { p with
    image := image, clock := p.clock + 700, wake := .now
    channels := p.channels.filter fun channel => channel.1 < 10 }

namespace Act

/-- Opens the script of the shell. -/
def openScript (path : String) : Doing Unit := do
  match ← (openPath path .read : Act _) with
  | .error e => Doing.fail ("cannot open " ++ path ++ ": " ++ Builtin.openingFault e false)
  | .ok id =>
    let content := match (← getThe Here).system.pull id 100000000 with
      | (.bytes data, _) => data
      | _ => []
    let input : Input := { source := .ofList (ofBytes content), isFile := true }
    onShell fun s => { s with name := path, inputs := [input] }

/-- Becomes the first program among candidates that can be started; otherwise gives what is wrong.
A file that is no program is read as a script. -/
def tryStart (environment : Variables) (arguments : List String) :
    Errno → List String → Act (Option Errno)
  | e, [] => return some e
  | e, file :: rest => do
    let h ← get
    let files := h.system.files
    let start := fun (program : Program) =>
      modify fun h =>
        let p := h.self.become files environment program
        { h with self := p, replaced := some p.image }
    match startFile files h.self.cwd interpreterDepth file arguments with
    | .ok program => do
      start program
      return none
    | .error .execFormat => do
      start ⟨"dash", "/bin/sh" :: file :: arguments.drop 1⟩
      return none
    | .error e' =>
      let unusual := e' ≠ .noEntry ∧ e' ≠ .notDirectory
      tryStart environment arguments (if unusual then e' else e) rest

/-- Becomes a program, or complains and ends. -/
def startProgram (arguments : List String) (standardPath : Bool) : Doing Unit := do
  let s ← shell
  let name := arguments.headD ""
  let files := candidates (← searchPath standardPath) name
  let environment := s.table.environment
  let started := if exceedsLimits arguments environment then pure (some .argumentsTooLong)
    else tryStart environment arguments .noEntry files
  match ← (started : Act _) with
  | none => pure ()
  | some e =>
    let missing := e = .noEntry ∨ e = .notDirectory
    setStatus (if missing ∨ e = .tooManyLinks ∨ e = .nameTooLong then 127 else 126)
    complain (name ++ ": " ++ if missing then "not found" else e.text)
    onShell fun s => { s with savedStatus := none }
    throw .exit

end Act

end NativeBuild.Machine
