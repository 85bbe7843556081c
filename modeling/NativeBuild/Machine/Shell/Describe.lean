import NativeBuild.Machine.Shell.Act

/-
  What a shell says about itself: its variables, options, aliases, signals and jobs, and what a
  name means as a command.
-/

namespace NativeBuild.Machine

/-- A text in single quotes; those inside it stand in double quotes. -/
def singleQuotedWithin : Nat → List Char → List Char
  | 0, cs => cs
  | fuel + 1, cs =>
    let plain := cs.takeWhile (· ≠ '\'')
    let rest := cs.drop plain.length
    let quotes := rest.takeWhile (· == '\'')
    let after := rest.drop quotes.length
    ['\''] ++ plain ++ ['\''] ++
      (if quotes = [] then [] else ['"'] ++ quotes ++ ['"']) ++
      if after = [] then [] else singleQuotedWithin fuel after

/-- A text in single quotes. -/
def singleQuoted (text : String) : String :=
  String.ofList (singleQuotedWithin (text.length + 1) text.toList)

/-- The built-in commands of the shell. -/
def builtinNames : List String :=
  [".", ":", "[", "alias", "bg", "break", "cd", "chdir", "command", "continue", "echo", "eval",
    "exec", "exit", "export", "false", "fg", "getopts", "hash", "jobs", "kill", "local", "printf",
    "pwd", "read", "readonly", "return", "set", "shift", "test", "times", "trap", "true", "type",
    "ulimit", "umask", "unalias", "unset", "wait"]

/-- The built-in commands whose arguments may be assignments. -/
def assigningBuiltins : List String := ["alias", "export", "local", "readonly"]

/-- The path on which the programs of the system are looked for. -/
def standardSearchPath : String :=
  "/usr/local/sbin:/usr/local/bin:/usr/sbin:/usr/bin:/sbin:/bin"

/-- A variable as an assignment that can be read back. -/
def shownVariable (front : String) (v : Variable) : String :=
  front ++ v.name ++ (match v.value with
    | some value => "=" ++ singleQuoted value
    | none => "") ++ "\n"

/-- An alias as it is listed. -/
def shownAlias (name value : String) : String := name ++ "=" ++ singleQuoted value ++ "\n"

/-- The aliases of a shell in the order of their rows. -/
def orderedAliases (s : Shell) : List (String × String) :=
  s.aliases.mergeSort fun a b => VariableTable.row a.1 ≤ VariableTable.row b.1

/-- The row of a command in the order of those that were found. -/
def commandRow (name : String) : Nat :=
  let codes := name.toList.map Char.toNat
  (codes.headD 0 * 16 + total codes) % 32768 % 31

/-- The options of a shell as they are listed. -/
def shownOptions (s : Shell) : String :=
  "Current option settings\n" ++ String.join (shellOptions.map fun (name, _) =>
    String.ofList (padRight 16 name.toList) ++ (if s.has name then "on" else "off") ++ "\n")

/-- The options of a shell as commands that set them. -/
def optionCommands (s : Shell) : String :=
  String.join (shellOptions.map fun (name, _) =>
    "set " ++ (if s.has name then "-o " else "+o ") ++ name ++ "\n")

/-- How a job is doing. -/
def Job.shown (j : Job) : String :=
  match j.processes.getLast?.bind (·.2) with
  | some (.code 0) => "Done"
  | some (.code n) => "Done(" ++ toString n ++ ")"
  | some (.signal n) => signalText n
  | none => "Running"

/-- A job as it is listed; the current job and the one before it are marked. -/
def shownJob (mark : Char) (withPids : Bool) (j : Job) : String :=
  let number := "[" ++ toString j.number ++ "] " ++ String.ofList [mark] ++ " "
  let state := if j.isDone then j.shown else "Running"
  let line := fun (front : String) =>
    front ++ String.ofList (List.replicate (33 - front.length) ' ') ++
      (if front.length < 33 then "" else " ")
  match j.processes with
  | [] => ""
  | (pid, _) :: more =>
    if withPids then
      line (number ++ toString pid ++ " " ++ state) ++ String.join (more.map fun (p, _) =>
        let front := " |\n" ++ String.ofList (List.replicate number.length ' ') ++ toString p ++ " "
        front ++ String.ofList (List.replicate (36 - front.length) ' ')) ++ "\n"
    else
      line (number ++ state) ++ String.join (more.map fun _ => " | ") ++ "\n"

/-- A mask of permissions in letters. -/
def maskLetters (mask : Nat) : String :=
  ",".intercalate ([("u", 6), ("g", 3), ("o", 0)].map fun (who, k) =>
    who ++ "=" ++ String.ofList ([('r', 2), ('w', 1), ('x', 0)].filterMap fun (c, bit) =>
      if mask.testBit (k + bit) then none else some c))

/-- One change of permissions: whose, how, and which. -/
def changePermissions (allowed : Nat) (clause : List Char) : Option Nat :=
  let who := clause.takeWhile fun c => c ∈ ['u', 'g', 'o', 'a']
  let rest := clause.drop who.length
  let places := if who = [] ∨ who.contains 'a' then [6, 3, 0]
    else (if who.contains 'u' then [6] else []) ++ (if who.contains 'g' then [3] else []) ++
      if who.contains 'o' then [0] else []
  match rest with
  | how :: letters =>
    if how ∉ ['+', '-', '='] then none
    else
      let value := fun (c : Char) => match c with
        | 'r' => some 4
        | 'w' => some 2
        | 'x' => some 1
        | 'X' => some (if allowed &&& 0o111 = 0 then 0 else 1)
        | 'u' => some (allowed >>> 6 &&& 7)
        | 'g' => some (allowed >>> 3 &&& 7)
        | 'o' => some (allowed &&& 7)
        | 's' | 't' => some 0
        | _ => none
      let values := letters.map value
      if values.any Option.isNone then none
      else
        let bits := values.foldl (fun (n : Nat) v => n ||| v.getD 0) 0
        let chosen := places.foldl (fun (n : Nat) k => n ||| bits <<< k) 0
        let whole := places.foldl (fun (n : Nat) k => n ||| 7 <<< k) 0
        some (match how with
          | '+' => allowed ||| chosen
          | '-' => allowed &&& (0o777 ^^^ chosen)
          | _ => (allowed &&& (0o777 ^^^ whole)) ||| chosen)
  | [] => none

/-- Permissions changed as a text says, clause by clause. -/
def changedPermissions (allowed : Nat) (text : List Char) : Option Nat :=
  (piecesAt (· == ',') text).foldl (fun n clause => n.bind fun n => changePermissions n clause)
    (some allowed)

namespace Act

/-- The search path of the shell. -/
def searchPath (standard : Bool) : Act String := do
  if standard then return standardSearchPath
  return ((← shell).value? "PATH").getD ""

/-- The file of a program, remembered if it was found on the shell's own path. -/
def findFile (name : String) (standard : Bool) : Act (Except Errno String) := do
  let h ← get
  match findOnPath h.system.files h.self.cwd (← searchPath standard) name with
  | .ok file =>
    onShell fun s => if s.hashed.contains name then s else { s with hashed := s.hashed ++ [name] }
    return .ok file
  | .error e => return .error e

/-- Says what a name means as a command, in full or in short. -/
def describe (name : String) (full standard : Bool) : Act Nat := do
  let h ← get
  let s := h.shell
  if full then print name
  let short := fun (text : String) => print ((if full then text else name) ++ "\n")
  if reservedWords.contains name then
    short " is a shell keyword"
    return 0
  else if let some value := s.aliases.lookup name then
    if full then print (" is an alias for " ++ value ++ "\n")
    else print ("alias " ++ shownAlias name value)
    return 0
  else if (s.functions.lookup name).isSome then
    short " is a shell function"
    return 0
  else if builtinNames.contains name then
    short (if specialBuiltins.contains name then " is a special shell builtin"
      else " is a shell builtin")
    return 0
  else
    let path ← searchPath standard
    let found := if name.toList.contains '/' then
        if h.system.files.pathExists h.self.cwd (outward name) then some name else none
      else
        match findOnPath h.system.files h.self.cwd path name with
        | .ok file => some file
        | .error _ => none
    match found with
    | some file =>
      let tracked := !standard && s.hashed.contains name
      unless standard || tracked || name.toList.contains '/' do
        onShell fun s => { s with hashed := s.hashed ++ [name] }
      if full then
        print ((if tracked then " is a tracked alias for " else " is ") ++ file ++ "\n")
      else print (file ++ "\n")
      return 0
    | none =>
      if full then print ": not found\n"
      return 127

end Act

end NativeBuild.Machine
