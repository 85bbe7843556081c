import NativeBuild.Machine.Condition
import NativeBuild.Machine.Shell.Describe
import NativeBuild.Machine.Utility.Call

/-
  Utilities for names of files: the last name of a path and what stands before it, names that all
  systems take, the working directory, and where programs are found.
-/

namespace NativeBuild.Machine.Call

/-- Prints the working directory. The name that the environment has for it is taken only if it leads
there and holds no name of the directory itself or above. -/
def pwd (c : Call) : Progress :=
  let g : Grammar := { letters := "LP", names := [("logical", 'L'), ("physical", 'P')] }
  c.withOptions 1 g fun o =>
    let place := inward (Path.ofLocation c.cwd).toString
    let strict := (c.environment.get? "POSIXLY_CORRECT").isSome
    let named := (c.environment.get? "PWD").getD ""
    let names := piecesAt (· == '/') named.toList
    let w : Surroundings := ⟨c.files, c.cwd⟩
    let isGood : Bool := named.toList.head? == some '/' && !names.contains ['.'] &&
      !names.contains ['.', '.'] && (w.number? named).isSome && w.number? named == w.number? "."
    let logical : Bool := match o.last? ['L', 'P'] with
      | some letter => letter == 'L'
      | none => strict
    let shown := if logical ∧ isGood then named else place
    let warning := if o.operands = [] then [] else [c.message "ignoring non-option arguments"]
    if (c.files.find? c.cwd).isNone then
      c.ends 1 (warning ++
        [c.message "couldn't find directory entry in '..' with matching i-node"])
    else c.ends 0 (warning ++ [(1, toBytes (shown ++ "\n").toList)])

/-- A path without slashes behind it. -/
def trimSlashes (cs : List Char) : List Char :=
  let short := (cs.reverse.dropWhile (· == '/')).reverse
  if short = [] ∧ cs ≠ [] then ['/'] else short

/-- The last name of a path without an ending. -/
def lastName (ending : String) (path : String) : String :=
  let cs := trimSlashes path.toList
  let name := if cs = ['/'] then cs else ((piecesAt (· == '/') cs).getLast?).getD []
  let short := name.take (name.length - ending.length)
  String.ofList (if short ≠ [] ∧ short ++ ending.toList = name then short else name)

/-- What stands before the last name of a path. -/
def frontNames (path : String) : String :=
  let cs := trimSlashes path.toList
  if cs = ['/'] then "/"
  else if cs.contains '/' then
    let front := (cs.reverse.dropWhile (· != '/')).reverse
    String.ofList (trimSlashes front)
  else "."

/-- Names on lines of their own, or with zero bytes behind them. -/
def listNames (c : Call) (o : Options) (names : List String) : Progress :=
  let stop := if o.has 'z' then "\x00" else "\n"
  c.prints (String.join (names.map (· ++ stop)))

/-- Prints the last names of paths. -/
def basename (c : Call) : Progress :=
  let g : Grammar := {
    letters := "as:z", anywhere := false
    names := [("multiple", 'a'), ("suffix", 's'), ("zero", 'z')] }
  c.withOptions 1 g fun o =>
    match o.operands with
    | [] => c.misused 1 "missing operand"
    | first :: rest =>
      if o.has 'a' ∨ o.has 's' then
        c.listNames o (o.operands.map (lastName ((o.value? 's').getD "")))
      else
        match rest with
        | _ :: extra :: _ => c.misused 1 ("extra operand " ++ quotedName extra)
        | _ => c.listNames o [lastName (rest.headD "") first]

/-- Prints what stands before the last names of paths. -/
def dirname (c : Call) : Progress :=
  c.withOptions 1 { letters := "z", names := [("zero", 'z')], anywhere := false } fun o =>
    if o.operands = [] then c.misused 1 "missing operand"
    else c.listNames o (o.operands.map frontNames)

/-- A character that names on all systems may have. -/
def isPortable (c : Char) : Bool := isLetter c || c.isDigit || "/._-".toList.contains c

/-- What is wrong with a name: as it stands here, or wherever it may have to go. -/
def nameFault? (c : Call) (basic extra : Bool) (name : String) : Option String :=
  let cs := name.toList
  let pieces := piecesAt (· == '/') cs
  let strange := cs.find? fun ch => !isPortable ch
  let tooLong := fun (most : Nat) (what : String) (size : Nat) (shown : String) =>
    "limit " ++ toString most ++ " exceeded by length " ++ toString size ++ " of file name " ++ what ++
      shown
  let size := cs.length
  let reached := if basic then .ok (.missing [] "") else c.files.reach c.cwd false (outward name)
  if extra ∧ pieces.any (fun piece => piece.head? == some '-') then
    some ("leading '-' in a component of file name " ++ quotedName name)
  else if (basic ∨ extra) ∧ cs = [] then some "empty file name"
  else
    match basic, strange, reached with
    | true, some ch, _ =>
      some ("nonportable character " ++ quotedText (String.ofList [ch]) ++ " in file name " ++
        quotedName name)
    | true, none, _ =>
      if 256 ≤ size then some (tooLong 255 "" size (quotedName name))
      else
        (pieces.find? fun piece => 14 < piece.length).map fun piece =>
          tooLong 14 "component " piece.length (quotedText (String.ofList piece))
    | false, _, .error e =>
      if e = .noEntry ∧ cs ≠ [] then none else some (shownName name ++ ": " ++ e.text)
    | false, _, .ok (.found _ _) => none
    | false, _, .ok (.missing _ _) =>
      if cs = [] then some ("'': " ++ Errno.noEntry.text) else none

/-- Tells which names other systems would not take. -/
def pathchk (c : Call) : Progress :=
  let g : Grammar := { letters := "pPα", names := [("portability", 'α')], anywhere := false }
  c.withOptions 1 g fun o =>
    let basic := o.has 'p' || o.has 'α'
    let extra := o.has 'P' || o.has 'α'
    if o.operands = [] then c.misused 1 "missing operand"
    else
      let faults := o.operands.filterMap (c.nameFault? basic extra)
      c.ends (if faults = [] then 0 else 1) (faults.map c.message)

/-- Prints where programs are found. -/
def which (c : Call) : Progress :=
  let path := (c.environment.get? "PATH").getD defaultSearchPath
  let good := fun (name : String) =>
    (candidates path name).filter fun file => (firstExecutable c.files c.cwd .noEntry [file]).isOk
  let line := fun (text : String) => (1, toBytes (text ++ "\n").toList)
  let g : Grammar := { letters := "as", anywhere := false }
  match g.read (c.arguments.length + 1) c.arguments [] [] with
  | .error misuse =>
    let letter := (misuse.text.toList.reverse.drop 1).take 1
    c.ends 2 [(2, toBytes (("Illegal option -".toList ++ letter) ++ ['\n'])),
      line ("Usage: " ++ (good c.title).headD c.title ++ " [-as] args")]
  | .ok o =>
    let lists := o.operands.map fun name => if o.has 'a' then good name else (good name).take 1
    let shown := if o.has 's' then [] else lists.flatten.map line
    c.ends (if lists.any List.isEmpty ∨ o.operands = [] then 1 else 0) shown

end NativeBuild.Machine.Call
