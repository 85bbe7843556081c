import NativeBuild.FileTree.Canonical
import NativeBuild.Machine.Utility.Copying

/-
  Links and what they lead to: `ln`, `readlink` and `realpath`.
-/

namespace NativeBuild.Machine.Call

/-- The path of the place that a path leads to; its end may be missing. -/
def resolved (c : Call) (files : FileTree) (mustExist : Bool) (path : String) :
    Except Errno String :=
  let path' := if mustExist then path else withoutSlashes path
  match files.reach c.cwd true (outward path') with
  | .ok (.found place _) => .ok (inward (Path.ofLocation place).toString)
  | .ok (.missing parent name) =>
    if mustExist then .error .noEntry
    else .ok (inward (Path.ofLocation (parent ++ [name])).toString)
  | .error e => .error e

/-- The path of the place that a path leads to; all of it may be missing. -/
def spelled (c : Call) (files : FileTree) (path : String) : Except Errno String :=
  match files.canonical c.cwd (outward path) with
  | .ok text => if path = "" then .error .noEntry else .ok (inward text)
  | .error _ => .error .noEntry

/-- The path of a path with `.` and `..` taken out of its text, and no link followed. -/
def tidied (c : Call) (path : String) : Except Errno String :=
  if path = "" then .error .noEntry
  else
    let start := if path.toList.head? = some '/' then [] else c.cwd.map inward
    let place := ((piecesAt (· == '/') path.toList).map String.ofList).foldl
      (fun (place : List String) name =>
        if name = "" ∨ name = "." then place else if name = ".." then place.dropLast
        else place ++ [name]) start
    .ok ("/" ++ "/".intercalate place)

/-- The names of an absolute path. -/
def namesOf (path : String) : List String :=
  ((piecesAt (· == '/') path.toList).map String.ofList).filter (· ≠ "")

/-- How many names two lists begin with in common. -/
def commonNames : List String → List String → Nat
  | a :: as, b :: bs => if a = b then commonNames as bs + 1 else 0
  | _, _ => 0

/-- The way from one absolute path to another. -/
def relativePath (base path : String) : String :=
  let (start, goal) := (namesOf base, namesOf path)
  let common := commonNames start goal
  let names := List.replicate (start.length - common) ".." ++ goal.drop common
  if names = [] then "." else "/".intercalate names

/-- How links are made. -/
structure Linking where
  symbolic : Bool
  relative : Bool
  follows : Bool
  force : Bool
  asks : Bool
  directories : Bool
  verbose : Bool
  backup : Backup
  suffix : String

/-- Makes a link. -/
def linkOne (c : Call) (k : Linking) (target path : String) : StateT Copied Work Unit := do
  let files ← Work.files
  let source := c.statusIn files k.follows target
  if !k.symbolic then
    if let .error e := source then
      c.complain ("failed to access " ++ quotedName target ++ ": " ++ e.text)
      return
  let isDirectory := source.toOption.any fun st => st.node.isDirectory
  if !k.symbolic ∧ isDirectory ∧ !k.directories then
    c.complain (shownName target ++ ": hard link not allowed for directory")
    return
  let spelledTarget := if k.relative then
      let front := String.ofList ((path.toList.reverse.dropWhile (· != '/')).reverse)
      match c.spelled files (if front = "" then "." else front), c.spelled files target with
      | .ok base, .ok full => relativePath base full
      | _, _ => target
    else target
  let make := fun (files : FileTree) =>
    if k.symbolic then
      if spelledTarget = "" then .error .noEntry
      else files.makeLink c.cwd (outward path) (outward spelledTarget)
    else files.makeName c.cwd k.follows (outward target) (outward path)
  let said := fun (kept : Option String) => do
    if k.verbose then
      Work.say ((match kept with
        | some name => quotedName name ++ " ~ "
        | none => "") ++ quotedName path ++ (if k.symbolic then " -> " else " => ") ++
        quotedName spelledTarget)
    if !k.symbolic then
      if let .ok st := c.statusIn (← Work.files) false path then
        modify fun s => { s with made := (path, st.number) :: s.made }
  let cannot := fun (e : Errno) => do
    let arrow := if k.symbolic then (if e = .nameTooLong ∨ spelledTarget = "" then
        " -> " ++ quotedName spelledTarget else "")
      else if e = .fileExists then "" else " => " ++ quotedName target
    c.complain ("failed to create " ++ (if k.symbolic then "symbolic" else "hard") ++ " link " ++
      quotedName path ++ arrow ++ ": " ++ e.text)
  match ← Work.attempt (make files) with
  | none => said none
  | some e =>
    if !(k.force ∨ k.asks ∨ k.backup ≠ .none) ∨ e ≠ .fileExists then
      cannot e
      return
    match c.statusIn files false path with
    | .error e => c.complain ("failed to access " ++ quotedName path ++ ": " ++ e.text)
    | .ok there =>
      if there.node.isDirectory then
        c.complain (shownName path ++ ": cannot overwrite directory")
        return
      if (← get).made.contains (path, there.number) then
        c.complain ("will not overwrite just-created " ++ quotedName path ++ " with " ++
          quotedName target)
        return
      let sameEntry := (c.statusIn files false target).toOption.any fun st => st.place == there.place
      let reaches := (c.statusIn files true target).toOption.any fun st => st.number == there.number
      if sameEntry ∧ (reaches ∨ !k.symbolic) ∨ (reaches ∧ files.nameCount there.number = 1) then
        c.complain (quotedName target ++ " and " ++ quotedName path ++ " are the same file")
        return
      if k.asks then
        unless ← c.ask ("replace " ++ quotedName path) do return
      let kept := if k.backup = .none then none
        else some (c.backupName files { backup := k.backup, suffix := k.suffix } path)
      let cleared := match kept with
        | some name => files.rename c.cwd (outward path) (outward name)
        | none => files.removeFile c.cwd (outward path)
      let isKept := !k.symbolic && reaches
      if isKept ∧ kept = none then said none
      else
        match ← Work.attempt (cleared.bind make) with
        | none => said kept
        | some e => cannot e

/-- Makes links. -/
def ln (c : Call) : Progress :=
  let g : Grammar := {
    letters := "bdfFinrsLPTt:vS:β::"
    names := [("symbolic", 's'), ("force", 'f'), ("interactive", 'i'), ("no-dereference", 'n'),
      ("verbose", 'v'), ("no-target-directory", 'T'), ("target-directory", 't'),
      ("relative", 'r'), ("directory", 'd'), ("logical", 'L'), ("physical", 'P'),
      ("backup", 'β'), ("suffix", 'S')] }
  c.withOptions 1 g fun o =>
    let (backup, suffix) := c.backupChoice o
    let asks := o.last? ['f', 'i'] == some 'i'
    let k : Linking := {
      symbolic := o.has 's', relative := o.has 'r', follows := o.last? ['L', 'P'] == some 'L'
      force := o.has 'f', asks := asks, directories := o.has 'd' || o.has 'F', verbose := o.has 'v'
      backup := backup, suffix := suffix }
    let run := fun (pairs : List (String × String)) => c.perform do
      let _ ← (pairs.forM fun (target, path) => c.linkOne k target path).run {}
    let into := fun (directory : String) (targets : List String) =>
      run (targets.map fun target => (target, inDirectory directory (lastPiece target)))
    let isLink := fun (path : String) =>
      (c.statusIn c.files false path).toOption.any fun st => st.node.isLink
    let isTarget := fun (path : String) =>
      c.isDirectory c.files path && !(o.has 'n' && isLink path)
    let lack := fun (path : String) => (match c.statusIn c.files true path with
      | .ok _ => Errno.notDirectory
      | .error e => e).text
    if k.relative ∧ !k.symbolic then c.fails 1 "cannot do --relative without --symbolic"
    else if o.has 'T' then
      match o.operands with
      | [] => c.misused 1 "missing file operand"
      | [a] => c.misused 1 ("missing destination file operand after " ++ quotedName a)
      | [a, b] => run [(a, b)]
      | _ :: _ :: extra :: _ => c.misused 1 ("extra operand " ++ quotedName extra)
    else
      match o.value? 't', o.operands.reverse with
      | _, [] => c.misused 1 "missing file operand"
      | some directory, _ =>
        if isTarget directory then into directory o.operands
        else c.fails 1 ("failed to access " ++ quotedName directory ++ ": " ++ lack directory)
      | none, [target] => into "./" [target]
      | none, path :: rest =>
        if isTarget path then into path rest.reverse
        else
          match rest with
          | [target] => run [(target, path)]
          | _ => c.fails 1 ("target " ++ quotedName path ++ ": " ++ lack path)

/-- Prints what symbolic links hold, or the path of what they lead to. -/
def readlink (c : Call) : Progress :=
  let g : Grammar := {
    letters := "efmnqsvz"
    names := [("canonicalize", 'f'), ("canonicalize-existing", 'e'),
      ("canonicalize-missing", 'm'), ("no-newline", 'n'), ("quiet", 'q'), ("silent", 's'),
      ("verbose", 'v'), ("zero", 'z')] }
  c.withOptions 1 g fun o =>
    let isLone := o.operands.length = 1
    if o.operands = [] then c.misused 1 "missing operand"
    else c.perform do
      if o.has 'n' ∧ !isLone then c.warn "ignoring --no-newline with multiple arguments"
      let ending := if o.has 'n' ∧ isLone then "" else if o.has 'z' then "\x00" else "\n"
      for operand in o.operands do
        let files ← Work.files
        let result : Except Errno String := match o.last? ['e', 'f', 'm'] with
          | none =>
            match c.statusIn files false operand with
            | .ok ⟨_, .link target, _⟩ => .ok (inward target)
            | .ok _ => .error .invalidArgument
            | .error e => .error e
          | some 'm' => c.spelled files operand
          | some mode => c.resolved files (mode == 'e') operand
        match result with
        | .ok text => Work.print (text ++ ending)
        | .error e =>
          if o.last? ['v', 'q', 's'] = some 'v' then
            c.complain (shownName operand ++ ": " ++ e.text)
          else Work.markFailed

/-- Prints the paths of the places that paths lead to. -/
def realpath (c : Call) : Progress :=
  let g : Grammar := {
    letters := "eEmLPqszα:β:"
    names := [("canonicalize-existing", 'e'), ("canonicalize-missing", 'm'), ("quiet", 'q'),
      ("logical", 'L'), ("physical", 'P'), ("strip", 's'), ("no-symlinks", 's'), ("zero", 'z'),
      ("relative-to", 'α'), ("relative-base", 'β')] }
  c.withOptions 1 g fun o =>
    let find := fun (path : String) =>
      if o.has 's' then
        match c.tidied path with
        | .ok text =>
          if o.has 'e' then (c.statusIn c.files true text).map fun _ => text else .ok text
        | .error e => .error e
      else if o.has 'm' then c.spelled c.files path
      else c.resolved c.files (o.has 'e') path
    let isBelow := fun (base path : String) => (namesOf base).isPrefixOf (namesOf path)
    if o.operands = [] then c.misused 1 "missing operand"
    else
      let bases := [o.value? 'α', o.value? 'β'].map fun value => value.map fun v => (v, find v)
      match bases.findSome? fun base => base.bind fun (v, r) =>
          match r with
          | .error e => some (v, e)
          | .ok _ => none with
      | some (v, e) => c.fails 1 (shownName v ++ ": " ++ e.text)
      | none =>
        let base := fun (k : Nat) => (bases.getD k none).bind fun (_, r) => r.toOption
        c.forEach o.operands fun operand => do
          match find operand with
          | .ok path =>
            let start := (base 0).or (base 1)
            let isInside := (base 1).all fun b =>
              isBelow b path && ((base 0).all fun a => isBelow b a)
            let shown := match start with
              | some start => if isInside then relativePath start path else path
              | none => path
            Work.print (shown ++ if o.has 'z' then "\x00" else "\n")
          | .error e =>
            if o.has 'q' then Work.markFailed
            else c.complain ((if operand = "" then "''" else shownName operand) ++ ": " ++ e.text)

end NativeBuild.Machine.Call
