import NativeBuild.FileTree.Directory
import NativeBuild.Machine.Mode
import NativeBuild.Machine.Utility.Deed

/-
  Making and taking away: `mkdir`, `rmdir`, `rm`, `unlink`, `link`, `mkfifo` and `mktemp`.
-/

namespace NativeBuild.Machine.Call

/-- How a directory is made with those in front of it. -/
structure DirectoryPlan where
  /-- The mode of the directory itself, and of those in front of it. -/
  mode : Nat
  frontMode : Nat
  verbose : Bool := false

/-- Makes a directory where there is none, with those in front of it. Gives whether the directory is
there in the end. -/
def makeWithFronts (c : Call) (plan : DirectoryPlan) (path : String) : Work Bool := do
  let fronts := frontPaths path
  for (front, k) in (fronts ++ [path]).zipIdx do
    let isLast := k = fronts.length
    let files ← Work.files
    let mode := if isLast then plan.mode else plan.frontMode
    let bare := if isLast then withoutSlashes front else front
    match ← Work.attempt (files.makeDirectory c.cwd (outward bare) mode) with
    | none => if plan.verbose then Work.say (c.title ++ ": created directory " ++ quotedName front)
    | some e =>
      unless c.isDirectory files front do
        let e := if e = .fileExists ∧ !isLast then Errno.notDirectory else e
        c.complain ("cannot create directory " ++ quotedName front ++ ": " ++ e.text)
        return false
  return true

/-- Makes directories. -/
def mkdir (c : Call) : Progress :=
  let g : Grammar := {
    letters := "m:pvZ", names := [("mode", 'm'), ("parents", 'p'), ("verbose", 'v')] }
  c.withOptions 1 g fun o =>
    let text := (o.value? 'm').getD ""
    let changes := if o.has 'm' then ModeChange.ofText? text.toList else some []
    match changes, o.operands with
    | _, [] => c.misused 1 "missing operand"
    | none, _ => c.fails 1 ("invalid mode " ++ quotedText text)
    | some changes, operands =>
      let mode := if o.has 'm' then adjustMode changes 0o777 true c.umask else c.newModeOf 0o777
      let plan : DirectoryPlan := {
        mode := mode
        frontMode := 0o777 &&& (0o777 ^^^ (c.umask &&& 0o477))
        verbose := o.has 'v' }
      c.forEach operands fun operand => do
        if o.has 'p' then
          let _ ← c.makeWithFronts plan operand
        else
          let path := outward (withoutSlashes operand)
          match ← Work.attempt ((← Work.files).makeDirectory c.cwd path mode) with
          | none =>
            if o.has 'v' then Work.say (c.title ++ ": created directory " ++ quotedName operand)
          | some e =>
            c.complain ("cannot create directory " ++ quotedName operand ++ ": " ++ e.text)

/-- Takes away an empty directory. Complains with a text unless what is in it may stay. -/
def removeEmpty (c : Call) (o : Options) (what path : String) : Work Bool := do
  if o.has 'v' then Work.say (c.title ++ ": removing directory, " ++ quotedName path)
  let files ← Work.files
  match ← Work.attempt (files.removeDirectory c.cwd (outward path)) with
  | none => return true
  | some e =>
    if o.has 'α' ∧ e = .notEmpty then return false
    let isLink : Bool := match c.statusIn files false (withoutSlashes path) with
      | .ok ⟨_, .link _, _⟩ => path != withoutSlashes path
      | _ => false
    if isLink ∧ e = .notDirectory then
      c.complain ("failed to remove " ++ quotedName path ++ ": Symbolic link not followed")
    else
      c.complain ("failed to remove " ++ (if e = .notDirectory then "" else what) ++
        quotedName path ++ ": " ++ e.text)
    return false

/-- Takes away empty directories. -/
def rmdir (c : Call) : Progress :=
  let g : Grammar := {
    letters := "pvα"
    names := [("parents", 'p'), ("verbose", 'v'), ("ignore-fail-on-non-empty", 'α')] }
  c.withOptions 1 g fun o =>
    if o.operands = [] then c.misused 1 "missing operand"
    else c.forEach o.operands fun operand => do
      if ← c.removeEmpty o "" operand then
        if o.has 'p' then
          let mut above := true
          for front in (frontPaths operand).reverse do
            if above then above ← c.removeEmpty o "directory " front

/-- When `rm` asks. -/
inductive Asking where
  | never
  | once
  | always
  deriving DecidableEq

/-- What `rm` does. -/
structure Removal where
  recursive : Bool
  emptyDirectories : Bool
  force : Bool
  verbose : Bool
  asking : Asking

/-- What became of something that was to be removed. -/
inductive Removed where
  | gone
  /-- It was to stay. -/
  | declined
  | failed
  deriving DecidableEq

/-- Asks before something is removed, or before what is in a directory is. -/
def askRemoval (c : Call) (r : Removal) (path : String) (st : Status) (descending : Bool) :
    Work Bool := do
  if r.asking ≠ .always then return true
  let files ← Work.files
  if descending then c.ask ("descend into " ++
    (if files.permits st.place .write then "" else "write-protected ") ++ "directory " ++ quotedName path)
  else c.ask ("remove " ++ (if st.node.isDirectory ∨ files.permits st.place .write then ""
    else "write-protected ") ++ kindText st.node ++ " " ++ quotedName path)

/-- Takes away one entry. -/
def exciseEntry (c : Call) (r : Removal) (path : String) (isDirectory : Bool)
    (unreadable : Option Errno) : Work Removed := do
  let files ← Work.files
  let path' := outward path
  let result := if isDirectory then files.removeDirectory c.cwd path'
    else files.removeFile c.cwd path'
  match ← Work.attempt result with
  | none =>
    if r.verbose then
      Work.say ("removed " ++ (if isDirectory then "directory " else "") ++ quotedName path)
    return .gone
  | some e =>
    if r.force ∧ (e = .noEntry ∨ e = .notDirectory) then return .gone
    let e := if e = .notEmpty then unreadable.getD e else e
    c.complain ("cannot remove " ++ quotedName path ++ ": " ++ e.text)
    return .failed

/-- Takes away a file, or a directory with all that is in it. -/
def removeTree (c : Call) (r : Removal) : Nat → String → Status → Work Removed
  | 0, _, _ => return .failed
  | fuel + 1, path, st => do
    match st.node with
    | .directory _ =>
      let isEmpty := ((← Work.files).children st.place).isEmpty
      if !r.recursive ∧ !(r.emptyDirectories ∧ isEmpty) then
        let e : Errno := if r.emptyDirectories then .notEmpty else .isDirectory
        c.complain ("cannot remove " ++ quotedName path ++ ": " ++ e.text)
        return .failed
      if isEmpty then
        if ← c.askRemoval r path st false then return ← c.exciseEntry r path true none
        else return .declined
      unless ← c.askRemoval r path st true do return .declined
      let mut stays := Removed.gone
      let mut unreadable : Option Errno := none
      match (← Work.files).list c.cwd (outward path) with
      | .error e => unreadable := some e
      | .ok names =>
        for name in names do
          let inner := inDirectory path (inward name)
          match ← c.status false inner with
          | .ok st =>
            let result ← removeTree c r fuel inner st
            if result ≠ .gone then
              stays := if stays = .failed then .failed else result
          | .error e =>
            c.complain ("cannot remove " ++ quotedName inner ++ ": " ++ e.text)
            stays := .failed
      if stays ≠ .gone then return stays
      if ← c.askRemoval r path st false then c.exciseEntry r path true unreadable
      else return .declined
    | _ =>
      if ← c.askRemoval r path st false then c.exciseEntry r path false none else return .declined

/-- Takes away what an operand names. -/
def removeOperand (c : Call) (r : Removal) (preservesRoot : Bool) (operand : String) : Work Unit := do
  match ← c.status false operand with
  | .error e =>
    unless r.force ∧ (e = .noEntry ∨ e = .notDirectory) do
      c.complain ("cannot remove " ++ quotedName operand ++ ": " ++ e.text)
  | .ok st =>
    let last := (Path.pieces (outward operand)).filter (· != "") |>.getLastD ""
    if st.node.isDirectory ∧ r.recursive ∧ (last = "." ∨ last = "..") then
      c.complain ("refusing to remove '.' or '..' directory: skipping " ++ quotedName operand)
    else if r.recursive ∧ st.place = [] ∧ preservesRoot then
      c.complain ("it is dangerous to operate recursively on " ++
        (if operand = "/" then "'/'" else quotedName operand ++ " (same as '/')"))
      c.warn "use --no-preserve-root to override this failsafe"
    else
      let _ ← c.removeTree r ((← Work.files).entries.length + 2) operand st

/-- Takes away files and, when asked to, whole directories. -/
def rm (c : Call) : Progress :=
  let g : Grammar := {
    letters := "dfiIrRvα::βγ::δ"
    names := [("dir", 'd'), ("force", 'f'), ("recursive", 'r'), ("verbose", 'v'),
      ("interactive", 'α'), ("no-preserve-root", 'β'), ("preserve-root", 'γ'),
      ("one-file-system", 'δ')] }
  c.withOptions 1 g fun o =>
    let asking := o.given.foldl (fun (asking, force) (letter, value) =>
      match letter with
      | 'f' => (Asking.never, true)
      | 'i' => (.always, false)
      | 'I' => (.once, false)
      | 'α' =>
        if ["never", "no", "none"].contains value then (.never, force)
        else if value = "once" then (.once, false) else (.always, false)
      | _ => (asking, force)) (Asking.never, false)
    let r : Removal := {
      recursive := o.has 'r' || o.has 'R', emptyDirectories := o.has 'd', verbose := o.has 'v'
      force := asking.2, asking := asking.1 }
    let count := o.operands.length
    if o.operands = [] then (if r.force then c.ends 0 [] else c.misused 1 "missing operand")
    else c.perform do
      let mut goes := true
      if r.asking = .once ∧ (3 < count ∨ r.recursive) then
        goes ← c.ask ("remove " ++ toString count ++ (if count = 1 then " argument" else " arguments") ++
          if r.recursive then " recursively" else "")
      if goes then o.operands.forM (c.removeOperand r (!o.has 'β'))

/-- Takes away one file, or makes another name for one. -/
def plainLink (c : Call) (removes : Bool) : Progress :=
  c.withOptions 1 { letters := "" } fun o =>
    match removes, o.operands with
    | _, [] => c.misused 1 "missing operand"
    | true, [path] => c.perform do
      if let some e ← Work.attempt ((← Work.files).removeFile c.cwd (outward path)) then
        c.complain ("cannot unlink " ++ quotedName path ++ ": " ++ e.text)
    | true, _ :: extra :: _ => c.misused 1 ("extra operand " ++ quotedName extra)
    | false, [target, path] => c.perform do
      let made := (← Work.files).makeName c.cwd false (outward target) (outward path)
      if let some e ← Work.attempt made then
        c.complain ("cannot create link " ++ quotedName path ++ " to " ++ quotedName target ++ ": " ++
          e.text)
    | false, [target] => c.misused 1 ("missing operand after " ++ quotedName target)
    | false, _ :: _ :: extra :: _ => c.misused 1 ("extra operand " ++ quotedName extra)

/-- Makes pipes with names. -/
def mkfifo (c : Call) : Progress :=
  let g : Grammar := { letters := "m:Z", names := [("mode", 'm')] }
  c.withOptions 1 g fun o =>
    let text := (o.value? 'm').getD ""
    match if o.has 'm' then ModeChange.ofText? text.toList else some [], o.operands with
    | _, [] => c.misused 1 "missing operand"
    | none, _ => c.fails 1 "invalid mode"
    | some changes, operands =>
      let mode := if o.has 'm' then adjustMode changes 0o666 false c.umask else c.newMode
      c.forEach operands fun operand => do
        let made := (← Work.files).makeEntry c.cwd (outward operand) (.pipe mode)
        if let some e ← Work.attempt made then
          c.complain ("cannot create fifo " ++ quotedName operand ++ ": " ++ e.text)

/-- The first name that a template stands for and that is not taken: the last of its letters `X` are
replaced. -/
def freeName? (c : Call) (template : String) : Option String :=
  let cs := template.toList.reverse
  let after := cs.takeWhile (· ≠ 'X')
  let marks := ((cs.drop after.length).takeWhile (· == 'X')).length
  let front := (cs.drop (after.length + marks)).reverse
  if marks < 3 then none
  else
    let name := fun (k : Nat) =>
      let digits := padLeft 'q' marks (Nat.toDigits 36 k)
      String.ofList (front ++ (digits.drop (digits.length - marks)).map (fun ch =>
        if ch == '*' then 'z' else ch) ++ after.reverse)
    (((List.range (c.files.entries.length + 1)).map name).find? fun name =>
      (c.statusIn c.files false name).toOption.isNone)

/-- Makes a file or directory with a name that was not taken. -/
def mktemp (c : Call) : Progress :=
  let g : Grammar := {
    letters := "dp:qtuVα:β::"
    names := [("directory", 'd'), ("tmpdir", 'β'), ("quiet", 'q'), ("dry-run", 'u'),
      ("suffix", 'α')] }
  c.withOptions 1 g fun o =>
    let given := o.operands.head?
    let ending := (o.value? 'α').getD ""
    let template := given.getD "tmp.XXXXXXXXXX"
    let top := ((c.environment.get? "TMPDIR").filter (· ≠ "")).getD "/tmp"
    let directory := match (o.value? 'p').or (o.value? 'β') with
      | some d => some (if d = "" then top else d)
      | none => if given.isNone ∨ o.has 't' then some top else none
    let full := (match directory with
      | some d => inDirectory d template
      | none => template) ++ ending
    let isMisplaced := ending ≠ "" ∧ template.toList.getLast? ≠ some 'X'
    match o.operands, c.freeName? full with
    | _ :: _ :: _, _ => c.misused 1 "too many templates"
    | _, none => c.fails 1 ("too few X's in template " ++ quotedName template)
    | _, some name =>
      if isMisplaced then
        c.fails 1 ("with --suffix, template " ++ quotedName template ++ " must end in X")
      else if o.has 't' ∧ template.toList.contains '/' then
        c.fails 1 ("invalid template, " ++ quotedName template ++ ", contains directory separator")
      else c.perform do
        let files ← Work.files
        let made := if o.has 'u' then .ok files
          else if o.has 'd' then files.makeDirectory c.cwd (outward name) 0o700
          else files.writeFile c.cwd (outward name) [] 0o600 false
        match ← Work.attempt made with
        | none => Work.say name
        | some e =>
          if o.has 'q' then Work.markFailed
          else c.complain ("failed to create " ++ (if o.has 'd' then "directory" else "file") ++
            " via template " ++ quotedName full ++ ": " ++ e.text)

end NativeBuild.Machine.Call
