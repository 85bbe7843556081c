import NativeBuild.Machine.Utility.Directories

/-
  Copying and moving: `cp`, `mv` and `install`. What stands at the target is judged before anything
  is done: it may be the file itself, newer than the source, of another kind, or something that was
  made a moment ago; it may be kept under another name, or somebody may have to be asked.
-/

namespace NativeBuild.Machine.Call

/-- Which links are followed to what is copied. -/
inductive Following where
  | never
  /-- Only those that operands name. -/
  | operands
  | always
  deriving DecidableEq

/-- What happens to a target that is there already. -/
inductive Overwriting where
  | usual
  | ask
  | never
  deriving DecidableEq

/-- How a target is kept that gives way. -/
inductive Backup where
  | none
  | simple
  /-- With a number. -/
  | numbered
  /-- With a number if there are such already. -/
  | existing
  deriving DecidableEq

/-- How things are copied or moved. -/
structure Copying where
  moving : Bool := false
  installing : Bool := false
  following : Following := .always
  recursive : Bool := false
  overwriting : Overwriting := .usual
  /-- A target that cannot be written is taken away, or any target is. -/
  force : Bool := false
  removeFirst : Bool := false
  /-- Only what is newer than its target. -/
  update : Bool := false
  hardLinks : Bool := false
  symbolicLinks : Bool := false
  keepsMode : Bool := false
  keepsTimes : Bool := false
  keepsLinks : Bool := false
  attributesOnly : Bool := false
  verbose : Bool := false
  backup : Backup := .none
  suffix : String := "~"

/-- What has been copied so far. -/
structure Copied where
  /-- What was made, by name and number. -/
  made : List (String × Nat) := []
  /-- The operands that were copied. -/
  seen : List Nat := []
  /-- Where files were copied to. -/
  targets : List (Nat × String) := []
  /-- The directory that is made for an operand has been noted. -/
  isNoted : Bool := false

/-- A part of the work of copying. -/
abbrev CopyTask := StateT Copied Work

/-- The name that a target is kept under. -/
def backupName (c : Call) (files : FileTree) (k : Copying) (target : String) : String :=
  let front := String.ofList ((target.toList.reverse.dropWhile (· != '/')).reverse)
  let numbers := match files.list c.cwd (outward (if front = "" then "." else front)) with
    | .error _ => []
    | .ok names => names.filterMap fun name =>
      let start := (lastPiece target ++ ".~").toList
      let cs := (inward name).toList
      if start.isPrefixOf cs ∧ cs.getLast? = some '~' then natural? (cs.drop start.length).dropLast
      else none
  let numbered := target ++ ".~" ++ toString (numbers.foldl max 0 + 1) ++ "~"
  match k.backup with
  | .numbered => numbered
  | .existing => if numbers = [] then target ++ k.suffix else numbered
  | _ => target ++ k.suffix

/-- A source and its target are names of one file, so that the one cannot be put in the place of the
other. -/
def clashes (c : Call) (files : FileTree) (k : Copying) (source target : String)
    (src dst : Status) : Bool :=
  let linkOf := fun (path : String) => (c.statusIn files false path).toOption
  match linkOf source, linkOf target with
  | some srcLink, some dstLink =>
    let isLink := fun (st : Status) => st.node.isLink
    let sameEntry := srcLink.place == dstLink.place
    if k.following = .never ∧ isLink src ∧ isLink dst then sameEntry
    else if src.number ≠ dst.number ∧ k.following ≠ .never then false
    else if k.following ≠ .never ∧ isLink srcLink ∧ isLink dstLink ∧ k.removeFirst then false
    else if k.backup ≠ .none then sameEntry
    else if (k.moving ∨ k.removeFirst) ∧ isLink dstLink then false
    else if (k.moving ∨ k.removeFirst) ∧ srcLink.number = dstLink.number ∧
        1 < files.nameCount dstLink.number ∧ !sameEntry then k.moving
    else if !isLink srcLink ∧ !isLink dstLink ∧ srcLink.number ≠ dstLink.number then false
    else if k.moving ∧ isLink src ∧ 1 < files.nameCount dstLink.number then
      ((c.statusIn files true source).toOption.any fun st => st.place == dstLink.place)
    else if k.symbolicLinks ∧ isLink dstLink then false
    else if k.following = .never then
      match c.statusIn files true source, c.statusIn files true target with
      | .ok a, .ok b => a.number == b.number
      | _, _ => false
    else true
  | _, _ => false

/-- What is known of a target before the work on it begins. -/
inductive TargetState where
  /-- The work is done, and whether it was done well. -/
  | settled (good : Bool)
  /-- Nothing is in the way any more; the name that what was there is kept under. -/
  | free (kept : Option String)
  /-- The target is there. -/
  | taken (st : Status)

/-- Asks whether a target may be overwritten. -/
def mayOverwrite (c : Call) (k : Copying) (target : String) (dst : Status) : Work Bool := do
  let mode := dst.node.mode
  let shown := octalText 4 mode
  let letters := String.ofList (permissionLetters mode)
  if (← Work.files).permits dst.place .write then c.ask ("overwrite " ++ quotedName target)
  else if k.moving ∨ k.removeFirst ∨ k.force then
    c.ask ("replace " ++ quotedName target ++ ", overriding mode " ++ shown ++ " (" ++ letters ++ ")")
  else c.ask ("unwritable " ++ quotedName target ++ " (mode " ++ shown ++ ", " ++ letters ++
    "); try anyway")

/-- Looks at a target, and clears the way where that is asked for. -/
def judgeTarget (c : Call) (k : Copying) (source target : String) (src : Status) (isOperand : Bool) :
    CopyTask TargetState := do
  let files ← Work.files
  let plain := match src.node with
    | .directory _ | .link _ => false
    | .pipe _ => !k.recursive
    | _ => true
  let follows := plain && !(k.moving || k.symbolicLinks || k.hardLinks || k.backup ≠ .none ||
    k.removeFirst)
  match c.statusIn files follows target with
  | .error .noEntry => return .free none
  | .error e =>
    if e = .tooManyLinks ∧ k.force then return .free none
    c.complain ((if k.moving then "cannot move " ++ quotedName source ++ " to " else "cannot stat ") ++
      quotedName target ++ ": " ++ e.text)
    return .settled false
  | .ok dst =>
    let isSame := src.number = dst.number
    if isSame ∧ k.hardLinks then return .settled true
    if k.overwriting ≠ .never ∧ c.clashes files k source target src dst then
      c.complain (quotedName source ++ " and " ++ quotedName target ++ " are the same file")
      return .settled false
    let srcIsDirectory := src.node.isDirectory
    let dstIsDirectory := dst.node.isDirectory
    if k.update ∧ !srcIsDirectory ∧
        (files.datesOf src.number).modified ≤ (files.datesOf dst.number).modified then
      return .settled true
    if k.moving ∨ !srcIsDirectory then
      match k.overwriting with
      | .never => return .settled true
      | .ask => unless ← c.mayOverwrite k target dst do return .settled true
      | .usual => pure ()
    if !dstIsDirectory then
      if srcIsDirectory ∧ !(k.moving ∧ k.backup ≠ .none) then
        c.complain ("cannot overwrite non-directory " ++ quotedName target ++ " with directory " ++
          quotedName source)
        return .settled false
      if isOperand ∧ k.backup ≠ .numbered ∧ (← get).made.contains (target, dst.number) then
        c.complain ("will not overwrite just-created " ++ quotedName target ++ " with " ++
          quotedName source)
        return .settled false
    if dstIsDirectory ∧ !srcIsDirectory ∧ !(k.moving ∧ k.backup ≠ .none) then
      c.complain ("cannot overwrite directory " ++ quotedName target ++ " with non-directory" ++
        if k.moving then " " ++ quotedName source else "")
      return .settled false
    let base := lastPiece source
    if k.backup ≠ .none ∧ base ≠ "." ∧ base ≠ ".." ∧ (k.moving ∨ !dstIsDirectory) then
      let kept := c.backupName files k target
      match ← Work.attempt (files.rename c.cwd (outward target) (outward kept)) with
      | some e =>
        c.complain ("cannot backup " ++ quotedName target ++ ": " ++ e.text)
        return .settled false
      | none => return .free (some kept)
    let replaced := k.keepsLinks && 1 < files.nameCount dst.number ||
      k.following = .never && !plain
    if !dstIsDirectory ∧ !k.moving ∧ (k.removeFirst ∨ replaced) then
      match ← Work.attempt (files.removeFile c.cwd (outward target)) with
      | some e =>
        c.complain ("cannot remove " ++ quotedName target ++ ": " ++ e.text)
        return .settled false
      | none =>
        if k.verbose then Work.say ("removed " ++ quotedName target)
        return .free none
    return .taken dst

/-- A source and its target as they are announced. -/
def arrow (source target : String) (kept : Option String) : String :=
  quotedName source ++ " -> " ++ quotedName target ++ match kept with
    | some name => " (backup: " ++ quotedName name ++ ")"
    | none => ""

/-- Gives a copy what it keeps of its source. -/
def keepAttributes (c : Call) (k : Copying) (target : String) (src : Status) : Work Unit := do
  let files ← Work.files
  match c.statusIn files false target with
  | .error _ => pure ()
  | .ok dst =>
    let node := if k.keepsMode then dst.node.withMode src.node.mode else dst.node
    let files := if k.keepsMode then files.set dst.place node else files
    Work.putFiles
      (if k.keepsTimes then files.withDates dst.number (files.datesOf src.number) else files)

/-- Writes a copy of a file. -/
def copyContent (c : Call) (k : Copying) (source target : String) (src : Status)
    (there : Option Status) : Work Bool := do
  let files ← Work.files
  match ({ c with files := files } : Call).fileContent source with
  | .fault text =>
    c.complain ("cannot open " ++ quotedName source ++ " for reading: " ++ text)
    return false
  | content =>
    let bytes := match content with
      | .bytes data => data
      | _ => []
    let cannot := fun (e : Errno) => do
      c.complain ("cannot create regular file " ++ quotedName target ++ ": " ++ e.text)
      return false
    let create : Work Bool := do
      let files ← Work.files
      let isLink := (c.statusIn files false target).toOption.any fun st => st.node.isLink
      let mode := c.newModeOf (if k.installing then 0o600 else src.node.mode &&& 0o777)
      if isLink then
        c.complain ("not writing through dangling symlink " ++ quotedName target)
        return false
      else
        match ← Work.attempt (files.makeEntry c.cwd (outward target) (.file bytes mode)) with
        | none => return true
        | some e => cannot (if e = .noEntry ∧ target.toList.getLast? = some '/' then .notDirectory else e)
    match there with
    | none => create
    | some dst =>
      match dst.node with
      | .file old mode =>
        if files.permits dst.place .write then
          let isDevice := (markedDevice? old).isSome
          unless isDevice ∨ k.attributesOnly do
            Work.putFiles (files.rewrite dst.place (.file bytes mode))
          return true
        else if k.force then
          match ← Work.attempt (files.removeFile c.cwd (outward target)) with
          | none =>
            if k.verbose then Work.say ("removed " ++ quotedName target)
            create
          | some e =>
            c.complain ("cannot remove " ++ quotedName target ++ ": " ++ e.text)
            return false
        else cannot .accessDenied
      | _ => return true

/-- Makes a link where a copy would stand. -/
def linkCopy (c : Call) (k : Copying) (source target : String) (node : Node) (what : String)
    (fault : String) : Work Bool := do
  let force := k.force || k.overwriting = .ask
  let files ← Work.files
  let make := fun (files : FileTree) => match node with
    | .link _ => files.makeEntry c.cwd (outward target) node
    | _ => files.makeName c.cwd (k.following ≠ .never) (outward source) (outward target)
  let first ← Work.attempt (make files)
  let result ← if first = some .fileExists ∧ force then
      Work.attempt ((files.removeFile c.cwd (outward target)).bind make)
    else pure first
  match result with
  | none => return true
  | some e =>
    c.complain ("cannot create " ++ what ++ " " ++ fault ++ ": " ++ e.text)
    return false

/-- Makes a pipe with the name of a copy. -/
def copyPipe (c : Call) (target : String) (mode : Nat) : Work Bool := do
  let made := (← Work.files).makeEntry c.cwd (outward target) (.pipe (c.newModeOf mode))
  match ← Work.attempt made with
  | none => return true
  | some e =>
    c.complain ("cannot create fifo " ++ quotedName target ++ ": " ++ e.text)
    return false

/-- Copies what is no directory, or makes a link in place of a copy. -/
def copyPlain (c : Call) (k : Copying) (source target : String) (src : Status)
    (there : Option Status) : Work Bool := do
  let both := quotedName target ++ " to " ++ quotedName source
  if k.symbolicLinks then
    if source.toList.head? ≠ some '/' ∧ target.toList.contains '/' then
      c.complain (shownName target ++ ": can make relative symbolic links only in current directory")
      return false
    c.linkCopy k source target (.link (outward source)) "symbolic link" both
  else
    match src.node with
    | .link text =>
      let good ← c.linkCopy k source target (.link text) "symbolic link" (quotedName target)
      if good then c.keepAttributes { k with keepsMode := false } target src
      return good
    | node =>
      if k.hardLinks then c.linkCopy k source target node "hard link" both
      else
        let good ← match node, k.recursive with
          | .pipe mode, true => c.copyPipe target mode
          | _, _ => c.copyContent k source target src there
        if good then c.keepAttributes k target src
        return good

/-- Copies a file, or a directory with all that is in it. The operand and its target are the ones
that the work began with. -/
def copyTree (c : Call) (operand top : String) : Nat → Copying → String → String → Bool → Bool →
    List Nat → CopyTask Bool
  | 0, _, _, _, _, _, _ => return false
  | fuel + 1, k, source, target, isFresh, isOperand, above => do
    match ← c.status (k.following ≠ .never) source with
    | .error e =>
      c.complain ("cannot stat " ++ quotedName source ++ ": " ++ e.text)
      return false
    | .ok src =>
      let isDirectory := src.node.isDirectory
      if isDirectory ∧ !k.recursive then
        c.complain ((if k.installing then "" else "-r not specified; ") ++ "omitting directory " ++
          quotedName source)
        return false
      if isOperand ∧ !isDirectory ∧ k.backup = .none then
        if (← get).seen.contains src.number then
          c.warn ("warning: source file " ++ quotedName source ++ " specified more than once")
          return true
        modify fun s => { s with seen := src.number :: s.seen }
      let judged ← if isFresh then pure (TargetState.free none)
        else c.judgeTarget k source target src isOperand
      let (there, kept) := match judged with
        | .taken st => (some st, none)
        | .free kept => (none, kept)
        | .settled _ => (none, none)
      if let .settled good := judged then return good
      if isOperand ∧ k.backup = .none then
        if let .ok st ← c.status false target then
          if st.node.isLink ∧ (← get).made.contains (target, st.number) then
            c.complain ("will not copy " ++ quotedName source ++ " through just-created symlink " ++
              quotedName target)
            return false
      if k.verbose ∧ !isDirectory then Work.say (arrow source target kept)
      -- What has been copied before is linked, or told apart from what is in the way.
      let earlier := (← get).targets.lookup src.number
      let names := (← Work.files).nameCount src.number
      let isMapped := if isDirectory then k.recursive
        else k.keepsLinks && (1 < names || k.following = .always ||
          (isOperand && k.following = .operands))
      let earlier := if isMapped then earlier else none
      if isMapped ∧ earlier.isNone ∧ (isOperand ∨ !isDirectory) then
        modify fun s => { s with targets := (src.number, target) :: s.targets }
      let placeOf := fun (path : String) => do
        return (← c.status false path).toOption.map (·.place)
      match earlier with
      | some before =>
        if isDirectory = false then
          return ← c.linkCopy { k with force := true, following := .never } before target src.node
            "hard link" (quotedName target ++ " to " ++ quotedName before)
        if (← placeOf source) = (← placeOf before) then
          c.complain ("cannot copy a directory, " ++ quotedName operand ++ ", into itself, " ++
            quotedName top)
          return false
        if (← placeOf target) = (← placeOf before) then
          c.warn ("warning: source directory " ++ quotedName operand ++ " specified more than once")
          return true
        if !(k.following = .always ∨ (isOperand ∧ k.following = .operands)) then
          c.complain ("will not create hard link " ++ quotedName target ++ " to directory " ++
            quotedName before)
          return false
      | none => pure ()
      match src.node with
      | .directory mode =>
        if above.contains src.number then
          c.complain ("cannot copy cyclic symbolic link " ++ quotedName source)
          return false
        let isNew := there.isNone
        if isNew then
          let made := (← Work.files).makeDirectory c.cwd (outward (withoutSlashes target))
            ((c.newModeOf (mode &&& 0o777) ||| (mode &&& 0o1000)) ||| 0o700)
          if let some e ← Work.attempt made then
            c.complain ("cannot create directory " ++ quotedName target ++ ": " ++ e.text)
            return false
          if !(← get).isNoted then
            if let .ok st ← c.status false target then
              modify fun s => { s with targets := (st.number, target) :: s.targets, isNoted := true }
          if k.verbose then Work.say (arrow source target none)
        let inner := if k.following = .operands then { k with following := .never } else k
        let mut good := true
        match (← Work.files).list c.cwd (outward source) with
        | .error e =>
          c.complain ("cannot access " ++ quotedName source ++ ": " ++ e.text)
          good := false
        | .ok names =>
          for name in names do
            let done ← copyTree c operand top fuel inner (inDirectory source (inward name))
              (inDirectory target (inward name)) isNew false (src.number :: above)
            good := good && done
        if isNew ∧ !k.keepsMode then
          let files ← Work.files
          if let .ok dst := c.statusIn files true target then
            Work.putFiles (files.set dst.place (.directory
              (c.newModeOf (mode &&& 0o777) ||| (mode &&& 0o1000))))
        if isNew ∨ k.keepsMode ∨ k.keepsTimes then c.keepAttributes k target src
        return good
      | _ =>
        let good ← c.copyPlain k source target src there
        if good ∧ isOperand then
          if let .ok st ← c.status false target then
            modify fun s => { s with made := (target, st.number) :: s.made }
        return good

/-- Moves a file or a directory. -/
def moveEntry (c : Call) (k : Copying) (source target : String) : CopyTask Unit := do
  match ← c.status false source with
  | .error e => c.complain ("cannot stat " ++ quotedName source ++ ": " ++ e.text)
  | .ok src =>
    let bare := withoutSlashes target
    let judgedAt := if src.node.isDirectory then bare else target
    match ← c.judgeTarget k source judgedAt src true with
    | .settled _ => pure ()
    | judged =>
      let kept := match judged with
        | .free kept => kept
        | _ => none
      let files ← Work.files
      let isMarked := bare ≠ target ∧ !src.node.isDirectory
      let moved := if isMarked then (.error .notDirectory : Except Errno FileTree)
        else files.rename c.cwd (outward (withoutSlashes source)) (outward bare)
      match ← Work.attempt moved with
      | none =>
        if k.verbose then Work.say ("renamed " ++ arrow source target kept)
        modify fun s => { s with made := (target, src.number) :: s.made }
      | some .invalidArgument =>
        c.complain ("cannot move " ++ quotedName source ++ " to a subdirectory of itself, " ++
          quotedName target)
      | some e => c.complain ("cannot move " ++ quotedName source ++ " to " ++ quotedName target ++
          ": " ++ e.text)

/-- Makes the directories for a copy that keeps the path of its source. -/
def copyFronts (c : Call) (k : Copying) (directory source : String) : Work Bool := do
  for front in frontPaths source do
    let target := inDirectory directory front
    match ← c.status true target with
    | .ok st =>
      if st.node.isDirectory = false then
        c.complain (quotedName target ++ " exists but is not a directory")
        return false
    | .error _ =>
      match ← c.status true front with
      | .error e =>
        c.complain ("failed to get attributes of " ++ quotedName front ++ ": " ++ e.text)
        return false
      | .ok src =>
        let mode := c.newModeOf (src.node.mode &&& 0o777)
        match ← Work.attempt ((← Work.files).makeDirectory c.cwd (outward target) mode) with
        | none => if k.verbose then Work.say (front ++ " -> " ++ target)
        | some e =>
          c.complain ("cannot make directory " ++ quotedName target ++ ": " ++ e.text)
          return false
  return true

/-- How a target is kept, as a word says it. -/
def backupOf? (word : String) : Option Backup :=
  match word with
  | "none" | "off" => some .none
  | "simple" | "never" => some .simple
  | "existing" | "nil" | "" => some .existing
  | "numbered" | "t" => some .numbered
  | _ => none

/-- How targets are kept, as options and the environment say it. -/
def backupChoice (c : Call) (o : Options) : Backup × String :=
  let suffix := match o.value? 'S' with
    | some s => s
    | none => (c.environment.get? "SIMPLE_BACKUP_SUFFIX").getD "~"
  let word := match o.value? 'β' with
    | some "" | none => (c.environment.get? "VERSION_CONTROL").getD "existing"
    | some word => word
  let asked := o.has 'b' || o.has 'S' || o.has 'β'
  (if asked then (backupOf? word).getD .existing else .none, if suffix = "" then "~" else suffix)

/-- The directory that the last of some operands names, with the operands for it; or the operand
that they are for, or a complaint. -/
def sortOperands (c : Call) (o : Options) (operands : List String) :
    Except (String × Bool) (Option String × List String) :=
  if o.has 'T' then
    match operands, o.has 't' with
    | _, true => .error
      ("cannot combine --target-directory (-t) and --no-target-directory (-T)", false)
    | [], _ => .error ("missing file operand", true)
    | [source], _ => .error ("missing destination file operand after " ++ quotedName source, true)
    | [_, _], _ => .ok (none, operands)
    | _ :: _ :: extra :: _, _ => .error ("extra operand " ++ quotedName extra, true)
  else
    match o.value? 't', operands.reverse with
    | some _, [] => .error ("missing file operand", true)
    | some directory, _ =>
      if c.isDirectory c.files directory then .ok (some directory, operands)
      else
        let e := match c.statusIn c.files true directory with
          | .ok _ => Errno.notDirectory
          | .error e => e
        .error ((if c.title = "install" then "failed to access " else "target directory ") ++
          quotedName directory ++ ": " ++ e.text, false)
    | none, [] => .error ("missing file operand", true)
    | none, [source] =>
      .error ("missing destination file operand after " ++ quotedName source, true)
    | none, target :: rest =>
      if c.isDirectory c.files target then .ok (some target, rest.reverse)
      else if rest.length = 1 then .ok (none, operands)
      else
        let e := match c.statusIn c.files true target with
          | .ok _ => Errno.notDirectory
          | .error e => e
        .error ("target " ++ quotedName target ++ ": " ++ e.text, false)

/-- Copies or moves what operands name. -/
def copyOperands (c : Call) (o : Options) (k : Copying)
    (one : String → String → CopyTask Unit) : Progress :=
  match c.sortOperands o o.operands with
  | .error (text, true) => c.misused 1 text
  | .error (text, false) => c.fails 1 text
  | .ok (directory, operands) => c.perform do
    let run : CopyTask Unit := match directory, operands with
      | some directory, operands => operands.forM fun source => do
        modify fun s => { s with isNoted := false }
        let source := if o.has 'α' then withoutSlashes source else source
        if o.has 'π' then
          if ← c.copyFronts k directory source then
            one source (inDirectory directory (withoutSlashes source))
        else
          let base := lastPiece source
          one source (if base = ".." ∧ !k.moving then directory else inDirectory directory base)
      | none, source :: target :: _ =>
        one (if o.has 'α' then withoutSlashes source else source) target
      | none, _ => pure ()
    let _ ← run.run {}

/-- The last of some options that was given decides what happens to targets. -/
def overwritingOf (o : Options) : Overwriting :=
  match o.last? ['f', 'i', 'n'] with
  | some 'i' => .ask
  | some 'n' => .never
  | _ => .usual

/-- The names of options that copying and moving share. -/
def copyNames : List (String × Char) :=
  [("backup", 'β'), ("force", 'f'), ("interactive", 'i'), ("no-clobber", 'n'), ("verbose", 'v'),
    ("suffix", 'S'), ("update", 'u'), ("target-directory", 't'), ("no-target-directory", 'T'),
    ("strip-trailing-slashes", 'α')]

/-- Copies files. -/
def cp (c : Call) : Progress :=
  let g : Grammar := {
    letters := "abdfHilLnprst:uvxPRS:TZαβ::πρσ::τ:φωκ::"
    names := copyNames ++ [("archive", 'a'), ("dereference", 'L'), ("link", 'l'),
      ("no-dereference", 'P'), ("recursive", 'r'), ("symbolic-link", 's'), ("parents", 'π'),
      ("remove-destination", 'ρ'), ("preserve", 'σ'), ("no-preserve", 'τ'),
      ("attributes-only", 'φ'), ("one-file-system", 'x'), ("copy-contents", 'ω'),
      ("reflink", 'κ'), ("sparse", 'κ')] }
  c.withOptions 1 g fun o =>
    let recursive := o.has 'r' || o.has 'R' || o.has 'a'
    let following := match o.last? ['H', 'L', 'P', 'd', 'a'] with
      | some 'H' => Following.operands
      | some 'L' => .always
      | some _ => .never
      | none => if recursive ∧ !o.has 'l' then .never else .always
    let words := fun (letter : Char) => ((o.value? letter).getD "").splitOn ","
    let keeps := fun (word : String) =>
      let kept := o.has 'σ' && ((words 'σ').contains word || (words 'σ').contains "all" ||
        (words 'σ' = [""] && word ≠ "links"))
      let dropped := o.has 'τ' && ((words 'τ').contains word || (words 'τ').contains "all")
      !dropped && (o.has 'a' || (o.has 'p' && word ≠ "links") || kept || (o.has 'd' && word = "links"))
    let (backup, suffix) := c.backupChoice o
    let k : Copying := {
      following := following, recursive := recursive, overwriting := overwritingOf o
      force := o.has 'f', removeFirst := o.has 'ρ', update := o.has 'u', hardLinks := o.has 'l'
      symbolicLinks := o.has 's', keepsMode := keeps "mode", keepsTimes := keeps "timestamps"
      keepsLinks := keeps "links", attributesOnly := o.has 'φ', verbose := o.has 'v'
      backup := backup, suffix := suffix }
    if o.has 'l' ∧ o.has 's' then c.misused 1 "cannot make both hard and symbolic links"
    else if o.has 'n' ∧ backup ≠ .none ∧ k.overwriting = .never then
      c.misused 1 "options --backup and --no-clobber are mutually exclusive"
    else if o.has 'π' ∧ (o.has 't' = false ∧ 2 ≤ o.operands.length ∧
        c.isDirectory c.files (o.operands.getLastD "") = false) then
      c.misused 1 "with --parents, the destination must be a directory"
    else c.copyOperands o k fun source target => do
      let fuel := (← Work.files).entries.length + 100
      if !(← c.copyTree source target fuel k source target false true []) then Work.markFailed

/-- Moves files. -/
def mv (c : Call) : Progress :=
  let g : Grammar := {
    letters := "bfint:uvS:TZαβ::ω", names := copyNames ++ [("no-copy", 'ω')] }
  c.withOptions 1 g fun o =>
    let (backup, suffix) := c.backupChoice o
    let k : Copying := {
      moving := true, following := .never, recursive := true, overwriting := overwritingOf o
      force := true, update := o.has 'u', verbose := o.has 'v', backup := backup, suffix := suffix }
    if backup ≠ .none ∧ k.overwriting = .never then
      c.misused 1 "options --backup and --no-clobber are mutually exclusive"
    else c.copyOperands o k (c.moveEntry k)

/-- Copies files and gives them a mode, or makes directories. -/
def install (c : Call) : Progress :=
  let g : Grammar := {
    letters := "bcsDdg:m:o:pt:TvCS:Zβ::σ:"
    names := [("backup", 'β'), ("compare", 'C'), ("directory", 'd'), ("group", 'g'), ("mode", 'm'),
      ("no-target-directory", 'T'), ("owner", 'o'), ("preserve-timestamps", 'p'), ("strip", 's'),
      ("strip-program", 'σ'), ("suffix", 'S'), ("target-directory", 't'), ("verbose", 'v')] }
  c.withOptions 1 g fun o =>
    let text := (o.value? 'm').getD "755"
    let (backup, suffix) := c.backupChoice o
    let k : Copying := {
      installing := true, removeFirst := true, keepsTimes := o.has 'p', verbose := o.has 'v'
      backup := backup, suffix := suffix, force := true }
    let bare := { c with umask := 0 }
    match ModeChange.ofText? text.toList with
    | none => c.fails 1 ("invalid mode " ++ quotedText text)
    | some changes =>
      let directoryPlan : DirectoryPlan := {
        mode := adjustMode changes 0 true 0, frontMode := 0o755, verbose := o.has 'v' }
      let frontPlan : DirectoryPlan := { mode := 0o755, frontMode := 0o755, verbose := o.has 'v' }
      let makeDirectories := fun (c : Call) (plan : DirectoryPlan) (path : String) => do
        for front in frontPaths path ++ [path] do
          let isLast := front = path
          match ← Work.attempt ((← Work.files).makeDirectory c.cwd (outward (withoutSlashes front))
            (if isLast then plan.mode else plan.frontMode)) with
          | none => if plan.verbose then
              Work.say (c.title ++ ": creating directory " ++ quotedName front)
          | some e =>
            if c.isDirectory (← Work.files) front then
              if isLast then
                Work.putFiles (((← Work.files).setMode c.cwd (outward front)
                  plan.mode).toOption.getD (← Work.files))
            else
              c.complain ("cannot create directory " ++ quotedName front ++ ": " ++
                (if e = .fileExists ∧ !isLast then Errno.notDirectory else e).text)
              return
      if o.has 'd' then
        if o.operands = [] then c.misused 1 "missing file operand"
        else if o.has 't' then
          c.misused 1 "target directory not allowed when installing a directory"
        else c.forEach o.operands fun path => makeDirectories bare directoryPlan path
      else
        let one := fun (source target : String) => (do
          let before := (c.statusIn (← Work.files) false target).toOption
          let isCurrent := o.has 'C' && match c.statusIn (← Work.files) true source, before with
            | .ok ⟨_, .file new _, _⟩, some ⟨_, .file old mode, _⟩ =>
              new == old && mode == adjustMode changes 0 false 0
            | _, _ => false
          unless isCurrent do
            if ← c.copyTree source target 2 k source target false true [] then
              let files ← Work.files
              if let .ok st := c.statusIn files true target then
                let files := files.set st.place (st.node.withMode (adjustMode changes 0 false 0))
                Work.putFiles files
            else Work.markFailed : CopyTask Unit)
        let front := match o.value? 't', o.operands with
          | some directory, _ => if o.has 'D' then some directory else none
          | none, [_, target] =>
            if o.has 'D' then (frontPaths target).getLast? else none
          | _, _ => none
        match front with
        | none => c.copyOperands o k one
        | some front =>
          let made := bare.perform (makeDirectories bare frontPlan front)
          match made.next with
          | .done 0 _ =>
            let rest := ({ c with files := made.files } : Call).copyOperands o k one
            { rest with writes := made.writes ++ rest.writes }
          | _ => made

end NativeBuild.Machine.Call
