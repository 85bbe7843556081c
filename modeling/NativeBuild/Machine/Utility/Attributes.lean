import NativeBuild.Machine.Calendar.Reading
import NativeBuild.Machine.Utility.Links

/-
  What is known of files beside their content: `chmod` changes their modes, `chown` and `chgrp` say
  whose they are, and `touch` dates them.
-/

namespace NativeBuild.Machine.Call

/-- The zone that a call works in. -/
def zone (c : Call) : Calendar.Zone := Calendar.Zone.ofName (c.environment.get? "TZ")

/-- Does something for a file and, when asked to, for all below it. -/
def withTree (c : Call) (recursive : Bool) (act : String → Status → Work Unit) :
    Nat → String → Status → Work Unit
  | 0, _, _ => return
  | fuel + 1, path, st => do
    act path st
    if recursive ∧ st.node.isDirectory then
      match (← Work.files).list c.cwd (outward path) with
      | .error e => c.complain ("cannot read directory " ++ quotedName path ++ ": " ++ e.text)
      | .ok names =>
        for name in names do
          let inner := inDirectory path (inward name)
          match ← c.status false inner with
          | .ok st => withTree c recursive act fuel inner st
          | .error e => c.complain ("cannot access " ++ quotedName inner ++ ": " ++ e.text)

/-- A mode in digits and in letters. -/
def shownMode (mode : Nat) : String :=
  octalText 4 mode ++ " (" ++ String.ofList (permissionLetters mode) ++ ")"

/-- How `chmod` changes modes. -/
structure ModeTask where
  changes : List ModeChange
  verbose : Bool
  /-- Only changes are told. -/
  changesOnly : Bool
  quiet : Bool
  /-- The mode was given as an option, so that the mask may lead to something unexpected. -/
  isOption : Bool

/-- Changes the mode of one file. -/
def changeMode (c : Call) (k : ModeTask) (path : String) (st : Status) : Work Unit := do
  unless st.node.isLink do
    let old := st.node.mode
    let isDirectory := st.node.isDirectory
    let new := adjustMode k.changes old isDirectory c.umask
    let files ← Work.files
    Work.putFiles (files.set st.place (st.node.withMode new))
    if old ≠ new ∧ (k.verbose ∨ k.changesOnly) then
      Work.say ("mode of " ++ quotedName path ++ " changed from " ++ shownMode old ++ " to " ++
        shownMode new)
    else if k.verbose then
      Work.say ("mode of " ++ quotedName path ++ " retained as " ++ shownMode old)
    let naive := adjustMode k.changes old isDirectory 0
    if k.isOption ∧ withoutBits new naive ≠ 0 then
      c.complain (shownName path ++ ": new permissions are " ++
        String.ofList (permissionLetters new) ++ ", not " ++ String.ofList (permissionLetters naive))

/-- Changes the modes of files. -/
def chmod (c : Call) : Progress :=
  let isMode := fun (a : String) => match a.toList with
    | '-' :: ch :: _ => "rwxXstugoa,+=01234567".toList.contains ch
    | _ => false
  let front := c.arguments.takeWhile (· ≠ "--")
  let given := front.filter isMode
  let c' := { c with
    arguments := front.filter (fun a => !isMode a) ++ c.arguments.drop front.length }
  let g : Grammar := {
    letters := "cfvRα:βγ"
    names := [("recursive", 'R'), ("verbose", 'v'), ("changes", 'c'), ("quiet", 'f'),
      ("silent", 'f'), ("reference", 'α'), ("preserve-root", 'β'), ("no-preserve-root", 'γ')] }
  c'.withOptions 1 g fun o =>
    let run := fun (changes : List ModeChange) (operands : List String) =>
      let k : ModeTask := {
        changes := changes, verbose := o.last? ['v', 'c'] == some 'v'
        changesOnly := o.last? ['v', 'c'] == some 'c', quiet := o.has 'f', isOption := given ≠ [] }
      c.forEach operands fun operand => do
        let fuel := (← Work.files).entries.length + 2
        match ← c.status true operand with
        | .ok st => c.withTree (o.has 'R') (c.changeMode k) fuel operand st
        | .error e =>
          let isDangling := (← c.status false operand).toOption.isSome
          if k.quiet then Work.markFailed
          else if isDangling then
            c.complain ("cannot operate on dangling symlink " ++ quotedName operand)
          else
            c.complain ("cannot access " ++ quotedName operand ++ ": " ++ e.text)
            if k.verbose then Work.say (quotedName operand ++ " could not be accessed")
    match o.value? 'α' with
    | some file =>
      if given ≠ [] then c.misused 1 "cannot combine mode and --reference options"
      else if o.operands = [] then c.misused 1 "missing operand"
      else
        match c.statusIn c.files true file with
        | .ok st => run [⟨'=', .given, allModeBits, st.node.mode, allModeBits⟩] o.operands
        | .error e => c.fails 1 ("failed to get attributes of " ++ quotedName file ++ ": " ++ e.text)
    | none =>
      let (text, operands) := if given ≠ [] then (",".intercalate given, o.operands)
        else (o.operands.headD "", o.operands.drop 1)
      match o.operands, operands with
      | [], _ => c.misused 1 (if given = [] then "missing operand"
          else "missing operand after " ++ quotedText text)
      | _, [] => c.misused 1 ("missing operand after " ++ quotedText text)
      | _, operands =>
        match ModeChange.ofText? text.toList with
        | none => c.misused 1 ("invalid mode: " ++ quotedText text)
        | some changes => run changes operands

/-- The people that are known, with their numbers. -/
def knownUsers : List (String × Nat) :=
  [("root", 0), ("daemon", 1), ("bin", 2), ("sys", 3), ("sync", 4), ("games", 5), ("man", 6),
    ("lp", 7), ("mail", 8), ("news", 9), ("uucp", 10), ("proxy", 13), ("www-data", 33),
    ("backup", 34), ("list", 38), ("irc", 39), ("_apt", 42), ("nobody", 65534)]

/-- The groups that are known, with their numbers. -/
def knownGroups : List (String × Nat) :=
  [("root", 0), ("daemon", 1), ("bin", 2), ("sys", 3), ("adm", 4), ("tty", 5), ("disk", 6),
    ("lp", 7), ("mail", 8), ("news", 9), ("uucp", 10), ("man", 12), ("proxy", 13), ("kmem", 15),
    ("dialout", 20), ("fax", 21), ("voice", 22), ("cdrom", 24), ("floppy", 25), ("tape", 26),
    ("sudo", 27), ("audio", 29), ("dip", 30), ("www-data", 33), ("backup", 34), ("operator", 37),
    ("list", 38), ("irc", 39), ("src", 40), ("shadow", 42), ("utmp", 43), ("video", 44),
    ("sasl", 45), ("plugdev", 46), ("staff", 50), ("games", 60), ("users", 100),
    ("nogroup", 65534)]

/-- The number of somebody; nothing said is nobody new. -/
def numberOfName (known : List (String × Nat)) (name : String) : Option (Option Nat) :=
  if name = "" then some none
  else
    match known.lookup name with
    | some n => some (some n)
    | none => (natural? name.toList).map some

/-- Says whose files are. Only what they are already is allowed. -/
def chown (c : Call) (groupOnly : Bool) : Progress :=
  let g : Grammar := {
    letters := "cfvRhHLPα:β:γδ"
    names := [("recursive", 'R'), ("verbose", 'v'), ("changes", 'c'), ("quiet", 'f'),
      ("silent", 'f'), ("reference", 'α'), ("from", 'β'), ("no-dereference", 'h'),
      ("dereference", 'γ'), ("preserve-root", 'δ'), ("no-preserve-root", 'δ')] }
  c.withOptions 1 g fun o =>
    let (spec, operands) := if o.has 'α' then ("", o.operands)
      else (o.operands.headD "", o.operands.drop 1)
    let (user, group) := if groupOnly then ("", spec)
      else
        let front := spec.toList.takeWhile fun ch => ch ≠ ':' ∧ ch ≠ '.'
        (String.ofList front, String.ofList (spec.toList.drop (front.length + 1)))
    let what := if groupOnly then "group" else "ownership"
    match o.operands, operands with
    | [], _ => c.misused 1 "missing operand"
    | _, [] => c.misused 1 ("missing operand after " ++ quotedText (o.operands.headD ""))
    | _, operands =>
      match numberOfName knownUsers user, numberOfName knownGroups group with
      | none, _ => c.fails 1 ("invalid user: " ++ quotedText spec)
      | _, none => c.fails 1 ("invalid group: " ++ quotedText spec)
      | some uid, some gid =>
        let isOwn := uid.getD 0 = 0 ∧ gid.getD 0 = 0
        let owner := if groupOnly then "root"
          else if group ≠ "" ∧ user ≠ "" then "root:root" else if group ≠ "" then ":root" else "root"
        c.forEach operands fun operand => do
          let fuel := (← Work.files).entries.length + 2
          match ← c.status (!o.has 'h') operand with
          | .error e =>
            let isDangling := (← c.status false operand).toOption.isSome
            if o.has 'f' then Work.markFailed
            else c.complain ((if isDangling then "cannot dereference " else "cannot access ") ++
              quotedName operand ++ ": " ++ e.text)
          | .ok st =>
            c.withTree (o.has 'R') (fun path _ => do
              if isOwn then
                if o.has 'v' then
                  Work.say (what ++ " of " ++ quotedName path ++ " retained as " ++ owner)
              else if o.has 'f' then Work.markFailed
              else c.complain ("changing " ++ what ++ " of " ++ quotedName path ++ ": " ++
                Errno.notPermitted.text)) fuel operand st

/-- Dates files, and makes those that are not there. -/
def touch (c : Call) : Progress :=
  let g : Grammar := {
    letters := "acd:fhmr:t:α:"
    names := [("no-create", 'c'), ("date", 'd'), ("reference", 'r'), ("no-dereference", 'h'),
      ("time", 'α')] }
  c.withOptions 1 g fun o =>
    let word := (o.value? 'α').getD "all"
    let isAccess := ["atime", "access", "use"].contains word
    let isChange := ["mtime", "modify"].contains word
    let onlyAccess := (o.has 'a' ∨ isAccess) ∧ !(o.has 'm' ∨ isChange)
    let onlyChange := (o.has 'm' ∨ isChange) ∧ !(o.has 'a' ∨ isAccess)
    let reference := (o.value? 'r').map fun file => (file, c.statusIn c.files (!o.has 'h') file)
    let base : Dates := match reference with
      | some (_, .ok st) => c.files.datesOf st.number
      | _ => ⟨c.files.now, c.files.now⟩
    let dated : Except String Dates := match o.value? 't', o.value? 'd' with
      | some stamp, _ =>
        match Calendar.readStamp c.zone c.files.now stamp.toList with
        | some t => .ok ⟨t, t⟩
        | none => .error ("invalid date format " ++ quotedText stamp)
      | none, some text =>
        match Calendar.readDate c.zone base.accessed text.toList,
            Calendar.readDate c.zone base.modified text.toList with
        | some a, some m => .ok ⟨a, m⟩
        | _, _ => .error ("invalid date format " ++ quotedText text)
      | none, none => .ok base
    if word ≠ "all" ∧ !isAccess ∧ !isChange then
      c.ends 1 [c.message ("invalid argument " ++ quotedText word ++ " for '--time'"),
        (2, toBytes ("Valid arguments are:\n  - 'atime', 'access', 'use'\n" ++
          "  - 'mtime', 'modify'\n").toList), c.advice]
    else
      match reference, dated with
      | some (file, .error e), _ =>
        c.fails 1 ("failed to get attributes of " ++ quotedName file ++ ": " ++ e.text)
      | _, .error text => c.fails 1 text
      | _, .ok dates =>
        if (o.has 't' ∧ (o.has 'd' ∨ o.has 'r')) then
          c.misused 1 "cannot specify times from more than one source"
        else if o.operands = [] then c.misused 1 "missing file operand"
        else c.forEach o.operands fun operand => do
          let put := fun (number : Nat) => do
            let files ← Work.files
            let old := files.datesOf number
            Work.putFiles (files.withDates number {
              accessed := if onlyChange then old.accessed else dates.accessed
              modified := if onlyAccess then old.modified else dates.modified })
          let creates := !(o.has 'c' || o.has 'h')
          unless operand = "-" do
            match ← c.status (!o.has 'h') operand with
            | .ok st => put st.number
            | .error e =>
              if !creates ∧ e = .noEntry ∧ o.has 'c' then pure ()
              else if creates ∧ operand.toList.getLast? ≠ some '/' then
                let files ← Work.files
                let made := files.writeFile c.cwd (outward operand) [] c.newMode false
                match ← Work.attempt made with
                | some e => c.complain ("cannot touch " ++ quotedName operand ++ ": " ++ e.text)
                | none => if let .ok st ← c.status true operand then put st.number
              else c.complain ("setting times of " ++ quotedName operand ++ ": " ++ e.text)

end NativeBuild.Machine.Call
