import NativeBuild.Machine.Utility.Amount

/-
  Utilities that tell who is working and on what: users and groups, the system and its machine, its
  settings, and whether a terminal is there.
-/

namespace NativeBuild.Machine

/-- A user of the system. -/
structure User where
  name : String
  number : Nat
  group : Nat

/-- The users that a plain system has. -/
def users : List User :=
  [⟨"root", 0, 0⟩, ⟨"daemon", 1, 1⟩, ⟨"bin", 2, 2⟩, ⟨"sys", 3, 3⟩, ⟨"sync", 4, 65534⟩,
    ⟨"games", 5, 60⟩, ⟨"man", 6, 12⟩, ⟨"lp", 7, 7⟩, ⟨"mail", 8, 8⟩, ⟨"news", 9, 9⟩, ⟨"uucp", 10, 10⟩,
    ⟨"proxy", 13, 13⟩, ⟨"www-data", 33, 33⟩, ⟨"backup", 34, 34⟩, ⟨"list", 38, 38⟩, ⟨"irc", 39, 39⟩,
    ⟨"_apt", 42, 65534⟩, ⟨"nobody", 65534, 65534⟩]

/-- The groups that a plain system has. -/
def groupNames : List (Nat × String) :=
  [(0, "root"), (1, "daemon"), (2, "bin"), (3, "sys"), (4, "adm"), (5, "tty"), (6, "disk"), (7, "lp"),
    (8, "mail"), (9, "news"), (10, "uucp"), (12, "man"), (13, "proxy"), (15, "kmem"), (20, "dialout"),
    (21, "fax"), (22, "voice"), (24, "cdrom"), (25, "floppy"), (26, "tape"), (27, "sudo"),
    (29, "audio"), (30, "dip"), (33, "www-data"), (34, "backup"), (37, "operator"), (38, "list"),
    (39, "irc"), (40, "src"), (42, "shadow"), (43, "utmp"), (44, "video"), (45, "sasl"),
    (46, "plugdev"), (50, "staff"), (60, "games"), (100, "users"), (65534, "nogroup")]

namespace User

/-- The name of the group of a user. -/
def groupName (u : User) : String := (groupNames.lookup u.group).getD (toString u.group)

/-- The user of a name. -/
def named? (name : String) : Option User := users.find? fun u => u.name == name

/-- The user of a name or a number. -/
def given? (text : String) : Option User :=
  (named? text).or ((natural? text.toList).bind fun n => users.find? fun u => u.number == n)

/-- A user with group and groups. -/
def shown (u : User) : String :=
  let group := toString u.group ++ "(" ++ u.groupName ++ ")"
  "uid=" ++ toString u.number ++ "(" ++ u.name ++ ") gid=" ++ group ++ " groups=" ++ group

/-- The user who works. -/
def working : User := ⟨"root", 0, 0⟩

end User

namespace Call

/-- Tells about users: who is working, or those that are named. -/
def id (c : Call) : Progress :=
  let g : Grammar := {
    letters := "aGgnruzZ"
    names := [("context", 'Z'), ("group", 'g'), ("groups", 'G'), ("name", 'n'), ("real", 'r'),
      ("user", 'u'), ("zero", 'z')] }
  let refuse := fun (letter : Char) (_ : String) =>
    if letter = 'Z' then
      some (c.fails 1 "--context (-Z) works only on an SELinux-enabled kernel")
    else none
  c.withChecked 1 g refuse fun o =>
    let chosen := ['u', 'g', 'G'].filter o.has
    if 1 < chosen.length then c.fails 1 "cannot print \"only\" of more than one choice"
    else if chosen = [] ∧ (o.has 'r' ∨ o.has 'n') then
      c.fails 1 "cannot print only names or real IDs in default format"
    else if chosen = [] ∧ o.has 'z' then c.fails 1 "option --zero not permitted in default format"
    else
      let stop := if o.has 'z' then "\x00" else "\n"
      let line := fun (u : User) =>
        (1, toBytes ((match chosen with
          | ['u'] => if o.has 'n' then u.name else toString u.number
          | [] => u.shown
          | _ => if o.has 'n' then u.groupName else toString u.group) ++ stop).toList)
      if o.operands = [] then c.ends 0 [line .working]
      else
        let found := o.operands.map fun text => (text, User.given? text)
        c.ends (if found.all fun (_, u) => u.isSome then 0 else 1)
          (found.map fun (text, u) =>
            match u with
            | some u => line u
            | none => c.message (quotedText text ++ ": no such user"))

/-- Prints the groups of users. -/
def groups (c : Call) : Progress :=
  c.withOptions 1 { letters := "" } fun o =>
    if o.operands = [] then c.prints "root\n"
    else
      let found := o.operands.map fun text => (text, User.named? text)
      c.ends (if found.all fun (_, u) => u.isSome then 0 else 1)
        (found.map fun (text, u) =>
          match u with
          | some u => (1, toBytes (u.name ++ " : " ++ u.groupName ++ "\n").toList)
          | none => c.message (quotedText text ++ ": no such user"))

/-- Acts if there are neither options nor other arguments. -/
def withoutArguments (c : Call) (act : Progress) : Progress :=
  c.withOptions 1 { letters := "" } fun o =>
    match o.operands with
    | extra :: _ => c.misused 1 ("extra operand " ++ quotedText extra)
    | [] => act

/-- Tells about the system: its name, the machine's name, and the kind of machine. -/
def uname (c : Call) : Progress :=
  let g : Grammar := {
    letters := "asnrvmpio"
    names := [("all", 'a'), ("kernel-name", 's'), ("sysname", 's'), ("nodename", 'n'),
      ("kernel-release", 'r'), ("release", 'r'), ("kernel-version", 'v'), ("machine", 'm'),
      ("processor", 'p'), ("hardware-platform", 'i'), ("operating-system", 'o')] }
  c.withOptions 1 g fun o =>
    let parts := [('s', "Linux"), ('n', "localhost"), ('r', "6.1.0"), ('v', "#1 SMP"),
      ('m', "x86_64"), ('p', "unknown"), ('i', "unknown"), ('o', "GNU/Linux")]
    let wanted := fun (letter : Char) =>
      if o.has 'a' then o.has letter || (letter != 'p' && letter != 'i')
      else o.has letter || (o.given = [] && letter == 's')
    match o.operands with
    | extra :: _ => c.misused 1 ("extra operand " ++ quotedText extra)
    | [] =>
      let shown := (parts.filter fun (letter, _) => wanted letter).map (·.2)
      c.prints (" ".intercalate shown ++ "\n")

/-- Prints how many processors there are to work with. -/
def nproc (c : Call) : Progress :=
  let g : Grammar := { letters := "αβ:", names := [("all", 'α'), ("ignore", 'β')] }
  let refuse := fun (letter : Char) (value : String) =>
    if letter ≠ 'β' then none
    else
      match amount? "" value with
      | .ok _ => none
      | .error fault => some (c.refusesAmount 1 "invalid number" value fault)
  c.withChecked 1 g refuse fun o =>
    match o.operands with
    | extra :: _ => c.misused 1 ("extra operand " ++ quotedText extra)
    | [] =>
      let asked := fun (name : String) => (c.environment.get? name).bind fun value =>
        let cs := value.toList.dropWhile isSpace
        let digits := cs.takeWhile Char.isDigit
        let rest := (cs.drop digits.length).dropWhile isSpace
        if digits ≠ [] ∧ (rest = [] ∨ rest.head? = some ',') then some (ofDigits 10 digits) else none
      let there := if o.has 'α' then 4
        else min (((asked "OMP_NUM_THREADS").filter (0 < ·)).getD 4)
          (((asked "OMP_THREAD_LIMIT").filter (0 < ·)).getD (Nat.pow 2 63))
      let ignored := ((o.value? 'β').bind fun value => (amount? "" value).toOption).getD 0
      c.prints (toString (max 1 (there - ignored)) ++ "\n")

/-- Tells which terminal standard input is: none. -/
def tty (c : Call) : Progress :=
  let g : Grammar := { letters := "s", names := [("silent", 's'), ("quiet", 's')] }
  c.withOptions 2 g fun o =>
    match o.operands with
    | extra :: _ => c.misused 2 ("extra operand " ++ quotedText extra)
    | [] => c.ends 1 (if o.has 's' then [] else [(1, toBytes "not a tty\n".toList)])

/-- Writes back what is held of files, which has no effect here; files that are named must be
there. -/
def sync (c : Call) : Progress :=
  let g : Grammar := { letters := "df", names := [("data", 'd'), ("file-system", 'f')] }
  c.withOptions 1 g fun o =>
    if o.has 'd' ∧ o.has 'f' then c.fails 1 "cannot specify both --data and --file-system"
    else if o.has 'd' ∧ o.operands = [] then c.fails 1 "--data needs at least one argument"
    else
      let faults := o.operands.filterMap fun path =>
        match c.fileContent path with
        | .fault text => if text = Errno.isDirectory.text then none
          else some (c.message ("error opening " ++ quotedName path ++ ": " ++ text))
        | _ => none
      c.ends (if faults = [] then 0 else 1) faults

/-- Settings of the system. -/
def settings : List (String × String) :=
  [("ARG_MAX", "2097152"), ("CHAR_BIT", "8"), ("CHAR_MAX", "127"), ("CHAR_MIN", "-128"),
    ("CLK_TCK", "100"), ("INT_MAX", "2147483647"), ("INT_MIN", "-2147483648"), ("IOV_MAX", "1024"),
    ("LINE_MAX", "2048"), ("LOGIN_NAME_MAX", "256"), ("LONG_BIT", "64"), ("NGROUPS_MAX", "65536"),
    ("PAGESIZE", "4096"), ("PAGE_SIZE", "4096"), ("PATH", "/bin:/usr/bin"), ("CS_PATH", "/bin:/usr/bin"),
    ("SCHAR_MAX", "127"), ("SCHAR_MIN", "-128"), ("SHRT_MAX", "32767"), ("SHRT_MIN", "-32768"),
    ("SSIZE_MAX", "32767"), ("TZNAME_MAX", "undefined"), ("UCHAR_MAX", "255"), ("UINT_MAX", "4294967295"),
    ("ULONG_MAX", "18446744073709551615"), ("USHRT_MAX", "65535"), ("WORD_BIT", "32"),
    ("_POSIX_VERSION", "200809"), ("_POSIX2_VERSION", "200809"), ("HOST_NAME_MAX", "64"),
    ("GNU_LIBC_VERSION", "glibc 2.36"), ("OPEN_MAX", "1048576"), ("_NPROCESSORS_ONLN", "4"),
    ("_NPROCESSORS_CONF", "4")]

/-- Settings that files have. -/
def fileSettings : List (String × String) :=
  [("NAME_MAX", "255"), ("PATH_MAX", "4096"), ("PIPE_BUF", "4096"), ("LINK_MAX", "127"),
    ("FILESIZEBITS", "64"), ("SYMLINK_MAX", "undefined")]

/-- Prints a setting. -/
def getconf (c : Call) : Progress :=
  let usage := (2, toBytes ("Usage: " ++ c.title ++
    " [-v specification] variable_name [pathname]\n       " ++ c.title ++
    " -a [pathname]\n").toList)
  match c.arguments with
  | [name] =>
    match settings.lookup name with
    | some value => c.prints (value ++ "\n")
    | none =>
      if (fileSettings.lookup name).isSome then c.ends 2 [usage]
      else c.fails 2 ("Unrecognized variable \x60" ++ name ++ "\x27")
  | [name, path] =>
    match fileSettings.lookup name with
    | some value =>
      match c.files.reach c.cwd true (outward path) with
      | .ok (.found _ _) => c.prints (value ++ "\n")
      | .ok (.missing _ _) => c.fails 3 ("pathconf: " ++ path ++ ": " ++ Errno.noEntry.text)
      | .error e => c.fails 3 ("pathconf: " ++ path ++ ": " ++ e.text)
    | none =>
      if (settings.lookup name).isSome then c.ends 2 [usage]
      else c.fails 2 ("Unrecognized variable \x60" ++ name ++ "\x27")
  | _ => c.ends 2 [usage]

end Call

end NativeBuild.Machine
