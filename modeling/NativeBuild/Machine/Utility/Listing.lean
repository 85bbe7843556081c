import NativeBuild.Machine.Utility.Date
import NativeBuild.Machine.VersionOrder

/-
  The listing of directories: names alone, one to a line or in columns, or a row for each entry
  with its permissions, its links, its owner, its size and its date.
-/

namespace NativeBuild.Machine.Call

/-- A node is a device. -/
def isDevice (node : Node) : Bool :=
  match node with
  | .file content _ => (markedDevice? content).isSome
  | _ => false

/-- The size that is known of a node. -/
def sizeOf (node : Node) : Nat :=
  match node with
  | .file content _ => if isDevice node then 0 else content.length
  | .directory _ => 4096
  | .link target => (inward target).utf8ByteSize
  | .pipe _ => 0

/-- The kind and the permissions of a node, in letters. -/
def modeLetters (node : Node) : String :=
  String.ofList ((if isDevice node then 'c' else kindLetter node) :: permissionLetters node.mode)

/-- An entry of a listing. -/
structure Listed where
  name : String
  place : Location
  node : Node
  number : Nat
  /-- How many names it has. -/
  names : Nat
  dates : Dates
  /-- What a link leads to, if that is there. -/
  goal : Option Node := none

/-- The room on the disk that an entry takes, in bytes. -/
def Listed.room (e : Listed) : Nat :=
  match e.node with
  | .file _ _ => (sizeOf e.node + 4095) / 4096 * 4096
  | .directory _ => 4096
  | _ => 0

/-- How many names the file at a place has. -/
def countNames (files : FileTree) (place : Location) (node : Node) : Nat :=
  match node with
  | .directory _ => 2 + (files.children place).countP fun e => e.2.isDirectory
  | _ => files.nameCount ((files.numberAt? place).getD 0)

/-- An entry for a node at a place. -/
def listedAt (files : FileTree) (name : String) (place : Location) (node : Node) : Listed :=
  let number := (files.numberAt? place).getD 0
  let goal := match node with
    | .link target =>
      match files.reach place.dropLast true target with
      | .ok (.found _ node) => some node
      | _ => none
    | _ => none
  { name := name, place := place, node := node, number := number
    names := countNames files place node, dates := files.datesOf number, goal := goal }

/-- The mark behind a name in a listing. -/
def nameMark (style : Char) (node : Node) : String :=
  if style = ' ' then ""
  else match node with
    | .directory _ => "/"
    | .link _ => if style = 'p' then "" else "@"
    | .pipe _ => if style = 'p' then "" else "|"
    | .file _ mode => if style = 'F' ∧ mode &&& 0o111 ≠ 0 ∧ !isDevice node then "*" else ""

/-- A number with a letter for thousands, to two digits and rounded up. -/
def humanSize (base n : Nat) : String :=
  if n < base then toString n
  else
    let units := if base = 1000 then "kMGTPE".toList else "KMGTPE".toList
    let rec_ := (List.range units.length).foldl (fun (found : Option (Nat × Nat)) k =>
      match found with
      | some f => some f
      | none =>
        let unit := Nat.pow base (k + 1)
        let tenths := (n * 10 + unit - 1) / unit
        let whole := (n + unit - 1) / unit
        if tenths < 100 then some (k, tenths)
        else if whole < base then some (k, whole * 10 + 10000000) else none) none
    match rec_ with
    | some (k, t) =>
      let unit := String.ofList [units.getD k 'E']
      if t < 10000000 then toString (t / 10) ++ "." ++ toString (t % 10) ++ unit
      else toString ((t - 10000000) / 10) ++ unit
    | none => toString n

/-- How a listing looks. -/
structure ListingStyle where
  long : Bool := false
  /-- `1`, `C`, `x` or `m`. -/
  layout : Char := '1'
  marks : Char := ' '
  quoting : Char := 'N'
  owner : Bool := true
  group : Bool := true
  numeric : Bool := false
  author : Bool := false
  numbers : Bool := false
  room : Bool := false
  /-- The base of sizes that people read. -/
  human : Option Nat := none
  width : Nat := 80
  tab : Nat := 8
  /-- The formats of dates long ago and of others. -/
  formats : String × String := ("%b %e  %Y", "%b %e %H:%M")
  /-- The date that is shown is that of the last reading. -/
  showsAccess : Bool := false
  ending : String := "\n"

/-- A name as a listing shows it. -/
def ListingStyle.shown (s : ListingStyle) (name : String) : String :=
  let escaped := fun (special : List Char) => String.ofList (name.toList.flatMap fun ch =>
    if ch = '\n' then ['\\', 'n'] else if ch = '\t' then ['\\', 't']
    else if special.contains ch ∨ ch = '\\' then ['\\', ch]
    else if ch.toNat < 32 ∨ 127 ≤ ch.toNat then '\\' :: (octalText 3 ch.toNat).toList
    else [ch])
  match s.quoting with
  | 'Q' => "\"" ++ escaped ['"'] ++ "\""
  | 'b' => escaped [' ']
  | 'q' => String.ofList (name.toList.map fun ch => if ch.toNat < 32 ∨ ch.toNat = 127 then '?' else ch)
  | 's' => shownName name
  | 'S' => quotedName name
  | _ => name

/-- Blanks and tabs from one column to another. -/
def indentTo (tab : Nat) : Nat → Nat → Nat → List Char
  | 0, _, _ => []
  | fuel + 1, start, stop =>
    if stop ≤ start then []
    else if tab ≠ 0 ∧ (start + 1) / tab < stop / tab then
      '\t' :: indentTo tab fuel (start + (tab - start % tab)) stop
    else ' ' :: indentTo tab fuel (start + 1) stop

/-- The widths of so many columns, if names fit into them. -/
def columnWidths (width : Nat) (down : Bool) (lengths : List Nat) (columns : Nat) :
    Option (List Nat) :=
  let rows := (lengths.length + columns - 1) / columns
  let column := fun (k : Nat) => if down then k / rows else k % columns
  let widths := (List.range columns).map fun col =>
    ((lengths.zipIdx.filter fun e => column e.2 == col).map fun e =>
      e.1 + if col = columns - 1 then 0 else 2).foldl max 3
  if total widths < width ∨ columns = 1 then some widths else none

/-- Names in columns, filled downwards or across. -/
def inColumns (s : ListingStyle) (down : Bool) (names : List String) : String :=
  let lengths := names.map String.length
  let most := min (max 1 (s.width / 3)) names.length
  let found := (List.range most).reverse.findSome? fun k =>
    (columnWidths s.width down lengths (k + 1)).map fun widths => (k + 1, widths)
  match found with
  | none => ""
  | some (columns, widths) =>
    let rows := (names.length + columns - 1) / columns
    let rowOf := fun (r : Nat) => (List.range columns).filterMap fun col =>
      let k := if down then col * rows + r else r * columns + col
      (names[k]?).map fun name => (name, widths.getD col 0)
    let line := fun (cells : List (String × Nat)) =>
      let (text, _) := (cells.zipIdx).foldl (fun (text, pos) ((name, width), k) =>
        let isLast := k + 1 = cells.length
        let gap := if isLast then [] else indentTo s.tab width (pos + name.length) (pos + width)
        (text ++ name ++ String.ofList gap, pos + width)) ("", 0)
      text ++ "\n"
    String.join ((List.range rows).map fun r => line (rowOf r))

/-- Names behind each other with commas between them. -/
def withCommas (s : ListingStyle) (names : List String) : String :=
  let (text, _) := names.foldl (fun (text, pos) name =>
    if text = "" then (name, name.length)
    else if s.width = 0 ∨ pos + name.length + 2 < s.width + 1 then
      (text ++ ", " ++ name, pos + name.length + 2)
    else (text ++ ",\n" ++ name, name.length)) ("", 0)
  if names = [] then "" else text ++ "\n"

/-- The date of an entry. -/
def dateShown (s : ListingStyle) (zone : Calendar.Zone) (now instant : Int) : String :=
  let isRecent := now - 15778476 * 1000000000 < instant ∧ instant ≤ now
  (zone.shown instant).format (if isRecent then s.formats.2 else s.formats.1)

/-- A size as a listing shows it. -/
def ListingStyle.size (s : ListingStyle) (n : Nat) : String :=
  match s.human with
  | some base => humanSize base n
  | none => toString n

/-- The room of entries as a listing shows it. -/
def ListingStyle.roomText (s : ListingStyle) (n : Nat) : String :=
  match s.human with
  | some base => humanSize base n
  | none => toString ((n + 1023) / 1024)

/-- What is shown of entries. -/
def rowsOf (s : ListingStyle) (zone : Calendar.Zone) (now : Int) (entries : List Listed) : String :=
  let wide := fun (texts : List String) => (texts.map String.length).foldl max 0
  let right := fun (width : Nat) (text : String) => String.ofList (padLeft ' ' width text.toList)
  let numberWidth := if s.layout = 'm' then 0 else wide (entries.map fun e => toString e.number)
  let roomWidth := if s.layout = 'm' then 0 else wide (entries.map fun e => s.roomText e.room)
  let front := fun (e : Listed) =>
    (if s.numbers then right numberWidth (toString e.number) ++ " " else "") ++
      (if s.room then right roomWidth (s.roomText e.room) ++ " " else "")
  if s.long then
    let namesWidth := wide (entries.map fun e => toString e.names)
    let size := fun (e : Listed) => if isDevice e.node then "1, 3" else s.size (sizeOf e.node)
    let sizeWidth := wide (entries.map size)
    let person := if s.numeric then "0" else "root"
    String.join (entries.map fun e =>
      let target := match e.node with
        | .link target => " -> " ++ s.shown (inward target) ++
          ((e.goal.map (nameMark s.marks)).getD "")
        | node => nameMark s.marks node
      let instant := if s.showsAccess then e.dates.accessed else e.dates.modified
      front e ++ " ".intercalate ([modeLetters e.node, right namesWidth (toString e.names)] ++
        (if s.owner then [person] else []) ++ (if s.group then [person] else []) ++
        (if s.author then [person] else []) ++
        [right sizeWidth (size e), dateShown s zone now instant, s.shown e.name ++ target]) ++ s.ending)
  else
    let names := entries.map fun e => front e ++ s.shown e.name ++ nameMark s.marks e.node
    match s.layout with
    | 'C' => if s.width = 0 then withCommas s [] ++ "  ".intercalate names ++ "\n"
      else inColumns s true names
    | 'x' => inColumns s false names
    | 'm' => withCommas s names
    | _ => String.join (names.map (· ++ s.ending))

/-- How entries are put in order and which are left out. -/
structure ListingOrder where
  /-- `n` for names, `t`, `u`, `S`, `X`, `v`, `w`, or `U` for none. -/
  by_ : Char := 'n'
  reverse : Bool := false
  directoriesFirst : Bool := false
  all : Bool := false
  almostAll : Bool := false
  /-- Patterns of names that are left out, always or unless all are asked for. -/
  ignored : List String := []
  hidden : List String := []

/-- What stands behind the last dot of a name. -/
def nameEnding (name : String) : String :=
  let cs := name.toList.reverse
  let after := cs.takeWhile (· ≠ '.')
  if after.length = cs.length then "" else String.ofList ('.' :: after.reverse)

/-- Entries in the order of a listing. -/
def ListingOrder.sorted (r : ListingOrder) (entries : List Listed) : List Listed :=
  let byName := fun (a b : Listed) => compare a.name b.name
  let order : Listed → Listed → Ordering := match r.by_ with
    | 't' => fun a b => (compare b.dates.modified a.dates.modified).then (byName a b)
    | 'u' => fun a b => (compare b.dates.accessed a.dates.accessed).then (byName a b)
    | 'S' => fun a b => (compare (sizeOf b.node) (sizeOf a.node)).then (byName a b)
    | 'X' => fun a b => (compare (nameEnding a.name) (nameEnding b.name)).then (byName a b)
    | 'v' => fun a b => compareVersionNames a.name b.name
    | 'w' => fun a b => (compare a.name.length b.name.length).then (byName a b)
    | _ => byName
  let sorted := if r.by_ = 'U' then entries else entries.mergeSort fun a b => order a b != .gt
  let sorted := if r.reverse ∧ r.by_ ≠ 'U' then
      (entries.mergeSort fun a b => order b a != .gt) else sorted
  let isDirectory := fun (e : Listed) => (e.goal.getD e.node).isDirectory
  if r.directoriesFirst ∧ r.by_ ≠ 'U' then sorted.filter isDirectory ++ sorted.filter (!isDirectory ·)
  else sorted

/-- A name is left out of a listing. -/
def ListingOrder.omits (r : ListingOrder) (name : String) : Bool :=
  let fits := fun (p : String) => matchesPattern p.toList name.toList &&
    (name.toList.head? != some '.' || p.toList.head? == some '.')
  (name.toList.head? == some '.' && !r.all && !r.almostAll) || r.ignored.any fits ||
    (!r.all && !r.almostAll && r.hidden.any fits)

/-- The entries of a directory as they are listed. -/
def listed (r : ListingOrder) (files : FileTree) (place : Location) : List Listed :=
  let entries := (files.children place).map fun (name, node) =>
    listedAt files (inward name) (place ++ [name]) node
  let own := if r.all then
      [listedAt files "." place (files.directoryAt place),
        listedAt files ".." place.dropLast (files.directoryAt place.dropLast)]
    else []
  r.sorted (own ++ entries.filter fun e => !r.omits e.name)

/-- A listing. -/
structure ListingTask where
  style : ListingStyle
  order : ListingOrder
  recursive : Bool
  /-- Links are followed. -/
  follows : Bool

/-- Lists a directory and, when asked to, those in it. -/
def listDirectory (c : Call) (k : ListingTask) : Nat → String → Location → Bool → Bool → Work Unit
  | 0, _, _, _, _ => return
  | fuel + 1, path, place, titled, isFirst => do
    let files ← Work.files
    if files.permits place .read = false then
      c.complain ("cannot open directory " ++ quotedName path ++ ": " ++ Errno.accessDenied.text)
    else
      if titled then Work.print ((if isFirst then "" else "\n") ++ k.style.shown path ++ ":\n")
      let entries := listed k.order files place
      let entries := if k.follows then entries.map fun e =>
          match e.node, e.goal with
          | .link _, some goal => { e with node := goal }
          | _, _ => e
        else entries
      if k.style.long ∨ k.style.room then
        Work.print ("total " ++ k.style.roomText (total (entries.map Listed.room)) ++ k.style.ending)
      Work.print (rowsOf k.style c.zone files.now entries)
      if k.recursive then
        for e in entries do
          if e.node.isDirectory ∧ e.name ≠ "." ∧ e.name ≠ ".." then
            listDirectory c k fuel (inDirectory path e.name) e.place true false

/-- The one of some words that a word begins. -/
def wordFor (words : List (String × Char)) (word : String) : Option Char :=
  match words.lookup word with
  | some ch => some ch
  | none =>
    match (words.filter fun w => word.toList.isPrefixOf w.1.toList).map (·.2) |>.eraseDups with
    | [ch] => if word = "" then none else some ch
    | _ => none

/-- The formats of dates that a style names: for long ago, and for others. -/
def dateFormats? (style : String) : Option (String × String) :=
  match style.toList with
  | '+' :: format =>
    match (piecesAt (· == '\n') format).map String.ofList with
    | [old] => some (old, old)
    | old :: recent :: _ => some (old, recent)
    | [] => none
  | _ =>
    let style := match style.splitOn "posix-" with
      | ["", rest] => rest
      | _ => style
    let words := [("full-iso", 'f'), ("long-iso", 'l'), ("iso", 'i'), ("locale", 'c')]
    match wordFor words style with
    | some 'f' => some ("%Y-%m-%d %H:%M:%S.%N %z", "%Y-%m-%d %H:%M:%S.%N %z")
    | some 'l' => some ("%Y-%m-%d %H:%M", "%Y-%m-%d %H:%M")
    | some 'i' => some ("%Y-%m-%d ", "%m-%d %H:%M")
    | some 'c' => some ("%b %e  %Y", "%b %e %H:%M")
    | _ => none

/-- The words for an order of entries. -/
def orderWords : List (String × Char) :=
  [("none", 'U'), ("time", 't'), ("size", 'S'), ("extension", 'X'), ("version", 'v'), ("width", 'w'),
    ("name", 'n')]

/-- The words for a layout. -/
def layoutWords : List (String × Char) :=
  [("verbose", 'l'), ("long", 'l'), ("commas", 'm'), ("horizontal", 'x'), ("across", 'x'),
    ("vertical", 'C'), ("single-column", '1')]

/-- The words for ways of quoting. -/
def quotingWords : List (String × Char) :=
  [("literal", 'N'), ("shell", 's'), ("shell-always", 'S'), ("shell-escape", 's'),
    ("shell-escape-always", 'S'), ("c", 'Q'), ("c-maybe", 'c'), ("escape", 'b'), ("locale", 'Q'),
    ("clocale", 'Q')]

/-- The look of a listing that options ask for. -/
def listingStyle (c : Call) (o : Options) (formats : String × String) : ListingStyle :=
  let layout := match o.given.reverse.findSome? fun (letter, value) =>
      match letter with
      | 'l' | 'n' | 'o' | 'g' | 'φ' => some 'l'
      | '1' => some '1'
      | 'C' | 'x' | 'm' => some letter
      | 'α' => wordFor layoutWords value
      | _ => none with
    | some ch => ch
    | none => '1'
  let isLong := layout = 'l' ∨ (layout = '1' ∧ ['l', 'n', 'o', 'g', 'φ'].any o.has)
  let marks := match o.given.reverse.findSome? fun (letter, value) =>
      match letter with
      | 'F' | 'p' => some letter
      | 'β' => some 'f'
      | 'γ' => match value with
        | "none" => some ' '
        | "slash" => some 'p'
        | "file-type" => some 'f'
        | _ => some 'F'
      | _ => none with
    | some ch => ch
    | none => ' '
  let quoting := match o.given.reverse.findSome? fun (letter, value) =>
      match letter with
      | 'Q' | 'b' | 'N' | 'q' => some letter
      | 'δ' => wordFor quotingWords value
      | _ => none with
    | some ch => ch
    | none => 'N'
  let width := match o.value? 'w' with
    | some w => ofDigits 10 w.toList
    | none => ((c.environment.get? "COLUMNS").bind fun w => natural? w.toList).getD 80
  { long := isLong, layout := layout, marks := marks, quoting := quoting
    owner := !o.has 'g', group := !(o.has 'o' || o.has 'G'), numeric := o.has 'n'
    author := o.has 'ψ', numbers := o.has 'i', room := o.has 's'
    human := if o.last? ['h', 'ε', 'k'] = some 'h' then some 1024
      else if o.last? ['h', 'ε', 'k'] = some 'ε' then some 1000 else none
    width := width, tab := ((o.value? 'T').bind fun t => natural? t.toList).getD 8
    formats := formats
    showsAccess := o.has 'u' || ["atime", "access", "use"].contains ((o.value? 'ζ').getD "")
    ending := if o.has 'η' then "\x00" else "\n" }

/-- The order of a listing that options ask for. -/
def listingOrder (o : Options) (style : ListingStyle) : ListingOrder :=
  let chosen := o.given.reverse.findSome? fun (letter, value) =>
    match letter with
    | 't' | 'S' | 'X' | 'v' | 'U' => some letter
    | 'f' => some 'U'
    | 'θ' => wordFor orderWords value
    | _ => none
  let by_ := match chosen with
    | some 't' => if style.showsAccess then 'u' else 't'
    | some ch => ch
    | none => if style.showsAccess ∧ !style.long then 'u' else 'n'
  let values := fun (letter : Char) => (o.given.filter (·.1 == letter)).map (·.2)
  { by_ := by_, reverse := o.has 'r', directoriesFirst := o.has 'ι'
    all := o.has 'a' || o.has 'f', almostAll := o.has 'A'
    ignored := values 'I' ++ (if o.has 'B' then ["*~", ".*~"] else []), hidden := values 'κ' }

/-- Lists directories and names files: files first, and each directory under its name when there
is more than one operand. -/
def ls (c : Call) : Progress :=
  let g : Grammar := {
    letters := "1aABbcCdDfFgGhHiI:klLmnNopqQrRsStT:uUvw:xXZα:βγ:δ:εζ:ηθ:ικ:λ::μ::νξφψρ:"
    names := [("all", 'a'), ("almost-all", 'A'), ("directory", 'd'), ("classify", 'F'),
      ("recursive", 'R'), ("reverse", 'r'), ("dereference", 'L'), ("quote-name", 'Q'),
      ("format", 'α'), ("file-type", 'β'), ("indicator-style", 'γ'), ("quoting-style", 'δ'),
      ("si", 'ε'), ("time", 'ζ'), ("zero", 'η'), ("sort", 'θ'), ("group-directories-first", 'ι'),
      ("hide", 'κ'), ("color", 'λ'), ("hyperlink", 'μ'), ("full-time", 'φ'),
      ("dereference-command-line", 'H'), ("dereference-command-line-symlink-to-dir", 'ξ'),
      ("human-readable", 'h'), ("inode", 'i'), ("ignore", 'I'), ("ignore-backups", 'B'),
      ("kibibytes", 'k'), ("literal", 'N'), ("no-group", 'G'), ("numeric-uid-gid", 'n'),
      ("size", 's'), ("tabsize", 'T'), ("width", 'w'), ("escape", 'b'), ("author", 'ψ'),
      ("hide-control-chars", 'q'), ("show-control-chars", 'ν'), ("time-style", 'ρ')] }
  let invalid := fun (word option : String) (lines : List String) =>
    c.ends 2 ([c.message ("invalid argument " ++ quotedText word ++ " for '" ++ option ++ "'"),
      (2, toBytes ("Valid arguments are:\n" ++ String.join (lines.map fun line =>
        "  - " ++ line ++ "\n")).toList), c.advice])
  c.withOptions 2 g fun o =>
    let styleName := (o.last? ['φ', 'ρ']).bind fun letter =>
      if letter = 'φ' then some "full-iso" else o.value? 'ρ'
    let styleName := styleName.getD ((c.environment.get? "TIME_STYLE").getD "locale")
    let badSort := (o.value? 'θ').filter fun w => (wordFor orderWords w).isNone
    match badSort, dateFormats? styleName with
    | some word, _ => invalid word "--sort"
        ["'none'", "'time'", "'size'", "'extension'", "'version'", "'width'"]
    | none, none =>
      if o.has 'l' then invalid styleName "time style"
        ["[posix-]full-iso", "[posix-]long-iso", "[posix-]iso", "[posix-]locale",
          "+FORMAT (e.g., +%H:%M) for a 'date'-style format"]
      else c.ends 2 []
    | none, some formats =>
      let style := c.listingStyle o formats
      let order := listingOrder o style
      let k : ListingTask := {
        style := style, order := order, recursive := o.has 'R', follows := o.has 'L' }
      let onlyDirectories := !(o.has 'd' || style.long || style.marks = 'F')
      let operands := if o.operands = [] then ["."] else o.operands
      let find := fun (operand : String) =>
        let plain := c.statusIn c.files false operand
        let through := c.statusIn c.files true operand
        if o.has 'L' ∨ o.has 'H' then through
        else if onlyDirectories ∨ o.has 'ξ' then
          match through with
          | .ok st => if st.node.isDirectory then .ok st else plain
          | .error _ => plain
        else plain
      let done := c.perform do
        let mut entries : List Listed := []
        for operand in operands do
          match find operand with
          | .ok st => entries := entries ++ [listedAt c.files operand st.place st.node]
          | .error e => c.complain ("cannot access " ++ quotedName operand ++ ": " ++ e.text)
        let listsIt := fun (e : Listed) => e.node.isDirectory && !o.has 'd'
        let sorted := order.sorted entries
        let plain := sorted.filter fun e => !listsIt e
        let directories := sorted.filter listsIt
        unless plain.isEmpty do Work.print (rowsOf style c.zone c.files.now plain)
        let mut isFirst := plain.isEmpty
        for e in directories do
          let titled := 1 < operands.length || o.has 'R'
          c.listDirectory k (c.files.entries.length + 2) e.name e.place titled isFirst
          isFirst := false
      let missing := operands.any fun operand => match find operand with
        | .ok st => st.node.isDirectory && !o.has 'd' && !c.files.permits st.place .read
        | .error _ => true
      match done.next with
      | .done 1 n => { done with next := .done (if missing then 2 else 1) n }
      | _ => done

end NativeBuild.Machine.Call
