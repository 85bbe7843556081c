import NativeBuild.Machine.Utility.Find.Condition

/-
  Reading the conditions of a search. The words are taken one after the other, each with the words
  that belong to it; what they make is put together by the operators between them, which bind more
  or less tightly. Conditions without an action get one that prints paths.
-/

namespace NativeBuild.Machine.Find

/-- What a word of a search stands for. -/
inductive Token where
  | condition (c : Condition)
  | negation
  | conjunction
  | disjunction
  | comma
  | opening
  | closing

/-- A token with the word that it was written as. -/
abbrev Spelled := Token × String

/-- What has been read of a search. -/
structure Reading where
  words : List String
  /-- Newest first. -/
  tokens : List Spelled := []
  warnings : List String := []
  files : FileTree
  rules : Rules := {}
  dialect : Regex.Dialect := { signs := true, bounded := false }
  /-- The time that ages in days are counted from. -/
  dayEnd : Int
  /-- A condition does something, so that paths are not printed. -/
  acts : Bool := false
  deletes : Bool := false
  prunes : Bool := false
  choosesDepth : Bool := false
  /-- Files that are written. -/
  outlets : List String := []

/-- Reading words of a search, which may be wrong. -/
abbrev Taking := ExceptT String (StateM Reading)

/-- Takes the word that belongs to another one. -/
def argument (name : String) : Taking String := do
  match (← get).words with
  | word :: rest =>
    modify fun r => { r with words := rest }
    return word
  | [] => throw ("missing argument to \x60" ++ name ++ "'")

/-- Changes the rules of the search; the word itself is always true. -/
def rule (change : Rules → Rules) : Taking Condition := do
  modify fun r => { r with rules := change r.rules }
  return .test false fun _ _ => true

/-- An action. -/
def action (a : Action) : Taking Condition := do
  modify fun r => { r with acts := true }
  return .act a

/-- A test that needs no more than the name and the kind of a file. -/
def simple (holds : Found → Bool) : Condition := .test false fun _ f => holds f

/-- What is said about a word that cannot be understood. -/
def invalidArgument (name value : String) : String :=
  "invalid argument \x60" ++ value ++ "' to \x60" ++ name ++ "'"

/-- A number with the sign in front of it. -/
def measure? (text : String) : Option Measure :=
  match text.toList with
  | '+' :: digits => (natural? digits).map (Measure.mk '+')
  | '-' :: digits => (natural? digits).map (Measure.mk '-')
  | digits => (natural? digits).map (Measure.mk '=')

/-- Takes a number with a sign. -/
def measure (name : String) : Taking Measure := do
  let word ← argument name
  match measure? word with
  | some m => return m
  | none => throw (invalidArgument name word)

/-- Takes a depth. -/
def depth (name : String) : Taking Nat := do
  let word ← argument name
  match natural? word.toList with
  | some n => return n
  | none => throw ("Expected a positive decimal integer argument to " ++ name ++ ", but got " ++
      quotedText word)

/-- A text matches a pattern, perhaps in another case. -/
def fits (folded : Bool) (pattern text : String) : Bool :=
  let lower := fun (s : String) => if folded then s.toList.map Char.toLower else s.toList
  matchesPattern (lower pattern) (lower text)

/-- The letters of a list of kinds, if it is one. -/
def kinds (name : String) : List Char → List Char → Except String (List Char)
  | [], [] => .error ("Arguments to " ++ name ++ " should contain at least one letter")
  | [], _ => .error ("Last file type in list argument to " ++ name ++
      " is missing, i.e., list is ending on: ','")
  | letter :: rest, taken =>
    let shown := String.ofList [letter]
    if letter = 'D' then
      .error ("-type D is not supported because Solaris doors are not supported on the platform " ++
        "find was compiled on.")
    else if !"bcdflps".toList.contains letter then
      .error ("Unknown argument to " ++ name ++ ": " ++ shown)
    else if taken.contains letter then
      .error ("Duplicate file type '" ++ shown ++ "' in the argument list to " ++ name ++ ".")
    else
      match rest with
      | [] => .ok (letter :: taken)
      | ',' :: rest => kinds name rest (letter :: taken)
      | _ => .error ("Must separate multiple arguments to " ++ name ++ " using: ','")

/-- The number of bytes that a letter behind a size counts in. -/
def sizeUnit : Char → Option Nat
  | 'b' => some 512
  | 'c' => some 1
  | 'w' => some 2
  | 'k' => some 1024
  | 'M' => some (1024 * 1024)
  | 'G' => some (1024 * 1024 * 1024)
  | _ => none

/-- A test of the size. -/
def sizeTest (text : String) : Except String Condition :=
  let cs := text.toList
  let test := fun (digits : List Char) (unit : Nat) =>
    match measure? (String.ofList digits) with
    | some m => .ok (.test true fun files f =>
        m.holds ((Call.sizeOf (f.listed files).node + unit - 1) / unit))
    | none => .error ("Invalid argument \x60" ++ text ++ "' to -size")
  match cs.getLast? with
  | none => .error "invalid null argument to -size"
  | some last =>
    if last.isDigit then test cs 512
    else
      match sizeUnit last with
      | some unit => test cs.dropLast unit
      | none => .error ("invalid -size type \x60" ++ String.ofList [last] ++ "'")

/-- A test of the rights. -/
def modeTest (text : String) : Except String Condition :=
  let (sign, cs) := match text.toList with
    | '-' :: cs => ('-', cs)
    | '/' :: cs => ('/', cs)
    | cs => ('=', cs)
  let isOld := sign = '=' ∧ cs.head? = some '+' ∧ (cs.drop 1).head?.any Char.isDigit
  match if isOld then none else ModeChange.ofText? cs with
  | none => .error ("invalid mode " ++ quotedText text)
  | some changes => .ok (.test true fun files f =>
      let node := (f.listed files).node
      let wanted := adjustMode changes 0 node.isDirectory 0
      if sign = '=' then node.mode == wanted
      else if sign = '-' then node.mode &&& wanted == wanted
      else wanted == 0 || node.mode &&& wanted != 0)

/-- Whole seconds and their fractions, in nanoseconds, of a number of units. -/
def span? (unit : Nat) (digits : List Char) : Option Int :=
  let isNegative := digits.head? == some '-'
  let digits := if isNegative then digits.drop 1 else digits
  let whole := digits.takeWhile Char.isDigit
  let rest := digits.drop whole.length
  let decimals := rest.drop 1
  if (rest = [] ∨ (rest.head? = some '.' ∧ decimals.all Char.isDigit)) ∧ whole ++ decimals ≠ [] then
    let n : Int :=
      (ofDigits 10 (whole ++ decimals) * unit * 1000000000 / Nat.pow 10 decimals.length : Nat)
    some (if isNegative then -n else n)
  else none

/-- A test of an age in units of so many seconds, counted from a time: a date is compared with the
time of that age, and one that is to be met lies in the unit before it. -/
def ageTest (name text : String) (unit : Nat) (origin : Int) (date : Dates → Int) :
    Except String Condition :=
  let (sign, digits) := match text.toList with
    | '+' :: ds => ('+', ds)
    | '-' :: ds => ('-', ds)
    | ds => ('=', ds)
  match span? unit digits with
  | none => .error (invalidArgument name text)
  | some span =>
    let late : Int := if sign = '-' ∧ unit = 86400 then (86400 - 1) * 1000000000 else 0
    let bound := origin + late - span
    .ok (.test true fun files f =>
      let instant := date (f.listed files).dates
      if sign = '+' then instant < bound
      else if sign = '-' then bound < instant
      else bound < instant && instant ≤ bound + (unit * 1000000000 : Nat))

/-- A format in pieces, and what is odd in it. -/
def pieces : Nat → List Char → List Char → Except String (List Piece × List String)
  | 0, _, text => .ok ([.text text.reverse], [])
  | fuel + 1, cs, text =>
    let ended := fun (result : Except String (List Piece × List String)) =>
      result.map fun (ps, warnings) => (.text text.reverse :: ps, warnings)
    let warned := fun (warning : String) (result : Except String (List Piece × List String)) =>
      result.map fun (ps, warnings) => (ps, ("warning: " ++ warning) :: warnings)
    match cs with
    | [] => .ok ([.text text.reverse], [])
    | ['\\'] => warned "escape \x60\\' followed by nothing at all" (.ok ([.text ('\\' :: text).reverse], []))
    | '\\' :: 'c' :: _ => .ok ([.text text.reverse], [])
    | '\\' :: ch :: rest =>
      if isOctal ch then
        let digits := ((ch :: rest).take 3).takeWhile isOctal
        pieces fuel ((ch :: rest).drop digits.length) (byteChar (ofDigits 8 digits) :: text)
      else
        match escapeLetter ch with
        | some shown => pieces fuel rest (shown :: text)
        | none => warned ("unrecognized escape \x60\\" ++ String.ofList [ch] ++ "'")
            (pieces fuel rest (ch :: '\\' :: text))
    | '%' :: '%' :: rest => pieces fuel rest ('%' :: text)
    | '%' :: rest =>
      let flags := rest.takeWhile "-+ #0".toList.contains
      let after := rest.drop flags.length
      let width := after.takeWhile Char.isDigit
      let after := after.drop width.length
      let (precision, shown, after) := match after with
        | '.' :: more =>
          let digits := more.takeWhile Char.isDigit
          (some (ofDigits 10 digits), flags ++ width ++ '.' :: digits, more.drop digits.length)
        | more => (none, flags ++ width, more)
      match after with
      | [] => .error "error: % at end of format string"
      | letter :: more =>
        let shape : Conversion := ⟨flags, ofDigits 10 width, precision, false, letter⟩
        if "ACTB".toList.contains letter then
          match more with
          | [] => warned ("format directive \x60%" ++ String.ofList [letter] ++
              "' should be followed by another character")
            (.ok ([.text ((letter :: shown.reverse ++ '%' :: text).reverse)], []))
          | inner :: more => ended ((pieces fuel more []).map fun (ps, warnings) =>
              (.part shape inner :: ps, warnings))
        else if "pfhPHdsmMyYlniugUGbkDFSatc".toList.contains letter then
          ended ((pieces fuel more []).map fun (ps, warnings) =>
            (.part shape letter :: ps, warnings))
        else if "\x7b[(".toList.contains letter then
          .error ("error: the format directive \x60%" ++ String.ofList [letter] ++
            "' is reserved for future use")
        else warned ("unrecognized format directive \x60%" ++ String.ofList [letter] ++ "'")
          (pieces fuel more (letter :: shown.reverse ++ '%' :: text))
    | ch :: rest => pieces fuel rest (ch :: text)

/-- Takes a format. -/
def format (name : String) : Taking (List Piece) := do
  let text ← argument name
  match pieces (text.length + 1) text.toList [] with
  | .ok (ps, warnings) =>
    modify fun r => { r with warnings := r.warnings ++ warnings }
    return ps
  | .error text => throw text

/-- Takes the words of a program up to their end. -/
def starting (name : String) (inside asks : Bool) : Taking Condition := do
  let words := (← get).words
  let mark := "\x7b\x7d"
  let plain := words.takeWhile (· ≠ ";")
  let joined := if asks then none else
    (plain.zip (plain.drop 1)).findIdx? fun (a, b) => (substituted mark "" a != a) && b == "+" && a == mark
  let nearly := if asks then none else
    (plain.zip (plain.drop 1)).find? fun (a, b) => (substituted mark "" a != a) && b == "+" && a != mark
  match joined with
  | some k =>
    modify fun r => { r with words := words.drop (k + 2) }
    let tokens := words.take k
    if tokens.any fun a => substituted mark "" a != a then
      throw ("Only one instance of " ++ mark ++ " is supported with " ++ name ++ " ... +")
    if tokens = [] then throw (invalidArgument name "+")
    action (.start { tokens := tokens, inside := inside, together := true })
  | none =>
    if plain.length = words.length then
      match nearly with
      | some (a, _) => throw ("In '" ++ name ++ " ... " ++ mark ++ " +' the '" ++ mark ++
          "' must appear by itself, but you specified " ++ quotedText a)
      | none => throw ("missing argument to \x60" ++ name ++ "'")
    else if plain = [] then throw (invalidArgument name ";")
    else
      modify fun r => { r with words := words.drop (plain.length + 1) }
      action (.start { tokens := plain, inside := inside, asks := asks })

/-- Takes the name of a file that is written, and empties it. -/
def outlet (c : Call) (name : String) : Taking Outlet := do
  let path ← argument name
  if path = "/dev/stdout" then return none
  if path ≠ "/dev/stderr" then
    match (← get).files.writeFile c.cwd (outward path) [] c.newMode false with
    | .ok files => modify fun r => { r with files := files, outlets := r.outlets ++ [path] }
    | .error e => throw (quotedText path ++ ": " ++ e.text)
  return some path

/-- The way that a kind of regular expressions is written. -/
def dialect? (kind : String) : Option Regex.Dialect :=
  if ["findutils-default", "emacs"].contains kind then some { signs := true, bounded := false }
  else if ["ed", "grep", "posix-basic", "sed"].contains kind then some {}
  else if kind = "posix-minimal-basic" then some {}
  else if ["gnu-awk", "posix-awk", "awk", "posix-egrep", "egrep", "posix-extended"].contains kind then
    some { extended := true }
  else none

/-- Takes a regular expression for whole paths. -/
def regex (name : String) (folded : Bool) : Taking Condition := do
  let text ← argument name
  match Regex.parse (← get).dialect text.toList with
  | .error e => throw ("failed to compile regular expression " ++ quotedText text ++ ": " ++ e)
  | .ok parsed =>
    let whole := fun (path : String) =>
      let setting : Regex.Setting := {
        text := path.toList.toArray, folded := folded, exact := parsed.regex.hasReference }
      (parsed.regex.ends setting ⟨0, []⟩).any fun r => r.place == setting.text.size
    return simple fun f => whole f.path

/-- Takes the name of a file and gives what is known of it. -/
def otherFile (c : Call) (name : String) : Taking Status := do
  let path ← argument name
  let r ← get
  match c.statusIn r.files (r.rules.follows || r.rules.followsStarts) path with
  | .ok st => return st
  | .error e => throw (quotedText path ++ ": " ++ e.text)

/-- The number of somebody who is named or numbered. -/
def person (known : List (String × Nat)) (name : String) : Option Nat :=
  (known.lookup name).or (natural? name.toList)

/-- A test of a right to a file. -/
def rightTest (r : Right) : Condition := .test false fun files f =>
  match files.reach f.place.dropLast true (f.place.getLastD ".") with
  | .ok (.found place _) => files.permits place r
  | _ => false

/-- Takes what belongs to the name of a condition; nothing if there is no such condition. -/
def condition? (c : Call) (name : String) : Option (Taking Condition) :=
  let dated := fun (letter : Char) (d : Dates) => if letter = 'a' then d.accessed else d.modified
  let age := fun (unit : Nat) (date : Dates → Int) => do
    let text ← argument name
    let r ← get
    let origin := if unit = 60 then c.before.now else r.dayEnd
    (ageTest name text unit origin date : Except String Condition)
  let pattern := fun (folded : Bool) (text : Found → String) => do
    let p ← argument name
    return simple fun f => fits folded p (text f)
  let later := fun (date : Dates → Int) (bound : Int) =>
    Condition.test true fun files f => bound < date (f.listed files).dates
  let number := fun (of : Call.Listed → Nat) => do
    let m ← measure name
    return Condition.test true fun files f => m.holds (of (f.listed files))
  match name with
  | "-name" => some (pattern false Found.name)
  | "-iname" => some (pattern true Found.name)
  | "-path" | "-wholename" => some (pattern false Found.path)
  | "-ipath" | "-iwholename" => some (pattern true Found.path)
  | "-lname" | "-ilname" => some do
    let p ← argument name
    return simple fun f => match f.node with
      | some (.link target) => fits (name == "-ilname") p (inward target)
      | _ => false
  | "-regex" => some (regex name false)
  | "-iregex" => some (regex name true)
  | "-regextype" => some do
    let kind ← argument name
    match dialect? kind with
    | some d =>
      modify fun r => { r with dialect := d }
      return simple fun _ => true
    | none => throw ("Unknown regular expression type " ++ quotedText kind ++ "; valid types are " ++
        ", ".intercalate (["findutils-default", "ed", "emacs", "gnu-awk", "grep", "posix-awk", "awk",
          "posix-basic", "posix-egrep", "egrep", "posix-extended", "posix-minimal-basic",
          "sed"].map quotedText) ++ ".")
  | "-type" => some do
    let letters ← (kinds name (← argument name).toList [] : Except String (List Char))
    return simple fun f => (f.node.map Found.kindOf).any letters.contains
  | "-xtype" => some do
    let letters ← (kinds name (← argument name).toList [] : Except String (List Char))
    let follows := (← get).rules.follows
    return .test true fun files f =>
      let node := if follows then files.find? f.place else f.followed files
      (node.map Found.kindOf).any letters.contains
  | "-empty" => some (return .empty)
  | "-size" => some do (sizeTest (← argument name) : Except String Condition)
  | "-perm" => some do (modeTest (← argument name) : Except String Condition)
  | "-links" => some (number Call.Listed.names)
  | "-inum" => some (number Call.Listed.number)
  | "-uid" | "-gid" => some (number fun _ => 0)
  | "-user" => some do
    let who ← argument name
    if who = "" then throw "The argument to -user should not be empty"
    match person Call.knownUsers who with
    | some n => return simple fun _ => n == 0
    | none => throw (quotedText who ++ " is not the name of a known user")
  | "-group" => some do
    let who ← argument name
    if who = "" then throw "argument to -group is empty, but should be a group name"
    match person Call.knownGroups who with
    | some n => return simple fun _ => n == 0
    | none => throw (quotedText who ++ " is not the name of an existing group")
  | "-nouser" | "-nogroup" | "-false" => some (return simple fun _ => false)
  | "-true" | "-noleaf" | "-mount" | "-xdev" | "-warn" | "-nowarn" | "-ignore_readdir_race"
  | "-noignore_readdir_race" => some (return simple fun _ => true)
  | "-fstype" => some do
    let kind ← argument name
    return simple fun _ => kind == "overlay"
  | "-used" => some do
    let _ ← measure name
    return simple fun _ => false
  | "-newer" | "-anewer" | "-cnewer" => some do
    let st ← otherFile c name
    return later (dated (if name = "-anewer" then 'a' else 'm')) (((← get).files.datesOf st.number).modified)
  | "-samefile" => some do
    let st ← otherFile c name
    return .test true fun files f => (files.numberAt? f.goal) == some st.number
  | "-amin" | "-cmin" | "-mmin" => some (age 60 (dated (name.toList.getD 1 'm')))
  | "-atime" | "-ctime" | "-mtime" => some (age 86400 (dated (name.toList.getD 1 'm')))
  | "-daystart" => some do
    modify fun r =>
      let next := r.dayEnd + 86400 * 1000000000
      let m := (c.zone.shown next).moment
      let into : Int := m.hour * 3600 + m.minute * 60 + m.second
      { r with dayEnd := next.fdiv 1000000000 * 1000000000 - into * 1000000000 }
    return simple fun _ => true
  | "-readable" => some (return rightTest .read)
  | "-writable" => some (return rightTest .write)
  | "-executable" => some (return rightTest .execute)
  | "-maxdepth" => some do
    let n ← depth name
    rule fun k => { k with most := some n }
  | "-mindepth" => some do
    let n ← depth name
    rule fun k => { k with least := n }
  | "-depth" | "-d" => some do
    modify fun r => { r with choosesDepth := true }
    rule fun k => { k with insideFirst := true }
  | "-follow" => some (rule fun k => { k with follows := true })
  | "-print" => some (action (.print none '\n'))
  | "-print0" => some (action (.print none '\x00'))
  | "-fprint" => some do action (.print (← outlet c name) '\n')
  | "-fprint0" => some do action (.print (← outlet c name) '\x00')
  | "-printf" => some do action (.format none (← format name))
  | "-fprintf" => some do
    if let [path] := (← get).words then throw (invalidArgument name path)
    let o ← outlet c name
    action (.format o (← format name))
  | "-ls" => some (action (.list none))
  | "-fls" => some do action (.list (← outlet c name))
  | "-delete" => some do
    modify fun r => { r with deletes := true, rules := { r.rules with insideFirst := true } }
    action .delete
  | "-prune" => some do
    modify fun r => { r with prunes := true }
    return .act .prune
  | "-quit" => some (return .act .quit)
  | "-exec" => some (starting name false false)
  | "-execdir" => some (starting name true false)
  | "-ok" => some (starting name false true)
  | "-okdir" => some (starting name true true)
  | _ => none

/-- A condition that compares a date of files with one of another file, or with a date that is
written down; the letters name the dates. -/
def newerCondition? (c : Call) (name : String) : Option (Taking Condition) :=
  let dated := fun (letter : Char) (d : Dates) => if letter = 'a' then d.accessed else d.modified
  match name.toList with
  | ['-', 'n', 'e', 'w', 'e', 'r', x, y] => some do
    if !"aBcm".toList.contains x ∨ !"aBcmt".toList.contains y then
      throw ("invalid predicate \x60" ++ name ++ "'")
    let bound ← if y = 't' then do
        let text ← argument name
        match Calendar.readDate c.zone c.before.now text.toList with
        | some t => pure t
        | none => throw ("I cannot figure out how to interpret " ++ quotedText text ++
            " as a date or time")
      else do
        let st ← otherFile c name
        pure (dated y ((← get).files.datesOf st.number))
    return .test true fun files f => bound < dated x (f.listed files).dates
  | _ => none

/-- The operator that a word is. -/
def operator? : String → Option Token
  | "!" | "-not" => some .negation
  | "-a" | "-and" => some .conjunction
  | "-o" | "-or" => some .disjunction
  | "," => some .comma
  | "(" => some .opening
  | ")" => some .closing
  | _ => none

/-- A word begins or goes on with the conditions of a search; otherwise it is a path. -/
def isExpression (isFirst : Bool) (word : String) : Bool :=
  match word.toList with
  | ['!'] | ['('] => true
  | [')'] | [','] => !isFirst
  | '-' :: _ :: _ => true
  | _ => false

/-- Takes the words of a search one after the other. -/
def readTokens (c : Call) : Nat → Taking Unit
  | 0 => return
  | fuel + 1 => do
    match (← get).words with
    | [] => return
    | word :: rest =>
      unless isExpression false word do
        throw ("paths must precede expression: \x60" ++ word ++ "'")
      modify fun r => { r with words := rest }
      let token ← match operator? word, (condition? c word).or (newerCondition? c word) with
        | some o, _ => pure o
        | none, some taking => do pure (Token.condition (← taking))
        | none, none => throw ("unknown predicate \x60" ++ word ++ "'")
      modify fun r => { r with tokens := (token, word) :: r.tokens }
      readTokens c fuel

/-- What is read of tokens: a condition, the word before what is left, and what is left. -/
abbrev Read := Except String (Condition × String × List Spelled)

mutual

/-- Reads conditions that are judged one after the other. -/
def readSequence (acts : Bool) : Nat → String → List Spelled → Read
  | 0, _, _ => .error "invalid expression"
  | fuel + 1, last, tokens =>
    match readEither acts fuel last tokens with
    | .ok (a, _, (.comma, word) :: rest) =>
      (readSequence acts fuel word rest).map fun (b, read) => (.sequence a b, read)
    | result => result

/-- Reads alternatives. -/
def readEither (acts : Bool) : Nat → String → List Spelled → Read
  | 0, _, _ => .error "invalid expression"
  | fuel + 1, last, tokens =>
    match readBoth acts fuel last tokens with
    | .ok (a, _, (.disjunction, word) :: rest) =>
      (readEither acts fuel word rest).map fun (b, read) => (.either a b, read)
    | result => result

/-- Reads conditions that all have to hold. -/
def readBoth (acts : Bool) : Nat → String → List Spelled → Read
  | 0, _, _ => .error "invalid expression"
  | fuel + 1, last, tokens =>
    match readOne acts fuel last tokens with
    | .error e => .error e
    | .ok (a, word, rest) =>
      match rest with
      | (.conjunction, word) :: rest =>
        (readBoth acts fuel word rest).map fun (b, read) => (.both a b, read)
      | (.condition _, _) :: _ | (.negation, _) :: _ | (.opening, _) :: _ =>
        (readBoth acts fuel word rest).map fun (b, read) => (.both a b, read)
      | rest => .ok (a, word, rest)

/-- Reads a condition or conditions in parentheses; the last word is the operator in front. -/
def readOne (acts : Bool) : Nat → String → List Spelled → Read
  | 0, _, _ => .error "invalid expression"
  | fuel + 1, last, tokens =>
    match tokens with
    | [] => .error (if acts ∨ last = "" then "invalid expression"
        else "expected an expression after '" ++ last ++ "'")
    | (.condition a, word) :: rest => .ok (a, word, rest)
    | (.negation, word) :: rest =>
      (readOne acts fuel word rest).map fun (a, read) => (.opposite a, read)
    | (.opening, word) :: rest =>
      match rest with
      | [] => .error ("invalid expression; expected to find a ')' but didn't see one. " ++
          "Perhaps you need an extra predicate after '" ++ word ++ "'")
      | (.closing, _) :: _ => .error "invalid expression; empty parentheses are not allowed."
      | rest =>
        match readSequence acts fuel word rest with
        | .ok (a, _, (.closing, word) :: rest) => .ok (a, word, rest)
        | .ok _ => .error ("invalid expression; I was expecting to find a ')' somewhere but did " ++
            "not see one.")
        | .error e => .error e
    | (.closing, _) :: _ =>
      if last = "" then .error "invalid expression; you have too many ')'"
      else .error ("expected an expression between '" ++ last ++ "' and ')'")
    | (_, word) :: _ => .error ("invalid expression; you have used a binary operator '" ++ word ++
        "' with nothing before it.")

end

/-- Reads the words of a search. -/
def readSearch (c : Call) : Taking Condition := do
  readTokens c ((← get).words.length + 1)
  let r ← get
  if r.deletes ∧ r.prunes ∧ r.choosesDepth = false then
    throw ("The -delete action automatically turns on -depth, but -prune does nothing when -depth " ++
      "is in effect.  If you want to carry on anyway, just explicitly use the -depth option.")
  let tokens := r.tokens.reverse
  let printed := Condition.act (.print none '\n')
  if tokens = [] then return printed
  match readSequence r.acts (8 * tokens.length + 8) "" tokens with
  | .error text => throw text
  | .ok (_, _, (.closing, _) :: _) => throw "you have too many ')'"
  | .ok (_, _, (_, word) :: _) => throw ("unexpected extra predicate '" ++ word ++ "'")
  | .ok (a, _, []) => return if r.acts then a else .both a printed

end NativeBuild.Machine.Find
