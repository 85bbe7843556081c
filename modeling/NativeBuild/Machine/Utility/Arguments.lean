import NativeBuild.Machine.Utility.Call

/-
  Arguments brought into order for scripts: `getopt` reads arguments by a description of options and
  writes them in quotes, each option by itself with its value, and the others at the end. What is
  wrong with an argument is said, and the reading goes on behind it.
-/

namespace NativeBuild.Machine.Call

/-- How often an option takes a value. -/
inductive ValueRule where
  | never
  | always
  | maybe
  deriving Repr, DecidableEq

/-- What options there are. -/
structure Described where
  letters : List Char
  names : List (String × ValueRule) := []
  /-- Other arguments end the options. -/
  endsAtOthers : Bool := false
  /-- Other arguments stay where they are. -/
  keepsOrder : Bool := false
  /-- Long names may have one dash. -/
  allowsOneDash : Bool := false
  isSilent : Bool := false

/-- How an option with a letter takes a value, if there is one. -/
def Described.letter? (d : Described) (letter : Char) : Option ValueRule :=
  if letter = ':' ∨ letter = ';' then none
  else match d.letters.dropWhile (· ≠ letter) with
    | [] => none
    | _ :: ':' :: ':' :: _ => some .maybe
    | _ :: ':' :: _ => some .always
    | _ => some .never

/-- What has been read of arguments. -/
inductive Sorted where
  | letter (letter : Char) (value : Option String)
  | name (name : String) (value : Option String)
  | other (text : String)
  | fault (text : String)
  deriving Repr, DecidableEq

/-- Reads the letters of an argument, and gives the arguments that are left. -/
def readCluster (d : Described) : List Char → List String → List Sorted × List String
  | [], rest => ([], rest)
  | c :: cs, rest =>
    match d.letter? c with
    | none =>
      let (more, rest) := readCluster d cs rest
      (.fault ("invalid option -- '" ++ String.ofList [c] ++ "'") :: more, rest)
    | some .never =>
      let (more, rest) := readCluster d cs rest
      (.letter c none :: more, rest)
    | some .maybe => ([.letter c (some (String.ofList cs))], rest)
    | some .always =>
      if cs ≠ [] then ([.letter c (some (String.ofList cs))], rest)
      else
        match rest with
        | value :: rest => ([.letter c (some value)], rest)
        | [] => ([.fault ("option requires an argument -- '" ++ String.ofList [c] ++ "'")], [])

/-- Reads a long name behind some dashes. Nothing is given if there is no such name. -/
def readLongName (d : Described) (dashes : String) (text : List Char) (rest : List String) :
    Option (List Sorted × List String) :=
  let name := text.takeWhile (· ≠ '=')
  let value := String.ofList (text.drop (name.length + 1))
  let hasValue := text.contains '='
  let matching := d.names.filter fun entry => name.isPrefixOf entry.1.toList
  let exact := matching.find? fun entry => entry.1.toList == name
  match exact.or (if matching.length = 1 then matching.head? else none) with
  | none =>
    if matching = [] then none
    else some ([.fault ("option '" ++ dashes ++ String.ofList text ++ "' is ambiguous; possibilities:" ++
      String.join (matching.map fun entry => " '" ++ dashes ++ entry.1 ++ "'"))], rest)
  | some (long, valued) =>
    let shown := "option '" ++ dashes ++ long ++ "'"
    match valued with
    | .never =>
      if hasValue then some ([.fault (shown ++ " doesn't allow an argument")], rest)
      else some ([.name long none], rest)
    | .maybe => some ([.name long (some (if hasValue then value else ""))], rest)
    | .always =>
      if hasValue then some ([.name long (some value)], rest)
      else
        match rest with
        | value :: rest => some ([.name long (some value)], rest)
        | [] => some ([.fault (shown ++ " requires an argument")], [])

/-- Reads arguments, and gives those behind the options. -/
def sortArguments (d : Described) : Nat → List String → List String → List Sorted × List String
  | 0, others, rest => ([], others.reverse ++ rest)
  | _, others, [] => ([], others.reverse)
  | fuel + 1, others, a :: rest =>
    let onwards := fun (read : List Sorted × List String) =>
      let (more, left) := sortArguments d fuel others read.2
      (read.1 ++ more, left)
    match a.toList with
    | ['-', '-'] => ([], others.reverse ++ rest)
    | '-' :: '-' :: text =>
      onwards ((readLongName d "--" text rest).getD
        ([.fault ("unrecognized option '--" ++ String.ofList text ++ "'")], rest))
    | '-' :: c :: cs =>
      let isLong := d.allowsOneDash ∧ (cs ≠ [] ∨ (d.letter? c).isNone)
      match if isLong then readLongName d "-" (c :: cs) rest else none with
      | some read => onwards read
      | none =>
        if isLong ∧ (d.letter? c).isNone = true then
          onwards ([.fault ("unrecognized option '-" ++ String.ofList (c :: cs) ++ "'")], rest)
        else onwards (readCluster d (c :: cs) rest)
    | _ =>
      if d.keepsOrder then onwards ([.other a], rest)
      else if d.endsAtOthers then ([], others.reverse ++ a :: rest)
      else sortArguments d fuel (a :: others) rest

/-- A value as a shell reads it back. -/
def scriptQuoted (isOfC : Bool) (text : String) : String :=
  "'" ++ String.ofList (text.toList.flatMap fun c =>
    if c = '\'' then "'\\''".toList
    else if isOfC ∧ c = '\\' then "\\\\".toList
    else if isOfC ∧ c = '!' then "'\\!'".toList
    else if isOfC ∧ c = '\n' then "\\n".toList
    else if isOfC ∧ isSpace c = true then ['\'', '\\', c, '\'']
    else [c]) ++ "'"

/-- Reads the long names of a description. -/
def readNames (text : String) : Option (List (String × ValueRule)) :=
  let pieces := piecesAt (fun c => c == ',' || c == ' ' || c == '\t' || c == '\n') text.toList
  (pieces.filter (· ≠ [])).mapM fun piece =>
    let colons := (piece.reverse.takeWhile (· == ':')).length
    let name := piece.take (piece.length - min colons 2)
    if name = [] then none
    else some (String.ofList name,
      if colons = 0 then .never else if colons = 1 then .always else .maybe)

/-- Writes arguments in order. -/
def printSorted (c : Call) (title : String) (d : Described) (spell : String → String) (isQuiet : Bool)
    (arguments : List String) : Progress :=
  let d := { d with
    endsAtOthers := d.endsAtOthers || d.letters.head? == some '+' ||
      (c.environment.get? "POSIXLY_CORRECT").isSome
    keepsOrder := d.letters.head? == some '-'
    letters := if d.letters.head? = some '+' ∨ d.letters.head? = some '-' then d.letters.drop 1
      else d.letters }
  let silent := d.isSilent || d.letters.head? == some ':'
  let (read, others) := sortArguments d (arguments.length + 1) [] arguments
  let value := fun (v : Option String) => match v with
    | some text => " " ++ spell text
    | none => ""
  let texts := read.map fun (entry : Sorted) => match entry with
    | .letter l v => " -" ++ String.ofList [l] ++ value v
    | .name n v => " --" ++ n ++ value v
    | .other text => " " ++ spell text
    | .fault _ => ""
  let faults := read.filterMap fun (entry : Sorted) => match entry with
    | .fault text => some (2, toBytes (title ++ ": " ++ text ++ "\n").toList)
    | _ => none
  let printed := if isQuiet then [] else
    [(1, toBytes (String.join texts ++ " --" ++
      String.join (others.map fun text => " " ++ spell text) ++ "\n").toList)]
  c.ends (if faults = [] then 0 else 1) ((if silent then [] else faults) ++ printed)

/-- Brings arguments into order. -/
def getopt (c : Call) : Progress :=
  let isOld := (c.environment.get? "GETOPT_COMPATIBLE").isSome
  let refuse := fun (text : String) => c.misused 2 text
  match c.arguments with
  | [] => if isOld then c.prints " --\n" else refuse "missing optstring argument"
  | first :: rest =>
    if first.toList.head? ≠ some '-' ∨ isOld = true then
      let letters := first.toList.dropWhile fun ch => ch == '-' || ch == '+'
      c.printSorted c.title { letters := letters } id false rest
    else
      let g : Grammar := {
        letters := "ao:l:n:qQs:Tu", anywhere := false
        names := [("options", 'o'), ("longoptions", 'l'), ("quiet", 'q'), ("quiet-output", 'Q'),
          ("shell", 's'), ("test", 'T'), ("unquoted", 'u'), ("alternative", 'a'), ("name", 'n')] }
      let check := fun (letter : Char) (value : String) => match letter with
        | 'T' => some (c.ends 4 [])
        | 'l' =>
          if (readNames value).isNone then some (refuse "empty long option after -l or --long argument")
          else none
        | 's' =>
          if ["bash", "sh", "tcsh", "csh"].contains value then none
          else some (refuse "unknown shell after -s or --shell argument")
        | _ => none
      c.withChecked 2 g check fun o =>
        let names := o.given.flatMap fun (l, value) =>
          if l = 'l' then (readNames value).getD [] else []
        let isOfC := o.value? 's' == some "tcsh" || o.value? 's' == some "csh"
        let go := fun (letters : String) (arguments : List String) =>
          c.printSorted ((o.value? 'n').getD c.title)
            { letters := letters.toList, names := names, allowsOneDash := o.has 'a', isSilent := o.has 'q' }
            (if o.has 'u' then id else scriptQuoted isOfC) (o.has 'Q') arguments
        match o.value? 'o', o.operands with
        | some letters, arguments => go letters arguments
        | none, [] => refuse "missing optstring argument"
        | none, letters :: arguments => go letters arguments

end NativeBuild.Machine.Call
