import NativeBuild.Machine.Utility.Awk.Script
import NativeBuild.Machine.Utility.Awk.Value
import NativeBuild.Machine.Utility.Call

/-
  Running scripts of `awk`: the actions at the beginning, those for each record of the input, and
  those at the end. A script that has to wait for input or for a command stops there and is run again
  from its beginning once there is more.
-/

namespace NativeBuild.Machine.Awk

/-- What a name in a function stands for. -/
inductive Local where
  | value (v : Value)
  | array (id : String)
  /-- Not used yet; it may become an array. -/
  | unused (id : String)

/-- Why what is being done is left. -/
inductive Stop where
  | exit
  | next
  | breakOut
  | goOn
  | giveBack (v : Value)
  /-- More input has to come first. -/
  | starved
  | fault (text : String)
  /-- A command has to be run first. -/
  | request (start : Start)

/-- What a command has left behind. -/
structure Reply where
  status : Nat
  /-- What it printed, if the script wanted to read that. -/
  printed : List UInt8
  files : FileTree

/-- What a script knows and has done. -/
structure State where
  call : Call
  functions : List Function
  globals : List (String × Value) := []
  arrays : List (String × Elements) := []
  locals : List (String × Local) := []
  counter : Nat := 0
  record : List Char := []
  /-- The fields of the record, once they are known. -/
  fields : Option (List (List Char)) := none
  /-- The number of the argument that is looked at next, whether one before has named a file, and
  the records of that file. -/
  position : Nat := 1
  hasRead : Bool := false
  records : Option (List (List Char)) := none
  /-- More records may come from the file. -/
  isOpen : Bool := false
  exitCode : Nat := 0
  /-- What is written, last first: for certain, and once there is an occasion. -/
  flushed : List (Nat × List Char) := []
  printed : List (List Char) := []
  files : FileTree
  /-- The files that are written, what of them is not written yet, last first, and whether it is put
  behind what stands there. -/
  outputs : List (String × Bool × List (List Char)) := []
  /-- The commands that get output, and what they get, last first. -/
  pipes : List (List Char × List (List Char)) := []
  /-- The files and commands that lines are taken from, and what the commands ended with. -/
  inputs : List (String × List (List Char)) := []
  endings : List (String × Nat) := []
  /-- What commands have left behind, as far as that has not been asked for. -/
  replies : List Reply := []
  /-- The rules for ranges in which the record lies. -/
  ranges : List Nat := []
  seed : Float := 0

/-- A step of a script. -/
abbrev Work := ExceptT Stop (StateM State)

/-- Says what is wrong and ends. -/
def fail {α : Type} (text : String) : Work α := throw (.fault text)

/-- The value of a variable that is no local one and not counted. -/
def global (name : String) : Work Value := do
  return ((← get).globals.lookup name).getD .nothing

/-- The text of a variable. -/
def setting (name : String) : Work (List Char) := do return (← global name).toText []

/-- The text of a value. -/
def textOf (v : Value) : Work (List Char) := do
  match v with
  | .number x => if isWhole x then return signed (wholePart x) else return shownIn (← setting "CONVFMT") x
  | v => return v.toText []

/-- The regular expression that a text spells. -/
def regexOf (cs : List Char) : Work Regex := do
  match Regex.parse { extended := true, controls := true, bounded := false } cs with
  | .ok r => return r.regex
  | .error e => fail ("regular expression compile failed (" ++ e ++ ")\n" ++ String.ofList cs)

/-- How a text is searched. -/
def searched (cs : List Char) : Regex.Setting := { text := cs.toArray }

/-- The pieces of a text between matches. -/
def splitAt (r : Regex) (s : Regex.Setting) (cs : List Char) : Nat → Nat → List (List Char)
  | 0, start => [cs.drop start]
  | fuel + 1, start =>
    match r.search s start with
    | none => [cs.drop start]
    | some (first, reached) =>
      if reached.place = first then [cs.drop start]
      else (cs.take first).drop start :: splitAt r s cs fuel reached.place

/-- The pieces of a text between separators. A blank stands for any blanks, and those at the ends
count as none; no separator takes the text apart character by character. -/
def splitText (separator cs : List Char) : Work (List (List Char)) := do
  if cs = [] then return []
  match separator with
  | [' '] => return (piecesAt (fun c => c == ' ' || c == '\t' || c == '\n') cs).filter (· ≠ [])
  | [] => return cs.map fun c => [c]
  | [c] =>
    if c = '\\' then return piecesAt (· == '\\') cs
    else return piecesAt (· == c) cs
  | separator =>
    let r ← regexOf separator
    return splitAt r (searched cs) cs (cs.length + 1) 0

/-- The fields of the record. -/
def fieldsOf : Work (List (List Char)) := do
  let s ← get
  match s.fields with
  | some fields => return fields
  | none => do
    let separator ← setting "FS"
    let paragraphs := (← setting "RS").isEmpty
    let fields ← match paragraphs, separator with
      | true, [' '] => splitText separator s.record
      | true, [c] => pure (piecesAt (fun d => d == c || d == '\n') s.record)
      | _, _ => splitText separator s.record
    set { s with fields := some fields }
    return fields

/-- Gives a new record. -/
def setRecord (cs : List Char) : Work Unit := modify fun s => { s with record := cs, fields := none }

/-- Gives new fields; the record is made of them. -/
def setFields (fields : List (List Char)) : Work Unit := do
  let separator ← setting "OFS"
  modify fun s => { s with record := List.intercalate separator fields, fields := some fields }

/-- The value of a field; the record itself is field zero. -/
def getField (k : Int) : Work Value := do
  if k < 0 then fail ("negative field index $" ++ toString k)
  if k = 0 then return .given (← get).record
  match (← fieldsOf)[k.toNat - 1]? with
  | some cs => return .given cs
  | none => return .nothing

/-- Changes a field. -/
def putField (k : Int) (v : Value) : Work Unit := do
  if k < 0 then fail ("negative field index $" ++ toString k)
  let cs ← textOf v
  if k = 0 then setRecord cs
  else
    let fields ← fieldsOf
    let fields := fields ++ List.replicate (k.toNat - fields.length) []
    setFields (fields.set (k.toNat - 1) cs)

/-- The value of a variable. -/
def getVariable (name : String) : Work Value := do
  match (← get).locals.lookup name with
  | some (.value v) => return v
  | some _ => return .nothing
  | none =>
    if name = "NF" then return .number (Float.ofNat (← fieldsOf).length)
    else global name

/-- Changes a variable that is no local one. -/
def putGlobal (name : String) (v : Value) : Work Unit :=
  modify fun s => { s with globals := stored s.globals name v }

/-- Changes a variable. -/
def putVariable (name : String) (v : Value) : Work Unit := do
  let s ← get
  if (s.locals.lookup name).isSome then
    set { s with locals := stored s.locals name (.value v) }
  else if name = "NF" then
    let fields ← fieldsOf
    let n := (wholePart v.toNumber).toNat
    setFields (fields.take n ++ List.replicate (n - fields.length) [])
  else putGlobal name v

/-- The array that a name stands for. -/
def arrayId (name : String) : Work String := do
  let s ← get
  match s.locals.lookup name with
  | some (.array id) => return id
  | some (.unused id) => do
    set { s with locals := stored s.locals name (.array id) }
    return id
  | some (.value _) => fail ("type error in array " ++ name)
  | none => return name

/-- The elements of an array. -/
def elements (id : String) : Work Elements := do return ((← get).arrays.lookup id).getD []

/-- Changes the elements of an array. -/
def putElements (id : String) (es : Elements) : Work Unit :=
  modify fun s => { s with arrays := stored s.arrays id es }

/-- The value of an element, which is there from then on. -/
def getElement (id : String) (key : List Char) : Work Value := do
  let es ← elements id
  match es.lookup key with
  | some v => return v
  | none => do
    putElements id ((key, .nothing) :: es)
    return .nothing

/-- A text with escapes replaced, as an assignment among the arguments gives it. -/
def unescaped (cs : List Char) : List Char := (unescapeAll cs).1

/-- The records of bytes. One that may go on is left out as long as more may come. -/
def recordsOf (complete : Bool) (bytes : List UInt8) : Work (List (List Char)) := do
  let cs := ofBytes bytes
  match ← setting "RS" with
  | ['\n'] => return (Call.linesOf complete bytes).1.map ofBytes
  | [] =>
    let lines := linesIn cs
    let groups := lines.foldr (fun line (groups : List (List (List Char))) =>
      if line = [] then [] :: groups
      else match groups with
        | g :: rest => (line :: g) :: rest
        | [] => [[line]]) [[]]
    return (groups.filter (· ≠ [])).map (List.intercalate ['\n'])
  | separator =>
    let pieces ← match separator with
      | [c] => pure (piecesAt (· == c) cs)
      | separator => do
        let r ← regexOf separator
        pure (splitAt r (searched cs) cs (cs.length + 1) 0)
    return if pieces.getLast? = some [] ∨ complete = false then pieces.dropLast else pieces

/-- Counts a record. -/
def count (name : String) : Work Unit := do
  putGlobal name (.number ((← global name).toNumber + 1))

/-- The name and the text of an assignment among the arguments. -/
def assignmentIn? (operand : String) : Option (String × List Char) :=
  let name := operand.toList.takeWhile isNameCharacter
  match operand.toList.drop name.length with
  | '=' :: value =>
    if name.head?.any fun c => !c.isDigit then some (String.ofList name, unescaped value) else none
  | _ => none

/-- Takes the next record of the input; nothing is left in the end. -/
def nextRecord : Nat → Work (Option (List Char))
  | 0 => return none
  | fuel + 1 => do
    let s ← get
    match s.records with
    | some (r :: rest) => do
      set { s with records := some rest }
      count "NR"
      count "FNR"
      return some r
    | some [] =>
      if s.isOpen then throw .starved
      set { s with records := none }
      nextRecord fuel
    | none => do
      let count := (wholePart (← global "ARGC").toNumber).toNat
      if count ≤ s.position ∧ s.hasRead then return none
      let given := ((← elements "ARGV").lookup (decimal s.position)).map fun v => v.toText []
      let operand := if count ≤ s.position then "-" else String.ofList (given.getD [])
      set { s with position := s.position + 1 }
      match assignmentIn? operand with
      | some (name, value) => putVariable name (.given value)
      | none =>
        if operand ≠ "" then
          modify fun s => { s with hasRead := true }
          match s.call.content operand with
          | .bytes data => do
            putGlobal "FILENAME" (.text operand.toList)
            putGlobal "FNR" (.number 0)
            let isOpen := s.call.isPending operand
            let records ← recordsOf (!isOpen) data
            modify fun s => { s with records := some records, isOpen := isOpen }
          | .endless => pure ()
          | .fault text => fail ("cannot open \"" ++ operand ++ "\" (" ++ text ++ ")")
      nextRecord fuel

/-- How often arguments can be looked at before there is a record. -/
def recordFuel : Work Nat := do
  let s ← get
  return (wholePart (← global "ARGC").toNumber).toNat - s.position + 6

/-- Writes what is certain. -/
def flush : Work Unit :=
  modify fun s => { s with
    flushed := (s.printed.map fun cs => (1, cs)) ++ s.flushed, printed := [] }

/-- Writes what was printed to a file. -/
def saveOutput (name : String) : Work Unit := do
  let s ← get
  match s.outputs.lookup name with
  | none => pure ()
  | some (appended, parts) =>
    let bytes := toBytes parts.reverse.flatten
    match s.files.writeFile s.call.cwd (outward name) bytes (0o666 &&& (0o777 - (s.call.umask &&& 0o777)))
        appended with
    | .ok files => set { s with files := files, outputs := stored s.outputs name (true, []) }
    | .error e => fail ("cannot open \"" ++ name ++ "\" for output (" ++ e.text ++ ")")

/-- What a command leaves behind that gets bytes to read. -/
def runCommand (command : List Char) (input : Option (List UInt8)) (listens : Bool := false) :
    Work Reply := do
  let s ← get
  match s.replies with
  | reply :: rest => do
    set { s with replies := rest, files := reply.files }
    return reply
  | [] => throw (.request {
      tokens := ["sh", "-c", String.ofList command], environment := s.call.environment
      input := input, listens := listens })

/-- Closes a file or a command. -/
def close (name : List Char) : Work Value := do
  let s ← get
  let file := String.ofList name
  if (s.outputs.lookup file).isSome then
    saveOutput file
    modify fun s => { s with outputs := s.outputs.filter (·.1 != file) }
    return .number 0
  else if let some parts := s.pipes.lookup name then
    let reply ← runCommand name (some (toBytes parts.reverse.flatten))
    modify fun s => { s with pipes := s.pipes.filter (·.1 != name) }
    return .number (Float.ofNat reply.status)
  else if (s.inputs.lookup file).isSome then
    set { s with
      inputs := s.inputs.filter (·.1 != file), endings := s.endings.filter (·.1 != file) }
    return .number (Float.ofNat ((s.endings.lookup file).getD 0))
  else return .number (-1)

/-- Prints a text. -/
def emit (cs : List Char) : Work Unit := modify fun s => { s with printed := cs :: s.printed }

/-- Prints a text to a file. -/
def emitTo (name : String) (appended : Bool) (cs : List Char) : Work Unit := do
  if name = "/dev/stdout" ∨ name = "-" then emit cs
  else if name = "/dev/stderr" then modify fun s => { s with flushed := (2, cs) :: s.flushed }
  else
    let s ← get
    match s.outputs.lookup name with
    | some (mode, parts) => set { s with outputs := stored s.outputs name (mode, cs :: parts) }
    | none => do
      set { s with outputs := s.outputs ++ [(name, appended, [])] }
      saveOutput name
      modify fun s => { s with outputs := stored s.outputs name (true, [cs]) }

/-- Prints a text to a command. -/
def emitInto (command cs : List Char) : Work Unit :=
  modify fun s => { s with
    pipes := stored s.pipes command (cs :: (s.pipes.lookup command).getD []) }

/-- A replacement with the match in place of each ampersand. -/
def replaced (found : List Char) : List Char → List Char
  | '\\' :: '&' :: rest => '&' :: replaced found rest
  | '\\' :: '\\' :: rest => '\\' :: replaced found rest
  | '&' :: rest => found ++ replaced found rest
  | c :: rest => c :: replaced found rest
  | [] => []

/-- A text with matches replaced, and how many they are. An empty match directly behind another one
is none. -/
def substitute (r : Regex) (s : Regex.Setting) (new cs : List Char) (all : Bool) :
    Nat → Nat → Option Nat → List Char × Nat
  | 0, start, _ => (cs.drop start, 0)
  | fuel + 1, start, previous =>
    match r.search s start with
    | none => (cs.drop start, 0)
    | some (first, reached) =>
      let stop := reached.place
      let front := (cs.take first).drop start
      let found := (cs.take stop).drop first
      let next := (cs.drop stop).take 1
      if first < stop then
        let (rest, n) := if all then substitute r s new cs all fuel stop (some stop)
          else (cs.drop stop, 0)
        (front ++ replaced found new ++ rest, n + 1)
      else
        let skipped := previous = some first
        let put := if skipped then [] else replaced found new
        if next = [] then (front ++ put, if skipped then 0 else 1)
        else
          let (rest, n) := if all then substitute r s new cs all fuel (stop + 1) none
            else (cs.drop (stop + 1), 0)
          (front ++ put ++ next ++ rest, if skipped then n else n + 1)

/-- A part of a text, from a place on and of a length. A place before the first one counts as the
first, and the length grows by what lies between zero and the place. -/
def part (cs : List Char) (start : Float) (length : Option Float) : List Char :=
  let first := wholePart start - 1
  let count := match length with
    | some n => if n.isNaN then 0 else min (wholePart n) 2147483647
    | none => (cs.length : Int)
  let count := if first < 0 then count - (first + 1) else count
  (cs.drop first.toNat).take count.toNat

/-- The place of a part in a text, from one on; zero if it is none. -/
def placeOf (part : List Char) : Nat → List Char → Nat
  | k, cs =>
    if part.isPrefixOf cs then k
    else match cs with
      | [] => 0
      | _ :: rest => placeOf part (k + 1) rest

/-- What an operation gives. -/
def operate (op : Operation) (a b : Value) : Work Value := do
  let x := a.toNumber
  let y := b.toNumber
  let compared := fun (test : Ordering → Bool) (unordered : Bool) => do
    if a.isNumeric && b.isNumeric then
      if x.isNaN || y.isNaN then return Value.ofBool unordered
      return Value.ofBool (test (if x < y then .lt else if y < x then .gt else .eq))
    else
      let s := (← textOf a).map Char.toNat
      let t := (← textOf b).map Char.toNat
      return Value.ofBool (test (if s < t then .lt else if t < s then .gt else .eq))
  match op with
  | .add => return .number (x + y)
  | .subtract => return .number (x - y)
  | .multiply => return .number (x * y)
  | .divide => return .number (x / y)
  | .remainder =>
    let q := x / y
    return .number (x - y * (if q < 0 then q.ceil else q.floor))
  | .power => return .number (x.pow y)
  | .join => return .text ((← textOf a) ++ (← textOf b))
  | .less => compared (· == .lt) false
  | .atMost => compared (· != .gt) false
  | .equal => compared (· == .eq) false
  | .unequal => compared (· != .eq) true
  | .greater => compared (· == .gt) false
  | .atLeast => compared (· != .lt) false

/-- How often a loop may turn, and how deep functions may call each other. -/
def limit : Nat := 1000000000

mutual

/-- The key that values make up. -/
def keyOf : Nat → List Expression → Work (List Char)
  | 0, _ => fail "too deep"
  | fuel + 1, es => do
    let mut parts := []
    for e in es do
      parts := parts ++ [← textOf (← evaluate fuel e)]
    return List.intercalate (← setting "SUBSEP") parts

/-- The regular expression that an expression stands for. -/
def patternOf : Nat → Expression → Work Regex
  | 0, _ => fail "too deep"
  | fuel + 1, e =>
    match e with
    | .regex cs => regexOf cs
    | e => do regexOf (← textOf (← evaluate fuel e))

/-- Changes the value at a place. -/
def store : Nat → Expression → Value → Work Unit
  | 0, _, _ => fail "too deep"
  | fuel + 1, target, v => do
    match target with
    | .named name => putVariable name v
    | .field e => do putField (wholePart (← evaluate fuel e).toNumber) v
    | .element array keys => do
      let key ← keyOf fuel keys
      let id ← arrayId array
      putElements id (stored (← elements id) key v)
    | .grouped [e] => store fuel e v
    | _ => fail "no place for a value"

/-- The value of an expression. -/
def evaluate : Nat → Expression → Work Value
  | 0, _ => fail "too deep"
  | fuel + 1, e => do
    match e with
    | .number x => return .number x
    | .text cs => return .text cs
    | .regex cs => do
      let r ← regexOf cs
      return .ofBool (r.search (searched (← get).record) 0).isSome
    | .named name => getVariable name
    | .field e => do getField (wholePart (← evaluate fuel e).toNumber)
    | .element array keys => do
      let key ← keyOf fuel keys
      getElement (← arrayId array) key
    | .grouped [e] => evaluate fuel e
    | .grouped es => do return .text (← keyOf fuel es)
    | .member keys array => do
      let key ← keyOf fuel keys
      return .ofBool ((← elements (← arrayId array)).any fun e => e.1 == key)
    | .matching negated e pattern => do
      let cs ← textOf (← evaluate fuel e)
      let r ← patternOf fuel pattern
      return .ofBool ((r.search (searched cs) 0).isSome != negated)
    | .operation op a b => do
      let x ← evaluate fuel a
      let y ← evaluate fuel b
      operate op x y
    | .both a b => do
      if (← evaluate fuel a).isTrue then return .ofBool (← evaluate fuel b).isTrue
      else return .ofBool false
    | .either a b => do
      if (← evaluate fuel a).isTrue then return .ofBool true
      else return .ofBool (← evaluate fuel b).isTrue
    | .opposite e => do return .ofBool (!(← evaluate fuel e).isTrue)
    | .sign negative e => do
      let x := (← evaluate fuel e).toNumber
      return .number (if negative then -x else x)
    | .choice test yes no => do
      if (← evaluate fuel test).isTrue then evaluate fuel yes else evaluate fuel no
    | .assign op target value => do
      let v ← evaluate fuel value
      let v ← match op with
        | none => pure v
        | some op => do operate op (← evaluate fuel target) v
      store fuel target v
      return v
    | .step first up target => do
      let old := (← evaluate fuel target).toNumber
      let new := if up then old + 1 else old - 1
      store fuel target (.number new)
      return .number (if first then new else old)
    | .nextLine target file => do
      let line? ← match file with
        | none => nextRecord (← recordFuel)
        | some e => do
          let name := String.ofList (← textOf (← evaluate fuel e))
          let s ← get
          match s.inputs.lookup name with
          | some (line :: rest) => do
            set { s with inputs := stored s.inputs name rest }
            pure (some line)
          | some [] => pure none
          | none => do
            match ({ s.call with files := s.files } : Call).content name with
            | .fault _ => return .number (-1)
            | .endless => pure none
            | .bytes data => do
              if Call.isInput name && !s.call.ended then throw .starved
              let lines ← recordsOf true data
              modify fun s => { s with inputs := (name, lines.drop 1) :: s.inputs }
              pure lines.head?
      match line? with
      | none => return .number 0
      | some line => do
        match target with
        | some target => store fuel target (.given line)
        | none => setRecord line
        return .number 1
    | .nextOutput target command => do
      let command ← textOf (← evaluate fuel command)
      let name := String.ofList command
      if ((← get).inputs.lookup name).isNone then
        flush
        for (file, _) in (← get).outputs do
          saveOutput file
        let reply ← runCommand command none true
        let lines ← recordsOf true reply.printed
        modify fun s => { s with
          inputs := (name, lines) :: s.inputs, endings := (name, reply.status) :: s.endings }
      let s ← get
      match s.inputs.lookup name with
      | some (line :: rest) => do
        set { s with inputs := stored s.inputs name rest }
        match target with
        | some target => store fuel target (.given line)
        | none => do
          setRecord line
          count "NR"
        return .number 1
      | _ => return .number 0
    | .call name arguments => do
      match (← get).functions.find? fun f => f.name == name with
      | none => fail ("function " ++ name ++ " never defined")
      | some f => do
        let mut given : List (String × Local) := []
        for (parameter, argument) in f.parameters.zip arguments do
          let l : Local ← match argument with
            | .named name => do
              let s ← get
              match s.locals.lookup name with
              | some (.value v) => pure (.value v)
              | some l => pure l
              | none =>
                if (s.arrays.lookup name).isSome then pure (.array name)
                else if (s.globals.lookup name).isNone && name != "NF" then pure (.unused name)
                else do pure (.value (← getVariable name))
            | e => do pure (.value (← evaluate fuel e))
          given := given ++ [(parameter, l)]
        for parameter in f.parameters.drop arguments.length do
          let n := (← get).counter
          modify fun s => { s with counter := n + 1 }
          given := given ++ [(parameter, .unused ("\x00" ++ toString n))]
        let outer := (← get).locals
        modify fun s => { s with locals := given }
        let result ← tryCatch (do
            perform fuel f.body
            pure Value.nothing) fun stop => match stop with
          | .giveBack v => pure v
          | stop => throw stop
        modify fun s => { s with locals := outer }
        return result
    | .builtin name arguments => builtin fuel name arguments

/-- The value of a function that every script knows. -/
def builtin : Nat → String → List Expression → Work Value
  | 0, _, _ => fail "too deep"
  | fuel + 1, name, arguments => do
    let text := fun (k : Nat) => do
      match arguments[k]? with
      | some e => textOf (← evaluate fuel e)
      | none => pure []
    let number := fun (k : Nat) => do
      match arguments[k]? with
      | some e => do pure (← evaluate fuel e).toNumber
      | none => pure (0 : Float)
    match name, arguments with
    | "length", [] => return .number (Float.ofNat (← get).record.length)
    | "length", [.named array] => do
      let s ← get
      let id ← match s.locals.lookup array with
        | some (.array id) => pure (some id)
        | some _ => pure none
        | none => pure (if (s.arrays.lookup array).isSome then some array else none)
      match id with
      | some id => return .number (Float.ofNat (← elements id).length)
      | none => return .number (Float.ofNat (← textOf (← getVariable array)).length)
    | "length", _ => return .number (Float.ofNat (← text 0).length)
    | "substr", _ => do
      let cs ← text 0
      let start ← number 1
      let length ← if arguments.length < 3 then pure none else do pure (some (← number 2))
      return .text (part cs start length)
    | "index", _ => do
      let cs ← text 0
      let part ← text 1
      return .number (Float.ofNat (placeOf part 1 cs))
    | "split", _ => do
      let cs ← text 0
      let pieces ← match arguments[2]? with
        | some (Expression.regex r) => do
          let r ← regexOf r
          pure (if cs = [] then [] else splitAt r (searched cs) cs (cs.length + 1) 0)
        | some e => do splitText (← textOf (← evaluate fuel e)) cs
        | none => do splitText (← setting "FS") cs
      match arguments[1]? with
      | some (Expression.named array) => do
        let id ← arrayId array
        putElements id (pieces.zipIdx 1 |>.map fun (cs, k) => (decimal k, Value.given cs)).reverse
        return .number (Float.ofNat pieces.length)
      | _ => fail "type error in split"
    | "sub", _ | "gsub", _ => do
      let r ← match arguments[0]? with
        | some e => patternOf fuel e
        | none => pure Regex.empty
      let new ← text 1
      let target := arguments[2]?.getD (.field (.number 0))
      let cs ← textOf (← evaluate fuel target)
      let (result, n) := substitute r (searched cs) new cs (name == "gsub") (cs.length + 2) 0 none
      if 0 < n then store fuel target (.text result)
      return .number (Float.ofNat n)
    | "match", _ => do
      let cs ← text 0
      let r ← match arguments[1]? with
        | some e => patternOf fuel e
        | none => pure Regex.empty
      let (start, length) : Int × Int := match r.search (searched cs) 0 with
        | some (first, reached) => ((first : Int) + 1, (reached.place : Int) - first)
        | none => (0, -1)
      putGlobal "RSTART" (.number (Float.ofInt start))
      putGlobal "RLENGTH" (.number (Float.ofInt length))
      return .number (Float.ofInt start)
    | "sprintf", format :: rest => do
      let format ← textOf (← evaluate fuel format)
      let mut values := []
      for e in rest do
        values := values ++ [← evaluate fuel e]
      let (cs, isWhole) := formatted (← setting "CONVFMT") (format.length + 1) format values
      unless isWhole do
        fail ("not enough arguments passed to sprintf(\"" ++ String.ofList format ++ "\")")
      return .text cs
    | "sin", _ => return .number (← number 0).sin
    | "cos", _ => return .number (← number 0).cos
    | "atan2", _ => do
      let y ← number 0
      return .number (y.atan2 (← number 1))
    | "exp", _ => return .number (← number 0).exp
    | "log", _ => return .number (← number 0).log
    | "sqrt", _ => return .number (← number 0).sqrt
    | "int", _ => do
      let x ← number 0
      return .number (if x < 0 then x.ceil else x.floor)
    | "rand", _ => do
      let s ← get
      let seed := s.counter * 1103515245 + 12345
      set { s with counter := seed % 2147483648 }
      return .number (Float.ofNat (seed % 2147483648) / 2147483648.0)
    | "srand", _ => do
      let old := (← get).seed
      let new ← number 0
      modify fun s => { s with seed := new, counter := (wholePart new).toNat }
      return .number old
    | "tolower", _ => return .text ((← text 0).map Char.toLower)
    | "toupper", _ => return .text ((← text 0).map Char.toUpper)
    | "system", _ => do
      let command ← text 0
      flush
      for (file, _) in (← get).outputs do
        saveOutput file
      return .number (Float.ofNat (← runCommand command none).status)
    | "close", _ => do close (← text 0)
    | "fflush", _ => do
      flush
      return .number 0
    | _, _ => return .number (-1)

/-- Does a statement. -/
def perform : Nat → Statement → Work Unit
  | 0, _ => fail "too deep"
  | fuel + 1, s => do
    match s with
    | .block ss =>
      for s in ss do
        perform fuel s
    | .expression e => do
      let _ ← evaluate fuel e
    | .print isFormatted es outlet => do
      let mut values := []
      for e in es do
        values := values ++ [← evaluate fuel e]
      let shown ← if isFormatted then do
          let format ← textOf (values.headD .nothing)
          let (cs, isWhole) := formatted (← setting "CONVFMT") (format.length + 1) format (values.drop 1)
          unless isWhole do
            emit cs
            fail ("not enough arguments passed to printf(\"" ++ String.ofList format ++ "\")")
          pure cs
        else do
          let format ← setting "OFMT"
          let record := (← get).record
          let printed := if es.isEmpty then [Value.given record] else values
          let parts := printed.map fun v => v.toText format
          pure (List.intercalate (← setting "OFS") parts ++ (← setting "ORS"))
      match outlet with
      | none => emit shown
      | some (.file name appended) => do
        emitTo (String.ofList (← textOf (← evaluate fuel name))) appended shown
      | some (.command command) => do emitInto (← textOf (← evaluate fuel command)) shown
    | .branch test yes no => do
      if (← evaluate fuel test).isTrue then perform fuel yes
      else match no with
        | some no => perform fuel no
        | none => pure ()
    | .loop test body after => do
      for _ in [0:limit] do
        let goesOn ← match test with
          | some e => do pure (← evaluate fuel e).isTrue
          | none => pure true
        if goesOn = false then break
        if ← turn fuel body then break
        match after with
        | some s => perform fuel s
        | none => pure ()
    | .loopOnce body test => do
      for _ in [0:limit] do
        if ← turn fuel body then break
        unless (← evaluate fuel test).isTrue do break
    | .each name array body => do
      let id ← arrayId array
      for key in (← elements id).keys do
        putVariable name (.given key)
        if ← turn fuel body then break
    | .next => throw .next
    | .exit e => do
      match e with
      | some e => do
        let code := wholePart (← evaluate fuel e).toNumber
        modify fun s => { s with exitCode := (code % 256).toNat }
      | none => pure ()
      throw .exit
    | .giveBack e => do
      match e with
      | some e => throw (.giveBack (← evaluate fuel e))
      | none => throw (.giveBack .nothing)
    | .breakOut => throw .breakOut
    | .goOn => throw .goOn
    | .delete array keys => do
      let id ← arrayId array
      if keys.isEmpty then putElements id []
      else
        let key ← keyOf fuel keys
        putElements id ((← elements id).filter fun e => e.1 != key)

/-- Does the body of a loop; tells whether the loop is left. -/
def turn : Nat → Statement → Work Bool
  | 0, _ => fail "too deep"
  | fuel + 1, body => tryCatch (do
      perform fuel body
      pure false) fun stop => match stop with
    | .breakOut => pure true
    | .goOn => pure false
    | stop => throw stop

end

/-- How deep statements, expressions and functions may lie in each other. -/
def depth : Nat := 100000

/-- Whether a rule asks for its action, seen from the record. -/
def applies (k : Nat) : Pattern → Work Bool
  | .begin | .finish => return false
  | .always => return true
  | .test e => return (← evaluate depth e).isTrue
  | .range first last => do
    let isInside := (← get).ranges.contains k
    let starts ← if isInside then pure true else do pure (← evaluate depth first).isTrue
    if starts = false then return false
    let isLast := (← evaluate depth last).isTrue
    modify fun s =>
      let others := s.ranges.filter (· != k)
      { s with ranges := if isLast then others else k :: others }
    return true

/-- Does what the rules ask for, for all records. -/
def performRules (script : Script) : Work Unit := do
  let rules := script.rules.zipIdx
  for _ in [0:limit] do
    match ← nextRecord (← recordFuel) with
    | none => break
    | some record => do
      setRecord record
      tryCatch (do
        for ((pattern, action), k) in rules do
          if ← applies k pattern then perform depth action) fun stop => match stop with
        | .next => pure ()
        | stop => throw stop

/-- Closes all that is open. -/
def closeAll : Work Unit := do
  for (file, _) in (← get).outputs do
    saveOutput file
  for (command, _) in (← get).pipes do
    let _ ← close command
  flush

/-- Runs a script. -/
def runScript (script : Script) : Work Unit := do
  let isMain := fun (p : Pattern) => match p with
    | .begin => false
    | _ => true
  let actions := fun (isWanted : Pattern → Bool) => do
    for (pattern, action) in script.rules do
      if isWanted pattern then perform depth action
  let untilExit := fun (work : Work Unit) => tryCatch work fun stop => match stop with
    | .exit => pure ()
    | stop => throw stop
  untilExit do
    tryCatch (actions fun p => match p with
      | .begin => true
      | _ => false) fun stop => match stop with
      | .exit => do
        modify fun s => { s with
          position := limit, hasRead := true, records := none, isOpen := false }
      | stop => throw stop
    if script.rules.any fun r => isMain r.1 then
      tryCatch (performRules script) fun stop => match stop with
        | .exit => pure ()
        | stop => throw stop
      actions fun p => match p with
        | .finish => true
        | _ => false
  closeAll

end NativeBuild.Machine.Awk

namespace NativeBuild.Machine.Call

/-- Pieces of output joined where they go to one place. -/
def joinedWrites (writes : List (Nat × List Char)) : List (Nat × List UInt8) :=
  writes.foldr (fun (d, cs) (rest : List (Nat × List UInt8)) =>
    match rest with
    | (e, bytes) :: more => if d = e then (d, toBytes cs ++ bytes) :: more else (d, toBytes cs) :: rest
    | [] => [(d, toBytes cs)]) []

/-- Runs a script for each record of its input. -/
def awk (c : Call) : Progress :=
  let g : Grammar := { letters := "F:v:f:W:", anywhere := false }
  c.withOptions 2 g fun o =>
    let files := (o.given.filter (·.1 == 'f')).map (·.2)
    let sources := files.map fun name => (name, c.content name)
    match sources.findSome? fun (name, content) => match content with
      | .fault text => some (name, text)
      | _ => none with
    | some (name, text) => c.fails 2 ("cannot open \"" ++ name ++ "\" (" ++ text ++ ")")
    | none =>
      let given := sources.map fun (_, content) => match content with
        | .bytes data => ofBytes data
        | _ => []
      match if files = [] then (o.operands.head?.map fun t => (t.toList, o.operands.drop 1))
        else some (given.flatten, o.operands) with
      | none => c.ends 2 [c.message "no program given"]
      | some (text, operands) =>
        match Awk.readScript text with
        | .error (line, e) => c.fails 2 ("line " ++ toString line ++ ": " ++ e)
        | .ok script =>
          let reads := operands.all (fun a => (Awk.assignmentIn? a).isSome || isInput a)
          let size := c.input.length
          let isDue := Nat.log2 (size / 4096 + 1) ≠ Nat.log2 ((size - chunkSize) / 4096 + 1)
          if reads && !c.ended && size ≠ 0 && !isDue then c.waits []
          else
            let environ := c.environment.map fun (name, value) =>
              (name.toList, Awk.Value.given value.toList)
            let words := c.title :: operands
            let trees := (c.before :: c.snapshots).dropLast ++ [c.files]
            let start : Awk.State := {
              call := c, functions := script.functions
              files := trees.headD c.files
              replies := ((c.replies.zip c.heard).zip (trees.drop 1)).map fun ((status, heard), t) =>
                ⟨status, heard, t⟩
              globals := [("FS", .text [' ']), ("OFS", .text [' ']), ("ORS", .text ['\n']),
                ("RS", .text ['\n']), ("SUBSEP", .text ['\x1c']), ("CONVFMT", .text "%.6g".toList),
                ("OFMT", .text "%.6g".toList), ("NR", .number 0), ("FNR", .number 0),
                ("FILENAME", .text []), ("RSTART", .number 0), ("RLENGTH", .number (-1)),
                ("ARGC", .number (Float.ofNat words.length))]
              arrays := [("ENVIRON", environ), ("ARGV", (words.zipIdx.map fun (w, k) =>
                (decimal k, Awk.Value.given w.toList)).reverse)] }
            let settings := o.given.filterMap fun (letter, value) =>
              match letter with
              | 'F' => some ("FS", .text (Awk.unescaped (if value = "t" then ['t'] else value.toList)))
              | 'v' => (Awk.assignmentIn? value).map fun (name, value) => (name, Awk.Value.given value)
              | _ => none
            let start := { start with
              globals := settings.foldl (fun gs (name, v) => Awk.stored gs name v) start.globals }
            let (result, s) := (Awk.runScript script).run.run start
            let sure := s.flushed.reverse
            let all := sure ++ s.printed.reverse.map fun cs => (1, cs)
            match result with
            | .ok () => ⟨joinedWrites all, s.files, .done s.exitCode 0⟩
            | .error .starved => c.waits (joinedWrites all)
            | .error (.request start) => ⟨joinedWrites sure, s.files, .spawn start⟩
            | .error (.fault text) =>
              let isOpening := "cannot open".isPrefixOf text
              let place := "\n\tFILENAME=\"" ++ String.ofList (((s.globals.lookup "FILENAME").getD
                .nothing).toText []) ++ "\" FNR=" ++ String.ofList (((s.globals.lookup "FNR").getD
                .nothing).toText []) ++ " NR=" ++ String.ofList (((s.globals.lookup "NR").getD
                .nothing).toText [])
              let message := if isOpening then text else "run time error: " ++ text ++ place
              ⟨joinedWrites all ++ [c.message message], s.files, .done 2 0⟩
            | .error _ => ⟨joinedWrites all, s.files, .done 2 0⟩

end NativeBuild.Machine.Call
