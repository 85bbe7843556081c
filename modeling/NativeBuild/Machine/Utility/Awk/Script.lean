import NativeBuild.Machine.Format
import NativeBuild.Machine.Regex

/-
  Scripts of `awk`: their tokens, their statements and expressions, and how they are read. Where a
  value stands, a slash starts a regular expression; elsewhere it divides.
-/

namespace NativeBuild.Machine.Awk

/-- An operation on two values. -/
inductive Operation where
  | add
  | subtract
  | multiply
  | divide
  | remainder
  | power
  | join
  | less
  | atMost
  | equal
  | unequal
  | greater
  | atLeast
  deriving Repr, DecidableEq

/-- An expression. -/
inductive Expression where
  | number (x : Float)
  | text (cs : List Char)
  | regex (cs : List Char)
  | named (name : String)
  | field (e : Expression)
  | element (array : String) (keys : List Expression)
  | grouped (es : List Expression)
  | member (keys : List Expression) (array : String)
  | matching (negated : Bool) (e pattern : Expression)
  | operation (op : Operation) (a b : Expression)
  | both (a b : Expression)
  | either (a b : Expression)
  | opposite (e : Expression)
  | sign (negative : Bool) (e : Expression)
  | choice (test yes no : Expression)
  | assign (op : Option Operation) (target value : Expression)
  /-- A step up or down; its value is that from before or from after it. -/
  | step (first up : Bool) (target : Expression)
  | call (name : String) (arguments : List Expression)
  | builtin (name : String) (arguments : List Expression)
  | nextLine (target : Option Expression) (file : Option Expression)
  /-- The next line of what a command prints. -/
  | nextOutput (target : Option Expression) (command : Expression)

/-- Where output goes. -/
inductive Outlet where
  | file (name : Expression) (appended : Bool)
  | command (text : Expression)

/-- A statement. -/
inductive Statement where
  | block (ss : List Statement)
  | expression (e : Expression)
  | print (formatted : Bool) (es : List Expression) (outlet : Option Outlet)
  | branch (test : Expression) (yes : Statement) (no : Option Statement)
  | loop (test : Option Expression) (body : Statement) (after : Option Statement)
  | loopOnce (body : Statement) (test : Expression)
  | each (name array : String) (body : Statement)
  | next
  | exit (e : Option Expression)
  | giveBack (e : Option Expression)
  | breakOut
  | goOn
  | delete (array : String) (keys : List Expression)

/-- When an action is done. -/
inductive Pattern where
  | begin
  | finish
  | always
  | test (e : Expression)
  | range (first last : Expression)

/-- A function. -/
structure Function where
  name : String
  parameters : List String
  body : Statement

/-- A script: patterns with their actions, and functions. -/
structure Script where
  rules : List (Pattern × Statement) := []
  functions : List Function := []

/-- A token of a script. -/
inductive Token where
  | number (x : Float)
  | text (cs : List Char)
  | regex (cs : List Char)
  | name (s : String)
  /-- A name with a parenthesis directly behind it. -/
  | called (s : String)
  | word (s : String)
  | builtin (s : String)
  | sign (s : String)
  | newline
  deriving BEq

/-- Words with a meaning of their own. -/
def words : List String :=
  ["BEGIN", "END", "function", "func", "if", "else", "while", "for", "do", "break", "continue",
    "next", "nextfile", "exit", "return", "delete", "in", "getline", "print", "printf"]

/-- Functions that every script knows. -/
def builtins : List String :=
  ["length", "substr", "index", "split", "sub", "gsub", "match", "sprintf", "sin", "cos", "atan2",
    "exp", "log", "sqrt", "int", "rand", "srand", "tolower", "toupper", "system", "close", "fflush"]

/-- A token shows the end of a value, so that what follows is an operator. -/
def Token.endsValue : Token → Bool
  | number _ | text _ | regex _ | name _ => true
  | builtin s => s == "length"
  | sign s => [")", "]", "$", "++", "--"].contains s
  | _ => false

/-- A token as complaints show it. -/
def Token.shown : Token → String
  | number x => toString x
  | text cs => String.ofList cs
  | regex cs => "/" ++ String.ofList cs ++ "/"
  | name s | called s | word s | builtin s | sign s => s
  | newline => "end of line"

/-- The operators, longer ones first. -/
def signs : List String :=
  ["**=", "&&", "||", "++", "--", "+=", "-=", "*=", "/=", "%=", "^=", "==", "<=", ">=", "!=", "!~",
    ">>", "**", "\x7b", "\x7d", "(", ")", "[", "]", ";", ",", "+", "-", "*", "/", "%", "^", "!", ">",
    "<", "|", "?", ":", "~", "$", "="]

/-- The characters of a text up to its closing quote, and what follows it. -/
def readText : Nat → List Char → List Char → Option (List Char × List Char)
  | 0, _, _ => none
  | fuel + 1, taken, cs =>
    match cs with
    | [] | '\n' :: _ => none
    | '"' :: rest => some (taken.reverse, rest)
    | '\\' :: '\n' :: rest => readText fuel taken rest
    | '\\' :: '"' :: rest => readText fuel ('"' :: taken) rest
    | '\\' :: rest =>
      let (c, rest) := escape rest
      readText fuel (c :: taken) rest
    | c :: rest => readText fuel (c :: taken) rest

/-- The characters of a regular expression up to its closing slash, and what follows it. -/
def readRegex : Nat → Bool → List Char → List Char → Option (List Char × List Char)
  | 0, _, _, _ => none
  | fuel + 1, inSet, taken, cs =>
    match cs with
    | [] | '\n' :: _ => none
    | '\\' :: '/' :: rest => readRegex fuel inSet ('/' :: taken) rest
    | '\\' :: c :: rest => readRegex fuel inSet (c :: '\\' :: taken) rest
    | '[' :: '^' :: ']' :: rest =>
      if inSet then readRegex fuel true ('[' :: taken) ('^' :: ']' :: rest)
      else readRegex fuel true (']' :: '^' :: '[' :: taken) rest
    | '[' :: ']' :: rest =>
      if inSet then readRegex fuel true ('[' :: taken) (']' :: rest)
      else readRegex fuel true (']' :: '[' :: taken) rest
    | '[' :: rest => readRegex fuel true ('[' :: taken) rest
    | ']' :: rest => readRegex fuel false (']' :: taken) rest
    | c :: rest =>
      if c = '/' ∧ inSet = false then some (taken.reverse, rest)
      else readRegex fuel inSet (c :: taken) rest

/-- The complaint about a text or an expression that the line ends in, with its start. -/
def unclosed (what : String) (cs : List Char) : String :=
  "runaway " ++ what ++ " " ++ String.ofList ((cs.takeWhile (· ≠ '\n')).take 11) ++ " ..."

/-- The number in front of a text, and what follows it. -/
def readNumber (cs : List Char) : Float × List Char :=
  let whole := cs.takeWhile Char.isDigit
  let rest := cs.drop whole.length
  let places := if rest.head? = some '.' then (rest.drop 1).takeWhile Char.isDigit else []
  let rest := if rest.head? = some '.' then rest.drop (1 + places.length) else rest
  let (power, rest) := powerBehind 'e' rest
  let power := power - places.length
  let power := max (-5000) (min 5000 power)
  (Float.ofScientific (ofDigits 10 (whole ++ places)) (power < 0) power.natAbs, rest)

/-- A character of a name. -/
def isNameCharacter (c : Char) : Bool := c.isAlphanum || c == '_'

/-- The tokens of a script with their lines, last first. -/
def tokensOf : Nat → Nat → List Char → List (Token × Nat) → Except (Nat × String) (List (Token × Nat))
  | 0, _, _, taken => .ok taken
  | fuel + 1, line, cs, taken =>
    let operand := (taken.head?.map fun t => t.1.endsValue).getD false
    let go := fun (t : Token) (rest : List Char) => tokensOf fuel line rest ((t, line) :: taken)
    match cs with
    | [] => .ok taken
    | '\n' :: rest => tokensOf fuel (line + 1) rest ((.newline, line) :: taken)
    | '\\' :: '\n' :: rest => tokensOf fuel (line + 1) rest taken
    | '\\' :: '\r' :: '\n' :: rest => tokensOf fuel (line + 1) rest taken
    | '#' :: rest => tokensOf fuel line (rest.dropWhile (· ≠ '\n')) taken
    | '"' :: rest =>
      match readText (rest.length + 1) [] rest with
      | some (text, rest) => go (.text text) rest
      | none => .error (line, unclosed "string constant" cs)
    | c :: rest =>
      if c = ' ' ∨ c = '\t' ∨ c = '\r' then tokensOf fuel line rest taken
      else if c.isDigit ∨ (c = '.' ∧ rest.head?.any Char.isDigit) then
        let (x, rest) := readNumber cs
        go (.number x) rest
      else if c.isAlpha ∨ c = '_' then
        let name := String.ofList (cs.takeWhile isNameCharacter)
        let rest := cs.dropWhile isNameCharacter
        if words.contains name then go (.word name) rest
        else if builtins.contains name then go (.builtin name) rest
        else if rest.head? = some '(' then go (.called name) rest
        else go (.name name) rest
      else if c = '/' ∧ operand = false then
        match readRegex (rest.length + 1) false [] rest with
        | some (text, rest) => go (.regex text) rest
        | none => .error (line, unclosed "regular expression" cs)
      else
        match signs.find? fun s => s.toList.isPrefixOf cs with
        | some s => go (.sign s) (cs.drop s.length)
        | none => .error (line, "unexpected character '" ++ String.ofList [c] ++ "'")

/-- What is left of the tokens of a script, and the line of its end. -/
structure Reading where
  tokens : List (Token × Nat)
  lastLine : Nat

/-- Reads a script, or finds an error at a line. -/
abbrev Reader := StateT Reading (Except (Nat × String))

namespace Reader

/-- The next token. -/
def peek : Reader (Option Token) := do return (← get).tokens.head?.map (·.1)

/-- Passes a token. -/
def pass : Reader Unit := modify fun s => { s with tokens := s.tokens.drop 1 }

/-- Complains about the next token. -/
def refuse {α : Type} : Reader α := do
  let s ← get
  match s.tokens with
  | [] => throw (s.lastLine, "syntax error at or near end of file")
  | (t, line) :: _ => throw (line, "syntax error at or near " ++ t.shown)

/-- The next token is a sign. -/
def isSign (sign : String) : Reader Bool := do return (← peek) == some (.sign sign)

/-- Passes a sign if it is the next token. -/
def passSign (sign : String) : Reader Bool := do
  if ← isSign sign then
    pass
    return true
  else return false

/-- Takes a sign. -/
def expect (sign : String) : Reader Unit := do
  unless ← passSign sign do
    let s ← get
    if s.tokens = [] ∧ sign = "\x7d" then throw (s.lastLine, "missing \x7d near end of file")
    refuse

/-- Passes a word if it is the next token. -/
def passWord (word : String) : Reader Bool := do
  if (← peek) == some (.word word) then
    pass
    return true
  else return false

/-- Passes ends of lines. -/
def passLines : Reader Unit :=
  modify fun s => { s with tokens := s.tokens.dropWhile fun t => t.1 == .newline }

/-- Passes ends of lines and semicolons. -/
def passEnds : Reader Unit :=
  modify fun s => { s with
    tokens := s.tokens.dropWhile fun t => t.1 == .newline || t.1 == .sign ";" }

/-- Takes a name. -/
def name : Reader String := do
  match ← peek with
  | some (.name s) | some (.called s) => do
    pass
    return s
  | _ => refuse

end Reader

open Reader

/-- The operation that an assignment does. -/
def assignment? (sign : String) : Option (Option Operation) :=
  [("=", none), ("+=", some Operation.add), ("-=", some .subtract), ("*=", some .multiply),
    ("/=", some .divide), ("%=", some .remainder), ("^=", some .power),
    ("**=", some .power)].lookup sign

/-- A place for a value. -/
def Expression.isPlace : Expression → Bool
  | named _ | field _ | element _ _ => true
  | _ => false

/-- The comparison that a sign stands for. In the list of what is printed, `>` is none. -/
def comparison? (isPrinted : Bool) (sign : String) : Option Operation :=
  if isPrinted ∧ sign = ">" then none
  else [("<", Operation.less), ("<=", .atMost), ("==", .equal), ("!=", .unequal), (">", .greater),
    (">=", .atLeast)].lookup sign

/-- A token can start a value that is joined to the one in front. -/
def Token.startsValue : Token → Bool
  | number _ | text _ | regex _ | name _ | called _ | builtin _ => true
  | sign s => ["$", "!", "(", "-", "+", "++", "--"].contains s
  | _ => false

mutual

/-- Reads expressions with commas between them. -/
def readList : Nat → Bool → Reader (List Expression)
  | 0, _ => refuse
  | fuel + 1, isPrinted => do
    let e ← readExpression fuel isPrinted
    if ← passSign "," then
      passLines
      return e :: (← readList fuel isPrinted)
    else return [e]

/-- Reads an expression. -/
def readExpression : Nat → Bool → Reader Expression
  | 0, _ => refuse
  | fuel + 1, isPrinted => do
    let test ← readEither fuel isPrinted
    if ← passSign "?" then
      passLines
      let yes ← readExpression fuel isPrinted
      passLines
      expect ":"
      passLines
      return .choice test yes (← readExpression fuel isPrinted)
    else return test

/-- Reads alternatives. -/
def readEither : Nat → Bool → Reader Expression
  | 0, _ => refuse
  | fuel + 1, isPrinted => do
    let a ← readBoth fuel isPrinted
    if ← passSign "||" then
      passLines
      return .either a (← readEither fuel isPrinted)
    else return a

/-- Reads conditions that all have to hold. -/
def readBoth : Nat → Bool → Reader Expression
  | 0, _ => refuse
  | fuel + 1, isPrinted => do
    let a ← readMember fuel isPrinted
    if ← passSign "&&" then
      passLines
      return .both a (← readBoth fuel isPrinted)
    else return a

/-- Reads whether a key is one of an array. -/
def readMember : Nat → Bool → Reader Expression
  | 0, _ => refuse
  | fuel + 1, isPrinted => do
    let e ← readMatching fuel isPrinted
    membersBehind fuel e

/-- Reads the arrays in which a key is looked for. -/
def membersBehind : Nat → Expression → Reader Expression
  | 0, _ => refuse
  | fuel + 1, e => do
    if ← passWord "in" then
      let array ← name
      let keys := match e with
        | .grouped es => es
        | e => [e]
      membersBehind fuel (.member keys array)
    else return e

/-- Reads a match. -/
def readMatching : Nat → Bool → Reader Expression
  | 0, _ => refuse
  | fuel + 1, isPrinted => do
    let e ← readComparison fuel isPrinted
    matchesBehind fuel isPrinted e

/-- Reads the patterns that a value is matched with. -/
def matchesBehind : Nat → Bool → Expression → Reader Expression
  | 0, _, _ => refuse
  | fuel + 1, isPrinted, e => do
    if ← passSign "~" then
      matchesBehind fuel isPrinted (.matching false e (← readComparison fuel isPrinted))
    else if ← passSign "!~" then
      matchesBehind fuel isPrinted (.matching true e (← readComparison fuel isPrinted))
    else return e

/-- Reads a comparison. -/
def readComparison : Nat → Bool → Reader Expression
  | 0, _ => refuse
  | fuel + 1, isPrinted => do
    let a ← readJoined fuel isPrinted
    match ← peek with
    | some (.sign s) =>
      match comparison? isPrinted s with
      | some op => do
        pass
        return .operation op a (← readJoined fuel isPrinted)
      | none => return a
    | _ => return a

/-- Reads values that are joined. -/
def readJoined : Nat → Bool → Reader Expression
  | 0, _ => refuse
  | fuel + 1, isPrinted => do
    let e ← readSum fuel isPrinted
    joinedBehind fuel isPrinted e

/-- Reads the values that are joined to one. -/
def joinedBehind : Nat → Bool → Expression → Reader Expression
  | 0, _, _ => refuse
  | fuel + 1, isPrinted, e => do
    if ((← peek).map Token.startsValue).getD false then
      joinedBehind fuel isPrinted (.operation .join e (← readSum fuel isPrinted))
    else return e

/-- Reads a sum. -/
def readSum : Nat → Bool → Reader Expression
  | 0, _ => refuse
  | fuel + 1, isPrinted => do
    let e ← readProduct fuel isPrinted
    termsBehind fuel isPrinted e

/-- Reads the terms behind the first of a sum. -/
def termsBehind : Nat → Bool → Expression → Reader Expression
  | 0, _, _ => refuse
  | fuel + 1, isPrinted, e => do
    if ← passSign "+" then
      termsBehind fuel isPrinted (.operation .add e (← readProduct fuel isPrinted))
    else if ← passSign "-" then
      termsBehind fuel isPrinted (.operation .subtract e (← readProduct fuel isPrinted))
    else return e

/-- Reads a product. -/
def readProduct : Nat → Bool → Reader Expression
  | 0, _ => refuse
  | fuel + 1, isPrinted => do
    let e ← readSigned fuel isPrinted
    factorsBehind fuel isPrinted e

/-- Reads the factors behind the first of a product. -/
def factorsBehind : Nat → Bool → Expression → Reader Expression
  | 0, _, _ => refuse
  | fuel + 1, isPrinted, e => do
    let sign? := [("*", Operation.multiply), ("/", .divide), ("%", .remainder)]
    match ← peek with
    | some (.sign s) =>
      match sign?.lookup s with
      | some op => do
        pass
        factorsBehind fuel isPrinted (.operation op e (← readSigned fuel isPrinted))
      | none => return e
    | _ => return e

/-- Reads a value with a sign in front. -/
def readSigned : Nat → Bool → Reader Expression
  | 0, _ => refuse
  | fuel + 1, isPrinted => do
    if ← passSign "!" then return .opposite (← readSigned fuel isPrinted)
    else if ← passSign "-" then return .sign true (← readSigned fuel isPrinted)
    else if ← passSign "+" then return .sign false (← readSigned fuel isPrinted)
    else readPower fuel isPrinted

/-- Reads a power. -/
def readPower : Nat → Bool → Reader Expression
  | 0, _ => refuse
  | fuel + 1, isPrinted => do
    let base ← readStepped fuel isPrinted
    if (← passSign "^") || (← passSign "**") then
      let isNegative ← passSign "-"
      let e ← if isNegative then readSigned fuel isPrinted else readPower fuel isPrinted
      return .operation .power base (if isNegative then .sign true e else e)
    else return base

/-- Reads a value that may be stepped up or down, or a place with what is assigned to it. -/
def readStepped : Nat → Bool → Reader Expression
  | 0, _ => refuse
  | fuel + 1, isPrinted => do
    let isUp ← passSign "++"
    let isDown ← if isUp then pure false else passSign "--"
    if isUp || isDown then
      let e ← readPrimary fuel isPrinted
      unless e.isPlace do refuse
      return .step true isUp e
    let e ← readPrimary fuel isPrinted
    let e ← linesBehind fuel e
    if e.isPlace = false then return e
    match ← peek with
    | some (.sign "++") => do
      pass
      return .step false true e
    | some (.sign "--") => do
      pass
      return .step false false e
    | some (.sign s) =>
      match assignment? s with
      | some op => do
        pass
        passLines
        return .assign op e (← readExpression fuel isPrinted)
      | none => return e
    | _ => return e

/-- Reads a line that is taken from what a command prints. -/
def linesBehind : Nat → Expression → Reader Expression
  | 0, _ => refuse
  | fuel + 1, e => do
    let s ← get
    match s.tokens with
    | (.sign "|", _) :: (.word "getline", _) :: rest => do
      set { s with tokens := rest }
      let target ← readTarget fuel
      linesBehind fuel (.nextOutput target e)
    | _ => return e

/-- Reads the place that a line is put into. -/
def readTarget : Nat → Reader (Option Expression)
  | 0 => refuse
  | fuel + 1 => do
    match ← peek with
    | some (.sign "$") | some (.name _) => return some (← readPrimary fuel true)
    | _ => return none

/-- Reads a value. -/
def readPrimary : Nat → Bool → Reader Expression
  | 0, _ => refuse
  | fuel + 1, isPrinted => do
    match ← peek with
    | some (.number x) => do
      pass
      return .number x
    | some (.text cs) => do
      pass
      return .text cs
    | some (.regex cs) => do
      pass
      return .regex cs
    | some (.sign "$") => do
      pass
      if ← passSign "++" then return .field (.step true true (← readPrimary fuel isPrinted))
      else if ← passSign "--" then return .field (.step true false (← readPrimary fuel isPrinted))
      else if ← passSign "-" then return .field (.sign true (← readPrimary fuel isPrinted))
      else return .field (← readPrimary fuel isPrinted)
    | some (.sign "(") => do
      pass
      passLines
      let es ← readList fuel false
      passLines
      expect ")"
      return .grouped es
    | some (.called f) => do
      pass
      pass
      passLines
      if ← passSign ")" then return .call f []
      let es ← readList fuel false
      passLines
      expect ")"
      return .call f es
    | some (.builtin f) => do
      pass
      if ← passSign "(" then
        passLines
        if ← passSign ")" then return .builtin f []
        let es ← readList fuel false
        passLines
        expect ")"
        return .builtin f es
      else if f = "length" then return .builtin f []
      else refuse
    | some (.word "getline") => do
      pass
      let target ← readTarget fuel
      if ← passSign "<" then
        return .nextLine target (some (← readStepped fuel true))
      return .nextLine target none
    | some (.name s) => do
      pass
      if ← passSign "[" then
        let keys ← readList fuel false
        expect "]"
        return .element s keys
      return .named s
    | _ => refuse

end

/-- The end of a simple statement. -/
def endStatement : Reader Unit := do
  match ← peek with
  | some (.sign ";") | some .newline => do
    pass
    passLines
  | some (.sign "\x7d") | none => pure ()
  | _ => refuse

/-- Reads where output goes. -/
def readOutlet (fuel : Nat) : Reader (Option Outlet) := do
  if ← passSign ">" then return some (.file (← readJoined fuel true) false)
  else if ← passSign ">>" then return some (.file (← readJoined fuel true) true)
  else if ← passSign "|" then return some (.command (← readJoined fuel true))
  else return none

/-- Reads what is printed: in parentheses, or up to where it goes. -/
def readPrinted (fuel : Nat) : Reader (List Expression) := do
  match ← peek with
  | some (.sign ";") | some .newline | some (.sign "\x7d") | some (.sign ">") | some (.sign ">>")
  | some (.sign "|") | none => return []
  | _ => do
    match ← readList fuel true with
    | [.grouped es] => return es
    | es => return es

/-- Reads a statement without what ends it. -/
def readSimple (fuel : Nat) : Reader Statement := do
  match ← peek with
  | some (.word "print") => do
    pass
    let es ← readPrinted fuel
    return .print false es (← readOutlet fuel)
  | some (.word "printf") => do
    pass
    let es ← readPrinted fuel
    if es.isEmpty then refuse
    return .print true es (← readOutlet fuel)
  | some (.word "delete") => do
    pass
    let array ← name
    if ← passSign "[" then
      let keys ← readList fuel false
      expect "]"
      return .delete array keys
    return .delete array []
  | _ => return .expression (← readExpression fuel false)

/-- An end of a statement comes next. -/
def atEnd : Reader Bool := do
  match ← peek with
  | some (.sign ";") | some .newline | some (.sign "\x7d") | none => return true
  | _ => return false

mutual

/-- Reads statements up to a closing brace. -/
def readBlock : Nat → Reader Statement
  | 0 => refuse
  | fuel + 1 => do
    expect "\x7b"
    let ss ← readStatements fuel
    expect "\x7d"
    return .block ss

/-- Reads statements. -/
def readStatements : Nat → Reader (List Statement)
  | 0 => refuse
  | fuel + 1 => do
    passEnds
    match ← peek with
    | none | some (.sign "\x7d") => return []
    | _ => do
      let s ← readStatement fuel
      return s :: (← readStatements fuel)

/-- Reads the body of a branch or a loop. -/
def readBody : Nat → Reader Statement
  | 0 => refuse
  | fuel + 1 => do
    passLines
    if ← passSign ";" then return .block []
    readStatement fuel

/-- Reads a statement with what ends it. -/
def readStatement : Nat → Reader Statement
  | 0 => refuse
  | fuel + 1 => do
    match ← peek with
    | some (.sign "\x7b") => do
      let s ← readBlock fuel
      passEnds
      return s
    | some (.word "if") => do
      pass
      expect "("
      let test ← readExpression fuel false
      expect ")"
      let yes ← readBody fuel
      let s ← get
      passEnds
      if ← passWord "else" then return .branch test yes (some (← readBody fuel))
      set s
      return .branch test yes none
    | some (.word "while") => do
      pass
      expect "("
      let test ← readExpression fuel false
      expect ")"
      return .loop (some test) (← readBody fuel) none
    | some (.word "do") => do
      pass
      let body ← readBody fuel
      passEnds
      unless ← passWord "while" do refuse
      expect "("
      let test ← readExpression fuel false
      expect ")"
      endStatement
      return .loopOnce body test
    | some (.word "for") => do
      pass
      expect "("
      let s ← get
      match s.tokens with
      | (.name key, _) :: (.word "in", _) :: (.name array, _) :: (.sign ")", _) :: rest => do
        set { s with tokens := rest }
        return .each key array (← readBody fuel)
      | _ => do
        let first ← if ← isSign ";" then pure [] else do pure [← readSimple fuel]
        expect ";"
        passLines
        let test ← if ← isSign ";" then pure none else do pure (some (← readExpression fuel false))
        expect ";"
        passLines
        let after ← if ← isSign ")" then pure none else do pure (some (← readSimple fuel))
        expect ")"
        return .block (first ++ [.loop test (← readBody fuel) after])
    | some (.word "next") | some (.word "nextfile") => do
      pass
      endStatement
      return .next
    | some (.word "break") => do
      pass
      endStatement
      return .breakOut
    | some (.word "continue") => do
      pass
      endStatement
      return .goOn
    | some (.word "exit") => do
      pass
      let e ← if ← atEnd then pure none else do pure (some (← readExpression fuel false))
      endStatement
      return .exit e
    | some (.word "return") => do
      pass
      let e ← if ← atEnd then pure none else do pure (some (← readExpression fuel false))
      endStatement
      return .giveBack e
    | _ => do
      let s ← readSimple fuel
      endStatement
      return s

end

/-- Reads the parameters of a function. -/
def readParameters : Nat → Reader (List String)
  | 0 => refuse
  | fuel + 1 => do
    passLines
    if ← passSign ")" then return []
    let parameter ← name
    let _ ← passSign ","
    return parameter :: (← readParameters fuel)

/-- Reads the rules and functions of a script. -/
def readRules (fuel : Nat) : Nat → Reader Script
  | 0 => refuse
  | left + 1 => do
    passEnds
    let add := fun (pattern : Pattern) (action : Statement) => do
      let s ← readRules fuel left
      return { s with rules := (pattern, action) :: s.rules }
    let action : Reader Statement := do
      if ← isSign "\x7b" then readBlock fuel else return .print false [] none
    match ← peek with
    | none => return {}
    | some (.word "BEGIN") => do
      pass
      add .begin (← readBlock fuel)
    | some (.word "END") => do
      pass
      add .finish (← readBlock fuel)
    | some (.word "function") | some (.word "func") => do
      pass
      let f ← name
      expect "("
      let parameters ← readParameters fuel
      passLines
      let body ← readBlock fuel
      let s ← readRules fuel left
      return { s with functions := ⟨f, parameters, body⟩ :: s.functions }
    | some (.sign "\x7b") => do add .always (← readBlock fuel)
    | _ => do
      let first ← readExpression fuel false
      if ← passSign "," then
        passLines
        let last ← readExpression fuel false
        add (.range first last) (← action)
      else add (.test first) (← action)

/-- Reads a script. -/
def readScript (cs : List Char) : Except (Nat × String) Script := do
  let tokens ← tokensOf (cs.length + 1) 1 cs []
  let fuel := 12 * tokens.length + 40
  let lines := cs.count '\n' + 2
  let (script, _) ← (readRules fuel (tokens.length + 1)).run ⟨tokens.reverse, lines⟩
  return script

end NativeBuild.Machine.Awk
