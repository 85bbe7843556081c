import NativeBuild.Machine.Script.Basic

/-
  The text of a script while it is read: characters, lines and tokens. An alias is replaced in the
  text itself; a stretch of text that stands for an alias is remembered until something behind it
  has been read, so that the alias is not replaced within itself.
-/

namespace NativeBuild.Machine

/-- A token. -/
inductive Token where
  | endOfFile
  | newline
  | redirection
  | word
  /-- An operator. -/
  | sign (text : String)
  /-- A word that has a meaning where a command may start. -/
  | reserved (text : String)
  deriving Repr, DecidableEq, Inhabited

/-- A word in double quotes. -/
def inQuotes (word : String) : String := "\"" ++ word ++ "\""

/-- The token as messages name it. -/
def Token.name : Token → String
  | endOfFile => "end of file"
  | newline => "newline"
  | redirection => "redirection"
  | word => "word"
  | sign text | reserved text => inQuotes text

/-- The words that have a meaning where a command may start. -/
def reservedWords : List String :=
  ["!", "case", "do", "done", "elif", "else", "esac", "fi", "for", "if", "in", "then", "until",
    "while", "\x7b", "\x7d"]

/-- A token at which a list of commands ends. -/
def Token.endsList (t : Token) : Bool :=
  t ∈ [endOfFile, sign ")", sign ";;", reserved "do", reserved "done", reserved "elif",
    reserved "else", reserved "esac", reserved "fi", reserved "then", reserved "\x7d"]

/-- Why a script cannot be read. -/
inductive ScriptError where
  | openQuote
  | openBrace
  | openArithmetic
  | openBackquote
  | functionName
  | loopVariable
  | descriptor
  | unexpected (token : Token) (wanted : Option Token)
  deriving Repr, DecidableEq

/-- The text of an error. -/
def ScriptError.text : ScriptError → String
  | openQuote => "Unterminated quoted string"
  | openBrace => "Missing '\x7d'"
  | openArithmetic => "Missing '))'"
  | openBackquote => "EOF in backquote substitution"
  | functionName => "Bad function name"
  | loopVariable => "Bad for loop variable"
  | descriptor => "Bad fd number"
  | unexpected token none => token.name ++ " unexpected"
  | unexpected token (some wanted) =>
    token.name ++ " unexpected (expecting " ++ wanted.name ++ ")"

/-- A stretch of the text that stands for an alias. -/
structure Stretch where
  /-- The aliases that are not replaced again. -/
  aliases : List String
  /-- How many characters stand behind it. -/
  behind : Nat
  /-- It ends in a blank, and so the next word may be an alias too. -/
  blankEnd : Bool
  /-- Something behind it has been read. -/
  passed : Bool := false

/-- A document that begins on the next line. -/
structure Announced where
  number : Nat
  delimiter : List Char
  /-- Tabs in front of its lines do not count. -/
  stripped : Bool
  literal : Bool

/-- What a redirection operator asks for. -/
inductive RedirectionKind where
  | file (opening : Opening)
  | duplicate
  | document (stripped : Bool)

/-- A text that is being read. -/
structure Source where
  rest : List Char
  /-- The length of the rest. -/
  size : Nat
  line : Nat := 1
  /-- Innermost first. -/
  stretches : List Stretch := []
  aliases : List (String × String) := []
  /-- The documents read so far, by number. -/
  documents : List (Nat × Document) := []
  announced : List Announced := []
  /-- The number of the next document. -/
  numbered : Nat := 0
  /-- The last token counts as not read. -/
  pushedBack : Bool := false
  token : Token := .newline
  word : Word := []
  /-- Something in the last word was quoted. -/
  wordQuoted : Bool := false
  /-- The descriptor and the kind of the last redirection operator. -/
  operator : Nat × RedirectionKind := (0, .duplicate)
  /-- The next word may be an alias. -/
  aliasNext : Bool := false

/-- A script at its start. -/
def Source.ofList (cs : List Char) : Source := { rest := cs, size := cs.length }

/-- Reads from a text, or finds an error on a line. -/
abbrev Reading := StateT Source (Except (Nat × ScriptError))

namespace Source

/-- The text without the stretches that have been passed. -/
def forget (s : Source) : Source :=
  if s.stretches.any (·.passed) then
    { s with stretches := s.stretches.filter fun stretch => !stretch.passed }
  else s

/-- The stretches at whose end the reading stands are passed. -/
def pass (s : Source) : Source :=
  let ended := fun (stretch : Stretch) => s.size ≤ stretch.behind && !stretch.passed
  if s.stretches.any ended then
    { s with
      aliasNext := s.aliasNext || s.stretches.any fun stretch => ended stretch && stretch.blankEnd
      stretches := s.stretches.map fun stretch =>
        if ended stretch then { stretch with passed := true } else stretch }
  else s

/-- The next character, if there is one, and the text behind it. -/
def uncons (s : Source) : Option Char × Source :=
  let s := s.forget.pass
  match s.rest with
  | [] => (none, s)
  | c :: rest => (some c, { s with rest := rest, size := s.size - 1 })

/-- The text with a character in front. -/
def cons (c : Char) (s : Source) : Source := { s with rest := c :: s.rest, size := s.size + 1 }

/-- The text without a number of characters. -/
def skip (n : Nat) (s : Source) : Source := { s with rest := s.rest.drop n, size := s.size - n }

/-- The text with the value of an alias in front. -/
def splice (name : String) (value : List Char) (s : Source) : Source :=
  let kept := s.stretches.filter fun stretch => !stretch.passed
  let waiting := (s.stretches.filter (·.passed)).flatMap (·.aliases)
  let stretch : Stretch :=
    { aliases := name :: waiting, behind := s.size
      blankEnd := value.getLast? == some ' ' || value.getLast? == some '\t' }
  { s with rest := value ++ s.rest, size := s.size + value.length, stretches := stretch :: kept }

/-- The value of an alias that may be replaced here. -/
def alias? (name : String) (s : Source) : Option (List Char) :=
  if s.stretches.any fun stretch => stretch.aliases.contains name then none
  else (s.aliases.lookup name).map String.toList

end Source

namespace Reading

/-- Ends the reading with an error. -/
def fail {α : Type} (e : ScriptError) : Reading α := do throw ((← get).line, e)

/-- Takes a character; there is none at the end. -/
def char : Reading (Option Char) := modifyGet Source.uncons

/-- Puts a character back. -/
def back (c : Option Char) : Reading Unit :=
  match c with
  | none => pure ()
  | some c => modify (Source.cons c)

/-- Counts a line. -/
def countLine : Reading Unit := modify fun s => { s with line := s.line + 1 }

/-- Takes a character; line ends behind a backslash do not count. -/
def joinedWithin : Nat → Reading (Option Char)
  | 0 => char
  | fuel + 1 => do
    let c ← char
    if c = some '\\' ∧ (← get).rest.head? = some '\n' then
      modify (Source.skip 1)
      countLine
      joinedWithin fuel
    else pure c

/-- Takes a character with lines joined. -/
def joined : Reading (Option Char) := do joinedWithin (← get).size

/-- Passes over a character if it is the next one. -/
def accept (c : Char) : Reading Bool := do
  let d ← joined
  if d = some c then pure true
  else
    back d
    pure false

/-- Counts the last token as not read. -/
def pushBack : Reading Unit := modify fun s => { s with pushedBack := true }

/-- Settles what the last token is. -/
def settle (t : Token) : Reading Token := do
  modify fun s => { s with token := t }
  pure t

/-- Something else should stand here. -/
def misplaced {α : Type} (wanted : Option Token) : Reading α := do
  fail (.unexpected (← get).token wanted)

end Reading

end NativeBuild.Machine
