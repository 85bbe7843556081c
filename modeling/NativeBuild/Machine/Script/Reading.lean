import NativeBuild.Machine.Script.Word

/-
  Reading scripts: commands by recursive descent over tokens. A script is read one line of commands
  at a time, so that what one line does can change how the next one is read. Every function takes
  the number of nested calls that it may still make.
-/

namespace NativeBuild.Machine

/-- What is looked for in the next token. -/
structure Expectation where
  /-- Line ends are passed over. -/
  lines : Bool := false
  reserved : Bool := false
  aliases : Bool := false
  delimiter : Bool := false

/-- A command may start here, on this line or on a later one. -/
def Expectation.command : Expectation := { lines := true, reserved := true, aliases := true }

/-- The built-in commands whose failure ends a script. -/
def specialBuiltins : List String :=
  [".", ":", "break", "continue", "eval", "exec", "exit", "export", "local", "readonly", "return",
    "set", "shift", "times", "trap", "unset"]

namespace Reading

/-- Settles a word that has been read, or a redirection if the word is at most a digit in front of
its operator. -/
def settleWord (w : Draft) (c : Option Char) : Reading Token := do
  let word := w.level.closed.reverse
  let number := match word with
    | [] => some none
    | [.text [d] false] => if d.isDigit then some (some (digitValue d)) else none
    | _ => none
  match number, c with
  | some number, some '>' =>
    if w.quoted then
      back c
      modify fun s => { s with word := word, wordQuoted := w.quoted }
      settle .word
    else
      let kind ← if ← accept '>' then pure (RedirectionKind.file .append)
        else if ← accept '|' then pure (.file .overwrite)
        else if ← accept '&' then pure .duplicate
        else pure (.file .write)
      modify fun s => { s with operator := (number.getD 1, kind) }
      settle .redirection
  | some number, some '<' =>
    if w.quoted then
      back c
      modify fun s => { s with word := word, wordQuoted := w.quoted }
      settle .word
    else
      let kind ← if ← accept '<' then
          pure (RedirectionKind.document (← accept '-'))
        else if ← accept '&' then pure .duplicate
        else if ← accept '>' then pure (.file .readWrite)
        else pure (.file .read)
      modify fun s => { s with operator := (number.getD 0, kind) }
      settle .redirection
  | _, _ =>
    back c
    modify fun s => { s with word := word, wordQuoted := w.quoted }
    settle .word

/-- Reads a token whatever it means. -/
def rawToken (body : Bool → Reading Command) (delimiter : Bool) : Nat → Reading Token
  | 0 => settle .endOfFile
  | fuel + 1 => do
    let c ← joined
    match c with
    | none => settle .endOfFile
    | some ' ' => rawToken body delimiter fuel
    | some '\t' => rawToken body delimiter fuel
    | some '#' =>
      let comment := ((← get).rest.takeWhile (· ≠ '\n')).length
      modify (Source.skip comment)
      rawToken body delimiter fuel
    | some '\n' => do
      countLine
      settle .newline
    | some '&' => settle (.sign (if ← accept '&' then "&&" else "&"))
    | some '|' => settle (.sign (if ← accept '|' then "||" else "|"))
    | some ';' => settle (.sign (if ← accept ';' then ";;" else ";"))
    | some '(' => settle (.sign "(")
    | some ')' => settle (.sign ")")
    | c => do
      let (w, c) ← readWhole body (if delimiter then .delimiter else .argument)
        { context := .plain } c
      settleWord w c

/-- The last token again, or a new one. -/
def freshToken (body : Bool → Reading Command) (delimiter : Bool) : Reading Token := do
  let s ← get
  if s.pushedBack then
    set { s with pushedBack := false }
    pure s.token
  else rawToken body delimiter (s.size + 1)

/-- Reads a token, past the ends of lines if these do not count. -/
def tokenPastLines (body : Bool → Reading Command) (e : Expectation) : Nat → Reading Token
  | 0 => settle .endOfFile
  | fuel + 1 => do
    let t ← freshToken body e.delimiter
    if t = .newline ∧ e.lines then
      readDocuments body
      modify fun s => { s with aliasNext := false }
      tokenPastLines body e fuel
    else pure t

/-- Reads a token with the words replaced that are aliases. -/
def tokenWithin (body : Bool → Reading Command) (e : Expectation) : Nat → Reading Token
  | 0 => settle .endOfFile
  | fuel + 1 => do
    modify fun s => { s with aliasNext := false }
    let t ← tokenPastLines body e ((← get).size + 2)
    let s ← get
    let aliases := e.aliases || s.aliasNext
    set { s with aliasNext := false }
    match if t = .word ∧ s.wordQuoted = false then Word.plain? s.word else none with
    | none => pure t
    | some cs =>
      let name := String.ofList cs
      if e.reserved ∧ reservedWords.contains name then settle (.reserved name)
      else
        match if aliases then s.alias? name else none with
        | none => pure t
        | some value =>
          if value ≠ [] then modify (Source.splice name value)
          tokenWithin body { e with aliases := aliases } fuel

/-- How many tokens in a row may be aliases. -/
def aliasLimit : Nat := 100000

/-- Reads a token. -/
def token (body : Bool → Reading Command) (e : Expectation) : Reading Token :=
  tokenWithin body e aliasLimit

/-- Reads a token that must come next. -/
def expect (body : Bool → Reading Command) (e : Expectation) (wanted : Token) : Reading Unit := do
  if (← token body e) ≠ wanted then misplaced (some wanted)

/-- The redirection of the last operator, with the word that follows it. -/
def redirection (body : Bool → Reading Command) : Reading Redirection := do
  let (descriptor, kind) := (← get).operator
  let delimiter := kind matches .document _
  if (← token body { delimiter := delimiter }) ≠ .word then misplaced none
  let s ← get
  match kind with
  | .file opening => pure (.file descriptor opening s.word)
  | .duplicate =>
    match Word.plain? s.word with
    | some ['-'] => pure (.duplicate descriptor none)
    | some [d] =>
      pure (if d.isDigit then .duplicate descriptor (some (digitValue d))
        else .computed descriptor s.word)
    | _ => pure (.computed descriptor s.word)
  | .document stripped =>
    let text := s.word.flatMap fun piece => match piece with
      | .text cs _ => cs
      | _ => []
    let a : Announced := ⟨s.numbered, text, stripped, s.wordQuoted⟩
    set { s with announced := s.announced ++ [a], numbered := s.numbered + 1 }
    pure (.document descriptor a.number)

/-- Reads the redirections that follow a command. -/
def redirections (body : Bool → Reading Command) : Nat → List Redirection →
    Reading (List Redirection)
  | 0, taken => pure taken.reverse
  | fuel + 1, taken => do
    if (← token body { reserved := true, aliases := true }) = .redirection then
      redirections body fuel ((← redirection body) :: taken)
    else
      pushBack
      pure taken.reverse

/-- The parts of a simple command so far, newest first. -/
structure SimpleParts where
  assignments : List Word := []
  words : List Word := []
  redirections : List Redirection := []

/-- Reads the parts of a simple command. Also tells whether it is the name of a function, with the
parentheses passed over. -/
def simpleParts (body : Bool → Reading Command) : Nat → SimpleParts → Reading (SimpleParts × Bool)
  | 0, parts => pure (parts, false)
  | fuel + 1, parts => do
    match ← token body { aliases := parts.words.isEmpty } with
    | .word =>
      let word := (← get).word
      if parts.words.isEmpty ∧ word.isAssignment then
        simpleParts body fuel { parts with assignments := word :: parts.assignments }
      else simpleParts body fuel { parts with words := word :: parts.words }
    | .redirection =>
      let r ← redirection body
      simpleParts body fuel { parts with redirections := r :: parts.redirections }
    | .sign "(" =>
      match parts with
      | ⟨[], [_], []⟩ =>
        expect body {} (.sign ")")
        pure (parts, true)
      | _ =>
        pushBack
        pure (parts, false)
    | _ =>
      pushBack
      pure (parts, false)

/-- The name of a function. -/
def functionName (parts : SimpleParts) : Reading String := do
  match parts.words.head?.bind Word.plain? with
  | some name =>
    if isName name ∧ !specialBuiltins.contains (String.ofList name) then
      return String.ofList name
    else fail .functionName
  | none => fail .functionName

/-- Reads the words of a loop, up to the end of the line or a semicolon. -/
def loopWords (body : Bool → Reading Command) : Nat → List Word → Reading (List Word)
  | 0, taken => pure taken.reverse
  | fuel + 1, taken => do
    match ← token body {} with
    | .word => loopWords body fuel ((← get).word :: taken)
    | .newline | .sign ";" => pure taken.reverse
    | _ => misplaced none

/-- Reads the patterns of a case; the first one has been read. -/
def patterns (body : Bool → Reading Command) : Nat → List Word → Reading (List Word)
  | 0, taken => pure taken.reverse
  | fuel + 1, taken => do
    let taken := (← get).word :: taken
    match ← token body {} with
    | .sign "|" =>
      let _ ← token body {}
      patterns body fuel taken
    | .sign ")" => pure taken.reverse
    | _ => misplaced (some (.sign ")"))

/-- The word that stands for all parameters. -/
def allParameters : Word := [.quotes, .parameter "@" .plain false [], .quotes]

/-- Where a list of commands stands. -/
inductive Place where
  /-- On a line of the script. -/
  | line
  /-- Inside a command that needs at least one. -/
  | inner
  /-- Where there may be none. -/
  | optional
  deriving DecidableEq

mutual

/-- Reads a list of commands; nothing means that the script is at its end. -/
def list : Nat → Place → Bool → Command → Reading (Option Command)
  | 0, _, _, _ => fail (.unexpected .endOfFile none)
  | fuel + 1, place, started, before => do
    let body := captured fuel
    let e : Expectation := { lines := place ≠ .line, reserved := true, aliases := true }
    match ← token body e with
    | .newline =>
      readDocuments body
      return some before
    | .endOfFile =>
      readDocuments body
      pushBack
      modify fun s => { s with token := .endOfFile }
      if started = false ∧ place = .line then return none else return some before
    | t =>
      pushBack
      if t.endsList ∧ place ≠ .line ∧ (started ∨ place = .optional) then return some before
      let command ← chain fuel
      let t ← token body {}
      let command := if t = .sign "&" then
          match command with
          | .pipe stages _ => .pipe stages true
          | .redirected line c redirections => .background line c redirections
          | c => .background 0 c []
        else command
      let command := if started then .sequence before command else command
      match t with
      | .endOfFile =>
        readDocuments body
        pushBack
        modify fun s => { s with token := .endOfFile }
        return some command
      | .newline =>
        pushBack
        list fuel place true command
      | .sign "&" => list fuel place true command
      | .sign ";" => list fuel place true command
      | _ =>
        if place = .line then misplaced none
        pushBack
        return some command

/-- Reads a list of commands inside a command. -/
def inside : Nat → Reading Command
  | 0 => fail (.unexpected .endOfFile none)
  | fuel + 1 => do return (← list fuel .inner false .nothing).getD .nothing

/-- Reads a command whose output is captured. -/
def captured : Nat → Bool → Reading Command
  | 0, _ => fail (.unexpected .endOfFile none)
  | fuel + 1, parenthesized => do
    let announced := (← get).announced
    modify fun s => { s with announced := [] }
    let command := (← list fuel .optional false .nothing).getD .nothing
    let body := captured fuel
    if parenthesized then
      expect body {} (.sign ")")
      let rest ← get
      set { rest with rest := [], size := 0 }
      readDocuments body
      modify fun s =>
        { s with rest := rest.rest, size := rest.size, line := rest.line }
    else readDocuments body
    modify fun s => { s with announced := announced }
    return command

/-- Reads commands joined by `&&` and `||`. -/
def chain : Nat → Reading Command
  | 0 => fail (.unexpected .endOfFile none)
  | fuel + 1 => do chainRest fuel (← negatable fuel {})

/-- Goes on with `&&` and `||` behind a command. -/
def chainRest : Nat → Command → Reading Command
  | 0, _ => fail (.unexpected .endOfFile none)
  | fuel + 1, first => do
    match ← token (captured fuel) {} with
    | .sign "&&" => chainRest fuel (.both first (← negatable fuel .command))
    | .sign "||" => chainRest fuel (.either first (← negatable fuel .command))
    | _ =>
      pushBack
      return first

/-- Reads a pipe, which may be negated. -/
def negatable : Nat → Expectation → Reading Command
  | 0, _ => fail (.unexpected .endOfFile none)
  | fuel + 1, e => do
    if (← token (captured fuel) e) = .reserved "!" then
      return .negated (← stages fuel (← command fuel { reserved := true, aliases := true }) [])
    else
      pushBack
      stages fuel (← command fuel {}) []

/-- Goes on with the stages of a pipe. -/
def stages : Nat → Command → List Command → Reading Command
  | 0, _, _ => fail (.unexpected .endOfFile none)
  | fuel + 1, first, taken => do
    if (← token (captured fuel) {}) = .sign "|" then
      stages fuel first ((← command fuel .command) :: taken)
    else
      pushBack
      return if taken = [] then first else .pipe (first :: taken.reverse) false

/-- Reads a command. -/
def command : Nat → Expectation → Reading Command
  | 0, _ => fail (.unexpected .endOfFile none)
  | fuel + 1, e => do
    let body := captured fuel
    let line := (← get).line
    let size := (← get).size + 2
    let finish := fun (c : Command) => do
      let rs ← redirections body size []
      return match rs, c with
        | [], c => c
        | rs, .subshell line c _ => .subshell line c rs
        | rs, c => .redirected line c rs
    match ← token body e with
    | .reserved "if" =>
      let c ← branches fuel
      expect body {} (.reserved "fi")
      finish c
    | .reserved "while" => finish (← loopBody fuel false)
    | .reserved "until" => finish (← loopBody fuel true)
    | .reserved "for" =>
      if (← token body {}) ≠ .word then fail .loopVariable
      let s ← get
      match if s.wordQuoted then none else Word.plain? s.word with
      | none => fail .loopVariable
      | some name =>
        if isName name = false then fail .loopVariable
        let words ← if (← token body .command) = .reserved "in" then loopWords body size []
          else do
            if (← get).token ≠ .sign ";" then pushBack
            pure [allParameters]
        expect body .command (.reserved "do")
        let c ← inside fuel
        expect body {} (.reserved "done")
        finish (.each line (String.ofList name) words c)
    | .reserved "case" =>
      if (← token body {}) ≠ .word then misplaced (some .word)
      let word := (← get).word
      expect body .command (.reserved "in")
      finish (.select line word (← cases fuel []))
    | .sign "(" =>
      let c ← inside fuel
      expect body {} (.sign ")")
      finish (.subshell line c [])
    | .reserved "\x7b" =>
      let c ← inside fuel
      expect body {} (.reserved "\x7d")
      finish c
    | .word => do
      pushBack
      simple fuel
    | .redirection => do
      pushBack
      simple fuel
    | _ => misplaced none

/-- Reads what is tested and what follows from it. -/
def branches : Nat → Reading Command
  | 0 => fail (.unexpected .endOfFile none)
  | fuel + 1 => do
    let body := captured fuel
    let test ← inside fuel
    expect body {} (.reserved "then")
    let yes ← inside fuel
    match ← token body {} with
    | .reserved "elif" => return .conditional test yes (← branches fuel)
    | .reserved "else" => return .conditional test yes (← inside fuel)
    | _ =>
      pushBack
      return .conditional test yes .nothing

/-- Reads a loop that turns while or until a test succeeds. -/
def loopBody : Nat → Bool → Reading Command
  | 0, _ => fail (.unexpected .endOfFile none)
  | fuel + 1, untilTrue => do
    let body := captured fuel
    let test ← inside fuel
    expect body {} (.reserved "do")
    let c ← inside fuel
    expect body {} (.reserved "done")
    return .loop untilTrue test c

/-- Reads the cases of a choice. -/
def cases : Nat → List (List Word × Command) → Reading (List (List Word × Command))
  | 0, _ => fail (.unexpected .endOfFile none)
  | fuel + 1, taken => do
    let body := captured fuel
    match ← token body { lines := true, reserved := true } with
    | .reserved "esac" => return taken.reverse
    | t => do
      if t = .sign "(" then let _ ← token body {}
      let choices ← patterns body ((← get).size + 2) []
      let c := (← list fuel .optional false .nothing).getD .nothing
      match ← token body { lines := true, reserved := true } with
      | .reserved "esac" => return ((choices, c) :: taken).reverse
      | .sign ";;" => cases fuel ((choices, c) :: taken)
      | _ => misplaced (some (.sign ";;"))

/-- Reads a simple command or the definition of a function. -/
def simple : Nat → Reading Command
  | 0 => fail (.unexpected .endOfFile none)
  | fuel + 1 => do
    let line := (← get).line
    let (parts, isFunction) ← simpleParts (captured fuel) ((← get).size + 2) {}
    if isFunction then
      let name ← functionName parts
      let line := (← get).line
      return .define line name (← command fuel .command)
    else
      return .simple line parts.assignments.reverse parts.words.reverse parts.redirections.reverse

end

/-- How deep commands may lie within each other. -/
def nestingLimit : Nat := 1000000

/-- Reads the commands of the next line; nothing means that the script is at its end. -/
def commandLine : Reading (Option Command) := do
  modify fun s => { s with pushedBack := false, announced := [], aliasNext := false }
  list nestingLimit .line false .nothing

/-- Reads a whole text as the word that a prompt is. -/
def prompt : Reading Word := do
  let frame : Frame := { context := .double, quoted := true }
  let purpose := Purpose.document ⟨0, ['\x00'], false, false⟩
  let (w, _) ← readWhole (captured nestingLimit) purpose frame (← joined)
  return w.level.closed.reverse

end Reading

/-- Nothing follows the command that was read last, not even the end of its line. -/
def Source.atEnd (s : Source) : Bool := s.pushedBack && s.token == .endOfFile

end NativeBuild.Machine
