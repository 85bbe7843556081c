import NativeBuild.Machine.Script.Source

/-
  Reading words. A word is read character by character in a context, which says what is quoted and
  what ends it; contexts lie within each other, and so do the pieces that are still open.
-/

namespace NativeBuild.Machine

/-- What the characters of a word mean. -/
inductive Context where
  | plain
  | double
  | single
  | arithmetic
  deriving Repr, DecidableEq

/-- A context that is being read. -/
structure Frame where
  context : Context
  quoted : Bool := false
  /-- How many braces are open. -/
  braces : Nat := 0
  /-- How many of them were opened in quotes. -/
  quotedBraces : Nat := 0
  /-- Inside quotes of its own within braces. -/
  inner : Bool := false
  parentheses : Nat := 0
  /-- The context began with a brace and ends with it. -/
  braced : Bool := false

/-- What a piece that is still open will be. -/
inductive OpenPiece where
  | word
  | parameter (name : String) (use : Use) (orNull : Bool)
  | arithmetic

/-- A piece that is still open, with what it holds so far, newest first. -/
structure Level where
  opened : OpenPiece
  pieces : List Piece := []
  run : List Char := []
  escaped : Bool := false

/-- The level with its last characters made into a piece. -/
def Level.closed (l : Level) : List Piece :=
  if l.run = [] then l.pieces else .text l.run.reverse l.escaped :: l.pieces

/-- The level with a piece more. -/
def Level.add (p : Piece) (l : Level) : Level := { l with pieces := p :: l.closed, run := [] }

/-- The level with a character more. -/
def Level.put (c : Char) (escaped : Bool) (l : Level) : Level :=
  if l.run = [] ∨ l.escaped = escaped then { l with run := c :: l.run, escaped := escaped }
  else { l with pieces := l.closed, run := [c], escaped := escaped }

/-- The piece that a level becomes. -/
def Level.piece (l : Level) : Piece :=
  match l.opened with
  | .word => .quotes
  | .parameter name use orNull => .parameter name use orNull l.closed.reverse
  | .arithmetic => .arithmetic l.closed.reverse

/-- A word that is being read. -/
structure Draft where
  frame : Frame
  outerFrames : List Frame := []
  level : Level := { opened := .word }
  outerLevels : List Level := []
  /-- Something in it was quoted. -/
  quoted : Bool := false

namespace Draft

/-- The word with a character more. -/
def put (c : Char) (escaped : Bool) (w : Draft) : Draft :=
  { w with level := w.level.put c escaped }

/-- The word with a piece more. -/
def add (p : Piece) (w : Draft) : Draft := { w with level := w.level.add p }

/-- The word with a piece begun. -/
def openLevel (opened : OpenPiece) (w : Draft) : Draft :=
  { w with level := { opened := opened }, outerLevels := w.level :: w.outerLevels }

/-- The word with its innermost piece ended. -/
def closeLevel (w : Draft) : Draft :=
  match w.outerLevels with
  | [] => w
  | level :: outer => { w with level := level.add w.level.piece, outerLevels := outer }

/-- The word inside a context. -/
def enter (frame : Frame) (w : Draft) : Draft :=
  { w with frame := frame, outerFrames := w.frame :: w.outerFrames }

/-- The word outside of its innermost context. -/
def leave (w : Draft) : Draft :=
  match w.outerFrames with
  | [] => w
  | frame :: outer => { w with frame := frame, outerFrames := outer }

/-- The word with its context changed. -/
def adjust (f : Frame → Frame) (w : Draft) : Draft := { w with frame := f w.frame }

/-- The word at a quotation mark; one inside braces opens or closes an inner part, unless it is a
single one. Documents keep no marks. -/
def mark (toggles document : Bool) (w : Draft) : Draft :=
  let w := if toggles ∧ 0 < w.frame.braces then
    w.adjust fun f => { f with inner := !f.inner } else w
  if document then w else w.add .quotes

end Draft

/-- The characters that a parameter other than a name can have. -/
def isSpecial (c : Char) : Bool := c.isDigit || c ∈ ['#', '?', '$', '!', '-', '*', '@']

/-- The characters that end a word outside of quotes. -/
def separatesWords (c : Char) : Bool :=
  c ∈ [' ', '\t', '<', '>', '(', ')', ';', '&', '|']

namespace Reading

/-- Takes the next character of a word: in single quotes no lines are joined. -/
def next (w : Draft) : Reading (Option Char) :=
  if w.frame.context = .single then char else joined

/-- The characters of a name or number from one that was taken on, and the one behind them. -/
def spelled (within : Char → Bool) : Nat → List Char → Option Char →
    Reading (List Char × Option Char)
  | fuel + 1, taken, some c => do
    if within c then spelled within fuel (c :: taken) (← joined)
    else pure (taken.reverse, some c)
  | _, taken, c => pure (taken.reverse, c)

/-- The name of a parameter that starts with a character, and the character behind it. Outside of
braces a number has one digit. -/
def parameterName (braced : Bool) (c : Char) : Reading (Option (List Char × Option Char)) := do
  let size := (← get).size + 1
  if startsName c then return some (← spelled inName size [] (some c))
  else if c.isDigit then
    if braced then return some (← spelled Char.isDigit size [] (some c))
    else return some ([c], ← joined)
  else return none

/-- The use that a character behind the name of a parameter stands for. -/
def useOf (c : Option Char) : Option Use :=
  match c with
  | some '\x7d' => some .plain
  | some '-' => some .default
  | some '+' => some .alternative
  | some '?' => some .demand
  | some '=' => some .assignment
  | _ => none

/-- Reads how a parameter in braces is used. -/
def readUse (c : Option Char) : Reading (Use × Bool) := do
  match c with
  | some ':' => return ((useOf (← joined)).getD .invalid, true)
  | some '%' => return (.trimEnd (← accept '%'), false)
  | some '#' => return (.trimStart (← accept '#'), false)
  | c => return ((useOf c).getD .invalid, false)

/-- Reads a parameter in braces up to where its word starts: its name and its use. -/
def readBraced : Reading (String × Use × Bool) := do
  let whole := fun (name : List Char) (c : Option Char) => do
    let (use, orNull) ← readUse c
    return (String.ofList name, use, orNull)
  let size := fun (name : List Char) (c : Option Char) => do
    back c
    return (String.ofList name, if c = some '\x7d' then Use.size else .invalid, false)
  let c ← joined
  match c with
  | none => return ("", .invalid, false)
  | some '\x7d' => do back c; return ("", .invalid, false)
  | some c =>
    if let some (name, after) ← parameterName true c then whole name after
    else
      let d ← joined
      if c = '#' then
        match d with
        | none => do back d; return ("", .invalid, false)
        | some d =>
          if let some (name, after) ← parameterName true d then size name after
          else
            let e ← joined
            if d = '\x7d' ∨ e ≠ some '\x7d' then
              back e
              whole ['#'] (some d)
            else if isSpecial d then size [d] e
            else
              back e
              return ("", .invalid, false)
      else if isSpecial c then whole [c] d
      else
        back d
        return ("", .invalid, false)

/-- Begins a parameter in braces. Its word is read in a context of its own where it is quoted
differently from what stands around it. -/
def beginBraced (name : String) (use : Use) (orNull : Bool) (w : Draft) : Draft :=
  if use = .plain ∧ orNull = false then w.add (.parameter name .plain false [])
  else
    let context := match use with
      | .trimEnd _ | .trimStart _ => .plain
      | _ => if w.frame.context = .arithmetic then .double else w.frame.context
    let w := if context ≠ w.frame.context ∨ w.frame.inner then
      w.enter { context := context, quoted := context ≠ .plain, braced := true } else w
    let w := w.adjust fun f =>
      { f with braces := f.braces + 1, quotedBraces := f.quotedBraces + if f.quoted then 1 else 0 }
    w.openLevel (.parameter name use orNull)

/-- Ends a parameter in braces. -/
def endBraced (w : Draft) : Draft :=
  let w := w.closeLevel
  let w := w.adjust fun f => { f with braces := f.braces - 1 }
  if w.frame.braces = 0 ∧ w.frame.braced then w.leave
  else w.adjust fun f => { f with quotedBraces := f.quotedBraces - 1 }

/-- Takes the text up to a closing backquote; a backslash sets some characters free. -/
def untilBackquote (quoted : Bool) : Nat → List Char → Reading (List Char)
  | 0, _ => fail .openBackquote
  | fuel + 1, taken => do
    match ← joined with
    | none => fail .openBackquote
    | some '\x60' => return taken.reverse
    | some '\\' =>
      match ← char with
      | none => fail .openBackquote
      | some c =>
        if c ∈ ['\\', '\x60', '$'] ∨ (quoted ∧ c = '"') then untilBackquote quoted fuel (c :: taken)
        else untilBackquote quoted fuel (c :: '\\' :: taken)
    | some c => do
      if c = '\n' then countLine
      untilBackquote quoted fuel (c :: taken)

/-- Reads a command between backquotes: its text is a script of its own. -/
def readBackquoted (body : Bool → Reading Command) (quoted : Bool) : Reading Command := do
  let text ← untilBackquote quoted ((← get).size + 1) []
  let outer ← get
  set { Source.ofList text with
    aliases := outer.aliases, documents := outer.documents, numbered := outer.numbered }
  let command ← body false
  modify fun s => { outer with documents := s.documents, numbered := s.numbered }
  return command

/-- Reads what follows a dollar sign. A body is read up to a closing parenthesis if the flag says
so. -/
def readDollar (body : Bool → Reading Command) (literal : Bool) (w : Draft) : Reading Draft := do
  let c ← joined
  match c with
  | some '(' =>
    if literal then do back c; return w.put '$' false
    else if ← accept '(' then
      return (w.enter { context := .arithmetic, quoted := true }).openLevel .arithmetic
    else return w.add (.captured (← body true))
  | some '\x7b' =>
    if literal then do back c; return w.put '$' false
    else
      let (name, use, orNull) ← readBraced
      return beginBraced name use orNull w
  | some c =>
    if literal = false then
      if let some (name, after) ← parameterName false c then
        back after
        return w.add (.parameter (String.ofList name) .plain false [])
      if isSpecial c then return w.add (.parameter (String.ofList [c]) .plain false [])
    back (some c)
    return w.put '$' false
  | none => return w.put '$' false

/-- What a word is read for: an argument, the delimiter of a document, or the text of a document
up to its delimiter. -/
inductive Purpose where
  | argument
  | delimiter
  | document (a : Announced)

/-- The text is that of a document. -/
def Purpose.isDocument : Purpose → Bool
  | document _ => true
  | _ => false

/-- Passes over the delimiter of a document if it is the line that starts with a character; also
gives the character that the line has in front when tabs do not count. -/
def atDelimiter (purpose : Purpose) (c : Option Char) : Reading (Bool × Option Char) := do
  match purpose with
  | .document a =>
    let mut c := c
    if a.stripped ∧ c = some '\t' then
      let tabs := ((← get).rest.takeWhile (· == '\t')).length
      modify (Source.skip tabs)
      c ← char
    let s ← get
    let line := c.toList ++ s.rest
    if a.delimiter.isPrefixOf line then
      match c, line.drop a.delimiter.length with
      | none, _ => return (true, c)
      | some _, [] => do
        modify (Source.skip (a.delimiter.length - 1))
        return (true, none)
      | some _, '\n' :: _ => do
        modify (Source.skip a.delimiter.length)
        countLine
        return (true, none)
      | _, _ => return (false, c)
    else return (false, c)
  | _ => return (false, c)

/-- Reads one character of a word other than a line end; nothing means that the word ends before
it. -/
def readChar (body : Bool → Reading Command) (purpose : Purpose) (c : Char) (w : Draft) :
    Reading (Option Draft) := do
  let f := w.frame
  let document := purpose.isDocument
  let shown := fun (escaped : Bool) => pure (some (w.put c escaped))
  match f.context with
  | .single =>
    if c = '\'' ∧ document = false then
      let w := w.adjust fun f => if f.quotedBraces = 0 then
        { f with context := .plain, quoted := false } else f
      return some ({ w with quoted := true }.mark false document)
    else shown true
  | context =>
    match c with
    | '\\' =>
      match ← char with
      | none => return some (w.put '\\' true)
      | some d =>
        let kept := f.quoted && !(d ∈ ['\\', '\x60', '$'] ||
          (d == '"' && !(document && f.braces == 0)) || (d == '\x7d' && 0 < f.braces))
        if d = '\n' then countLine
        let w := if kept then w.put '\\' true else w
        return some { w.put d true with quoted := true }
    | '$' => return some (← readDollar body (purpose matches .delimiter) w)
    | '\x60' =>
      if purpose matches .delimiter then return some { w.put c false with quoted := true }
      else return some (w.add (.captured (← readBackquoted body f.quoted)))
    | '\x7d' =>
      if f.inner = false ∧ 0 < f.braces then return some (endBraced w)
      else shown (context = .double)
    | '"' =>
      match context with
      | .plain =>
        return some ((w.adjust fun f => { f with context := .double, quoted := true }).mark
          true document)
      | .double =>
        if document ∧ f.braces = 0 then shown true
        else
          let w := w.adjust fun f => if f.quotedBraces = 0 then
            { f with context := .plain, quoted := false } else f
          return some ({ w with quoted := true }.mark true document)
      | _ => shown false
    | '(' =>
      match context with
      | .arithmetic =>
        return some ((w.put c false).adjust fun f => { f with parentheses := f.parentheses + 1 })
      | .plain => if f.braces = 0 then return none else shown false
      | _ => shown true
    | ')' =>
      match context with
      | .arithmetic =>
        if 0 < f.parentheses then
          return some ((w.put c false).adjust fun f => { f with parentheses := f.parentheses - 1 })
        else if ← accept ')' then return some w.closeLevel.leave
        else shown false
      | .plain => if f.braces = 0 then return none else shown false
      | _ => shown true
    | '\'' =>
      if context = .plain then
        return some ((w.adjust fun f => { f with context := .single }).mark false document)
      else shown (context = .double)
    | c =>
      if context = .plain ∧ separatesWords c ∧ f.braces = 0 then return none
      else shown (context = .double)

/-- Reads a word from a character on; gives also the character behind it. -/
def readPieces (body : Bool → Reading Command) (purpose : Purpose) : Nat → Draft → Option Char →
    Reading (Draft × Option Char)
  | 0, w, c => pure (w, c)
  | fuel + 1, w, c => do
    match c with
    | none => return (w, none)
    | some '\n' =>
      if w.frame.context = .plain ∧ w.frame.braces = 0 then return (w, c)
      else
        countLine
        let w := w.put '\n' (w.frame.context matches .single | .double)
        let (ended, c) ← atDelimiter purpose (← next w)
        if ended then return (w, none) else readPieces body purpose fuel w c
    | some d =>
      match ← readChar body purpose d w with
      | none => return (w, c)
      | some w => readPieces body purpose fuel w (← next w)

/-- Reads a word from a character on and makes sure that nothing in it is left open. -/
def readWhole (body : Bool → Reading Command) (purpose : Purpose) (frame : Frame) (c : Option Char) :
    Reading (Draft × Option Char) := do
  let (ended, c) ← atDelimiter purpose c
  let start : Draft := { frame := frame }
  let (w, c) ← if ended then pure (start, none)
    else readPieces body purpose ((← get).size + 2) start c
  if w.frame.context = .arithmetic then fail .openArithmetic
  if w.frame.context ≠ .plain ∧ purpose.isDocument = false then fail .openQuote
  if w.frame.braces ≠ 0 then fail .openBrace
  return (w, c)

/-- Reads the documents that were announced on the line before. -/
def readDocuments (body : Bool → Reading Command) : Reading Unit := do
  let announced := (← get).announced
  modify fun s => { s with announced := [] }
  for a in announced do
    let frame : Frame := if a.literal then { context := .single }
      else { context := .double, quoted := true }
    let c ← if a.literal then char else joined
    let (w, _) ← readWhole body (.document a) frame c
    modify fun s =>
      { s with documents := (a.number, ⟨w.level.closed.reverse, a.literal⟩) :: s.documents }

end Reading

end NativeBuild.Machine
