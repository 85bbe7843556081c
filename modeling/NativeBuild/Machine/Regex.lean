import NativeBuild.Machine.Pattern

/-
  Regular expressions, as `grep` and `sed` read them. A match is looked for from the first place at
  which there is one, and among the matches that start there the longest is taken. Main statement:
  what matches a repetition that may be left out includes the empty text.
-/

namespace NativeBuild.Machine

/-- What a set of characters holds. -/
inductive SetItem where
  | single (c : Char)
  | range (first last : Char)
  | named (name : String)
  deriving Repr, DecidableEq

/-- A regular expression. -/
inductive Regex where
  | empty
  | char (c : Char)
  | any
  | oneOf (negated : Bool) (items : List SetItem)
  | lineStart
  | lineEnd
  | wordStart
  | wordEnd
  | wordEdge (here : Bool)
  | group (number : Nat) (r : Regex)
  | reference (number : Nat)
  | sequence (a b : Regex)
  | either (a b : Regex)
  | repeated (r : Regex) (least : Nat) (most : Option Nat)
  deriving Repr

namespace Regex

/-- The expression refers to what a group has matched. -/
def hasReference : Regex → Bool
  | reference _ => true
  | group _ r => r.hasReference
  | sequence a b | either a b => a.hasReference || b.hasReference
  | repeated r _ _ => r.hasReference
  | _ => false

/-- A character is in a set. -/
def SetItem.holds (c : Char) : SetItem → Bool
  | .single d => c == d
  | .range first last => first ≤ c && c ≤ last
  | .named name =>
    match characterClasses.lookup name with
    | some test => test c
    | none => false

/-- The same letter in the other case. -/
def otherCase (c : Char) : Char := if c.isUpper then c.toLower else c.toUpper

/-- A state of matching: the place that has been reached, and what the groups have matched. -/
structure Reached where
  place : Nat
  groups : List (Nat × Nat × Nat) := []
  deriving DecidableEq

/-- How an expression is matched with a text. -/
structure Setting where
  text : Array Char
  /-- Letters are the same in both cases. -/
  folded : Bool := false
  /-- Line ends inside the text count as such. -/
  lines : Bool := false
  /-- What the groups have matched makes a difference. -/
  exact : Bool := false

/-- A character satisfies a test, in one of its cases if these are the same. -/
def Setting.test (s : Setting) (test : Char → Bool) (c : Char) : Bool :=
  test c || (s.folded && test (otherCase c))

/-- States without those that lead to a place that another one before leads to. -/
def distinct (s : Setting) (states : List Reached) : List Reached :=
  states.foldl (fun kept r =>
    if kept.any fun k => k.place == r.place && (!s.exact || k.groups == r.groups) then kept
    else kept ++ [r]) []

/-- Repeats a step as often as possible first, at least as often as needed. -/
def repeatStep (s : Setting) (step : Reached → List Reached) (least : Nat) (most : Option Nat) :
    Nat → Nat → Reached → List Reached
  | 0, count, r => if least ≤ count then [r] else []
  | fuel + 1, count, r =>
    let more := if most = some count then [] else
      ((step r).filter fun next => next.place != r.place || count < least).flatMap
        (repeatStep s step least most fuel (count + 1))
    let more := distinct s more
    if least ≤ count then
      if more.any fun m => m.place == r.place && (!s.exact || m.groups == r.groups) then more
      else more ++ [r]
    else more

/-- A character of words stands before a place. -/
def Setting.wordBefore (s : Setting) (place : Nat) : Bool :=
  0 < place && (s.text[place - 1]?).any inName

/-- A character of words stands at a place. -/
def Setting.wordAt (s : Setting) (place : Nat) : Bool := (s.text[place]?).any inName

/-- What an expression for a single character asks of it. -/
def single? (s : Setting) : Regex → Option (Char → Bool)
  | char c => some (s.test (· == c))
  | any => some fun _ => true
  | oneOf negated items => some fun d => s.test (fun c => items.any (SetItem.holds c)) d != negated
  | _ => none

/-- How many characters from a place on satisfy a test, up to a limit. -/
def runLength (s : Setting) (test : Char → Bool) : Nat → Nat → Nat
  | 0, _ => 0
  | limit + 1, place =>
    if (s.text[place]?).any test then runLength s test limit (place + 1) + 1 else 0

/-- All states to which an expression leads, longer matches of parts in front first. -/
def ends (s : Setting) : Regex → Reached → List Reached
  | empty, r => [r]
  | char c, r =>
    if (s.text[r.place]?).any (s.test (· == c)) then [{ r with place := r.place + 1 }] else []
  | any, r => if r.place < s.text.size then [{ r with place := r.place + 1 }] else []
  | oneOf negated items, r =>
    let test := fun d => s.test (fun c => items.any (SetItem.holds c)) d != negated
    if (s.text[r.place]?).any test then [{ r with place := r.place + 1 }] else []
  | lineStart, r =>
    if r.place = 0 ∨ (s.lines ∧ s.text[r.place - 1]? = some '\n') then [r] else []
  | lineEnd, r =>
    if r.place = s.text.size ∨ (s.lines ∧ s.text[r.place]? = some '\n') then [r] else []
  | wordStart, r => if s.wordBefore r.place = false ∧ s.wordAt r.place then [r] else []
  | wordEnd, r => if s.wordBefore r.place ∧ s.wordAt r.place = false then [r] else []
  | wordEdge here, r => if (s.wordBefore r.place != s.wordAt r.place) == here then [r] else []
  | group n e, r =>
    (e.ends s r).map fun next =>
      { next with groups := (n, r.place, next.place) :: next.groups.filter (·.1 != n) }
  | reference n, r =>
    match r.groups.lookup n with
    | none => []
    | some (first, last) =>
      let size := last - first
      let same := (List.range size).all fun k =>
        match s.text[first + k]?, s.text[r.place + k]? with
        | some c, some d => s.test (· == c) d
        | _, _ => false
      if same then [{ r with place := r.place + size }] else []
  | sequence a b, r => distinct s ((a.ends s r).flatMap (b.ends s))
  | either a b, r => distinct s (a.ends s r ++ b.ends s r)
  | repeated e least most, r =>
    match e.single? s with
    | some test =>
      let rest := s.text.size - r.place
      let run := runLength s test (min rest (most.getD rest)) r.place
      if run < least then []
      else (List.range (run + 1 - least)).map fun k => { r with place := r.place + (run - k) }
    | none => repeatStep s (e.ends s) least most (s.text.size - r.place + least + 1) 0 r

/-- The longest match that starts at a place. -/
def matchAt (s : Setting) (e : Regex) (place : Nat) : Option Reached :=
  (e.ends s ⟨place, []⟩).foldl (fun best r => match best with
    | none => some r
    | some b => if b.place < r.place then some r else best) none

/-- The first match from a place on: where it starts, and what it reaches. -/
def searchWithin (s : Setting) (e : Regex) : Nat → Nat → Option (Nat × Reached)
  | 0, _ => none
  | fuel + 1, place =>
    match e.matchAt s place with
    | some r => some (place, r)
    | none => searchWithin s e fuel (place + 1)

/-- The first match in a text from a place on. -/
def search (s : Setting) (e : Regex) (place : Nat) : Option (Nat × Reached) :=
  searchWithin s e (s.text.size + 1 - place) place

/-- The first match in a text from a place on: where it starts and ends. -/
def findFrom (e : Regex) (text : List Char) (place : Nat) : Option (Nat × Nat) :=
  (e.search { text := text.toArray, exact := e.hasReference } place).map fun (start, r) =>
    (start, r.place)

/-- There is a match in a text. -/
def isIn (e : Regex) (text : List Char) : Bool := (e.findFrom text 0).isSome

/-- How expressions are written. -/
structure Dialect where
  /-- Parentheses, braces, bars and signs mean something without a backslash. -/
  extended : Bool := false
  /-- Signs repeat without a backslash though the others need one. -/
  signs : Bool := false
  /-- Repetitions may have bounds in braces. -/
  bounded : Bool := true
  /-- A backslash and a letter may stand for a control character. -/
  controls : Bool := false
  /-- A repetition of nothing and odd bounds are errors. -/
  strict : Bool := false
  /-- A set that looks like the name of a class is an error. -/
  careful : Bool := false
  /-- A range may end before it starts, and then holds nothing. -/
  emptyRanges : Bool := false

/-- What has not been read of an expression, and how many groups have been opened and closed. -/
structure Parsing where
  rest : List Char
  groups : Nat := 0
  closed : List Nat := []
  /-- What is odd in it though it is no error. -/
  warnings : List String := []

/-- Reads an expression, or finds an error. -/
abbrev Parser := StateT Parsing (Except String)

/-- The error of a set that does not close. -/
def openSet : String := "Unmatched [, [^, [:, [., or [="

/-- The error of a set with nothing behind its opening bracket. -/
def bareSet : String := "Invalid regular expression"

/-- The control character that a letter behind a backslash stands for. -/
def control? (c : Char) : Option Char :=
  [('n', '\n'), ('t', '\t'), ('f', '\x0c'), ('v', '\x0b'), ('a', '\x07'), ('r', '\r')].lookup c

/-- The first character of a text inside a set. -/
def setCharacter (d : Dialect) : List Char → Option (Char × List Char)
  | [] => none
  | '[' :: '.' :: c :: '.' :: ']' :: rest => some (c, rest)
  | '\\' :: c :: rest =>
    match if d.controls then control? c else none with
    | some control => some (control, rest)
    | none => some ('\\', c :: rest)
  | c :: rest => some (c, rest)

/-- Reads the members of a set up to its end. -/
def readItems (d : Dialect) : Nat → Bool → List Char → List SetItem →
    Except String (List SetItem × List Char)
  | 0, _, _, _ => .error openSet
  | fuel + 1, first, cs, items =>
    match cs, setCharacter d cs with
    | [], _ | _, none => .error openSet
    | '[' :: ':' :: rest, _ =>
      let name := rest.takeWhile (· != ':')
      match rest.drop name.length with
      | ':' :: ']' :: rest =>
        if characterClasses.any fun entry => entry.1.toList == name then
          readItems d fuel false rest (.named (String.ofList name) :: items)
        else .error "Invalid character class name"
      | _ => .error openSet
    | '[' :: '=' :: c :: '=' :: ']' :: rest, _ => readItems d fuel false rest (.single c :: items)
    | c :: _, some (low, rest) =>
      if c = ']' ∧ first = false then .ok (items.reverse, rest)
      else
        match rest with
        | '-' :: ']' :: _ => readItems d fuel false rest (.single low :: items)
        | '-' :: more =>
          match setCharacter d more with
          | none => .error openSet
          | some (high, rest) =>
            if high < low ∧ d.emptyRanges = false then .error "Invalid range end"
            else readItems d fuel false rest (.range low high :: items)
        | _ => readItems d fuel false rest (.single low :: items)

/-- The error of a set that looks like the name of a class. -/
def confusingSet : String := "character class syntax is [[:space:]], not [:space:]"

/-- Members that spell the name of a class with its colons. -/
def looksLikeClass (items : List SetItem) : Bool :=
  let isColon := fun (i : SetItem) => i == .single ':'
  let isPlain := fun (i : SetItem) => match i with
    | .single _ => true
    | _ => false
  items.head?.any isColon && items.getLast?.any isColon && items.all isPlain &&
    !items.all isColon

/-- Reads a set behind its opening bracket. -/
def readSet (d : Dialect) (cs : List Char) : Except String (Regex × List Char) :=
  let (negated, cs) := match cs with
    | '^' :: rest => (true, rest)
    | cs => (false, cs)
  match if cs = [] then .error bareSet else readItems d (cs.length + 1) true cs [] with
  | .ok (items, rest) =>
    if d.careful ∧ looksLikeClass items then .error confusingSet
    else .ok (oneOf negated items, rest)
  | .error text => .error text

/-- What ends a number in bounds. -/
inductive CountEnd where
  | comma
  | closing
  | finish
  deriving Repr, DecidableEq

/-- The text of a number in bounds, what ends it, and what stands behind that. -/
def readCount (d : Dialect) : List Char → List Char × CountEnd × List Char
  | [] => ([], .finish, [])
  | c :: rest =>
    if c = ',' then ([], .comma, rest)
    else if d.extended ∧ c = '\x7d' then ([], .closing, rest)
    else if d.extended = false ∧ c = '\\' ∧ rest.head? = some '\x7d' then
      ([], .closing, rest.drop 1)
    else
      let (cs, e, rest) := readCount d rest
      (c :: cs, e, rest)

/-- The bounds of a repetition behind its opening brace. -/
inductive Bounds where
  | valid (least : Nat) (most : Option Nat) (rest : List Char)
  | refused
  | tooBig
  /-- They are no numbers, or they do not close. -/
  | odd (isOpen : Bool)

/-- The highest number that bounds may have. -/
def mostRepetitions : Nat := 32767

/-- Reads the bounds of a repetition behind its opening brace. -/
def readBounds (d : Dialect) (cs : List Char) : Bounds :=
  let (first, e, rest) := readCount d cs
  let isNumber := fun (cs : List Char) => cs.all Char.isDigit
  let least := ofDigits 10 first
  if e = .finish ∨ !isNumber first then .odd (e = .finish)
  else if e = .closing then
    if first = [] then .refused
    else if mostRepetitions < least then .tooBig
    else .valid least (some least) rest
  else
    let (second, e, rest) := readCount d rest
    let most := if second = [] then none else some (ofDigits 10 second)
    if e = .finish ∨ !isNumber second then .odd (e = .finish)
    else if e = .comma ∨ most.any (· < least) then .refused
    else if mostRepetitions < most.getD least then .tooBig
    else .valid least most rest

/-- The repetition in front of a text, with what stands behind it. -/
def readRepetition? (d : Dialect) (cs : List Char) :
    Except String (Option (Nat × Option Nat × List Char)) :=
  let bounds := fun (rest : List Char) =>
    match readBounds d rest with
    | .valid least most rest => .ok (some (least, most, rest))
    | .refused => .error "Invalid content of \\\x7b\\\x7d"
    | .tooBig => .error "Regular expression too big"
    | .odd isOpen =>
      if d.extended ∧ d.strict = false then .ok none
      else if isOpen then .error "Unmatched \\\x7b"
      else .error "Invalid content of \\\x7b\\\x7d"
  let sign := fun (c : Char) (rest : List Char) =>
    match c with
    | '+' => .ok (some (1, none, rest))
    | '?' => .ok (some (0, some 1, rest))
    | '\x7b' => if d.bounded then bounds rest else .ok none
    | _ => .ok none
  match cs with
  | '*' :: rest => .ok (some (0, none, rest))
  | '\\' :: c :: rest => if d.extended ∨ d.signs then .ok none else sign c rest
  | c :: rest => if d.extended ∨ d.signs then sign c rest else .ok none
  | [] => .ok none

/-- The error of a repetition of nothing. -/
def nothingRepeated : String := "Invalid preceding regular expression"

/-- The repetitions that stand behind an expression. -/
def readRepetitions (d : Dialect) : Nat → Regex → Parser Regex
  | 0, r => pure r
  | fuel + 1, r => do
    let s ← get
    match ← (readRepetition? d s.rest : Except String _) with
    | none => return r
    | some (least, most, rest) =>
      let again := rest.head? = some '*' ∨ rest.take 2 = ['\\', '\x7b']
      if d.strict ∧ d.extended = false ∧ again then throw nothingRepeated
      set { s with rest := rest }
      readRepetitions d fuel (repeated r least most)

/-- The expression that a letter or another character behind a backslash is. -/
def escaped (d : Dialect) (c : Char) : Regex :=
  let word := [SetItem.named "alnum", .single '_']
  match c with
  | '<' => wordStart
  | '>' => wordEnd
  | 'b' => wordEdge true
  | 'B' => wordEdge false
  | 'w' => oneOf false word
  | 'W' => oneOf true word
  | 's' => oneOf false [.named "space"]
  | 'S' => oneOf true [.named "space"]
  | '\x60' => lineStart
  | '\'' => lineEnd
  | c => char (if d.controls then (control? c).getD c else c)

/-- What the next characters of an expression are. -/
inductive Sign where
  | finish
  | bar
  | opening
  | closing
  | reference (n : Nat)
  | quoted (c : Char)
  | plain (c : Char)

/-- The next sign of an expression, and what stands behind it. -/
def nextSign (d : Dialect) : List Char → Except String (Sign × List Char)
  | [] => .ok (.finish, [])
  | ['\\'] => .error "Trailing backslash"
  | '\\' :: c :: rest =>
    if d.extended = false ∧ c = '(' then .ok (.opening, rest)
    else if d.extended = false ∧ c = ')' then .ok (.closing, rest)
    else if d.extended = false ∧ c = '|' then .ok (.bar, rest)
    else if c.isDigit ∧ c ≠ '0' then .ok (.reference (digitValue c), rest)
    else .ok (.quoted c, rest)
  | c :: rest =>
    if d.extended ∧ c = '(' then .ok (.opening, rest)
    else if d.extended ∧ c = ')' then .ok (.closing, rest)
    else if d.extended ∧ c = '|' then .ok (.bar, rest)
    else .ok (.plain c, rest)

/-- A branch of an expression ends here. -/
def endsBranch (d : Dialect) (cs : List Char) : Bool :=
  match nextSign d cs with
  | .ok (.finish, _) | .ok (.bar, _) | .ok (.closing, _) => true
  | _ => false

mutual

/-- Reads alternatives up to the end of the expression or of a group. -/
def readEither (d : Dialect) (depth : Nat) : Nat → Parser Regex
  | 0 => pure empty
  | fuel + 1 => do
    let a ← readBranch d depth fuel true
    let s ← get
    match nextSign d s.rest with
    | .ok (.bar, rest) =>
      set { s with rest := rest }
      return either a (← readEither d depth fuel)
    | _ => return a

/-- Reads expressions that follow each other. -/
def readBranch (d : Dialect) (depth : Nat) : Nat → Bool → Parser Regex
  | 0, _ => pure empty
  | fuel + 1, isFirst => do
    let s ← get
    let (sign, rest) ← (nextSign d s.rest : Except String _)
    let goOn := fun (a : Regex) => do
      let a ← readRepetitions d (s.rest.length + 1) a
      return sequence a (← readBranch d depth fuel false)
    let take := fun (a : Regex) => do
      set { s with rest := rest }
      goOn a
    let pass := fun (a : Regex) (isFirst : Bool) => do
      set { s with rest := rest }
      return sequence a (← readBranch d depth fuel isFirst)
    match sign with
    | .finish | .bar => return empty
    | .closing =>
      if 0 < depth then return empty
      else if d.extended ∧ d.strict = false then take (char ')')
      else throw "Unmatched ) or \\)"
    | .opening => do
      let n := s.groups + 1
      set { s with rest := rest, groups := n }
      let inner ← readEither d (depth + 1) fuel
      let s ← get
      match nextSign d s.rest with
      | .ok (.closing, rest) =>
        set { s with rest := rest, closed := n :: s.closed }
        goOn (group n inner)
      | .error text => throw text
      | _ => throw "Unmatched ( or \\("
    | .reference n =>
      if s.closed.contains n then take (reference n) else throw "Invalid back reference"
    | .quoted c =>
      if c = '\x7b' ∧ d.extended = false ∧ isFirst then throw nothingRepeated
      else take (escaped d c)
    | .plain c =>
      match c with
      | '.' => take any
      | '[' =>
        match readSet d rest with
        | .ok (a, rest) =>
          set { s with rest := rest }
          goOn a
        | .error text => throw text
      | '^' => if d.extended ∨ isFirst then pass lineStart true else take (char '^')
      | '$' =>
        if d.extended ∨ endsBranch d rest then pass lineEnd d.extended else take (char '$')
      | c =>
        if d.extended ∧ isFirst ∧ ['*', '+', '?', '\x7b'].contains c then
          if d.strict then throw nothingRepeated
          let found ← (readRepetition? d s.rest : Except String _)
          match found with
          | none => take (char c)
          | some (_, _, rest) =>
            let shown := if c = '\x7b' then "\x7b...\x7d" else String.ofList [c]
            set { s with rest := rest, warnings := s.warnings ++ [shown ++ " at start of expression"] }
            readBranch d depth fuel true
        else take (char c)

end

/-- An expression that has been read. -/
structure Parsed where
  regex : Regex
  /-- How many groups it has. -/
  groups : Nat
  /-- What is odd in it. -/
  warnings : List String

/-- Reads an expression. -/
def parse (d : Dialect) (cs : List Char) : Except String Parsed :=
  match (readEither d 0 (2 * cs.length + 3)).run { rest := cs } with
  | .ok (r, s) => .ok ⟨r, s.groups, s.warnings⟩
  | .error text => .error text

/-- An expression that is a text without any signs. -/
def literal (cs : List Char) : Regex := cs.foldr (fun c r => sequence (char c) r) empty

end Regex

end NativeBuild.Machine
