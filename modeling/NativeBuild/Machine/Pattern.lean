import NativeBuild.FileTree.Files
import NativeBuild.Machine.Bytes

/-
  Patterns for names: `*` stands for any text, `?` for any character, brackets for a choice of
  characters, and a backslash takes the meaning from the character behind it.
-/

namespace NativeBuild.Machine

/-- A visible character other than a letter or a digit. -/
def isPunctuation (c : Char) : Bool := '!' ≤ c && c ≤ '~' && !isLetter c && !c.isDigit

/-- The classes of characters that have a name. -/
def characterClasses : List (String × (Char → Bool)) :=
  [("alnum", fun c => isLetter c || c.isDigit), ("alpha", isLetter),
    ("blank", fun c => c == ' ' || c == '\t'), ("cntrl", fun c => c < ' ' || c == '\x7f'),
    ("digit", Char.isDigit), ("graph", fun c => '!' ≤ c && c ≤ '~'),
    ("lower", fun c => 'a' ≤ c && c ≤ 'z'), ("print", fun c => ' ' ≤ c && c ≤ '~'),
    ("punct", isPunctuation), ("space", isSpace), ("upper", fun c => 'A' ≤ c && c ≤ 'Z'),
    ("xdigit", fun c => digitValue c < 16)]

/-- The class in front of a text that follows an opening bracket, as in `:alpha:]`, and the rest
of the text. -/
def leadingClass? (cs : List Char) : Option ((Char → Bool) × List Char) :=
  characterClasses.findSome? fun (name, test) =>
    let shown := ':' :: name.toList ++ [':', ']']
    if shown.isPrefixOf cs then some (test, cs.drop shown.length) else none

/-- Whether a character is in the choice that a bracket has opened, and the pattern behind the
choice; nothing if it is never closed. The first member may be a closing bracket. -/
def inChoice (chr : Char) : Nat → Bool → Bool → List Char → Option (Bool × List Char)
  | 0, _, _, _ => none
  | _, _, _, [] => none
  | fuel + 1, first, found, c :: p =>
    if c = ']' ∧ first = false then some (found, p)
    else
      match if c = '[' then leadingClass? p else none with
      | some (test, p) => inChoice chr fuel false (found || test chr) p
      | none =>
        let (low, p) := if c = '\\' then (p.headD '\\', p.drop 1) else (c, p)
        match p with
        | '-' :: d :: rest =>
          if d = ']' then inChoice chr fuel false (found || chr == low) p
          else
            let (high, rest) := if d = '\\' then (rest.headD '\\', rest.drop 1) else (d, rest)
            inChoice chr fuel false (found || (low ≤ chr && chr ≤ high)) rest
        | _ => inChoice chr fuel false (found || chr == low) p

/-- The choice of characters behind an opening bracket; one that starts with `!` is of all other
characters. -/
def choice? (chr : Char) (p : List Char) : Option (Bool × List Char) :=
  match p with
  | '!' :: p => (inChoice chr (p.length + 1) true false p).map fun (b, r) => (!b, r)
  | p => inChoice chr (p.length + 1) true false p

/-- A text matches a pattern, with a number of steps that may be made. -/
def matchesWithin : Nat → List Char → List Char → Bool
  | 0, _, _ => false
  | _, [], cs => cs.isEmpty
  | fuel + 1, '\\' :: p, cs =>
    let (d, p) := match p with
      | [] => ('\\', [])
      | d :: p => (d, p)
    match cs with
    | [] => false
    | c :: cs => c == d && matchesWithin fuel p cs
  | fuel + 1, '?' :: p, cs =>
    match cs with
    | [] => false
    | _ :: cs => matchesWithin fuel p cs
  | fuel + 1, '*' :: p, cs =>
    matchesWithin fuel p cs || (match cs with
      | [] => false
      | _ :: rest => matchesWithin fuel ('*' :: p) rest)
  | fuel + 1, '[' :: p, cs =>
    match cs with
    | [] => false
    | c :: cs =>
      match choice? c p with
      | some (found, p) => found && matchesWithin fuel p cs
      | none => c == '[' && matchesWithin fuel p cs
  | fuel + 1, d :: p, cs =>
    match cs with
    | [] => false
    | c :: cs => c == d && matchesWithin fuel p cs

/-- A text matches a pattern. -/
def matchesPattern (pattern cs : List Char) : Bool :=
  matchesWithin (pattern.length + cs.length + 1) pattern cs

/-- A pattern without the backslashes that take a meaning away. -/
def unescaped : List Char → List Char
  | '\\' :: c :: rest => c :: unescaped rest
  | c :: rest => c :: unescaped rest
  | [] => []

/-- The search for a closing bracket before the next slash; the first character does not count. -/
def closesWithin : Nat → List Char → Bool
  | 0, _ => false
  | _, [] => false
  | fuel + 1, c :: rest =>
    let (c, rest) := if c = '\\' then (rest.headD '/', rest.drop 1) else (c, rest)
    if c = '/' then false
    else
      match rest with
      | [] => false
      | ']' :: _ => true
      | rest => closesWithin fuel rest

/-- A bracket that is closed before the next slash, seen from behind it. -/
def closesChoice (cs : List Char) : Bool :=
  let start := if cs.head? = some '!' then cs.drop 1 else cs
  closesWithin (start.length + 1) start

/-- A pattern that may stand for something other than itself. -/
def isActive : List Char → Bool
  | '\\' :: _ :: rest => isActive rest
  | c :: rest => c == '*' || c == '?' || (c == '[' && closesChoice rest) || isActive rest
  | [] => false

/-- The pieces of a pattern between slashes. -/
def patternPieces : List Char → List (List Char)
  | [] => [[]]
  | '\\' :: c :: rest =>
    match patternPieces rest with
    | [] => [[]]
    | piece :: more =>
      if c = '/' then [] :: piece :: more else ('\\' :: c :: piece) :: more
  | c :: rest =>
    match patternPieces rest with
    | [] => [[]]
    | piece :: more => if c = '/' then [] :: piece :: more else (c :: piece) :: more

/-- The names in a directory, in the texts of the machine. -/
def namesIn (files : FileTree) (cwd : Location) (directory : List Char) : List (List Char) :=
  let path := if directory = [] then "." else outward (String.ofList directory)
  match files.list cwd path with
  | .ok names => ['.'] :: ['.', '.'] :: names.map fun name => (inward name).toList
  | .error _ => []

/-- Something stands where a path leads, be it a link that leads nowhere. -/
def isThere (files : FileTree) (cwd : Location) (path : List Char) : Bool :=
  match files.reach cwd false (outward (String.ofList path)) with
  | .ok (.found _ _) => true
  | _ => false

/-- The paths that match the pieces of a pattern, each put behind one of the paths so far. -/
def matchPieces (files : FileTree) (cwd : Location) :
    List (List Char) → List (List Char) → List (List Char)
  | bases, [] => bases
  | bases, piece :: rest =>
    let next := bases.flatMap fun base =>
      let options :=
        if isActive piece then
          let dotted := (unescaped piece).head? == some '.'
          (namesIn files cwd base).filter fun name =>
            (dotted || name.head? != some '.') && matchesPattern piece name
        else [unescaped piece]
      options.map fun name => base ++ name ++ if rest = [] then [] else ['/']
    matchPieces files cwd next rest

/-- The order of texts by their bytes. -/
def textLe (a b : List Char) : Bool := !(b < a)

/-- The paths that match a pattern, in order. -/
def matchingPaths (files : FileTree) (cwd : Location) (pattern : List Char) : List (List Char) :=
  if isActive pattern then
    ((matchPieces files cwd [[]] (patternPieces pattern)).filter (isThere files cwd)).mergeSort
      textLe
  else []

end NativeBuild.Machine
