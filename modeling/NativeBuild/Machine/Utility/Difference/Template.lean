import NativeBuild.Machine.Utility.Difference.Hunk

/-
  Files merged by templates. A file is taken apart into groups of lines: those of both files, and
  those that a change takes, brings, or exchanges. The template of a group says which lines to print
  and what around them; the templates of lines say how.
-/

namespace NativeBuild.Machine.Difference

/-- The kinds of groups and of lines. -/
inductive Kind where
  | common
  | old
  | new
  | changed
  deriving Repr, DecidableEq

/-- A group: its lines in both files. -/
structure Group where
  kind : Kind
  before : Nat
  stop : Nat
  after : Nat
  stopAfter : Nat

namespace Group

/-- What a letter tells of a group: the line before it, its first and last line, the line behind it,
or their number; capital letters tell of the second file. -/
def value? (g : Group) (letter : Char) : Option Nat :=
  let (start, stop) := if letter.isUpper then (g.after, g.stopAfter) else (g.before, g.stop)
  match letter.toLower with
  | 'e' => some start
  | 'f' => some (start + 1)
  | 'l' => some stop
  | 'm' => some (stop + 1)
  | 'n' => some (stop - start)
  | _ => none

end Group

/-- Templates of groups and lines. -/
structure Templates where
  group : Kind → List Char
  line : Kind → List Char
  tabSize : Nat := 8
  expandsTabs : Bool := false

namespace Templates

/-- A number in the form that flags, a width and digits ask for. -/
def numberText (flags width precision : List Char) (form : Char) (n : Nat) : List Char :=
  let digits := match form with
    | 'o' => Nat.toDigits 8 n
    | 'x' => Nat.toDigits 16 n
    | 'X' => (Nat.toDigits 16 n).map Char.toUpper
    | _ => decimal n
  let digits := match precision with
    | [] => digits
    | _ :: places => padLeft '0' (ofDigits 10 places) digits
  let width := ofDigits 10 width
  if flags.contains '-' then padRight width digits
  else padLeft (if flags.contains '0' ∧ precision = [] then '0' else ' ') width digits

/-- The character that is written between quotes: itself, or up to three octal digits behind a
backslash. -/
def quotedCharacter? (cs : List Char) : Option (Char × List Char) :=
  match cs with
  | '\\' :: rest =>
    let digits := (rest.takeWhile fun c => '0' ≤ c ∧ c ≤ '7').take 3
    match rest.drop digits.length with
    | '\'' :: rest => if digits = [] then none else some (Char.ofNat (ofDigits 8 digits % 256), rest)
    | _ => none
  | c :: '\'' :: rest => if c = '\'' then none else some (c, rest)
  | _ => none

/-- Reads what stands behind a percent sign: a character, or a number that a letter tells. -/
def readPart? (value? : Char → Option Nat) (cs : List Char) : Option (List Char × List Char) :=
  let flags := cs.takeWhile fun c => c == '-' || c == '\'' || c == '0'
  let cs := cs.drop flags.length
  let width := cs.takeWhile Char.isDigit
  let cs := cs.drop width.length
  let precision := match cs with
    | '.' :: rest => '.' :: rest.takeWhile Char.isDigit
    | _ => []
  match cs.drop precision.length with
  | 'c' :: '\'' :: rest => (quotedCharacter? rest).map fun (c, rest) => ([c], rest)
  | form :: letter :: rest =>
    if "doxX".toList.contains form then
      (value? letter).map fun n => (numberText flags width precision form n, rest)
    else none
  | _ => none

/-- A line by its template. -/
def lineText (t : Templates) (number : Nat) (line : Line) : Nat → List Char → List UInt8
  | 0, _ => []
  | _, [] => []
  | fuel + 1, '%' :: cs =>
    let text := if t.expandsTabs then withoutTabs t.tabSize 0 line.text else line.text
    match cs with
    | '%' :: rest => 37 :: lineText t number line fuel rest
    | 'l' :: rest => text ++ lineText t number line fuel rest
    | 'L' :: rest =>
      text ++ (if line.ended then [10] else []) ++ lineText t number line fuel rest
    | _ =>
      match readPart? (fun letter => if letter = 'n' then some number else none) cs with
      | some (shown, rest) => toBytes shown ++ lineText t number line fuel rest
      | none => 37 :: lineText t number line fuel cs
  | fuel + 1, c :: cs => toBytes [c] ++ lineText t number line fuel cs

/-- Lines by the template of their kind. -/
def linesText (t : Templates) (kind : Kind) (lines : List Line) (start : Nat) : List UInt8 :=
  (lines.zipIdx (start + 1)).flatMap fun (line, number) =>
    t.lineText number line ((t.line kind).length + 1) (t.line kind)

/-- One side of a comparison in a template. -/
def readOperand? (g : Group) (cs : List Char) : Option (Nat × List Char) :=
  match cs with
  | c :: rest =>
    if c.isDigit then
      let digits := cs.takeWhile Char.isDigit
      some (ofDigits 10 digits, cs.drop digits.length)
    else (g.value? c).map fun n => (n, rest)
  | [] => none

/-- A group by its template, up to a character that ends it, and what is left of the template. -/
def groupText (t : Templates) (s : Sides) (g : Group) (stop : Option Char) :
    Nat → List Char → List UInt8 × List Char
  | 0, cs => ([], cs)
  | _, [] => ([], [])
  | fuel + 1, c :: cs =>
    let andThen := fun (shown : List UInt8) (rest : List Char) =>
      let (more, left) := groupText t s g stop fuel rest
      (shown ++ more, left)
    if stop = some c then ([], c :: cs)
    else if c ≠ '%' then andThen (toBytes [c]) cs
    else
      let old := part s.left g.before g.stop
      let new := part s.right g.after g.stopAfter
      match cs with
      | '%' :: rest => andThen [37] rest
      | '<' :: rest => andThen (t.linesText .old old g.before) rest
      | '=' :: rest => andThen (t.linesText .common old g.before) rest
      | '>' :: rest => andThen (t.linesText .new new g.after) rest
      | '(' :: rest =>
        let compared := do
          let (a, rest) ← readOperand? g rest
          let (b, rest) ← (if rest.head? = some '=' then readOperand? g (rest.drop 1) else none)
          if rest.head? = some '?' then some (a == b, rest.drop 1) else none
        match compared with
        | none => andThen [37] cs
        | some (equal, rest) =>
          let (first, rest) := groupText t s g (some ':') fuel rest
          let (second, rest) := groupText t s g (some ')') fuel (rest.drop 1)
          andThen (if equal then first else second) (rest.drop 1)
      | _ =>
        match readPart? g.value? cs with
        | some (shown, rest) => andThen (toBytes shown) rest
        | none => andThen [37] cs

/-- The groups that two files are made of. -/
def groups (s : Sides) (changes : List Change) : List Group :=
  let (found, place, other) := changes.foldl (fun (found, place, other) e =>
    let kind := if e.inserted = 0 then Kind.old else if e.removed = 0 then .new else .changed
    let common : List Group :=
      if place < e.before ∨ other < e.after then [⟨.common, place, e.before, other, e.after⟩] else []
    (found ++ common ++ [⟨kind, e.before, e.stop, e.after, e.stopAfter⟩], e.stop, e.stopAfter))
    (([] : List Group), 0, 0)
  if place < s.left.length ∨ other < s.right.length then
    found ++ [⟨.common, place, s.left.length, other, s.right.length⟩]
  else found

/-- Two files merged. -/
def body (t : Templates) (s : Sides) (changes : List Change) : List UInt8 :=
  (groups s changes).flatMap fun g =>
    (t.groupText s g none ((t.group g.kind).length + 1) (t.group g.kind)).1

end Templates

end NativeBuild.Machine.Difference
