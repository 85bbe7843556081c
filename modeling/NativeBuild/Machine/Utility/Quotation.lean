import NativeBuild.Machine.Bytes

/-
  Names in messages. A name stands in single quotes if a shell would not take it as it is; what
  cannot be printed is written as an escape, in the form that a shell reads. Other texts stand in
  single quotes with a backslash in front of those inside.
-/

namespace NativeBuild.Machine

/-- A character that is printed as it is. -/
def isPrinted (c : Char) : Bool := ' ' ≤ c && c ≤ '~'

/-- The letter behind the backslash of an escape for a control character. -/
def controlLetters : List (Char × Char) :=
  [('\x07', 'a'), ('\x08', 'b'), ('\x09', 't'), ('\n', 'n'), ('\x0b', 'v'), ('\x0c', 'f'),
    ('\x0d', 'r')]

/-- The escape of a character that is not printed. -/
def escapeOf (c : Char) : List Char :=
  match controlLetters.lookup c with
  | some letter => ['\\', letter]
  | none => '\\' :: padLeft '0' 3 (Nat.toDigits 8 c.toNat)

/-- A character means something to a shell wherever it stands. -/
def isShellMark (c : Char) : Bool := " !\"$&'()*:;<=>?[\\]^\x60|".toList.contains c && c != ']'

/-- Characters that a shell would not take as they are. -/
def needsQuotes (name : String) : Bool :=
  name = "" || name = "\x7b" || name = "\x7d" || name.toList.any (fun c => isShellMark c || !isPrinted c) ||
    name.toList.head?.any fun c => c == '#' || c == '~'

/-- A text may stand in double quotes: nothing in it means anything there. -/
def fitsDoubleQuotes (cs : List Char) : Bool :=
  cs.zipIdx.all fun (c, k) =>
    isLetter c || c.isDigit || " %'+,-./:@]_".toList.contains c || (k = 0 && (c == '#' || c == '~'))

/-- A text behind an opening single quote, up to the closing one. What cannot be printed stands in
quotes of its own that a dollar sign opens. -/
def quotedFrom (isEscaping : Bool) : List Char → List Char
  | [] => ['\'']
  | c :: cs =>
    if !isPrinted c then
      (if isEscaping then [] else "'$'".toList) ++ escapeOf c ++ quotedFrom true cs
    else if c = '\'' then "'\\''".toList ++ quotedFrom false cs
    else (if isEscaping then "''".toList else []) ++ c :: quotedFrom false cs

/-- A name in quotes, as messages show it. -/
def quotedName (name : String) : String :=
  if name.toList.contains '\'' && fitsDoubleQuotes name.toList then "\"" ++ name ++ "\""
  else String.ofList ('\'' :: quotedFrom false name.toList)

/-- A name as messages show it, in quotes only where that is needed. -/
def shownName (name : String) : String := if needsQuotes name then quotedName name else name

/-- A text in quotes; those inside it are marked. -/
def quotedText (text : String) : String :=
  "'" ++ String.ofList (text.toList.flatMap fun c =>
    if c = '\'' ∨ c = '\\' then ['\\', c] else if isPrinted c then [c] else escapeOf c) ++ "'"

end NativeBuild.Machine
