import NativeBuild.Machine.Bytes

/-
  Scripts: the commands of the shell and the words in them. A word is a list of pieces, and its
  quotation marks are kept among them, since what stands between them is expanded differently.
-/

namespace NativeBuild.Machine

/-- How a parameter is used in a word. -/
inductive Use where
  | plain
  | size
  /-- With a word for a parameter that is not set. -/
  | default
  /-- With a word for a parameter that is set. -/
  | alternative
  /-- A parameter that is not set is given a value. -/
  | assignment
  /-- A parameter that is not set is an error. -/
  | demand
  | trimEnd (longest : Bool)
  | trimStart (longest : Bool)
  /-- The braces hold something that means nothing. -/
  | invalid
  deriving Repr, DecidableEq

/-- How a file is opened. -/
inductive Opening where
  | read
  | readWrite
  | write
  /-- As for writing, and a file that is there already is cut even where that is forbidden. -/
  | overwrite
  | append
  deriving Repr, DecidableEq

mutual

/-- A piece of a word. -/
inductive Piece where
  | text (cs : List Char) (escaped : Bool)
  /-- A quotation mark, which opens or closes. -/
  | quotes
  /-- A parameter; with `orNull` one that is empty counts as not set. -/
  | parameter (name : String) (use : Use) (orNull : Bool) (word : List Piece)
  /-- What a command prints. -/
  | captured (body : Command)
  | arithmetic (word : List Piece)

/-- A change to a descriptor. -/
inductive Redirection where
  | file (descriptor : Nat) (opening : Opening) (target : List Piece)
  /-- Another descriptor, or none, which closes this one. -/
  | duplicate (descriptor : Nat) (source : Option Nat)
  | computed (descriptor : Nat) (target : List Piece)
  /-- A document of the script, by its number. -/
  | document (descriptor : Nat) (number : Nat)

/-- A command, with the line on which it starts where messages need it. -/
inductive Command where
  | nothing
  | simple (line : Nat) (assignments words : List (List Piece)) (redirections : List Redirection)
  | pipe (stages : List Command) (background : Bool)
  | redirected (line : Nat) (body : Command) (redirections : List Redirection)
  | subshell (line : Nat) (body : Command) (redirections : List Redirection)
  | background (line : Nat) (body : Command) (redirections : List Redirection)
  | both (first second : Command)
  | either (first second : Command)
  | sequence (first second : Command)
  | negated (body : Command)
  | conditional (test yes no : Command)
  | loop (untilTrue : Bool) (test body : Command)
  | each (line : Nat) (name : String) (words : List (List Piece)) (body : Command)
  | select (line : Nat) (word : List Piece) (cases : List (List (List Piece) × Command))
  | define (line : Nat) (name : String) (body : Command)

end

instance : Inhabited Command := ⟨.nothing⟩

instance : Inhabited Piece := ⟨.quotes⟩

/-- A word of a script. -/
abbrev Word := List Piece

/-- There is no command. -/
def Command.isNothing : Command → Bool
  | nothing => true
  | _ => false

/-- The text of a word in which nothing is quoted and nothing is expanded. -/
def Word.plain? : Word → Option (List Char)
  | [] => some []
  | .text cs false :: rest => (Word.plain? rest).map (cs ++ ·)
  | _ => none

/-- A word that starts like an assignment, with a name and an equals sign outside of quotes. -/
def Word.isAssignment (word : Word) : Bool :=
  let front := (word.takeWhile fun piece => match piece with
    | .text _ false => true
    | _ => false).flatMap fun piece => match piece with
    | .text cs _ => cs
    | _ => []
  let name := front.takeWhile inName
  isName name && (front.drop name.length).head? == some '='

/-- A document of a script. In a literal one nothing is expanded. -/
structure Document where
  body : Word
  literal : Bool

end NativeBuild.Machine
