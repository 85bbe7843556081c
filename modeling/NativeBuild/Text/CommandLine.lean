/-
  Command lines: a list of argument tokens as one line of text. Tokens are separated by single
  blanks; a token that is empty or holds a blank or a tab is put between double quotes; a double
  quote is written after a backslash, and the backslashes right before a quote are doubled, so
  that the rules by which a program's start-up code splits its command line give the tokens back.
-/

namespace NativeBuild.Text.CommandLine

/-- A token needs quotes when it is empty or would be split. -/
def needsQuotes (token : List Char) : Bool :=
  token.isEmpty || token.contains ' ' || token.contains '\t'

/-- The characters of a token after `slashes` pending backslashes. They are written once before
an ordinary character, twice before a double quote (and once more to escape it), and at the end
of the token twice when a closing quote follows. -/
def encodeFrom (closing : Bool) : Nat → List Char → List Char
  | slashes, [] => List.replicate (if closing then 2 * slashes else slashes) '\\'
  | slashes, c :: rest =>
    if c = '\\' then encodeFrom closing (slashes + 1) rest
    else if c = '"' then List.replicate (2 * slashes + 1) '\\' ++ '"' :: encodeFrom closing 0 rest
    else List.replicate slashes '\\' ++ c :: encodeFrom closing 0 rest

/-- One token as it stands on a command line. -/
def encodeToken (token : List Char) : List Char :=
  if needsQuotes token then '"' :: encodeFrom true 0 token ++ ['"'] else encodeFrom false 0 token

/-- The tokens on one line, separated by single blanks. -/
def encode (tokens : List String) : String :=
  " ".intercalate (tokens.map fun token => String.ofList (encodeToken token.toList))

end NativeBuild.Text.CommandLine
