import NativeBuild.Text.Escape
import NativeBuild.Text.Printable

/-
  Quoted text: the form in which names, file names and argument lists stand in messages. A text is
  put between single quotes, or between double quotes when it holds a single quote and no double
  one; the quote and the backslash are escaped, and so is every character that does not print.
-/

namespace NativeBuild.Text

/-- The quote that encloses `s`. -/
def quoteFor (s : List Char) : Char :=
  if '\'' ∈ s ∧ '"' ∉ s then '"' else '\''

/-- One character of a text quoted by `quote`. -/
def quoteChar (quote c : Char) : List Char :=
  if c = quote ∨ c = '\\' then ['\\', c]
  else if c = '\t' then ['\\', 't']
  else if c = '\n' then ['\\', 'n']
  else if c = '\r' then ['\\', 'r']
  else if isPrintable c then [c]
  else escapeChar c

/-- A text between quotes, on one line and with every character visible. -/
def quoted (s : String) : String :=
  let quote := quoteFor s.toList
  String.ofList (quote :: s.toList.flatMap (quoteChar quote) ++ [quote])

/-- A list of texts, each quoted, between brackets. -/
def quotedList (items : List String) : String :=
  "[" ++ ", ".intercalate (items.map quoted) ++ "]"

end NativeBuild.Text
