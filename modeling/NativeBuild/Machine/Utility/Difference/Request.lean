import NativeBuild.Machine.Regex
import NativeBuild.Machine.Utility.Difference.Columns
import NativeBuild.Machine.Utility.Difference.Template

/-
  What is asked for when files are compared. Options are taken one after the other, and each may
  contradict those before it.
-/

namespace NativeBuild.Machine.Difference

/-- What is asked for. -/
structure Request where
  style : Option Style := none
  /-- How many lines are to be shown around changes, if that was said. -/
  around : Option Nat := none
  /-- The number was given with its own option. -/
  hasAround : Bool := false
  /-- A number given as digits alone. -/
  digits : Option Nat := none
  /-- How many lines of what both files have in common are to be compared. -/
  horizon : Nat := 0
  likeness : Likeness := {}
  blankLines : Bool := false
  ignored : List Regex := []
  titles : List Regex := []
  namesFunctions : Bool := false
  fewest : Bool := false
  asText : Bool := false
  brief : Bool := false
  reportsEqual : Bool := false
  tabBehindSign : Bool := false
  expandsTabs : Bool := false
  trimsEmpty : Bool := false
  tabSize : Option Nat := none
  width : Option Nat := none
  leftOnly : Bool := false
  hidesCommon : Bool := false
  dropsReturns : Bool := false
  recursive : Bool := false
  /-- Files that are missing count as empty; or only the first ones do. -/
  newFiles : Bool := false
  newFirst : Bool := false
  followsLinks : Bool := true
  excluded : List String := []
  starting : Option String := none
  /-- A file to compare all others with, and whether it comes first. -/
  fromFile : Option String := none
  toFile : Option String := none
  labels : List String := []
  groupTemplates : List (Kind × String) := []
  lineTemplates : List (Kind × String) := []

/-- Why a request is refused. -/
inductive Refusal where
  /-- The arguments make no sense. -/
  | misuse (text : String)
  | fatal (text : String)

/-- The largest number of lines that is told apart from all of them. -/
def mostLines : Nat := Nat.pow 2 62

/-- The number that an argument gives. -/
def lineCount? (text : String) : Option Nat :=
  let cs := text.toList.dropWhile isSpace
  match cs with
  | [] => if text = "" then some 0 else none
  | '-' :: cs => if natural? cs = some 0 then some 0 else none
  | '+' :: cs => (natural? cs).map fun n => min n mostLines
  | _ => (natural? cs).map fun n => min n mostLines

namespace Request

/-- The style is chosen; only one can be. -/
def choose (r : Request) (style : Style) : Except Refusal Request :=
  if r.style.all (· == style) then .ok { r with style := some style }
  else .error (.misuse "conflicting output style options")

/-- At least so many lines are shown around changes. -/
def showAround (r : Request) (count : Nat) : Request :=
  { r with around := some (max count (r.around.getD 0)) }

/-- A style that shows lines around changes, with their number. -/
def chooseAround (r : Request) (style : Style) (value : Option String) : Except Refusal Request := do
  match value with
  | none => return (← r.choose style).showAround 3
  | some text =>
    match lineCount? text with
    | none => .error (.misuse ("invalid context length '" ++ text ++ "'"))
    | some n => return { (← r.choose style).showAround n with hasAround := true }

/-- A template, which must not contradict an earlier one. -/
def setTemplate (r : Request) (ofLines : Bool) (option : String) (kinds : List Kind)
    (value : String) : Except Refusal Request := do
  let r ← r.choose .template
  let known := if ofLines then r.lineTemplates else r.groupTemplates
  if kinds.any fun kind => (known.lookup kind).any (· != value) then
    .error (.misuse ("conflicting " ++ option ++ " option value '" ++ value ++ "'"))
  else
    let all := known ++ kinds.map fun kind => (kind, value)
    return if ofLines then { r with lineTemplates := all } else { r with groupTemplates := all }

/-- The templates of groups by which lines are kept apart by a condition. -/
def conditionTemplates (name : String) : List (Kind × String) := [
  (.common, "%="),
  (.old, "#ifndef " ++ name ++ "\n%<#endif /* ! " ++ name ++ " */\n"),
  (.new, "#ifdef " ++ name ++ "\n%>#endif /* " ++ name ++ " */\n"),
  (.changed, "#ifndef " ++ name ++ "\n%<#else /* " ++ name ++ " */\n%>#endif /* " ++ name ++
    " */\n")]

/-- An expression. -/
def readExpression (text : String) : Except Refusal Regex :=
  match Regex.parse {} text.toList with
  | .ok parsed => .ok parsed.regex
  | .error fault => .error (.fatal (text ++ ": " ++ fault))

/-- The expression of lines that start functions. -/
def functionStart : String := "^[[:alpha:]$_]"

/-- A width, which must not contradict an earlier one. -/
def readWidth (known : Option Nat) (what value : String) : Except Refusal Nat :=
  match natural? value.toList with
  | none | some 0 => .error (.misuse ("invalid " ++ what ++ " '" ++ value ++ "'"))
  | some n =>
    if known.all (· == n) then .ok n else .error (.fatal ("conflicting " ++ what ++ " options"))

/-- Takes an option that switches something on. -/
def switch (r : Request) (letter : Char) : Request :=
  match letter with
  | 'a' => { r with asText := true }
  | 'b' => { r with likeness := { r.likeness with blankCounts := true } }
  | 'B' => { r with blankLines := true }
  | 'd' => { r with fewest := true }
  | 'E' => { r with likeness := { r.likeness with tabs := true } }
  | 'i' => { r with likeness := { r.likeness with letterCase := true } }
  | 'N' => { r with newFiles := true }
  | 'P' => { r with newFirst := true }
  | 'q' => { r with brief := true }
  | 'r' => { r with recursive := true }
  | 's' => { r with reportsEqual := true }
  | 't' => { r with expandsTabs := true }
  | 'T' => { r with tabBehindSign := true }
  | 'w' => { r with likeness := { r.likeness with allBlanks := true } }
  | 'Z' => { r with likeness := { r.likeness with lastBlanks := true } }
  | 'η' => { r with leftOnly := true }
  | 'ι' => { r with followsLinks := false }
  | 'σ' => { r with dropsReturns := true }
  | 'τ' => { r with trimsEmpty := true }
  | 'υ' => { r with hidesCommon := true }
  | _ => r

/-- Takes an option. -/
def take (r : Request) (letter : Char) (value : String) (followsDigit : Bool) :
    Except Refusal Request :=
  match letter with
  | 'c' => r.chooseAround .context none
  | 'C' => r.chooseAround .context (some value)
  | 'Γ' => r.chooseAround .context (if value = "" then none else some value)
  | 'u' => r.chooseAround .unified none
  | 'U' => r.chooseAround .unified (some value)
  | 'Δ' => r.chooseAround .unified (if value = "" then none else some value)
  | 'D' => do
    let r ← r.choose .template
    (conditionTemplates value).foldlM (fun r (kind, text) => r.setTemplate false "-D" [kind] text) r
  | 'e' => r.choose .editor
  | 'f' => r.choose .forwardEditor
  | 'n' => r.choose .revisions
  | 'y' => r.choose .columns
  | 'κ' => r.choose .normal
  | 'F' => do return { r with titles := r.titles ++ [← readExpression value] }
  | 'I' => do return { r with ignored := r.ignored ++ [← readExpression value] }
  | 'p' => do
    return { r with titles := r.titles ++ [← readExpression functionStart], namesFunctions := true }
  | 'L' =>
    if r.labels.length < 2 then .ok { r with labels := r.labels ++ [value] }
    else .error (.fatal "too many file label options")
  | 'S' =>
    if r.starting.all (· == value) then .ok { r with starting := some value }
    else .error (.misuse ("conflicting -S option value '" ++ value ++ "'"))
  | 'W' => do return { r with width := some (← readWidth r.width "width" value) }
  | 'φ' => do return { r with tabSize := some (← readWidth r.tabSize "tabsize" value) }
  | 'x' => .ok { r with excluded := r.excluded ++ [value] }
  | 'β' =>
    if r.fromFile.all (· == value) then .ok { r with fromFile := some value }
    else .error (.misuse ("conflicting --from-file option value '" ++ value ++ "'"))
  | 'γ' =>
    if r.toFile.all (· == value) then .ok { r with toFile := some value }
    else .error (.misuse ("conflicting --to-file option value '" ++ value ++ "'"))
  | 'δ' =>
    match natural? value.toList with
    | some n => .ok { r with horizon := max r.horizon (min n mostLines) }
    | none => .error (.misuse ("invalid horizon length '" ++ value ++ "'"))
  | 'θ' => r.setTemplate true "--line-format" [.common, .old, .new] value
  | 'λ' => r.setTemplate true "--old-line-format" [.old] value
  | 'μ' => r.setTemplate true "--new-line-format" [.new] value
  | 'ν' => r.setTemplate true "--unchanged-line-format" [.common] value
  | 'ξ' => r.setTemplate false "--old-group-format" [.old] value
  | 'ο' => r.setTemplate false "--new-group-format" [.new] value
  | 'π' => r.setTemplate false "--unchanged-group-format" [.common] value
  | 'ρ' => r.setTemplate false "--changed-group-format" [.changed] value
  | _ =>
    if letter.isDigit then
      let old := if followsDigit then r.digits.getD 0 else 0
      .ok { r with digits := some (min mostLines (10 * old + digitValue letter)) }
    else .ok (r.switch letter)

/-- Takes all options. -/
def takeAll (given : List (Char × String)) : Except Refusal Request := do
  let (r, _) ← given.foldlM (fun ((r, last) : Request × Option Char) (letter, value) => do
    return (← r.take letter value (last.any Char.isDigit), some letter)) ({}, none)
  let r := if r.style.isSome then r
    else if r.namesFunctions then
      { r with style := some .context, around := if r.digits.isSome then r.around else some 3 }
    else { r with style := some .normal }
  match r.digits with
  | some n =>
    let showsAround := r.style = some .context ∨ r.style = some .unified
    if showsAround ∧ (r.around.all (· < n) ∨ (n < r.around.getD 0 ∧ r.hasAround = false)) then
      return { r with around := some n }
    else return r
  | none => return r

/-- The style that was chosen. -/
def shownStyle (r : Request) : Style := r.style.getD .normal

/-- Commands of an editor cannot tell that a file lacks its last end. -/
def losesLastEnd (r : Request) : Bool := r.shownStyle == .editor || r.shownStyle == .forwardEditor

/-- How lines are shown. -/
def display (r : Request) : Display :=
  let blanksToo := r.likeness.allBlanks || r.likeness.blankCounts || r.likeness.lastBlanks
  let isEmpty := fun (line : Line) =>
    line.text.isEmpty || (blanksToo && line.text.all isBlankByte)
  { style := r.shownStyle, around := r.around.getD 0, tabBehindSign := r.tabBehindSign
    expandsTabs := r.expandsTabs, trimsEmpty := r.trimsEmpty, tabSize := r.tabSize.getD 8
    ignorable := if r.blankLines = false ∧ r.ignored.isEmpty then none else some fun line =>
      (r.blankLines && isEmpty line) || r.ignored.any fun e => e.isIn (ofBytes line.text)
    title := if r.titles.isEmpty then none else some fun line =>
      r.titles.any fun e => e.isIn (ofBytes line.text) }

/-- The columns of files side by side. -/
def columns (r : Request) : Columns :=
  .ofWidth (r.width.getD 130) (r.tabSize.getD 8) r.expandsTabs r.leftOnly r.hidesCommon

/-- The templates, those that were not given made from the others. -/
def templates (r : Request) : Templates :=
  let given := fun (kind : Kind) => r.groupTemplates.lookup kind
  let old := (given .old).getD ((given .changed).getD "%<")
  let new := (given .new).getD ((given .changed).getD "%>")
  { group := fun kind => (match kind with
      | .common => (given .common).getD "%="
      | .old => old
      | .new => new
      | .changed => (given .changed).getD (old ++ new)).toList
    line := fun kind => ((r.lineTemplates.lookup kind).getD "%l\n").toList
    tabSize := r.tabSize.getD 8, expandsTabs := r.expandsTabs }

/-- Files without changes have nothing to show. -/
def hidesEqual (r : Request) : Bool :=
  match r.shownStyle with
  | .columns => r.hidesCommon
  | .template =>
    let common := r.templates.group .common
    common.isEmpty || (common == "%=".toList && (r.templates.line .common).isEmpty)
  | _ => true

end Request

end NativeBuild.Machine.Difference
