import NativeBuild.Machine.Regex
import NativeBuild.Machine.Utility.Call

/-
  The utility for expressions: each argument is a value or an operator. Values are texts, and numbers
  where they look like such; a text may be matched against a regular expression.
-/

namespace NativeBuild.Machine.Call

/-- The value of an expression, or what is wrong with it. -/
abbrev Valued := Except (Nat × String) (String × List String)

/-- A text as a value of truth. -/
def holdsTrue (value : String) : Bool :=
  value != "" && value != "0" && integer? value.toList != some 0

/-- The number that a value is. -/
def numberOf (value : String) : Except (Nat × String) Int :=
  match if value.toList.head? = some '+' then none else integer? value.toList with
  | some n => .ok n
  | none => .error (2, "non-integer argument")

/-- Compares two values, as numbers if they are such. -/
def compareValues (operator a b : String) : String :=
  let order := match integer? a.toList, integer? b.toList with
    | some m, some n => compare m n
    | _, _ => if a < b then .lt else if b < a then .gt else .eq
  let truth : Bool := match operator with
    | "<" => order == .lt
    | "<=" => order != .gt
    | "=" | "==" => order == .eq
    | "!=" => order != .eq
    | ">=" => order != .lt
    | _ => order == .gt
  if truth then "1" else "0"

/-- What a regular expression finds at the start of a text. -/
def matchValue (text pattern : String) : Except (Nat × String) String :=
  match Regex.parse { emptyRanges := true } pattern.toList with
  | .error e => .error (2, e)
  | .ok ⟨r, groups, _⟩ =>
    let setting : Regex.Setting := { text := text.toList.toArray, exact := r.hasReference }
    match r.matchAt setting 0 with
    | none => .ok (if groups = 0 then "0" else "")
    | some reached =>
      if groups = 0 then .ok (toString reached.place)
      else
        match reached.groups.lookup 1 with
        | some (first, last) => .ok (String.ofList ((text.toList.take last).drop first))
        | none => .ok ""

/-- The operators between values, by how tightly they bind. -/
def operatorLevels : List (List String) :=
  [["|"], ["&"], ["<", "<=", "=", "==", "!=", ">=", ">"], ["+", "-"], ["*", "/", "%"], [":"]]

/-- The value of an operation. -/
def applyOperator (operator a b : String) : Except (Nat × String) String := do
  let arithmetic := fun (f : Int → Int → Except (Nat × String) Int) => do
    let m ← numberOf a
    let n ← numberOf b
    return String.ofList (signed (← f m n))
  match operator with
  | "|" => return if holdsTrue a then a else if holdsTrue b then b else "0"
  | "&" => return if holdsTrue a ∧ holdsTrue b then a else "0"
  | "+" => arithmetic fun m n => .ok (m + n)
  | "-" => arithmetic fun m n => .ok (m - n)
  | "*" => arithmetic fun m n => .ok (m * n)
  | "/" => arithmetic fun m n => if n = 0 then .error (2, "division by zero") else .ok (m.tdiv n)
  | "%" => arithmetic fun m n => if n = 0 then .error (2, "division by zero") else .ok (m.tmod n)
  | ":" => matchValue a b
  | _ => return compareValues operator a b

mutual

/-- The value of operations that bind at least as tightly as a level. -/
def valueAt : Nat → Nat → String → List String → Valued
  | 0, _, _, _ => .error (2, "syntax error")
  | fuel + 1, level, last, tokens =>
    if operatorLevels.length ≤ level then primary fuel last tokens
    else
      match valueAt fuel (level + 1) last tokens with
      | .error e => .error e
      | .ok (a, rest) => valueRest fuel level a rest

/-- Goes on with operations of a level. -/
def valueRest : Nat → Nat → String → List String → Valued
  | 0, _, _, _ => .error (2, "syntax error")
  | fuel + 1, level, a, tokens =>
    match tokens with
    | operator :: rest =>
      if (operatorLevels.getD level []).contains operator then
        match valueAt fuel (level + 1) operator rest with
        | .error e => .error e
        | .ok (b, rest) =>
          match applyOperator operator a b with
          | .error e => .error e
          | .ok value => valueRest fuel level value rest
      else .ok (a, tokens)
    | [] => .ok (a, [])

/-- The value of an argument, of a call or of what stands in parentheses. -/
def primary : Nat → String → List String → Valued
  | 0, _, _ => .error (2, "syntax error")
  | fuel + 1, last, tokens =>
    let missing := fun (token : String) =>
      (.error (2, "syntax error: missing argument after " ++ quotedName token) : Valued)
    let two := fun (name : String) (rest : List String)
        (f : String → String → Except (Nat × String) String) =>
      match primary fuel name rest with
      | .error e => .error e
      | .ok (a, rest) =>
        match primary fuel a rest with
        | .error e => .error e
        | .ok (b, rest) => (f a b).map fun value => (value, rest)
    match tokens with
    | [] => missing last
    | ["+"] => missing "+"
    | "+" :: token :: rest => .ok (token, rest)
    | "(" :: rest =>
      match valueAt fuel 0 "(" rest with
      | .error e => .error e
      | .ok (value, ")" :: rest) => .ok (value, rest)
      | .ok (_, []) => .error (2, "syntax error: expecting ')' after " ++
          quotedName (rest.getLastD "("))
      | .ok (_, token :: _) => .error (2, "syntax error: expecting ')' instead of " ++
          quotedName token)
    | ")" :: _ => .error (2, "syntax error: unexpected ')'")
    | "length" :: rest =>
      match primary fuel "length" rest with
      | .error e => .error e
      | .ok (value, rest) => .ok (toString value.length, rest)
    | "match" :: rest => two "match" rest matchValue
    | "index" :: rest => two "index" rest fun a b =>
      .ok (match a.toList.findIdx? fun ch => b.toList.contains ch with
        | some k => toString (k + 1)
        | none => "0")
    | "substr" :: rest =>
      match primary fuel "substr" rest with
      | .error e => .error e
      | .ok (text, rest) => two text rest fun a b =>
        match integer? a.toList, integer? b.toList with
        | some (.ofNat (first + 1)), some (.ofNat size) =>
          .ok (String.ofList ((text.toList.drop first).take size))
        | _, _ => .ok ""
    | token :: rest => .ok (token, rest)

end

/-- Prints the value of an expression. The exit code tells whether it is neither zero nor empty. -/
def expr (c : Call) : Progress :=
  let tokens := if c.arguments.head? = some "--" then c.arguments.drop 1 else c.arguments
  if tokens = [] then c.misused 2 "missing operand"
  else
    match valueAt (20 * tokens.length + 20) 0 "" tokens with
    | .error (status, text) => c.fails status text
    | .ok (value, []) =>
      { c.prints (value ++ "\n") with next := .done (if holdsTrue value then 0 else 1) 0 }
    | .ok (_, token :: _) => c.fails 2 ("syntax error: unexpected argument " ++ quotedName token)

end NativeBuild.Machine.Call
