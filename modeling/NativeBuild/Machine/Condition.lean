import NativeBuild.Machine.Arithmetic
import NativeBuild.Machine.Program

/-
  Conditions, as `test` and `[` decide them: properties of files, comparisons of texts and numbers,
  and their combinations. What a word means depends on what stands behind it: an operator at the
  end is a text like any other.
-/

namespace NativeBuild.Machine

/-- What conditions are about: the files, and where relative paths start. -/
structure Surroundings where
  files : FileTree
  cwd : Location

namespace Surroundings

/-- What stands where a path leads. -/
def node? (w : Surroundings) (follow : Bool) (path : String) : Option (Location × Node) :=
  match w.files.reach w.cwd follow (outward path) with
  | .ok (.found place node) => some (place, node)
  | _ => none

/-- The number of the file that a path leads to. -/
def number? (w : Surroundings) (path : String) : Option Nat :=
  (w.node? true path).bind fun (place, _) => w.files.numberAt? place

/-- A property of the file that a path leads to. -/
def holds (w : Surroundings) (operator path : String) : Bool :=
  let isStream := path ∈ ["/dev/stdin", "/dev/stdout", "/dev/stderr"]
  match operator with
  | "-L" | "-h" =>
    match w.node? false path with
    | some (_, .link _) => true
    | _ => isStream
  | _ =>
    match w.node? true path with
    | none => isStream && operator ∈ ["-e", "-r", "-w", "-O", "-G"]
    | some (_, node) =>
      let device := match node with
        | .file content _ => (markedDevice? content).isSome
        | _ => false
      match operator with
      | "-e" | "-O" | "-G" => true
      | "-d" => node.isDirectory
      | "-f" => match node with
        | .file _ _ => !device
        | _ => false
      | "-c" => device
      | "-p" => match node with
        | .pipe _ => true
        | _ => false
      | "-r" => node.allows .read
      | "-w" => node.allows .write
      | "-x" => node.allows .execute
      | "-s" => match node with
        | .file content _ => !content.isEmpty && !device
        | .directory _ => true
        | _ => false
      | "-u" => node.mode.testBit 11
      | "-g" => node.mode.testBit 10
      | "-k" => node.mode.testBit 9
      | _ => false

/-- The date of the last change of what a path leads to. -/
def modified? (w : Surroundings) (path : String) : Option Int :=
  (w.number? path).map fun number => (w.files.datesOf number).modified

/-- What a path leads to has been changed since it was read last. -/
def changedSinceRead (w : Surroundings) (path : String) : Bool :=
  (w.number? path).any fun number =>
    let dates := w.files.datesOf number
    dates.accessed < dates.modified

end Surroundings

/-- The operators that stand before a text or a file. -/
def unaryOperators : List String :=
  ["-r", "-w", "-x", "-e", "-f", "-d", "-c", "-b", "-p", "-u", "-g", "-k", "-s", "-t", "-z", "-n",
    "-h", "-O", "-G", "-L", "-S"]

/-- The operators that stand between two texts, numbers or files. -/
def binaryOperators : List String :=
  ["=", "!=", "<", ">", "-eq", "-ne", "-ge", "-gt", "-le", "-lt", "-nt", "-ot", "-ef"]

/-- The meaning of a word in a condition. -/
inductive ConditionToken where
  | finish
  | operand
  | unary
  | binary
  | not
  | both
  | either
  | left
  | right
  deriving DecidableEq

/-- The value of a condition and the words from its last one on; or what is wrong with it. -/
abbrev Decision := Except String (Bool × List String)

/-- What is wrong at a word. -/
def conditionFault (word : Option String) (text : String) : String :=
  match word with
  | some w => if w = "" then text else w ++ ": " ++ text
  | none => text

/-- The meaning of the first of some words. -/
def conditionToken (words : List String) : ConditionToken :=
  match words with
  | [] => .finish
  | w :: rest =>
    let isOperand := match rest with
      | [] => true
      | [_] => false
      | op :: _ => binaryOperators.contains op
    if unaryOperators.contains w then if isOperand then .operand else .unary
    else if binaryOperators.contains w then .binary
    else
      match w with
      | "!" => .not
      | "-a" => .both
      | "-o" => .either
      | "(" => if rest = [] then .operand else .left
      | ")" => .right
      | _ => .operand

/-- The number of a word in a condition. -/
def conditionNumber (word : String) : Except String Int :=
  match numberText? false word.toList with
  | some n => .ok n
  | none => .error ("Illegal number: " ++ word)

/-- Decides an operator between two words. -/
def decideBinary (w : Surroundings) (operator a b : String) : Except String Bool := do
  let compare := fun (f : Int → Int → Bool) => do
    let x ← conditionNumber a
    let y ← conditionNumber b
    return f x y
  match operator with
  | "=" => return a == b
  | "!=" => return a != b
  | "<" => return a.toList < b.toList
  | ">" => return b.toList < a.toList
  | "-eq" => compare (· == ·)
  | "-ne" => compare (· != ·)
  | "-ge" => compare fun x y => y ≤ x
  | "-gt" => compare fun x y => y < x
  | "-le" => compare fun x y => x ≤ y
  | "-lt" => compare fun x y => x < y
  | "-ef" => return (w.number? a).isSome && w.number? a == w.number? b
  | "-nt" => return (w.modified? a).any fun x => (w.modified? b).any fun y => y < x
  | "-ot" => return (w.modified? a).any fun x => (w.modified? b).any fun y => x < y
  | _ => return false

mutual

/-- Decides conditions joined by `-o`; the first word has the meaning given. -/
def decideEither (w : Surroundings) : Nat → Bool → ConditionToken → List String → Decision
  | 0, _, _, _ => .error "too deep"
  | fuel + 1, before, token, words => do
    let (b, words) ← decideBoth w fuel true token words
    let value := before || b
    if conditionToken (words.drop 1) = .either then
      decideEither w fuel value (conditionToken (words.drop 2)) (words.drop 2)
    else return (value, words)

/-- Decides conditions joined by `-a`. -/
def decideBoth (w : Surroundings) : Nat → Bool → ConditionToken → List String → Decision
  | 0, _, _, _ => .error "too deep"
  | fuel + 1, before, token, words => do
    let (b, words) ← decideNot w fuel token words
    let value := before && b
    if conditionToken (words.drop 1) = .both then
      decideBoth w fuel value (conditionToken (words.drop 2)) (words.drop 2)
    else return (value, words)

/-- Decides a condition that may be negated. -/
def decideNot (w : Surroundings) : Nat → ConditionToken → List String → Decision
  | 0, _, _ => .error "too deep"
  | fuel + 1, token, words => do
    if token = .not then
      let next := conditionToken (words.drop 1)
      let (b, words) ← decideNot w fuel next (if next = .finish then words else words.drop 1)
      return (!b, words)
    else decideOne w fuel token words

/-- Decides a single condition, or one in parentheses. -/
def decideOne (w : Surroundings) : Nat → ConditionToken → List String → Decision
  | 0, _, _ => .error "too deep"
  | fuel + 1, token, words => do
    match token with
    | .finish => return (false, words)
    | .left =>
      let inside := words.drop 1
      if conditionToken inside = .right then return (false, inside)
      else
        let (b, words) ← decideEither w fuel false (conditionToken inside) inside
        let words := words.drop 1
        if conditionToken words = .right then return (b, words)
        else throw "closing paren expected"
    | .unary =>
      match words with
      | operator :: operand :: rest =>
        let at' := operand :: rest
        match operator with
        | "-z" => return (operand.isEmpty, at')
        | "-n" => return (!operand.isEmpty, at')
        | "-t" => do
          let _ ← conditionNumber operand
          return (false, at')
        | _ => return (w.holds operator operand, at')
      | _ => throw (conditionFault words.head? "argument expected")
    | _ =>
      match words with
      | a :: operator :: rest =>
        if conditionToken (operator :: rest) = .binary then
          match rest with
          | [] => throw (conditionFault (some operator) "argument expected")
          | b :: _ => return (← decideBinary w operator a b, rest)
        else return (!a.isEmpty, words)
      | [a] => return (!a.isEmpty, words)
      | [] => return (false, words)

end

/-- Decides the words of a condition; a negation in front may be taken off first. -/
def decideWords (w : Surroundings) : Nat → Bool → List String → Except String Bool
  | 0, _, _ => .error "too deep"
  | fuel + 1, negated, words => do
    let decided := fun (token : ConditionToken) (words : List String) => do
      let (b, rest) ← decideEither w (4 * words.length + 8) false token words
      match rest with
      | word :: _ :: _ => throw (conditionFault (some word) "unexpected operator")
      | _ => return b != negated
    let direct := words.length = 3 ∧ binaryOperators.contains ((words[1]?).getD "")
    if words = [] then return negated
    else if direct then decided .operand words
    else if words.length = 3 ∨ words.length = 4 then
      if words.head? = some "(" ∧ words.getLast? = some ")" then
        let inner := (words.drop 1).dropLast
        decided (conditionToken inner) inner
      else if words.head? = some "!" then decideWords w fuel true (words.drop 1)
      else decided (conditionToken words) words
    else decided (conditionToken words) words

/-- The value of a condition, or what is wrong with it. -/
def decideCondition (w : Surroundings) (words : List String) : Except String Bool :=
  decideWords w (words.length + 1) false words

end NativeBuild.Machine
