import NativeBuild.Machine.Bytes

/-
  The order of versions, where `1.9` comes before `1.10`. Suffixes such as `.tar.gz` count only
  where all else is equal.
-/

namespace NativeBuild.Machine

/-- The rank of a character where versions are compared: letters stand before other characters, the
end before both, and a tilde before the end. -/
def versionRank : Option Char → Int
  | none => -1
  | some c =>
    if c = '~' then -2
    else if c.isDigit then 0
    else if isLetter c then (c.toNat : Int)
    else (c.toNat : Int) + 256

/-- Compares versions: numbers in them by their value, and what stands between character by
character. -/
def compareVersions : Nat → List Char → List Char → Ordering
  | 0, _, _ => .eq
  | fuel + 1, a, b =>
    let rank := fun (cs : List Char) => versionRank cs.head?
    let inText := fun (cs : List Char) => cs.head?.any fun c => !c.isDigit
    if inText a ∨ inText b then
      match compare (rank a) (rank b) with
      | .eq => compareVersions fuel (a.drop 1) (b.drop 1)
      | order => order
    else if a = [] ∧ b = [] then .eq
    else
      let x := a.takeWhile Char.isDigit
      let y := b.takeWhile Char.isDigit
      match compare (ofDigits 10 x) (ofDigits 10 y) with
      | .eq => compareVersions fuel (a.drop x.length) (b.drop y.length)
      | order => order

/-- A text is a point, a letter or tilde, and then letters, digits and tildes, any number of times:
what stands behind the name of a file. -/
def isSuffixes : Nat → List Char → Bool
  | _, [] => true
  | fuel + 1, '.' :: c :: cs =>
    (isLetter c || c == '~') &&
      isSuffixes fuel (cs.dropWhile fun d => isLetter d || d.isDigit || d == '~')
  | _, _ => false

/-- A text without the suffixes behind it. At least one character of it is left. -/
def withoutSuffixes (cs : List Char) : List Char :=
  let lengths := (List.range cs.length).map (· + 1)
  cs.take ((lengths.find? fun n => isSuffixes cs.length (cs.drop n)).getD cs.length)

/-- The rank of names with a point in front: `.` itself, `..`, others, and all without it. -/
def hiddenRank : List Char → Nat
  | ['.'] => 0
  | ['.', '.'] => 1
  | '.' :: _ => 2
  | _ => 3

/-- The order of two texts with versions in them. -/
def compareVersionTexts (a b : List Char) : Ordering :=
  let whole := fun (x y : List Char) => compareVersions (x.length + y.length + 1) x y
  if a = [] ∨ b = [] then compare a.length b.length
  else if hiddenRank a ≠ hiddenRank b then compare (hiddenRank a) (hiddenRank b)
  else if hiddenRank a < 2 then .eq
  else (whole (withoutSuffixes a) (withoutSuffixes b)).then (whole a b)

/-- Compares two names by the versions in them. -/
def compareVersionNames (a b : String) : Ordering :=
  (compareVersionTexts a.toList b.toList).then (compare a b)

end NativeBuild.Machine
