import NativeBuild.Machine.Format
import NativeBuild.Machine.Utility.Call

/-
  Times among arguments, and `sleep`, which waits for them.
-/

namespace NativeBuild.Machine.Call

/-- A time that never comes, in microseconds. -/
def foreverTime : Nat := Nat.pow 10 18

/-- A time in microseconds: a number that is not negative, and a letter for its unit. -/
def time? (text : String) : Option Nat :=
  match spelledReal text.toList with
  | (some x, rest) =>
    let unit := match rest with
      | [] | ['s'] => some 1
      | ['m'] => some 60
      | ['h'] => some 3600
      | ['d'] => some 86400
      | _ => none
    match x, unit with
    | .finite negative m e, some unit =>
      if negative ∧ m ≠ 0 then none
      else some (min foreverTime (Decimal.scaled (m * unit) e 6))
    | .infinite false, some _ => some foreverTime
    | _, _ => none
  | _ => none

/-- Waits for a time. -/
def sleep (c : Call) : Progress :=
  c.withOptions 1 { letters := "", anywhere := false } fun o =>
    let bad := o.operands.filter fun a => (time? a).isNone
    if o.operands = [] then c.misused 1 "missing operand"
    else if bad ≠ [] then
      c.ends 1 (bad.map (fun a => c.message ("invalid time interval " ++ quotedText a)) ++ [c.advice])
    else if c.replies = [] then ⟨[], c.files, .nap (total (o.operands.filterMap time?))⟩
    else c.ends 0 []

end NativeBuild.Machine.Call
