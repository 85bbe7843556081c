import NativeBuild.Decimal.Double
import NativeBuild.Fault

/-
  Durations in whole milliseconds. A duration is a double of seconds; it is multiplied by 1000 as
  a double and then cut toward zero exactly, so the result has no bound.
-/

namespace NativeBuild

open NativeBuild.Decimal

/-- The integer part of an exact value, which must be finite. -/
def Decimal.Double.toInt : Double → Except Fault Int
  | .notANumber => .error .durationUndefined
  | .infinite _ => .error .durationInfinite
  | .finite negative m e =>
    .ok (if negative then -(Double.truncate m e : Int) else Double.truncate m e)

/-- Seconds in whole milliseconds, cut toward zero. -/
def milliseconds (seconds : Float) : Except Fault Int :=
  (Double.ofFloat (seconds * 1000)).toInt

end NativeBuild
