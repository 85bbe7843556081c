import NativeBuild.Text.Blank
import NativeBuild.Text.Digit
import NativeBuild.Tracing.Basic

/-
  A tracing library for the machine: whether a provider records spans at all, how many attributes of
  a span it keeps and how much of a text among them. A provider takes this from the environment when
  it is made. A limit that is no number keeps it from being made; a fraction of the traces that is
  none is passed over. The build knows nothing of this but that there is a provider (`SpanProvider`).
-/

namespace NativeBuild.Machine

/-- What a provider keeps of spans. -/
structure SpanPolicy where
  /-- Spans are recorded. -/
  records : Bool := true
  /-- The most attributes of a span; nothing if there is no limit. -/
  attributeLimit : Option Nat := some 128
  /-- The most characters of an attribute's text. -/
  lengthLimit : Option Nat := none
  deriving Repr, DecidableEq

namespace SpanPolicy

/-- A text without its sign, and whether the sign was a minus. -/
def signed (cs : List Char) : Bool × List Char :=
  match cs with
  | '-' :: rest => (true, rest)
  | '+' :: rest => (false, rest)
  | _ => (false, cs)

/-- The number that digits spell. -/
def naturalOf (digits : List Nat) : Nat :=
  digits.foldl (fun n d => n * 10 + d) 0

/-- The most digits that an integer is read from. -/
def longestInteger : Nat := 4300

/-- The integer that characters spell, a sign and digits. -/
def integerOf? (cs : List Char) : Option Int :=
  let (negative, rest) := signed cs
  (Text.digits? rest).bind fun digits =>
    let n : Int := naturalOf digits
    if longestInteger < digits.length then none else some (if negative then -n else n)

/-- The integer that a text spells, blanks aside. -/
def integer? (text : String) : Option Int := integerOf? (Text.trim text).toList

/-- The number `m · 10^e`, infinite or zero where it lies far outside the numbers there are. -/
def scaled (m : Nat) (e : Int) : Float :=
  let places : Int := (Nat.toDigits 10 m).length + e
  if m = 0 ∨ places < -400 then 0.0
  else if 400 < places then 1.0 / 0.0
  else Float.ofScientific m (e < 0) e.natAbs

/-- The number that a text spells, blanks aside. -/
def number? (text : String) : Option Float :=
  let (negative, cs) := signed (Text.lower (Text.trim text)).toList
  let apply := fun (x : Float) => if negative then -x else x
  if cs = "inf".toList ∨ cs = "infinity".toList then some (apply (1.0 / 0.0))
  else if cs = "nan".toList then some (0.0 / 0.0)
  else
    let mantissa := cs.takeWhile (· ≠ 'e')
    let whole := mantissa.takeWhile (· ≠ '.')
    let fraction := mantissa.drop (whole.length + 1)
    let digits := fun (cs : List Char) => if cs = [] then some [] else Text.digits? cs
    let exponent := if mantissa.length = cs.length then some 0
      else integerOf? (cs.drop (mantissa.length + 1))
    match digits whole, digits fraction, exponent with
    | some w, some f, some e =>
      if w = [] ∧ f = [] then none
      else some (apply (scaled (naturalOf (w ++ f)) (e - f.length)))
    | _, _, _ => none

/-- The limit that a variable sets. An empty one sets none, and without the variable it is the one
that is given. -/
def limit (env : Variables) (name : String) (otherwise : Option Nat) :
    Except Fault (Option Nat) :=
  match env.get? name with
  | none => .ok otherwise
  | some raw =>
    let text := Text.lower (Text.trim raw)
    let refused := fun (shown : String) => Except.error (Fault.invalid
      (name ++ " must be a non-negative integer but got " ++ shown))
    if text = "" then .ok none
    else
      match integer? text with
      | none => refused text
      | some (.ofNat n) => .ok (some n)
      | some n => refused (toString n)

/-- The fraction of the traces that is taken: all of them unless a number from zero to one says
otherwise. -/
def fraction (env : Variables) : Float :=
  match (env.get? "OTEL_TRACES_SAMPLER_ARG").bind number? with
  | some rate => if 0.0 ≤ rate && rate ≤ 1.0 then rate else 1.0
  | none => 1.0

/-- Whether traces are taken. Which ones a fraction takes hangs on their numbers, which are drawn at
random; here the numbers lie in the middle of their range. -/
def takesTraces (env : Variables) : Bool :=
  match Text.lower ((env.get? "OTEL_TRACES_SAMPLER").getD "") with
  | "always_off" | "parentbased_always_off" => false
  | "traceidratio" | "parentbased_traceidratio" => 0.5 ≤ fraction env
  | _ => true

/-- Spans are switched off as a whole. -/
def isDisabled (env : Variables) : Bool :=
  Text.trim (Text.lower ((env.get? "OTEL_SDK_DISABLED").getD "")) = "true"

/-- What a provider that is made in an environment keeps. -/
def ofEnvironment (env : Variables) : Except Fault SpanPolicy := do
  let _ ← limit env "OTEL_SPAN_EVENT_COUNT_LIMIT" none
  let _ ← limit env "OTEL_SPAN_LINK_COUNT_LIMIT" none
  let attributes ← limit env "OTEL_ATTRIBUTE_COUNT_LIMIT" none
  let ofSpan ← limit env "OTEL_SPAN_ATTRIBUTE_COUNT_LIMIT" (some (attributes.getD 128))
  let _ ← limit env "OTEL_EVENT_ATTRIBUTE_COUNT_LIMIT" none
  let _ ← limit env "OTEL_LINK_ATTRIBUTE_COUNT_LIMIT" none
  let length ← limit env "OTEL_ATTRIBUTE_VALUE_LENGTH_LIMIT" none
  let lengthOfSpan ← limit env "OTEL_SPAN_ATTRIBUTE_VALUE_LENGTH_LIMIT" length
  return ⟨takesTraces env && !isDisabled env, ofSpan, lengthOfSpan⟩

/-! ## Spans -/

/-- A value with no more of its text than the limit allows. -/
def shortened (p : SpanPolicy) : AttributeValue → AttributeValue
  | .text value =>
    match p.lengthLimit with
    | some n => .text (String.ofList (value.toList.take n))
    | none => .text value
  | value => value

/-- The attributes with one of them set, the newest last. An attribute without a name is not kept,
and a new one in a span that has as many as it keeps takes the place of the oldest. -/
def put (p : SpanPolicy) (a : Attributes) (name : String) (value : AttributeValue) : Attributes :=
  if name = "" ∨ p.attributeLimit = some 0 then a
  else
    let others := a.filter fun entry => entry.1 != name
    let room := p.attributeLimit.all fun limit => others.length < limit
    (if room then others else others.drop 1) ++ [(name, p.shortened value)]

/-- The provider with this policy. The user's interrupt does not mark a span. -/
def provider (p : SpanPolicy) : SpanProvider where
  records _ _ _ := p.records
  start given := given.foldl (fun a (name, value) => p.put a name value) []
  set := p.put
  marks problem := !problem.isUserInterrupt

end SpanPolicy

/-- The provider that is made in an environment, unless the environment keeps it from being made. -/
def tracingLibrary (env : Variables) : Option SpanProvider :=
  (SpanPolicy.ofEnvironment env).toOption.map SpanPolicy.provider

end NativeBuild.Machine
