import NativeBuild.Environment
import NativeBuild.Error
import NativeBuild.Text.Blank

/-
  Tracing. Spans are recorded only when tracing is switched on through the environment. The first
  span that finds it switched on makes tracing ready for good: it takes the provider of the host
  application or, when there is none, installs one of its own. A provider that cannot be set up
  leaves tracing as it was, and the next span tries again. What a provider does with spans is its
  own affair (`SpanProvider`).
-/

namespace NativeBuild

/-- The value of a span's attribute. -/
inductive AttributeValue where
  | text (value : String)
  | integer (value : Int)
  | truth (value : Bool)
  deriving Repr, DecidableEq

/-- Attributes of a span: unique names, each with a value. -/
abbrev Attributes := List (String × AttributeValue)

/-- What the tracing library does with the spans of one provider. -/
structure SpanProvider where
  /-- A span with this number, this name and these attributes is recorded. -/
  records : Nat → String → Attributes → Bool
  /-- The attributes that a span has of those it is given at its start. -/
  start : Attributes → Attributes
  /-- The attributes of a span, with one of them set. -/
  set : Attributes → String → AttributeValue → Attributes
  /-- What leaves a span marks it as failed. -/
  marks : Problem → Bool

/-- What is done with spans where there is no provider: nothing is recorded of them. -/
def SpanProvider.idle : SpanProvider where
  records _ _ _ := false
  start _ := []
  set attributes _ _ := attributes
  marks _ := false

/-- A span that is over. -/
structure Span where
  /-- No two spans of a process have the same number. -/
  number : Nat
  name : String
  attributes : Attributes
  /-- The number of the span around it. -/
  parent : Option Nat
  /-- It was left by something that its provider marks spans for. -/
  failed : Bool
  deriving Repr, DecidableEq

/-- A span that is not over. -/
structure OpenSpan where
  number : Nat
  name : String
  attributes : Attributes
  /-- The provider at its start. -/
  provider : SpanProvider
  recorded : Bool

/-- The span when it is over: inside another one or not, and left by a problem or not. -/
def OpenSpan.over (span : OpenSpan) (parent : Option Nat) (left : Option Problem) : Span where
  number := span.number
  name := span.name
  attributes := span.attributes
  parent := parent
  failed := left.any span.provider.marks

/-- Where spans are sent. -/
inductive Provider where
  | absent
  | application (provider : SpanProvider)
  /-- The provider that tracing installed. -/
  | own (provider : SpanProvider)

/-- What is done with spans that begin now. -/
def Provider.spans : Provider → SpanProvider
  | absent => .idle
  | application provider | own provider => provider

/-- The state of tracing in a process. -/
structure Tracing where
  /-- Tracing was set up once. -/
  ready : Bool := false
  provider : Provider := .absent
  /-- The provider that the tracing library makes in an environment, unless it cannot be set up. -/
  library : Variables → Option SpanProvider := fun _ => none
  /-- A provider of its own was made, whether or not it could be installed. -/
  ownMade : Bool := false
  /-- How many spans have begun. -/
  begun : Nat := 0
  /-- The spans that are not over, innermost first. -/
  running : List OpenSpan := []
  /-- The spans that are over and were recorded, in the order of their ends. -/
  finished : List Span := []

namespace Tracing

/-- The variable that switches tracing on or off. -/
def flagVariable : String := "CMAKEBUILD_OTEL"

/-- The variables that name where spans are sent; a value in one of them switches tracing on. -/
def endpointVariables : List String :=
  ["OTEL_EXPORTER_OTLP_ENDPOINT", "OTEL_EXPORTER_OTLP_TRACES_ENDPOINT"]

/-- What the flag says, if it says anything. -/
def flag (env : Variables) : Option Bool :=
  match env.get? flagVariable with
  | none => none
  | some raw =>
    let value := Text.lower (Text.trim raw)
    if value = "1" ∨ value = "true" then some true
    else if value = "0" ∨ value = "false" then some false
    else none

/-- Tracing is switched on: by the flag, and without one by an endpoint. -/
def enabled (env : Variables) : Bool :=
  (flag env).getD (endpointVariables.any fun name => (env.get? name).getD "" != "")

/-- What the start of a span finds. -/
inductive Preparation where
  /-- Spans are taken. -/
  | active
  /-- Tracing is switched off. -/
  | off
  /-- A provider could not be set up. -/
  | broken
  deriving Repr, DecidableEq

/-- Makes tracing ready for a span, if it can be. -/
def prepare (t : Tracing) (env : Variables) : Preparation × Tracing :=
  if t.ready then (.active, t)
  else if enabled env = false then (.off, t)
  else
    match t.provider with
    | .absent =>
      match t.library env with
      | some made => (.active, { t with ready := true, provider := .own made, ownMade := true })
      | none => (.broken, { t with ownMade := true })
    | _ => (.active, { t with ready := true })

/-- A span begins inside those that are running. -/
def begin (t : Tracing) (name : String) (given : Attributes) : Tracing :=
  let p := t.provider.spans
  { t with
    begun := t.begun + 1
    running := ⟨t.begun, name, p.start given, p, p.records t.begun name given⟩ :: t.running }

/-- Sets an attribute of the innermost span. -/
def setAttribute (t : Tracing) (name : String) (value : AttributeValue) : Tracing :=
  match t.running with
  | [] => t
  | span :: outer =>
    let attributes := span.provider.set span.attributes name value
    { t with running := { span with attributes := attributes } :: outer }

/-- The innermost of these spans, by its number. -/
def innermost (running : List OpenSpan) : Option Nat := running.head?.map (·.number)

/-- The innermost span ends, left by a problem or not; it is kept if it was recorded. -/
def finish (t : Tracing) (left : Option Problem) : Tracing :=
  match t.running with
  | [] => t
  | span :: outer =>
    { t with
      running := outer
      finished :=
        if span.recorded then t.finished ++ [span.over (innermost outer) left] else t.finished }

end Tracing

end NativeBuild
