import NativeBuild.Action

/-
  Spans around actions. A span begins before its action and ends after it, however the action ends;
  what the action raises leaves the span unchanged.
-/

namespace NativeBuild.Action

variable {σ α : Type}

/-- Gets tracing ready and tells whether a span is to be begun. -/
def prepareTracing : Action σ Bool := fun w =>
  let (found, tracing) := w.tracing.prepare w.environment
  let w := { w with tracing := tracing }
  match found with
  | .active => (.ok true, w)
  | .off => (.ok false, w)
  | .broken =>
    (.ok false, { w with log := w.log ++
      [⟨.tracing, .warning, "cmakebuild otel init failed, spans disabled"⟩] })

/-- What left an action, if anything did. -/
def leaving : Except Raised α → Option Problem
  | .ok _ => none
  | .error raised => some raised.problem

/-- Runs an action inside a span. The action learns whether there is a span. -/
def inSpan (name : String) (attributes : Attributes) (body : Bool → Action σ α) : Action σ α := do
  let active ← prepareTracing
  if active then
    change fun w => { w with tracing := w.tracing.begin name attributes }
    let ending ← attempt (body true)
    change fun w => { w with tracing := w.tracing.finish (leaving ending) }
    conclude ending
  else
    body false

/-- Sets an attribute of the span around the action, if there is one. -/
def setAttribute (active : Bool) (name : String) (value : AttributeValue) : Action σ Unit :=
  if active then change fun w => { w with tracing := w.tracing.setAttribute name value }
  else give ()

end NativeBuild.Action
