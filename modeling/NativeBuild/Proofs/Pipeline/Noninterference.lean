import NativeBuild.Proofs.Pipeline.Spans
import NativeBuild.Proofs.Tracing.Twins

/-
  Tracing does not interfere with builds. In worlds that differ in tracing alone, the same calls of
  a pipeline end alike and leave such worlds behind, and so does a command that is run by itself
  (`tracing_keeps_aside`). The runner, or the machine that starts the programs, has to be
  indifferent to tracing itself; the supervision is, on a machine that is (`indifferent_run`).
-/

namespace NativeBuild

open NativeBuild.Action

variable {σ : Type} {on off : Tracing} {w v : World σ}

/-- A machine whose programs do not care for the flag that switches tracing on. -/
def Host.Indifferent (host : Host σ) : Prop :=
  ∀ (env env' : Variables) (launch launch' : Launch) (files : FileTree) (tools : σ),
    env.Alike env' → launch.Alike launch' →
      host env launch files tools = host env' launch' files tools

/-- A runner that does the same in worlds that differ in tracing alone, and keeps them so. -/
def Runner.Indifferent (runner : Runner σ) : Prop :=
  ∀ on off spec, Agree (World.Twins on off) (runner spec) (runner spec)

/-- A runner that answers from the command alone is indifferent. -/
theorem Runner.indifferent_answering (answer : CommandSpec → Except Raised CommandResult) :
    (answering answer : Runner σ).Indifferent := fun _ _ _ _ _ h => ⟨rfl, h⟩

/-! ## Commands -/

namespace Supervision

theorem recallLast_cons_cons (first second : Launched) (rest : List Launched) (p : Supervised) :
    recallLast (first :: second :: rest) p = first :: recallLast (second :: rest) p := by
  simp [recallLast, List.getLast?_cons]

theorem alike_recallLast {launches launches' : List Launched}
    (h : List.Forall₂ Launched.Alike launches launches') (p : Supervised) :
    List.Forall₂ Launched.Alike (recallLast launches p) (recallLast launches' p) := by
  induction h with
  | nil => exact .nil
  | @cons l l' rest rest' hfirst hrest ih =>
    cases hrest with
    | nil => exact .cons ⟨hfirst.launch, rfl⟩ .nil
    | cons hsecond hrest =>
      rw [recallLast_cons_cons, recallLast_cons_cons]
      exact .cons hfirst ih

theorem alike_launchOf (h : World.Twins on off w v) (spec : CommandSpec) :
    (launchOf w spec).Alike (launchOf v spec) :=
  ⟨spec.alike_environment? h.environment, rfl⟩

theorem twins_launching (h : World.Twins on off w v) (spec : CommandSpec)
    (started : Except Problem Child) (files : FileTree) (tools : σ) :
    World.Twins on off (launching w (launchOf w spec) started files tools)
      (launching v (launchOf v spec) started files tools) := by
  have hmachine := h.step (g := fun u : World σ =>
    { u with files := files, cwd := files.follow u.files u.cwd, tools := tools })
    fun _ _ _ _ => rfl
  exact hmachine.relaunched
    (List.rel_append h.launched (.cons ⟨alike_launchOf h spec, rfl⟩ .nil))

/-- An indifferent machine answers a launch alike. -/
theorem agree_start {host : Host σ} (hhost : host.Indifferent) (spec : CommandSpec) :
    Agree (World.Twins on off) (start host spec) (start host spec) := by
  intro w v h
  obtain ⟨started, files, tools, hw⟩ : ∃ started files tools,
      host w.environment (launchOf w spec) w.files w.tools = (started, files, tools) :=
    ⟨_, _, _, rfl⟩
  have hfiles : v.files = w.files := h.sees fun _ _ _ _ => rfl
  have htools : v.tools = w.tools := h.sees fun _ _ _ _ => rfl
  have hv : host v.environment (launchOf v spec) v.files v.tools = (started, files, tools) := by
    rw [hfiles, htools, ← hw]
    exact (hhost _ _ _ _ _ _ h.environment (alike_launchOf h spec)).symm
  rw [start_apply hw, start_apply hv]
  exact ⟨rfl, twins_launching h spec started files tools⟩

theorem respects_twins {host : Host σ} (hhost : host.Indifferent) (on off : Tracing) :
    Respects host (World.Twins on off) where
  directory spec _ _ h := (h.sees (f := (directoryError · spec)) fun _ _ _ _ => rfl).symm
  logged _ _ records _ h := h.step (g := (·.logged records)) fun _ _ _ _ => rfl
  now _ _ h := (h.sees fun _ _ _ _ => rfl).symm
  ticked _ _ h := h.step fun _ _ _ _ => rfl
  start := agree_start hhost
  remembered _ _ p h := h.relaunched (alike_recallLast h.launched p)

/-- The supervision is indifferent on a machine that is. -/
theorem indifferent_run {host : Host σ} (hhost : host.Indifferent) :
    Runner.Indifferent (run host) :=
  fun on off spec => agree_run (respects_twins hhost on off) (respectsSpans_twins on off) spec

end Supervision

/-! ## Calls -/

namespace Pipeline

variable {p : Pipeline} {runner : Runner σ}

theorem respects_twins (on off : Tracing) :
    Respects (World.Twins on off : World σ → World σ → Prop) where
  files _ _ h := h.sees fun _ _ _ _ => rfl
  cwd _ _ h := h.sees fun _ _ _ _ => rfl
  platform _ _ h := h.sees fun _ _ _ _ => rfl
  now _ _ h := h.sees fun _ _ _ _ => rfl
  ticked _ _ h := h.step fun _ _ _ _ => rfl
  validating _ _ h := h.step (g := fun w => { w with stage := .validating }) fun _ _ _ _ => rfl
  entered _ _ stage detail h := h.step (g := (·.entered stage detail)) fun _ _ _ _ => rfl
  built _ _ files h := h.step (g := (withFiles · files)) fun _ _ _ _ => rfl
  issuing _ _ spec h := h.step (g := (·.issuing spec)) fun _ _ _ _ => rfl
  answered _ _ answer h := h.step (g := (·.answered answer)) fun _ _ _ _ => rfl
  logged _ _ records _ h := h.step (g := (·.logged records)) fun _ _ _ _ => rfl

/-- One call. -/
theorem Call.agree_perform (hrunner : runner.Indifferent) (p : Pipeline) (call : Call) :
    Agree (World.Twins on off) (call.perform p runner) (call.perform p runner) := by
  have hexecute (request : Request) := agree_execute (respects_twins on off)
    (respectsSpans_twins on off) (hrunner on off) p request
  cases call with
  | execute request => exact (hexecute request).bind fun outcome => agree_pure (some outcome)
  | run config => exact (hexecute (.ofConfig config)).bind fun outcome => agree_pure (some outcome)
  | validate source output =>
    exact (agree_validate (respects_twins on off) source output).bind fun _ => agree_pure none

/-- Calls one after the other, each in the world that the one before it has left. -/
def history (p : Pipeline) (runner : Runner σ) : World σ → List Call → List (Episode σ)
  | _, [] => []
  | w, call :: rest =>
    let (ended, after) := call.perform p runner w
    ⟨call, w, ended, after⟩ :: history p runner after rest

/-- The same call in worlds that differ in tracing alone ends alike and keeps them so. -/
structure Episode.Twins (on off : Tracing) (e e' : Episode σ) : Prop where
  call : e'.call = e.call
  before : World.Twins on off e.before e'.before
  ended : e'.ended = e.ended
  after : World.Twins on off e.after e'.after

/-- Calls one after the other, by induction on the calls: each leaves twins for the next. -/
theorem history_twins (hrunner : runner.Indifferent) (h : World.Twins on off w v)
    (calls : List Call) :
    List.Forall₂ (Episode.Twins on off) (history p runner w calls) (history p runner v calls) := by
  induction calls generalizing w v with
  | nil => exact .nil
  | cons call rest ih =>
    obtain ⟨hended, hafter⟩ := Call.agree_perform hrunner p call w v h
    exact .cons ⟨rfl, h, hended.symm, hafter⟩ (ih hafter)

/-- Whether spans are taken or not, the same calls of a pipeline end alike, each of them, and leave
worlds behind that differ in tracing alone, as those did in which they began. So does a command
that the supervision runs by itself. -/
theorem tracing_keeps_aside (p : Pipeline) (h : World.Twins w.tracing v.tracing w v) :
    (∀ (runner : Runner σ), runner.Indifferent → ∀ calls,
      List.Forall₂ (Episode.Twins w.tracing v.tracing) (history p runner w calls)
        (history p runner v calls)) ∧
    ∀ (host : Host σ), host.Indifferent →
      (∀ calls, List.Forall₂ (Episode.Twins w.tracing v.tracing)
        (history p (Supervision.run host) w calls) (history p (Supervision.run host) v calls)) ∧
      ∀ spec, (Supervision.run host spec v).1 = (Supervision.run host spec w).1 ∧
        World.Twins w.tracing v.tracing (Supervision.run host spec w).2
          (Supervision.run host spec v).2 := by
  refine ⟨fun runner hrunner calls => history_twins hrunner h calls, fun host hhost => ?_⟩
  have hrunner := Supervision.indifferent_run hhost
  refine ⟨fun calls => history_twins hrunner h calls, fun spec => ?_⟩
  obtain ⟨hended, hafter⟩ := hrunner w.tracing v.tracing spec w v h
  exact ⟨hended.symm, hafter⟩

theorem indifferent_chattyHost : chattyHost.Indifferent := by
  intro env env' launch launch' files tools _ hlaunch
  have hchild : chattyChild launch = chattyChild launch' := by
    rw [hlaunch.rest]
    rfl
  unfold chattyHost
  rw [hchild]

theorem twins_sampleWorld :
    World.Twins (watchedWorld .plain).tracing sampleWorld.tracing (watchedWorld .plain) sampleWorld where
  observed := ⟨.plain, observed_watchedWorld .plain⟩
  grown := .refl _
  unobserved := ⟨rfl, rfl⟩
  kept := rfl
  environment := rfl
  launched := .nil
  rest := rfl

def sampleCalls : List Call := [.validate "/src" "/out", .execute sampleRequest]

theorem tracing_keeps_aside_chatty :
    List.Forall₂ (Episode.Twins (watchedWorld .plain).tracing sampleWorld.tracing)
      (history ⟨{}, 4, 2⟩ (Runner.answering makeFails) (watchedWorld .plain) sampleCalls)
      (history ⟨{}, 4, 2⟩ (Runner.answering makeFails) sampleWorld sampleCalls) ∧
    List.Forall₂ (Episode.Twins (watchedWorld .plain).tracing sampleWorld.tracing)
      (history ⟨{}, 4, 2⟩ (Supervision.run chattyHost) (watchedWorld .plain) sampleCalls)
      (history ⟨{}, 4, 2⟩ (Supervision.run chattyHost) sampleWorld sampleCalls) ∧
    (history ⟨{}, 4, 2⟩ (Supervision.run chattyHost) (watchedWorld .plain) sampleCalls).map
      (·.after.tracing.finished.length) = [0, 3] := by
  obtain ⟨hanswered, hsupervised⟩ := tracing_keeps_aside ⟨{}, 4, 2⟩ twins_sampleWorld
  refine ⟨hanswered _ (Runner.indifferent_answering makeFails) sampleCalls,
    (hsupervised chattyHost indifferent_chattyHost).1 sampleCalls, ?_⟩
  decide +kernel

end Pipeline

end NativeBuild
