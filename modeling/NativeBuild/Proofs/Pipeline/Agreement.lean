import NativeBuild.Proofs.Agreement
import NativeBuild.Proofs.Pipeline.Execution

/-
  Two runs of the pipeline side by side. A relation of worlds that the pipeline's own steps and the
  runner respect (`Respects`) is respected by a whole run (`agree_execute`), and so by a validation.
-/

namespace NativeBuild.Pipeline

open NativeBuild.Action

variable {σ : Type} {R : World σ → World σ → Prop} {runner : Runner σ}

/-- The relation goes through each thing that the pipeline does to a world besides tracing, and the
pipeline sees the same in both. -/
structure Respects (R : World σ → World σ → Prop) : Prop where
  files : ∀ w v, R w v → v.files = w.files
  cwd : ∀ w v, R w v → v.cwd = w.cwd
  platform : ∀ w v, R w v → v.platform = w.platform
  now : ∀ w v, R w v → v.now = w.now
  ticked : ∀ w v, R w v → R w.ticked v.ticked
  validating : ∀ w v, R w v → R { w with stage := .validating } { v with stage := .validating }
  entered : ∀ w v stage detail, R w v → R (w.entered stage detail) (v.entered stage detail)
  built : ∀ w v files, R w v → R (withFiles w files) (withFiles v files)
  issuing : ∀ w v spec, R w v → R (w.issuing spec) (v.issuing spec)
  answered : ∀ w v answer, R w v → R (w.answered answer) (v.answered answer)
  logged : ∀ w v records, records.filter (·.logger == .caller) = records → R w v →
    R (w.logged records) (v.logged records)

theorem agree_note (h : Respects R) (level : Level) (message : String) :
    Agree R (note .caller level message) (note .caller level message) :=
  agree_change fun w v hw => h.logged w v [⟨.caller, level, message⟩] rfl hw

theorem agree_readBuildClock (h : Respects R) : Agree R readBuildClock readBuildClock :=
  fun w v hw => ⟨congrArg Except.ok (h.now w v hw).symm, h.ticked w v hw⟩

theorem agree_enter (h : Respects R) (stage : Stage) (detail : String) :
    Agree R (enter stage detail) (enter stage detail) :=
  fun w v hw => ⟨rfl, h.entered w v stage detail hw⟩

theorem agree_validation (h : Respects R) (source output : String) :
    Agree R (look fun w => validation w source output)
      (look fun w => validation w source output) := by
  refine agree_look fun w v hw => ?_
  unfold validation
  rw [h.platform w v hw, h.files w v hw, h.cwd w v hw]

theorem Respects.base (h : Respects R) {w v : World σ} (hw : R w v) (paths : List String) :
    v.base paths = w.base paths := by
  unfold World.base
  rw [h.files w v hw, h.cwd w v hw]

theorem agree_place (h : Respects R) (paths : List String) :
    Agree R (look (·.base paths) >>= ofFault) (look (·.base paths) >>= ofFault) := by
  refine (agree_look fun w v hw => ?_).bind agree_ofFault
  exact (h.base hw paths).symm

theorem agree_validate (h : Respects R) (source output : String) :
    Agree R (validate source output) (validate source output) := by
  unfold validate
  refine (agree_validation h source output).bind fun valid => ?_
  cases valid with
  | error failure => exact agree_raise _
  | ok _ => exact agree_pure ()

theorem agree_ensureOutput (h : Respects R) (output : String) :
    Agree R (ensureOutput output) (ensureOutput output) := by
  intro w v hw
  rw [ensureOutput_apply, ensureOutput_apply, h.files w v hw, h.cwd w v hw]
  have hrecords := filter_opening (records_outputMade w.files w.cwd output)
  exact ⟨rfl, h.logged _ _ _ hrecords (h.built w v _ hw)⟩

theorem agree_prepare (h : Respects R) (source output : String) :
    Agree R (prepare source output) (prepare source output) := by
  unfold prepare
  refine (agree_validation h source output).bind fun valid => ?_
  cases valid with
  | error failure => exact agree_pure _
  | ok _ => exact agree_ensureOutput h output

theorem agree_perform (h : Respects R) (hrunner : ∀ spec, Agree R (runner spec) (runner spec))
    (passes : Nat) (step : Step) (spec : CommandSpec) :
    Agree R (perform runner passes step spec) (perform runner passes step spec) := by
  intro w v hw
  have hasked := h.issuing _ _ spec (h.logged w v _ (Exchange.filter_heading passes step spec) hw)
  obtain ⟨hend, hafter⟩ := hrunner spec _ _ hasked
  unfold perform
  dsimp only
  rw [hend]
  exact ⟨rfl, h.logged _ _ _ (Exchange.filter_closing _) (h.answered _ _ _ hafter)⟩

theorem agree_configure (h : Respects R) (hrunner : ∀ spec, Agree R (runner spec) (runner spec))
    (p : Pipeline) (request : Request) :
    Agree R (configure p runner request) (configure p runner request) := by
  intro w v hw
  have hplace : v.base [request.source, request.output] =
      w.base [request.source, request.output] := h.base hw _
  cases hbase : w.base [request.source, request.output] with
  | error fault =>
    rw [configure_of_lost hbase, configure_of_lost (hplace.trans hbase)]
    exact ⟨rfl, hw⟩
  | ok here =>
    rw [configure_apply hbase, configure_apply (hplace.trans hbase)]
    exact agree_perform h hrunner _ _ _ w v hw

theorem agree_compileFrom (h : Respects R)
    (hrunner : ∀ spec, Agree R (runner spec) (runner spec)) (p : Pipeline) (spec : CommandSpec)
    (remaining number : Nat) (results : List CommandResult) :
    Agree R (compileFrom p runner spec remaining number results)
      (compileFrom p runner spec remaining number results) := by
  -- the remaining passes start with other results, but they are the same passes
  induction remaining generalizing number results with
  | zero => exact agree_pure _
  | succ remaining ih =>
    unfold compileFrom
    refine (agree_enter h _ _).bind fun _ => ?_
    rw [compile_eq_perform]
    refine (agree_perform h hrunner _ _ _).bind fun report => ?_
    dsimp only
    cases report.failure with
    | some failure => exact agree_pure _
    | none => exact ih _ _

theorem agree_steps (h : Respects R) (hrunner : ∀ spec, Agree R (runner spec) (runner spec))
    (p : Pipeline) (request : Request) :
    Agree R (steps p runner request) (steps p runner request) := by
  unfold steps
  refine (agree_prepare h _ _).bind fun failure? => ?_
  cases failure? with
  | some failure => exact agree_pure _
  | none =>
    refine (agree_enter h _ _).bind fun _ => ?_
    refine (agree_configure h hrunner p request).bind fun report => ?_
    dsimp only
    cases report.failure with
    | some failure => exact agree_pure _
    | none => exact (agree_place h _).bind fun here => agree_compileFrom h hrunner p _ _ _ _

theorem agree_stepsOrOutcome (h : Respects R)
    (hrunner : ∀ spec, Agree R (runner spec) (runner spec)) (p : Pipeline) (request : Request)
    (started : Float) :
    Agree R (stepsOrOutcome p runner request started)
      (stepsOrOutcome p runner request started) := by
  unfold stepsOrOutcome
  refine (agree_steps h hrunner p request).bind fun ending => ?_
  cases ending with
  | passed results => exact agree_pure _
  | failed step results evidence failure =>
    refine (agree_enter h _ _).bind fun _ => ?_
    refine (agree_note h _ _).bind fun _ => ?_
    exact (agree_readBuildClock h).bind fun _ => agree_pure _

/-- Runs of the pipeline agree when the runner's calls do. -/
theorem agree_execute {allowed : Bool → Bool → Prop} (h : Respects R)
    (hspans : RespectsSpans R allowed) (hrunner : ∀ spec, Agree R (runner spec) (runner spec))
    (p : Pipeline) (request : Request) :
    Agree R (execute p runner request) (execute p runner request) := by
  unfold execute
  refine (agree_readBuildClock h).bind fun started => ?_
  refine (agree_change h.validating).bind fun _ => ?_
  refine (agree_inSpan hspans _ _ fun _ _ _ =>
    agree_stepsOrOutcome h hrunner p request started).bind fun ending => ?_
  cases ending with
  | error outcome => exact agree_pure _
  | ok results =>
    refine (agree_enter h _ _).bind fun _ => ?_
    refine (agree_readBuildClock h).bind fun stopped => ?_
    refine (agree_ofFault _).bind fun elapsed => ?_
    exact (agree_note h _ _).bind fun _ => agree_pure _

end NativeBuild.Pipeline
