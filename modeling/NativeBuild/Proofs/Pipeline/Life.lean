import NativeBuild.Proofs.Pipeline.Boundary
import NativeBuild.Proofs.Pipeline.Independence

/-
  The life of a pipeline: runs and validations one after the other, with anything else going on between
  them. The pipeline keeps a log of its own, with one record for each stage that it enters. What a run
  writes there is a trail from the first stage on (`trail`), told by the stages it enters: those of its
  commands in their order, and at the end the last stage, of a run that passed, or that of a failure
  (`Admissible`). Every run begins its trail anew, wherever the one before it stopped
  (`life_runs_in_order`).
-/

namespace NativeBuild

variable {σ : Type}

/-! ## The log of the pipeline -/

/-- The log of the pipeline itself. -/
def World.pipelineLog (w : World σ) : List Record := w.log.filter (·.logger == .pipeline)

/-- A stage as it is entered, with what the record of it says of the step. -/
structure Visit where
  stage : Stage
  detail : String
  deriving Repr, DecidableEq

/-- The record of a stage that is entered after another. -/
def transition (before : Stage) (v : Visit) : Record :=
  ⟨.pipeline, .debug, "pipeline " ++ before.name ++ " -> " ++ v.stage.name ++ " " ++ v.detail⟩

/-- The records of stages that are entered one after the other, each from the one before it. -/
def trail : Stage → List Visit → List Record
  | _, [] => []
  | before, v :: rest => transition before v :: trail v.stage rest

/-- The stage after stages were entered. -/
def stageAfter (before : Stage) (visits : List Visit) : Stage :=
  (visits.getLast?.map (·.stage)).getD before

theorem stageAfter_cons (before : Stage) (v : Visit) (rest : List Visit) :
    stageAfter before (v :: rest) = stageAfter v.stage rest := by
  unfold stageAfter
  rw [List.getLast?_cons]
  cases rest.getLast? <;> rfl

theorem stageAfter_concat (before : Stage) (visits : List Visit) (v : Visit) :
    stageAfter before (visits ++ [v]) = v.stage := by
  simp [stageAfter]

theorem trail_concat (before : Stage) (visits : List Visit) (v : Visit) :
    trail before (visits ++ [v]) =
      trail before visits ++ [transition (stageAfter before visits) v] := by
  induction visits generalizing before with
  | nil => rfl
  | cons first rest ih => simp [trail, ih, stageAfter_cons]

namespace World

theorem pipelineLog_logged (w : World σ) (records : List Record) :
    (w.logged records).pipelineLog = w.pipelineLog ++ records.filter (·.logger == .pipeline) := by
  simp [pipelineLog, logged]

/-- Records for others are not in the pipeline's own log. -/
theorem pipelineLog_logged_caller (w : World σ) {records : List Record}
    (h : records.filter (·.logger == .caller) = records) :
    (w.logged records).pipelineLog = w.pipelineLog := by
  rw [pipelineLog_logged, List.filter_eq_nil_iff.mpr, List.append_nil]
  intro record hmem
  have := List.filter_eq_self.mp h record hmem
  simp_all

theorem pipelineLog_entered (w : World σ) (stage : Stage) (detail : String) :
    (w.entered stage detail).pipelineLog =
      w.pipelineLog ++ [transition w.stage ⟨stage, detail⟩] := by
  change (w.logged _).pipelineLog = _
  rw [pipelineLog_logged]
  rfl

end World

theorem Action.Traced.pipelineLog {w w' : World σ} (h : Action.Traced w w') :
    w'.pipelineLog = w.pipelineLog :=
  h.filter_log (by decide)

/-- Nothing is written to the log of the pipeline. -/
def Runner.KeepsPipelineLog (runner : Runner σ) : Prop :=
  ∀ spec w, (runner spec w).2.pipelineLog = w.pipelineLog

theorem Runner.keepsPipelineLog_answering (answer : CommandSpec → Except Raised CommandResult) :
    (answering answer : Runner σ).KeepsPipelineLog := fun _ _ => rfl

/-- The second world follows the first by stages that were entered. -/
structure Follows (visits : List Visit) (w w' : World σ) : Prop where
  logged : w'.pipelineLog = w.pipelineLog ++ trail w.stage visits
  stage : w'.stage = stageAfter w.stage visits

namespace Follows

variable {w w₁ w' : World σ} {visits : List Visit}

theorem of_traced (h : Action.Traced w w') : Follows [] w w' :=
  ⟨h.pipelineLog.trans (List.append_nil _).symm, h.stage⟩

theorem concat (h : Follows visits w w₁) {v : Visit}
    (hlog : w'.pipelineLog = w₁.pipelineLog ++ [transition w₁.stage v]) (hstage : w'.stage = v.stage) :
    Follows (visits ++ [v]) w w' := by
  constructor
  · rw [hlog, h.logged, h.stage, trail_concat, List.append_assoc]
  · rw [hstage, stageAfter_concat]

/-- What keeps the stage and the log of the pipeline may come after it. -/
theorem then_kept (h : Follows visits w w₁) (hlog : w'.pipelineLog = w₁.pipelineLog)
    (hstage : w'.stage = w₁.stage) : Follows visits w w' :=
  ⟨hlog.trans h.logged, hstage.trans h.stage⟩

end Follows

/-! ## Exchanges -/

/-- The stage of an exchange. -/
def Exchange.visit (e : Exchange) : Visit := ⟨stageOf e.step, detailOf e.step⟩

theorem Exchange.Leads.pipelineLog {runner : Runner σ} {passes : Nat} {e : Exchange}
    {w w' : World σ} (hlog : runner.KeepsPipelineLog) (h : e.Leads runner passes w w') :
    w'.pipelineLog = w.pipelineLog ++ [transition w.stage e.visit] := by
  rw [h.eq_settled]
  unfold settled
  rw [World.pipelineLog_logged_caller _ e.filter_closing]
  change (runner e.spec (e.asked passes w)).2.pipelineLog = _
  rw [hlog]
  change ((w.entered _ _).logged _).pipelineLog = _
  rw [World.pipelineLog_logged_caller _ (filter_heading passes e.step e.spec),
    World.pipelineLog_entered]
  rfl

/-- Exchanges follow by their stages. -/
theorem Performed.follows {runner : Runner σ} {passes : Nat} {w v w' : World σ} {es : List Exchange}
    {visits : List Visit} (hlog : runner.KeepsPipelineLog) (hstage : runner.KeepsStage)
    (h : Performed runner passes v es w') (hv : Follows visits w v) :
    Follows (visits ++ es.map Exchange.visit) w w' := by
  induction h generalizing visits with
  | nil v => simpa using hv
  | cons hlead _ ih =>
    rw [List.map_cons, List.append_cons]
    exact ih (hv.concat (hlead.pipelineLog hlog) (hlead.stage hstage))

/-! ## The stages of a run -/

/-- The stages in which commands are handed out. -/
def Stage.commands : Stage → Bool
  | configuring | compiling => true
  | _ => false

/-- The stages of all commands of a run. -/
def commandStages (passes : Nat) : List Stage := .configuring :: List.replicate passes .compiling

theorem commands_of_mem {passes : Nat} {stage : Stage} (h : stage ∈ commandStages passes) :
    stage.commands = true := by
  rcases List.mem_cons.mp h with rfl | hcompile
  · rfl
  · rw [List.eq_of_mem_replicate hcompile]
    rfl

/-- The stages that a run enters: those of its commands, as far as it gets, and then perhaps the one
that it ends in. -/
def Admissible (passes : Nat) (stages : List Stage) : Prop :=
  stages <+: commandStages passes ++ [.done] ∨
    ∃ front, front <+: commandStages passes ∧ stages = front ++ [.failed]

namespace Admissible

variable {passes : Nat} {stages : List Stage}

/-- A run is done after all commands, and not before. -/
theorem of_done (h : Admissible passes stages) (hdone : .done ∈ stages) :
    stages = commandStages passes ++ [.done] := by
  have hnot : .done ∉ commandStages passes := fun hmem => nomatch commands_of_mem hmem
  rcases h with hprefix | ⟨front, hfront, rfl⟩
  · rcases List.prefix_concat_iff.mp hprefix with heq | hshort
    · exact heq
    · exact absurd (hshort.subset hdone) hnot
  · rcases List.mem_append.mp hdone with hmem | hmem
    · exact absurd (hfront.subset hmem) hnot
    · simp at hmem

/-- Only the last stage may be one without a command. -/
theorem commands_of_mem_dropLast (h : Admissible passes stages) {stage : Stage}
    (hmem : stage ∈ stages.dropLast) : stage.commands = true := by
  rcases h with hprefix | ⟨front, hfront, rfl⟩
  · rcases List.prefix_concat_iff.mp hprefix with rfl | hshort
    · rw [List.dropLast_concat] at hmem
      exact commands_of_mem hmem
    · exact commands_of_mem (hshort.subset (List.dropLast_subset _ hmem))
  · rw [List.dropLast_concat] at hmem
    exact commands_of_mem (hfront.subset hmem)

end Admissible

namespace Pipeline

open NativeBuild.Action

variable {p : Pipeline} {runner : Runner σ} {request : Request} {w v w' : World σ}
  {es : List Exchange} {ending : Except Raised Ending} {visits : List Visit}

theorem map_stageOf_stepAt (passes : Nat) :
    (List.range (passes + 1)).map (fun k => stageOf (stepAt k)) = commandStages passes := by
  rw [List.range_succ_eq_map, List.map_cons, List.map_map]
  exact congrArg (Stage.configuring :: ·) (by simp [Function.comp_def, stageOf, stepAt])

namespace Way

theorem length_le (h : Way p runner request w es ending w') : es.length ≤ p.passes + 1 := by
  cases h with
  | unprepared => exact Nat.zero_le _
  | refused => exact Nat.zero_le _
  | lost => exact Nat.zero_le _
  | strayed => exact Nat.succ_le_succ (Nat.zero_le _)
  | @ran _ there w₁ _ _ _ hcourse =>
    have hlength := congrArg List.length hcourse.map_eq_take
    rw [List.length_map, List.length_take, length_plan] at hlength
    omega

theorem length_of_passed {results : List CommandResult}
    (h : Way p runner request w es (.ok (.passed results)) w') : es.length = p.passes + 1 := by
  generalize hending : Except.ok (Ending.passed results) = ending at h
  cases h with
  | unprepared => cases hending
  | refused => cases hending
  | lost => cases hending
  | strayed => cases hending
  | ran _ _ hcourse =>
    rw [hcourse.length_of_passed (endingAfter_passed hending.symm).1, length_plan]

/-- The stages of the exchanges, in order. -/
theorem stages (h : Way p runner request w es ending w') :
    (es.map Exchange.visit).map (·.stage) = (commandStages p.passes).take es.length := by
  have hsteps := congrArg (List.map stageOf) h.map_step
  rw [List.map_map, List.map_map] at hsteps
  rw [List.map_map, ← map_stageOf_stepAt, ← List.map_take, List.take_range,
    Nat.min_eq_left h.length_le]
  exact hsteps

end Way

/-- Preparation enters no stage. -/
theorem prepare_follows (source output : String) (w : World σ) :
    Follows [] w (prepare source output w).2 := by
  obtain ⟨files, records, hw, -, hrecords⟩ := prepare_frame source output w
  rw [hw]
  refine ⟨?_, rfl⟩
  rw [World.pipelineLog_logged_caller _ (filter_opening hrecords)]
  exact (List.append_nil _).symm

/-- The stage that a run enters at its end. -/
def lastVisits : Except Raised Ending → List Visit
  | .error _ => []
  | .ok (.failed step _ _ _) => [⟨.failed, step.label⟩]
  | .ok (.passed _) => [⟨.done, ""⟩]

theorem Closes.follows {started : Float} (h : Closes started v ending w') (hv : Follows visits w v) :
    Follows (visits ++ lastVisits ending) w w' := by
  cases h with
  | escaped ht => simpa [lastVisits] using hv.then_kept ht.pipelineLog ht.stage
  | @failed step _ _ failure _ ht =>
    have hentered : Follows (visits ++ [⟨.failed, step.label⟩]) w (v.entered .failed step.label) :=
      hv.concat (World.pipelineLog_entered _ _ _) rfl
    refine hentered.then_kept (ht.pipelineLog.trans ?_) ht.stage
    exact World.pipelineLog_logged_caller (v.entered .failed step.label) rfl
  | @passed results v' ht =>
    have hentered : Follows (visits ++ [⟨.done, ""⟩]) w (v'.entered .done "") :=
      (hv.then_kept ht.pipelineLog ht.stage).concat (World.pipelineLog_entered _ _ _) rfl
    exact hentered.then_kept (World.pipelineLog_logged_caller _ (filter_conclusion _ _)) rfl

/-- A run whose working directory is gone: it enters its second stage, and then finds no place for one of
its paths to start. -/
structure Homeless (request : Request) (es : List Exchange) (visits : List Visit)
    (ending : Except Raised Ending) (w : World σ) : Prop where
  nothing : es = []
  visits : visits = [⟨.configuring, ""⟩]
  raised : ∃ fault, ending = .error (.ofFault fault)
  lost : ¬ w.Finds [request.source, request.output]

/-- The stages that the steps of a run enter are those of its commands, if there is a working
directory. -/
theorem Way.follows (hlog : runner.KeepsPipelineLog) (hstage : runner.KeepsStage)
    (h : Way p runner request v es ending w') (hv : Follows [] w v) :
    ∃ visits, Follows visits w w' ∧
      (visits = es.map Exchange.visit ∨ Homeless request es visits ending w') := by
  have hprepared : Follows [] w (prepare request.source request.output v).2 := by
    have hprep := prepare_follows request.source request.output v
    exact hv.then_kept (hprep.logged.trans (List.append_nil _)) hprep.stage
  cases h with
  | unprepared hprep =>
    rw [hprep] at hprepared
    exact ⟨[], hprepared, .inl rfl⟩
  | refused hprep =>
    rw [hprep] at hprepared
    exact ⟨[], hprepared, .inl rfl⟩
  | lost hprep hbase =>
    rw [hprep] at hprepared
    refine ⟨_, hprepared.concat (World.pipelineLog_entered _ _ _) rfl,
      .inr ⟨rfl, rfl, ⟨_, rfl⟩, World.not_finds hbase⟩⟩
  | strayed hprep _ _ _ hlead _ =>
    rw [hprep] at hprepared
    exact ⟨_, (Performed.cons hlead (.nil w')).follows hlog hstage hprepared, .inl rfl⟩
  | ran hprep hes =>
    rw [hprep] at hprepared
    exact ⟨_, hes.follows hlog hstage hprepared, .inl rfl⟩

/-- The stages of a run are admissible. -/
theorem Way.admissible (h : Way p runner request w es ending w')
    (hvisits : visits = es.map Exchange.visit ∨ Homeless request es visits ending w') :
    Admissible p.passes ((visits ++ lastVisits ending).map (·.stage)) := by
  have hprefix : (visits.map (·.stage)) <+: commandStages p.passes := by
    rcases hvisits with rfl | hhomeless
    · rw [h.stages]
      exact List.take_prefix _ _
    · rw [hhomeless.visits]
      exact ⟨_, rfl⟩
  rw [List.map_append]
  rcases ending with raised | ⟨results⟩ | ⟨step, results, evidence, failure⟩
  · exact .inl (by simpa [lastVisits] using hprefix.trans (List.prefix_append _ _))
  · rcases hvisits with rfl | hhomeless
    · rw [h.stages, h.length_of_passed, List.take_of_length_le (by simp [commandStages])]
      exact .inl (List.prefix_refl _)
    · obtain ⟨_, hraised⟩ := hhomeless.raised
      cases hraised
  · exact .inr ⟨_, hprefix, rfl⟩

/-- Each command is handed out in a stage that is entered for it. -/
theorem Way.count_commands (h : Way p runner request w es ending w') :
    ((es.map Exchange.visit ++ lastVisits ending).map (·.stage)).countP Stage.commands =
      es.length := by
  have hlast : ((lastVisits ending).map (·.stage)).countP Stage.commands = 0 := by
    rcases ending with raised | ⟨results⟩ | ⟨step, results, evidence, failure⟩ <;> rfl
  have hall : ((es.map Exchange.visit).map (·.stage)).countP Stage.commands =
      ((es.map Exchange.visit).map (·.stage)).length := by
    rw [List.countP_eq_length, h.stages]
    exact fun stage hmem => commands_of_mem (List.mem_of_mem_take hmem)
  rw [List.map_append, List.countP_append, hlast, hall]
  simp

/-- A run in order, from `w` to `w'` by the stages `visits`. -/
structure Orderly (p : Pipeline) (runner : Runner σ) (request : Request) (w : World σ)
    (ended : Except Raised Outcome) (w' : World σ) (visits : List Visit) : Prop where
  /-- The run writes a trail that starts at the first stage. -/
  logged : w'.pipelineLog = w.pipelineLog ++ trail .validating visits
  stage : w'.stage = stageAfter .validating visits
  admissible : Admissible p.passes (visits.map (·.stage))
  done : .done ∈ visits.map (·.stage) → (visits.map (·.stage)).count .compiling = p.passes
  /-- Nothing follows a stage without a command. -/
  last : ∀ stage ∈ (visits.map (·.stage)).dropLast, stage.commands = true
  /-- There is a command for each stage that has one, unless the working directory is gone and none
  is handed out. -/
  commands : ∃ specs, w'.issued = w.issued ++ specs ∧
    ((visits.map (·.stage)).countP Stage.commands = specs.length ∨
      specs = [] ∧ ¬ w'.Finds [request.source, request.output])
  outcome : ∀ outcome, ended = .ok outcome → outcome.stage = w'.stage
  fresh : execute p runner request w = ((execute p runner request w.fresh).1,
    (execute p runner request w.fresh).2.after w.past)

/-- Every run is in order, whatever stage it starts in. -/
theorem execute_orderly (p : Pipeline) (hbooks : runner.KeepsBooks) (hstage : runner.KeepsStage)
    (hlog : runner.KeepsPipelineLog) (hheedless : runner.Heedless) (request : Request)
    (w : World σ) : ∃ visits, Orderly p runner request w (execute p runner request w).1
      (execute p runner request w).2 visits := by
  obtain ⟨w₀, w₁, w', es, ending, ht, hway, hcloses, hexecute⟩ := execute_way p runner request w
  have hb₀ : w.Beside w₀ := beside_begun ht
  obtain ⟨visits, hsteps, hvisits⟩ := hway.follows hlog hstage (.of_traced ht)
  have hfollows := hcloses.follows hsteps
  have hadmissible := hway.admissible hvisits
  have hissued : w'.issued = w.issued ++ es.map (·.spec) := by
    rw [hcloses.beside.issued, hway.issued hbooks, hb₀.issued]
  refine ⟨visits ++ lastVisits ending, ?_⟩
  have hfresh := execute_fresh hheedless p request w
  rw [hexecute] at hfresh ⊢
  refine {
    logged := hfollows.logged
    stage := hfollows.stage
    admissible := hadmissible
    done := ?_
    last := fun _ => hadmissible.commands_of_mem_dropLast
    commands := ⟨_, hissued, ?_⟩
    outcome := ?_
    fresh := hexecute.trans hfresh }
  · intro hdone
    rw [hadmissible.of_done hdone]
    simp [commandStages]
  · rcases hvisits with rfl | hhomeless
    · exact .inl (hway.count_commands.trans (List.length_map _).symm)
    · exact .inr ⟨List.map_eq_nil_iff.mpr hhomeless.nothing,
        mt hcloses.beside.finds_iff.mp hhomeless.lost⟩
  · intro outcome hreturned
    rw [hfollows.stage]
    rcases ending with raised | ⟨results⟩ | ⟨step, results, evidence, failure⟩
    · cases hreturned
    · rw [eq_outcomeOf hreturned]
      exact (stageAfter_concat .validating visits ⟨.done, ""⟩).symm
    · rw [eq_outcomeOf hreturned]
      exact (stageAfter_concat .validating visits ⟨.failed, step.label⟩).symm

/-! ## Histories -/

/-- A call of a pipeline. -/
inductive Call where
  | execute (request : Request)
  | run (config : BuildConfig)
  | validate (source output : String)

namespace Call

/-- The run that a call asks for, if any. -/
def request? : Call → Option Request
  | execute request => some request
  | run config => some (.ofConfig config)
  | validate _ _ => none

/-- What a call does; a validation has no outcome. -/
def perform (p : Pipeline) (runner : Runner σ) : Call → Action σ (Option Outcome)
  | execute request => some <$> Pipeline.execute p runner request
  | run config => some <$> Pipeline.run p runner config
  | validate source output => do
    Pipeline.validate source output
    return none

/-- A call that asks for a run is that run. -/
theorem perform_of_request {call : Call} (h : call.request? = some request) (w : World σ) :
    call.perform p runner w =
      ((Pipeline.execute p runner request w).1.map some, (Pipeline.execute p runner request w).2) := by
  have hmap : ∀ request, (some <$> Pipeline.execute p runner request) w =
      ((Pipeline.execute p runner request w).1.map some,
        (Pipeline.execute p runner request w).2) := by
    intro request
    change andThen _ _ w = _
    unfold andThen
    rcases Pipeline.execute p runner request w with ⟨raised | outcome, w'⟩ <;> rfl
  cases call with
  | execute => cases h; exact hmap _
  | run => cases h; exact hmap _
  | validate => cases h

/-- A validation changes nothing. -/
theorem perform_of_none {call : Call} (h : call.request? = none) (w : World σ) :
    (call.perform p runner w).2 = w := by
  cases call with
  | execute => cases h
  | run => cases h
  | validate source output =>
    change ((Pipeline.validate source output >>= fun _ => pure none) w).2 = w
    unfold Pipeline.validate
    rw [bind_assoc_run, look_bind]
    cases validation w source output <;> rfl

end Call

/-- A call in a history: the worlds before and after it, and how it ended. -/
structure Episode (σ : Type) where
  call : Call
  before : World σ
  ended : Except Raised (Option Outcome)
  after : World σ

/-- Calls of one pipeline, one after the other. Between them anything may happen to the world, but
nothing is written to the log of the pipeline. -/
inductive Life (p : Pipeline) (runner : Runner σ) :
    World σ → List (Episode σ) → World σ → Prop where
  | idle (w : World σ) : Life p runner w [] w
  | meanwhile {w v w' : World σ} {episodes : List (Episode σ)}
      (hlog : v.pipelineLog = w.pipelineLog) (h : Life p runner v episodes w') :
      Life p runner w episodes w'
  | call {call : Call} {w v w' : World σ} {ended : Except Raised (Option Outcome)}
      {episodes : List (Episode σ)} (hcall : call.perform p runner w = (ended, v))
      (h : Life p runner v episodes w') : Life p runner w (⟨call, w, ended, v⟩ :: episodes) w'

/-- What a call of the pipeline is by the stages that it enters: a run in order, or a validation, which
leaves everything as it is. -/
def Episode.InOrder (p : Pipeline) (runner : Runner σ) (episode : Episode σ) (visits : List Visit) :
    Prop :=
  match episode.call.request? with
  | some request => ∃ ended, episode.ended = ended.map some ∧
      Orderly p runner request episode.before ended episode.after visits
  | none => visits = [] ∧ episode.after = episode.before

/-- One call is in order. -/
theorem perform_inOrder (p : Pipeline) (hbooks : runner.KeepsBooks) (hstage : runner.KeepsStage)
    (hlog : runner.KeepsPipelineLog) (hheedless : runner.Heedless) {call : Call}
    {ended : Except Raised (Option Outcome)} (h : call.perform p runner w = (ended, w')) :
    ∃ visits, Episode.InOrder p runner ⟨call, w, ended, w'⟩ visits ∧
      w'.pipelineLog = w.pipelineLog ++ trail .validating visits := by
  unfold Episode.InOrder
  cases hrequest : call.request? with
  | some request =>
    rw [Call.perform_of_request hrequest] at h
    obtain ⟨rfl, rfl⟩ := Prod.mk.inj h
    obtain ⟨visits, horderly⟩ := execute_orderly p hbooks hstage hlog hheedless request w
    exact ⟨visits, ⟨_, rfl, horderly⟩, horderly.logged⟩
  | none =>
    have hsame : (call.perform p runner w).2 = w := Call.perform_of_none hrequest w
    rw [h] at hsame
    cases hsame
    exact ⟨[], ⟨rfl, rfl⟩, (List.append_nil _).symm⟩

/-- Over the whole life of a pipeline every run is in order, wherever the one before it stopped, and the
log of the pipeline is the trails of its runs. -/
theorem life_runs_in_order (p : Pipeline) (hbooks : runner.KeepsBooks) (hstage : runner.KeepsStage)
    (hlog : runner.KeepsPipelineLog) (hheedless : runner.Heedless) {episodes : List (Episode σ)}
    (h : Life p runner w episodes w') :
    ∃ courses, List.Forall₂ (Episode.InOrder p runner) episodes courses ∧
      w'.pipelineLog = w.pipelineLog ++ courses.flatMap (trail .validating) := by
  induction h with
  | idle w => exact ⟨[], .nil, (List.append_nil _).symm⟩
  | meanwhile hsame _ ih =>
    rw [← hsame]
    exact ih
  | call hcall _ ih =>
    obtain ⟨visits, hfirst, hlogged⟩ := perform_inOrder p hbooks hstage hlog hheedless hcall
    obtain ⟨courses, hrest, hafter⟩ := ih
    refine ⟨visits :: courses, .cons hfirst hrest, ?_⟩
    rw [hafter, hlogged, List.flatMap_cons, List.append_assoc]

/-- A pipeline whose runs are interrupted in their first pass is called again. -/
theorem life_runs_in_order_relapsing :
    ∃ (ended again : Except Raised (Option Outcome)) (v w' : World Unit) (courses : List (List Visit)),
      Life ⟨{}, 4, 2⟩ (Runner.answering makeInterrupted) sampleWorld
        [⟨.execute sampleRequest, sampleWorld, ended, v⟩, ⟨.execute sampleRequest, v, again, w'⟩] w' ∧
      v.stage = .compiling ∧
      List.Forall₂ (Episode.InOrder ⟨{}, 4, 2⟩ (Runner.answering makeInterrupted))
        [⟨.execute sampleRequest, sampleWorld, ended, v⟩, ⟨.execute sampleRequest, v, again, w'⟩]
        courses ∧
      w'.pipelineLog = courses.flatMap (trail .validating) := by
  have hstage : ((Call.execute sampleRequest).perform ⟨{}, 4, 2⟩ (Runner.answering makeInterrupted)
      sampleWorld).2.stage = .compiling := by decide +kernel
  rcases hfirst : (Call.execute sampleRequest).perform ⟨{}, 4, 2⟩ (Runner.answering makeInterrupted)
    sampleWorld with ⟨ended, v⟩
  rcases hsecond : (Call.execute sampleRequest).perform ⟨{}, 4, 2⟩ (Runner.answering makeInterrupted)
    v with ⟨again, w'⟩
  rw [hfirst] at hstage
  have hlife := Life.call hfirst (.call hsecond (.idle w'))
  obtain ⟨courses, horder, hlog⟩ := life_runs_in_order ⟨{}, 4, 2⟩
    (Runner.keepsBooks_answering makeInterrupted) (Runner.keepsStage_answering makeInterrupted)
    (Runner.keepsPipelineLog_answering makeInterrupted) (Runner.heedless_answering makeInterrupted)
    hlife
  exact ⟨ended, again, v, w', courses, hlife, hstage, horder, hlog⟩

/-- Without its working directory a run enters the stage of a command and hands out none. -/
theorem run_enters_without_command :
    (execute ⟨{}, 4, 2⟩ (Runner.answering makeInterrupted) goneRequest goneWorld).2.pipelineLog =
        trail .validating [⟨.configuring, ""⟩] ∧
      [Stage.configuring].countP Stage.commands = 1 ∧
      (execute ⟨{}, 4, 2⟩ (Runner.answering makeInterrupted) goneRequest
        goneWorld).2.issued.length = 0 := by
  refine ⟨?_, ?_, ?_⟩ <;> decide +kernel

end Pipeline

end NativeBuild
