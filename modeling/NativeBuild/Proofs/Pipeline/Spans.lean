import NativeBuild.Proofs.Pipeline.Supervised
import NativeBuild.Proofs.Supervision.Spans

/-
  The spans of a run. A run whose spans are recorded leaves the spans of its commands behind, in
  their order and inside its own, which ends last (`execute_spans`). The commands are told with the
  worlds in which they were handed out (`Errand`): what they found there, left by the command before
  (`Errand.Handed`), says whether they have a span and what it holds. Spans are told apart by their
  numbers, which go on from those of the spans before the run.
-/

namespace NativeBuild

open NativeBuild.Supervision NativeBuild.Action

variable {σ : Type}

/-- A command handed to the supervision, and the world that it found. -/
structure Errand (σ : Type) where
  spec : CommandSpec
  world : World σ

namespace Errand

variable (host : Host σ) (e : Errand σ)

/-- The directory of the command can be used. -/
def placed : Bool := (directoryError e.world e.spec).isNone

/-- What the supervision answers. -/
def answer : Except Raised CommandResult := answerOf host e.spec e.world

/-- The launch, with all that is known of the process in the end. -/
def launch : Launched := launchedBy host e.spec e.world

/-- The span of the command. -/
def span (p : SpanProvider) (number : Nat) (parent : Option Nat) : Span :=
  runSpan p number parent e.spec (e.answer host)

/-- The commands were handed out one after the other, the first in this world. Each of them found
the files and the working directory that the one before it had left. -/
def Handed (host : Host σ) : World σ → List (Errand σ) → Prop
  | _, [] => True
  | w, e :: rest =>
    (e.world.files = w.files ∧ e.world.cwd = w.cwd) ∧ Handed host (run host e.spec e.world).2 rest

theorem Handed.of_eq {host : Host σ} {w v : World σ} {errands : List (Errand σ)}
    (h : Handed host w errands) (hfiles : v.files = w.files) (hcwd : v.cwd = w.cwd) :
    Handed host v errands := by
  cases errands with
  | nil => trivial
  | cons e rest =>
    obtain ⟨⟨hfilesFound, hcwdFound⟩, hrest⟩ := h
    exact ⟨⟨hfilesFound.trans hfiles.symm, hcwdFound.trans hcwd.symm⟩, hrest⟩

end Errand

/-- The commands that can be started in their directories. -/
def placedOf (errands : List (Errand σ)) : List (Errand σ) := errands.filter Errand.placed

/-- The spans of commands inside one span, numbered from here on. -/
def spansFrom (host : Host σ) (p : SpanProvider) (parent : Option Nat) :
    Nat → List (Errand σ) → List Span
  | _, [] => []
  | number, e :: rest => e.span host p number parent :: spansFrom host p parent (number + 1) rest

section SpansFrom

variable {host : Host σ} {p : SpanProvider} {parent : Option Nat}

theorem numbers_spansFrom (number : Nat) (errands : List (Errand σ)) :
    (spansFrom host p parent number errands).map (·.number) =
      List.range' number errands.length := by
  induction errands generalizing number with
  | nil => rfl
  | cons e rest ih => exact congrArg (number :: ·) (ih (number + 1))

theorem length_spansFrom (number : Nat) (errands : List (Errand σ)) :
    (spansFrom host p parent number errands).length = errands.length := by
  rw [← List.length_map (·.number), numbers_spansFrom, List.length_range']

theorem spansFrom_append (number : Nat) (before after : List (Errand σ)) :
    spansFrom host p parent number (before ++ after) =
      spansFrom host p parent number before ++
        spansFrom host p parent (number + before.length) after := by
  induction before generalizing number with
  | nil => rfl
  | cons e rest ih =>
    have hnumber : number + (e :: rest).length = number + 1 + rest.length := by
      rw [List.length_cons, Nat.add_right_comm, Nat.add_assoc]
    rw [hnumber]
    exact congrArg (e.span host p number parent :: ·) (ih (number + 1))

end SpansFrom

/-! ## Exchanges -/

/-- What a command leaves behind, found in a world of this kind. -/
structure Errand.Leaves (host : Host σ) (p : SpanProvider) (errands : List (Errand σ))
    (w w' : World σ) : Prop where
  tracing : w'.tracing = w.tracing.recorded
    (spansFrom host p w.tracing.around w.tracing.begun (placedOf errands))
  launched : w'.launched = w.launched ++ (placedOf errands).map (·.launch host)
  reading : w'.commandClock.reading = w.commandClock.reading

theorem Exchange.tracing_settled (e : Exchange) (w : World σ) :
    (e.settled w).tracing = w.tracing := rfl

theorem Exchange.commandClock_settled (e : Exchange) (w : World σ) :
    (e.settled w).commandClock = w.commandClock := rfl

/-- One command of a run. -/
theorem Exchange.Leads.leaves {host : Host σ} {passes : Nat} {p : SpanProvider} {e : Exchange}
    {w w' : World σ} (h : e.Leads (run host) passes w w') (hobserved : w.Observed p)
    (hready : w.tracing.ready = true) (hrecords : p.Records)
    (hclock : w.commandClock.InMilliseconds) :
    Errand.Leaves host p [⟨e.spec, e.asked passes w⟩] w w' := by
  have hafter := h.eq_settled
  have hran := ran_run host e.spec (e.asked passes w)
  unfold launchesOf at hran
  cases hdirectory : directoryError (e.asked passes w) e.spec with
  | some error =>
    have hnone : placedOf [(⟨e.spec, e.asked passes w⟩ : Errand σ)] = [] := by
      simp [placedOf, Errand.placed, hdirectory]
    rw [run_of_misplaced hdirectory] at hafter
    rw [hafter]
    refine ⟨?_, ?_, ?_⟩
    · rw [Exchange.tracing_settled, hnone]
      exact (Tracing.recorded_nil hready).symm
    · rw [Exchange.launched_settled, hnone, List.map_nil, List.append_nil]
      rfl
    · rw [Exchange.commandClock_settled]
      rfl
  | none =>
    have hone : placedOf [(⟨e.spec, e.asked passes w⟩ : Errand σ)] =
        [⟨e.spec, e.asked passes w⟩] := by
      simp [placedOf, Errand.placed, hdirectory]
    have hasked : (e.asked passes w).Observed p := ⟨hobserved.provider, hobserved.active⟩
    have hspan := tracing_run host e.spec hasked hrecords hdirectory hclock
    rw [hdirectory] at hran
    rw [hafter]
    refine ⟨?_, ?_, ?_⟩
    · rw [Exchange.tracing_settled, hone]
      exact hspan
    · rw [Exchange.launched_settled, hone]
      exact hran.launched
    · rw [Exchange.commandClock_settled]
      exact hran.reading

theorem Errand.Leaves.trans {host : Host σ} {p : SpanProvider} {before after : List (Errand σ)}
    {w₁ w₂ w₃ : World σ} (h : Leaves host p before w₁ w₂) (h' : Leaves host p after w₂ w₃) :
    Leaves host p (before ++ after) w₁ w₃ where
  tracing := by
    have haround : w₂.tracing.around = w₁.tracing.around := by
      rw [h.tracing]
      rfl
    have hbegun : w₂.tracing.begun = w₁.tracing.begun + (placedOf before).length := by
      rw [h.tracing]
      exact congrArg (w₁.tracing.begun + ·) (length_spansFrom _ _)
    have hplaced : placedOf (before ++ after) = placedOf before ++ placedOf after :=
      List.filter_append ..
    rw [h'.tracing, haround, hbegun, h.tracing, Tracing.recorded_recorded, hplaced,
      spansFrom_append]
  launched := by
    rw [h'.launched, h.launched, List.append_assoc, ← List.map_append]
    unfold placedOf
    rw [List.filter_append]
  reading := h'.reading.trans h.reading

/-- All commands of a run, each in the world that the one before it has left. -/
theorem Performed.leaves {host : Host σ} {passes : Nat} {p : SpanProvider} {w w' : World σ}
    {es : List Exchange} (h : Performed (run host) passes w es w') (hobserved : w.Observed p)
    (hready : w.tracing.ready = true) (hrecords : p.Records)
    (hclock : w.commandClock.InMilliseconds) :
    ∃ errands : List (Errand σ), es.map (·.spec) = errands.map (·.spec) ∧
      es.map (·.answer) = errands.map (·.answer host) ∧ Errand.Handed host w errands ∧
      Errand.Leaves host p errands w w' := by
  induction h with
  | nil w =>
    refine ⟨[], rfl, rfl, trivial, ?_, (List.append_nil _).symm, rfl⟩
    exact (Tracing.recorded_nil hready).symm
  | @cons w w₁ w₂ e es hlead hrest ih =>
    have hleaves := hlead.leaves hobserved hready hrecords hclock
    have hobserved₁ : w₁.Observed p := by
      refine ⟨?_, .inl ?_⟩
      · rw [hleaves.tracing]
        exact hobserved.provider
      · rw [hleaves.tracing]
        rfl
    have hready₁ : w₁.tracing.ready = true := by
      rw [hleaves.tracing]
      rfl
    have hclock₁ : w₁.commandClock.InMilliseconds := by
      unfold Clock.InMilliseconds
      rw [hleaves.reading]
      exact hclock
    have hanswer : e.answer = answerOf host e.spec (e.asked passes w) := by
      rw [hlead.answer_eq, run_eq_answerOf]
    obtain ⟨errands, hspecs, hanswers, hhanded, hrestLeaves⟩ := ih hobserved₁ hready₁ hclock₁
    refine ⟨⟨e.spec, e.asked passes w⟩ :: errands, ?_, ?_, ⟨⟨rfl, rfl⟩, ?_⟩,
      hleaves.trans hrestLeaves⟩
    · rw [List.map_cons, List.map_cons, hspecs]
    · rw [List.map_cons, List.map_cons, hanswers, hanswer]
      rfl
    · rw [hlead.eq_settled] at hhanded
      exact hhanded.of_eq rfl rfl

namespace Pipeline

/-! ## Runs -/

/-- The span of a run that ended so. -/
def pipelineSpan (provider : SpanProvider) (number : Nat) (parent : Option Nat) (request : Request)
    (ended : Except Raised Outcome) : Span where
  number := number
  name := "cmakebuild.pipeline"
  attributes := provider.start [("target", .text (request.target.getD ""))]
  parent := parent
  failed := (leaving ended).any provider.marks

/-- What leaves a run whose time can be told is what left its steps. -/
theorem leaving_conclusion {elapsed : Float} {ms : Int} (h : milliseconds elapsed = .ok ms)
    (ending : Except Raised Ending) :
    leaving (conclusion elapsed ending).1 = leaving ending := by
  cases ending with
  | error raised => rfl
  | ok ending =>
    rw [conclusion_of_ok ending h]
    rfl

/-- The tracing of a recorded run, whose span has just begun. -/
def tracingOf (provider : SpanProvider) (request : Request) (t : Tracing) : Tracing :=
  t.within provider "cmakebuild.pipeline"
    (provider.start [("target", .text (request.target.getD ""))])

theorem underway_eq {request : Request} {w : World σ} {provider : SpanProvider}
    (h : w.Observed provider) (hrecords : provider.Records) :
    underway request w = { begun w with tracing := tracingOf provider request w.tracing } := by
  have hbegun : (begun w).Observed provider := ⟨h.provider, h.active⟩
  unfold underway
  rw [hbegun.opened, Tracing.begin_eq_within hbegun.provider hrecords]
  rfl

/-- A run prepares the files as they would be prepared in the world that it was started in. -/
theorem files_prepare_underway {request : Request} {w : World σ} {provider : SpanProvider}
    (h : w.Observed provider) (hrecords : provider.Records) :
    (prepare request.source request.output (underway request w)).2.files =
      (prepare request.source request.output w).2.files := by
  have hvalid : validation { begun w with tracing := tracingOf provider request w.tracing }
      request.source request.output = validation w request.source request.output := rfl
  rw [underway_eq h hrecords, prepare_apply, prepare_apply, hvalid]
  cases validation w request.source request.output with
  | error failure => rfl
  | ok _ =>
    dsimp only
    rw [ensureOutput_apply, ensureOutput_apply]
    rfl

/-- The spans of a recorded run: one for each command that can be started in its directory, inside
the span of the run, which comes last. -/
theorem execute_leaves_spans (p : Pipeline) (host : Host σ) (request : Request) {w : World σ}
    {provider : SpanProvider} (hobserved : w.Observed provider) (hrecords : provider.Records)
    (hclock : w.buildClock.InMilliseconds) (hcommand : w.commandClock.InMilliseconds) :
    ∃ (errands : List (Errand σ)) (ended : Except Raised Outcome) (w' : World σ),
      execute p (Supervision.run host) request w = (ended, w') ∧
      w'.issued = w.issued ++ errands.map (·.spec) ∧
      w'.answers = w.answers ++ errands.map (·.answer host) ∧
      Errand.Handed host (prepare request.source request.output w).2 errands ∧
      w'.launched = w.launched ++ (placedOf errands).map (·.launch host) ∧
      w'.tracing = w.tracing.recorded
        (spansFrom host provider (some w.tracing.begun) (w.tracing.begun + 1) (placedOf errands) ++
          [pipelineSpan provider w.tracing.begun w.tracing.around request ended]) := by
  obtain ⟨w₁, w', ending, hsteps, hcloses, htracing, hexecute⟩ :=
    execute_eq p (Supervision.run host) request w
  obtain ⟨es, ended, v, hran, hway⟩ :=
    steps_way p (Supervision.run host) request (underway request w)
  obtain ⟨rfl, rfl⟩ := Prod.mk.inj (hsteps.symm.trans hran)
  obtain ⟨v, hes, hlast⟩ := hway.performed_eq
  have hissued := hway.issued (keepsBooks_run host)
  have hanswers := hway.answers (keepsBooks_run host)
  have hbeside := hcloses.beside
  have hbegun : (begun w).Observed provider := ⟨hobserved.provider, hobserved.active⟩
  have htold : (begun w).takesSpan = true := hbegun.takesSpan
  obtain ⟨files, records, hprepared, -⟩ :=
    prepare_frame request.source request.output (underway request w)
  rw [underway_eq hobserved hrecords] at hprepared hissued hanswers
  rw [underway_eq hobserved hrecords, hprepared] at hes
  obtain ⟨errands, hspecs, hgiven, hhanded, hleaves⟩ :=
    hes.leaves ⟨hobserved.provider, .inl rfl⟩ rfl hrecords hcommand
  have hspans : w₁.tracing = (tracingOf provider request w.tracing).recorded
      (spansFrom host provider (some w.tracing.begun) (w.tracing.begun + 1)
        (placedOf errands)) := by
    obtain rfl | rfl := hlast <;> exact hleaves.tracing
  have hlaunched : w₁.launched = w.launched ++ (placedOf errands).map (·.launch host) := by
    obtain rfl | rfl := hlast <;> exact hleaves.launched
  obtain ⟨ms, hms⟩ := hway.elapsed (keepsClock_run host) hclock (traced_opened (begun w) _ _)
  refine ⟨errands, _, w', hexecute, ?_, ?_, ?_, ?_, ?_⟩
  · rw [hbeside.issued, hissued, hspecs]
    rfl
  · rw [hbeside.answers, hanswers, hgiven]
    rfl
  · refine hhanded.of_eq ?_ (prepare_cwd request.source request.output w)
    rw [← files_prepare_underway hobserved hrecords, underway_eq hobserved hrecords, hprepared]
  · rw [hbeside.launched, hlaunched]
  · have hclosed : w'.tracing = w₁.tracing.finish (leaving ending) := by
      rw [htracing, htold]
      rfl
    rw [hclosed, hspans, ← leaving_conclusion hms]
    exact Tracing.finish_within ..

theorem any_leaving_iff {α : Type} {ending : Except Raised α} {marks : Problem → Bool} :
    (leaving ending).any marks = true ↔
      ∃ raised, ending = .error raised ∧ marks raised.problem = true := by
  cases ending with
  | ok a => exact iff_of_false Bool.false_ne_true fun ⟨_, h, _⟩ => nomatch h
  | error raised => simp [leaving]

theorem any_leaving_of_marksErrors {α : Type} {ending : Except Raised α} {provider : SpanProvider}
    (h : provider.MarksErrors) (raised : Raised) (hending : ending = .error raised)
    (herror : raised.problem.isUserInterrupt = false) :
    (leaving ending).any provider.marks = true :=
  any_leaving_iff.mpr ⟨raised, hending, h _ herror⟩

/-- What the span of a command tells. It has the code of the result if there is one, and it failed
if something was raised that the provider marks spans for, not if the program ended with another
code than 0. That is everything but the user's interrupt where the provider documents so. -/
structure Told (host : Host σ) (provider : SpanProvider) (around : Span) (e : Errand σ) (s : Span) :
    Prop where
  name : s.name = "cmakebuild.run"
  parent : s.parent = some around.number
  attributes : s.attributes = runAttributes provider e.spec (e.answer host)
  program : provider.Roomy → s.attributes.lookup "program" = some (.text e.spec.program)
  returnCode : provider.Roomy → s.attributes.lookup "returncode" =
    (e.answer host).toOption.map fun result => .integer result.returnCode
  failed : s.failed = true ↔
    ∃ raised, e.answer host = .error raised ∧ provider.marks raised.problem = true
  errors : provider.MarksErrors → ∀ raised, e.answer host = .error raised →
    raised.problem.isUserInterrupt = false → s.failed = true

/-- What the span of a run tells. It failed if something was raised that the provider marks spans
for, not if the outcome is a failure. That is everything but the user's interrupt where the provider
documents so. -/
structure RunTold (provider : SpanProvider) (request : Request) (w : World σ)
    (ended : Except Raised Outcome) (s : Span) : Prop where
  name : s.name = "cmakebuild.pipeline"
  parent : s.parent = w.tracing.around
  attributes : s.attributes = provider.start [("target", .text (request.target.getD ""))]
  target : provider.Roomy → s.attributes = [("target", .text (request.target.getD ""))]
  failed : s.failed = true ↔
    ∃ raised, ended = .error raised ∧ provider.marks raised.problem = true
  errors : provider.MarksErrors → ∀ raised, ended = .error raised →
    raised.problem.isUserInterrupt = false → s.failed = true

theorem runAttributes_of_roomy {provider : SpanProvider} (h : provider.Roomy) (spec : CommandSpec)
    (answer : Except Raised CommandResult) :
    runAttributes provider spec answer = ("program", .text spec.program) ::
      (answer.toOption.map fun result =>
        ("returncode", AttributeValue.integer result.returnCode)).toList := by
  unfold runAttributes
  rw [h.start _ _ (by decide)]
  cases answer with
  | error raised => rfl
  | ok result => exact h.set _ _ _ _ (by decide) (by decide)

theorem told_span (host : Host σ) (provider : SpanProvider) (around : Span) (number : Nat)
    (e : Errand σ) : Told host provider around e (e.span host provider number around.number) where
  name := rfl
  parent := rfl
  attributes := rfl
  program h := by
    change (runAttributes provider e.spec (e.answer host)).lookup "program" = _
    rw [runAttributes_of_roomy h]
    rfl
  returnCode h := by
    change (runAttributes provider e.spec (e.answer host)).lookup "returncode" = _
    rw [runAttributes_of_roomy h]
    cases e.answer host <;> rfl
  failed := any_leaving_iff
  errors := any_leaving_of_marksErrors

theorem forall₂_told_spansFrom (host : Host σ) (provider : SpanProvider) (around : Span)
    (number : Nat) (errands : List (Errand σ)) :
    List.Forall₂ (Told host provider around) errands
      (spansFrom host provider (some around.number) number errands) := by
  induction errands generalizing number with
  | nil => exact .nil
  | cons e rest ih => exact .cons (told_span host provider around number e) (ih (number + 1))

/-- The spans of a run that is recorded. Its commands are handed out one after the other, when the
output directory was made. For each of them whose directory can be used there is a span, in their
order, inside that of the run, which comes last and has a number of its own. -/
theorem execute_spans (p : Pipeline) (host : Host σ) (request : Request) {w : World σ}
    {provider : SpanProvider} (hobserved : w.Observed provider) (hrecords : provider.Records)
    (hclock : w.buildClock.InMilliseconds) (hcommand : w.commandClock.InMilliseconds) :
    ∃ (errands : List (Errand σ)) (ended : Except Raised Outcome) (w' : World σ)
      (runs : List Span) (last : Span),
      execute p (Supervision.run host) request w = (ended, w') ∧
      w'.issued = w.issued ++ errands.map (·.spec) ∧
      w'.answers = w.answers ++ errands.map (·.answer host) ∧
      Errand.Handed host (prepare request.source request.output w).2 errands ∧
      w'.launched = w.launched ++ (placedOf errands).map (·.launch host) ∧
      w'.tracing = w.tracing.recorded (runs ++ [last]) ∧
      last.number = w.tracing.begun ∧
      runs.map (·.number) = List.range' (last.number + 1) runs.length ∧
      List.Forall₂ (Told host provider last) (placedOf errands) runs ∧
      RunTold provider request w ended last := by
  obtain ⟨errands, ended, w', hexecute, hissued, hanswers, hhanded, hlaunched, htracing⟩ :=
    execute_leaves_spans p host request hobserved hrecords hclock hcommand
  refine ⟨errands, ended, w', _, _, hexecute, hissued, hanswers, hhanded, hlaunched, htracing,
    rfl, ?_, forall₂_told_spansFrom .., ?_⟩
  · rw [length_spansFrom, numbers_spansFrom]
    rfl
  · exact ⟨rfl, rfl, rfl, fun h => h.start _ _ (by decide), any_leaving_iff,
      any_leaving_of_marksErrors⟩

/-- The sample world with tracing switched on and a provider of the application. -/
def watchedWorld (provider : SpanProvider) : World Unit :=
  { sampleWorld with
    environment := [(Tracing.flagVariable, "1")]
    tracing := { provider := .application provider } }

theorem observed_watchedWorld (provider : SpanProvider) :
    (watchedWorld provider).Observed provider :=
  have hon : Tracing.enabled [(Tracing.flagVariable, "1")] = true := by decide
  ⟨rfl, .inr hon⟩

theorem execute_spans_chatty :
    ∃ (errands : List (Errand Unit)) (runs : List Span) (last : Span),
      (execute ⟨{}, 4, 2⟩ (Supervision.run chattyHost) sampleRequest
        (watchedWorld .plain)).2.tracing.finished = runs ++ [last] ∧
      List.Forall₂ (Told chattyHost .plain last) (placedOf errands) runs ∧
      runs.map (·.number) = [1, 2] ∧ last.number = 0 ∧
      last.name = "cmakebuild.pipeline" ∧ last.attributes = [("target", .text "all")] := by
  obtain ⟨errands, ended, w', runs, last, hexecute, -, -, -, -, htracing, hfirst, hnumbers, hruns,
      hlast⟩ :=
    execute_spans ⟨{}, 4, 2⟩ chattyHost sampleRequest (observed_watchedWorld .plain)
      SpanProvider.records_plain (inMilliseconds_still 0) (inMilliseconds_still 0)
  have hfinished : (execute ⟨{}, 4, 2⟩ (Supervision.run chattyHost) sampleRequest
      (watchedWorld .plain)).2.tracing.finished = runs ++ [last] := by
    rw [hexecute, htracing]
    exact List.nil_append _
  have hcount : (execute ⟨{}, 4, 2⟩ (Supervision.run chattyHost) sampleRequest
      (watchedWorld .plain)).2.tracing.finished.length = 3 := by decide +kernel
  rw [hfinished, List.length_append] at hcount
  have htwo : runs.length = 2 := Nat.succ.inj hcount
  rw [hfirst, htwo] at hnumbers
  exact ⟨errands, runs, last, hfinished, hruns, hnumbers, hfirst, hlast.name,
    hlast.target SpanProvider.roomy_plain⟩

/-- A machine on which the user interrupts every start of a program. -/
def interruptedHost : Host Unit := fun _ _ files tools =>
  (.error (.fault (.interrupt "")), files, tools)

/-- A provider that keeps the newest attribute of a span and no other. -/
def narrow : SpanProvider := { SpanProvider.plain with set := fun _ name value => [(name, value)] }

/-- The user's interrupt leaves both spans of a run, and a provider that marks spans for everything
else marks neither; a provider that keeps one attribute of a span keeps the code and not the
program. -/
theorem execute_spans_unmarked :
    (SpanProvider.plain.Records ∧ SpanProvider.plain.Roomy ∧ SpanProvider.plain.MarksErrors) ∧
      (∃ raised, (execute ⟨{}, 4, 2⟩ (Supervision.run interruptedHost) sampleRequest
        (watchedWorld .plain)).1 = .error raised) ∧
      (execute ⟨{}, 4, 2⟩ (Supervision.run interruptedHost) sampleRequest
        (watchedWorld .plain)).2.tracing.finished.map (fun s => (s.name, s.failed)) =
        [("cmakebuild.run", false), ("cmakebuild.pipeline", false)] ∧
      (execute ⟨{}, 4, 2⟩ (Supervision.run chattyHost) sampleRequest
        (watchedWorld narrow)).2.tracing.finished.map (·.attributes) =
        [[("returncode", .integer 0)], [("returncode", .integer 2)],
          [("target", .text "all")]] := by
  have hraises : (execute ⟨{}, 4, 2⟩ (Supervision.run interruptedHost) sampleRequest
      (watchedWorld .plain)).1.toOption.isNone = true := by decide +kernel
  refine ⟨⟨SpanProvider.records_plain, SpanProvider.roomy_plain, SpanProvider.marksErrors_plain⟩, ?_,
    by decide +kernel, by decide +kernel⟩
  cases hended : (execute ⟨{}, 4, 2⟩ (Supervision.run interruptedHost) sampleRequest
      (watchedWorld .plain)).1 with
  | error raised => exact ⟨raised, rfl⟩
  | ok outcome =>
    rw [hended] at hraises
    exact nomatch hraises

end Pipeline

end NativeBuild
