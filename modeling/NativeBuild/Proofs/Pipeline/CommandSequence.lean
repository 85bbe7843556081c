import NativeBuild.Proofs.Pipeline.Execution

/-
  The commands of a whole run. Once the directories are in order, a run hands out the configure
  command and then the compile command once for each pass, and stops after the first call that did
  not return code 0. So `make` never runs after a `cmake` that failed, no pass after one that
  failed, none is left out, and the run succeeds when all calls returned code 0
  (`execute_issues_leading`). Only without a working directory may it stop earlier, before a command
  with a path that starts there (`Stranded`). The runner may do anything at a call but end it with a
  fault; it must leave the pipeline's books and clock alone.
-/

namespace NativeBuild

variable {σ : Type}

namespace Pipeline

/-- An ending succeeds when every exchange passed. -/
theorem success_iff {es : List Exchange} {plan : List (Step × CommandSpec)} {ending : Ending}
    (hc : Course plan es) (h : endingAfter [] es = .ok ending) (elapsed : Float) :
    (outcomeOf elapsed ending).success = true ↔ ∀ e ∈ es, e.verdict = .ok none := by
  cases ending with
  | passed all => exact ⟨fun _ => (endingAfter_passed h).1, fun _ => rfl⟩
  | failed step all evidence failure =>
    obtain ⟨before, e, rfl, -, hlast, -⟩ := endingAfter_failed hc h
    constructor
    · intro hsuccess
      cases hsuccess
    · intro hall
      rw [hall e (by simp)] at hlast
      cases hlast

/-- How the runner ends the commands of a run, in order. -/
def answersOf (p : Pipeline) (runner : Runner σ) (request : Request) (w : World σ) :
    List (Except Raised CommandResult) :=
  (execute p runner request w).2.answers.drop w.answers.length

section Answers

variable {p : Pipeline} {runner : Runner σ} {request : Request} {w w' : World σ}

theorem answersOf_eq (hbooks : runner.KeepsBooks) {w₀ w₁ w' : World σ} {es : List Exchange}
    {ending : Except Raised Ending} {ended : Except Raised Outcome} (hb₀ : w.Beside w₀)
    (hway : Way p runner request w₀ es ending w₁) (hb₁ : w₁.Beside w')
    (hexecute : execute p runner request w = (ended, w')) :
    p.answersOf runner request w = es.map (·.answer) := by
  unfold answersOf
  rw [hexecute, hb₁.answers, hway.answers hbooks, hb₀.answers, List.drop_left]

/-- The next command of a run is not to be had: the calls so far returned code 0, the working
directory is gone, and one of the paths of the command starts there. -/
inductive Stranded (request : Request) (w : World σ) : List (Except Raised CommandResult) → Prop
  | atConfigure (hlost : ¬ w.Finds [request.source, request.output]) : Stranded request w []
  | atFirstPass {answer : Except Raised CommandResult} (hzero : returnedZero answer = true)
      (hlost : ¬ w.Finds [request.output]) : Stranded request w [answer]

theorem Stranded.beside {answers : List (Except Raised CommandResult)}
    (h : Stranded request w answers) (hb : w.Beside w') : Stranded request w' answers := by
  cases h with
  | atConfigure hlost => exact .atConfigure (mt hb.finds_iff.mp hlost)
  | atFirstPass hzero hlost => exact .atFirstPass hzero (mt hb.finds_iff.mp hlost)

/-- Steps whose directories are in order follow the plan to an ending, or are stranded. -/
theorem Way.follows_or_strands {es : List Exchange} {ending : Except Raised Ending}
    (hprep : (prepare request.source request.output w).1 = .ok none)
    (h : Way p runner request w es ending w') :
    (∃ here there, Course (p.plan request here there) es ∧ ending = endingAfter [] es) ∨
      Stranded request w' (es.map (·.answer)) ∧ ∃ raised, ending = .error raised := by
  cases h with
  | unprepared h | refused h =>
    rw [h] at hprep
    cases hprep
  | lost _ hbase => exact .inr ⟨.atConfigure (World.not_finds hbase), _, rfl⟩
  | strayed _ _ _ hpassed _ hbase =>
    exact .inr ⟨.atFirstPass (Exchange.returnedZero_of_passed hpassed) (World.not_finds hbase),
      _, rfl⟩
  | ran _ _ hcourse => exact .inl ⟨_, _, hcourse, rfl⟩

/-- What steps come to whose directories are in order and whose calls are all settled. -/
theorem Way.leads {es : List Exchange} {ending : Except Raised Ending} {elapsed : Float} {ms : Int}
    (hprep : (prepare request.source request.output w).1 = .ok none)
    (hsettled : ∀ e ∈ es, Settled e.answer) (hms : milliseconds elapsed = .ok ms)
    (h : Way p runner request w es ending w') :
    (es.length = min (p.passes + 1) (1 + ((es.map (·.answer)).takeWhile returnedZero).length) ∧
        (∃ outcome, (conclusion elapsed ending).1 = .ok outcome) ∨
      Stranded request w' (es.map (·.answer))) ∧
    ∀ outcome, (conclusion elapsed ending).1 = .ok outcome →
      (outcome.success = true ↔ es.length = p.passes + 1 ∧
        ∀ answer ∈ es.map (·.answer), returnedZero answer = true) := by
  obtain ⟨here, there, hcourse, rfl⟩ | ⟨hstranded, raised, rfl⟩ := h.follows_or_strands hprep
  · have hverdicts := fun (e : Exchange) (he : e ∈ es) =>
      Exchange.verdict_of_settled (hsettled e he)
    have hlength := hcourse.length_eq fun e he => (hverdicts e he).2
    rw [length_plan] at hlength
    obtain ⟨ending, hending⟩ := endingAfter_isOk (fun e he => (hverdicts e he).1) []
    have houtcome := conclusion_of_ok ending hms
    rw [← hending] at houtcome
    refine ⟨.inl ⟨hlength, _, houtcome⟩, fun outcome h => ?_⟩
    cases houtcome.symm.trans h
    rw [success_iff hcourse hending]
    constructor
    · intro hall
      refine ⟨(hcourse.length_of_passed hall).trans (length_plan _ _ _ _), ?_⟩
      intro answer hmem
      obtain ⟨e, he, rfl⟩ := List.mem_map.mp hmem
      exact Exchange.returnedZero_of_passed (hall e he)
    · rintro ⟨-, hall⟩ e he
      exact (hverdicts e he).2 (hall e.answer (List.mem_map_of_mem he))
  · exact ⟨.inr hstranded, fun outcome h => nomatch h⟩

end Answers

/-- A run hands out the leading commands of its plan, up to the first that did not return code 0,
and succeeds when all of them did. It hands out fewer only where it is stranded. -/
theorem execute_issues_leading (p : Pipeline) {runner : Runner σ} {request : Request} {w : World σ}
    (hprep : (prepare request.source request.output w).1 = .ok none)
    (hclock : w.buildClock.InMilliseconds)
    (hsettled : ∀ answer ∈ p.answersOf runner request w, Settled answer)
    (hbooks : runner.KeepsBooks) (hkeeps : runner.KeepsClock) :
    ∃ ended w' there k,
      execute p runner request w = (ended, w') ∧
      w'.issued = w.issued ++ (p.configureSpec request w.cwd ::
        List.replicate p.passes (p.compileSpec request there)).take k ∧
      (p.answersOf runner request w).length = k ∧
      (k = min (p.passes + 1)
          (1 + ((p.answersOf runner request w).takeWhile returnedZero).length) ∧
        (∃ outcome, ended = .ok outcome) ∨ Stranded request w' (p.answersOf runner request w)) ∧
      (∀ outcome, ended = .ok outcome → (outcome.success = true ↔ k = p.passes + 1 ∧
        ∀ answer ∈ p.answersOf runner request w, returnedZero answer = true)) ∧
      ((p.configureSpec request w.cwd).overlay = request.environment ∧
        (p.compileSpec request there).overlay = []) ∧
      ((p.configureSpec request w.cwd).mergeStderr = true ∧
        (p.compileSpec request there).mergeStderr = false) ∧
      ((p.configureSpec request w.cwd).directory =
          (Path.ofLocation w.cwd).absolute (.ofString request.output) ∧
        (p.compileSpec request there).directory =
          (Path.ofLocation there).absolute (.ofString request.output)) ∧
      ((∀ spec v, (runner spec v).2.cwd = v.cwd) → there = w.cwd) := by
  obtain ⟨w₀, w₁, w', es, ended, ht, hway, hcloses, hexecute⟩ := execute_way p runner request w
  have hb₀ : w.Beside w₀ := beside_begun ht
  have hanswers := answersOf_eq hbooks hb₀ hway hcloses.beside hexecute
  have hissued : w'.issued = w.issued ++ es.map (·.spec) := by
    rw [hcloses.beside.issued, hway.issued hbooks, hb₀.issued]
  obtain ⟨there, hplan, hstay⟩ := hway.follows_plan
  rw [hb₀.cwd] at hplan hstay
  have hspecs := congrArg (List.map Prod.snd) hplan
  rw [List.map_map, List.map_take, map_snd_plan] at hspecs
  rw [hanswers] at hsettled ⊢
  obtain ⟨ms, hms⟩ := hway.elapsed hkeeps hclock ht
  obtain ⟨hleads, hsuccess⟩ := hway.leads
    ((prepare_beside hb₀ request.source request.output).trans hprep)
    (fun e he => hsettled e.answer (List.mem_map_of_mem he)) hms
  exact ⟨_, w', there, es.length, hexecute, hissued.trans (congrArg (w.issued ++ ·) hspecs),
    List.length_map _, hleads.imp_right (·.beside hcloses.beside), hsuccess, ⟨rfl, rfl⟩,
    ⟨rfl, rfl⟩, ⟨rfl, rfl⟩, hstay⟩

/-- `cmake` passes and `make` does not. -/
def makeFails (spec : CommandSpec) : Except Raised CommandResult :=
  .ok (sampleResult spec (if spec.program = "make" then 2 else 0))

theorem execute_issues_leading_makeFails :
    ∃ outcome w' there,
      execute ⟨{}, 4, 3⟩ (Runner.answering makeFails) sampleRequest sampleWorld =
        (.ok outcome, w') ∧
      w'.issued = (configureSpec ⟨{}, 4, 3⟩ sampleRequest [] ::
        List.replicate 3 (compileSpec ⟨{}, 4, 3⟩ sampleRequest there)).take 2 ∧
      outcome.success = false := by
  have hprep : (prepare sampleRequest.source sampleRequest.output sampleWorld).1 = .ok none := by
    rfl
  have hquarter : milliseconds 0.25 = .ok 250 := by rfl
  obtain ⟨configured, compiled, hanswers⟩ : ∃ configured compiled, answersOf ⟨{}, 4, 3⟩
      (Runner.answering makeFails) sampleRequest sampleWorld =
        [makeFails configured, makeFails compiled] := ⟨_, _, rfl⟩
  have hsettled : ∀ answer ∈ answersOf ⟨{}, 4, 3⟩ (Runner.answering makeFails) sampleRequest
      sampleWorld, Settled answer := by
    rw [hanswers]
    intro answer hmem
    rcases List.mem_pair.mp hmem with rfl | rfl <;> exact ⟨250, hquarter⟩
  obtain ⟨ended, w', there, k, hexecute, hissued, hlength, hleads, hsuccess, -⟩ :=
    execute_issues_leading ⟨{}, 4, 3⟩ hprep (inMilliseconds_still 0) hsettled
      (Runner.keepsBooks_answering makeFails) (Runner.keepsClock_answering makeFails)
  rw [hanswers] at hlength hleads hsuccess
  have htwo : k = 2 := hlength.symm
  subst htwo
  obtain ⟨-, outcome, rfl⟩ | hstranded := hleads
  · exact ⟨outcome, w', there, hexecute, hissued, Bool.eq_false_iff.mpr fun h =>
      absurd ((hsuccess outcome rfl).mp h).1 (by decide)⟩
  · cases hstranded

/-- A world whose working directory has been removed, with a link to the sources. -/
def goneWorld : World Unit :=
  { sampleWorld with
    cwd := ["gone"]
    files := ⟨[⟨["src"], 2, .directory 0o755⟩, ⟨["out"], 3, .directory 0o755⟩,
      ⟨["link"], 4, .link "/src"⟩], 5, 0, []⟩ }

/-- The sources are reached through the parent of the working directory. -/
def goneRequest : Request := { sampleRequest with source := "../link" }

/-- Without its working directory a run with its directories in order does not even hand out the
configure command. -/
theorem execute_issues_none :
    (prepare goneRequest.source goneRequest.output goneWorld).1 = .ok none ∧
      goneWorld.buildClock.InMilliseconds ∧
      answersOf ⟨{}, 4, 3⟩ (Runner.answering makeFails) goneRequest goneWorld = [] ∧
      ¬ ∃ here there, (execute ⟨{}, 4, 3⟩ (Runner.answering makeFails) goneRequest
        goneWorld).2.issued =
          (configureSpec ⟨{}, 4, 3⟩ goneRequest here ::
            List.replicate 3 (compileSpec ⟨{}, 4, 3⟩ goneRequest there)).take
              (min (3 + 1) (1 + (([] : List (Except Raised CommandResult)).takeWhile
                returnedZero).length)) := by
  have hnone : (execute ⟨{}, 4, 3⟩ (Runner.answering makeFails) goneRequest
      goneWorld).2.issued.length = 0 := by decide +kernel
  have hanswers : (answersOf ⟨{}, 4, 3⟩ (Runner.answering makeFails) goneRequest
      goneWorld).length = 0 := by decide +kernel
  have hready : (prepare goneRequest.source goneRequest.output goneWorld).1.toOption.any
      (·.isNone) = true := by decide +kernel
  have hprep : (prepare goneRequest.source goneRequest.output goneWorld).1 = .ok none := by
    rcases hended : (prepare goneRequest.source goneRequest.output goneWorld).1 with
      raised | _ | failure
    · rw [hended] at hready
      exact nomatch hready
    · rfl
    · rw [hended] at hready
      exact nomatch hready
  refine ⟨hprep, inMilliseconds_still 0, List.length_eq_zero_iff.mp hanswers, ?_⟩
  rintro ⟨here, there, hissued⟩
  have hone := hnone.symm.trans (congrArg List.length hissued)
  simp at hone

end Pipeline

end NativeBuild
