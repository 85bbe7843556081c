import NativeBuild.Proofs.Pipeline.Course

/-
  Runners that leave the pipeline's own affairs alone: its books of commands and answers
  (`KeepsBooks`), the log of the caller (`KeepsCallerLog`), the stage (`KeepsStage`) and the clock
  (`KeepsClock`). What such a runner keeps at every call it keeps over a run: the books and the log
  then hold what the exchanges put there, and nothing else.
-/

namespace NativeBuild

variable {σ : Type}

/-- The paths have a place to start. -/
def World.Finds (w : World σ) (paths : List String) : Prop := ∃ here, w.base paths = .ok here

theorem World.base_eq {w : World σ} {paths : List String} {here : Path}
    (h : w.base paths = .ok here) : here = .ofLocation w.cwd := by
  unfold base at h
  split at h
  · cases h
  · cases h
    rfl

theorem World.base_eq_error {w : World σ} {paths : List String} {fault : Fault}
    (h : w.base paths = .error fault) : fault = .system (.plain .noEntry) := by
  unfold base at h
  split at h <;> cases h
  rfl

theorem World.not_finds {w : World σ} {paths : List String} {fault : Fault}
    (h : w.base paths = .error fault) : ¬ w.Finds paths := by
  rintro ⟨here, hbase⟩
  cases h.symm.trans hbase

namespace Runner

/-- The commands and answers of the pipeline are not touched. -/
structure KeepsBooks (runner : Runner σ) : Prop where
  issued : ∀ spec w, (runner spec w).2.issued = w.issued
  answers : ∀ spec w, (runner spec w).2.answers = w.answers

/-- Nothing is written to the log of the caller. -/
def KeepsCallerLog (runner : Runner σ) : Prop :=
  ∀ spec w, (runner spec w).2.callerLog = w.callerLog

/-- The stage of the pipeline is not touched. -/
def KeepsStage (runner : Runner σ) : Prop := ∀ spec w, (runner spec w).2.stage = w.stage

/-- The clock of the pipeline may be read, but it goes on as before. -/
def KeepsClock (runner : Runner σ) : Prop :=
  ∀ spec w, (runner spec w).2.buildClock.reading = w.buildClock.reading

/-- A runner that answers from the command alone and leaves the world as it is. -/
def answering (answer : CommandSpec → Except Raised CommandResult) : Runner σ :=
  fun spec w => (answer spec, w)

variable (answer : CommandSpec → Except Raised CommandResult)

theorem keepsBooks_answering : (answering answer : Runner σ).KeepsBooks :=
  ⟨fun _ _ => rfl, fun _ _ => rfl⟩

theorem keepsCallerLog_answering : (answering answer : Runner σ).KeepsCallerLog := fun _ _ => rfl

theorem keepsStage_answering : (answering answer : Runner σ).KeepsStage := fun _ _ => rfl

theorem keepsClock_answering : (answering answer : Runner σ).KeepsClock := fun _ _ => rfl

end Runner

/-! ## A sample build -/

/-- A build of `/src` in `/out`, in a world where both are there. -/
def sampleRequest : Request := ⟨"/src", "/out", [], [("CC", some "gcc")], some "all"⟩

/-- A tool that writes a line to each of its streams and ends with a code at once. -/
def sampleResult (spec : CommandSpec) (code : Int) : CommandResult where
  command := spec.arguments
  returnCode := code
  stdout := .final "stdout" ["out of " ++ spec.program]
  stderr := if spec.mergeStderr then none else some (.final "stderr" ["trouble"])
  duration := 0.25

/-! ## One exchange -/

namespace Exchange

variable {runner : Runner σ} {passes : Nat} {e : Exchange} {w w' : World σ}

theorem filter_heading (passes : Nat) (step : Step) (spec : CommandSpec) :
    (Pipeline.heading passes step spec).filter (·.logger == .caller) =
      Pipeline.heading passes step spec := by
  cases step <;> rfl

theorem filter_closing (e : Exchange) : e.closing.filter (·.logger == .caller) = e.closing := by
  have hfinish : e.finish.filter (·.logger == .caller) = e.finish := by
    unfold finish
    split
    · split <;> rfl
    · rfl
  unfold closing
  rw [List.filter_append, hfinish, List.filter_eq_self.mpr]
  intro record hmem
  obtain ⟨line, -, rfl⟩ := List.mem_map.mp hmem
  rfl

/-- The world that the runner leaves. -/
theorem Leads.eq_settled (h : e.Leads runner passes w w') :
    w' = e.settled (runner e.spec (e.asked passes w)).2 := by
  obtain ⟨a, ha, rfl⟩ := h
  rw [ha]

theorem Leads.answer_eq (h : e.Leads runner passes w w') :
    e.answer = (runner e.spec (e.asked passes w)).1 := by
  obtain ⟨a, ha, -⟩ := h
  rw [ha]

theorem Leads.issued (hk : runner.KeepsBooks) (h : e.Leads runner passes w w') :
    w'.issued = w.issued ++ [e.spec] := by
  rw [h.eq_settled]
  exact hk.issued e.spec (e.asked passes w)

theorem Leads.answers (hk : runner.KeepsBooks) (h : e.Leads runner passes w w') :
    w'.answers = w.answers ++ [e.answer] := by
  rw [h.eq_settled]
  exact congrArg (· ++ [e.answer]) (hk.answers e.spec (e.asked passes w))

theorem callerLog_asked (e : Exchange) (passes : Nat) (w : World σ) :
    (e.asked passes w).callerLog = w.callerLog ++ Pipeline.heading passes e.step e.spec := by
  unfold asked
  rw [World.callerLog_issuing, World.callerLog_logged, World.callerLog_entered, filter_heading]

theorem callerLog_settled (e : Exchange) (w : World σ) :
    (e.settled w).callerLog = w.callerLog ++ e.closing := by
  unfold settled
  rw [World.callerLog_logged, World.callerLog_answered, filter_closing]

theorem environment_settled (e : Exchange) (w : World σ) :
    (e.settled w).environment = w.environment := rfl

theorem launched_settled (e : Exchange) (w : World σ) :
    (e.settled w).launched = w.launched := rfl

theorem Leads.callerLog (hk : runner.KeepsCallerLog) (h : e.Leads runner passes w w') :
    w'.callerLog = w.callerLog ++ e.records passes := by
  rw [h.eq_settled, callerLog_settled, hk, callerLog_asked, List.append_assoc]
  rfl

theorem Leads.stage (hk : runner.KeepsStage) (h : e.Leads runner passes w w') :
    w'.stage = stageOf e.step := by
  rw [h.eq_settled]
  exact hk e.spec (e.asked passes w)

theorem Leads.reading (hk : runner.KeepsClock) (h : e.Leads runner passes w w') :
    w'.buildClock.reading = w.buildClock.reading := by
  rw [h.eq_settled]
  exact hk e.spec (e.asked passes w)

theorem Leads.cwd (hk : ∀ spec v, (runner spec v).2.cwd = v.cwd)
    (h : e.Leads runner passes w w') : w'.cwd = w.cwd := by
  rw [h.eq_settled]
  exact hk e.spec (e.asked passes w)

end Exchange

/-! ## A run -/

namespace Performed

variable {runner : Runner σ} {passes : Nat} {w w' : World σ} {es : List Exchange}

theorem issued (hk : runner.KeepsBooks) (h : Performed runner passes w es w') :
    w'.issued = w.issued ++ es.map (·.spec) := by
  rw [List.map_eq_flatMap]
  exact h.appends_flatMap fun _ _ _ => Exchange.Leads.issued hk

theorem answers (hk : runner.KeepsBooks) (h : Performed runner passes w es w') :
    w'.answers = w.answers ++ es.map (·.answer) := by
  rw [List.map_eq_flatMap]
  exact h.appends_flatMap fun _ _ _ => Exchange.Leads.answers hk

theorem callerLog (hk : runner.KeepsCallerLog) (h : Performed runner passes w es w') :
    w'.callerLog = w.callerLog ++ es.flatMap (·.records passes) :=
  h.appends_flatMap fun _ _ _ => Exchange.Leads.callerLog hk

/-- The stage after a run is that of its last exchange. -/
theorem stage (hk : runner.KeepsStage) (h : Performed runner passes w es w') :
    w'.stage = (es.getLast?.map fun e => stageOf e.step).getD w.stage := by
  induction h with
  | nil w => rfl
  | @cons _ _ _ e es hlead _ ih =>
    rw [ih, hlead.stage hk]
    cases hlast : es.getLast? <;> simp [List.getLast?_cons, hlast]

theorem reading (hk : runner.KeepsClock) (h : Performed runner passes w es w') :
    w'.buildClock.reading = w.buildClock.reading :=
  h.keeps (fun _ _ _ hlead hv => (hlead.reading hk).trans hv) rfl

end Performed

end NativeBuild
