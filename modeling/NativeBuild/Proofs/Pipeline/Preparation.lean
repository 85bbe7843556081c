import NativeBuild.Proofs.FileTree.Growth
import NativeBuild.Proofs.Pipeline.Runner

/-
  The first part of a run: validation and the output directory. `prepare_apply` and
  `ensureOutput_apply` give it as a function of the platform, the files and the working directory,
  so it ends alike in worlds that differ in bookkeeping only (`World.Beside`, `prepare_beside`).
  `prepare_frame`: it lets the files grow, has at most one record for the caller, and changes
  nothing else.
-/

namespace NativeBuild

variable {σ : Type}

/-! ## Bookkeeping -/

/-- The second world is the first but for bookkeeping: the stage, the pipeline's clock, tracing and
the log. -/
structure World.Beside (w w' : World σ) : Prop where
  files : w'.files = w.files
  cwd : w'.cwd = w.cwd
  platform : w'.platform = w.platform
  environment : w'.environment = w.environment
  commandClock : w'.commandClock = w.commandClock
  issued : w'.issued = w.issued
  answers : w'.answers = w.answers
  launched : w'.launched = w.launched
  tools : w'.tools = w.tools

namespace World.Beside

theorem refl (w : World σ) : w.Beside w := ⟨rfl, rfl, rfl, rfl, rfl, rfl, rfl, rfl, rfl⟩

theorem trans {w₁ w₂ w₃ : World σ} (h : w₁.Beside w₂) (h' : w₂.Beside w₃) : w₁.Beside w₃ :=
  ⟨h'.files.trans h.files, h'.cwd.trans h.cwd, h'.platform.trans h.platform,
    h'.environment.trans h.environment, h'.commandClock.trans h.commandClock,
    h'.issued.trans h.issued, h'.answers.trans h.answers, h'.launched.trans h.launched,
    h'.tools.trans h.tools⟩

theorem of_traced {w w' : World σ} (h : Action.Traced w w') : w.Beside w' := by
  obtain ⟨tracing, records, rfl, -⟩ := h
  exact ⟨rfl, rfl, rfl, rfl, rfl, rfl, rfl, rfl, rfl⟩

theorem entered (w : World σ) (stage : Stage) (detail : String) :
    w.Beside (w.entered stage detail) := ⟨rfl, rfl, rfl, rfl, rfl, rfl, rfl, rfl, rfl⟩

theorem logged (w : World σ) (records : List Record) : w.Beside (w.logged records) :=
  ⟨rfl, rfl, rfl, rfl, rfl, rfl, rfl, rfl, rfl⟩

theorem ticked (w : World σ) : w.Beside w.ticked := ⟨rfl, rfl, rfl, rfl, rfl, rfl, rfl, rfl, rfl⟩

theorem base {w w' : World σ} (h : w.Beside w') (paths : List String) :
    w'.base paths = w.base paths := by
  unfold World.base
  rw [h.files, h.cwd]

theorem finds_iff {w w' : World σ} (h : w.Beside w') {paths : List String} :
    w'.Finds paths ↔ w.Finds paths := by
  unfold World.Finds
  rw [h.base]

end World.Beside

/-! ## Preparation -/

namespace Pipeline

open NativeBuild.Action

/-- What is said of an output directory that had to be made. -/
def madeRecord (output : String) : Record :=
  progress ("mkdirs '" ++ (Path.ofString output).toString ++ "'")

theorem filter_opening {output : String} {opening : List Record}
    (h : opening = [] ∨ opening = [madeRecord output]) :
    opening.filter (·.logger == .caller) = opening := by
  rcases h with rfl | rfl <;> rfl

/-- The making of an output directory: how it ends, the files after it and the records that it
leaves for the caller. -/
def outputMade (files : FileTree) (cwd : Location) (output : String) :
    Except Raised (Option Failure) × FileTree × List Record :=
  let path := Path.ofString output
  if '\x00' ∈ output.toList then (.error (.ofFault .embeddedNul), files, [])
  else
    match files.isDirectory cwd path.toString with
    | .error error => (.error (.ofFault (.system error)), files, [])
    | .ok true => (.ok none, files, [])
    | .ok false =>
      match files.makeDirectories cwd path with
      | (.ok (), made) => (.ok none, made, [madeRecord output])
      | (.error error, made) =>
        (.ok (some ⟨.configuration ("could not create output directory '" ++ path.toString ++ "'"),
          some (.fault (.system error))⟩), made, [])

/-- The world with other files. -/
def withFiles (w : World σ) (files : FileTree) : World σ := { w with files := files }

theorem ensureOutput_apply (output : String) (w : World σ) :
    ensureOutput output w =
      ((outputMade w.files w.cwd output).1,
        (withFiles w (outputMade w.files w.cwd output).2.1).logged
          (outputMade w.files w.cwd output).2.2) := by
  have hsame : w = (withFiles w w.files).logged [] := (World.logged_nil w).symm
  unfold ensureOutput outputMade
  dsimp only
  split
  · rw [raise_bind]
    exact congrArg _ hsame
  · change (look _ >>= _) w = _
    rw [look_bind]
    cases w.files.isDirectory w.cwd (Path.ofString output).toString with
    | error error => exact congrArg _ hsame
    | ok found =>
      cases found with
      | true => exact congrArg _ hsame
      | false =>
        rcases hm : w.files.makeDirectories w.cwd (Path.ofString output) with ⟨error | _, made⟩
        · have hmake : makeDirectories (Path.ofString output) w =
              (.ok (.error error), withFiles w made) := by
            unfold makeDirectories
            rw [hm]
            rfl
          dsimp only
          rw [bind_of_ok hmake]
          exact congrArg _ (World.logged_nil _).symm
        · have hmake : makeDirectories (Path.ofString output) w =
              (.ok (.ok ()), withFiles w made) := by
            unfold makeDirectories
            rw [hm]
            rfl
          dsimp only
          rw [bind_of_ok hmake]
          rfl

/-- Validation looks at the platform, the files and the working directory alone. -/
theorem validation_beside {w v : World σ} (h : w.Beside v) (source output : String) :
    validation v source output = validation w source output := by
  unfold validation
  rw [h.platform, h.files, h.cwd]

/-- What preparation comes to: a failure of validation, or that of making the output directory. -/
theorem prepare_apply (source output : String) (w : World σ) :
    prepare source output w =
      match validation w source output with
      | .error failure => (.ok (some failure), w)
      | .ok () => ensureOutput output w := by
  unfold prepare
  rw [look_bind]
  cases validation w source output <;> rfl

/-- Preparation ends alike in worlds that differ in bookkeeping. -/
theorem prepare_beside {w v : World σ} (h : w.Beside v) (source output : String) :
    (prepare source output v).1 = (prepare source output w).1 := by
  rw [prepare_apply, prepare_apply, validation_beside h]
  cases validation w source output with
  | error failure => rfl
  | ok _ =>
    dsimp only
    rw [ensureOutput_apply, ensureOutput_apply, h.files, h.cwd]

/-- Making the output directory removes nothing. -/
theorem grows_outputMade (files : FileTree) (cwd : Location) (output : String) :
    files.Grows (outputMade files cwd output).2.1 := by
  unfold outputMade
  dsimp only
  split
  · exact .refl files
  · split
    · exact .refl files
    · exact .refl files
    · have hgrows := files.grows_makeDirectories cwd (Path.ofString output)
      split
      · next made hmade =>
        rw [hmade] at hgrows
        exact hgrows
      · next error made hmade =>
        rw [hmade] at hgrows
        exact hgrows

/-- The making of an output directory has at most one record for the caller. -/
theorem records_outputMade (files : FileTree) (cwd : Location) (output : String) :
    (outputMade files cwd output).2.2 = [] ∨
      (outputMade files cwd output).2.2 = [madeRecord output] := by
  unfold outputMade
  dsimp only
  split
  · exact .inl rfl
  · split
    · exact .inl rfl
    · exact .inl rfl
    · split
      · exact .inr rfl
      · exact .inl rfl

/-- The records that the preparation of a run leaves in the caller's log. -/
def preparedRecords (request : Request) (w : World σ) : List Record :=
  match validation w request.source request.output with
  | .error _ => []
  | .ok () => (outputMade w.files w.cwd request.output).2.2

theorem prepare_callerLog (request : Request) (w : World σ) :
    (prepare request.source request.output w).2.callerLog =
      w.callerLog ++ preparedRecords request w := by
  unfold preparedRecords
  rw [prepare_apply]
  cases validation w request.source request.output with
  | error failure => exact (List.append_nil _).symm
  | ok _ =>
    dsimp only
    rw [ensureOutput_apply, World.callerLog_logged,
      filter_opening (records_outputMade w.files w.cwd request.output)]
    rfl

theorem preparedRecords_beside {w w₀ : World σ} (h : w.Beside w₀) (request : Request) :
    preparedRecords request w₀ = preparedRecords request w := by
  unfold preparedRecords
  rw [validation_beside h, h.files, h.cwd]

/-- Preparation lets the files grow, and adds nothing but its own record to the caller's log. -/
theorem prepare_frame (source output : String) (w : World σ) :
    ∃ files records, (prepare source output w).2 = (withFiles w files).logged records ∧
      w.files.Grows files ∧
      (records = [] ∨ records = [madeRecord output]) := by
  rw [prepare_apply]
  cases validation w source output with
  | error failure => exact ⟨w.files, [], (World.logged_nil w).symm, .refl _, .inl rfl⟩
  | ok _ =>
    dsimp only
    rw [ensureOutput_apply]
    exact ⟨_, _, rfl, grows_outputMade _ _ _, records_outputMade _ _ _⟩

theorem prepare_cwd (source output : String) (w : World σ) :
    (prepare source output w).2.cwd = w.cwd := by
  obtain ⟨files, records, hw, -⟩ := prepare_frame source output w
  rw [hw]
  rfl

theorem prepare_buildClock (source output : String) (w : World σ) :
    (prepare source output w).2.buildClock = w.buildClock := by
  obtain ⟨files, records, hw, -⟩ := prepare_frame source output w
  rw [hw]
  rfl

/-- The second world is the first once the output directory is there: the files have grown, the
opening has been written to the caller's log, and there was bookkeeping. -/
structure Opened (opening : List Record) (w w' : World σ) : Prop where
  files : w.files.Grows w'.files
  cwd : w'.cwd = w.cwd
  platform : w'.platform = w.platform
  environment : w'.environment = w.environment
  commandClock : w'.commandClock = w.commandClock
  issued : w'.issued = w.issued
  answers : w'.answers = w.answers
  launched : w'.launched = w.launched
  tools : w'.tools = w.tools
  callerLog : w'.callerLog = w.callerLog ++ opening

/-- Preparation opens a run. -/
theorem prepare_opened {w w₀ : World σ} (hb : w.Beside w₀) (hc : w₀.callerLog = w.callerLog)
    (source output : String) :
    ∃ opening, (opening = [] ∨ opening = [madeRecord output]) ∧
      Opened opening w (prepare source output w₀).2 := by
  obtain ⟨files, opening, hw, hgrows, hopening⟩ := prepare_frame source output w₀
  have hlog : ((withFiles w₀ files).logged opening).callerLog = w.callerLog ++ opening := by
    rw [World.callerLog_logged, filter_opening hopening, ← hc]
    rfl
  rw [hw]
  exact ⟨opening, hopening, hb.files ▸ hgrows, hb.cwd, hb.platform, hb.environment,
    hb.commandClock, hb.issued, hb.answers, hb.launched, hb.tools, hlog⟩

end Pipeline

end NativeBuild
