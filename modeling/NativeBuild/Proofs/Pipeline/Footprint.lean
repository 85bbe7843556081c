import NativeBuild.Proofs.FileTree.Making
import NativeBuild.Proofs.Pipeline.Directories
import NativeBuild.Proofs.Pipeline.Life

/-
  What calls of a pipeline leave in the files. A call makes the output directory with its missing
  parents, or nothing; everything else that files are changed by is in the commands. With a runner
  that leaves the files alone they are, after a run, what its preparation made of them
  (`execute_files`): all that was there is there, and what is new are the directories on the way of
  the output path. The record of the making opens the run, and stands there just when something was
  made (`execute_announces`). `call_leaves_footprint` says it of every call.
-/

namespace NativeBuild

open NativeBuild.Path

variable {σ : Type}

/-! ## Runners -/

/-- The files are not touched. -/
def Runner.KeepsFiles (runner : Runner σ) : Prop := ∀ spec w, (runner spec w).2.files = w.files

theorem Runner.keepsFiles_answering (answer : CommandSpec → Except Raised CommandResult) :
    (answering answer : Runner σ).KeepsFiles := fun _ _ => rfl

theorem Exchange.Leads.files {runner : Runner σ} {passes : Nat} {e : Exchange} {w w' : World σ}
    (hk : runner.KeepsFiles) (h : e.Leads runner passes w w') : w'.files = w.files := by
  rw [h.eq_settled]
  exact hk e.spec (e.asked passes w)

theorem Performed.files {runner : Runner σ} {passes : Nat} {es : List Exchange} {w w' : World σ}
    (hk : runner.KeepsFiles) (h : Performed runner passes w es w') : w'.files = w.files :=
  h.keeps (P := fun v => v.files = w.files) (fun _ _ _ hlead hv => (hlead.files hk).trans hv) rfl

/-! ## Records of a making -/

/-- How a record of the making of a directory begins. -/
def making : String := "mkdirs '"

/-- A record of the making of a directory, whichever it is. -/
def Record.TellsMaking (r : Record) : Prop :=
  r.level = .info ∧ making.toList <+: r.message.toList

theorem Record.not_tellsMaking {r : Record} (start : String) {rest : String}
    (h : r.message = start ++ rest)
    (hother : ¬ making.toList <+: start.toList ∧ ¬ start.toList <+: making.toList) :
    ¬ r.TellsMaking := by
  rintro ⟨-, hmaking⟩
  rw [h, String.toList_append] at hmaking
  rcases List.prefix_or_prefix_of_prefix hmaking (List.prefix_append _ _) with hmore | hless
  · exact hother.1 hmore
  · exact hother.2 hless

namespace Pipeline

theorem tellsMaking_madeRecord (output : String) : (madeRecord output).TellsMaking := by
  refine ⟨rfl, ?_⟩
  have htext : (madeRecord output).message = making ++ ((ofString output).toString ++ "'") :=
    String.append_assoc
  rw [htext, String.toList_append]
  exact List.prefix_append _ _

/-- The records of an exchange tell of no making: its command is running, something is repeated as a
warning, or its step has passed. -/
theorem not_tellsMaking_of_mem_records {passes : Nat} {e : Exchange} {r : Record}
    (h : r ∈ e.records passes) : ¬ r.TellsMaking := by
  rcases List.mem_append.mp h with hheading | hclosing
  · have hrunning : ∀ rest, ¬ (progress ("Running " ++ rest)).TellsMaking := fun rest =>
      Record.not_tellsMaking "Running " rfl (by decide)
    have hvariables : ∀ rest,
        ¬ (progress ("with extra environment variables " ++ rest)).TellsMaking := fun rest =>
      Record.not_tellsMaking "with extra environment variables " rfl (by decide)
    unfold heading at hheading
    split at hheading
    · rw [List.mem_singleton.mp hheading, String.append_assoc, String.append_assoc,
        String.append_assoc, String.append_assoc, String.append_assoc]
      exact hrunning _
    · rcases List.mem_pair.mp hheading with rfl | rfl
      · exact hrunning _
      · exact hvariables _
  · rcases List.mem_append.mp hclosing with hwarning | hfinish
    · obtain ⟨line, -, rfl⟩ := List.mem_map.mp hwarning
      rintro ⟨hlevel, -⟩
      cases hlevel
    · unfold Exchange.finish at hfinish
      split at hfinish
      · split at hfinish
        · rw [List.mem_singleton.mp hfinish]
          unfold finishText
          split
          · rw [String.append_assoc, String.append_assoc, String.append_assoc]
            exact Record.not_tellsMaking "make pass " rfl (by decide)
          · rw [String.append_assoc]
            exact Record.not_tellsMaking "cmake finished in " rfl (by decide)
        · cases hfinish
      · cases hfinish

theorem not_tellsMaking_of_mem_conclusion {elapsed : Float} {ending : Except Raised Ending}
    {r : Record} (h : r ∈ (conclusion elapsed ending).2) : ¬ r.TellsMaking := by
  unfold conclusion at h
  split at h
  · cases h
  · rw [List.mem_singleton.mp h]
    rintro ⟨hlevel, -⟩
    cases hlevel
  · split at h
    · rw [List.mem_singleton.mp h, successRecord, String.append_assoc]
      exact Record.not_tellsMaking "cmake compilation finished successfully in " rfl (by decide)
    · cases h

/-! ## The making of the output directory -/

variable {files : FileTree} {cwd : Location} {output : String}

/-- The names of a text without NUL, `..` aside, are ones that a file may have. -/
theorem legal_names (hnul : '\x00' ∉ output.toList) :
    ∀ name ∈ (ofString output).names, name ≠ ".." → Legal name :=
  fun _ hname hup => legal_of_mem_names hnul hname hup

/-- The making of the output directory adds what it takes on the way of the path, and nothing else,
also when it fails. -/
theorem paved_outputMade (hlegal : files.NamesLegal) :
    files.Paved (outputMade files cwd output).2.1 cwd (ofString output) := by
  unfold outputMade
  dsimp only
  split
  · exact .refl hlegal
  next hnul =>
  split
  · exact .refl hlegal
  · exact .refl hlegal
  · have hpaved : files.Paved (files.makeDirectories cwd (ofString output)).2 cwd (ofString output) :=
      FileTree.paved_makeDirectories hlegal (legal_names hnul)
    split
    · next made hmade =>
      rw [hmade] at hpaved
      exact hpaved
    · next error made hmade =>
      rw [hmade] at hpaved
      exact hpaved

/-- The output directory was there already and nothing was done, or it was made with something new,
and the record says so. -/
inductive Furnishing (files : FileTree) (cwd : Location) (output : String) :
    FileTree → List Record → Prop where
  | there (hfound : files.isDirectory cwd (ofString output).toString = .ok true) :
      Furnishing files cwd output files []
  | made {made : FileTree} {place : Location}
      (hmissing : files.isDirectory cwd (ofString output).toString = .ok false)
      (hnew : files.New made place)
      (hfound : made.isDirectory cwd (ofString output).toString = .ok true) :
      Furnishing files cwd output made [madeRecord output]

theorem furnishing_outputMade (hlegal : files.NamesLegal)
    (h : (outputMade files cwd output).1 = .ok none) :
    Furnishing files cwd output (outputMade files cwd output).2.1
      (outputMade files cwd output).2.2 := by
  unfold outputMade at h ⊢
  dsimp only at h ⊢
  split at h
  · cases h
  next hnul =>
  rw [if_neg hnul]
  cases hfound : files.isDirectory cwd (ofString output).toString with
  | error error =>
    rw [hfound] at h
    cases h
  | ok found =>
    rw [hfound] at h
    cases found with
    | true => exact .there hfound
    | false =>
      rcases hmake : files.makeDirectories cwd (ofString output) with ⟨error | _, made⟩
      · rw [hmake] at h
        cases h
      · have hmissing : files.isDirectory cwd (ofString output).toString ≠ .ok true := by
          rw [hfound]
          exact fun heq => Bool.false_ne_true (Except.ok.inj heq)
        obtain ⟨place, hnew⟩ := FileTree.makeDirectories_adds hmake hmissing
        obtain ⟨there, mode, hreach⟩ :=
          (FileTree.provides_makeDirectories hlegal (legal_names hnul) hmake).leads
        exact .made hfound hnew (FileTree.isDirectory_of_reach hreach)

namespace Furnishing

variable {left : FileTree} {records : List Record}

theorem isDirectory (h : Furnishing files cwd output left records) :
    left.isDirectory cwd (ofString output).toString = .ok true := by
  cases h with
  | there hfound => exact hfound
  | made _ _ hfound => exact hfound

/-- Something is new just when the output directory was not there. -/
theorem new_iff (h : Furnishing files cwd output left records) :
    (∃ place, files.New left place) ↔
      files.isDirectory cwd (ofString output).toString ≠ .ok true := by
  cases h with
  | there hfound =>
    refine ⟨?_, fun hmissing => absurd hfound hmissing⟩
    rintro ⟨place, hnew⟩
    exact absurd hnew (files.not_new_self place)
  | made hmissing hnew _ =>
    rw [hmissing]
    exact ⟨fun _ heq => Bool.false_ne_true (Except.ok.inj heq), fun _ => ⟨_, hnew⟩⟩

/-- The record is there just when something is new. -/
theorem records_ne_nil_iff (h : Furnishing files cwd output left records) :
    records ≠ [] ↔ ∃ place, files.New left place := by
  cases h with
  | there hfound =>
    refine ⟨fun hne => absurd rfl hne, ?_⟩
    rintro ⟨place, hnew⟩
    exact absurd hnew (files.not_new_self place)
  | made _ hnew _ => exact ⟨fun _ => ⟨_, hnew⟩, fun _ => List.cons_ne_nil _ _⟩

end Furnishing

/-- Without the output directory nothing is said of a making. -/
theorem records_outputMade_of_ne (h : (outputMade files cwd output).1 ≠ .ok none) :
    (outputMade files cwd output).2.2 = [] := by
  unfold outputMade at h ⊢
  dsimp only at h ⊢
  split
  · rfl
  next hnul =>
  rw [if_neg hnul] at h
  split
  · rfl
  · rfl
  next hfound =>
  rw [hfound] at h
  split
  · next made hmade =>
    rw [hmade] at h
    exact absurd rfl h
  · rfl

/-! ## Preparation -/

variable {p : Pipeline} {runner : Runner σ} {request : Request} {w w₀ w' : World σ}

theorem filesPrepared_beside (h : w.Beside w₀) :
    filesPrepared request w₀ = filesPrepared request w := by
  unfold filesPrepared
  rw [prepare_apply, prepare_apply, validation_beside h]
  cases validation w request.source request.output with
  | error failure => exact h.files
  | ok _ =>
    dsimp only
    rw [ensureOutput_apply, ensureOutput_apply, h.files, h.cwd]
    rfl

/-- A validation that fails leaves the files as they are. -/
theorem filesPrepared_of_invalid {failure : Failure}
    (h : validation w request.source request.output = .error failure) :
    filesPrepared request w = w.files := by
  unfold filesPrepared
  rw [prepare_apply, h]

theorem paved_filesPrepared (hlegal : w.files.NamesLegal) :
    w.files.Paved (filesPrepared request w) w.cwd (ofString request.output) := by
  unfold filesPrepared
  rw [prepare_apply]
  cases validation w request.source request.output with
  | error failure => exact .refl hlegal
  | ok _ =>
    dsimp only
    rw [ensureOutput_apply]
    exact paved_outputMade hlegal

theorem furnishing_prepared (hlegal : w.files.NamesLegal)
    (h : (prepare request.source request.output w).1 = .ok none) :
    Furnishing w.files w.cwd request.output (filesPrepared request w)
      (preparedRecords request w) := by
  unfold filesPrepared preparedRecords
  rw [prepare_apply] at h ⊢
  cases hvalid : validation w request.source request.output with
  | error failure =>
    rw [hvalid] at h
    cases h
  | ok _ =>
    rw [hvalid] at h
    dsimp only at h ⊢
    rw [ensureOutput_apply] at h ⊢
    exact furnishing_outputMade hlegal h

theorem preparedRecords_cases (request : Request) (w : World σ) :
    preparedRecords request w = [] ∨ preparedRecords request w = [madeRecord request.output] := by
  unfold preparedRecords
  cases validation w request.source request.output with
  | error failure => exact .inl rfl
  | ok _ => exact records_outputMade w.files w.cwd request.output

theorem preparedRecords_of_ne (h : (prepare request.source request.output w).1 ≠ .ok none) :
    preparedRecords request w = [] := by
  unfold preparedRecords
  rw [prepare_apply] at h
  cases hvalid : validation w request.source request.output with
  | error failure => rfl
  | ok _ =>
    rw [hvalid] at h
    dsimp only at h ⊢
    rw [ensureOutput_apply] at h
    exact records_outputMade_of_ne h

/-! ## Runs -/

/-- With a runner that leaves the files alone, a run leaves the files that its preparation left. -/
theorem execute_files (p : Pipeline) (hfiles : runner.KeepsFiles) (request : Request)
    (w : World σ) : (execute p runner request w).2.files = filesPrepared request w := by
  obtain ⟨w₀, w₁, w', es, ending, ht, hway, hcloses, hexecute⟩ := execute_way p runner request w
  obtain ⟨v, hes, hb, -⟩ := hway.performed
  rw [hexecute, hcloses.beside.files, hb.files, hes.files hfiles,
    ← filesPrepared_beside (beside_begun ht)]
  rfl

/-- The records of the preparation open the caller's log of a run, and no record after them tells of
a making. -/
theorem execute_announces (p : Pipeline) (hlog : runner.KeepsCallerLog) (request : Request)
    (w : World σ) : ∃ rest, (execute p runner request w).2.callerLog =
        w.callerLog ++ (preparedRecords request w ++ rest) ∧ ∀ r ∈ rest, ¬ r.TellsMaking := by
  obtain ⟨w₀, w₁, w', es, ending, ht, hway, hcloses, hexecute⟩ := execute_way p runner request w
  obtain ⟨v, hes, -, hv⟩ := hway.performed
  refine ⟨es.flatMap (·.records p.passes) ++ (conclusion (w₁.now - w.now) ending).2, ?_, ?_⟩
  · rw [hexecute, hcloses.callerLog, hv, hes.callerLog hlog, prepare_callerLog,
      preparedRecords_beside (beside_begun ht) request, ht.callerLog]
    simp only [List.append_assoc]
    rfl
  · intro r hmem
    rcases List.mem_append.mp hmem with hrecords | hlast
    · obtain ⟨e, -, hr⟩ := List.mem_flatMap.mp hrecords
      exact not_tellsMaking_of_mem_records hr
    · exact not_tellsMaking_of_mem_conclusion hlast

/-! ## Calls -/

/-- The source and the output that a call is about. -/
def Call.paths : Call → String × String
  | execute request => (request.source, request.output)
  | run config => (config.source.toString, config.output.toString)
  | validate source output => (source, output)

theorem Call.paths_of_request {call : Call} (h : call.request? = some request) :
    call.paths = (request.source, request.output) := by
  cases call with
  | execute => cases h; rfl
  | run => cases h; rfl
  | validate => cases h

/-- What is left of a making in the files. What was there is there as it was. Each entry that is new
is the directory that the first names of the output path lead to, as many as it takes, and it is an
empty directory or one stands below it. -/
structure Footprint (output : String) (cwd : Location) (files left : FileTree) : Prop where
  kept : files.Grows left
  resolved : ∀ place, files.New left place → ∃ names, names <+: (ofString output).names ∧
    left.reach cwd true (Path.mk (ofString output).anchor names).toString =
      .ok (.found place (.directory 0o755))
  empty : ∀ place, files.New left place → ∃ below, place <+: below ∧
    left.find? below = some (.directory 0o755) ∧ left.children below = []

theorem Footprint.of_paved {left : FileTree} (hrooted : files.Rooted)
    (h : files.Paved left cwd (ofString output)) : Footprint output cwd files left :=
  ⟨h.furnished.grows, h.resolved, fun _ => h.furnished.exists_empty_below hrooted⟩

theorem Footprint.refl (hlegal : files.NamesLegal) (hrooted : files.Rooted) :
    Footprint output cwd files files := .of_paved hrooted (.refl hlegal)

/-- The failure of a run whose output directory the system refuses to make. -/
def unmadeFailure (output : String) (error : SystemError) : Failure where
  error := .configuration ("could not create output directory '" ++ (ofString output).toString ++ "'")
  cause := some (.fault (.system error))

/-- A preparation that finds the output directory missing ends as the making of it does. -/
theorem prepare_of_missing (hvalid : validation w request.source request.output = .ok ())
    (hnul : '\x00' ∉ request.output.toList)
    (hmissing : w.files.isDirectory w.cwd (ofString request.output).toString = .ok false) :
    (prepare request.source request.output w).1 =
      .ok (match (w.files.makeDirectories w.cwd (ofString request.output)).1 with
        | .ok () => none
        | .error error => some (unmadeFailure request.output error)) := by
  rw [prepare_apply, hvalid]
  dsimp only
  rw [ensureOutput_apply]
  unfold outputMade
  dsimp only
  rw [if_neg hnul, hmissing]
  dsimp only
  rcases w.files.makeDirectories w.cwd (ofString request.output) with ⟨error | _, made⟩ <;> rfl

/-- Validation passes and the output directory is not there, and the system gives an error when it is
to be made. -/
structure CannotMake (request : Request) (w : World σ) (error : SystemError) : Prop where
  valid : validation w request.source request.output = .ok ()
  nul : '\x00' ∉ request.output.toList
  missing : w.files.isDirectory w.cwd (ofString request.output).toString = .ok false
  fails : (w.files.makeDirectories w.cwd (ofString request.output)).1 = .error error

theorem CannotMake.prepare {error : SystemError} (h : CannotMake request w error) :
    (prepare request.source request.output w).1 =
      .ok (some (unmadeFailure request.output error)) := by
  rw [prepare_of_missing h.valid h.nul h.missing, h.fails]

/-- What a run from `w` to `w'` did about its output directory. -/
structure Furnishes (request : Request) (w w' : World σ) : Prop where
  /-- Past the preparation the output directory is there, and something is new just when it was
  not there before. -/
  there : (prepare request.source request.output w).1 = .ok none →
    w'.files.isDirectory w.cwd (ofString request.output).toString = .ok true ∧
    ((∃ place, w.files.New w'.files place) ↔
      w.files.isDirectory w.cwd (ofString request.output).toString ≠ .ok true)
  /-- A record of a making stands at most once in the log, before all other records of the run, and
  just when the run got past its preparation with something new. -/
  told : ∃ opening rest, w'.callerLog = w.callerLog ++ (opening ++ rest) ∧
    (∀ r ∈ rest, ¬ r.TellsMaking) ∧ (opening = [] ∨ opening = [madeRecord request.output]) ∧
    (opening ≠ [] ↔ (prepare request.source request.output w).1 = .ok none ∧
      ∃ place, w.files.New w'.files place)

theorem furnishes_execute (p : Pipeline) (hfiles : runner.KeepsFiles)
    (hlog : runner.KeepsCallerLog) (request : Request) (w : World σ)
    (hlegal : w.files.NamesLegal) : Furnishes request w (execute p runner request w).2 := by
  obtain ⟨rest, hlogged, hrest⟩ := execute_announces p hlog request w
  refine ⟨fun hprep => ?_, preparedRecords request w, rest, hlogged, hrest,
    preparedRecords_cases request w, ?_⟩
  · rw [execute_files p hfiles]
    have hfurnishing := furnishing_prepared hlegal hprep
    exact ⟨hfurnishing.isDirectory, hfurnishing.new_iff⟩
  · rw [execute_files p hfiles]
    by_cases hprep : (prepare request.source request.output w).1 = .ok none
    · rw [(furnishing_prepared hlegal hprep).records_ne_nil_iff]
      exact ⟨fun hnew => ⟨hprep, hnew⟩, fun h => h.2⟩
    · rw [preparedRecords_of_ne hprep]
      exact ⟨fun hne => absurd rfl hne, fun h => absurd h.1 hprep⟩

/-- What a call leaves in the files, with a runner that leaves them alone. A call of any kind leaves a
footprint of its output path, and no trace when its validation fails or when it is a validation. A
run that gets past its preparation has its output directory, and the record of the making opens its
log just when something is new. A run whose output directory the system refuses to make says so on
its outcome, hands out no command and has no record of a making. -/
theorem call_leaves_footprint (p : Pipeline) (hfiles : runner.KeepsFiles)
    (hlog : runner.KeepsCallerLog) (w : World σ) (hlegal : w.files.NamesLegal)
    (hrooted : w.files.Rooted) (call : Call) :
    Footprint call.paths.2 w.cwd w.files (call.perform p runner w).2.files ∧
    (∀ failure, validation w call.paths.1 call.paths.2 = .error failure →
      (call.perform p runner w).2.files = w.files) ∧
    (call.request? = none → (call.perform p runner w).2 = w) ∧
    ∀ request, call.request? = some request →
      Furnishes request w (call.perform p runner w).2 ∧
      ∀ error, CannotMake request w error → ∃ outcome w',
        call.perform p runner w = (.ok (some outcome), w') ∧ Refused outcome w w' ∧
        outcome.failure = some (unmadeFailure request.output error).raised ∧
        w'.callerLog = w.callerLog ++ [failureRecord (unmadeFailure request.output error).error] := by
  cases hrequest : call.request? with
  | none =>
    have hsame : (call.perform p runner w).2 = w := Call.perform_of_none hrequest w
    rw [hsame]
    exact ⟨.refl hlegal hrooted, fun _ _ => rfl, fun _ => rfl, fun _ h => nomatch h⟩
  | some request =>
    have hrun : call.perform p runner w = ((execute p runner request w).1.map some,
        (execute p runner request w).2) := Call.perform_of_request hrequest w
    rw [hrun, Call.paths_of_request hrequest, execute_files p hfiles]
    refine ⟨.of_paved hrooted (paved_filesPrepared hlegal),
      fun _ hinvalid => filesPrepared_of_invalid hinvalid, fun h => (nomatch h), ?_⟩
    rintro _ hsame
    cases hsame
    refine ⟨furnishes_execute p hfiles hlog request w hlegal, fun error hcannot => ?_⟩
    obtain ⟨outcome, w', hexecute, hrefused, hfailure, hlogged⟩ :=
      execute_of_refused p runner hcannot.prepare
    have hne : (prepare request.source request.output w).1 ≠ .ok none := by
      rw [hcannot.prepare]
      exact fun h => nomatch h
    rw [preparedRecords_of_ne hne] at hlogged
    rw [hexecute]
    exact ⟨outcome, w', rfl, hrefused, hfailure, hlogged⟩

/-- The output directory is to be made next to the target of a link. Of the directory that its path
only passes through, one is made too. -/
def windingRequest : Request := ⟨"src", "link/../out/../deep", [], [], none⟩

/-- A run that makes directories behind a link, and one that cannot make its own. -/
theorem call_leaves_footprint_winding :
    (∃ left : World Unit,
      ((Call.execute windingRequest).perform ⟨{}, 4, 1⟩ failing detourWorld).2 = left ∧
      Footprint "link/../out/../deep" [] detourWorld.files left.files ∧
      detourWorld.files.New left.files ["a", "out"] ∧
      detourWorld.files.New left.files ["a", "deep"] ∧
      left.files.isDirectory [] "link/../out/../deep" = .ok true ∧
      ∃ rest, left.callerLog = madeRecord "link/../out/../deep" :: rest ∧
        ∀ r ∈ rest, ¬ r.TellsMaking) ∧
    ∃ outcome w', (Call.execute blockedRequest).perform ⟨{}, 4, 1⟩ failing blockedWorld =
        (.ok (some outcome), w') ∧ Refused outcome blockedWorld w' := by
  have hfiles : failing.KeepsFiles := Runner.keepsFiles_answering _
  have hlog : failing.KeepsCallerLog := Runner.keepsCallerLog_answering _
  constructor
  · obtain ⟨hfootprint, -, -, hrun⟩ := call_leaves_footprint ⟨{}, 4, 1⟩ hfiles hlog detourWorld
      (by decide) (by decide) (.execute windingRequest)
    obtain ⟨hfurnishes, -⟩ := hrun windingRequest rfl
    have hprep : (prepare windingRequest.source windingRequest.output detourWorld).1 = .ok none := by
      have hmakes : (detourWorld.files.makeDirectories detourWorld.cwd
          (ofString windingRequest.output)).1 = .ok () := by decide +kernel
      rw [prepare_of_missing (validation_of_isOk (by decide +kernel)) (by decide)
        (by decide +kernel), hmakes]
    have hnew : detourWorld.files.New ((Call.execute windingRequest).perform ⟨{}, 4, 1⟩ failing
        detourWorld).2.files ["a", "out"] := ⟨by decide +kernel, by decide +kernel⟩
    obtain ⟨hthere, -⟩ := hfurnishes.there hprep
    obtain ⟨opening, rest, hlogged, hrest, hopening, hmade⟩ := hfurnishes.told
    obtain rfl := hopening.resolve_left (hmade.mpr ⟨hprep, _, hnew⟩)
    exact ⟨_, rfl, hfootprint, hnew, ⟨by decide +kernel, by decide +kernel⟩, hthere, rest, hlogged,
      hrest⟩
  · obtain ⟨-, -, -, hrun⟩ := call_leaves_footprint ⟨{}, 4, 1⟩ hfiles hlog blockedWorld
      (by decide) (by decide) (.execute blockedRequest)
    obtain ⟨-, hunmade⟩ := hrun blockedRequest rfl
    have hcannot : CannotMake blockedRequest blockedWorld (.about .notDirectory "/file/out") :=
      ⟨validation_of_isOk (by decide +kernel), by decide, by decide +kernel, by decide +kernel⟩
    obtain ⟨outcome, w', hperform, hrefused, -⟩ := hunmade _ hcannot
    exact ⟨outcome, w', hperform, hrefused⟩

end Pipeline

end NativeBuild
