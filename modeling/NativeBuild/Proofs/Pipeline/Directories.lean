import NativeBuild.Proofs.FileTree.Furnishing
import NativeBuild.Proofs.Pipeline.Execution

/-
  Where the tools work. A run hands out nothing but its configure and its compile command, both made
  with the absolute forms of the source and the output directory, and only once the output directory
  is there (`execute_specs`). Absolute forms are made by text, while the validation resolves links and
  the making of the directory follows them. Without `..` all three come to one directory
  (`execute_works_in_output`); a `..` behind a link takes the tools to another one than was validated
  and made (`execute_leaves_output`).
-/

namespace NativeBuild

open NativeBuild.Path

namespace Pipeline

open NativeBuild.Action

variable {σ : Type} {p : Pipeline} {runner : Runner σ} {request : Request}

/-- A command of a request, as seen from a place. -/
def FromRequest (p : Pipeline) (request : Request) (here : Location) (spec : CommandSpec) : Prop :=
  spec = p.configureSpec request here ∨ spec = p.compileSpec request here

theorem fromRequest_of_course {here : Location} {es : List Exchange}
    (h : Course (p.plan request here here) es) :
    ∀ spec ∈ es.map (·.spec), p.FromRequest request here spec := by
  intro spec hmem
  have hspecs := congrArg (List.map Prod.snd) h.map_eq_take
  rw [List.map_map, List.map_take, map_snd_plan] at hspecs
  rcases List.mem_cons.mp (List.mem_of_mem_take (hspecs ▸ hmem)) with hconfigure | hcompile
  · exact .inl hconfigure
  · exact .inr (List.eq_of_mem_replicate hcompile)

/-- Commands of a request, none unless it was prepared. -/
structure Handed (p : Pipeline) (request : Request) (w : World σ) (specs : List CommandSpec) :
    Prop where
  prepared : specs ≠ [] → (prepare request.source request.output w).1 = .ok none
  asked : ∀ spec ∈ specs, p.FromRequest request w.cwd spec

/-- The steps of a run hand out commands of the request, once it is prepared. -/
theorem steps_specs (p : Pipeline) {runner : Runner σ} (request : Request)
    (hbooks : runner.KeepsBooks) (hstay : ∀ spec v, (runner spec v).2.cwd = v.cwd) (w : World σ) :
    ∃ specs, (steps p runner request w).2.issued = w.issued ++ specs ∧
      p.Handed request w specs := by
  have hnothing : p.Handed request w [] := ⟨fun hne => absurd rfl hne, fun _ hmem => nomatch hmem⟩
  have hcwd := prepare_cwd request.source request.output w
  obtain ⟨es, ending, w', hsteps, hway⟩ := steps_way p runner request w
  refine ⟨es.map (·.spec), by rw [hsteps, hway.issued hbooks], ?_⟩
  cases hway with
  | unprepared => exact hnothing
  | refused => exact hnothing
  | lost => exact hnothing
  | strayed hprep _ hstep =>
    rw [hprep] at hcwd
    exact ⟨fun _ => congrArg Prod.fst hprep,
      List.forall_mem_singleton.mpr (.inl (hcwd ▸ congrArg Prod.snd hstep))⟩
  | ran hprep _ hcourse hthere =>
    rw [hprep] at hcwd
    rw [hthere hstay, hcwd] at hcourse
    exact ⟨fun _ => congrArg Prod.fst hprep, fromRequest_of_course hcourse⟩

/-- A run hands out commands of its request and no others, however it ends, and none before the
directories were validated and the output directory was there. -/
theorem execute_specs (p : Pipeline) {runner : Runner σ} (request : Request)
    (hbooks : runner.KeepsBooks) (hstay : ∀ spec v, (runner spec v).2.cwd = v.cwd) (w : World σ) :
    ∃ specs, (execute p runner request w).2.issued = w.issued ++ specs ∧
      p.Handed request w specs := by
  obtain ⟨w₀, w₁, w', ending, hb₀, -, -, hsteps, hb₁, hexecute, -⟩ :=
    execute_apply p runner request w
  obtain ⟨specs, hissued, hprepared, hasked⟩ := steps_specs p request hbooks hstay w₀
  rw [hsteps, hb₀.issued] at hissued
  rw [hb₀.cwd] at hasked
  rw [prepare_beside hb₀] at hprepared
  exact ⟨specs, by rw [hexecute, hb₁.issued, hissued], hprepared, hasked⟩

/-! ## What was validated -/

/-- The files once the output directory of a request is there. -/
def filesPrepared (request : Request) (w : World σ) : FileTree :=
  (prepare request.source request.output w).2.files

/-- Making the output directory, without a failure, leaves it there. -/
theorem provides_outputMade {files : FileTree} {cwd : Location} {output : String}
    (hlegal : files.NamesLegal) (hplain : ∀ name ∈ (ofString output).names, name ≠ "..")
    (h : (outputMade files cwd output).1 = .ok none) :
    files.Provides (outputMade files cwd output).2.1 cwd (ofString output) := by
  unfold outputMade at h ⊢
  dsimp only at h ⊢
  split at h
  · cases h
  next hnul =>
  rw [if_neg hnul]
  have hnames : ∀ name ∈ (ofString output).names, Legal name :=
    fun name hname => legal_of_mem_names hnul hname (hplain name hname)
  cases hfound : files.isDirectory cwd (ofString output).toString with
  | error error =>
    rw [hfound] at h
    cases h
  | ok found =>
    rw [hfound] at h
    cases found with
    | true => exact FileTree.provides_of_isDirectory hlegal hfound
    | false =>
      dsimp only at h ⊢
      rcases hmake : files.makeDirectories cwd (ofString output) with ⟨error | _, made⟩
      · rw [hmake] at h
        cases h
      · exact FileTree.provides_makeDirectories hlegal (fun name hname _ => hnames name hname) hmake

/-- A preparation that finds nothing wrong leaves the output directory. -/
theorem provides_filesPrepared {w : World σ} (hlegal : w.files.NamesLegal)
    (hplain : ∀ name ∈ (ofString request.output).names, name ≠ "..")
    (h : (prepare request.source request.output w).1 = .ok none) :
    w.files.Provides (filesPrepared request w) w.cwd (ofString request.output) := by
  unfold filesPrepared
  rw [prepare_apply] at h ⊢
  cases hvalid : validation w request.source request.output with
  | error failure =>
    rw [hvalid] at h
    cases h
  | ok _ =>
    rw [hvalid] at h
    dsimp only at h ⊢
    rw [ensureOutput_apply] at h ⊢
    exact provides_outputMade hlegal hplain h

/-- The command names the sources by this argument. -/
def NamesSources (spec : CommandSpec) (argument : String) : Prop := spec.operands.head? = some argument

/-- Without `..` in the output path, every command works in the directory that was validated and that
is there when the run goes on: one canonical form is compared by the validation and leads to it. And
`cmake` reads the sources that were validated, when their path has no `..` either. -/
theorem execute_works_in_output (p : Pipeline) {runner : Runner σ} (request : Request)
    (hbooks : runner.KeepsBooks) (hstay : ∀ spec v, (runner spec v).2.cwd = v.cwd) (w : World σ)
    (hlegal : w.files.NamesLegal) (hrooted : w.files.Rooted)
    (hcwd : w.files.Spelled [] (ofLocation w.cwd) w.cwd)
    (houtput : w.files.GoesPlainly w.cwd request.output) :
    ∃ specs, (execute p runner request w).2.issued = w.issued ++ specs ∧ ∀ spec ∈ specs,
      (∃ products mode, (filesPrepared request w).reach w.cwd true spec.directory.toString =
          .ok (.found products (.directory mode)) ∧
        (filesPrepared request w).canonical w.cwd spec.directory.toString =
          .ok (ofLocation products).toString ∧
        w.files.canonical w.cwd request.output = .ok (ofLocation products).toString) ∧
      (spec = p.configureSpec request w.cwd → ∃ argument, NamesSources spec argument ∧
        ∀ sources, w.files.LeadsPlainly w.cwd request.source sources →
          (∃ mode, (filesPrepared request w).reach w.cwd true argument =
            .ok (.found sources (.directory mode))) ∧
          (filesPrepared request w).canonical w.cwd argument = .ok (ofLocation sources).toString ∧
          w.files.canonical w.cwd request.source = .ok (ofLocation sources).toString) := by
  obtain ⟨specs, hissued, hprepared, hasked⟩ := execute_specs p request hbooks hstay w
  refine ⟨specs, hissued, fun spec hmem => ?_⟩
  have hprovides := provides_filesPrepared hlegal houtput.plain
    (hprepared (List.ne_nil_of_mem hmem))
  have hspelled := hprovides.furnished.spelled hcwd
  have hspells := ofString_toString fun name hname => part_of_mem_names (s := request.output) hname
  constructor
  · obtain ⟨products, mode, hreach, hbefore⟩ := hprovides.canonical hrooted hcwd houtput.looksUp
    have hleads : (filesPrepared request w).LeadsPlainly w.cwd
        (ofString request.output).toString products :=
      ⟨hprovides.furnished.goesPlainly houtput.toString, mode, hreach⟩
    obtain ⟨⟨mode', hthere⟩, hafter⟩ := hleads.absolute hprovides.legal hspelled
    have hdirectory : spec.directory = (ofLocation w.cwd).absolute (ofString request.output) := by
      rcases hasked spec hmem with rfl | rfl <;> rfl
    rw [hspells, ← hdirectory] at hthere hafter
    exact ⟨products, mode', hthere, hafter, hbefore⟩
  · rintro rfl
    refine ⟨_, rfl, fun sources hsource => ?_⟩
    obtain ⟨mode, hfound⟩ := hcwd.find?_of_anchored Anchor.noConfusion
    obtain ⟨hthere, hafter⟩ :=
      (hprovides.furnished.leadsPlainly hlegal hsource).absolute hprovides.legal hspelled
    exact ⟨hthere, hafter, FileTree.LeadsTo.canonical hlegal hfound
      ⟨hsource.reached, hsource.looksUp⟩⟩

/-- A runner whose tools fail. -/
def failing : Runner Unit := .answering fun spec => .ok (sampleResult spec 1)

/-- A world whose working directory `/home` has sources and a link to another directory. -/
def lodgedWorld : World Unit :=
  { sampleWorld with
    cwd := ["home"]
    files := { entries := [⟨["home"], 2, .directory 0o755⟩, ⟨["home", "src"], 3, .directory 0o755⟩,
      ⟨["far"], 4, .directory 0o755⟩, ⟨["home", "out"], 5, .link "../far"⟩], fresh := 6 } }

/-- The output directory is to be made where the link leads. -/
def lodgedRequest : Request := ⟨"./src", "out//build/.", [], [], none⟩

theorem execute_works_in_output_lodged :
    ∃ specs, (execute ⟨{}, 4, 1⟩ failing lodgedRequest lodgedWorld).2.issued = specs ∧
      specs.map (fun spec => spec.directory.toString) = ["/home/out/build"] ∧ ∀ spec ∈ specs,
        ∃ products mode, (filesPrepared lodgedRequest lodgedWorld).reach ["home"] true
            spec.directory.toString = .ok (.found products (.directory mode)) ∧
          (filesPrepared lodgedRequest lodgedWorld).canonical ["home"] spec.directory.toString =
            .ok (ofLocation products).toString ∧
          lodgedWorld.files.canonical ["home"] "out//build/." =
            .ok (ofLocation products).toString := by
  have hlegal : lodgedWorld.files.NamesLegal := by decide
  have hrooted : lodgedWorld.files.Rooted := by decide
  have hcwd : lodgedWorld.files.Spelled [] (ofLocation ["home"]) ["home"] :=
    .child (.start Anchor.noConfusion) (by decide) ⟨rfl, by decide, rfl⟩
  have houtput : lodgedWorld.files.GoesPlainly ["home"] "out//build/." :=
    ⟨by decide +kernel, by decide +kernel, by decide +kernel, by decide +kernel⟩
  have hbooks : failing.KeepsBooks := Runner.keepsBooks_answering _
  obtain ⟨specs, hissued, hspecs⟩ := execute_works_in_output ⟨{}, 4, 1⟩ lodgedRequest hbooks
    (fun _ _ => rfl) lodgedWorld hlegal hrooted hcwd houtput
  refine ⟨specs, hissued, ?_, fun spec hmem => (hspecs spec hmem).1⟩
  rw [show specs = (execute ⟨{}, 4, 1⟩ failing lodgedRequest lodgedWorld).2.issued from
    hissued.symm]
  decide +kernel

/-- A world with the directories `/src` and `/a/b`, and a link to the second. -/
def detourWorld : World Unit :=
  { sampleWorld with
    files := { entries := [⟨["src"], 2, .directory 0o755⟩, ⟨["a"], 3, .directory 0o755⟩,
      ⟨["a", "b"], 4, .directory 0o755⟩, ⟨["link"], 5, .link "a/b"⟩], fresh := 6 } }

def detourRequest : Request := ⟨"src", "link/../out", [], [], none⟩

/-- A `..` behind a link: the directory that is validated and made is `/a/out`, and the tools are sent
to `/out`, which is not there. -/
theorem execute_leaves_output :
    (execute ⟨{}, 4, 1⟩ failing detourRequest detourWorld).2.issued.map
        (fun spec => spec.directory.toString) = ["/out"] ∧
      (execute ⟨{}, 4, 1⟩ failing detourRequest detourWorld).2.files.reach [] true
        detourRequest.output = .ok (.found ["a", "out"] (.directory 0o755)) ∧
      (execute ⟨{}, 4, 1⟩ failing detourRequest detourWorld).2.files.canonical []
        detourRequest.output = .ok "/a/out" ∧
      (execute ⟨{}, 4, 1⟩ failing detourRequest detourWorld).2.files.canonical [] "/out" =
        .ok "/out" ∧
      (execute ⟨{}, 4, 1⟩ failing detourRequest detourWorld).2.files.pathExists [] "/out" =
        false := by
  refine ⟨?_, ?_, ?_, ?_, ?_⟩ <;> decide +kernel

end Pipeline

end NativeBuild
