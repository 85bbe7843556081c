import NativeBuild.Proofs.FileTree.NormalForm
import NativeBuild.Proofs.Pipeline.Directories

/-
  Runs of configs. A config keeps its directories as paths, so a run of it is asked for the normal
  forms of the texts that the config was made from (`ofConfig_make`). The tools and the output
  directory are told by the paths alone, and normal forms spell the same ones (`configure_normal`,
  `ensureOutput_normal`); validation resolves the texts themselves. So a run of a config is the run
  that was asked for with the texts, whatever the runner does, as long as they do not start anew behind
  a link that leads back to itself (`run_make`). Where one does, validation judges another directory
  than the one that is named (`run_make_differs`).
-/

namespace NativeBuild

variable {σ : Type}

open NativeBuild.Path

namespace Request

/-- The request with its directories in normal form. -/
def normal (request : Request) : Request :=
  { request with source := Path.normal request.source, output := Path.normal request.output }

variable (request : Request)

@[simp] theorem source_normal : request.normal.source = Path.normal request.source := rfl

@[simp] theorem output_normal : request.normal.output = Path.normal request.output := rfl

@[simp] theorem definitions_normal : request.normal.definitions = request.definitions := rfl

@[simp] theorem environment_normal : request.normal.environment = request.environment := rfl

@[simp] theorem target_normal : request.normal.target = request.target := rfl

theorem ofConfig_make (source output : String) (target : Option String)
    (definitions environment : Settings) :
    ofConfig (.make source output target definitions environment) =
      normal ⟨source, output, definitions, environment, target⟩ := rfl

end Request

/-! ## What the paths tell -/

@[simp] theorem Toolchain.configureCommand_normal (tools : Toolchain) (here : Path)
    (source output : String) (definitions environment : Settings) :
    tools.configureCommand here (normal source) (normal output) definitions environment =
      tools.configureCommand here source output definitions environment := by
  simp only [configureCommand, ofString_normal]

@[simp] theorem Toolchain.compileCommand_normal (tools : Toolchain) (here : Path) (output : String)
    (parallelism : Int) (target : Option String) :
    tools.compileCommand here (normal output) parallelism target =
      tools.compileCommand here output parallelism target := by
  simp only [compileCommand, ofString_normal]

/-- Normal forms start where the texts start. -/
theorem World.base_normal (w : World σ) (paths : List String) :
    w.base (paths.map normal) = w.base paths := by
  have hany : (paths.map normal).any (fun path => (ofString path).anchor == .relative) =
      paths.any fun path => (ofString path).anchor == .relative := by
    rw [List.any_map]
    simp only [Function.comp_def, ofString_normal]
  unfold World.base
  rw [hany]

namespace Containment

/-- Directories are judged by the canonical forms of their texts. -/
theorem check_congr {files : FileTree} {cwd : Location} {source source' output output' : String}
    (hsource : files.canonical cwd source' = files.canonical cwd source)
    (houtput : files.canonical cwd output' = files.canonical cwd output) :
    check files cwd source' output' = check files cwd source output := by
  simp only [check, canonical, hsource, houtput]

end Containment

namespace Pipeline

open NativeBuild.Action

theorem ensureOutput_normal (output : String) :
    (ensureOutput (normal output) : Action σ (Option Failure)) = ensureOutput output := by
  simp only [ensureOutput, ofString_normal, nul_mem_normal]

theorem configure_normal (p : Pipeline) (runner : Runner σ) (request : Request) :
    configure p runner request.normal = configure p runner request := by
  have hbase : ∀ w : World σ, w.base [normal request.source, normal request.output] =
      w.base [request.source, request.output] := fun w => w.base_normal [_, _]
  simp [configure, hbase]

/-! ## Runs -/

/-- The directories of a request do not start anew behind a link that cannot be resolved. -/
structure Direct (request : Request) (w : World σ) : Prop where
  source : ¬ w.files.Restarts w.cwd request.source
  output : ¬ w.files.Restarts w.cwd request.output

variable {request : Request} {w v : World σ}

theorem Direct.beside (h : Direct request w) (hb : w.Beside v) : Direct request v := by
  constructor
  · rw [hb.files, hb.cwd]
    exact h.source
  · rw [hb.files, hb.cwd]
    exact h.output

theorem validation_normal (h : Direct request w) :
    validation w (normal request.source) (normal request.output) =
      validation w request.source request.output := by
  unfold validation
  rw [Containment.check_congr (FileTree.canonical_normal h.source)
    (FileTree.canonical_normal h.output)]

theorem prepare_normal (h : Direct request w) :
    prepare (normal request.source) (normal request.output) w =
      prepare request.source request.output w := by
  rw [prepare_apply, prepare_apply, validation_normal h, ensureOutput_normal]

variable (p : Pipeline) (runner : Runner σ)

theorem steps_normal (h : Direct request w) :
    steps p runner request.normal w = steps p runner request w := by
  have hbase : ∀ w : World σ, w.base [normal request.output] = w.base [request.output] :=
    fun w => w.base_normal [_]
  unfold steps
  simp only [configure_normal, Request.source_normal, Request.output_normal, Request.target_normal,
    hbase, Toolchain.compileCommand_normal]
  exact bind_congr_run (prepare_normal h) _

/-- A run that was asked for with normal forms does what one that was asked for with the texts does,
down to the last record. -/
theorem execute_normal (h : Direct request w) :
    execute p runner request.normal w = execute p runner request w := by
  have hunderway : Direct request (underway request w) := h.beside (beside_begun (traced_opened _ _ _))
  have hended : stepsOrOutcome p runner request.normal w.now (underway request w) =
      stepsOrOutcome p runner request w.now (underway request w) :=
    bind_congr_run (steps_normal p runner hunderway) _
  have hspanned : spanned p runner request.normal w.now (begun w) =
      spanned p runner request w.now (begun w) := by
    unfold spanned
    rw [inSpan_eq, inSpan_eq]
    unfold underway at hended
    rw [Request.target_normal, hended]
  unfold execute
  rw [readBuildClock_bind, readBuildClock_bind, change_bind, change_bind]
  exact bind_congr_run hspanned _

/-- A run of a config is the run that was asked for with what the config was made from: it ends alike
and leaves the same world. -/
theorem run_make (w : World σ) (source output : String) (target : Option String)
    (definitions environment : Option Settings) (hsource : ¬ w.files.Restarts w.cwd source)
    (houtput : ¬ w.files.Restarts w.cwd output) :
    run p runner (.make source output target (definitions.getD []) (environment.getD [])) w =
      execute p runner ⟨source, output, definitions.getD [], environment.getD [], target⟩ w := by
  unfold run
  rw [Request.ofConfig_make]
  exact execute_normal p runner ⟨hsource, houtput⟩

/-- A world with the directory `/x` and the link `/loop` to itself. -/
def loopingWorld : World Unit :=
  { sampleWorld with
    files := { entries := [⟨["x"], 2, .directory 0o755⟩, ⟨["loop"], 3, .link "loop"⟩], fresh := 4 } }

/-- Texts that are not in normal form, one of them behind the link: the run of the config and the run
of the texts hand out the same command. -/
theorem run_make_looping :
    (¬ loopingWorld.files.Restarts [] "loop/./x//" ∧ ¬ loopingWorld.files.Restarts [] "//x/.") ∧
      run ⟨{}, 4, 1⟩ failing (.make "loop/./x//" "//x/." none [] []) loopingWorld =
        execute ⟨{}, 4, 1⟩ failing ⟨"loop/./x//", "//x/.", [], [], none⟩ loopingWorld ∧
      (execute ⟨{}, 4, 1⟩ failing ⟨"loop/./x//", "//x/.", [], [], none⟩
        loopingWorld).2.issued.map (·.arguments) =
          [["cmake", "/loop/x", "-G", "Unix Makefiles"]] := by
  have hsource : ¬ loopingWorld.files.Restarts [] "loop/./x//" := by decide +kernel
  have houtput : ¬ loopingWorld.files.Restarts [] "//x/." := by decide +kernel
  exact ⟨⟨hsource, houtput⟩,
    run_make ⟨{}, 4, 1⟩ failing loopingWorld _ _ none none none hsource houtput, by decide +kernel⟩

/-- Behind the link `loop//x` starts anew: the text is refused as a directory inside of `/x`, while the
config made from it names `loop/x`, and a command is handed out. -/
theorem run_make_differs :
    run ⟨{}, 4, 1⟩ failing (.make "loop//x" "x" none [] []) loopingWorld ≠
      execute ⟨{}, 4, 1⟩ failing ⟨"loop//x", "x", [], [], none⟩ loopingWorld := by
  have hrun : (run ⟨{}, 4, 1⟩ failing (.make "loop//x" "x" none [] [])
      loopingWorld).2.issued.length = 1 := by decide +kernel
  have hexecute : (execute ⟨{}, 4, 1⟩ failing ⟨"loop//x", "x", [], [], none⟩
      loopingWorld).2.issued.length = 0 := by decide +kernel
  intro h
  rw [h, hexecute] at hrun
  cases hrun

end Pipeline

end NativeBuild
