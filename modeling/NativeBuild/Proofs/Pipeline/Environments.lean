import NativeBuild.Proofs.Environment
import NativeBuild.Proofs.Pipeline.Accounting

/-
  The environments of the children of a run. The configure command carries the settings of the request
  as its overlay and no compile command carries one (`overlay_of_mem_plan`), and nothing in a run touches
  the environment of the parent. So whatever is started in a run, `cmake` gets the parent's environment
  with the settings that say something, and every pass of `make` gets the parent's as it is
  (`children_inherit`).
-/

namespace NativeBuild

variable {σ : Type}

open NativeBuild.Supervision

/-- The environment that the child of a launch really gets from this parent. -/
def Launch.received (launch : Launch) (parent : Variables) : Variables :=
  launch.environment.getD parent

/-- What a launch asks for is what its command says. -/
theorem received_launchOf (w : World σ) (spec : CommandSpec) :
    (launchOf w spec).received w.environment = spec.environment w.environment := rfl

namespace Pipeline

variable {p : Pipeline} {request : Request} {runner : Runner σ}

/-- What a child gets from this parent at a step of a run of the request: for `cmake` a name holds what
the settings of the request say, and otherwise what the parent holds, and for `make` all is as the
parent has it. -/
def Inherits (request : Request) (parent : Variables) (step : Step) (child : Variables) : Prop :=
  match step with
  | .compilePass _ => child = parent
  | _ => ∀ name, child.get? name = (request.environment.value? name).or (parent.get? name)

/-- The settings of a request go to its configure command alone. -/
theorem overlay_of_mem_plan {here there : Location} {step : Step} {spec : CommandSpec}
    (h : (step, spec) ∈ p.plan request here there) :
    (step = .configure ∧ spec.overlay = request.environment) ∨
      ∃ number, step = .compilePass number ∧ spec.overlay = [] := by
  unfold plan passPlan at h
  rcases List.mem_cons.mp h with heq | hpass
  · cases heq
    exact .inl ⟨rfl, rfl⟩
  · obtain ⟨number, -, heq⟩ := List.mem_map.mp hpass
    cases heq
    exact .inr ⟨number, rfl, rfl⟩

/-- The commands of a plan give their children what they are to get, from any parent. -/
theorem inherits_of_mem_plan {here there : Location} {step : Step} {spec : CommandSpec}
    (hnames : UniqueNames request.environment) (h : (step, spec) ∈ p.plan request here there)
    (parent : Variables) : Inherits request parent step (spec.environment parent) := by
  obtain ⟨rfl, hoverlay⟩ | ⟨number, rfl, hoverlay⟩ := overlay_of_mem_plan h
  · intro name
    rw [← hoverlay] at hnames ⊢
    exact CommandSpec.get?_environment hnames parent name
  · have hsilent : spec.overlay.effective = [] := by
      rw [hoverlay]
      rfl
    exact CommandSpec.environment_of_silent hsilent

/-- Exchanges on a plan give their children what they are to get, from any parent. -/
theorem inherits_of_plan {here there : Location} {es : List Exchange}
    (hnames : UniqueNames request.environment)
    (h : es.map (fun e => (e.step, e.spec)) = (p.plan request here there).take es.length) :
    ∀ e ∈ es, ∀ parent, Inherits request parent e.step (e.spec.environment parent) := by
  intro e hmem parent
  have hcommand : (e.step, e.spec) ∈ es.map fun e => (e.step, e.spec) := List.mem_map_of_mem hmem
  rw [h] at hcommand
  exact inherits_of_mem_plan hnames (List.mem_of_mem_take hcommand) parent

/-- The commands that a run hands out, however it ends, are the first ones of its plan. -/
theorem execute_plan (p : Pipeline) (request : Request) (hbooks : runner.KeepsBooks) (w : World σ) :
    ∃ (es : List Exchange) (there : Location),
      es.map (fun e => (e.step, e.spec)) = (p.plan request w.cwd there).take es.length ∧
      (execute p runner request w).2.issued = w.issued ++ es.map (·.spec) := by
  obtain ⟨w₀, w₁, w', es, ending, ht, hway, hcloses, hexecute⟩ := execute_way p runner request w
  have hb₀ : w.Beside w₀ := beside_begun ht
  obtain ⟨there, hplan, -⟩ := hway.follows_plan
  have hissued := hway.issued hbooks
  rw [hb₀.cwd] at hplan
  rw [hb₀.issued] at hissued
  exact ⟨es, there, hplan, by rw [hexecute, hcloses.beside.issued, hissued]⟩

end Pipeline

/-! ## Launches -/

/-- One command with the supervision: what is launched is the command, and the environment of the
parent stays as it is. -/
theorem Exchange.Leads.launches {host : Host σ} {passes : Nat} {e : Exchange} {w w' : World σ}
    (h : e.Leads (run host) passes w w') :
    w'.environment = w.environment ∧ ∃ launches, w'.launched = w.launched ++ launches ∧
      ∀ launched ∈ launches, launched.launch.arguments = e.spec.arguments ∧
        launched.launch.received w.environment = e.spec.environment w.environment := by
  have hran := ran_run host e.spec (e.asked passes w)
  have hafter := h.eq_settled
  refine ⟨?_, launchesOf host e.spec (e.asked passes w), ?_, ?_⟩
  · rw [hafter, e.environment_settled, hran.environment]
    rfl
  · rw [hafter, e.launched_settled, hran.launched]
    rfl
  · intro launched hmem
    have hlaunch : launched.launch = launchOf (e.asked passes w) e.spec := by
      unfold launchesOf at hmem
      split at hmem
      · cases hmem
      · rw [List.mem_singleton.mp hmem]
        rfl
    rw [hlaunch]
    exact ⟨rfl, received_launchOf (e.asked passes w) e.spec⟩

/-- All commands of a run with the supervision. The induction is on the exchanges; each of them finds
the environment of the parent as it was in the beginning. -/
theorem Performed.launches {host : Host σ} {passes : Nat} {w w' : World σ} {es : List Exchange}
    (h : Performed (run host) passes w es w') :
    w'.environment = w.environment ∧ ∃ launches, w'.launched = w.launched ++ launches.flatten ∧
      List.Forall₂ (fun (e : Exchange) part => ∀ launched ∈ part,
        launched.launch.arguments = e.spec.arguments ∧
        launched.launch.received w.environment = e.spec.environment w.environment) es launches := by
  induction h with
  | nil w => exact ⟨rfl, [], (List.append_nil _).symm, .nil⟩
  | cons hlead _ ih =>
    obtain ⟨henv, part, hpart, hfirst⟩ := hlead.launches
    obtain ⟨henvs, parts, hparts, hrest⟩ := ih
    rw [henv] at henvs hrest
    refine ⟨henvs, part :: parts, ?_, .cons hfirst hrest⟩
    rw [hparts, hpart, List.flatten_cons, List.append_assoc]

namespace Pipeline

/-- A run with the supervision: each of its commands is launched as it is, and the environment of the
parent stays what it was. -/
theorem execute_launches (p : Pipeline) (host : Host σ) (request : Request) (w : World σ) :
    ∃ (es : List Exchange) (launches : List (List Launched)) (there : Location),
      es.map (fun e => (e.step, e.spec)) = (p.plan request w.cwd there).take es.length ∧
      (execute p (Supervision.run host) request w).2.environment = w.environment ∧
      (execute p (Supervision.run host) request w).2.launched = w.launched ++ launches.flatten ∧
      List.Forall₂ (fun (e : Exchange) part => ∀ launched ∈ part,
        launched.launch.arguments = e.spec.arguments ∧
        launched.launch.received w.environment = e.spec.environment w.environment) es launches := by
  obtain ⟨w₀, w₁, w', es, ending, ht, hway, hcloses, hexecute⟩ :=
    execute_way p (Supervision.run host) request w
  have hb₀ : w.Beside w₀ := beside_begun ht
  obtain ⟨v, hes, hb₁, -⟩ := hway.performed
  obtain ⟨opening, -, hopened⟩ := prepare_opened hb₀ ht.callerLog request.source request.output
  obtain ⟨there, hplan, -⟩ := hway.follows_plan
  obtain ⟨henv, launches, hlaunched, hparts⟩ := hes.launches
  rw [hopened.environment] at henv hparts
  rw [hb₀.cwd] at hplan
  refine ⟨es, launches, there, hplan, ?_, ?_, hparts⟩
  · rw [hexecute, hcloses.beside.environment, hb₁.environment, henv]
  · rw [hexecute, hcloses.beside.launched, hb₁.launched, hlaunched, hopened.launched]

/-- The environments of children. From any parent, the child of a command holds what the overlay says of
a name, and otherwise what the parent holds, and it inherits its parent's environment as it is when the
overlay has no value but empty ones. In a run, however it ends and whoever runs the commands, the child
of the configure command gets the parent's variables with the settings of the request over them, and the
child of every pass gets exactly the parent's. With the supervision this is what all children are launched
with, and the environment of the parent is not touched. -/
theorem children_inherit :
    (∀ (spec : CommandSpec) (parent : Variables), UniqueNames spec.overlay →
      (∀ name, (spec.environment parent).get? name =
        (spec.overlay.value? name).or (parent.get? name)) ∧
      (UniqueNames parent → UniqueNames (spec.environment parent)) ∧
      (spec.environment? parent = none ↔
        ∀ name value, (name, some value) ∈ spec.overlay → value = "")) ∧
    ∀ (p : Pipeline) (request : Request) (w : World σ), UniqueNames request.environment →
      (∀ runner : Runner σ, runner.KeepsBooks → ∃ (es : List Exchange) (there : Location),
        es.map (fun e => (e.step, e.spec)) = (p.plan request w.cwd there).take es.length ∧
        (execute p runner request w).2.issued = w.issued ++ es.map (·.spec) ∧
        ∀ e ∈ es, ∀ parent, Inherits request parent e.step (e.spec.environment parent)) ∧
      ∀ host : Host σ, ∃ (es : List Exchange) (launches : List (List Launched)) (there : Location),
        es.map (fun e => (e.step, e.spec)) = (p.plan request w.cwd there).take es.length ∧
        (execute p (Supervision.run host) request w).2.environment = w.environment ∧
        (execute p (Supervision.run host) request w).2.launched = w.launched ++ launches.flatten ∧
        List.Forall₂ (fun (e : Exchange) part => ∀ launched ∈ part,
          launched.launch.arguments = e.spec.arguments ∧
          Inherits request w.environment e.step (launched.launch.received w.environment))
          es launches := by
  refine ⟨fun spec parent hnames => ⟨?_, ?_, ?_⟩, fun p request w hnames => ⟨?_, ?_⟩⟩
  · exact CommandSpec.get?_environment hnames parent
  · exact fun hparent => CommandSpec.uniqueNames_environment hparent spec
  · exact CommandSpec.environment?_eq_none_iff.trans Settings.effective_eq_nil_iff
  · intro runner hbooks
    obtain ⟨es, there, hplan, hissued⟩ := execute_plan p request hbooks w
    exact ⟨es, there, hplan, hissued, inherits_of_plan hnames hplan⟩
  · intro host
    obtain ⟨es, launches, there, hplan, henv, hlaunched, hparts⟩ := execute_launches p host request w
    refine ⟨es, launches, there, hplan, henv, hlaunched, ?_⟩
    refine ((List.forall₂_and_left _ _).mpr ⟨inherits_of_plan hnames hplan, hparts⟩).imp ?_
    rintro e part ⟨hcommand, hpart⟩ launched hmem
    obtain ⟨harguments, hreceived⟩ := hpart launched hmem
    exact ⟨harguments, hreceived ▸ hcommand w.environment⟩

/-- Settings of every kind: one that is new, one that takes the place of a parent's, one that is empty
and one that is absent. -/
def mixedSettings : Settings :=
  [("CC", some "clang"), ("LANG", some ""), ("PATH", none), ("MODE", some "debug")]

/-- The sample world in an environment that the settings meet. -/
def mixedWorld : World Unit :=
  { sampleWorld with environment := [("PATH", "/bin"), ("CC", "gcc"), ("LANG", "C")] }

/-- A build with these settings, of which only `cmake` takes notice. -/
def mixedRequest : Request := { sampleRequest with environment := mixedSettings }

/-- The configure command of that build. -/
def mixedCommand : CommandSpec := configureSpec ⟨{}, 4, 2⟩ mixedRequest []

theorem children_inherit_mixed :
    (UniqueNames (mixedCommand.environment mixedWorld.environment) ∧
      ∀ name, (mixedCommand.environment mixedWorld.environment).get? name =
        (mixedSettings.value? name).or (mixedWorld.environment.get? name)) ∧
    (∃ es : List Exchange,
      (execute ⟨{}, 4, 2⟩ (.answering fun spec => .ok (sampleResult spec 0)) mixedRequest
        mixedWorld).2.issued = es.map (·.spec) ∧
      ∀ e ∈ es, ∀ parent, Inherits mixedRequest parent e.step (e.spec.environment parent)) ∧
    ∃ (es : List Exchange) (launches : List (List Launched)),
      (execute ⟨{}, 4, 2⟩ (Supervision.run chattyHost) mixedRequest mixedWorld).2.launched =
        launches.flatten ∧
      launches.flatten.map (fun launched => launched.launch.received mixedWorld.environment) =
        [[("PATH", "/bin"), ("CC", "clang"), ("LANG", "C"), ("MODE", "debug")],
          [("PATH", "/bin"), ("CC", "gcc"), ("LANG", "C")]] ∧
      List.Forall₂ (fun (e : Exchange) part => ∀ launched ∈ part,
        launched.launch.arguments = e.spec.arguments ∧
        Inherits mixedRequest mixedWorld.environment e.step
          (launched.launch.received mixedWorld.environment)) es launches := by
  have hnames : UniqueNames mixedSettings := by decide
  have hparent : UniqueNames mixedWorld.environment := by decide
  obtain ⟨hchildren, hruns⟩ := children_inherit (σ := Unit)
  obtain ⟨hholds, hunique, -⟩ := hchildren mixedCommand mixedWorld.environment hnames
  obtain ⟨hrunners, hhosts⟩ := hruns ⟨{}, 4, 2⟩ mixedRequest mixedWorld hnames
  obtain ⟨handed, -, -, hissued, hcommands⟩ := hrunners
    (.answering fun spec => .ok (sampleResult spec 0)) (Runner.keepsBooks_answering _)
  obtain ⟨es, launches, there, -, -, hlaunched, hparts⟩ := hhosts chattyHost
  have hlaunches : (execute ⟨{}, 4, 2⟩ (Supervision.run chattyHost) mixedRequest
      mixedWorld).2.launched = launches.flatten := hlaunched
  refine ⟨⟨hunique hparent, hholds⟩, ⟨handed, hissued, hcommands⟩, es, launches, hlaunches, ?_,
    hparts⟩
  rw [← hlaunches]
  decide +kernel

end Pipeline

end NativeBuild
