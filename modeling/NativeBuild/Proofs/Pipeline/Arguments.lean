import NativeBuild.Pipeline.Commands

/-
  The settings of a build read back from the arguments of its commands. `BuildSettings` is what a command
  is to carry out, as far as it has an effect, and `read?` reads it from the arguments alone: of the
  configure command everything between the first two arguments and the last two is a cache variable, each
  split at its first equals sign (`definitionOf`). The values may hold anything, also what looks like
  another argument, because an argument is told by its place. What is read is what was written
  (`read?_arguments`), so no two settings give the same arguments (`arguments_inj`).
-/

namespace NativeBuild

/-- What a command of a build is to carry out, as far as it has an effect. -/
inductive BuildSettings where
  | configure (cmake source : String) (definitions : Variables) (generator : String)
  | compile (make : String) (parallelism : Int) (target : Option String)
  deriving DecidableEq

namespace BuildSettings

/-- The arguments that carry settings. -/
def arguments : BuildSettings → List String
  | configure cmake source definitions generator =>
    cmake :: source :: (definitions.map fun (name, value) => Toolchain.definition name value) ++
      ["-G", generator]
  | compile make parallelism target =>
    [make, "-j" ++ toString parallelism, Toolchain.verboseFlag] ++ target.toList

/-- Settings whose cache variables can be told from their values: no name holds an equals sign. -/
def Readable : BuildSettings → Prop
  | configure _ _ definitions _ => ∀ entry ∈ definitions, '=' ∉ entry.1.toList
  | compile _ _ _ => True

/-! ## Reading arguments -/

/-- The cache variable of an argument: what follows the leading `-D`, split at its first equals sign. -/
def definitionOf (argument : String) : String × String :=
  let text := argument.toList.drop 2
  (.ofList (text.takeWhile (· != '=')), .ofList ((text.dropWhile (· != '=')).drop 1))

/-- The cache variables among the arguments of a configure command: all but the first two arguments
and the last two. -/
def definitionsOf (arguments : List String) : Variables :=
  ((arguments.drop 2).dropLast.dropLast).map definitionOf

/-- Settings read from the arguments of a configure command, told by the flag before the last. -/
def configured? : List String → Option BuildSettings
  | cmake :: source :: rest =>
    match rest.reverse with
    | generator :: "-G" :: _ =>
      some (configure cmake source (definitionsOf (cmake :: source :: rest)) generator)
    | _ => none
  | _ => none

/-- The number that digits spell. -/
def natural? (digits : List Char) : Option Nat :=
  if digits ≠ [] ∧ digits.all Char.isDigit then some (Nat.ofDigitChars 10 digits 0) else none

/-- The integer that digits spell, after a minus sign or without one. -/
def integer? : List Char → Option Int
  | '-' :: digits => (natural? digits).map fun (n : Nat) => -(n : Int)
  | digits => (natural? digits).map fun (n : Nat) => (n : Int)

/-- Settings read from the arguments of a compile command, the number after the leading `-j`. Without
a target there is one argument less. -/
def compiled? : List String → Option BuildSettings
  | make :: jobs :: _ :: rest =>
    (integer? (jobs.toList.drop 2)).map fun parallelism => compile make parallelism rest.head?
  | _ => none

/-- Settings read from the arguments of a command, whichever of the two it is. -/
def read? (arguments : List String) : Option BuildSettings :=
  (configured? arguments).or (compiled? arguments)

/-! ## What is read is what was written -/

theorem definitionOf_definition {name : String} (h : '=' ∉ name.toList) (value : String) :
    definitionOf (Toolchain.definition name value) = (name, value) := by
  have htext : (Toolchain.definition name value).toList.drop 2 =
      name.toList ++ '=' :: value.toList := by
    simp [Toolchain.definition]
  -- The name is taken whole, for it holds no equals sign; the sign after it ends the taking.
  have hname : ∀ c ∈ name.toList, (c != '=') = true := by
    intro c hc
    simp only [bne_iff_ne, ne_eq]
    rintro rfl
    exact h hc
  simp [definitionOf, htext, List.takeWhile_append_of_pos hname, List.dropWhile_append_of_pos hname]

theorem definitionsOf_arguments (cmake source : String) {definitions : Variables}
    (h : ∀ entry ∈ definitions, '=' ∉ entry.1.toList) (generator : String) :
    definitionsOf (configure cmake source definitions generator).arguments = definitions := by
  have hmiddle : ((configure cmake source definitions generator).arguments.drop 2).dropLast.dropLast =
      definitions.map fun (name, value) => Toolchain.definition name value := by
    simp [arguments]
  rw [definitionsOf, hmiddle, List.map_map]
  refine (List.map_congr_left fun entry hentry => ?_).trans (List.map_id definitions)
  exact definitionOf_definition (h entry hentry) entry.2

theorem configured?_arguments {cmake source : String} {definitions : Variables} {generator : String}
    (h : (configure cmake source definitions generator).Readable) :
    configured? (configure cmake source definitions generator).arguments =
      some (configure cmake source definitions generator) := by
  have hread := definitionsOf_arguments cmake source h generator
  simp only [arguments, List.cons_append] at hread ⊢
  simp [configured?, hread]

/-- The flag before the last is never the generator's, whatever the target looks like. -/
theorem configured?_compile (make : String) (parallelism : Int) (target : Option String) :
    configured? (compile make parallelism target).arguments = none := by
  cases target <;> simp [configured?, arguments, Toolchain.verboseFlag]

theorem natural?_toDigits (n : Nat) : natural? (Nat.toDigits 10 n) = some n := by
  have hdigits : (Nat.toDigits 10 n).all Char.isDigit = true :=
    List.all_eq_true.mpr fun _ hc => Nat.isDigit_of_mem_toDigits (by decide) (by decide) hc
  rw [natural?, if_pos ⟨Nat.toDigits_ne_nil, hdigits⟩, Nat.ofDigitChars_ten_toDigits]

/-- Digits are read without a sign, for none of them is a minus. -/
theorem integer?_toDigits (n : Nat) : integer? (Nat.toDigits 10 n) = some (n : Int) := by
  unfold integer?
  split
  next digits heq =>
    have hminus : '-' ∈ Nat.toDigits 10 n := heq ▸ List.mem_cons_self
    exact absurd (Nat.isDigit_of_mem_toDigits (by decide) (by decide) hminus) (by decide)
  next => rw [natural?_toDigits, Option.map_some]

theorem integer?_repr (n : Int) : integer? n.repr.toList = some n := by
  rw [Int.repr_eq_if]
  by_cases hsign : 0 ≤ n
  · rw [if_pos hsign, Nat.toList_repr, integer?_toDigits, Int.toNat_of_nonneg hsign]
  · have hopposite : ((-n).toNat : Int) = -n := Int.toNat_of_nonneg (by omega)
    rw [if_neg hsign, String.toList_append, Nat.toList_repr]
    change (natural? (Nat.toDigits 10 (-n).toNat)).map (fun (k : Nat) => -(k : Int)) = some n
    rw [natural?_toDigits, Option.map_some, hopposite, Int.neg_neg]

theorem compiled?_arguments (make : String) (parallelism : Int) (target : Option String) :
    compiled? (compile make parallelism target).arguments =
      some (compile make parallelism target) := by
  have hnumber : ("-j" ++ toString parallelism).toList.drop 2 = parallelism.repr.toList := by
    simp [toString]
  have htarget : target.toList.head? = target := by
    cases target <;> rfl
  simp only [compiled?, arguments, List.cons_append, List.nil_append, hnumber, htarget,
    integer?_repr, Option.map_some]

theorem read?_arguments {settings : BuildSettings} (h : settings.Readable) :
    read? settings.arguments = some settings := by
  cases settings with
  | configure cmake source definitions generator => simp [read?, configured?_arguments h]
  | compile make parallelism target => simp [read?, configured?_compile, compiled?_arguments]

theorem arguments_inj {settings others : BuildSettings} (h : settings.Readable)
    (hothers : others.Readable) : settings.arguments = others.arguments ↔ settings = others := by
  refine ⟨fun heq => ?_, congrArg arguments⟩
  have hread : some settings = some others := by
    rw [← read?_arguments h, heq, read?_arguments hothers]
  exact Option.some.inj hread

end BuildSettings

namespace Toolchain

variable (tools : Toolchain)

/-! ## The commands of a build -/

/-- The settings of a configure command: of the cache variables, those that have a value. -/
def configureSettings (cwd : Path) (source : String) (definitions : Settings) : BuildSettings :=
  .configure tools.cmake (cwd.absolute (.ofString source)).toString definitions.effective
    tools.generator

/-- The settings of a compile command. -/
def compileSettings (parallelism : Int) (target : Option String) : BuildSettings :=
  .compile tools.make parallelism target

theorem configureSettings_arguments (cwd : Path) (source output : String)
    (definitions environment : Settings) :
    (tools.configureCommand cwd source output definitions environment).arguments =
      (tools.configureSettings cwd source definitions).arguments := rfl

theorem compileSettings_arguments (cwd : Path) (output : String) (parallelism : Int)
    (target : Option String) :
    (tools.compileCommand cwd output parallelism target).arguments =
      (tools.compileSettings parallelism target).arguments := rfl

theorem readable_configureSettings {definitions : Settings}
    (h : ∀ entry ∈ definitions, '=' ∉ entry.1.toList) (cwd : Path) (source : String) :
    (tools.configureSettings cwd source definitions).Readable := by
  intro (name, value) hentry
  exact h (name, some value) (Settings.mem_effective.mp hentry).1

theorem readable_compileSettings (parallelism : Int) (target : Option String) :
    (tools.compileSettings parallelism target).Readable := trivial

/-- Both commands of a build carry their settings in their arguments. Of a configure command the
arguments but the first two and the last two, split at their first equals sign, are the variables
that have a value, in their order, and the other four hold `cmake`, the absolute source and the
generator; of a compile command the arguments give the program, the number of jobs and the target.
So two commands have the same arguments exactly when they have the same settings, and a configure
command never has those of a compile command. -/
theorem settings_read_back (cwd : Path) (source output : String) (definitions environment : Settings)
    (h : ∀ entry ∈ definitions, '=' ∉ entry.1.toList) (parallelism : Int) (target : Option String) :
    let configure := (tools.configureCommand cwd source output definitions environment).arguments
    let compile := (tools.compileCommand cwd output parallelism target).arguments
    BuildSettings.definitionsOf configure = definitions.effective ∧
      configure.take 2 ++ configure.drop (configure.length - 2) =
        [tools.cmake, (cwd.absolute (.ofString source)).toString, "-G", tools.generator] ∧
      BuildSettings.read? configure = some (tools.configureSettings cwd source definitions) ∧
      BuildSettings.read? compile = some (tools.compileSettings parallelism target) ∧
      configure ≠ compile ∧
      (∀ (tools' : Toolchain) (cwd' : Path) (source' output' : String)
        (definitions' environment' : Settings),
        (∀ entry ∈ definitions', '=' ∉ entry.1.toList) →
        (configure =
            (tools'.configureCommand cwd' source' output' definitions' environment').arguments ↔
          tools.configureSettings cwd source definitions =
            tools'.configureSettings cwd' source' definitions')) ∧
      (∀ (tools' : Toolchain) (cwd' : Path) (output' : String) (parallelism' : Int)
        (target' : Option String),
        (compile = (tools'.compileCommand cwd' output' parallelism' target').arguments ↔
          tools.compileSettings parallelism target =
            tools'.compileSettings parallelism' target')) := by
  intro configure compile
  have hreadable := tools.readable_configureSettings h cwd source
  have hcompiles := tools.readable_compileSettings parallelism target
  have hconfigure : configure = (tools.configureSettings cwd source definitions).arguments := rfl
  have hcompile : compile = (tools.compileSettings parallelism target).arguments := rfl
  refine ⟨?definitions, ?rest, ?configure, ?compile, ?apart, ?configures, ?compiles⟩
  case definitions =>
    exact BuildSettings.definitionsOf_arguments _ _ hreadable _
  case rest =>
    have hlength : configure.length - 2 = (definitions.effective.map fun (name, value) =>
        definition name value).length + 2 := by
      simp [hconfigure, configureSettings, BuildSettings.arguments]
    rw [hlength, hconfigure]
    simp [configureSettings, BuildSettings.arguments]
  case configure =>
    rw [hconfigure, BuildSettings.read?_arguments hreadable]
  case compile =>
    rw [hcompile, BuildSettings.read?_arguments hcompiles]
  case apart =>
    rw [hconfigure, hcompile, ne_eq, BuildSettings.arguments_inj hreadable hcompiles]
    exact fun heq => BuildSettings.noConfusion heq
  case configures =>
    intro tools' cwd' source' output' definitions' environment' h'
    rw [hconfigure, configureSettings_arguments]
    exact BuildSettings.arguments_inj hreadable (tools'.readable_configureSettings h' cwd' source')
  case compiles =>
    intro tools' cwd' output' parallelism' target'
    rw [hcompile, compileSettings_arguments]
    exact BuildSettings.arguments_inj hcompiles (tools'.readable_compileSettings parallelism' target')

/-- Cache variables whose values look like other arguments, one that is empty and one that is absent. -/
def oddDefinitions : Settings :=
  [("FLAGS", some "-G=\n -O2"), ("CC", some ""), ("-D", some "-G"), ("PREFIX", none)]

theorem settings_read_back_odd :
    let configure :=
      (configureCommand {} ⟨.root, ["home"]⟩ "src" "out" oddDefinitions []).arguments
    let compile := (compileCommand {} ⟨.root, ["home"]⟩ "out" 12 (some "")).arguments
    configure = ["cmake", "/home/src", "-DFLAGS=-G=\n -O2", "-D-D=-G", "-G", "Unix Makefiles"] ∧
      (∀ entry ∈ oddDefinitions, '=' ∉ entry.1.toList) ∧
      BuildSettings.definitionsOf configure = [("FLAGS", "-G=\n -O2"), ("-D", "-G")] ∧
      BuildSettings.read? compile = some (.compile "make" 12 (some "")) := by
  intro configure compile
  have hplain : ∀ entry ∈ oddDefinitions, '=' ∉ entry.1.toList := by decide
  obtain ⟨hdefinitions, -, -, hcompile, -⟩ := settings_read_back {} ⟨.root, ["home"]⟩ "src" "out"
    oddDefinitions [] hplain 12 (some "")
  have hconfigure : configure =
      ["cmake", "/home/src", "-DFLAGS=-G=\n -O2", "-D-D=-G", "-G", "Unix Makefiles"] := by
    decide +kernel
  exact ⟨hconfigure, hplain, hdefinitions, hcompile⟩

end Toolchain

end NativeBuild
