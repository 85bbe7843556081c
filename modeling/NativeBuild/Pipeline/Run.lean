import NativeBuild.Config
import NativeBuild.Containment
import NativeBuild.FileTree.Directory
import NativeBuild.Pipeline.Commands
import NativeBuild.Pipeline.Outcome
import NativeBuild.Platform
import NativeBuild.Tracing.Scope

/-
  Runs of the pipeline: validate the directories, configure, compile in a number of passes. The
  errors of the build end a run and are reported on its outcome; faults from outside pass through.
  What a failing command wrote is replayed to the log of the caller as warnings, and what a
  compiler wrote to standard error always is.
-/

namespace NativeBuild

/-- Whatever runs commands. -/
abbrev Runner (σ : Type) := CommandSpec → Action σ CommandResult

/-- How a build is run. -/
structure Pipeline where
  tools : Toolchain := {}
  parallelism : Int
  passes : Nat

/-- What a run is asked for. -/
structure Request where
  source : String
  output : String
  definitions : Settings := []
  environment : Settings := []
  target : Option String := none
  deriving Repr, DecidableEq

/-- What one command of a run came to: the record that goes into the results, if any, and the
command's result or the failure that ends the run. -/
structure Attempt where
  evidence : Option CommandResult
  ending : Except Failure CommandResult

/-- What one step of a run came to. -/
structure StepReport where
  evidence : Option CommandResult
  failure : Option Failure

/-- How the steps of a run ended, with the results up to there. -/
inductive Ending where
  | passed (results : List CommandResult)
  | failed (step : Step) (results : List CommandResult) (evidence : Option CommandResult)
    (failure : Failure)

/-- A request for what a config says. -/
def Request.ofConfig (c : BuildConfig) : Request :=
  ⟨c.source.toString, c.output.toString, c.definitions, c.environment, c.target⟩

namespace Pipeline

open NativeBuild.Action

variable {σ : Type}

/-- A pipeline with the given parallelism, or as many jobs as there are execution units, and at
least one pass. -/
def make (tools : Toolchain) (parallelism : Option Int) (units passes : Int) :
    Except Fault Pipeline :=
  if passes < 1 then .error (.tooFewPasses passes)
  else
    match parallelism with
    | some jobs =>
      if jobs < 1 then .error (.tooLittleParallelism jobs) else .ok ⟨tools, jobs, passes.toNat⟩
    | none => .ok ⟨tools, units, passes.toNat⟩

/-- The pipeline enters a stage. -/
def enter (stage : Stage) (detail : String) : Action σ Unit := do
  let before ← look (·.stage)
  note .pipeline .debug ("pipeline " ++ before.name ++ " -> " ++ stage.name ++ " " ++ detail)
  change fun w => { w with stage := stage }

/-- A record of progress in the log of the caller. -/
def inform (message : String) : Action σ Unit := note .caller .info message

/-- Repeats captured lines in the log of the caller. -/
def replay (output : CapturedOutput) : Action σ Unit :=
  write (output.lines.map fun line => ⟨.caller, .warning, line⟩)

/-- Repeats captured outputs one after the other. -/
def replayAll : List CapturedOutput → Action σ Unit
  | [] => pure ()
  | output :: rest => do
    replay output
    replayAll rest

/-- What is wrong with the platform or the directories, if anything. Nothing is changed. -/
def validation (w : World σ) (source output : String) : Except Failure Unit :=
  match Platform.check w.platform with
  | .error e => .error ⟨e, none⟩
  | .ok () => Containment.check w.files w.cwd source output

/-- Refuses a platform or directories that cannot be used. -/
def validate (source output : String) : Action σ Unit := do
  match ← look fun w => validation w source output with
  | .ok () => pure ()
  | .error failure => raise failure.raised

/-- Makes a directory and its missing parents. -/
def makeDirectories (path : Path) : Action σ (Except SystemError Unit) := fun w =>
  let (made, files) := w.files.makeDirectories w.cwd path
  (.ok made, { w with files := files })

/-- Makes the output directory if it is missing. A test of the path that itself goes wrong is a
fault, and so is a path that no system call can take; a directory that cannot be made is a
failure. -/
def ensureOutput (output : String) : Action σ (Option Failure) := do
  let path := Path.ofString output
  if '\x00' ∈ output.toList then raise (.ofFault .embeddedNul)
  match ← look fun w => w.files.isDirectory w.cwd path.toString with
  | .error error => raise (.ofFault (.system error))
  | .ok true => pure none
  | .ok false =>
    match ← makeDirectories path with
    | .ok () =>
      inform ("mkdirs '" ++ path.toString ++ "'")
      pure none
    | .error error =>
      pure (some ⟨.configuration ("could not create output directory '" ++ path.toString ++ "'"),
        some (.fault (.system error))⟩)

/-- Validates the directories and makes the output directory. -/
def prepare (source output : String) : Action σ (Option Failure) := do
  match ← look fun w => validation w source output with
  | .error failure => pure (some failure)
  | .ok () => ensureOutput output

/-- Hands a command to the runner. The partial record of an execution that was cut short is
replayed and kept. -/
def issue (runner : Runner σ) (spec : CommandSpec) : Action σ Attempt := do
  change (·.issuing spec)
  let answer ← attempt (runner spec)
  change (·.answered answer)
  match answer with
  | .ok result => pure ⟨some result, .ok result⟩
  | .error raised =>
    match raised.split with
    | .error _ => raise raised
    | .ok failure =>
      match failure.error with
      | .execution _ (some result) =>
        replayAll result.streams
        pure ⟨some result, .error failure⟩
      | _ => pure ⟨none, .error failure⟩

/-- The configure step. The output of a passing tool stays quiet. -/
def configure (p : Pipeline) (runner : Runner σ) (request : Request) : Action σ StepReport := do
  let here ← look (·.base [request.source, request.output]) >>= ofFault
  let spec := p.tools.configureCommand here request.source request.output request.definitions
    request.environment
  inform ("Running " ++ spec.commandLine)
  inform ("with extra environment variables " ++ request.environment.render)
  let tried ← issue runner spec
  match tried.ending with
  | .error failure => pure ⟨tried.evidence, some failure⟩
  | .ok result =>
    if result.ok then
      let elapsed ← ofFault result.elapsed
      inform ("cmake finished in " ++ toString elapsed ++ " millisecond(s)")
      pure ⟨tried.evidence, none⟩
    else
      replay result.stdout
      pure ⟨tried.evidence, some ⟨.toolFailure "CMake" result, none⟩⟩

/-- One pass of the compile step. Standard error is always replayed, and standard output before it
when the tool failed. -/
def compile (p : Pipeline) (runner : Runner σ) (spec : CommandSpec) (number : Nat) :
    Action σ StepReport := do
  inform ("Running " ++ spec.commandLine ++ " (pass " ++ toString number ++ " of " ++
    toString p.passes ++ ")")
  let tried ← issue runner spec
  match tried.ending with
  | .error failure => pure ⟨tried.evidence, some failure⟩
  | .ok result =>
    if result.ok then
      replayAll result.stderr.toList
      let elapsed ← ofFault result.elapsed
      inform ("make pass " ++ toString number ++ " finished in " ++ toString elapsed ++
        " millisecond(s)")
      pure ⟨tried.evidence, none⟩
    else
      replayAll result.streams
      pure ⟨tried.evidence, some ⟨.toolFailure "make" result, none⟩⟩

/-- The remaining passes of the compile step, the next one with the given number. -/
def compileFrom (p : Pipeline) (runner : Runner σ) (spec : CommandSpec) :
    Nat → Nat → List CommandResult → Action σ Ending
  | 0, _, results => pure (.passed results)
  | remaining + 1, number, results => do
    enter .compiling (Step.compilePass number).label
    let report ← compile p runner spec number
    let results := results ++ report.evidence.toList
    match report.failure with
    | some failure => pure (.failed (.compilePass number) results report.evidence failure)
    | none => compileFrom p runner spec remaining (number + 1) results

/-- All steps of a run, up to the first that fails. -/
def steps (p : Pipeline) (runner : Runner σ) (request : Request) : Action σ Ending := do
  match ← prepare request.source request.output with
  | some failure => pure (.failed .validate [] none failure)
  | none =>
    enter .configuring ""
    let report ← configure p runner request
    let results := report.evidence.toList
    match report.failure with
    | some failure => pure (.failed .configure results report.evidence failure)
    | none =>
      let here ← look (·.base [request.output]) >>= ofFault
      compileFrom p runner
        (p.tools.compileCommand here request.output p.parallelism request.target)
        p.passes 1 results

/-- The record that a failure is about. It is the last of the results when the failing step gave
one. -/
def failedResult (results : List CommandResult) (evidence : Option CommandResult)
    (failure : Failure) : Option FailedResult :=
  failure.error.result?.map fun result =>
    ⟨result, if evidence.isSome then some (results.length - 1) else none⟩

/-- The steps of a run and, when one of them failed, the outcome. -/
def stepsOrOutcome (p : Pipeline) (runner : Runner σ) (request : Request) (started : Float) :
    Action σ (Except Outcome (List CommandResult)) := do
  match ← steps p runner request with
  | .passed results => pure (.ok results)
  | .failed step results evidence failure =>
    enter .failed step.label
    note .caller .error failure.error.message
    let stopped ← readBuildClock
    pure (.error
      { success := false
        stage := .failed
        elapsed := stopped - started
        results := results
        failedStep := some step
        failedResult := failedResult results evidence failure
        failure := some failure.raised })

/-- Runs the pipeline for a request. -/
def execute (p : Pipeline) (runner : Runner σ) (request : Request) : Action σ Outcome := do
  let started ← readBuildClock
  change fun w => { w with stage := .validating }
  let ending ← inSpan "cmakebuild.pipeline" [("target", .text (request.target.getD ""))] fun _ =>
    stepsOrOutcome p runner request started
  match ending with
  | .error outcome => pure outcome
  | .ok results =>
    enter .done ""
    let stopped ← readBuildClock
    let outcome : Outcome :=
      { success := true, stage := .done, elapsed := stopped - started, results := results }
    let elapsed ← ofFault outcome.elapsedMs
    inform ("cmake compilation finished successfully in " ++ toString elapsed ++
      " millisecond(s).")
    pure outcome

/-- Runs the pipeline for a config. -/
def run (p : Pipeline) (runner : Runner σ) (config : BuildConfig) : Action σ Outcome :=
  execute p runner (.ofConfig config)

theorem make_passes_pos {tools : Toolchain} {parallelism : Option Int} {units passes : Int}
    {p : Pipeline} (h : make tools parallelism units passes = .ok p) : 1 ≤ p.passes := by
  unfold make at h
  split at h
  · cases h
  · split at h
    · split at h
      · cases h
      · cases h; simp; omega
    · cases h; simp; omega

end Pipeline

end NativeBuild
