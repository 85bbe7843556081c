import NativeBuild.Command.Result

/-
  The errors that a build raises on its own account. A run of the pipeline ends with one of them
  as part of its outcome, while a fault from outside passes through. An error may carry the fault
  it was made from as its cause.
-/

namespace NativeBuild

/-- The errors of the build. -/
inductive BuildError where
  /-- An error of no particular kind. -/
  | general (text : String)
  /-- The directories cannot be used together, or not at all. -/
  | configuration (text : String)
  | unsupportedPlatform (platform : String)
  /-- A command without a program. -/
  | emptyCommand
  /-- A line for an output that is final. -/
  | outputSealed (name : String)
  /-- A program that could not be started. -/
  | launch (command : List String) (error : SystemError)
  /-- A process that was interrupted or could not be read, with what it had given by then. -/
  | execution (text : String) (result : Option CommandResult)
  /-- A tool that ended with another code than 0. -/
  | toolFailure (tool : String) (result : CommandResult)

namespace BuildError

/-- The text of an error. -/
def message : BuildError → String
  | general text | configuration text | execution text _ => text
  | unsupportedPlatform platform =>
    "CMake builds are not supported on the " ++ platform ++ " platform"
  | emptyCommand => "Command requires at least a program name"
  | outputSealed name => "Captured " ++ name ++ " is sealed and can no longer change"
  | launch command error =>
    "Error executing " ++ command.headD "<empty>" ++ ": " ++ error.message
  | toolFailure tool result =>
    tool ++ " failed with error code " ++ toString result.returnCode

/-- The record of the process that an error is about. -/
def result? : BuildError → Option CommandResult
  | execution _ result => result
  | toolFailure _ result => some result
  | _ => none

end BuildError

/-- Whatever an operation may raise: an error of the build or a fault from outside. -/
inductive Problem where
  | error (error : BuildError)
  | fault (fault : Fault)

namespace Problem

/-- The text of a problem. -/
def message : Problem → String
  | error e => e.message
  | fault f => f.message

/-- Draining a stream takes these as the end of the stream: errors of the operating system and
unusable values, and the error of a command without a program is one of the latter. -/
def isStreamError : Problem → Bool
  | fault f => f.family == .system || f.family == .value
  | error .emptyCommand => true
  | error _ => false

/-- The user's interrupt. -/
def isUserInterrupt : Problem → Bool
  | fault f => f.family == .interrupt
  | error _ => false

/-- A wait is ended by these and not failed: the user's interrupt and errors of the operating
system. -/
def isInterruption : Problem → Bool
  | fault f => f.family == .interrupt || f.family == .system
  | error _ => false

end Problem

/-- A problem as it is raised, with the problem it was made from, if there is one. -/
structure Raised where
  problem : Problem
  cause : Option Problem := none

namespace Raised

/-- A fault of its own accord. -/
def ofFault (f : Fault) : Raised := ⟨.fault f, none⟩

/-- An error of the build made from a fault. -/
def chained (e : BuildError) (cause : Problem) : Raised := ⟨.error e, some cause⟩

end Raised

/-- An error of the build with its cause, as an outcome reports it. -/
structure Failure where
  error : BuildError
  cause : Option Problem

/-- What was raised, sorted by whether a run reports it or lets it pass. -/
def Raised.split : Raised → Except Fault Failure
  | ⟨.error e, cause⟩ => .ok ⟨e, cause⟩
  | ⟨.fault f, _⟩ => .error f

/-- A failure raised again. -/
def Failure.raised (f : Failure) : Raised := ⟨.error f.error, f.cause⟩

end NativeBuild
