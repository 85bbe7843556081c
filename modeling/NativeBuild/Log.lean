/-
  Log records. A record names the log it is written to, because the progress of a build goes to
  the log of the caller while the pipeline, the supervision of processes and the tracing keep
  logs of their own.
-/

namespace NativeBuild

/-- The logs. Readers of output streams write to the log of the supervision from their own
threads, so their records are told apart. -/
inductive Logger where
  | caller
  | pipeline
  | supervision
  | reader
  | tracing
  deriving Repr, DecidableEq

/-- How important a record is. -/
inductive Level where
  | debug
  | info
  | warning
  | error
  deriving Repr, DecidableEq

/-- One log record. -/
structure Record where
  logger : Logger
  level : Level
  message : String
  deriving Repr, DecidableEq

end NativeBuild
