import NativeBuild.Environment
import NativeBuild.Error

/-
  Children: programs that a machine has started, as the supervision sees them. A child is known by
  how it answers: the first wait, polls before and after it is killed, the wait that follows a kill,
  and the bytes of its streams. Any answers are possible.
-/

namespace NativeBuild

/-- What a machine is asked to start. -/
structure Launch where
  arguments : List String
  directory : String
  /-- The child's environment; without one it inherits that of its parent. -/
  environment : Option Variables
  /-- Standard error goes into the pipe of standard output. -/
  merged : Bool
  deriving Repr, DecidableEq

/-- The bytes of a stream, and what reading them ends in, if not the end of the stream. -/
structure Stream where
  bytes : List UInt8 := []
  problem : Option Problem := none

/-- A child that was started, by its answers. -/
structure Child where
  pid : Nat
  /-- The exit code that the first wait gives, or what it raises. -/
  wait : Except Problem Int
  /-- What a poll finds after a number of kills; nothing means that the child still runs. -/
  poll : Nat → Option Int
  /-- The exit code known from the wait that follows a kill; kills are counted from 1. -/
  reap : Nat → Option Int
  stdout : Stream := {}
  stderr : Stream := {}
  /-- The reader whose joining the user interrupts, counted from 1. -/
  joinInterrupted : Option Nat := none
  /-- How many lines of a stream are still to be appended when a join is interrupted, unless the
  reader of the stream was joined before. -/
  behind : String → Nat := fun _ => 0

/-- What the supervision did to a child. -/
inductive ChildEvent where
  | waited (code : Option Int)
  | polled (code : Option Int)
  | killed
  deriving Repr, DecidableEq

/-- A child under supervision: its exit code as far as known, and what was done to it. -/
structure Supervised where
  child : Child
  exit : Option Int := none
  /-- Oldest first. -/
  events : List ChildEvent := []

namespace Supervised

/-- How often the child was killed. -/
def kills (p : Supervised) : Nat := p.events.count .killed

/-- The exit code given by a wait that succeeded. -/
def waited (p : Supervised) (code : Int) : Supervised :=
  { p with exit := some code, events := p.events ++ [.waited (some code)] }

/-- Asks whether the child has exited. A known exit code is not asked for again. -/
def poll (p : Supervised) : Supervised :=
  match p.exit with
  | some code => { p with events := p.events ++ [.polled (some code)] }
  | none =>
    let code := p.child.poll p.kills
    { p with exit := code, events := p.events ++ [.polled code] }

/-- Kills the child and waits for it. -/
def kill (p : Supervised) : Supervised :=
  let code := p.child.reap (p.kills + 1)
  { p with exit := code, events := p.events ++ [.killed, .waited code] }

/-- Makes sure that the child is gone: it is killed when a poll finds it running. Also tells
whether it was killed. -/
def terminate (p : Supervised) : Bool × Supervised :=
  match p.poll.exit with
  | some _ => (false, p.poll)
  | none => (true, p.poll.kill)

theorem kills_poll (p : Supervised) : p.poll.kills = p.kills := by
  unfold poll
  split <;> simp [kills, List.count_append]

end Supervised

/-- A launch and what became of it. -/
structure Launched where
  launch : Launch
  /-- Nothing when the program could not be started. -/
  process : Option Supervised

end NativeBuild
