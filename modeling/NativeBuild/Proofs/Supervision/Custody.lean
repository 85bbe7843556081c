import NativeBuild.Proofs.Supervision.Record

/-
  Custody of a child. Whatever is raised while a child is started, waited for or drained, it is gone
  when its run is over, and it was not killed without need. `Handled` says all that the supervision
  ever does to a child: it waits, it polls, and it kills a child that a poll has just found running
  and waits again. What a kill stands between, and that no exit was known before it, follows by
  induction (`Handled.around_kill`).

  Draining is a parameter here (`Drainage`): readers that are attached and collected may raise
  anything at either point. `runBy` is a run that drains so, and with the readers of the program it
  is `run` (`runBy_readers`).
-/

namespace NativeBuild

variable {σ α β : Type}

/-- The exit code that an event tells. -/
def ChildEvent.code? : ChildEvent → Option Int
  | .waited code? | .polled code? => code?
  | .killed => none

/-- All that is ever done to a child, with its exit code as far as known after it. -/
inductive Handled : Option Int → List ChildEvent → Prop
  | untouched : Handled none []
  | waited {events : List ChildEvent} (code : Int) (h : Handled none events) :
    Handled (some code) (events ++ [.waited (some code)])
  | polled {exit? : Option Int} {events : List ChildEvent} (code : Int) (h : Handled exit? events) :
    Handled (some code) (events ++ [.polled (some code)])
  | killed {events : List ChildEvent} (code? : Option Int) (h : Handled none events) :
    Handled code? (events ++ [.polled none, .killed, .waited code?])

namespace Handled

variable {exit? : Option Int} {events before after : List ChildEvent}

/-- As long as the exit is not known, no event has told it. -/
theorem untold (h : Handled exit? events) (hexit : exit? = none) :
    ∀ event ∈ events, event.code? = none := by
  induction h with
  | untouched => simp
  | waited code _ _ => cases hexit
  | polled code _ _ => cases hexit
  | killed code? _ ih =>
    subst hexit
    intro event hmem
    rcases List.mem_append.mp hmem with hold | hnew
    · exact ih rfl event hold
    · simp only [List.mem_cons, List.not_mem_nil, or_false] at hnew
      rcases hnew with rfl | rfl | rfl <;> rfl

/-- An event other than a kill stands behind every kill of a history that it ends. -/
theorem split_last {event : ChildEvent} (hevent : event ≠ .killed)
    (h : events ++ [event] = before ++ .killed :: after) :
    ∃ middle, events = before ++ .killed :: middle ∧ after = middle ++ [event] := by
  rcases List.eq_nil_or_concat after with rfl | ⟨middle, last, rfl⟩
  · have hlast := (List.append_inj' h rfl).2
    exact absurd (List.singleton_inj.mp hlast) hevent
  · rw [List.concat_eq_append] at h ⊢
    have hshape : events ++ [event] = (before ++ .killed :: middle) ++ [last] := by
      rw [h, List.append_assoc, List.cons_append]
    obtain ⟨hevents, hlast⟩ := List.append_inj' hshape rfl
    exact ⟨middle, hevents, by rw [hlast]⟩

/-- What stands around a kill: right before it a poll that found the child running, and right after
it a wait. No event before it told an exit code, and there is no further kill when the wait gives
one. -/
structure Justified (before after : List ChildEvent) : Prop where
  polled : ∃ earlier, before = earlier ++ [.polled none]
  untold : ∀ event ∈ before, event.code? = none
  reaped : ∃ code? later, after = .waited code? :: later ∧ (code?.isSome = true → .killed ∉ later)

/-- A kill stays justified while the child is not killed again. -/
theorem Justified.snoc (h : Justified before after) {event : ChildEvent} (hevent : event ≠ .killed) :
    Justified before (after ++ [event]) := by
  obtain ⟨hpoll, huntold, code?, later, rfl, honce⟩ := h
  refine ⟨hpoll, huntold, code?, later ++ [event], rfl, fun hsome => ?_⟩
  simpa [Ne.symm hevent] using honce hsome

/-- Every kill is justified. -/
theorem around_kill (h : Handled exit? events) (hevents : events = before ++ .killed :: after) :
    Justified before after := by
  induction h generalizing before after with
  | untouched => simp at hevents
  | waited code _ ih =>
    obtain ⟨middle, hold, rfl⟩ := split_last (by simp) hevents
    exact (ih hold).snoc (by simp)
  | polled code _ ih =>
    obtain ⟨middle, hold, rfl⟩ := split_last (by simp) hevents
    exact (ih hold).snoc (by simp)
  | @killed events code? hhandled ih =>
    have huntold := hhandled.untold rfl
    rw [show events ++ [.polled none, .killed, .waited code?] =
      (events ++ [.polled none, .killed]) ++ [.waited code?] by simp] at hevents
    obtain ⟨middle, hold, rfl⟩ := split_last (by simp) hevents
    rcases List.eq_nil_or_concat middle with rfl | ⟨inner, last, rfl⟩
    · -- the kill is the last one
      have hbefore : before = events ++ [.polled none] := by
        have hshape : (events ++ [.polled none]) ++ [.killed] = before ++ [.killed] := by
          simpa using hold
        exact (List.append_inj' hshape rfl).1.symm
      subst hbefore
      refine ⟨⟨events, rfl⟩, ?_, code?, [], rfl, by simp⟩
      intro event hmem
      rcases List.mem_append.mp hmem with hin | hlast
      · exact huntold event hin
      · rw [List.mem_singleton.mp hlast]
        rfl
    · -- an earlier kill: its wait gave nothing, since the child was killed again
      have hshape : (events ++ [.polled none]) ++ [.killed] =
          (before ++ .killed :: inner) ++ [last] := by
        simpa using hold
      obtain ⟨hinit, hlast⟩ := List.append_inj' hshape rfl
      obtain ⟨earlier, hevents', rfl⟩ := split_last (by simp) hinit
      obtain ⟨hpoll, hnone, first?, later, rfl, -⟩ := ih hevents'
      have hfirst : first? = none := huntold (.waited first?) (by rw [hevents']; simp)
      refine ⟨hpoll, hnone, first?, later ++ [.polled none] ++ [last] ++ [.waited code?], ?_, ?_⟩
      · simp
      · rw [hfirst]
        simp

end Handled

/-! ## What the supervision does -/

namespace Supervised

/-- The known exit code and the events fit together. -/
def Guarded (p : Supervised) : Prop := Handled p.exit p.events

/-- A child whose supervision is over. -/
structure Released (p : Supervised) : Prop where
  /-- Its exit code is known, unless it was killed and the waits after all kills gave none. -/
  gone : p.exit.isSome = true ∨ (.killed ∈ p.events ∧ ∀ before code? after,
    p.events = before ++ .killed :: .waited code? :: after → code? = none)
  /-- A kill comes right after a poll that found it running, and never after its exit was seen. -/
  needed : ∀ before after, p.events = before ++ .killed :: after →
    (∃ earlier, before = earlier ++ [.polled none]) ∧ ∀ event ∈ before, event.code? = none
  /-- A kill is followed by a wait, and by no other kill when that gives an exit code. -/
  reaped : ∀ before after, p.events = before ++ .killed :: after →
    ∃ code? later, after = .waited code? :: later ∧ (code?.isSome = true → .killed ∉ later)

theorem guarded_fresh (child : Child) : (Supervision.fresh child).Guarded := Handled.untouched

theorem guarded_waited {p : Supervised} (h : p.Guarded) (hexit : p.exit = none) (code : Int) :
    (p.waited code).Guarded := by
  unfold Guarded at h
  rw [hexit] at h
  exact .waited code h

/-- Making sure that a child is gone: it is polled, and killed when it still runs. -/
theorem terminate_cases (p : Supervised) :
    (∃ code, p.terminate.2.exit = some code ∧
      p.terminate.2.events = p.events ++ [.polled (some code)]) ∨
    (p.exit = none ∧ p.terminate.2.exit = p.child.reap (p.kills + 1) ∧
      p.terminate.2.events =
        p.events ++ [.polled none, .killed, .waited (p.child.reap (p.kills + 1))]) := by
  have hkills := p.kills_poll
  unfold terminate
  cases hexit : p.exit with
  | some code =>
    have hpoll : p.poll = { p with events := p.events ++ [.polled (some code)] } := by
      simp [poll, hexit]
    exact .inl ⟨code, by simp [hpoll, hexit], by simp [hpoll, hexit]⟩
  | none =>
    cases hfound : p.child.poll p.kills with
    | some code =>
      have hpoll : p.poll = { p with exit := some code, events := p.events ++ [.polled (some code)] } := by
        simp [poll, hexit, hfound]
      exact .inl ⟨code, by simp [hpoll], by simp [hpoll]⟩
    | none =>
      have hpoll : p.poll = { p with exit := none, events := p.events ++ [.polled none] } := by
        simp [poll, hexit, hfound]
      rw [hpoll] at hkills ⊢
      exact .inr ⟨rfl, by simp [kill, hkills], by simp [kill, hkills]⟩

theorem guarded_terminate {p : Supervised} (h : p.Guarded) : p.terminate.2.Guarded := by
  unfold Guarded at h ⊢
  rcases p.terminate_cases with ⟨code, hexit, hevents⟩ | ⟨hnone, hexit, hevents⟩
  · rw [hexit, hevents]
    exact .polled code h
  · rw [hexit, hevents]
    rw [hnone] at h
    exact .killed _ h

/-- A child that was made sure of is released. -/
theorem released_terminate {p : Supervised} (h : p.Guarded) : p.terminate.2.Released := by
  have hguarded := guarded_terminate h
  refine ⟨?_, fun before after hevents => ?_, fun before after hevents => ?_⟩
  · cases hexit : p.terminate.2.exit with
    | some code => exact .inl rfl
    | none =>
      refine .inr ⟨?_, fun before code? after hevents => ?_⟩
      · rcases p.terminate_cases with ⟨code, hsome, -⟩ | ⟨-, -, hevents⟩
        · rw [hexit] at hsome
          cases hsome
        · rw [hevents]
          simp
      · exact Handled.untold hguarded hexit (.waited code?) (by rw [hevents]; simp)
  · have hjustified := Handled.around_kill hguarded hevents
    exact ⟨hjustified.polled, hjustified.untold⟩
  · exact (Handled.around_kill hguarded hevents).reaped

end Supervised

/-! ## Runs that drain in any way -/

namespace Supervision

open NativeBuild.Action

/-- An action that starts no process and does nothing to one. -/
def KeepsLaunches (x : Action σ α) : Prop := ∀ w, (x w).2.launched = w.launched

/-- A way to drain a child: readers are attached to its streams before it is waited for, and what
they got is collected when it is gone. Either may raise anything. -/
structure Drainage (σ : Type) where
  attach : CommandSpec → Child → Action σ (List Drained)
  collect : CommandSpec → Float → List Drained → Option Int → Supervised → Action σ CommandResult

namespace Drainage

/-- Draining leaves the processes alone. -/
structure Detached (drainage : Drainage σ) : Prop where
  attach : ∀ spec child, KeepsLaunches (drainage.attach spec child)
  collect : ∀ spec started readers code? p,
    KeepsLaunches (drainage.collect spec started readers code? p)

/-- The readers of the program: each reads its stream to the end and says what it could not read. -/
def readers : Drainage σ where
  attach spec child := do
    write (readerRecords (readAll spec child))
    pure (readAll spec child)
  collect := Supervision.collect

theorem detached_readers : (readers : Drainage σ).Detached where
  attach _ _ _ := rfl
  collect spec started drained code? p w := by
    change (Supervision.collect spec started drained code? p w).2.launched = w.launched
    unfold Supervision.collect
    rw [readCommandClock_bind]
    dsimp only
    split
    · rfl
    · cases firstProblem drained <;> rfl

end Drainage

/-- Attending to a child that is drained in a given way. -/
def attendBy (drainage : Drainage σ) (spec : CommandSpec) (started : Float) (child : Child) :
    Action σ CommandResult := do
  match ← attempt (drainage.attach spec child) with
  | .error raised =>
    let _ ← terminate spec (fresh child)
    conclude (.error raised)
  | .ok readers =>
    match child.wait with
    | .ok code =>
      let ending ← attempt
        (drainage.collect spec started readers (some code) ((fresh child).waited code))
      let _ ← terminate spec ((fresh child).waited code)
      conclude ending
    | .error problem =>
      if problem.isInterruption then
        let p ← terminate spec (fresh child)
        let ending ← attempt do
          let result ← drainage.collect spec started readers none p
          raise (.chained
            (.execution ("Interrupted while waiting for " ++ spec.program ++ " process")
              (some result))
            problem)
        let _ ← terminate spec p
        conclude ending
      else
        let _ ← terminate spec (fresh child)
        raise ⟨problem, none⟩

/-- Starting a program whose child is drained in a given way. -/
def startBy (drainage : Drainage σ) (host : Host σ) (spec : CommandSpec) :
    Action σ CommandResult := do
  let started ← readCommandClock
  match ← start host spec with
  | .ok child => attendBy drainage spec started child
  | .error (.fault (.system error)) =>
    note .supervision .debug ("Exception for " ++ spec.commandLine)
    raise (.chained (.launch spec.arguments error) (.fault (.system error)))
  | .error problem => raise ⟨problem, none⟩

/-- What is said of a command that has ended. -/
def reported (spec : CommandSpec) (result : CommandResult) : Action σ CommandResult := do
  let elapsed ← ofFault result.elapsed
  note .supervision .debug (spec.program ++ " exited with " ++ toString result.returnCode ++
    " after " ++ toString elapsed ++ " ms")
  pure result

/-- Running a command whose child is drained in a given way. -/
def runBy (drainage : Drainage σ) (host : Host σ) (spec : CommandSpec) :
    Action σ CommandResult := do
  checkDirectory spec
  note .supervision .debug ("Running " ++ spec.commandLine ++ " in " ++ spec.directory.toString)
  let result ← inSpan "cmakebuild.run" [("program", .text spec.program)] fun active => do
    let result ← startBy drainage host spec
    setAttribute active "returncode" (.integer result.returnCode)
    pure result
  reported spec result

theorem attendBy_readers : attendBy (σ := σ) .readers = attend := by
  funext spec started child w
  unfold attendBy attend
  rw [attempt_bind, write_bind]
  rfl

/-- With the readers of the program, a run is the run of the program. -/
theorem runBy_readers (host : Host σ) (spec : CommandSpec) :
    runBy .readers host spec = run host spec := by
  have hstart : startBy .readers host spec = startAndAttend host spec := by
    unfold startBy startAndAttend
    exact attendBy_readers (σ := σ) ▸ rfl
  unfold runBy run
  rw [hstart]
  rfl

/-! ## Custody -/

/-- The last process on the books is now this one, which is released. -/
def Disposed (child : Child) (w w' : World σ) : Prop :=
  ∃ p : Supervised, p.child = child ∧ p.Released ∧ w'.launched = recallLast w.launched p

theorem keepsLaunches_raise (raised : Raised) : KeepsLaunches (raise raised : Action σ α) :=
  fun _ => rfl

/-- What follows an action and leaves the processes alone does not show on the books. -/
theorem launched_bind (x : Action σ α) {f : α → Action σ β} (hf : ∀ a, KeepsLaunches (f a))
    (w : World σ) : ((x >>= f) w).2.launched = (x w).2.launched := by
  rcases h : x w with ⟨raised | a, w₁⟩
  · rw [bind_of_error h]
  · rw [bind_of_ok h]
    exact hf a w₁

theorem keepsLaunches_bind {x : Action σ α} {f : α → Action σ β} (hx : KeepsLaunches x)
    (hf : ∀ a, KeepsLaunches (f a)) : KeepsLaunches (x >>= f) :=
  fun w => (launched_bind x hf w).trans (hx w)

/-- A child is made sure of after an action that left the processes alone. -/
theorem disposed_terminate {x : Action σ α} (hx : KeepsLaunches x) {p : Supervised}
    (hp : p.Guarded) (spec : CommandSpec) (w : World σ) :
    Disposed p.child w
      ((attempt x >>= fun ending => terminate spec p >>= fun _ => conclude ending) w).2 := by
  have hend := terminate_after (show x w = ((x w).1, (x w).2) from rfl) spec p
  rw [hend]
  exact ⟨p.terminate.2, p.child_terminate, Supervised.released_terminate hp,
    congrArg (recallLast · p.terminate.2) (hx w)⟩

/-- Whatever else is then known of the last process, it may have been something before. -/
theorem Disposed.of_remembered {child : Child} {p : Supervised} {w w₁ w' : World σ}
    (h : Disposed child w₁ w') (hw : w₁.launched = recallLast w.launched p) :
    Disposed child w w' := by
  obtain ⟨p', hchild, hreleased, hlaunched⟩ := h
  refine ⟨p', hchild, hreleased, ?_⟩
  rw [hlaunched, hw, recallLast_recallLast]

/-- However a child is drained and whatever is raised, it is released when attending to it ends. -/
theorem disposed_attendBy {drainage : Drainage σ} (hdetached : drainage.Detached)
    (spec : CommandSpec) (started : Float) (child : Child) (w : World σ) :
    Disposed child w (attendBy drainage spec started child w).2 := by
  have hfresh := Supervised.guarded_fresh child
  have hkept := hdetached.attach spec child w
  unfold attendBy
  rw [attempt_bind]
  generalize (drainage.attach spec child w).1 = attached at *
  generalize (drainage.attach spec child w).2 = w₁ at *
  suffices h : Disposed child w₁ _ by
    obtain ⟨p, hchild, hreleased, hlaunched⟩ := h
    exact ⟨p, hchild, hreleased, by rw [hlaunched, hkept]⟩
  cases attached with
  | error raised => exact disposed_terminate (keepsLaunches_raise raised) hfresh spec w₁
  | ok readers =>
    dsimp only
    cases child.wait with
    | ok code =>
      exact disposed_terminate (hdetached.collect spec started readers _ _)
        (Supervised.guarded_waited hfresh rfl code) spec w₁
    | error problem =>
      dsimp only
      split
      · -- the child is made sure of before it is drained, and once more after that
        rw [bind_of_ok (terminate_apply spec (fresh child) w₁)]
        have hdrained := hdetached.collect spec started readers none (fresh child).terminate.2
        have hagain := disposed_terminate
          (keepsLaunches_bind hdrained fun result => keepsLaunches_raise (α := CommandResult)
            (.chained
              (.execution ("Interrupted while waiting for " ++ spec.program ++ " process")
                (some result))
              problem))
          (Supervised.guarded_terminate hfresh) spec (terminated spec (fresh child) w₁)
        rw [Supervised.child_terminate] at hagain
        exact hagain.of_remembered rfl
      · exact disposed_terminate (keepsLaunches_raise ⟨problem, none⟩) hfresh spec w₁

/-- What starting a command leaves on the books: one launch, without a process when the program
could not be started, and otherwise with one that is released. -/
structure Launches (host : Host σ) (spec : CommandSpec) (w w' : World σ) : Prop where
  failed : ∀ problem, startedBy host spec w = .error problem →
    w'.launched = w.launched ++ [⟨launchOf w spec, none⟩]
  started : ∀ child, startedBy host spec w = .ok child →
    ∃ p : Supervised, p.child = child ∧ p.Released ∧
      w'.launched = w.launched ++ [⟨launchOf w spec, some p⟩]

theorem launches_startBy {drainage : Drainage σ} (hdetached : drainage.Detached) (host : Host σ)
    (spec : CommandSpec) (w : World σ) :
    Launches host spec w (startBy drainage host spec w).2 := by
  obtain ⟨started, files, tools, hhost⟩ : ∃ started files tools,
      host w.environment (launchOf w spec) w.files w.tools = (started, files, tools) :=
    ⟨_, _, _, rfl⟩
  have hstarted : startedBy host spec w = started := congrArg Prod.fst hhost
  have hstart : start host spec w.commandTicked = (.ok started, launching w.commandTicked
    (launchOf w spec) started files tools) := start_apply hhost
  unfold startBy
  rw [readCommandClock_bind, bind_of_ok hstart]
  cases started with
  | ok child =>
    obtain ⟨p, hchild, hreleased, hlaunched⟩ := disposed_attendBy hdetached spec w.commandNow child
      (launching w.commandTicked (launchOf w spec) (.ok child) files tools)
    refine ⟨fun problem hproblem => ?_, fun child' hchild' => ?_⟩
    · rw [hstarted] at hproblem
      cases hproblem
    · rw [hstarted] at hchild'
      cases hchild'
      exact ⟨p, hchild, hreleased, hlaunched.trans (recallLast_append _ _ _)⟩
  | error problem =>
    refine ⟨fun problem' _ => ?_, fun child hchild => ?_⟩
    · cases problem with
      | error e => rfl
      | fault f => cases f <;> rfl
    · rw [hstarted] at hchild
      cases hchild

theorem keepsLaunches_reported (spec : CommandSpec) (result : CommandResult) :
    KeepsLaunches (reported (σ := σ) spec result) := by
  intro w
  unfold reported
  cases result.elapsed <;> rfl

theorem keepsLaunches_attribute (active : Bool) (result : CommandResult) :
    KeepsLaunches (setAttribute (σ := σ) active "returncode" (.integer result.returnCode) >>=
      fun _ => pure result) := by
  intro w
  unfold setAttribute
  cases active <;> rfl

/-- What a run leaves on the books: nothing when its directory cannot be used, and otherwise what
starting the command leaves there. -/
structure Secured (host : Host σ) (spec : CommandSpec) (w w' : World σ) : Prop where
  misplaced : ∀ error, directoryError w spec = some error → w'.launched = w.launched
  placed : directoryError w spec = none → Launches host spec w w'

theorem secured_runBy {drainage : Drainage σ} (hdetached : drainage.Detached) (host : Host σ)
    (spec : CommandSpec) (w : World σ) : Secured host spec w (runBy drainage host spec w).2 := by
  refine ⟨fun error herror => ?_, fun hplaced => ?_⟩
  · have hcheck : checkDirectory spec w =
        (.error (.chained (.launch spec.arguments error) (.fault (.system error))), w) := by
      unfold checkDirectory
      rw [look_bind, herror]
      rfl
    unfold runBy
    rw [bind_of_error hcheck]
  · have hcheck : checkDirectory spec w = (.ok (), w) := by
      unfold checkDirectory
      rw [look_bind, hplaced]
      rfl
    obtain ⟨active, w₀, w₁, ending, ht₀, hbody, -, ht₁⟩ := inSpan_apply "cmakebuild.run"
      [("program", .text spec.program)]
      (fun active => startBy drainage host spec >>= fun result =>
        setAttribute active "returncode" (.integer result.returnCode) >>= fun _ => pure result)
      (w.logged [⟨.supervision, .debug, "Running " ++ spec.commandLine ++ " in " ++
        spec.directory.toString⟩])
    have haside := World.Aside.of_traced ht₀
    -- the world in which the command is started differs from the first in tracing and the log
    have hstart := launches_startBy hdetached host spec w₀
    have hbooks : (runBy drainage host spec w).2.launched =
        (startBy drainage host spec w₀).2.launched := by
      unfold runBy
      rw [bind_of_ok hcheck, note_bind, launched_bind _ (keepsLaunches_reported spec)]
      refine (World.Aside.of_traced ht₁).launched.trans ?_
      rw [← launched_bind (startBy drainage host spec) (keepsLaunches_attribute active) w₀, hbody]
    have hlaunch : launchOf w₀ spec = launchOf w spec := by
      unfold launchOf
      rw [haside.environment]
      rfl
    have hsame : startedBy host spec w₀ = startedBy host spec w := by
      unfold startedBy
      rw [hlaunch, haside.environment, haside.files, haside.tools]
      rfl
    refine ⟨fun problem hproblem => ?_, fun child hchild => ?_⟩
    · rw [hbooks, hstart.failed problem (hsame.trans hproblem), haside.launched, hlaunch]
      rfl
    · obtain ⟨p, hp, hreleased, hlaunched⟩ := hstart.started child (hsame.trans hchild)
      refine ⟨p, hp, hreleased, ?_⟩
      rw [hbooks, hlaunched, haside.launched, hlaunch]
      rfl

/-- No child survives a run and none is killed without need, whatever the child does and whatever is
raised while it is started, waited for or drained, by the readers of the program or in any other
way. -/
theorem run_releases_child (host : Host σ) (spec : CommandSpec) (w : World σ) :
    Secured host spec w (run host spec w).2 ∧
      ∀ drainage : Drainage σ, drainage.Detached →
        Secured host spec w (runBy drainage host spec w).2 := by
  constructor
  · rw [← runBy_readers]
    exact secured_runBy Drainage.detached_readers host spec w
  · intro drainage hdetached
    exact secured_runBy hdetached host spec w

/-- A child that the user gets tired of, and that only a second kill brings to an end. -/
def stubbornChild : Child where
  pid := 7
  wait := .error (.fault (.interrupt ""))
  poll := fun _ => none
  reap := fun kills => if kills = 1 then none else some (-9)

/-- A machine that starts this child for every command. -/
def stubbornHost : Host Unit := fun _ _ files tools => (.ok stubbornChild, files, tools)

/-- No reader can be attached. -/
def threadless : Drainage Unit where
  attach _ _ := raise (.ofFault (.runtime "can't start new thread"))
  collect := Supervision.collect

theorem run_releases_child_stubborn :
    (∃ p : Supervised, p.Released ∧ p.exit = some (-9) ∧
      (run stubbornHost sampleCommand sampleWorld).2.launched =
        [⟨launchOf sampleWorld sampleCommand, some p⟩]) ∧
    ∃ p : Supervised, p.Released ∧ p.exit = none ∧ ChildEvent.killed ∈ p.events ∧
      (runBy threadless stubbornHost sampleCommand sampleWorld).2.launched =
        [⟨launchOf sampleWorld sampleCommand, some p⟩] := by
  have hdetached : threadless.Detached :=
    ⟨fun _ _ _ => rfl, Drainage.detached_readers.collect⟩
  have hdirectory : directoryError sampleWorld sampleCommand = none := by rfl
  have hstarted : startedBy stubbornHost sampleCommand sampleWorld = .ok stubbornChild := rfl
  obtain ⟨hrun, hany⟩ := run_releases_child stubbornHost sampleCommand sampleWorld
  constructor
  · obtain ⟨p, -, hreleased, hlaunched⟩ := (hrun.placed hdirectory).started _ hstarted
    have hbooks : ∃ p : Supervised, p.exit = some (-9) ∧
        (run stubbornHost sampleCommand sampleWorld).2.launched =
          [⟨launchOf sampleWorld sampleCommand, some p⟩] := ⟨_, rfl, rfl⟩
    obtain ⟨q, hexit, hq⟩ := hbooks
    rw [hq] at hlaunched
    cases hlaunched
    exact ⟨p, hreleased, hexit, hq⟩
  · obtain ⟨p, -, hreleased, hlaunched⟩ :=
      ((hany threadless hdetached).placed hdirectory).started _ hstarted
    have hbooks : ∃ p : Supervised, p.exit = none ∧ ChildEvent.killed ∈ p.events ∧
        (runBy threadless stubbornHost sampleCommand sampleWorld).2.launched =
          [⟨launchOf sampleWorld sampleCommand, some p⟩] :=
      ⟨⟨stubbornChild, none, [.polled none, .killed, .waited none]⟩, rfl, by simp, rfl⟩
    obtain ⟨q, hexit, hkilled, hq⟩ := hbooks
    rw [hq] at hlaunched
    cases hlaunched
    exact ⟨p, hreleased, hexit, hkilled, hq⟩

end Supervision

end NativeBuild
