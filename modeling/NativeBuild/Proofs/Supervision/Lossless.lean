import NativeBuild.Proofs.Supervision.Interleaving

/-
  What a run captures, whatever the schedule. When the run is over, every view of its record is
  final and shows a beginning of what its stream delivered, and all of it when the run returned; what
  the readers still do afterwards changes no view (`interleaving_captures`). The record is the one
  that the supervision gives for the child with the same interrupt (`recordFor_cutShort`), so the
  sequential account of `comesTo` covers every schedule.
-/

namespace NativeBuild

open Supervision

namespace Scene

variable {spec : CommandSpec} {child : Child} {s s' : Scene}

/-! ## The start -/

theorem streams_start (spec : CommandSpec) (child : Child) :
    (start spec child).streams = streamsOf spec child := by
  rw [streams, start, List.map_map]
  exact List.map_id _

theorem readers_start {number : Nat} {r : Reader}
    (h : (start spec child).readers[number]? = some r) :
    ∃ name stream, (streamsOf spec child)[number]? = some (name, stream) ∧
      r = { name := name, stream := stream, left := stream.lines } := by
  rw [start, List.getElem?_map, Option.map_eq_some_iff] at h
  obtain ⟨⟨name, stream⟩, hstream, rfl⟩ := h
  exact ⟨name, stream, hstream, rfl⟩

theorem consistent_start (spec : CommandSpec) (child : Child) :
    (start spec child).Consistent child where
  readers number r hr := by
    obtain ⟨name, stream, hstream, rfl⟩ := readers_start hr
    refine ⟨⟨[], ?_, rfl⟩, fun hended => absurd rfl hended⟩
    simp [start, OutputStore.get?, hstream, CapturedOutput.opened]
  attended number _ hbefore _ := absurd (hbefore 0 rfl) (Nat.not_lt_zero number)
  waited hmain := absurd rfl hmain

/-! ## The record of a schedule -/

/-- What the view of a stream shows. -/
def shown (s : Scene) (views : List Nat) (number : Nat) : Option CapturedOutput :=
  views[number]?.bind s.store.get?

/-- The record that holds the views. -/
def result (s : Scene) (spec : CommandSpec) (child : Child) (views : List Nat) (duration : Float) :
    CommandResult where
  command := spec.arguments
  returnCode := codeOf child
  stdout := (s.shown views 0).getD (.final "stdout" [])
  stderr := s.shown views 1
  duration := duration

/-- How many lines of a stream its view does not show. -/
def missing (s : Scene) (views : List Nat) (number : Nat) (stream : Stream) : Nat :=
  stream.lines.length - ((s.shown views number).map (·.lines.length)).getD 0

/-- How far the readers are behind in the views. -/
def behind (s : Scene) (child : Child) (views : List Nat) (name : String) : Nat :=
  if name = "stdout" then s.missing views 0 child.stdout else s.missing views 1 child.stderr

end Scene

/-- The child whose joining was interrupted at the cut, with its readers as far behind as said. -/
def Child.cutShort (child : Child) (cut : Option Nat) (behind : String → Nat) : Child :=
  { child with joinInterrupted := cut.map (· + 1), behind := behind }

namespace Scene

variable {spec : CommandSpec} {child : Child} {s s' : Scene} {cut : Option Nat} {views : List Nat}

theorem interruptedJoin_cutShort (behind : String → Nat)
    (h : ∀ k, cut = some k → k < (streamsOf spec child).length) :
    interruptedJoin spec (child.cutShort cut behind) = cut.map (· + 1) := by
  unfold interruptedJoin
  cases cut with
  | none => rfl
  | some k =>
    refine Option.filter_eq_some_iff.mpr ⟨rfl, ?_⟩
    exact Bool.and_eq_true_iff.mpr ⟨decide_eq_true (Nat.succ_pos k), decide_eq_true (h k rfl)⟩

/-- A reader that is as far behind as its view has captured what the view shows. -/
theorem capturedOf_cutShort {behind : String → Nat} {number : Nat} {name : String} {stream : Stream}
    {lines : List String} (hcut : ∀ k, cut = some k → k < (streamsOf spec child).length)
    (hbegins : lines <+: stream.lines) (hwhole : JoinedBefore cut number → lines = stream.lines)
    (hbehind : behind name = stream.lines.length - lines.length) :
    capturedOf spec (child.cutShort cut behind) (number + 1) name stream = lines := by
  unfold capturedOf
  rw [interruptedJoin_cutShort behind hcut]
  cases cut with
  | none => exact (hwhole fun k hk => nomatch hk).symm
  | some k =>
    dsimp only [Option.map_some]
    by_cases hle : k + 1 ≤ number + 1
    · have hlength := hbegins.length_le
      rw [if_pos hle, show (child.cutShort (some k) behind).behind name = _ from hbehind,
        Nat.sub_sub_self hlength]
      exact (List.prefix_iff_eq_take.mp hbegins).symm
    · rw [if_neg hle]
      refine (hwhole fun k' hk' => ?_).symm
      cases hk'
      omega

/-- What a finished schedule says of its views. -/
theorem shown_of_viewing {number : Nat} {name : String} {stream : Stream}
    (h : s.Viewing cut views) (hall : views.length = s.readers.length)
    (hstream : s.streams[number]? = some (name, stream)) :
    ∃ lines, s.shown views number = some (.final name lines) ∧ lines <+: stream.lines ∧
      (JoinedBefore cut number → lines = stream.lines) := by
  have hlt : number < views.length := by
    rw [hall, ← length_streams]
    exact (List.getElem?_eq_some_iff.mp hstream).1
  have hview := List.getElem?_eq_getElem hlt
  obtain ⟨lines, hget, hbegins, hwhole⟩ := h.viewed number name stream _ hstream hview
  exact ⟨lines, by rw [shown, hview]; exact hget, hbegins, hwhole⟩

/-- A schedule that comes later shows the same in every view. -/
theorem Follows.shown {number : Nat} {name : String} {lines : List String} (h : s.Follows s')
    (hshown : s.shown views number = some (.final name lines)) :
    s'.shown views number = some (.final name lines) := by
  obtain ⟨view, hview, hget⟩ := Option.bind_eq_some_iff.mp hshown
  exact Option.bind_eq_some_iff.mpr ⟨view, hview, h.final view _ hget rfl⟩

/-- The views show what the supervision takes the readers to have captured. -/
theorem shown_eq_captured {number : Nat} {name : String} {stream : Stream}
    (h : s.Viewing cut views) (hall : views.length = s.readers.length)
    (hstreams : s.streams = streamsOf spec child)
    (hstream : (streamsOf spec child)[number]? = some (name, stream))
    (hbehind : s.behind child views name = s.missing views number stream) :
    s.shown views number = some (.final name
      (capturedOf spec (child.cutShort cut (s.behind child views)) (number + 1) name stream)) := by
  have hcut : ∀ k, cut = some k → k < (streamsOf spec child).length := by
    rw [← hstreams, length_streams]
    exact h.cut
  obtain ⟨lines, hlines, hbegins, hwhole⟩ := shown_of_viewing h hall (hstreams ▸ hstream)
  rw [capturedOf_cutShort hcut hbegins hwhole, hlines]
  rw [hbehind, missing, hlines]
  rfl

/-- The record that the supervision gives for the child with the same interrupt is the record that
holds the views of the schedule. -/
theorem recordFor_cutShort (h : s.Viewing cut views) (hall : views.length = s.readers.length)
    (hstreams : s.streams = streamsOf spec child) (duration : Float) :
    recordFor spec (child.cutShort cut (s.behind child views)) duration =
      s.result spec child views duration := by
  have hout : s.shown views 0 = some (.final "stdout" (capturedOf spec
      (child.cutShort cut (s.behind child views)) 1 "stdout" child.stdout)) :=
    shown_eq_captured h hall hstreams (by unfold streamsOf; split <;> rfl) rfl
  have herr : s.shown views 1 = if spec.mergeStderr then none else
      some (.final "stderr" (capturedOf spec
        (child.cutShort cut (s.behind child views)) 2 "stderr" child.stderr)) := by
    cases hmerge : spec.mergeStderr with
    | true =>
      have hlength : views.length = 1 := by
        rw [hall, ← length_streams, hstreams, streamsOf, if_pos hmerge]
        rfl
      rw [shown, List.getElem?_eq_none (Nat.le_of_eq hlength)]
      rfl
    | false =>
      exact shown_eq_captured h hall hstreams (by rw [streamsOf, hmerge]; rfl) rfl
  unfold recordFor result
  rw [hout, herr]
  rfl

/-! ## How a schedule ends -/

theorem firstProblem_eq_none_iff :
    firstProblem (readAll spec child) = none ↔
      ∀ stream ∈ streamsOf spec child, stream.2.keptProblem = none := by
  rw [firstProblem, readAll, List.findSome?_eq_none_iff, List.forall_mem_map]
  refine forall₂_congr fun stream _ => ?_
  rw [Option.map_eq_none_iff]
  rfl

/-- Nothing goes wrong with the child just when the schedule returns. -/
theorem troubleOf_cutShort_eq_none_iff {behind : String → Nat}
    (hcut : ∀ k, cut = some k → k < (streamsOf spec child).length)
    (hstreams : s.streams = streamsOf spec child) :
    troubleOf spec (child.cutShort cut behind) = none ↔ s.Returns child cut := by
  have hwait : waitTrouble spec (child.cutShort cut behind) = none ↔ child.exits = true := by
    unfold waitTrouble Child.exits
    rw [show (child.cutShort cut behind).wait = child.wait from rfl]
    cases child.wait <;> simp [Except.toBool]
  have hread : readTrouble spec (child.cutShort cut behind) = none ↔
      cut = none ∧ ∀ stream ∈ streamsOf spec child, stream.2.keptProblem = none := by
    unfold readTrouble
    rw [interruptedJoin_cutShort behind hcut]
    cases cut with
    | some k => simp
    | none =>
      dsimp only [Option.map_none]
      rw [Option.map_eq_none_iff]
      exact firstProblem_eq_none_iff.trans (and_iff_right rfl).symm
  unfold troubleOf Returns
  rw [hstreams, ← hwait, ← hread]
  cases readTrouble spec (child.cutShort cut behind) <;> simp

/-- The supervision ends as the schedule does: with the same record, returned or held by an error. -/
theorem comesTo_cutShort {returned : Bool} (h : s.Consistent child)
    (hstreams : s.streams = streamsOf spec child) (hover : s.attendant = .finished returned cut views)
    (duration : Float) :
    ∃ trouble, comesTo spec (child.cutShort cut (s.behind child views)) duration =
        endingOf (s.result spec child views duration) trouble ∧
      (trouble = none ↔ returned = true) := by
  obtain ⟨-, hattended, hwaited⟩ := h
  unfold Attended at hattended
  rw [hover] at hattended hwaited
  obtain ⟨hviewing, hall, hreturned⟩ := hattended
  have hends := hwaited Attendant.noConfusion
  have hcut : ∀ k, cut = some k → k < (streamsOf spec child).length := by
    rw [← hstreams, length_streams]
    exact hviewing.cut
  refine ⟨troubleOf spec (child.cutShort cut (s.behind child views)), ?_,
    (troubleOf_cutShort_eq_none_iff hcut hstreams).trans hreturned.symm⟩
  rw [← recordFor_cutShort hviewing hall hstreams duration]
  unfold comesTo
  unfold Child.waitEnds at hends
  rw [show (child.cutShort cut (s.behind child views)).wait = child.wait from rfl]
  cases hwait : child.wait with
  | ok code => rfl
  | error problem =>
    rw [hwait] at hends
    exact if_pos hends

/-- Whatever the schedule, no reader meets an output that is final, and once the run is over its
record shows a beginning of what every stream delivers, for good: the whole of it when the run
returned. The record is the one that the supervision gives for the child with the same interrupt. -/
theorem interleaving_captures (spec : CommandSpec) (child : Child) {turns : List Turn} {s : Scene}
    (hplay : (start spec child).play child turns = some s) :
    (∀ (number : Nat) (r : Reader), s.readers[number]? = some r → r.stage = .reading →
      ∃ captured, s.store.get? number = some (.opened r.name captured) ∧
        captured ++ r.left = r.stream.lines ∧
        ∀ line, (s.store.append number line).isOk = true) ∧
    ∀ returned cut views, s.attendant = .finished returned cut views →
      (∀ (number : Nat) (name : String) (stream : Stream),
        (streamsOf spec child)[number]? = some (name, stream) →
        ∃ lines, s.shown views number = some (.final name lines) ∧ lines <+: stream.lines ∧
          (returned = true → lines = stream.lines) ∧
          ∀ more s', s.play child more = some s' →
            s'.shown views number = some (.final name lines)) ∧
      ∀ duration, ∃ trouble, comesTo spec (child.cutShort cut (s.behind child views)) duration =
          endingOf (s.result spec child views duration) trouble ∧
        (trouble = none ↔ returned = true) := by
  obtain ⟨hfollows, hconsistent⟩ := consistent_play (consistent_start spec child) hplay
  have hstreams : s.streams = streamsOf spec child := hfollows.streams.trans (streams_start _ _)
  refine ⟨fun number r hr hreading => ?_, fun returned cut views hover => ⟨?_, ?_⟩⟩
  · have hcoherent := hconsistent.readers number r hr
    obtain ⟨captured, hget, hlines⟩ := hcoherent.output
    refine ⟨captured, ?_, hlines, fun line => ?_⟩
    · rw [hget, hreading]
      rfl
    · obtain ⟨_, happend, -⟩ := hcoherent.accepts hreading line
      rw [happend]
      rfl
  · intro number name stream hstream
    have hattended := hconsistent.attended
    unfold Attended at hattended
    rw [hover] at hattended
    obtain ⟨hviewing, hall, hreturned⟩ := hattended
    obtain ⟨lines, hshown, hbegins, hwhole⟩ :=
      shown_of_viewing hviewing hall (hstreams ▸ hstream)
    refine ⟨lines, hshown, hbegins, fun hdone => hwhole fun k hk => ?_, fun more s' hmore => ?_⟩
    · rw [(hreturned.mp hdone).2.1] at hk
      cases hk
    · exact (consistent_play hconsistent hmore).1.shown hshown
  · exact comesTo_cutShort hconsistent hstreams hover

/-- A child that writes two lines, and one to standard error. -/
def talkativeChild : Child where
  pid := 7
  wait := .ok 0
  poll := fun _ => some 0
  reap := fun _ => none
  stdout := { bytes := [111, 110, 101, 10, 116, 119, 111, 10] }
  stderr := { bytes := [104, 109, 10] }

/-- The command that starts it. -/
def talkativeCommand : CommandSpec := ⟨"make", [], ⟨.root, ["out"]⟩, [], false⟩

/-- The joining is interrupted while a line of standard output is still to be appended. -/
def hastyTurns : List Turn :=
  [.reader 0, .attendant, .reader 1, .interrupt, .attendant, .attendant, .attendant]

theorem interleaving_captures_hasty :
    ∃ s s', (start talkativeCommand talkativeChild).play talkativeChild hastyTurns = some s ∧
      s.attendant = .finished false (some 0) [2, 3] ∧
      s.play talkativeChild [.reader 0, .reader 0, .reader 0, .reader 0] = some s' ∧
      s'.store.get? 0 = some (.final "stdout" ["one", "two"]) ∧
      s'.shown [2, 3] 0 = some (.final "stdout" ["one"]) := by
  obtain ⟨s, hplay, hover, hshown, s', hmore, hstore⟩ :
      ∃ s, (start talkativeCommand talkativeChild).play talkativeChild hastyTurns = some s ∧
        s.attendant = .finished false (some 0) [2, 3] ∧
        s.shown [2, 3] 0 = some (.final "stdout" ["one"]) ∧
        ∃ s', s.play talkativeChild [.reader 0, .reader 0, .reader 0, .reader 0] = some s' ∧
          s'.store.get? 0 = some (.final "stdout" ["one", "two"]) :=
    ⟨_, rfl, rfl, rfl, _, rfl, rfl⟩
  obtain ⟨lines, hlines, -, -, hkept⟩ :=
    ((interleaving_captures talkativeCommand talkativeChild hplay).2 _ _ _ hover).1 0 "stdout"
      talkativeChild.stdout rfl
  cases hshown.symm.trans hlines
  exact ⟨s, s', hplay, hover, hmore, hstore, hkept _ s' hmore⟩

end Scene

end NativeBuild
