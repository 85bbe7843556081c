import NativeBuild.Proofs.Supervision.Attendance

/-
  Readers beside the supervision. Every reader is a thread of its own: it appends a line, notices the
  end of its stream, closes it, makes its output final, one step at a time. The supervision waits,
  joins the readers in order and takes a view of every output, and a join may be interrupted while
  the reader still runs. A schedule says whose turn it is; `Scene.play` follows any schedule, over
  outputs that are shared by identity.

  One invariant carries everything (`Scene.Consistent`): what a reader has captured and what it has
  still to append make up its stream, its output is final exactly when it is done, and every view
  that was taken is final and shows a beginning of its stream. A step keeps it
  (`consistent_move`), and what is final stays as it is (`Scene.Follows`).
-/

namespace NativeBuild

/-- Where a reader is: it reads, its stream has ended, the stream is closed, its output is final. -/
inductive ReaderStage where
  | reading
  | drained
  | closed
  | done
  deriving DecidableEq

/-- A reader at work. Its output is the one that has the number of the reader in the store. -/
structure Reader where
  name : String
  stream : Stream
  /-- The lines that it has still to append. -/
  left : List String
  stage : ReaderStage := .reading
  error : Option Problem := none

/-- The next step of a reader. A line that its output refuses ends the reading. -/
def Reader.advance (number : Nat) (r : Reader) (store : OutputStore) :
    Option (Reader × OutputStore) :=
  match r.stage with
  | .reading =>
    match r.left with
    | line :: rest =>
      match store.append number line with
      | .ok grown => some ({ r with left := rest }, grown)
      | .error _ => some ({ r with stage := .drained }, store)
    | [] => some ({ r with stage := .drained, error := r.stream.keptProblem }, store)
  | .drained => some ({ r with stage := .closed }, store)
  | .closed => some ({ r with stage := .done }, store.close number)
  | .done => none

/-- Where the supervision is. The views are the identities of the outputs of its result; the cut is
the number of the reader whose joining was interrupted. -/
inductive Attendant where
  | waiting
  | joining (joined : Nat)
  | viewing (cut : Option Nat) (views : List Nat)
  /-- The run is over: it returned its result, or raised an error that holds it. -/
  | finished (returned : Bool) (cut : Option Nat) (views : List Nat)

/-- The readers of a child and the supervision, with the outputs that they share. -/
structure Scene where
  store : OutputStore
  readers : List Reader
  attendant : Attendant

/-- Whose turn it is. -/
inductive Turn where
  | reader (number : Nat)
  | attendant
  /-- The user interrupts the joining of a reader. -/
  | interrupt
  deriving DecidableEq, Repr

/-- A wait that gives an exit code. -/
def Child.exits (child : Child) : Bool := child.wait.toBool

/-- A wait that ends, or that the supervision takes as interrupted: then the child is killed, and
its readers come to the end of their streams as well. -/
def Child.waitEnds (child : Child) : Bool :=
  match child.wait with
  | .ok _ => true
  | .error problem => problem.isInterruption

namespace Scene

/-- The readers are set to the streams, and nothing has been captured. -/
def start (spec : CommandSpec) (child : Child) : Scene where
  store := ⟨(Supervision.streamsOf spec child).map fun (name, _) => .opened name []⟩
  readers := (Supervision.streamsOf spec child).map fun (name, stream) =>
    { name := name, stream := stream, left := stream.lines }
  attendant := .waiting

/-- A reader moves. -/
def readerMoves (s : Scene) (number : Nat) : Option Scene :=
  match s.readers[number]? with
  | none => none
  | some r => (r.advance number s.store).map fun (r', store) =>
    { s with store := store, readers := s.readers.set number r' }

/-- The supervision moves. A reader is joined when it is done, and not before. -/
def attendantMoves (child : Child) (s : Scene) : Option Scene :=
  match s.attendant with
  | .waiting => if child.waitEnds then some { s with attendant := .joining 0 } else none
  | .joining joined =>
    match s.readers[joined]? with
    | some r => if r.stage = .done then some { s with attendant := .joining (joined + 1) } else none
    | none => some { s with attendant := .viewing none [] }
  | .viewing cut views =>
    if views.length < s.readers.length then
      let (view, store) := s.store.snapshot views.length
      some { s with store := store, attendant := .viewing cut (views ++ [view]) }
    else
      let returned := child.exits && cut.isNone && s.readers.all fun r => r.error.isNone
      some { s with attendant := .finished returned cut views }
  | .finished _ _ _ => none

/-- The joining of a reader is interrupted, whether the reader still runs or not. -/
def interrupted (s : Scene) : Option Scene :=
  match s.attendant with
  | .joining joined =>
    if joined < s.readers.length then some { s with attendant := .viewing (some joined) [] }
    else none
  | _ => none

/-- One step of the one whose turn it is, if there is a step to take. -/
def move (child : Child) (s : Scene) : Turn → Option Scene
  | .reader number => s.readerMoves number
  | .attendant => s.attendantMoves child
  | .interrupt => s.interrupted

/-- A schedule is followed from one turn to the next. -/
def play (child : Child) : Scene → List Turn → Option Scene
  | s, [] => some s
  | s, turn :: rest =>
    match s.move child turn with
    | some s' => s'.play child rest
    | none => none

end Scene

/-! ## Readers -/

/-- What a reader has captured and what it has still to append make up its stream, and its output is
final exactly when it is done. -/
structure Reader.Coherent (store : OutputStore) (number : Nat) (r : Reader) : Prop where
  output : ∃ captured, store.get? number = some ⟨r.name, captured, decide (r.stage = .done)⟩ ∧
    captured ++ r.left = r.stream.lines
  ended : r.stage ≠ .reading → r.left = [] ∧ r.error = r.stream.keptProblem

/-- The second store comes from the first by a step of one reader: other outputs are as they were,
and final ones are, too. -/
structure OutputStore.Moved (number : Nat) (store store' : OutputStore) : Prop where
  others : ∀ other, other ≠ number → store'.get? other = store.get? other
  final : ∀ ref o, store.get? ref = some o → o.isSealed = true → store'.get? ref = some o

namespace Reader

variable {number : Nat} {r r' : Reader} {store store' : OutputStore}

/-- A reader that has a line to append never meets a final output. -/
theorem Coherent.accepts (h : r.Coherent store number) (hstage : r.stage = .reading)
    (line : String) : ∃ captured,
      store.append number line =
        .ok ⟨store.objects.set number ⟨r.name, captured ++ [line], false⟩⟩ ∧
      captured ++ r.left = r.stream.lines := by
  obtain ⟨captured, hget, hlines⟩ := h.output
  rw [hstage] at hget
  exact ⟨captured, OutputStore.append_of_open hget rfl line, hlines⟩

/-- The steps of a reader: it appends, notices the end, closes the stream, makes its output final. -/
theorem Coherent.advance_cases (h : r.Coherent store number)
    (hmove : r.advance number store = some (r', store')) :
    (∃ captured line rest, r.stage = .reading ∧ r.left = line :: rest ∧
      r' = { r with left := rest } ∧ captured ++ r.left = r.stream.lines ∧
      store' = ⟨store.objects.set number ⟨r.name, captured ++ [line], false⟩⟩) ∨
    (r.stage = .reading ∧ r.left = [] ∧ store' = store ∧
      r' = { r with stage := .drained, error := r.stream.keptProblem }) ∨
    (r.stage = .drained ∧ store' = store ∧ r' = { r with stage := .closed }) ∨
    (r.stage = .closed ∧ store' = store.close number ∧ r' = { r with stage := .done }) := by
  unfold advance at hmove
  cases hstage : r.stage with
  | reading =>
    rw [hstage] at hmove
    dsimp only at hmove
    cases hleft : r.left with
    | nil =>
      rw [hleft] at hmove
      obtain ⟨rfl, rfl⟩ := Prod.mk.inj (Option.some.inj hmove)
      exact .inr (.inl ⟨rfl, rfl, rfl, rfl⟩)
    | cons line rest =>
      obtain ⟨captured, happend, hlines⟩ := h.accepts hstage line
      rw [hleft] at hmove
      dsimp only at hmove
      rw [happend] at hmove
      obtain ⟨rfl, rfl⟩ := Prod.mk.inj (Option.some.inj hmove)
      rw [hleft] at hlines
      exact .inl ⟨captured, line, rest, rfl, rfl, rfl, hlines, rfl⟩
  | drained =>
    rw [hstage] at hmove
    obtain ⟨rfl, rfl⟩ := Prod.mk.inj (Option.some.inj hmove)
    exact .inr (.inr (.inl ⟨rfl, rfl, rfl⟩))
  | closed =>
    rw [hstage] at hmove
    obtain ⟨rfl, rfl⟩ := Prod.mk.inj (Option.some.inj hmove)
    exact .inr (.inr (.inr ⟨rfl, rfl, rfl⟩))
  | done =>
    rw [hstage] at hmove
    cases hmove

/-- A step of a reader keeps it coherent. -/
theorem Coherent.advance (h : r.Coherent store number)
    (hmove : r.advance number store = some (r', store')) : r'.Coherent store' number := by
  obtain ⟨captured₀, hget, hlines₀⟩ := h.output
  rcases h.advance_cases hmove with ⟨captured, line, rest, hstage, hleft, rfl, hlines, rfl⟩ |
    ⟨hstage, hleft, rfl, rfl⟩ | ⟨hstage, rfl, rfl⟩ | ⟨hstage, rfl, rfl⟩
  · refine ⟨⟨captured ++ [line], ?_, ?_⟩, fun hended => absurd hstage hended⟩
    · simp [hstage, OutputStore.get?_set_self hget]
    · rw [hleft] at hlines
      simpa using hlines
  · refine ⟨⟨captured₀, ?_, hlines₀⟩, fun _ => ⟨hleft, rfl⟩⟩
    rw [hget, hstage]
    rfl
  · refine ⟨⟨captured₀, ?_, hlines₀⟩, fun _ => h.ended (by simp [hstage])⟩
    rw [hget, hstage]
    rfl
  · refine ⟨⟨captured₀, ?_, hlines₀⟩, fun _ => h.ended (by simp [hstage])⟩
    rw [OutputStore.get?_close_self hget]
    rfl

/-- A step of a reader touches its own output alone, and no output that is final. -/
theorem Coherent.moved (h : r.Coherent store number)
    (hmove : r.advance number store = some (r', store')) : store.Moved number store' := by
  obtain ⟨captured₀, hget, -⟩ := h.output
  have hopen : ∀ ref o, store.get? ref = some o → o.isSealed = true → r.stage ≠ .done →
      ref ≠ number := by
    rintro ref o href hsealed hstage rfl
    rw [hget] at href
    cases href
    simp [hstage] at hsealed
  rcases h.advance_cases hmove with ⟨captured, line, rest, hstage, hleft, rfl, hlines, rfl⟩ |
    ⟨hstage, hleft, rfl, rfl⟩ | ⟨hstage, rfl, rfl⟩ | ⟨hstage, rfl, rfl⟩
  · refine ⟨fun other hne => OutputStore.get?_set_of_ne store hne _, fun ref o href hsealed => ?_⟩
    rw [OutputStore.get?_set_of_ne store (hopen ref o href hsealed (by simp [hstage])), href]
  · exact ⟨fun _ _ => rfl, fun _ _ href _ => href⟩
  · exact ⟨fun _ _ => rfl, fun _ _ href _ => href⟩
  · refine ⟨fun other hne => OutputStore.get?_close_of_ne store hne, fun ref o href hsealed => ?_⟩
    rw [OutputStore.get?_close_of_ne store (hopen ref o href hsealed (by simp [hstage])), href]

/-- A reader that moves is not done, and stays with its stream. -/
theorem Coherent.same (h : r.Coherent store number)
    (hmove : r.advance number store = some (r', store')) :
    r.stage ≠ .done ∧ r'.name = r.name ∧ r'.stream = r.stream := by
  rcases h.advance_cases hmove with ⟨captured, line, rest, hstage, hleft, rfl, hlines, rfl⟩ |
    ⟨hstage, hleft, rfl, rfl⟩ | ⟨hstage, rfl, rfl⟩ | ⟨hstage, rfl, rfl⟩ <;>
    simp [hstage]

/-- A reader that is not done has a step to take. -/
theorem isSome_advance (number : Nat) (store : OutputStore) (h : r.stage ≠ .done) :
    (r.advance number store).isSome = true := by
  unfold advance
  cases hstage : r.stage with
  | reading =>
    cases r.left with
    | nil => rfl
    | cons line rest =>
      dsimp only
      cases store.append number line <;> rfl
  | drained => rfl
  | closed => rfl
  | done => exact absurd hstage h

/-- Taking a view of any output leaves a reader coherent. -/
theorem Coherent.snapshot (h : r.Coherent store number) (ref : Nat) :
    r.Coherent (store.snapshot ref).2 number := by
  obtain ⟨⟨captured, hget, hlines⟩, hended⟩ := h
  exact ⟨⟨captured, store.get?_snapshot ref hget, hlines⟩, hended⟩

end Reader

/-! ## Scenes -/

/-- A reader that was joined before the cut, if there was one. -/
def JoinedBefore (cut : Option Nat) (number : Nat) : Prop := ∀ k, cut = some k → number < k

namespace Scene

/-- The streams of the readers with their names. -/
def streams (s : Scene) : List (String × Stream) := s.readers.map fun r => (r.name, r.stream)

/-- The readers that were joined before the cut are done. -/
def Joined (s : Scene) (cut : Option Nat) : Prop :=
  ∀ (number : Nat) (r : Reader), JoinedBefore cut number → s.readers[number]? = some r →
    r.stage = .done

/-- Every view is final and shows a beginning of its stream, and the whole stream when its reader
was joined. -/
def Viewed (s : Scene) (cut : Option Nat) (views : List Nat) : Prop :=
  ∀ (number : Nat) (name : String) (stream : Stream) (view : Nat),
    s.streams[number]? = some (name, stream) → views[number]? = some view →
    ∃ lines, s.store.get? view = some (.final name lines) ∧ lines <+: stream.lines ∧
      (JoinedBefore cut number → lines = stream.lines)

/-- The supervision has joined its readers, up to the cut if there was one, and taken these views. -/
structure Viewing (s : Scene) (cut : Option Nat) (views : List Nat) : Prop where
  joined : s.Joined cut
  viewed : s.Viewed cut views
  cut : ∀ k, cut = some k → k < s.readers.length
  length : views.length ≤ s.readers.length

/-- A run returns its result when the wait gave a code, no join was interrupted and every stream
could be read to its end. -/
def Returns (child : Child) (s : Scene) (cut : Option Nat) : Prop :=
  child.exits = true ∧ cut = none ∧ ∀ stream ∈ s.streams, stream.2.keptProblem = none

/-- What holds of the supervision, wherever it is. -/
def Attended (child : Child) (s : Scene) : Prop :=
  match s.attendant with
  | .waiting => s.Joined (some 0)
  | .joining joined => s.Joined (some joined)
  | .viewing cut views => s.Viewing cut views
  | .finished returned cut views => s.Viewing cut views ∧ views.length = s.readers.length ∧
    (returned = true ↔ s.Returns child cut)

/-- All readers are coherent. -/
def Reading (s : Scene) : Prop :=
  ∀ (number : Nat) (r : Reader), s.readers[number]? = some r → r.Coherent s.store number

/-- All readers are coherent, and so is the supervision. -/
structure Consistent (child : Child) (s : Scene) : Prop where
  readers : s.Reading
  attended : s.Attended child
  waited : s.attendant ≠ .waiting → child.waitEnds = true

/-- What every step leaves: outputs that are final stay as they are, readers stay with their
streams, and one that is done does nothing more. -/
structure Follows (s s' : Scene) : Prop where
  final : ∀ ref o, s.store.get? ref = some o → o.isSealed = true → s'.store.get? ref = some o
  streams : s'.streams = s.streams
  done : ∀ (number : Nat) (r : Reader), s.readers[number]? = some r → r.stage = .done →
    s'.readers[number]? = some r

theorem streams_getElem? {s : Scene} {number : Nat} {r : Reader}
    (h : s.readers[number]? = some r) : s.streams[number]? = some (r.name, r.stream) := by
  simp [streams, h]

theorem length_streams (s : Scene) : s.streams.length = s.readers.length := by simp [streams]

namespace Follows

variable {s s' s'' : Scene}

theorem refl (s : Scene) : s.Follows s := ⟨fun _ _ h _ => h, rfl, fun _ _ h _ => h⟩

theorem trans (h : s.Follows s') (h' : s'.Follows s'') : s.Follows s'' :=
  ⟨fun ref o hget hfinal => h'.final ref o (h.final ref o hget hfinal) hfinal,
    h'.streams.trans h.streams,
    fun number r hr hdone => h'.done number r (h.done number r hr hdone) hdone⟩

theorem length (h : s.Follows s') : s'.readers.length = s.readers.length := by
  rw [← length_streams, ← length_streams, h.streams]

theorem joined (h : s.Follows s') {cut : Option Nat} (hjoined : s.Joined cut) : s'.Joined cut := by
  intro number r' hbefore hr'
  have hlt : number < s.readers.length := by
    rw [← h.length]
    exact (List.getElem?_eq_some_iff.mp hr').1
  have hr := List.getElem?_eq_getElem hlt
  have hdone := hjoined number _ hbefore hr
  rw [h.done number _ hr hdone] at hr'
  cases hr'
  exact hdone

theorem viewing (h : s.Follows s') {cut : Option Nat} {views : List Nat}
    (hviewing : s.Viewing cut views) : s'.Viewing cut views where
  joined := h.joined hviewing.joined
  viewed number name stream view hstream hview := by
    rw [h.streams] at hstream
    obtain ⟨lines, hget, hbegins, hwhole⟩ := hviewing.viewed number name stream view hstream hview
    exact ⟨lines, h.final view _ hget rfl, hbegins, hwhole⟩
  cut k hk := by
    rw [h.length]
    exact hviewing.cut k hk
  length := by
    rw [h.length]
    exact hviewing.length

/-- What holds of the supervision holds while others move. -/
theorem attended {child : Child} (h : s.Follows s') (hsame : s'.attendant = s.attendant)
    (hattended : s.Attended child) : s'.Attended child := by
  unfold Attended at hattended ⊢
  rw [hsame]
  cases hmain : s.attendant with
  | waiting =>
    rw [hmain] at hattended
    exact h.joined hattended
  | joining joined =>
    rw [hmain] at hattended
    exact h.joined hattended
  | viewing cut views =>
    rw [hmain] at hattended
    exact h.viewing hattended
  | finished returned cut views =>
    rw [hmain] at hattended
    obtain ⟨hviewing, hlength, hreturned⟩ := hattended
    refine ⟨h.viewing hviewing, hlength.trans h.length.symm, hreturned.trans ?_⟩
    unfold Returns
    rw [h.streams]

end Follows

/-! ## Steps -/

variable {child : Child} {s s' : Scene}

/-- A step of a reader leaves a consistent scene that follows the one before. -/
theorem consistent_readerMoves {number : Nat} (h : s.Consistent child)
    (hmove : s.readerMoves number = some s') : s.Follows s' ∧ s'.Consistent child := by
  unfold readerMoves at hmove
  cases hr : s.readers[number]? with
  | none =>
    rw [hr] at hmove
    cases hmove
  | some r =>
    rw [hr] at hmove
    obtain ⟨⟨r', store⟩, hadvance, rfl⟩ := Option.map_eq_some_iff.mp hmove
    have hcoherent := h.readers number r hr
    have hmoved := hcoherent.moved hadvance
    obtain ⟨hrunning, hname, hstream⟩ := hcoherent.same hadvance
    have hlt := (List.getElem?_eq_some_iff.mp hr).1
    have hfollows : s.Follows
        { s with store := store, readers := s.readers.set number r' } := by
      refine ⟨hmoved.final, ?_, fun other r₀ hr₀ hdone => ?_⟩
      · refine List.ext_getElem? fun other => ?_
        by_cases hother : number = other
        · subst hother
          rw [streams_getElem? (List.getElem?_set_self hlt), streams_getElem? hr, hname, hstream]
        · simp [streams, List.getElem?_set_ne hother]
      · have hother : number ≠ other := by
          rintro rfl
          rw [hr] at hr₀
          cases hr₀
          exact hrunning hdone
        rw [← hr₀]
        exact List.getElem?_set_ne hother
    refine ⟨hfollows, fun other r₀ hr₀ => ?_, hfollows.attended rfl h.attended, h.waited⟩
    by_cases hother : number = other
    · subst hother
      rw [show (s.readers.set number r')[number]? = some r' from List.getElem?_set_self hlt] at hr₀
      cases hr₀
      exact hcoherent.advance hadvance
    · rw [show (s.readers.set number r')[other]? = s.readers[other]? from
        List.getElem?_set_ne hother] at hr₀
      obtain ⟨⟨captured, hget, hlines⟩, hended⟩ := h.readers other r₀ hr₀
      exact ⟨⟨captured, (hmoved.others other (Ne.symm hother)).trans hget, hlines⟩, hended⟩

/-- The supervision goes on to another place while the readers rest. -/
theorem follows_attendant (s : Scene) (attendant : Attendant) :
    s.Follows { s with attendant := attendant } :=
  ⟨fun _ _ h _ => h, rfl, fun _ _ h _ => h⟩

/-- The joining of a reader that is done is one reader further. -/
theorem Joined.succ {joined : Nat} {r : Reader} (h : s.Joined (some joined))
    (hr : s.readers[joined]? = some r) (hdone : r.stage = .done) : s.Joined (some (joined + 1)) := by
  intro number r' hbefore hr'
  by_cases hnumber : number = joined
  · subst hnumber
    rw [hr] at hr'
    cases hr'
    exact hdone
  · refine h number r' (fun k hk => ?_) hr'
    cases hk
    have := hbefore (joined + 1) rfl
    omega

/-- When no reader is left to be joined, all are joined. -/
theorem Joined.all {joined : Nat} (h : s.Joined (some joined)) (hr : s.readers[joined]? = none) :
    s.Joined none := by
  intro number r _ hnumber
  have hlt := (List.getElem?_eq_some_iff.mp hnumber).1
  have hle := List.getElem?_eq_none_iff.mp hr
  exact h number r (fun k hk => by cases hk; omega) hnumber

/-- Before the first view is taken. -/
theorem Viewing.nil {cut : Option Nat} (hjoined : s.Joined cut)
    (hcut : ∀ k, cut = some k → k < s.readers.length) : s.Viewing cut [] where
  joined := hjoined
  viewed _ _ _ _ _ hview := nomatch hview
  cut := hcut
  length := Nat.zero_le _

/-- A view that is taken of an output shows a beginning of its stream, and all of it when its reader
was joined. -/
theorem viewing_snapshot {cut : Option Nat} {views : List Nat}
    (h : s.Reading) (hviewing : s.Viewing cut views)
    (hlt : views.length < s.readers.length) :
    s.Follows { s with
      store := (s.store.snapshot views.length).2
      attendant := .viewing cut (views ++ [(s.store.snapshot views.length).1]) } ∧
    Viewing { s with
      store := (s.store.snapshot views.length).2
      attendant := .viewing cut (views ++ [(s.store.snapshot views.length).1]) } cut
      (views ++ [(s.store.snapshot views.length).1]) := by
  have hr := List.getElem?_eq_getElem hlt
  obtain ⟨⟨captured, hget, hlines⟩, hended⟩ := h views.length _ hr
  have hfollows : s.Follows { s with
      store := (s.store.snapshot views.length).2
      attendant := .viewing cut (views ++ [(s.store.snapshot views.length).1]) } :=
    ⟨fun ref o href _ => s.store.get?_snapshot views.length href, rfl, fun _ _ h _ => h⟩
  have hbefore := hfollows.viewing hviewing
  refine ⟨hfollows, hbefore.joined, fun number name stream view hstream hview => ?_, hbefore.cut, ?_⟩
  · rcases Nat.lt_trichotomy number views.length with hless | rfl | hmore
    · rw [List.getElem?_append_left hless] at hview
      exact hbefore.viewed number name stream view hstream hview
    · rw [List.getElem?_concat_length] at hview
      cases hview
      have hname : some (_, _) = some (name, stream) := (streams_getElem? hr).symm.trans hstream
      cases hname
      refine ⟨captured, (OutputStore.get?_snapshot_view hget).trans rfl, ⟨_, hlines⟩, fun hjoined => ?_⟩
      have hdone := hviewing.joined views.length _ hjoined hr
      rw [(hended (by simp [hdone])).1, List.append_nil] at hlines
      exact hlines
    · have hnone : (views ++ [(s.store.snapshot views.length).1])[number]? = none := by
        rw [List.getElem?_eq_none_iff, List.length_append]
        exact hmore
      rw [hnone] at hview
      cases hview
  · rw [List.length_append]
    exact hlt

/-- The supervision sees a problem of a reader just when the stream has one that is kept, once all
readers were joined. -/
theorem returns_iff {cut : Option Nat} (h : s.Reading) (hjoined : s.Joined cut) :
    (child.exits && cut.isNone && s.readers.all fun r => r.error.isNone) = true ↔
      s.Returns child cut := by
  unfold Returns
  rw [Bool.and_eq_true, Bool.and_eq_true, Option.isNone_iff_eq_none, and_assoc]
  refine and_congr_right fun _ => and_congr_right fun hcut => ?_
  subst hcut
  have hkept : ∀ r ∈ s.readers, r.error = r.stream.keptProblem := by
    intro r hr
    obtain ⟨number, hnumber⟩ := List.mem_iff_getElem?.mp hr
    have hdone := hjoined number r (fun k hk => nomatch hk) hnumber
    exact ((h number r hnumber).ended (by simp [hdone])).2
  rw [List.all_eq_true, streams, List.forall_mem_map]
  refine forall₂_congr fun r hr => ?_
  rw [Option.isNone_iff_eq_none, hkept r hr]

/-- A step of the supervision leaves a consistent scene that follows the one before. -/
theorem consistent_attendantMoves (h : s.Consistent child)
    (hmove : s.attendantMoves child = some s') : s.Follows s' ∧ s'.Consistent child := by
  obtain ⟨hreaders, hattended, hwaited⟩ := h
  unfold attendantMoves at hmove
  unfold Attended at hattended
  cases hmain : s.attendant with
  | waiting =>
    rw [hmain] at hmove hattended
    obtain ⟨hends, hnext⟩ := Option.ite_none_right_eq_some.mp hmove
    cases hnext
    exact ⟨follows_attendant s _, hreaders, hattended, fun _ => hends⟩
  | joining joined =>
    rw [hmain] at hmove hattended hwaited
    have hends := hwaited Attendant.noConfusion
    dsimp only at hmove hattended
    cases hr : s.readers[joined]? with
    | some r =>
      rw [hr] at hmove
      obtain ⟨hdone, hnext⟩ := Option.ite_none_right_eq_some.mp hmove
      cases hnext
      exact ⟨follows_attendant s _, hreaders, hattended.succ hr hdone, fun _ => hends⟩
    | none =>
      rw [hr] at hmove
      cases hmove
      have hnil := Viewing.nil (hattended.all hr) fun k hk => nomatch hk
      exact ⟨follows_attendant s _, hreaders, (follows_attendant s _).viewing hnil, fun _ => hends⟩
  | viewing cut views =>
    rw [hmain] at hmove hattended hwaited
    have hends := hwaited Attendant.noConfusion
    dsimp only at hmove hattended
    by_cases hlt : views.length < s.readers.length
    · rw [if_pos hlt] at hmove
      cases hmove
      obtain ⟨hfollows, hviewing⟩ := viewing_snapshot hreaders hattended hlt
      exact ⟨hfollows, fun number r hr => (hreaders number r hr).snapshot _, hviewing,
        fun _ => hends⟩
    · rw [if_neg hlt] at hmove
      cases hmove
      exact ⟨follows_attendant s _, hreaders, ⟨(follows_attendant s _).viewing hattended,
        Nat.le_antisymm hattended.length (Nat.le_of_not_lt hlt),
        returns_iff hreaders hattended.joined⟩, fun _ => hends⟩
  | finished returned cut views =>
    rw [hmain] at hmove
    cases hmove

/-- So does an interrupt. -/
theorem consistent_interrupted (h : s.Consistent child) (hmove : s.interrupted = some s') :
    s.Follows s' ∧ s'.Consistent child := by
  obtain ⟨hreaders, hattended, hwaited⟩ := h
  unfold interrupted at hmove
  split at hmove
  · next joined hmain =>
    unfold Attended at hattended
    rw [hmain] at hattended hwaited
    obtain ⟨hlt, hnext⟩ := Option.ite_none_right_eq_some.mp hmove
    cases hnext
    have hnil := Viewing.nil hattended fun k hk => Option.some.inj hk ▸ hlt
    exact ⟨follows_attendant s _, hreaders, (follows_attendant s _).viewing hnil,
      fun _ => hwaited Attendant.noConfusion⟩
  · cases hmove

/-- Every step leaves a consistent scene that follows the one before. -/
theorem consistent_move {turn : Turn} (h : s.Consistent child)
    (hmove : s.move child turn = some s') : s.Follows s' ∧ s'.Consistent child := by
  cases turn with
  | reader number => exact consistent_readerMoves h hmove
  | attendant => exact consistent_attendantMoves h hmove
  | interrupt => exact consistent_interrupted h hmove

/-- And so does every schedule. -/
theorem consistent_play {turns : List Turn} (h : s.Consistent child)
    (hplay : s.play child turns = some s') : s.Follows s' ∧ s'.Consistent child := by
  induction turns generalizing s with
  | nil =>
    cases hplay
    exact ⟨.refl _, h⟩
  | cons turn rest ih =>
    cases hmove : s.move child turn with
    | none => simp [play, hmove] at hplay
    | some s₁ =>
      simp only [play, hmove] at hplay
      obtain ⟨hfollows, hconsistent⟩ := consistent_move h hmove
      obtain ⟨hfollows', hconsistent'⟩ := ih hconsistent hplay
      exact ⟨hfollows.trans hfollows', hconsistent'⟩

/-- Nobody waits for ever: until the run is over, the supervision can move, or the reader that it
waits for can. -/
theorem moves_on (hends : child.waitEnds = true)
    (hrunning : ∀ returned cut views, s.attendant ≠ .finished returned cut views) :
    ∃ turn, (s.move child turn).isSome = true := by
  cases hmain : s.attendant with
  | waiting => exact ⟨.attendant, by simp [move, attendantMoves, hmain, hends]⟩
  | joining joined =>
    cases hr : s.readers[joined]? with
    | none => exact ⟨.attendant, by simp [move, attendantMoves, hmain, hr]⟩
    | some r =>
      by_cases hdone : r.stage = .done
      · exact ⟨.attendant, by simp [move, attendantMoves, hmain, hr, hdone]⟩
      · exact ⟨.reader joined, by
          simp [move, readerMoves, hr, Reader.isSome_advance joined s.store hdone]⟩
  | viewing cut views =>
    refine ⟨.attendant, ?_⟩
    by_cases hlt : views.length < s.readers.length <;> simp [move, attendantMoves, hmain, hlt]
  | finished returned cut views => exact absurd hmain (hrunning returned cut views)

end Scene

end NativeBuild
