import NativeBuild.Proofs.Supervision.Interleaving
import NativeBuild.Proofs.Text.Lines

/-
  Streams that break off. What is complete when a stream breaks off is complete for good: bytes
  only add lines to those that have ended (`LineReader.complete_prefix_feed`), so the lines captured
  by then are a beginning of those that the stream would have given, wherever it was cut. A line
  feed leaves nothing waiting, neither a byte of a character nor a carriage return
  (`LineReader.feed_lineFeed`), so every line that one has ended is among them.

  Whatever a stream breaks off with, its reader goes through all of its stages: it closes the stream
  and then makes the output final (`Reader.course_started`).
-/

namespace NativeBuild

namespace Text

/-! ## Complete lines -/

namespace Assembly

theorem complete_prefix_foldl_push (text : List Char) (a : Assembly) :
    a.complete <+: (text.foldl push a).complete := by
  induction text generalizing a with
  | nil => exact List.prefix_rfl
  | cons c text ih =>
    obtain ⟨more, hmore⟩ := a.finished_push c
    have hpush : a.complete <+: (a.push c).complete := by
      rw [complete, complete, hmore, List.reverse_append]
      exact List.prefix_append _ _
    exact hpush.trans (ih (a.push c))

theorem complete_prefix_all (a : Assembly) : a.complete <+: a.all := by
  unfold all
  split
  · rw [complete_close]
    exact List.prefix_append _ _
  · exact List.prefix_rfl

/-- Between two lines, the end of the stream adds no line. -/
theorem all_close (a : Assembly) : a.close.all = a.close.complete :=
  if_neg (by simp [close])

end Assembly

namespace LineReader

variable (r : LineReader)

theorem complete_prefix_feed (bytes : List UInt8) :
    r.text.complete <+: (r.feed bytes).text.complete := by
  induction bytes generalizing r with
  | nil => exact List.prefix_rfl
  | cons b bytes ih =>
    have hpush : r.text.complete <+: (r.push b).text.complete :=
      Assembly.complete_prefix_foldl_push _ _
    exact hpush.trans (ih (r.push b))

theorem complete_prefix_finish : r.text.complete <+: r.finish :=
  (Assembly.complete_prefix_foldl_push _ _).trans (Assembly.complete_prefix_all _)

theorem sound_feed (h : r.decoder.Sound) (bytes : List UInt8) : (r.feed bytes).decoder.Sound := by
  induction bytes generalizing r with
  | nil => exact h
  | cons b bytes ih => exact ih (r.push b) (h.step b)

/-- A line feed ends what the decoder holds and then the line. -/
theorem feed_lineFeed (h : r.decoder.Sound) :
    r.feed [0x0A] = ⟨.start, (r.decoder.flush.foldl Assembly.push r.text).close⟩ := by
  have hstep : r.decoder.step 0x0A = (.start, r.decoder.flush ++ ['\n']) :=
    Utf8.step_of_ascii h (by decide)
  change r.push 0x0A = _
  rw [push, hstep]
  dsimp only
  rw [List.foldl_append]
  exact congrArg (LineReader.mk .start) (Assembly.push_lineFeed _)

end LineReader

/-- What is complete when a stream breaks off is what it begins with, however it would have gone
on. -/
theorem linesBefore_prefix (bytes more : List UInt8) :
    linesBefore bytes <+: linesOf (bytes ++ more) := by
  rw [linesOf, LineReader.feed_append]
  exact (LineReader.complete_prefix_feed _ more).trans (LineReader.complete_prefix_finish _)

/-- After a line feed there is nothing left to complete. -/
theorem linesOf_eq_linesBefore (bytes : List UInt8) :
    linesOf (bytes ++ [0x0A]) = linesBefore (bytes ++ [0x0A]) := by
  have hsound := LineReader.sound_feed {} (by trivial) bytes
  rw [linesOf, linesBefore, LineReader.feed_append, LineReader.feed_lineFeed _ hsound]
  exact Assembly.all_close _

theorem linesBefore_prefix_append (bytes more : List UInt8) :
    linesBefore bytes <+: linesBefore (bytes ++ more) := by
  rw [linesBefore, linesBefore, LineReader.feed_append]
  exact LineReader.complete_prefix_feed _ more

end Text

/-! ## The end of a reader -/

namespace Reader

/-- A reader that has not read anything. -/
def started (name : String) (stream : Stream) : Reader where
  name := name
  stream := stream
  left := stream.lines

/-- What a reader has still to do: its lines, and the stages ahead of it. -/
def pending (r : Reader) : Nat :=
  r.left.length +
    match r.stage with
    | .reading => 3
    | .drained => 2
    | .closed => 1
    | .done => 0

theorem pending_advance {number : Nat} {r r' : Reader} {store store' : OutputStore}
    (h : r.advance number store = some (r', store')) : r'.pending < r.pending := by
  unfold advance at h
  unfold pending
  cases hstage : r.stage with
  | reading =>
    rw [hstage] at h
    cases hleft : r.left with
    | nil =>
      rw [hleft] at h
      obtain ⟨rfl, -⟩ := Prod.mk.inj (Option.some.inj h)
      simp
    | cons line rest =>
      rw [hleft] at h
      dsimp only at h
      split at h <;> obtain ⟨rfl, -⟩ := Prod.mk.inj (Option.some.inj h) <;> simp
  | drained | closed =>
    rw [hstage] at h
    obtain ⟨rfl, -⟩ := Prod.mk.inj (Option.some.inj h)
    simp
  | done =>
    rw [hstage] at h
    cases h

/-- A reader from here to its end: the stages in which it takes a step, then the one in which it
ends, and what it leaves. -/
def course (number : Nat) (r : Reader) (store : OutputStore) :
    List ReaderStage × Reader × OutputStore :=
  match h : r.advance number store with
  | none => ([r.stage], r, store)
  | some (r', store') =>
    have := pending_advance h
    let (stages, last) := course number r' store'
    (r.stage :: stages, last)
termination_by r.pending

variable {number : Nat} {r r' : Reader} {store store' : OutputStore}

theorem course_of_done (h : r.stage = .done) : r.course number store = ([.done], r, store) := by
  have hstep : r.advance number store = none := by rw [advance, h]
  rw [course]
  split
  · rw [h]
  · next hsome => rw [hstep] at hsome; cases hsome

theorem course_of_advance (h : r.advance number store = some (r', store')) :
    r.course number store =
      (r.stage :: (r'.course number store').1, (r'.course number store').2) := by
  rw [course]
  split
  · next hnone => rw [h] at hnone; cases hnone
  · next hsome => rw [h] at hsome; cases hsome; rfl

/-- Once its stream has ended, a reader closes it and then makes its output final. -/
theorem course_of_drained (h : r.stage = .drained) :
    r.course number store =
      ([.drained, .closed, .done], { r with stage := .done }, store.close number) := by
  have hdrained : r.advance number store = some ({ r with stage := .closed }, store) := by
    rw [advance, h]
  have hclosed : ({ r with stage := .closed } : Reader).advance number store =
      some ({ r with stage := .done }, store.close number) := rfl
  rw [course_of_advance hdrained, course_of_advance hclosed, course_of_done rfl, h]

/-- A reader appends all of its lines before it notices what its stream ended in. The induction is
on the lines, and the lines captured by then stand in the output. -/
theorem course_of_reading (before after : List CapturedOutput) (r : Reader)
    (captured : List String) (h : r.stage = .reading) :
    r.course before.length ⟨before ++ .opened r.name captured :: after⟩ =
      (List.replicate (r.left.length + 1) .reading ++ [.drained, .closed, .done],
        { r with left := [], stage := .done, error := r.stream.keptProblem },
        ⟨before ++ .final r.name (captured ++ r.left) :: after⟩) := by
  have hget (o : CapturedOutput) :
      OutputStore.get? ⟨before ++ o :: after⟩ before.length = some o := by
    simp [OutputStore.get?]
  have hset (o o' : CapturedOutput) :
      (before ++ o :: after).set before.length o' = before ++ o' :: after := by
    simp
  cases hleft : r.left with
  | nil =>
    have hends : r.advance before.length ⟨before ++ .opened r.name captured :: after⟩ =
        some ({ r with stage := .drained, error := r.stream.keptProblem },
          ⟨before ++ .opened r.name captured :: after⟩) := by
      rw [advance, h]
      dsimp only
      rw [hleft]
    have hclose : OutputStore.close ⟨before ++ .opened r.name captured :: after⟩ before.length =
        ⟨before ++ .final r.name captured :: after⟩ := by
      rw [OutputStore.close, hget]
      exact congrArg OutputStore.mk (hset _ _)
    have hended : ({ r with stage := .done, error := r.stream.keptProblem } : Reader) =
        { r with left := [], stage := .done, error := r.stream.keptProblem } := by rw [← hleft]
    rw [course_of_advance hends, course_of_drained rfl, hclose, hended, h, List.append_nil]
    rfl
  | cons line rest =>
    have happends : r.advance before.length ⟨before ++ .opened r.name captured :: after⟩ =
        some ({ r with left := rest },
          ⟨before ++ .opened r.name (captured ++ [line]) :: after⟩) := by
      rw [advance, h]
      dsimp only
      rw [hleft]
      dsimp only
      rw [OutputStore.append_of_open (hget _) rfl, hset]
      rfl
    have ih := course_of_reading before after { r with left := rest } (captured ++ [line]) h
    rw [course_of_advance happends, ih, h, List.append_assoc]
    rfl
termination_by r.left.length
decreasing_by simp [hleft]

/-- A reader set to a stream ends, and leaves what draining the stream leaves. -/
theorem course_started (name : String) (s : Stream) (before after : List CapturedOutput) :
    (started name s).course before.length ⟨before ++ .opened name [] :: after⟩ =
      (List.replicate (s.lines.length + 1) .reading ++ [.drained, .closed, .done],
        { started name s with left := [], stage := .done, error := (s.drain name).error },
        ⟨before ++ (s.drain name).output :: after⟩) :=
  course_of_reading before after (started name s) [] rfl

end Reader

namespace Stream

/-- A stream that breaks off after some bytes, whatever the problem is. The lines captured from it
are a beginning of those that it would have given had it gone on to its end, in whatever way; they
begin with all lines up to any line feed among the bytes. Its reader closes the stream, then makes
the output final and ends, and keeps the problem just when it is one that reading a stream may
give. -/
theorem broken_off (name : String) (problem : Problem) :
    (∀ bytes more,
      (drain ⟨bytes, some problem⟩ name).output.lines <+: captured name (bytes ++ more)) ∧
    (∀ before after, captured name (before ++ [0x0A]) <+:
      (drain ⟨before ++ [0x0A] ++ after, some problem⟩ name).output.lines) ∧
    ∀ (bytes : List UInt8) (before after : List CapturedOutput), ∃ reader : Reader,
      (Reader.started name ⟨bytes, some problem⟩).course before.length
          ⟨before ++ .opened name [] :: after⟩ =
        (List.replicate ((Text.linesBefore bytes).length + 1) .reading ++ [.drained, .closed, .done],
          reader, ⟨before ++ .final name (Text.linesBefore bytes) :: after⟩) ∧
      reader.stage = .done ∧
      (reader.error = some problem ↔ problem.isStreamError = true) ∧
      (reader.error = none ↔ problem.isStreamError = false) := by
  refine ⟨Text.linesBefore_prefix, fun before after => ?_, fun bytes before after => ?_⟩
  · have hbefore : captured name (before ++ [0x0A]) = Text.linesBefore (before ++ [0x0A]) :=
      Text.linesOf_eq_linesBefore before
    rw [hbefore]
    exact Text.linesBefore_prefix_append (before ++ [0x0A]) after
  · refine ⟨_, Reader.course_started name ⟨bytes, some problem⟩ before after, rfl, ?_⟩
    have hkept : (drain ⟨bytes, some problem⟩ name).error =
        if problem.isStreamError then some problem else none := rfl
    dsimp only
    rw [hkept]
    cases problem.isStreamError <;> simp

/-- A carriage return that comes last has not ended its line. -/
example : (drain ⟨[0x41, 0x0A, 0x42, 0x0D], some (.fault .embeddedNul)⟩ "stdout").output =
    .final "stdout" ["A"] := by decide +kernel

end Stream

end NativeBuild
