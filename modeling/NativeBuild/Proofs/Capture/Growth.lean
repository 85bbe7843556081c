import NativeBuild.Capture.Store
import NativeBuild.Capture.View

/-
  Captured outputs over a history of calls. A call names the output it is about by its identity, and
  is one of three that may change something (a line, the seal, a snapshot) or a view that only reads.
  What an output becomes is told by the calls alone (`grown`): the lines that were appended before
  its first seal, and none after it. One call does this to every output (`get?_perform`), so a whole
  history does (`get?_after`), and a snapshot, which is final, stays what it was when it was taken
  (`captures_grow_until_sealed`).
-/

namespace NativeBuild

/-! ## Calls -/

/-- A way to read an output. -/
inductive CaptureView where
  | get (i : Int)
  | slice (start? stop? step? : Option Int)
  | index (line : String) (start : Int) (stop? : Option Int)
  | count (line : String)
  | contains (line : String)
  | length
  | iterate
  | reversed
  | equalsLines (lines : List String)
  /-- Compares with the output of another identity. -/
  | equalsOutput (other : Nat)
  | describe

/-- What is asked of an output. -/
inductive CaptureRequest where
  | append (line : String)
  | close
  | snapshot
  | view (v : CaptureView)

/-- A request to the output of an identity. -/
structure CaptureCall where
  ref : Nat
  request : CaptureRequest

/-- What a call gives back. -/
inductive CaptureReply where
  | done
  | line (line : String)
  | lines (lines : List String)
  | number (n : Nat)
  | truth (b : Bool)
  | text (text : String)
  | output (ref : Nat)

namespace CaptureCall

/-- The line that a call appends to an output. -/
def lineFor (ref : Nat) : CaptureCall → Option String
  | ⟨other, .append line⟩ => if other = ref then some line else none
  | _ => none

/-- A call that seals an output. -/
def seals (ref : Nat) : CaptureCall → Bool
  | ⟨other, .close⟩ => other == ref
  | _ => false

end CaptureCall

namespace OutputStore

/-- What a view of an output shows. -/
def view (s : OutputStore) (o : CapturedOutput) : CaptureView → Except Fault CaptureReply
  | .get i => (o.get i).map .line
  | .slice start? stop? step? => (o.slice start? stop? step?).map .lines
  | .index line start stop? => (o.index line start stop?).map .number
  | .count line => .ok (.number (o.count line))
  | .contains line => .ok (.truth (o.lines.contains line))
  | .length => .ok (.number o.lines.length)
  | .iterate => .ok (.lines o.lines)
  | .reversed => .ok (.lines o.reversed)
  | .equalsLines lines => .ok (.truth (o.lines == lines))
  | .equalsOutput other => .ok (.truth ((s.get? other).any o.shows))
  | .describe => .ok (.text o.describe)

/-- A call and what it leaves behind. A call to an output that does not exist does nothing. -/
def perform (s : OutputStore) (call : CaptureCall) : Except Problem CaptureReply × OutputStore :=
  match s.get? call.ref with
  | none => (.ok .done, s)
  | some o =>
    match call.request with
    | .append line =>
      match s.append call.ref line with
      | .ok grown => (.ok .done, grown)
      | .error e => (.error (.error e), s)
    | .close => (.ok .done, s.close call.ref)
    | .snapshot => (.ok (.output (s.snapshot call.ref).1), (s.snapshot call.ref).2)
    | .view v => ((s.view o v).mapError .fault, s)

/-- The outputs after calls, one after the other. -/
def after (s : OutputStore) : List CaptureCall → OutputStore
  | [] => s
  | call :: rest => (s.perform call).2.after rest

theorem after_append (s : OutputStore) (before rest : List CaptureCall) :
    s.after (before ++ rest) = (s.after before).after rest := by
  induction before generalizing s with
  | nil => rfl
  | cons call before ih => exact ih (s.perform call).2

end OutputStore

/-! ## Growth -/

namespace CapturedOutput

/-- The lines that calls append to an output before they seal it. -/
def linesFor (ref : Nat) (calls : List CaptureCall) : List String :=
  (calls.takeWhile fun call => !call.seals ref).filterMap (CaptureCall.lineFor ref)

/-- What an output becomes by calls: it grows by the lines appended until it is sealed. -/
def grown (o : CapturedOutput) (ref : Nat) (calls : List CaptureCall) : CapturedOutput where
  name := o.name
  lines := o.lines ++ if o.isSealed then [] else linesFor ref calls
  isSealed := o.isSealed || calls.any (·.seals ref)

@[simp] theorem grown_nil (o : CapturedOutput) (ref : Nat) : o.grown ref [] = o := by
  simp [grown, linesFor]

/-- A final output stays as it is. -/
theorem grown_of_sealed {o : CapturedOutput} (h : o.isSealed = true) (ref : Nat)
    (calls : List CaptureCall) : o.grown ref calls = o := by
  cases o
  simp_all [grown]

theorem linesFor_cons_of_not_seals {ref : Nat} {call : CaptureCall} (h : call.seals ref = false)
    (rest : List CaptureCall) :
    linesFor ref (call :: rest) = (call.lineFor ref).toList ++ linesFor ref rest := by
  unfold linesFor
  rw [List.takeWhile_cons_of_pos (by simp [h])]
  cases hline : call.lineFor ref <;> simp [hline]

/-- What calls do is what the first does, and then the others. -/
theorem grown_cons (o : CapturedOutput) (ref : Nat) (call : CaptureCall) (rest : List CaptureCall) :
    o.grown ref (call :: rest) = (o.grown ref [call]).grown ref rest := by
  cases ho : o.isSealed with
  | true => rw [grown_of_sealed ho, grown_of_sealed ho, grown_of_sealed ho]
  | false =>
    cases hseals : call.seals ref with
    | true => simp [grown, linesFor, ho, hseals]
    | false =>
      have hone : linesFor ref [call] = (call.lineFor ref).toList := by
        rw [linesFor_cons_of_not_seals hseals]
        simp [linesFor]
      simp [grown, ho, hseals, hone, linesFor_cons_of_not_seals hseals rest]

/-- A call that neither appends to an output nor seals it leaves the output as it is. -/
theorem grown_single_of_idle (o : CapturedOutput) {ref : Nat} {call : CaptureCall}
    (hseals : call.seals ref = false) (hline : call.lineFor ref = none) :
    o.grown ref [call] = o := by
  simp [grown, linesFor, hseals, hline]

end CapturedOutput

namespace OutputStore

open CapturedOutput

variable {s : OutputStore} {ref : Nat} {o : CapturedOutput}

/-! ## One call -/

theorem perform_append_open (h : s.get? ref = some o) (ho : o.isSealed = false) (line : String) :
    s.perform ⟨ref, .append line⟩ =
      (.ok .done, ⟨s.objects.set ref { o with lines := o.lines ++ [line] }⟩) := by
  unfold perform
  simp [h, append_of_open h ho]

/-- A line for a final output is refused, and nothing changes. -/
theorem perform_append_sealed (h : s.get? ref = some o) (ho : o.isSealed = true) (line : String) :
    s.perform ⟨ref, .append line⟩ = (.error (.error (.outputSealed o.name)), s) := by
  unfold perform append
  simp [h, append_sealed ho]

theorem perform_close (h : s.get? ref = some o) :
    s.perform ⟨ref, .close⟩ = (.ok .done, s.close ref) := by
  unfold perform
  simp [h]

/-- The snapshot of an output that can still grow is a new object. -/
theorem perform_snapshot_open (h : s.get? ref = some o) (ho : o.isSealed = false) :
    s.perform ⟨ref, .snapshot⟩ =
      (.ok (.output s.objects.length), ⟨s.objects ++ [o.snapshot]⟩) := by
  unfold perform snapshot
  simp [h, ho]

/-- The snapshot of a final output is that same object. -/
theorem perform_snapshot_sealed (h : s.get? ref = some o) (ho : o.isSealed = true) :
    s.perform ⟨ref, .snapshot⟩ = (.ok (.output ref), s) := by
  unfold perform snapshot
  simp [h, ho]

theorem perform_view (h : s.get? ref = some o) (v : CaptureView) :
    s.perform ⟨ref, .view v⟩ = ((s.view o v).mapError .fault, s) := by
  unfold perform
  simp [h]

theorem perform_of_absent {call : CaptureCall} (h : s.get? call.ref = none) :
    s.perform call = (.ok .done, s) := by
  unfold perform
  simp [h]

/-- A call does to every output what it says. -/
theorem get?_perform (h : s.get? ref = some o) (call : CaptureCall) :
    (s.perform call).2.get? ref = some (o.grown ref [call]) := by
  obtain ⟨other, request⟩ := call
  cases ht : s.get? other with
  | none =>
    -- nothing happens, and the call is about another output than this one
    have hne : other ≠ ref := fun e => by simp [e, h] at ht
    have hidle : o.grown ref [⟨other, request⟩] = o := by
      cases request <;> exact grown_single_of_idle o (by simp [CaptureCall.seals, hne])
        (by simp [CaptureCall.lineFor, hne])
    rw [perform_of_absent ht, hidle, h]
  | some t =>
    cases request with
    | append line =>
      by_cases hself : other = ref
      · subst hself
        cases h.symm.trans ht
        cases ho : o.isSealed with
        | true => rw [perform_append_sealed h ho, grown_of_sealed ho, h]
        | false =>
          rw [perform_append_open h ho, get?_set_self h]
          simp [grown, linesFor, CaptureCall.seals, CaptureCall.lineFor, ho]
      · rw [grown_single_of_idle o rfl (by simp [CaptureCall.lineFor, hself])]
        cases hseal : t.isSealed with
        | true => rw [perform_append_sealed ht hseal, h]
        | false => rw [perform_append_open ht hseal, get?_set_of_ne s (Ne.symm hself), h]
    | close =>
      rw [perform_close ht]
      by_cases hself : other = ref
      · subst hself
        rw [get?_close_self h]
        simp [grown, CapturedOutput.close, linesFor, CaptureCall.seals]
      · rw [get?_close_of_ne s (Ne.symm hself), h,
          grown_single_of_idle o (by simp [CaptureCall.seals, hself]) rfl]
    | snapshot =>
      rw [grown_single_of_idle o rfl rfl]
      unfold perform
      rw [ht]
      exact get?_snapshot s other h
    | view v => rw [perform_view ht, grown_single_of_idle o rfl rfl, h]

/-! ## Histories -/

/-- Calls do to every output what they say. -/
theorem get?_after (h : s.get? ref = some o) (calls : List CaptureCall) :
    (s.after calls).get? ref = some (o.grown ref calls) := by
  induction calls generalizing s o with
  | nil => rw [grown_nil]; exact h
  | cons call rest ih =>
    rw [grown_cons]
    exact ih (get?_perform h call)

/-- What is final stays as it is. -/
theorem get?_after_of_sealed (h : s.get? ref = some o) (ho : o.isSealed = true)
    (calls : List CaptureCall) : (s.after calls).get? ref = some o := by
  rw [get?_after h, grown_of_sealed ho]

/-- What a call to an output gives and does, when `rest` are the calls after it. -/
def Answers (s : OutputStore) (o : CapturedOutput) (ref : Nat) (rest : List CaptureCall) :
    CaptureRequest → Prop
  | .append line =>
    ((s.perform ⟨ref, .append line⟩).1 = .ok .done ↔ o.isSealed = false) ∧
      (o.isSealed = true →
        s.perform ⟨ref, .append line⟩ = (.error (.error (.outputSealed o.name)), s))
  | .close => (s.perform ⟨ref, .close⟩).1 = .ok .done
  | .snapshot =>
    (o.isSealed = true → s.perform ⟨ref, .snapshot⟩ = (.ok (.output ref), s)) ∧
      (o.isSealed = false → ∃ new, s.get? new = none ∧
        (s.perform ⟨ref, .snapshot⟩).1 = .ok (.output new) ∧
        ((s.perform ⟨ref, .snapshot⟩).2.after rest).get? new = some (.final o.name o.lines))
  | .view v => (s.perform ⟨ref, .view v⟩).2 = s

theorem answers_perform (h : s.get? ref = some o) (rest : List CaptureCall)
    (request : CaptureRequest) : s.Answers o ref rest request := by
  cases request with
  | append line =>
    refine ⟨?_, fun ho => perform_append_sealed h ho line⟩
    cases ho : o.isSealed with
    | true => simp [perform_append_sealed h ho]
    | false => simp [perform_append_open h ho]
  | close => exact congrArg Prod.fst (perform_close h)
  | snapshot =>
    refine ⟨fun ho => perform_snapshot_sealed h ho, fun ho => ⟨s.objects.length, ?_, ?_, ?_⟩⟩
    · simp [get?]
    · exact congrArg Prod.fst (perform_snapshot_open h ho)
    · rw [perform_snapshot_open h ho]
      exact get?_after_of_sealed (by simp [get?, CapturedOutput.snapshot]) rfl rest
  | view v => exact congrArg Prod.snd (perform_view h v)

/-- Over any history of calls to an output and to its snapshots, every output that is there grows by
the lines appended before its first seal and by nothing else, so one that is sealed stays as it is,
and every call answers as the output that it is about stands by then. -/
theorem captures_grow_until_sealed (o : CapturedOutput) (before rest : List CaptureCall) :
    (after ⟨[o]⟩ (before ++ rest)).get? 0 = some (o.grown 0 (before ++ rest)) ∧
      ∀ ref t, (after ⟨[o]⟩ before).get? ref = some t →
        (after ⟨[o]⟩ (before ++ rest)).get? ref = some (t.grown ref rest) ∧
        (t.isSealed = true → (after ⟨[o]⟩ (before ++ rest)).get? ref = some t) ∧
        ∀ request, (after ⟨[o]⟩ before).Answers t ref rest request := by
  refine ⟨get?_after rfl _, fun ref t ht => ?_⟩
  rw [after_append]
  exact ⟨get?_after ht rest, fun hsealed => get?_after_of_sealed ht hsealed rest,
    answers_perform ht rest⟩

/-- An output that is read while a tool still writes to it: the snapshot keeps the first two lines,
and the output goes on until it is closed. -/
theorem captures_grow_until_sealed_halfway :
    (after ⟨[.opened "stdout" ["a"]]⟩ [⟨0, .append "b"⟩, ⟨0, .snapshot⟩, ⟨0, .append "c"⟩]).get? 1 =
        some (.final "stdout" ["a", "b"]) ∧
      (after ⟨[.opened "stdout" ["a"]]⟩
          ([⟨0, .append "b"⟩, ⟨0, .snapshot⟩, ⟨0, .append "c"⟩] ++
            [⟨1, .append "late"⟩, ⟨0, .close⟩, ⟨0, .append "d"⟩])).get? 1 =
        some (.final "stdout" ["a", "b"]) ∧
      (after ⟨[.opened "stdout" ["a"]]⟩
          ([⟨0, .append "b"⟩, ⟨0, .snapshot⟩, ⟨0, .append "c"⟩] ++
            [⟨1, .append "late"⟩, ⟨0, .close⟩, ⟨0, .append "d"⟩])).get? 0 =
        some (.final "stdout" ["a", "b", "c"]) := by
  obtain ⟨hgrown, hothers⟩ := captures_grow_until_sealed (.opened "stdout" ["a"])
    [⟨0, .append "b"⟩, ⟨0, .snapshot⟩, ⟨0, .append "c"⟩]
    [⟨1, .append "late"⟩, ⟨0, .close⟩, ⟨0, .append "d"⟩]
  have hsnapshot : (after ⟨[.opened "stdout" ["a"]]⟩
      [⟨0, .append "b"⟩, ⟨0, .snapshot⟩, ⟨0, .append "c"⟩]).get? 1 =
        some (.final "stdout" ["a", "b"]) := by decide
  obtain ⟨-, hstays, -⟩ := hothers 1 (.final "stdout" ["a", "b"]) hsnapshot
  exact ⟨hsnapshot, hstays rfl, hgrown⟩

end OutputStore

end NativeBuild
