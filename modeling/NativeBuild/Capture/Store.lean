import NativeBuild.Capture.Basic
import NativeBuild.Error

/-
  Captured outputs that are shared. A reader appends to an output while others hold it, so an
  output has an identity: its position in a store. A snapshot of an output that can still grow is
  a new object; a snapshot of a final one is that same object.
-/

namespace NativeBuild

namespace CapturedOutput

/-- One line more, unless the output is final. -/
def append (o : CapturedOutput) (line : String) : Except BuildError CapturedOutput :=
  if o.isSealed then .error (.outputSealed o.name) else .ok { o with lines := o.lines ++ [line] }

theorem append_opened {o : CapturedOutput} (h : o.isSealed = false) (line : String) :
    o.append line = .ok { o with lines := o.lines ++ [line] } := by simp [append, h]

theorem append_sealed {o : CapturedOutput} (h : o.isSealed = true) (line : String) :
    o.append line = .error (.outputSealed o.name) := by simp [append, h]

end CapturedOutput

/-- The outputs that exist, by identity. -/
structure OutputStore where
  objects : List CapturedOutput
  deriving Repr, DecidableEq

namespace OutputStore

/-- The output of an identity. -/
def get? (s : OutputStore) (ref : Nat) : Option CapturedOutput := s.objects[ref]?

/-- One line more for an output. -/
def append (s : OutputStore) (ref : Nat) (line : String) : Except BuildError OutputStore :=
  match s.get? ref with
  | none => .ok s
  | some o =>
    match o.append line with
    | .ok grown => .ok ⟨s.objects.set ref grown⟩
    | .error e => .error e

/-- An output becomes final. -/
def close (s : OutputStore) (ref : Nat) : OutputStore :=
  match s.get? ref with
  | none => s
  | some o => ⟨s.objects.set ref o.close⟩

/-- A final view of an output: itself when it is final, and otherwise a new object. -/
def snapshot (s : OutputStore) (ref : Nat) : Nat × OutputStore :=
  match s.get? ref with
  | none => (ref, s)
  | some o =>
    if o.isSealed then (ref, s) else (s.objects.length, ⟨s.objects ++ [o.snapshot]⟩)

theorem get?_close_self {s : OutputStore} {ref : Nat} {o : CapturedOutput}
    (h : s.get? ref = some o) : (s.close ref).get? ref = some o.close := by
  have hl : ref < s.objects.length := (List.getElem?_eq_some_iff.mp h).1
  have hc : s.close ref = ⟨s.objects.set ref o.close⟩ := by simp [close, h]
  rw [hc, get?]
  simp [hl]

theorem get?_close_of_ne (s : OutputStore) {ref other : Nat} (h : other ≠ ref) :
    (s.close ref).get? other = s.get? other := by
  unfold close
  split
  · rfl
  · simp [get?, List.getElem?_set_ne (Ne.symm h)]

theorem append_of_open {s : OutputStore} {ref : Nat} {o : CapturedOutput}
    (h : s.get? ref = some o) (ho : o.isSealed = false) (line : String) :
    s.append ref line = .ok ⟨s.objects.set ref { o with lines := o.lines ++ [line] }⟩ := by
  simp [append, h, CapturedOutput.append_opened ho]

theorem get?_set_self {s : OutputStore} {ref : Nat} {o : CapturedOutput}
    (h : s.get? ref = some o) (o' : CapturedOutput) :
    get? ⟨s.objects.set ref o'⟩ ref = some o' := by
  have hl : ref < s.objects.length := (List.getElem?_eq_some_iff.mp h).1
  simp [get?, hl]

theorem get?_set_of_ne (s : OutputStore) {ref other : Nat} (h : other ≠ ref)
    (o' : CapturedOutput) : get? ⟨s.objects.set ref o'⟩ other = s.get? other := by
  simp [get?, List.getElem?_set_ne (Ne.symm h)]

/-- Taking a snapshot leaves every object that was there as it was. -/
theorem get?_snapshot (s : OutputStore) (ref : Nat) {other : Nat} {o : CapturedOutput}
    (h : s.get? other = some o) : (s.snapshot ref).2.get? other = some o := by
  have hl : other < s.objects.length := (List.getElem?_eq_some_iff.mp h).1
  have hv : s.objects[other]? = some o := h
  unfold snapshot
  split
  · exact h
  · split
    · exact h
    · simp [get?, List.getElem?_append_left hl, hv]

/-- A snapshot shows what was captured by then, and is final. -/
theorem get?_snapshot_view {s : OutputStore} {ref : Nat} {o : CapturedOutput}
    (h : s.get? ref = some o) : (s.snapshot ref).2.get? (s.snapshot ref).1 = some o.snapshot := by
  unfold snapshot
  rw [h]
  dsimp only
  split
  · next hsealed => rw [CapturedOutput.snapshot_of_sealed hsealed, h]
  · simp [get?]

end OutputStore

end NativeBuild
