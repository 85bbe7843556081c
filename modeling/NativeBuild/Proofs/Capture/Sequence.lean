import Mathlib.Data.List.Basic
import NativeBuild.Capture.View

/-
  The views of captured output agree. Reading by position is the view that the others come from: a
  slice is what is read at the positions of a progression (`slice_eq_mapM_get`), a search goes through
  the positions one by one (`searchFrom`) and comes to the first that holds the line, which is where
  the closed form of `index` finds it (`index_eq_search`). So is a line contained exactly when a search
  finds it and when it is counted at all (`views_agree`).
-/

namespace NativeBuild.CapturedOutput

variable {o : CapturedOutput}

/-! ## Positions -/

/-- The position that an integer means among so many: a negative one counts from the end. -/
def fromEnd (length : Nat) (i : Int) : Int := if i < 0 then i + length else i

theorem get_of_fromEnd {i : Int} {p : Nat} (hp : fromEnd o.lines.length i = p)
    (h : p < o.lines.length) : o.get i = .ok o.lines[p] := by
  have hnonneg : ¬ (p : Int) < 0 := by omega
  unfold fromEnd at hp
  simp [get, hp, hnonneg, h]

theorem get_of_outside {i : Int} (h : ¬ (-o.lines.length ≤ i ∧ i < o.lines.length)) :
    o.get i = .error (if fitsWord i then .indexOutOfRange else .indexTooWide) := by
  have hnone : (if fromEnd o.lines.length i < 0 then none
      else o.lines[(fromEnd o.lines.length i).toNat]?) = none := by
    split
    · rfl
    · rename_i hnonneg
      unfold fromEnd at hnonneg ⊢
      rw [List.getElem?_eq_none_iff]
      split at hnonneg <;> split <;> omega
  unfold fromEnd at hnone
  simp only [get, hnone]

/-- Reading succeeds from the first position to the last, counted from either end. -/
theorem get_ok_iff {i : Int} :
    (∃ line, o.get i = .ok line) ↔ -o.lines.length ≤ i ∧ i < o.lines.length := by
  constructor
  · rintro ⟨line, hget⟩
    refine Decidable.byContradiction fun houtside => ?_
    rw [get_of_outside houtside] at hget
    cases hget
  · rintro ⟨hlow, hhigh⟩
    have hposition : ∃ p : Nat, fromEnd o.lines.length i = p ∧ p < o.lines.length := by
      unfold fromEnd
      split
      · exact ⟨(i + o.lines.length).toNat, by omega, by omega⟩
      · exact ⟨i.toNat, by omega, by omega⟩
    obtain ⟨p, hp, hlt⟩ := hposition
    exact ⟨o.lines[p], get_of_fromEnd hp hlt⟩

theorem get_ok_iff_getElem? {p : Nat} {line : String} :
    o.get p = .ok line ↔ o.lines[p]? = some line := by
  by_cases h : p < o.lines.length
  · rw [get_nonneg h, List.getElem?_eq_getElem h]
    simp
  · have houtside : ¬ (-(o.lines.length : Int) ≤ p ∧ (p : Int) < o.lines.length) := by omega
    rw [get_of_outside houtside, List.getElem?_eq_none (by omega)]
    simp

theorem family_of_get_error {i : Int} {fault : Fault} (h : o.get i = .error fault) :
    fault.family = .index := by
  have houtside : ¬ (-o.lines.length ≤ i ∧ i < o.lines.length) := by
    intro hinside
    obtain ⟨line, hline⟩ := get_ok_iff.mpr hinside
    rw [hline] at h
    cases h
  rw [get_of_outside houtside] at h
  injection h with h
  subst h
  split <;> rfl

/-! ## Slices -/

/-- The positions from one on, by `step`, up to `stop` and without it. -/
def progression (stop step : Int) (p : Int) : List Int :=
  if (0 < step ∧ p < stop) ∨ (step < 0 ∧ stop < p) then p :: progression stop step (p + step)
  else []
termination_by (if 0 < step then stop - p else p - stop).toNat
decreasing_by split <;> omega

/-- The lowest bound of a slice: one that goes backwards can end before the first line. -/
def lowest (step : Int) : Int := if 0 < step then 0 else -1

/-- The highest bound of a slice: one that goes forwards can end after the last line. -/
def highest (length : Nat) (step : Int) : Int := if 0 < step then length else length - 1

/-- A bound of a slice, counted from the end when negative and moved in between the lowest and the
highest. -/
def moved (length : Nat) (step bound : Int) : Int :=
  max (lowest step) (min (fromEnd length bound) (highest length step))

/-- The positions that a slice reads. An absent start is the end it comes from, an absent stop the end
it goes to. -/
def slicePositions (length : Nat) (start? stop? : Option Int) (step : Int) : List Int :=
  let first := if 0 < step then lowest step else highest length step
  let last := if 0 < step then highest length step else lowest step
  progression (stop?.elim last (moved length step)) step (start?.elim first (moved length step))

theorem bounds_forwards {step : Int} (h : 0 < step) (length : Nat) :
    lowest step = 0 ∧ highest length step = length := ⟨if_pos h, if_pos h⟩

theorem bounds_backwards {step : Int} (h : ¬ 0 < step) (length : Nat) :
    lowest step = -1 ∧ highest length step = length - 1 := ⟨if_neg h, if_neg h⟩

theorem clamp_eq_moved {length : Nat} {step : Int} (bound : Int) :
    clamp length (lowest step) (highest length step) bound = moved length step bound := by
  unfold clamp moved fromEnd lowest highest
  split <;> split <;> omega

theorem sliceBounds_eq (length : Nat) (start? stop? : Option Int) (step : Int) :
    sliceBounds length start? stop? step =
      (start?.elim (if 0 < step then lowest step else highest length step) (moved length step),
        stop?.elim (if 0 < step then highest length step else lowest step) (moved length step)) := by
  have hbound : ∀ (absent : Int) (bound? : Option Int),
      bound?.elim absent (moved length step) =
        (bound?.map (clamp length (lowest step) (highest length step))).getD absent := by
    intro absent bound?
    cases bound? with
    | none => rfl
    | some bound => exact (clamp_eq_moved bound).symm
  rw [hbound, hbound]
  unfold sliceBounds
  by_cases hstep : 0 < step
  · obtain ⟨hlow, hhigh⟩ := bounds_forwards hstep length
    rw [if_pos hstep, if_pos hstep, if_pos hstep, hlow, hhigh]
  · obtain ⟨hlow, hhigh⟩ := bounds_backwards hstep length
    rw [if_neg hstep, if_neg hstep, if_neg hstep, hlow, hhigh]

/-! ### Counting a progression -/

theorem sliceCount_neg {step : Int} (h : step ≠ 0) (start stop : Int) :
    sliceCount (-start) (-stop) (-step) = sliceCount start stop step := by
  unfold sliceCount
  by_cases hstep : 0 < step
  · have hneg : ¬ 0 < -step := by omega
    have hgap : -start - -stop - 1 = stop - start - 1 := by omega
    simp only [hstep, hneg, if_true, if_false, Int.neg_lt_neg_iff, Int.neg_neg, hgap]
  · have hneg : 0 < -step := by omega
    have hgap : -stop - -start - 1 = start - stop - 1 := by omega
    simp only [hstep, hneg, if_true, if_false, Int.neg_lt_neg_iff, hgap]

theorem sliceCount_of_past {start stop step : Int}
    (h : ¬ ((0 < step ∧ start < stop) ∨ (step < 0 ∧ stop < start))) (hstep : step ≠ 0) :
    sliceCount start stop step = 0 := by
  unfold sliceCount
  split
  · exact if_neg (by omega)
  · exact if_neg (by omega)

/-- One position less is left after a step. -/
theorem sliceCount_forwards {start stop step : Int} (hstep : 0 < step) (h : start < stop) :
    sliceCount start stop step = sliceCount (start + step) stop step + 1 := by
  have hgap : stop - (start + step) - 1 = (stop - start - 1) - step := by omega
  have hnonneg : 0 ≤ (stop - start - 1) / step := Int.ediv_nonneg (by omega) (by omega)
  simp only [sliceCount, hstep, h, if_true, hgap]
  split
  · have hless : (stop - start - 1 - step) / step = (stop - start - 1) / step - 1 := by
      rw [Int.sub_ediv_of_dvd _ (Int.dvd_refl step), Int.ediv_self (by omega)]
    have hmore : 0 ≤ (stop - start - 1 - step) / step := Int.ediv_nonneg (by omega) (by omega)
    omega
  · have hzero : (stop - start - 1) / step = 0 := Int.ediv_eq_zero_of_lt (by omega) (by omega)
    omega

theorem sliceCount_next {start stop step : Int}
    (h : (0 < step ∧ start < stop) ∨ (step < 0 ∧ stop < start)) :
    sliceCount start stop step = sliceCount (start + step) stop step + 1 := by
  rcases h with ⟨hstep, hlt⟩ | ⟨hstep, hlt⟩
  · exact sliceCount_forwards hstep hlt
  · -- Backwards is forwards with every sign turned.
    have hturned : sliceCount (-start) (-stop) (-step) =
        sliceCount (-start + -step) (-stop) (-step) + 1 :=
      sliceCount_forwards (by omega) (by omega)
    have hsum : -start + -step = -(start + step) := by omega
    rw [hsum, sliceCount_neg (by omega), sliceCount_neg (by omega)] at hturned
    exact hturned

theorem progression_eq_map {stop step : Int} (hstep : step ≠ 0) (p : Int) :
    progression stop step p =
      (List.range (sliceCount p stop step)).map fun (k : Nat) => p + k * step := by
  fun_induction progression stop step p with
  | case1 p h ih =>
    have hmap : (fun (k : Nat) => p + step + k * step) = fun (k : Nat) => p + (k + 1 : Nat) * step := by
      funext k
      rw [Int.natCast_add, Int.add_mul]
      omega
    rw [ih, sliceCount_next h, List.range_succ_eq_map, List.map_cons, List.map_map, hmap]
    simp [Function.comp_def]
  | case2 p h =>
    rw [sliceCount_of_past h hstep]
    rfl

/-- A progression that starts before its stop stays between the two. -/
theorem mem_progression {stop step p q : Int} (h : q ∈ progression stop step p) :
    (0 < step ∧ p ≤ q ∧ q < stop) ∨ (step < 0 ∧ stop < q ∧ q ≤ p) := by
  fun_induction progression stop step p with
  | case1 p hnext ih =>
    rcases List.mem_cons.mp h with rfl | hrest
    · omega
    · have := ih hrest
      omega
  | case2 p hpast => simp at h

theorem lowest_le_highest (length : Nat) (step : Int) : lowest step ≤ highest length step := by
  unfold lowest highest
  split <;> omega

/-- Every bound lies between the lowest and the highest, an absent one because it is one of the two. -/
theorem bound_between {length : Nat} {step absent : Int}
    (h : absent = lowest step ∨ absent = highest length step) (bound? : Option Int) :
    lowest step ≤ bound?.elim absent (moved length step) ∧
      bound?.elim absent (moved length step) ≤ highest length step := by
  have hle := lowest_le_highest length step
  cases bound? with
  | none => simp only [Option.elim]; omega
  | some bound => simp only [Option.elim, moved]; omega

/-- A slice reads inside the output only. -/
theorem mem_slicePositions {length : Nat} {start? stop? : Option Int} {step p : Int}
    (h : p ∈ slicePositions length start? stop? step) : 0 ≤ p ∧ p < length := by
  have hstart := bound_between (ite_eq_or_eq (0 < step) (lowest step) (highest length step)) start?
  have hstop := bound_between (ite_eq_or_eq (0 < step) (highest length step) (lowest step)).symm stop?
  have hmem := mem_progression h
  rcases hmem with ⟨hstep, hlow, hhigh⟩ | ⟨hstep, hlow, hhigh⟩
  · obtain ⟨hlowest, hhighest⟩ := bounds_forwards hstep length
    omega
  · have hback : ¬ 0 < step := by omega
    obtain ⟨hlowest, hhighest⟩ := bounds_backwards hback length
    omega

/-! ### A slice is read position by position -/

theorem mapM_get_of_inside {positions : List Int}
    (h : ∀ p ∈ positions, 0 ≤ p ∧ p < o.lines.length) :
    positions.mapM o.get = .ok (positions.filterMap fun p => o.lines[p.toNat]?) := by
  induction positions with
  | nil => rfl
  | cons p rest ih =>
    obtain ⟨hlow, hhigh⟩ := h p (by simp)
    have hget : o.get p = .ok o.lines[p.toNat] := by
      refine get_of_fromEnd ?_ (by omega)
      rw [fromEnd, if_neg (by omega)]
      omega
    have hline : o.lines[p.toNat]? = some o.lines[p.toNat] := List.getElem?_eq_getElem (by omega)
    have hrest := ih fun q hq => h q (by simp [hq])
    simp only [List.mapM_cons, hget, hrest, List.filterMap_cons, hline]
    rfl

/-- A slice is what is read at its positions, one after the other. -/
theorem slice_eq_mapM_get {step? : Option Int} (h : step? ≠ some 0) (start? stop? : Option Int) :
    o.slice start? stop? step? =
      (slicePositions o.lines.length start? stop? (step?.getD 1)).mapM o.get := by
  have hstep : step?.getD 1 ≠ 0 := by
    cases step? with
    | none => simp
    | some step => simpa using h
  rw [mapM_get_of_inside fun p => mem_slicePositions]
  simp only [slice, hstep, if_false, sliceBounds_eq, slicePositions, progression_eq_map hstep,
    List.filterMap_map]
  rfl

/-! ### Slices that make up the whole -/

theorem filterMap_getElem?_range (lines : List String) (start count : Nat) :
    ((List.range count).filterMap fun k => lines[start + k]?) = (lines.drop start).take count := by
  induction count with
  | zero => simp
  | succ count ih =>
    rw [List.range_succ, List.filterMap_append, ih, List.take_add_one, List.getElem?_drop,
      List.filterMap_cons, List.filterMap_nil]
    cases lines[start + count]? <;> rfl

/-- Forwards by one, a slice is what lies between its bounds. -/
theorem slice_forwards {start stop : Nat} {start? stop? : Option Int}
    (h : sliceBounds o.lines.length start? stop? 1 = ((start : Int), (stop : Int))) :
    o.slice start? stop? none = .ok ((o.lines.drop start).take (stop - start)) := by
  have hcount : sliceCount start stop 1 = stop - start := by
    simp only [sliceCount, Int.zero_lt_one, if_true, Int.ediv_one]
    split <;> omega
  have hposition : ∀ k : Nat, ((start : Int) + k * 1).toNat = start + k := by omega
  simp only [slice, Option.getD_none, h, hcount, hposition, filterMap_getElem?_range]
  rfl

/-- What comes before a bound and what comes after it make up the whole. -/
theorem slices_meet (o : CapturedOutput) (k : Int) : ∃ front back,
    o.slice none (some k) none = .ok front ∧ o.slice (some k) none none = .ok back ∧
      front ++ back = o.lines := by
  obtain ⟨m, hm⟩ : ∃ m : Nat, clamp o.lines.length 0 o.lines.length k = m :=
    ⟨_, (Int.toNat_of_nonneg (by unfold clamp; split <;> omega)).symm⟩
  have hfront : o.slice none (some k) none = .ok ((o.lines.drop 0).take (m - 0)) :=
    slice_forwards (by simp [sliceBounds, hm])
  have hback : o.slice (some k) none none =
      .ok ((o.lines.drop m).take (o.lines.length - m)) :=
    slice_forwards (by simp [sliceBounds, hm])
  refine ⟨_, _, hfront, hback, ?_⟩
  have hall : (o.lines.drop m).take (o.lines.length - m) = o.lines.drop m := by
    rw [List.take_of_length_le (by simp)]
  rw [hall, List.drop_zero, Nat.sub_zero, List.take_append_drop]

/-- Backwards by one from end to end is the reverse. -/
theorem slice_backwards (o : CapturedOutput) : o.slice none none (some (-1)) = .ok o.reversed := by
  have hcount : sliceCount (o.lines.length - 1) (-1) (-1) = o.lines.length := by
    have hneg : ¬ (0 : Int) < -1 := by omega
    simp only [sliceCount, hneg, if_false, Int.neg_neg, Int.ediv_one]
    split <;> omega
  have hread : ∀ k ∈ List.range o.lines.length,
      o.lines[((o.lines.length : Int) - 1 + (k : Nat) * -1).toNat]? = o.lines.reverse[0 + k]? := by
    intro k hk
    have hlt : k < o.lines.length := List.mem_range.mp hk
    have hposition : ((o.lines.length : Int) - 1 + k * -1).toNat = o.lines.length - 1 - k := by omega
    rw [hposition, Nat.zero_add, List.getElem?_reverse hlt]
  have hlines := filterMap_getElem?_range o.lines.reverse 0 o.lines.length
  rw [← List.filterMap_congr hread, List.drop_zero, List.take_of_length_le (by simp)] at hlines
  simp only [slice, sliceBounds, Option.getD_some, Option.map_none, Option.getD_none, reversed]
  rw [if_neg (by omega), if_neg (by omega), hcount, hlines]

/-! ## Searching -/

/-- The search that every sequence has: position after position, before the stop if there is one, until
a line is the one searched for or there is none to read. It ends because reading does, at the last
line. -/
def searchFrom (o : CapturedOutput) (line : String) (stop? : Option Int) (p : Nat) :
    Except Fault Nat :=
  if stop?.all fun stop => (p : Int) < stop then
    match h : o.get p with
    | .ok found => if found = line then .ok p else searchFrom o line stop? (p + 1)
    | .error fault => .error (if fault.family = .index then .lineAbsent else fault)
  else .error .lineAbsent
termination_by o.lines.length - p
decreasing_by
  have hinside := get_ok_iff.mp ⟨found, h⟩
  omega

/-- The search between two bounds that are counted from the end when negative. -/
def search (o : CapturedOutput) (line : String) (start : Int) (stop? : Option Int) :
    Except Fault Nat :=
  searchFrom o line (stop?.map (fromEnd o.lines.length)) (max (fromEnd o.lines.length start) 0).toNat

/-- A position between two bounds holds a line. -/
def HeldBetween (o : CapturedOutput) (line : String) (start : Int) (stop? : Option Int) (p : Nat) :
    Prop :=
  fromEnd o.lines.length start ≤ p ∧ (∀ stop ∈ stop?, p < fromEnd o.lines.length stop) ∧
    o.lines[p]? = some line

/-- An answer to a search for positions: the least of them, or that there is none. -/
def Settles (held : Nat → Prop) : Except Fault Nat → Prop
  | .ok p => held p ∧ ∀ q < p, ¬ held q
  | .error fault => fault = .lineAbsent ∧ ∀ p, ¬ held p

namespace Settles

variable {held : Nat → Prop} {a b : Except Fault Nat}

/-- There is one answer only. -/
theorem unique (ha : Settles held a) (hb : Settles held b) : a = b := by
  cases a with
  | error fault =>
    cases b with
    | error other => rw [ha.1, hb.1]
    | ok p => exact absurd hb.1 (ha.2 p)
  | ok p =>
    cases b with
    | error fault => exact absurd ha.1 (hb.2 p)
    | ok q =>
      have hpq : ¬ p < q := fun h => hb.2 p h ha.1
      have hqp : ¬ q < p := fun h => ha.2 q h hb.1
      have heq : p = q := by omega
      rw [heq]

theorem ok_iff (h : Settles held a) {p : Nat} : a = .ok p ↔ held p ∧ ∀ q < p, ¬ held q := by
  constructor
  · rintro rfl
    exact h
  · exact fun hp => h.unique hp

theorem absent_iff (h : Settles held a) : a = .error .lineAbsent ↔ ∀ p, ¬ held p := by
  constructor
  · rintro rfl
    exact h.2
  · exact fun hnone => h.unique ⟨rfl, hnone⟩

end Settles

theorem before_iff {stop? : Option Int} {p : Nat} :
    (stop?.all fun stop => (p : Int) < stop) = true ↔ ∀ stop ∈ stop?, (p : Int) < stop := by
  cases stop? <;> simp

theorem settles_searchFrom (o : CapturedOutput) (line : String) (stop? : Option Int) (p : Nat) :
    Settles (fun q => p ≤ q ∧ (∀ stop ∈ stop?, (q : Int) < stop) ∧ o.lines[q]? = some line)
      (searchFrom o line stop? p) := by
  fun_induction searchFrom o line stop? p with
  | case1 p hbefore hget =>
    refine ⟨⟨Nat.le_refl p, before_iff.mp hbefore, get_ok_iff_getElem?.mp hget⟩, ?_⟩
    rintro q hq ⟨hle, -⟩
    omega
  | case2 p hbefore found hget hfound ih =>
    -- The line at `p` is another one, so nothing is missed by going on.
    have hsame : (fun q => p ≤ q ∧ (∀ stop ∈ stop?, (q : Int) < stop) ∧ o.lines[q]? = some line) =
        fun q => p + 1 ≤ q ∧ (∀ stop ∈ stop?, (q : Int) < stop) ∧ o.lines[q]? = some line := by
      funext q
      refine propext ⟨?_, fun ⟨hle, hrest⟩ => ⟨by omega, hrest⟩⟩
      rintro ⟨hle, hstop, hline⟩
      refine ⟨?_, hstop, hline⟩
      have hne : p ≠ q := by
        rintro rfl
        rw [get_ok_iff_getElem?.mp hget] at hline
        exact hfound (Option.some.inj hline)
      omega
    rw [hsame]
    exact ih
  | case3 p hbefore fault hget =>
    refine ⟨if_pos (family_of_get_error hget), ?_⟩
    rintro q ⟨hle, -, hline⟩
    have hlt : q < o.lines.length := (List.getElem?_eq_some_iff.mp hline).1
    rw [get_nonneg (by omega)] at hget
    cases hget
  | case4 p hpast =>
    refine ⟨rfl, ?_⟩
    rintro q ⟨hle, hstop, -⟩
    refine hpast (before_iff.mpr fun stop hmem => ?_)
    have := hstop stop hmem
    omega

theorem settles_search (o : CapturedOutput) (line : String) (start : Int) (stop? : Option Int) :
    Settles (o.HeldBetween line start stop?) (o.search line start stop?) := by
  have hheld : o.HeldBetween line start stop? = fun q =>
      (max (fromEnd o.lines.length start) 0).toNat ≤ q ∧
        (∀ stop ∈ stop?.map (fromEnd o.lines.length), (q : Int) < stop) ∧
        o.lines[q]? = some line := by
    funext q
    have hstart : (max (fromEnd o.lines.length start) 0).toNat ≤ q ↔
        fromEnd o.lines.length start ≤ q := by omega
    have hstop : (∀ stop ∈ stop?.map (fromEnd o.lines.length), (q : Int) < stop) ↔
        ∀ stop ∈ stop?, q < fromEnd o.lines.length stop := by simp
    rw [HeldBetween, hstart, hstop]
  rw [hheld]
  exact settles_searchFrom o line _ _

theorem settles_idxOf? (lines : List String) (first : Nat) (line : String) :
    Settles (fun q => first ≤ q ∧ lines[q]? = some line)
      (match (lines.drop first).idxOf? line with
        | some k => .ok (first + k)
        | none => .error .lineAbsent) := by
  split
  · rename_i k hk
    obtain ⟨hlt, hline, hbefore⟩ := List.idxOf?_eq_some_iff.mp hk
    rw [List.getElem_drop] at hline
    refine ⟨⟨by omega, List.getElem?_eq_some_iff.mpr ⟨by simp at hlt; omega, hline⟩⟩, ?_⟩
    rintro q hq ⟨hle, hearlier⟩
    obtain ⟨hinside, heq⟩ := List.getElem?_eq_some_iff.mp hearlier
    have hskipped : first + (q - first) = q := by omega
    refine hbefore (q - first) (by omega) ?_
    simp only [List.getElem_drop, hskipped, heq]
  · rename_i hnone
    refine ⟨rfl, ?_⟩
    rintro q ⟨hle, hline⟩
    have hskipped : first + (q - first) = q := by omega
    refine List.idxOf?_eq_none_iff.mp hnone (List.mem_of_getElem? (i := q - first) ?_)
    rw [List.getElem?_drop, hskipped, hline]

theorem settles_index (o : CapturedOutput) (line : String) (start : Int) (stop? : Option Int) :
    Settles (o.HeldBetween line start stop?) (o.index line start stop?) := by
  have hfirst : ∀ q : Nat, ((if start < 0 then max (o.lines.length + start) 0 else start).toNat ≤ q ↔
      fromEnd o.lines.length start ≤ q) := by
    intro q
    unfold fromEnd
    split <;> omega
  unfold index
  cases stop? with
  | none =>
    have hheld : o.HeldBetween line start none = fun q =>
        (if start < 0 then max (o.lines.length + start) 0 else start).toNat ≤ q ∧
          o.lines[q]? = some line := by
      funext q
      simp [HeldBetween, hfirst]
    rw [hheld]
    exact settles_idxOf? o.lines _ line
  | some stop =>
    have hstop : (if stop < 0 then stop + o.lines.length else stop) = fromEnd o.lines.length stop := rfl
    have htaken : ∀ q : Nat, (o.lines.take (fromEnd o.lines.length stop).toNat)[q]? = some line ↔
        q < fromEnd o.lines.length stop ∧ o.lines[q]? = some line := by
      intro q
      rw [List.getElem?_take]
      split <;> simp <;> omega
    have hheld : o.HeldBetween line start (some stop) = fun q =>
        (if start < 0 then max (o.lines.length + start) 0 else start).toNat ≤ q ∧
          (o.lines.take (fromEnd o.lines.length stop).toNat)[q]? = some line := by
      funext q
      simp only [HeldBetween, hfirst, htaken, Option.mem_def, Option.some.injEq, forall_eq']
    rw [hheld]
    exact settles_idxOf? (o.lines.take (fromEnd o.lines.length stop).toNat) _ line

/-- The search comes to the position that `index` finds at once. -/
theorem index_eq_search (o : CapturedOutput) (line : String) (start : Int) (stop? : Option Int) :
    o.index line start stop? = o.search line start stop? :=
  (settles_index o line start stop?).unique (settles_search o line start stop?)

/-! ## Counting -/

theorem count_eq_countP (lines : List String) (line : String) :
    lines.count line = (List.range lines.length).countP fun p => lines[p]? = some line := by
  induction lines with
  | nil => rfl
  | cons head rest ih =>
    rw [List.count_cons, ih, List.length_cons, List.range_succ_eq_map, List.countP_cons,
      List.countP_map]
    simp [Function.comp_def]

theorem contains_iff {line : String} :
    o.lines.contains line = true ↔ ∃ p, o.HeldBetween line 0 none p := by
  have hheld : ∀ p : Nat, o.HeldBetween line 0 none p ↔ o.lines[p]? = some line := by
    intro p
    simp [HeldBetween, fromEnd]
  simp only [hheld, List.contains_iff_mem, List.mem_iff_getElem?]

theorem contains_iff_index {line : String} :
    o.lines.contains line = true ↔ ∃ p, o.index line 0 none = .ok p := by
  have hsettles := settles_index o line 0 none
  rw [contains_iff]
  constructor
  · rintro ⟨p, hheld⟩
    cases hindex : o.index line 0 none with
    | ok q => exact ⟨q, rfl⟩
    | error fault =>
      rw [hindex] at hsettles
      exact absurd hheld (hsettles.2 p)
  · rintro ⟨p, hindex⟩
    exact ⟨p, (hsettles.ok_iff.mp hindex).1⟩

/-! ## Agreement -/

/-- The views of captured output agree, for integers of any sign and size. Reading succeeds from the
first position to the last, counted from either end; a slice is what is read at its positions, all of
them inside, so that two that meet make up the whole and the one backwards is the reverse; a search
ends with the least position that holds the line between its bounds, or says that there is none; and
a line is contained when a search from end to end finds it, which is when it is counted at all, and it
is counted once for each position that holds it. -/
theorem views_agree (o : CapturedOutput) :
    (∀ i, (∃ line, o.get i = .ok line) ↔ -o.lines.length ≤ i ∧ i < o.lines.length) ∧
      (∀ (p : Nat) (h : p < o.lines.length),
        o.get p = .ok o.lines[p] ∧ o.get (p - o.lines.length) = .ok o.lines[p]) ∧
      (∀ start? stop? step?, step? ≠ some 0 →
        (∀ p ∈ slicePositions o.lines.length start? stop? (step?.getD 1),
          0 ≤ p ∧ p < o.lines.length) ∧
        ∃ lines, o.slice start? stop? step? = .ok lines ∧
          (slicePositions o.lines.length start? stop? (step?.getD 1)).mapM o.get = .ok lines) ∧
      (∀ k, ∃ front back, o.slice none (some k) none = .ok front ∧
        o.slice (some k) none none = .ok back ∧ front ++ back = o.lines) ∧
      o.slice none none (some (-1)) = .ok o.reversed ∧
      (∀ line start stop?, o.index line start stop? = o.search line start stop? ∧
        (∀ p, o.index line start stop? = .ok p ↔
          o.HeldBetween line start stop? p ∧ ∀ q < p, ¬ o.HeldBetween line start stop? q) ∧
        (o.index line start stop? = .error .lineAbsent ↔
          ∀ p, ¬ o.HeldBetween line start stop? p)) ∧
      ∀ line, (o.lines.contains line = true ↔ ∃ p, o.index line 0 none = .ok p) ∧
        (o.lines.contains line = true ↔ 0 < o.count line) ∧
        o.count line = (List.range o.lines.length).countP fun p => o.lines[p]? = some line := by
  refine ⟨fun i => get_ok_iff, ?get, ?slice, slices_meet o, slice_backwards o, ?index, ?count⟩
  case get =>
    intro p h
    refine ⟨get_nonneg h, get_of_fromEnd ?_ h⟩
    rw [fromEnd, if_pos (by omega)]
    omega
  case slice =>
    intro start? stop? step? hstep
    have hinside : ∀ p ∈ slicePositions o.lines.length start? stop? (step?.getD 1),
        0 ≤ p ∧ p < o.lines.length := fun p => mem_slicePositions
    have hread := mapM_get_of_inside hinside
    exact ⟨hinside, _, (slice_eq_mapM_get hstep start? stop?).trans hread, hread⟩
  case index =>
    intro line start stop?
    have hsettles := settles_index o line start stop?
    exact ⟨index_eq_search o line start stop?, fun p => hsettles.ok_iff, hsettles.absent_iff⟩
  case count =>
    intro line
    refine ⟨contains_iff_index, ?_, count_eq_countP o.lines line⟩
    rw [List.contains_iff_mem]
    exact List.count_pos_iff.symm

theorem views_agree_repeated :
    let o := final "stdout" ["-- Detecting", "-- Done", "-- Detecting"]
    (∀ p ∈ slicePositions 3 (some 1000000000000000000000) none (-2), 0 ≤ p ∧ p < 3) ∧
      o.slice (some 1000000000000000000000) none (some (-2)) = .ok ["-- Detecting", "-- Detecting"] ∧
      o.get (1 - 3) = .ok "-- Done" ∧
      o.index "-- Detecting" (-2) (some 1000000000000000000000) = .ok 2 ∧
      ∀ q < 2, ¬ o.HeldBetween "-- Detecting" (-2) (some 1000000000000000000000) q := by
  intro o
  obtain ⟨-, hget, hslice, -, -, hindex, -⟩ := views_agree o
  obtain ⟨hinside, -⟩ := hslice (some 1000000000000000000000) none (some (-2)) (by decide)
  have hfound : o.index "-- Detecting" (-2) (some 1000000000000000000000) = .ok 2 := by decide
  exact ⟨hinside, by decide, (hget 1 (by decide)).2, hfound,
    ((hindex "-- Detecting" (-2) (some 1000000000000000000000)).2.1 2).mp hfound |>.2⟩

end NativeBuild.CapturedOutput
