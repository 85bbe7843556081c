import Mathlib.Tactic.SplitIfs
import NativeBuild.Text.Utf8

/-
  The lenient decoder as a function on whole texts. A line feed is never part of a longer
  character, so the decoder comes to it, wherever it stands, as it would come to the end of the
  bytes, and starts afresh after it (`decodedFrom_lineFeed`). The encoding of a text is decoded to
  the text (`decodedFrom_utf8`), one character at a time.
-/

namespace NativeBuild.Text

/-- A text as bytes. -/
def utf8 (s : String) : List UInt8 := s.toUTF8.data.toList

namespace Utf8

/-- The characters that the bytes and their end complete, from where the decoder stands. -/
def decodedFrom : Utf8 → List UInt8 → List Char
  | d, [] => d.flush
  | d, b :: rest => (d.step b).2 ++ decodedFrom (d.step b).1 rest

/-- The states that a decoder comes to: a byte that goes on with a character is not ASCII. -/
def Sound : Utf8 → Prop
  | start => True
  | within _ low _ _ _ => 0x80 ≤ low
  | surrogate _ => True

/-! ## The states -/

theorem sound_first (b : UInt8) : (first b).1.Sound := by
  unfold first
  repeat' split
  all_goals simp [Sound]

theorem Sound.step {d : Utf8} (hd : d.Sound) (b : UInt8) : (d.step b).1.Sound := by
  cases d with
  | start => exact sound_first b
  | surrogate second => exact sound_first b
  | within owed low high code seen =>
    by_cases hin : low ≤ b ∧ b ≤ high
    · rw [Utf8.step, if_pos hin]
      dsimp only
      split
      · trivial
      · exact UInt8.le_refl 0x80
    · rw [Utf8.step, if_neg hin]
      split
      · trivial
      · exact sound_first b

/-- An ASCII byte ends what the decoder holds as the end of the bytes would. -/
theorem step_of_ascii {d : Utf8} (hd : d.Sound) {b : UInt8} (hb : b < 0x80) :
    d.step b = (start, d.flush ++ [Char.ofNat b.toNat]) := by
  cases d with
  | start => exact first_ascii hb
  | surrogate second => rw [step, first_ascii hb, flush]
  | within owed low high code seen =>
    have hout : ¬ (low ≤ b ∧ b ≤ high) := fun hin =>
      UInt8.not_lt.mpr (UInt8.le_trans hd hin.1) hb
    have hsurrogate : ¬ (seen = [0xED] ∧ 0xA0 ≤ b ∧ b ≤ 0xBF) := fun hin =>
      UInt8.not_lt.mpr (UInt8.le_trans (by decide) hin.2.1) hb
    rw [step, if_neg hout, if_neg hsurrogate, first_ascii hb, flush]

/-- What stands before a line feed is decoded as a text of its own, whatever is broken in it, and so
is what stands after it. -/
theorem decodedFrom_lineFeed {d : Utf8} (hd : d.Sound) (before after : List UInt8) :
    decodedFrom d (before ++ 0x0A :: after) =
      decodedFrom d before ++ '\n' :: decodedFrom start after := by
  induction before generalizing d with
  | nil =>
    have hstep : d.step 0x0A = (start, d.flush ++ ['\n']) := step_of_ascii hd (by decide)
    rw [List.nil_append, decodedFrom, decodedFrom, hstep]
    exact List.append_assoc _ _ _
  | cons b before ih =>
    rw [List.cons_append, decodedFrom, ih (hd.step b), decodedFrom, List.append_assoc]

/-! ## Encoded texts -/

/-- A byte that goes on with a character and completes it. -/
theorem decodedFrom_last {b low high : UInt8} (hb : low ≤ b ∧ b ≤ high) (code : Nat)
    (seen rest : List UInt8) :
    decodedFrom (within 1 low high code seen) (b :: rest) =
      Char.ofNat (code * 64 + (b.toNat - 0x80)) :: decodedFrom start rest := by
  rw [decodedFrom, step, if_pos hb]
  rfl

/-- A byte that goes on with a character and leaves it incomplete. -/
theorem decodedFrom_more {b low high : UInt8} (hb : low ≤ b ∧ b ≤ high) (owed code : Nat)
    (seen rest : List UInt8) :
    decodedFrom (within (owed + 2) low high code seen) (b :: rest) =
      decodedFrom (within (owed + 1) 0x80 0xBF (code * 64 + (b.toNat - 0x80)) (seen ++ [b]))
        rest := by
  rw [decodedFrom, step, if_pos hb]
  rfl

/-- The first byte of a character of two bytes. -/
theorem first_of_two : ∀ n < 32, 2 ≤ n →
    first (UInt8.ofNat (n + 192)) = (within 1 0x80 0xBF n [UInt8.ofNat (n + 192)], []) := by
  decide

/-- The first byte of a character of three bytes. The second is bounded where a shorter encoding
or a surrogate would begin. -/
theorem first_of_three : ∀ n < 16,
    first (UInt8.ofNat (n + 224)) =
      (within 2 (if n = 0 then 0xA0 else 0x80) (if n = 13 then 0x9F else 0xBF) n
        [UInt8.ofNat (n + 224)], []) := by
  decide

/-- The first byte of a character of four bytes. The second is bounded where a shorter encoding
or a number above the last code point would begin. -/
theorem first_of_four : ∀ n < 5,
    first (UInt8.ofNat (n + 240)) =
      (within 3 (if n = 0 then 0x90 else 0x80) (if n = 4 then 0x8F else 0xBF) n
        [UInt8.ofNat (n + 240)], []) := by
  decide

theorem toNat_tail {n : Nat} (hn : n < 64) : (UInt8.ofNat (n + 128)).toNat = n + 128 := by
  rw [UInt8.toNat_ofNat']
  omega

/-- Any six bits stand in a byte that may go on with a character. -/
theorem tail_bounds {n : Nat} (hn : n < 64) :
    (0x80 : UInt8) ≤ UInt8.ofNat (n + 128) ∧ UInt8.ofNat (n + 128) ≤ 0xBF := by
  rw [UInt8.le_iff_toNat_le, UInt8.le_iff_toNat_le, toNat_tail hn]
  exact ⟨Nat.le_add_left 128 n, by change n + 128 ≤ 191; omega⟩

/-- The first of the bytes that go on with a character may be bounded more narrowly. -/
theorem narrowed_bounds {n : Nat} (hn : n < 64) (low high : UInt8) (bottom top : Prop)
    [Decidable bottom] [Decidable top] (hlow : bottom → low.toNat ≤ n + 128)
    (hhigh : top → n + 128 ≤ high.toNat) :
    (if bottom then low else 0x80) ≤ UInt8.ofNat (n + 128) ∧
      UInt8.ofNat (n + 128) ≤ (if top then high else 0xBF) := by
  refine ⟨?_, ?_⟩
  · split
    · rw [UInt8.le_iff_toNat_le, toNat_tail hn]
      exact hlow ‹_›
    · exact (tail_bounds hn).1
  · split
    · rw [UInt8.le_iff_toNat_le, toNat_tail hn]
      exact hhigh ‹_›
    · exact (tail_bounds hn).2

/-- A character of two bytes, given by its two groups of bits. -/
theorem decodedFrom_two {a b : Nat} (ha : 2 ≤ a) (ha' : a < 32) (hb : b < 64)
    (rest : List UInt8) :
    decodedFrom start (UInt8.ofNat (a + 192) :: UInt8.ofNat (b + 128) :: rest) =
      Char.ofNat (a * 64 + b) :: decodedFrom start rest := by
  rw [decodedFrom, step, first_of_two a ha' ha, List.nil_append, decodedFrom_last (tail_bounds hb),
    toNat_tail hb, Nat.add_sub_cancel]

/-- A character of three bytes, given by its three groups of bits. -/
theorem decodedFrom_three {a b c : Nat} (ha : a < 16) (hb : b < 64) (hc : c < 64)
    (hlong : a = 0 → 32 ≤ b) (hsurrogate : a = 13 → b < 32) (rest : List UInt8) :
    decodedFrom start
        (UInt8.ofNat (a + 224) :: UInt8.ofNat (b + 128) :: UInt8.ofNat (c + 128) :: rest) =
      Char.ofNat ((a * 64 + b) * 64 + c) :: decodedFrom start rest := by
  have hsecond := narrowed_bounds hb 0xA0 0x9F (a = 0) (a = 13)
    (fun h => Nat.add_le_add_right (hlong h) 128)
    (fun h => Nat.add_le_add_right (Nat.le_of_lt_succ (hsurrogate h)) 128)
  rw [decodedFrom, step, first_of_three a ha, List.nil_append, decodedFrom_more hsecond,
    decodedFrom_last (tail_bounds hc), toNat_tail hb, toNat_tail hc, Nat.add_sub_cancel,
    Nat.add_sub_cancel]

/-- A character of four bytes, given by its four groups of bits. -/
theorem decodedFrom_four {a b c d : Nat} (ha : a < 5) (hb : b < 64) (hc : c < 64) (hd : d < 64)
    (hlong : a = 0 → 16 ≤ b) (hlast : a = 4 → b < 16) (rest : List UInt8) :
    decodedFrom start (UInt8.ofNat (a + 240) :: UInt8.ofNat (b + 128) :: UInt8.ofNat (c + 128) ::
        UInt8.ofNat (d + 128) :: rest) =
      Char.ofNat (((a * 64 + b) * 64 + c) * 64 + d) :: decodedFrom start rest := by
  have hsecond := narrowed_bounds hb 0x90 0x8F (a = 0) (a = 4)
    (fun h => Nat.add_le_add_right (hlong h) 128)
    (fun h => Nat.add_le_add_right (Nat.le_of_lt_succ (hlast h)) 128)
  rw [decodedFrom, step, first_of_four a ha, List.nil_append, decodedFrom_more hsecond,
    decodedFrom_more (tail_bounds hc), decodedFrom_last (tail_bounds hd), toNat_tail hb,
    toNat_tail hc, toNat_tail hd, Nat.add_sub_cancel, Nat.add_sub_cancel, Nat.add_sub_cancel]

/-- An encoded character is decoded to itself, and the decoder stands between characters again. -/
theorem decodedFrom_utf8EncodeChar (c : Char) (rest : List UInt8) :
    decodedFrom start (String.utf8EncodeChar c ++ rest) = c :: decodedFrom start rest := by
  have hvalid : c.val.toNat < 0xD800 ∨ 0xDFFF < c.val.toNat ∧ c.val.toNat < 0x110000 := c.valid
  have hc : Char.ofNat c.val.toNat = c := Char.ofNat_toNat c
  rw [String.utf8EncodeChar]
  generalize c.val.toNat = v at hvalid hc
  subst hc
  split_ifs with hone htwo hthree
  · have hnat : (UInt8.ofNat v).toNat = v := by
      rw [UInt8.toNat_ofNat']
      omega
    have hb : UInt8.ofNat v < 0x80 := by
      rw [UInt8.lt_iff_toNat_lt, hnat]
      exact Nat.lt_succ_of_le hone
    rw [List.singleton_append, decodedFrom, step, first_ascii hb, hnat, List.singleton_append]
  · have hcode : v / 64 % 32 * 64 + v % 64 = v := by omega
    have htwo := decodedFrom_two (a := v / 64 % 32) (b := v % 64) (by omega) (by omega) (by omega)
      rest
    rwa [hcode] at htwo
  · have hcode : (v / 4096 % 16 * 64 + v / 64 % 64) * 64 + v % 64 = v := by omega
    have hthree := decodedFrom_three (a := v / 4096 % 16) (b := v / 64 % 64) (c := v % 64)
      (by omega) (by omega) (by omega) (by omega) (by omega) rest
    rwa [hcode] at hthree
  · have hcode :
        ((v / 262144 % 8 * 64 + v / 4096 % 64) * 64 + v / 64 % 64) * 64 + v % 64 = v := by
      omega
    have hfour := decodedFrom_four (a := v / 262144 % 8) (b := v / 4096 % 64) (c := v / 64 % 64)
      (d := v % 64) (by omega) (by omega) (by omega) (by omega) (by omega) (by omega) rest
    rwa [hcode] at hfour

theorem decodedFrom_flatMap (text : List Char) (rest : List UInt8) :
    decodedFrom start (text.flatMap String.utf8EncodeChar ++ rest) =
      text ++ decodedFrom start rest := by
  induction text with
  | nil => rfl
  | cons c text ih =>
    rw [List.flatMap_cons, List.append_assoc, decodedFrom_utf8EncodeChar, ih, List.cons_append]

/-- The encoding of a text is decoded to the text. -/
theorem decodedFrom_utf8 (s : String) : decodedFrom start (utf8 s) = s.toList := by
  have hbytes : utf8 s = s.toList.flatMap String.utf8EncodeChar := by
    rw [utf8, String.toUTF8_eq_toByteArray, ← String.utf8Encode_toList, List.utf8Encode,
      List.data_toByteArray, List.toList_toArray]
  have h := decodedFrom_flatMap s.toList []
  rwa [List.append_nil, ← hbytes, decodedFrom, flush, List.append_nil] at h

/-! ## The decoder of whole texts -/

/-- One byte more for the decoder, which collects its characters newest first. -/
def collect (collected : Utf8 × List Char) (b : UInt8) : Utf8 × List Char :=
  ((step collected.1 b).1, (step collected.1 b).2.reverse ++ collected.2)

theorem decode_eq_foldl (bytes : List UInt8) :
    decode bytes = (bytes.foldl collect (start, [])).2.reverse ++
      (bytes.foldl collect (start, [])).1.flush := rfl

/-- The characters of further bytes come after those that were collected. -/
theorem foldl_collect (bytes : List UInt8) (d : Utf8) (out : List Char) :
    (bytes.foldl collect (d, out)).2.reverse ++ (bytes.foldl collect (d, out)).1.flush =
      out.reverse ++ decodedFrom d bytes := by
  induction bytes generalizing d out with
  | nil => rfl
  | cons b bytes ih =>
    rw [List.foldl_cons, collect, ih, decodedFrom, List.reverse_append, List.reverse_reverse,
      List.append_assoc]

theorem decode_eq_decodedFrom (bytes : List UInt8) : decode bytes = decodedFrom start bytes := by
  rw [decode_eq_foldl, foldl_collect]
  rfl

theorem decode_utf8 (s : String) : decode (utf8 s) = s.toList := by
  rw [decode_eq_decodedFrom, decodedFrom_utf8]

end Utf8

end NativeBuild.Text
