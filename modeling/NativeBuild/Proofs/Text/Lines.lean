import NativeBuild.Proofs.Text.Utf8
import NativeBuild.Supervision.Reader

/-
  The lines of a byte stream. No line holds a line feed or a carriage return, lines written with one
  terminator throughout are read back as they were, and a line feed cuts a stream into two whose
  lines are independent, whatever bytes stand in them (`captured_bytes`).

  A carriage return ends its line only with the next character, so the state after a line is
  described by what it is once settled (`Assembly.settled`): that is the same for all terminators.
-/

namespace NativeBuild.Text

/-- The characters that end lines. -/
def EndsLine (c : Char) : Prop := c = '\n' ∨ c = '\r'

/-- A text without an end of a line in it. -/
def OneLine (s : String) : Prop := ∀ c ∈ s.toList, ¬ EndsLine c

instance : DecidablePred EndsLine := fun c => inferInstanceAs (Decidable (c = '\n' ∨ c = '\r'))

instance : DecidablePred OneLine := fun s => List.decidableBAll (¬ EndsLine ·) s.toList

namespace Assembly

/-- The assembly when no line feed comes: a carriage return read last has ended its line. -/
def settled (a : Assembly) : Assembly := if a.afterReturn then a.close else a

/-- The assembly with lines that were read before all of its own. -/
def after (a : Assembly) (past : List String) : Assembly :=
  { a with finished := a.finished ++ past.reverse }

/-! ## One character -/

theorem afterReturn_settled (a : Assembly) : a.settled.afterReturn = false := by
  unfold settled
  split
  · rfl
  · exact Bool.eq_false_iff.mpr ‹_›

theorem settled_of_no_return {a : Assembly} (h : a.afterReturn = false) : a.settled = a := by
  rw [settled, h, if_neg Bool.false_ne_true]

theorem push_return (a : Assembly) : a.push '\r' = { a.settled with afterReturn := true } := by
  rw [push, if_neg (by decide), if_pos rfl, settled]

theorem push_ordinary (a : Assembly) {c : Char} (hc : ¬ EndsLine c) :
    a.push c = { a.settled with current := c :: a.settled.current } := by
  rw [push, if_neg fun h => hc (.inl h), if_neg fun h => hc (.inr h), settled]

/-- The lines of a settled assembly, when the stream ends. -/
theorem all_eq_settled (a : Assembly) : a.all = a.settled.all := by
  unfold all
  cases hreturn : a.afterReturn with
  | false => rw [settled_of_no_return hreturn, hreturn]
  | true =>
    have hclosed : a.settled = a.close := by rw [settled, hreturn, if_pos rfl]
    rw [hclosed, if_pos (.inl rfl), if_neg (by simp [close])]

/-! ## Earlier lines -/

theorem close_after (a : Assembly) (past : List String) :
    (a.after past).close = a.close.after past := rfl

/-- Lines read earlier do not matter to the next character. -/
theorem push_after (a : Assembly) (past : List String) (c : Char) :
    (a.after past).push c = (a.push c).after past := by
  unfold push
  split
  · exact close_after a past
  · have hsettled : (if (a.after past).afterReturn then (a.after past).close else a.after past) =
        (if a.afterReturn then a.close else a).after past := by
      rw [apply_ite (after · past)]
      rfl
    dsimp only
    rw [hsettled]
    split <;> rfl

theorem foldl_push_after (text : List Char) (a : Assembly) (past : List String) :
    text.foldl push (a.after past) = (text.foldl push a).after past := by
  induction text generalizing a with
  | nil => rfl
  | cons c text ih => rw [List.foldl_cons, push_after, ih, List.foldl_cons]

theorem all_after (a : Assembly) (past : List String) : (a.after past).all = past ++ a.all := by
  have hcomplete : ∀ a : Assembly, (a.after past).complete = past ++ a.complete := fun a => by
    rw [complete, after, List.reverse_append, List.reverse_reverse, complete]
  unfold all
  rw [close_after, hcomplete, hcomplete, ← apply_ite (past ++ ·)]
  rfl

theorem close_eq_after (a : Assembly) : a.close = after {} a.close.complete := by
  rw [after, complete, List.reverse_reverse]
  rfl

/-- Once a line has ended, nothing is left of it and those before it but the lines. -/
theorem all_foldl_push_close (text : List Char) (a : Assembly) :
    (text.foldl push a.close).all = a.close.complete ++ (text.foldl push {}).all := by
  have hlines := all_after (text.foldl push {}) a.close.complete
  rwa [← foldl_push_after, ← close_eq_after] at hlines

/-! ## Ends of lines are no part of them -/

/-- No end of a line is among the characters kept. -/
structure Clean (a : Assembly) : Prop where
  finished : ∀ line ∈ a.finished, OneLine line
  current : ∀ c ∈ a.current, ¬ EndsLine c

theorem Clean.close {a : Assembly} (h : a.Clean) : a.close.Clean where
  finished := by
    refine List.forall_mem_cons.mpr ⟨fun c hc => h.current c ?_, h.finished⟩
    rwa [String.toList_ofList, List.mem_reverse] at hc
  current := fun _ hc => absurd hc List.not_mem_nil

theorem Clean.settled {a : Assembly} (h : a.Clean) : a.settled.Clean := by
  unfold Assembly.settled
  split
  · exact h.close
  · exact h

theorem Clean.push {a : Assembly} (h : a.Clean) (c : Char) : (a.push c).Clean := by
  by_cases hc : EndsLine c
  · obtain rfl | rfl := hc
    · rw [push_lineFeed]
      exact h.close
    · rw [push_return]
      exact ⟨h.settled.finished, h.settled.current⟩
  · rw [push_ordinary a hc]
    exact ⟨h.settled.finished, List.forall_mem_cons.mpr ⟨hc, h.settled.current⟩⟩

theorem Clean.foldl_push {a : Assembly} (h : a.Clean) (text : List Char) :
    (text.foldl Assembly.push a).Clean := by
  induction text generalizing a with
  | nil => exact h
  | cons c text ih => exact ih (h.push c)

theorem Clean.all {a : Assembly} (h : a.Clean) : ∀ line ∈ a.all, OneLine line := by
  intro line hline
  unfold Assembly.all complete at hline
  split at hline
  · exact h.close.finished line (List.mem_reverse.mp hline)
  · exact h.finished line (List.mem_reverse.mp hline)

/-! ## Lines with one terminator -/

/-- Characters within a line go to the current line, which starts with the first of them when a
carriage return has ended the one before. -/
theorem settled_foldl_push (text : List Char) (htext : ∀ c ∈ text, ¬ EndsLine c) (a : Assembly) :
    (text.foldl push a).settled =
      { a.settled with current := text.reverse ++ a.settled.current } := by
  induction text generalizing a with
  | nil => rfl
  | cons c text ih =>
    obtain ⟨hc, htext⟩ := List.forall_mem_cons.mp htext
    have hreturn : (a.push c).afterReturn = false := by
      rw [push_ordinary a hc]
      exact afterReturn_settled a
    rw [List.foldl_cons, ih htext, settled_of_no_return hreturn, push_ordinary a hc,
      List.reverse_cons, List.append_assoc]
    rfl

/-- A line that is not empty leaves no carriage return waiting, and an empty one leaves the
assembly as it is. -/
theorem afterReturn_foldl_push (text : List Char) (htext : ∀ c ∈ text, ¬ EndsLine c)
    (a : Assembly) (h : text ≠ [] ∨ a.afterReturn = false) :
    (text.foldl push a).afterReturn = false := by
  induction text generalizing a with
  | nil => exact h.resolve_left fun hnil => hnil rfl
  | cons c text ih =>
    obtain ⟨hc, htext⟩ := List.forall_mem_cons.mp htext
    refine ih htext _ (.inr ?_)
    rw [push_ordinary a hc]
    exact afterReturn_settled a

end Assembly

/-- The ways to end a line. -/
inductive Terminator where
  | lineFeed
  | carriageReturn
  | both
  deriving Repr, DecidableEq

namespace Terminator

/-- The characters written at the end of each line. -/
def chars : Terminator → String
  | lineFeed => "\n"
  | carriageReturn => "\r"
  | both => "\r\n"

/-- Lines as a text: the terminator after each, then a last line without one, if there is one. -/
def written (t : Terminator) (lines : List String) (last : Option String) : String :=
  String.join (lines.map (· ++ t.chars)) ++ last.getD ""

/-- What an assembly is after these lines, each with the terminator at its end. -/
structure Between (t : Terminator) (lines : List String) (a : Assembly) : Prop where
  settled : a.settled = ⟨lines.reverse, [], false⟩
  /-- Only a carriage return is left waiting. -/
  waiting : a.afterReturn = true → t = carriageReturn

/-- The characters of the next line, when no carriage return waits or it has a character. -/
theorem Between.within {t : Terminator} {lines : List String} {a : Assembly}
    (h : t.Between lines a) {line : String} (hline : OneLine line)
    (hopen : line ≠ "" ∨ t ≠ carriageReturn) :
    line.toList.foldl Assembly.push a = ⟨lines.reverse, line.toList.reverse, false⟩ := by
  have hnone : line.toList ≠ [] ∨ a.afterReturn = false := by
    refine hopen.imp (fun hne hnil => hne (String.toList_eq_nil_iff.mp hnil)) fun ht => ?_
    exact Bool.eq_false_iff.mpr fun hreturn => ht (h.waiting hreturn)
  have hreturn := Assembly.afterReturn_foldl_push line.toList hline a hnone
  rw [← Assembly.settled_of_no_return hreturn, Assembly.settled_foldl_push _ hline, h.settled,
    List.append_nil]

/-- One line more. -/
theorem Between.line {t : Terminator} {lines : List String} {a : Assembly} (h : t.Between lines a)
    {line : String} (hline : OneLine line) :
    t.Between (lines ++ [line]) ((line ++ t.chars).toList.foldl Assembly.push a) := by
  rw [String.toList_append, List.foldl_append]
  have hclosed (waits : Bool) : (⟨lines.reverse, line.toList.reverse, waits⟩ : Assembly).close =
      ⟨(lines ++ [line]).reverse, [], false⟩ := by
    rw [Assembly.close, List.reverse_reverse, String.ofList_toList, List.reverse_append]
    rfl
  cases t with
  | lineFeed =>
    rw [h.within hline (.inr (by decide))]
    change lineFeed.Between _ (Assembly.push _ '\n')
    rw [Assembly.push_lineFeed, hclosed]
    exact ⟨rfl, fun hreturn => absurd hreturn Bool.false_ne_true⟩
  | both =>
    rw [h.within hline (.inr (by decide))]
    change both.Between _ ((Assembly.push _ '\r').push '\n')
    rw [Assembly.push_return, Assembly.push_lineFeed, Assembly.settled_of_no_return rfl, hclosed]
    exact ⟨rfl, fun hreturn => absurd hreturn Bool.false_ne_true⟩
  | carriageReturn =>
    change carriageReturn.Between _ (Assembly.push _ '\r')
    rw [Assembly.push_return, Assembly.settled_foldl_push _ hline, h.settled, List.append_nil]
    exact ⟨hclosed true, fun _ => rfl⟩

/-- The text of lines is read as these lines, from between two lines on. -/
theorem Between.lines {t : Terminator} {before : List String} {a : Assembly}
    (h : t.Between before a) (lines : List String) (hlines : ∀ line ∈ lines, OneLine line) :
    t.Between (before ++ lines)
      ((String.join (lines.map (· ++ t.chars))).toList.foldl Assembly.push a) := by
  induction lines generalizing before a with
  | nil =>
    rw [List.append_nil]
    exact h
  | cons line lines ih =>
    obtain ⟨hline, hlines⟩ := List.forall_mem_cons.mp hlines
    rw [List.map_cons, String.join_cons, String.toList_append, List.foldl_append,
      List.append_cons]
    exact ih (h.line hline) hlines

/-- At the end of the stream, between two lines: there is no line more. -/
theorem Between.all {t : Terminator} {lines : List String} {a : Assembly} (h : t.Between lines a) :
    a.all = lines := by
  rw [Assembly.all_eq_settled, h.settled]
  exact List.reverse_reverse lines

/-- At the end of the stream, within a line: it is the last. -/
theorem Between.all_within {t : Terminator} {lines : List String} {a : Assembly}
    (h : t.Between lines a) {line : String} (hline : OneLine line) (hne : line ≠ "") :
    (line.toList.foldl Assembly.push a).all = lines ++ [line] := by
  have hchars : line.toList.reverse ≠ [] := fun hnil =>
    hne (String.toList_eq_nil_iff.mp (List.reverse_eq_nil_iff.mp hnil))
  rw [h.within hline (.inl hne), Assembly.all, if_pos (.inr hchars), Assembly.complete_close,
    List.reverse_reverse, String.ofList_toList]
  exact congrArg (· ++ [line]) (List.reverse_reverse lines)

/-- Lines are read back as they were written. -/
theorem all_written (t : Terminator) (lines : List String) (last : Option String)
    (hlines : ∀ line ∈ lines ++ last.toList, OneLine line) (hlast : last ≠ some "") :
    ((t.written lines last).toList.foldl Assembly.push {}).all = lines ++ last.toList := by
  obtain ⟨hlines, hlastLine⟩ := List.forall_mem_append.mp hlines
  have hstart : t.Between [] {} := ⟨rfl, fun hreturn => nomatch hreturn⟩
  have hbetween := hstart.lines lines hlines
  rw [written, String.toList_append, List.foldl_append]
  cases last with
  | none =>
    rw [Option.toList_none, List.append_nil]
    exact hbetween.all
  | some line =>
    refine hbetween.all_within (hlastLine line (List.mem_singleton.mpr rfl)) fun hempty => ?_
    exact hlast (congrArg some hempty)

end Terminator

/-! ## Bytes -/

theorem LineReader.finish_feed (bytes : List UInt8) (r : LineReader) :
    (r.feed bytes).finish = ((r.decoder.decodedFrom bytes).foldl Assembly.push r.text).all := by
  induction bytes generalizing r with
  | nil => rfl
  | cons b bytes ih =>
    rw [Utf8.decodedFrom, List.foldl_append]
    exact ih (r.push b)

/-- The lines of a byte stream are those of its characters. -/
theorem linesOf_eq_all (bytes : List UInt8) :
    linesOf bytes = ((Utf8.decodedFrom .start bytes).foldl Assembly.push {}).all :=
  LineReader.finish_feed bytes {}

theorem oneLine_of_mem_linesOf {bytes : List UInt8} {line : String} (h : line ∈ linesOf bytes) :
    OneLine line := by
  rw [linesOf_eq_all] at h
  have hclean : (({} : Assembly)).Clean :=
    ⟨fun _ hline => absurd hline List.not_mem_nil, fun _ hc => absurd hc List.not_mem_nil⟩
  exact (hclean.foldl_push _).all line h

theorem linesOf_utf8_written (t : Terminator) (lines : List String) (last : Option String)
    (hlines : ∀ line ∈ lines ++ last.toList, OneLine line) (hlast : last ≠ some "") :
    linesOf (utf8 (t.written lines last)) = lines ++ last.toList := by
  rw [linesOf_eq_all, Utf8.decodedFrom_utf8]
  exact t.all_written lines last hlines hlast

/-- The lines up to a line feed, then those of what follows it: nothing of the stream before the
line feed is left but its lines. -/
theorem linesOf_lineFeed (before after : List UInt8) :
    linesOf (before ++ 0x0A :: after) =
      ((Utf8.decodedFrom .start before).foldl Assembly.push {}).close.complete ++
        linesOf after := by
  have hstart : Utf8.start.Sound := trivial
  rw [linesOf_eq_all, Utf8.decodedFrom_lineFeed hstart, List.foldl_append, List.foldl_cons,
    Assembly.push_lineFeed, Assembly.all_foldl_push_close, ← linesOf_eq_all]

/-- A line feed cuts a stream into two, each with lines of its own. -/
theorem linesOf_append_lineFeed (before after : List UInt8) :
    linesOf (before ++ [0x0A] ++ after) = linesOf (before ++ [0x0A]) ++ linesOf after := by
  have hend : linesOf [] = [] := rfl
  rw [List.append_assoc, List.singleton_append, linesOf_lineFeed, linesOf_lineFeed before [], hend,
    List.append_nil]

/-- A character that breaks off before a line feed does not reach into the next line. -/
example : linesOf [0xE2, 0x82, 0x0A, 0x41] = ["\\xe2\\x82", "A"] := by decide +kernel

end NativeBuild.Text

namespace NativeBuild

open Text

/-- What the reader of a stream has captured when the stream gave these bytes and then its end. -/
def Stream.captured (name : String) (bytes : List UInt8) : List String :=
  (Stream.drain { bytes := bytes } name).output.lines

/-- The lines captured from a stream that was read to its end. None of them holds an end of a line;
lines written with one terminator throughout, with or without a last line that has none, are the
lines captured; and a line feed cuts the stream into two that are captured independently, whatever
bytes they are made of. -/
theorem Stream.captured_bytes (name : String) :
    (∀ bytes, ∀ line ∈ captured name bytes, OneLine line) ∧
    (∀ (t : Terminator) (lines : List String) (last : Option String),
      (∀ line ∈ lines ++ last.toList, OneLine line) → last ≠ some "" →
      captured name (utf8 (t.written lines last)) = lines ++ last.toList) ∧
    ∀ before after,
      captured name (before ++ [0x0A] ++ after) =
        captured name (before ++ [0x0A]) ++ captured name after := by
  have hcaptured : captured name = linesOf := rfl
  rw [hcaptured]
  exact ⟨fun _ _ hline => oneLine_of_mem_linesOf hline, linesOf_utf8_written,
    linesOf_append_lineFeed⟩

/-- An empty line, a separator that ends no line and a last line without a terminator. -/
theorem Stream.captured_bytes_separators :
    (∀ line ∈ ["a", "", "b\u2028c"] ++ (some "é").toList, OneLine line) ∧ some "é" ≠ some "" ∧
      captured "stdout" (utf8 "a\r\n\r\nb\u2028c\r\né") = ["a", "", "b\u2028c", "é"] := by
  have hlines : ∀ line ∈ ["a", "", "b\u2028c"] ++ (some "é").toList, OneLine line := by decide
  have hlast : some "é" ≠ some "" := by decide
  have htext : Terminator.both.written ["a", "", "b\u2028c"] (some "é") =
      "a\r\n\r\nb\u2028c\r\né" := by decide +kernel
  have hcaptured := (captured_bytes "stdout").2.1 .both _ _ hlines hlast
  rw [htext] at hcaptured
  exact ⟨hlines, hlast, hcaptured⟩

end NativeBuild
