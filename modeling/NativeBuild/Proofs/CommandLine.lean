import NativeBuild.Proofs.Pipeline.Exchange

/-
  Command lines read back. A program takes its command line apart by these rules: blanks and tabs
  outside of quotes stand between tokens; `2k` backslashes before a double quote stand for `k`
  backslashes, and the quote opens or closes a quotation; `2k + 1` of them stand for `k` backslashes
  and the quote for itself; all other backslashes stand for themselves. `Splitting` is a reader by
  these rules, one character at a time, and `foldl_even`, `foldl_odd` and `foldl_literal` are the
  rules for the runs of backslashes.

  What it gives of a command line is the list of tokens that the line was made from
  (`split_encode`), whatever characters they hold, so the line tells one command from another.
-/

namespace NativeBuild

namespace Text.CommandLine

/-- The characters that stand between tokens. -/
def separates (c : Char) : Bool := c == ' ' || c == '\t'

/-- How far a command line was read. -/
structure Splitting where
  /-- The tokens that have ended, oldest first. -/
  ended : List (List Char) := []
  /-- The token that has begun, if any, without the backslashes at its end. -/
  token : Option (List Char) := none
  /-- The backslashes read last. What they stand for is told by what follows them. -/
  slashes : Nat := 0
  /-- Inside a quotation. -/
  quoted : Bool := false
  deriving Repr, DecidableEq

namespace Splitting

/-- Further characters of the token, which begins with them if none has begun. -/
def extend (s : Splitting) (more : List Char) : Splitting :=
  { s with token := some (s.token.getD [] ++ more), slashes := 0 }

/-- Backslashes that no double quote follows stand for themselves. -/
def settle (s : Splitting) : Splitting :=
  if s.slashes = 0 then s else s.extend (List.replicate s.slashes '\\')

/-- The token ends, if one has begun. -/
def endToken (s : Splitting) : Splitting :=
  { s with ended := s.ended ++ s.token.toList, token := none }

/-- One character more. -/
def step (s : Splitting) (c : Char) : Splitting :=
  if c = '\\' then { s with slashes := s.slashes + 1 }
  else if c = '"' then
    let s' := s.extend (List.replicate (s.slashes / 2) '\\')
    if s.slashes % 2 = 0 then { s' with quoted := !s.quoted } else s'.extend ['"']
  else if separates c ∧ s.quoted = false then s.settle.endToken
  else s.settle.extend [c]

/-- The tokens of a line that is at its end. -/
def finish (s : Splitting) : List (List Char) := s.settle.endToken.ended

end Splitting

/-- The tokens of a command line. -/
def split (line : String) : List String :=
  (line.toList.foldl Splitting.step {}).finish.map String.ofList

/-! ## Characters and runs of backslashes -/

namespace Splitting

variable (s : Splitting)

theorem extend_extend (xs ys : List Char) : (s.extend xs).extend ys = s.extend (xs ++ ys) := by
  simp [extend]

theorem settle_of_zero (h : s.slashes = 0) : s.settle = s := if_pos h

theorem quoted_settle : s.settle.quoted = s.quoted := by
  unfold settle
  split <;> rfl

/-- After backslashes that stand for themselves the token goes on. -/
theorem extend_settle (n : Nat) (more : List Char) :
    ({ s with slashes := n } : Splitting).settle.extend more =
      s.extend (List.replicate n '\\' ++ more) := by
  unfold settle
  by_cases hn : n = 0
  · rw [if_pos hn, hn]
    rfl
  · rw [if_neg hn]
    exact extend_extend s (List.replicate n '\\') more

theorem foldl_backslashes (n : Nat) :
    (List.replicate n '\\').foldl step s = { s with slashes := s.slashes + n } := by
  induction n generalizing s with
  | zero => rfl
  | succ n ih =>
    rw [List.replicate_succ, List.foldl_cons, ih, step, if_pos rfl, Nat.add_assoc, Nat.add_comm 1]

/-- `2k` backslashes before a quote: the quote opens or closes a quotation. -/
theorem foldl_even (h : s.slashes = 0) (k : Nat) :
    step ((List.replicate (2 * k) '\\').foldl step s) '"' =
      { s.extend (List.replicate k '\\') with quoted := !s.quoted } := by
  have hhalf : 2 * k / 2 = k := Nat.mul_div_cancel_left k (by decide)
  rw [foldl_backslashes, h, Nat.zero_add, step, if_neg (by decide), if_pos rfl]
  dsimp only
  rw [if_pos (Nat.mul_mod_right 2 k), hhalf]
  rfl

/-- `2k + 1` backslashes before a quote: the quote stands for itself. -/
theorem foldl_odd (h : s.slashes = 0) (k : Nat) :
    step ((List.replicate (2 * k + 1) '\\').foldl step s) '"' =
      s.extend (List.replicate k '\\' ++ ['"']) := by
  have hhalf : (2 * k + 1) / 2 = k := by omega
  rw [foldl_backslashes, h, Nat.zero_add, step, if_neg (by decide), if_pos rfl]
  dsimp only
  rw [if_neg (by omega), hhalf]
  exact extend_extend s (List.replicate k '\\') ['"']

/-- Backslashes before any other character of a token stand for themselves. -/
theorem foldl_literal (h : s.slashes = 0) (n : Nat) {c : Char} (hslash : c ≠ '\\') (hquote : c ≠ '"')
    (hwithin : separates c = true → s.quoted = true) :
    step ((List.replicate n '\\').foldl step s) c = s.extend (List.replicate n '\\' ++ [c]) := by
  have hgoes : ¬ (separates c = true ∧ s.quoted = false) := fun hends => by
    rw [hwithin hends.1] at hends
    exact absurd hends.2 (by decide)
  rw [foldl_backslashes, h, Nat.zero_add, step, if_neg hslash, if_neg hquote, if_neg hgoes]
  exact s.extend_settle n [c]

/-- A blank or a tab outside of a quotation ends a token. -/
theorem step_separator {c : Char} (hc : separates c = true) (h : s.quoted = false) :
    s.step c = s.settle.endToken := by
  have hslash : c ≠ '\\' := fun h => by rw [h] at hc; exact absurd hc (by decide)
  have hquote : c ≠ '"' := fun h => by rw [h] at hc; exact absurd hc (by decide)
  rw [step, if_neg hslash, if_neg hquote, if_pos ⟨hc, h⟩]

/-! ## Tokens -/

/-- What ends a token: the quote that closes its quotation, or whatever comes after a token that
is not quoted. -/
def close (closing : Bool) (s : Splitting) : Splitting := if closing then s.step '"' else s.settle

/-- The characters of a token up to its end. Only a quotation makes a token of no characters. -/
def take (closing : Bool) (s : Splitting) (more : List Char) : Splitting :=
  if closing then { s.extend more with quoted := false } else if more = [] then s else s.extend more

theorem take_extend (closing : Bool) {xs : List Char} (h : xs ≠ []) (ys : List Char) :
    (s.extend xs).take closing ys = s.take closing (xs ++ ys) := by
  cases closing with
  | true => exact congrArg (fun s' => { s' with quoted := false }) (extend_extend s xs ys)
  | false =>
    have hne : xs ++ ys ≠ [] := fun hnil => h (List.append_eq_nil_iff.1 hnil).1
    show (if ys = [] then s.extend xs else (s.extend xs).extend ys) =
      if xs ++ ys = [] then s else s.extend (xs ++ ys)
    rw [if_neg hne, extend_extend]
    split
    · next hys => rw [hys, List.append_nil]
    · rfl

/-- The backslashes at the end of a token. -/
theorem close_backslashes (closing : Bool) (n : Nat) (hzero : s.slashes = 0)
    (hquoted : s.quoted = closing) :
    ((encodeFrom closing n []).foldl step s).close closing =
      s.take closing (List.replicate n '\\') := by
  cases closing with
  | true =>
    refine (s.foldl_even hzero n).trans ?_
    rw [hquoted]
    rfl
  | false =>
    show ((List.replicate n '\\').foldl step s).settle =
      if List.replicate n '\\' = [] then s else s.extend (List.replicate n '\\')
    rw [foldl_backslashes, hzero, Nat.zero_add]
    by_cases hn : n = 0
    · rw [hn, if_pos List.replicate_zero, ← hzero]
      exact settle_of_zero s hzero
    · rw [if_neg (mt (List.replicate_eq_nil_iff _).1 hn)]
      exact if_neg hn

/-- A token is read back from its written form, after `n` backslashes that came before it. The
induction is on the text of the token: its backslashes are put off until something follows them. -/
theorem close_encodeFrom (closing : Bool) (rest : List Char)
    (hwithin : ∀ c ∈ rest, separates c = true → closing = true) (n : Nat) (s : Splitting)
    (hzero : s.slashes = 0) (hquoted : s.quoted = closing) :
    ((encodeFrom closing n rest).foldl step s).close closing =
      s.take closing (List.replicate n '\\' ++ rest) := by
  induction rest generalizing n s with
  | nil => rw [List.append_nil, s.close_backslashes closing n hzero hquoted]
  | cons c rest ih =>
    have hrest : ∀ c ∈ rest, separates c = true → closing = true := fun c hc =>
      hwithin c (List.mem_cons_of_mem _ hc)
    rw [encodeFrom]
    split
    · next h =>
      rw [ih hrest (n + 1) s hzero hquoted, h, List.replicate_succ', List.append_assoc]
      rfl
    · next hslash =>
      split
      · next h =>
        -- an odd number of backslashes stands before the quote
        rw [List.foldl_append, List.foldl_cons, s.foldl_odd hzero n,
          ih hrest 0 (s.extend _) rfl hquoted, take_extend s closing (by simp), h, List.append_assoc]
        rfl
      · next hquote =>
        have hc : separates c = true → s.quoted = true := fun h => by
          rw [hquoted, hwithin c List.mem_cons_self h]
        rw [List.foldl_append, List.foldl_cons, s.foldl_literal hzero n hslash hquote hc,
          ih hrest 0 (s.extend _) rfl hquoted, take_extend s closing (by simp), List.append_assoc]
        rfl

/-- Between tokens: everything that was read has ended. -/
def between (done : List (List Char)) : Splitting := { ended := done }

/-- Within a quotation a token may hold anything, and outside of one it holds nothing that
separates. -/
theorem needsQuotes_of_separates {token : List Char} {c : Char} (hc : c ∈ token)
    (h : separates c = true) : needsQuotes token = true := by
  have hcases : c = ' ' ∨ c = '\t' := by simpa [separates] using h
  rcases hcases with rfl | rfl
  · simp [needsQuotes, hc]
  · simp [needsQuotes, hc]

theorem settle_encodeToken (done : List (List Char)) (token : List Char) :
    ((encodeToken token).foldl step (between done)).settle =
      { between done with token := some token } := by
  rw [encodeToken]
  split
  · have hopen : step (between done) '"' =
        { between done with token := some [], quoted := true } := (between done).foldl_even rfl 0
    rw [List.cons_append, List.foldl_cons, List.foldl_append, hopen]
    refine (congrArg settle (close_encodeFrom true token (fun _ _ _ => rfl) 0
      { between done with token := some [], quoted := true } rfl rfl)).trans ?_
    exact settle_of_zero _ rfl
  · next hbare =>
    have hwithin : ∀ c ∈ token, separates c = true → false = true := fun c hc h =>
      absurd (needsQuotes_of_separates hc h) hbare
    have hne : token ≠ [] := fun h => hbare (by rw [h]; rfl)
    refine (close_encodeFrom false token hwithin 0 (between done) rfl rfl).trans ?_
    exact if_neg hne

/-- The tokens of a line are read back one after the other. The induction is on the tokens, and
what is carried along is that the reader stands between two of them. -/
theorem finish_intercalate (tokens : List (List Char)) (done : List (List Char)) :
    (([' '].intercalate (tokens.map encodeToken)).foldl step (between done)).finish =
      done ++ tokens := by
  induction tokens generalizing done with
  | nil => exact (List.append_nil _).trans (List.append_nil _).symm
  | cons token rest ih =>
    cases rest with
    | nil =>
      rw [List.map_singleton, List.intercalate_singleton, finish, settle_encodeToken]
      rfl
    | cons next rest =>
      have hblank : step ((encodeToken token).foldl step (between done)) ' ' =
          between (done ++ [token]) := by
        have hquoted : ((encodeToken token).foldl step (between done)).quoted = false := by
          rw [← quoted_settle, settle_encodeToken]
          rfl
        rw [step_separator _ (by decide) hquoted, settle_encodeToken]
        rfl
      rw [List.map_cons, List.map_cons, List.intercalate_cons_cons, List.foldl_append,
        List.foldl_append, List.foldl_cons, List.foldl_nil, hblank, ← List.map_cons, ih,
        List.append_assoc]
      rfl

end Splitting

/-- A command line gives the tokens back that it was made from. -/
theorem split_encode (tokens : List String) : split (encode tokens) = tokens := by
  have hline : (encode tokens).toList =
      [' '].intercalate ((tokens.map String.toList).map encodeToken) := by
    rw [encode, String.toList_intercalate, List.map_map, List.map_map]
    congr 1
    exact List.map_congr_left fun token _ => String.toList_ofList
  rw [split, hline]
  refine (congrArg (List.map String.ofList)
    (Splitting.finish_intercalate (tokens.map String.toList) [])).trans ?_
  rw [List.nil_append, List.map_map]
  exact (List.map_congr_left fun token _ => String.ofList_toList).trans (List.map_id _)

/-- Blanks within tokens, an empty token, backslashes at the end of a quotation. -/
example : encode ["a b\\", "", "c"] = "\"a b\\\\\" \"\" c" := by decide

end Text.CommandLine

theorem CommandSpec.commandLine_eq_iff (a b : CommandSpec) :
    a.commandLine = b.commandLine ↔ a.arguments = b.arguments := by
  constructor
  · intro h
    calc
      a.arguments = Text.CommandLine.split a.commandLine := (Text.CommandLine.split_encode _).symm
      _ = Text.CommandLine.split b.commandLine := by rw [h]
      _ = b.arguments := Text.CommandLine.split_encode _
  · exact congrArg Text.CommandLine.encode

namespace Pipeline

/-- The first record in front of a call holds the command line, and beyond that only what the
step and the number of passes tell. -/
theorem head?_heading_eq_iff (passes : Nat) (step : Step) (a b : CommandSpec) :
    (heading passes step a).head? = (heading passes step b).head? ↔
      a.commandLine = b.commandLine := by
  cases step <;>
    simp only [heading, List.head?_cons, Option.some.injEq, progress, Record.mk.injEq, true_and,
      String.append_left_inj, String.append_right_inj]

/-- A command line determines the command. Split by the rules for command lines, the line made
from any list of tokens gives the tokens back, so two commands are shown by the same text, be it
on its own or in the record in front of a call, only if they have the same arguments. -/
theorem commandLine_determines :
    (∀ tokens : List String, Text.CommandLine.split (Text.CommandLine.encode tokens) = tokens) ∧
    ∀ a b : CommandSpec,
      (a.commandLine = b.commandLine ↔ a.arguments = b.arguments) ∧
      ∀ passes step, (heading passes step a).head? = (heading passes step b).head? ↔
        a.arguments = b.arguments := by
  refine ⟨Text.CommandLine.split_encode, fun a b => ⟨a.commandLine_eq_iff b, fun passes step => ?_⟩⟩
  exact (head?_heading_eq_iff passes step a b).trans (a.commandLine_eq_iff b)

end Pipeline

end NativeBuild
