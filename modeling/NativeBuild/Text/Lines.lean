import NativeBuild.Text.Utf8

/-
  Lines of a byte stream. A line ends at a line feed, at a carriage return, or at the two in that
  order; its end is not part of it. A carriage return ends its line only when the next character
  is known, so that a line feed after it is not a second end. Text after the last end is a line of
  its own once the stream is at its end, and no line at all when the stream breaks off.
-/

namespace NativeBuild.Text

/-- A stream of characters taken apart into lines, so far. Lines and characters stand newest
first. -/
structure Assembly where
  /-- Lines whose end was read. -/
  finished : List String := []
  /-- The characters after the last end. -/
  current : List Char := []
  /-- The last character was a carriage return: the current line has ended unless a line feed
  comes to end it. -/
  afterReturn : Bool := false
  deriving Repr, DecidableEq

namespace Assembly

/-- The current line ends. -/
def close (a : Assembly) : Assembly :=
  ⟨String.ofList a.current.reverse :: a.finished, [], false⟩

/-- One character more. -/
def push (a : Assembly) (c : Char) : Assembly :=
  if c = '\n' then a.close
  else
    let a := if a.afterReturn then a.close else a
    if c = '\r' then { a with afterReturn := true } else { a with current := c :: a.current }

/-- The lines complete so far, oldest first. -/
def complete (a : Assembly) : List String := a.finished.reverse

/-- The lines of a stream that is at its end. -/
def all (a : Assembly) : List String :=
  if a.afterReturn ∨ a.current ≠ [] then a.close.complete else a.complete

theorem complete_close (a : Assembly) :
    a.close.complete = a.complete ++ [String.ofList a.current.reverse] := by
  simp [close, complete]

theorem push_lineFeed (a : Assembly) : a.push '\n' = a.close := by simp [push]

/-- A character only adds lines. -/
theorem finished_push (a : Assembly) (c : Char) :
    ∃ more, (a.push c).finished = more ++ a.finished := by
  unfold push
  split
  · exact ⟨[_], rfl⟩
  · cases h : a.afterReturn
    · refine ⟨[], ?_⟩
      dsimp only
      split <;> simp
    · refine ⟨[String.ofList a.current.reverse], ?_⟩
      dsimp only
      split <;> simp [close]

end Assembly

/-- A byte stream taken apart into lines, so far. -/
structure LineReader where
  decoder : Utf8 := .start
  text : Assembly := {}
  deriving Repr, DecidableEq

namespace LineReader

/-- One byte more: the characters it completes go to the text. -/
def push (r : LineReader) (b : UInt8) : LineReader :=
  let (next, out) := r.decoder.step b
  ⟨next, out.foldl Assembly.push r.text⟩

/-- A run of bytes more. -/
def feed (r : LineReader) (bytes : List UInt8) : LineReader := bytes.foldl push r

/-- The end of the stream: what the decoder still holds is malformed text. -/
def finish (r : LineReader) : List String := (r.decoder.flush.foldl Assembly.push r.text).all

theorem feed_append (r : LineReader) (xs ys : List UInt8) :
    r.feed (xs ++ ys) = (r.feed xs).feed ys := by
  simp [feed]

end LineReader

/-- The lines of a stream that was read to its end. -/
def linesOf (bytes : List UInt8) : List String := (LineReader.feed {} bytes).finish

/-- The lines complete when a stream breaks off after `bytes`. -/
def linesBefore (bytes : List UInt8) : List String := (LineReader.feed {} bytes).text.complete

end NativeBuild.Text
