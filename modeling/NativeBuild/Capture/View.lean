import NativeBuild.Capture.Basic
import NativeBuild.Fault

/-
  Reading captured output as a sequence of lines: by position, by slice and by content. Positions
  are integers of any size; a negative one counts from the end. None of this changes the output.
-/

namespace NativeBuild.CapturedOutput

/-- Two to the 63rd: the positions of a machine word lie between its negative and it. -/
def wordLimit : Int := 9223372036854775808

/-- The positions that a machine word can hold. -/
def fitsWord (i : Int) : Bool := -wordLimit ≤ i && i < wordLimit

/-- The line at a position. A position outside is refused, one beyond a machine word with a text of
its own. -/
def get (o : CapturedOutput) (i : Int) : Except Fault String :=
  let p := if i < 0 then i + o.lines.length else i
  match if p < 0 then none else o.lines[p.toNat]? with
  | some line => .ok line
  | none => .error (if fitsWord i then .indexOutOfRange else .indexTooWide)

/-- A bound of a slice, counted from the end when negative and brought into `[low, high]`. -/
def clamp (length : Nat) (low high : Int) (bound : Int) : Int :=
  if bound < 0 then max (bound + length) low else min bound high

/-- Where a slice starts and ends for the given sign of its step; an absent bound is the end of
the output on that side. -/
def sliceBounds (length : Nat) (start? stop? : Option Int) (step : Int) : Int × Int :=
  if 0 < step then
    ((start?.map (clamp length 0 length)).getD 0, (stop?.map (clamp length 0 length)).getD length)
  else
    ((start?.map (clamp length (-1) (length - 1))).getD (length - 1),
      (stop?.map (clamp length (-1) (length - 1))).getD (-1))

/-- How many positions lie from `start` on, by `step`, before `stop`. -/
def sliceCount (start stop step : Int) : Nat :=
  if 0 < step then if start < stop then ((stop - start - 1) / step + 1).toNat else 0
  else if stop < start then ((start - stop - 1) / (-step) + 1).toNat else 0

/-- The lines from one bound to another by a step. -/
def slice (o : CapturedOutput) (start? stop? step? : Option Int) : Except Fault (List String) :=
  let step := step?.getD 1
  if step = 0 then .error .zeroStep
  else
    let (start, stop) := sliceBounds o.lines.length start? stop? step
    .ok ((List.range (sliceCount start stop step)).filterMap fun (k : Nat) =>
      o.lines[(start + (k : Int) * step).toNat]?)

/-- The first position of a line from `start` on and before `stop`. -/
def index (o : CapturedOutput) (line : String) (start : Int) (stop? : Option Int) :
    Except Fault Nat :=
  let length : Int := o.lines.length
  let first := (if start < 0 then max (length + start) 0 else start).toNat
  let searched := match stop? with
    | none => o.lines
    | some stop => o.lines.take (if stop < 0 then stop + length else stop).toNat
  match (searched.drop first).idxOf? line with
  | some k => .ok (first + k)
  | none => .error .lineAbsent

/-- How often a line was written. -/
def count (o : CapturedOutput) (line : String) : Nat := o.lines.count line

/-- The lines from the last to the first. -/
def reversed (o : CapturedOutput) : List String := o.lines.reverse

/-- A summary: the quoted name, the number of lines and whether they are final. -/
def describe (o : CapturedOutput) : String :=
  "CapturedOutput(" ++ Text.quoted o.name ++ ", lines=" ++ toString o.lines.length ++ ", " ++
    (if o.isSealed then "sealed" else "open") ++ ")"

theorem get_nonneg {o : CapturedOutput} {i : Nat} (h : i < o.lines.length) :
    o.get i = .ok o.lines[i] := by
  have : ¬ ((i : Int) < 0) := by omega
  simp [get, this, h]

end NativeBuild.CapturedOutput
