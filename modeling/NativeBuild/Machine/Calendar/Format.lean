import NativeBuild.Machine.Calendar.Zone

/-
  Dates as texts. A format is a text in which letters behind a percent sign stand for the parts of
  a date; flags and a width between them change how a part is filled up.
-/

namespace NativeBuild.Machine.Calendar

/-- A time in a zone, with all that formats show of it. -/
structure Shown where
  /-- Nanoseconds from the start of 1970. -/
  instant : Int
  zone : ZoneTime
  deriving Repr, DecidableEq

namespace Shown

/-- Seconds from the start of 1970. -/
def seconds (s : Shown) : Int := s.instant.fdiv 1000000000

/-- The nanoseconds of the second. -/
def nanoseconds (s : Shown) : Nat := (s.instant.fmod 1000000000).toNat

/-- What clocks in the zone show. -/
def moment (s : Shown) : Moment := momentOf (s.seconds + s.zone.ahead)

/-- The number of the day in the zone. -/
def day (s : Shown) : Int := (s.seconds + s.zone.ahead).fdiv daySeconds

end Shown

/-- How a time is shown in a zone. -/
def Zone.shown (z : Zone) (instant : Int) : Shown :=
  ⟨instant, z.timeAt (instant.fdiv 1000000000)⟩

/-- The flags and the width of a part. -/
structure Filling where
  /-- What fills it up: `_` for blanks, `0` for zeros, `-` for nothing. -/
  fill : Option Char := none
  width : Option Nat := none
  upper : Bool := false
  swapped : Bool := false
  plus : Bool := false

namespace Filling

/-- A number in a field of so many digits. -/
def number (f : Filling) (digits : Nat) (usual : Char) (n : Int) : List Char :=
  let cs := decimal n.natAbs
  let sign := if n < 0 then ['-'] else if f.plus ∧ f.width.any (digits < ·) then ['+'] else []
  let missing := f.width.getD digits - sign.length - cs.length
  match f.fill.getD usual with
  | '-' => sign ++ cs
  | '_' => List.replicate missing ' ' ++ sign ++ cs
  | _ => sign ++ List.replicate missing '0' ++ cs

/-- A text in its field. -/
def text (f : Filling) (cs : List Char) : List Char :=
  let cs := if f.upper then cs.map Char.toUpper else cs
  if f.fill = some '-' then cs
  else padLeft (if f.fill = some '0' then '0' else ' ') (f.width.getD 0) cs

/-- A text that is put into the other case when that is asked for. -/
def swapping (f : Filling) (lower : Bool) (cs : List Char) : List Char :=
  f.text (if f.swapped then cs.map (if lower then Char.toLower else Char.toUpper) else cs)

end Filling

/-- How far a zone is ahead; colons choose how it is written. -/
def aheadText (f : Filling) (colons : Nat) (ahead : Int) : List Char :=
  let n := ahead.natAbs
  let (h, m, s) := (n / 3600, n / 60 % 60, n % 60)
  let two := fun (k : Nat) => padLeft '0' 2 (decimal k)
  let after := match colons with
    | 0 => two m
    | 1 => [':'] ++ two m
    | 2 => [':'] ++ two m ++ [':'] ++ two s
    | _ => if s ≠ 0 then [':'] ++ two m ++ [':'] ++ two s else if m ≠ 0 then [':'] ++ two m else []
  let hours := match f.fill with
    | some '-' => decimal h
    | _ => two h
  let sign := [if ahead < 0 then '-' else '+']
  let missing := f.width.getD 0 - (1 + hours.length + after.length)
  match f.fill with
  | some '_' => List.replicate missing ' ' ++ sign ++ hours ++ after
  | _ => sign ++ List.replicate missing '0' ++ hours ++ after

/-- The nanoseconds of a second, to so many places. -/
def nanosecondText (f : Filling) (n : Nat) : List Char :=
  let places := match f.width with
    | some 0 | none => 9
    | some k => k
  let digits := padLeft '0' 9 (decimal n)
  let kept := (digits.take places).reverse.dropWhile (· == '0') |>.reverse
  let kept := if kept = [] then ['0'] else kept
  match f.fill with
  | some '-' => kept
  | some '_' => padRight places kept
  | _ => kept ++ List.replicate (places - kept.length) '0'

/-- The formats that letters stand for. -/
def composed : Char → Option String
  | 'c' => some "%a %b %e %H:%M:%S %Y"
  | 'D' | 'x' => some "%m/%d/%y"
  | 'F' => some "%Y-%m-%d"
  | 'r' => some "%I:%M:%S %p"
  | 'R' => some "%H:%M"
  | 'T' | 'X' => some "%H:%M:%S"
  | _ => none

/-- What a letter stands for, if it is a part of a date. -/
def part (s : Shown) (f : Filling) (colons : Nat) (letter : Char) : Option (List Char) :=
  let m := s.moment
  let day := s.day
  let twelve := if m.hour % 12 = 0 then 12 else m.hour % 12
  let name := fun (names : List String) (k : Nat) => (names.getD k "").toList
  let (weekYear, week) := thursdayWeek day
  if colons ≠ 0 ∧ letter ≠ 'z' then none
  else match letter with
  | 'a' => some (f.swapping false ((name dayNames (weekday day)).take 3))
  | 'A' => some (f.swapping false (name dayNames (weekday day)))
  | 'b' | 'h' => some (f.swapping false ((name monthNames (m.date.month - 1)).take 3))
  | 'B' => some (f.swapping false (name monthNames (m.date.month - 1)))
  | 'C' => some (f.number 2 '0' (m.date.year.fdiv 100))
  | 'd' => some (f.number 2 '0' m.date.day)
  | 'e' => some (f.number 2 '_' m.date.day)
  | 'g' => some (f.number 2 '0' (weekYear.fmod 100))
  | 'G' => some (f.number 4 '0' weekYear)
  | 'H' => some (f.number 2 '0' m.hour)
  | 'I' => some (f.number 2 '0' twelve)
  | 'j' => some (f.number 3 '0' (yearDay day + 1 : Nat))
  | 'k' => some (f.number 2 '_' m.hour)
  | 'l' => some (f.number 2 '_' twelve)
  | 'm' => some (f.number 2 '0' m.date.month)
  | 'M' => some (f.number 2 '0' m.minute)
  | 'n' => some ['\n']
  | 'N' => some (nanosecondText f s.nanoseconds)
  | 'p' => some (f.swapping true (if m.hour < 12 then "AM" else "PM").toList)
  | 'P' => some (f.text (if m.hour < 12 then "am" else "pm").toList)
  | 'q' => some (f.number 1 '0' ((m.date.month - 1) / 3 + 1 : Nat))
  | 's' => some (f.number 1 '0' s.seconds)
  | 'S' => some (f.number 2 '0' m.second)
  | 't' => some ['\t']
  | 'u' => some (f.number 1 '0' ((weekday day + 6) % 7 + 1 : Nat))
  | 'U' => some (f.number 2 '0' (weekFrom 0 day))
  | 'V' => some (f.number 2 '0' week)
  | 'w' => some (f.number 1 '0' (weekday day))
  | 'W' => some (f.number 2 '0' (weekFrom 1 day))
  | 'y' => some (f.number 2 '0' (m.date.year.fmod 100))
  | 'Y' => some (f.number 4 '0' m.date.year)
  | 'z' => some (aheadText f colons s.zone.ahead)
  | 'Z' => some (f.swapping true s.zone.name.toList)
  | '%' => some (f.text ['%'])
  | _ => none

/-- The flags, the width and the colons in front of a letter, and what follows them. -/
def readFilling (cs : List Char) : Filling × Nat × List Char :=
  let flags := cs.takeWhile "_-0^#+".toList.contains
  let rest := cs.drop flags.length
  let digits := rest.takeWhile Char.isDigit
  let rest := rest.drop digits.length
  let rest := match rest with
    | 'E' :: more | 'O' :: more => more
    | more => more
  let colons := (rest.takeWhile (· == ':')).length
  let fill := flags.reverse.find? fun c => c == '_' || c == '-' || c == '0' || c == '+'
  ({ fill := if fill = some '+' then some '0' else fill
     width := natural? digits
     upper := flags.contains '^'
     swapped := flags.contains '#'
     plus := fill = some '+' }, colons, rest.drop colons)

/-- A date by a format. Letters may stand for formats, so many times within each other. -/
def formatWithin (s : Shown) : Nat → List Char → List Char
  | 0, _ => []
  | _, [] => []
  | fuel + 1, '%' :: rest =>
    let (f, colons, after) := readFilling rest
    match after with
    | [] => '%' :: rest
    | letter :: more =>
      let shown := match composed letter with
        | some inner =>
          let text := formatWithin s fuel inner.toList
          some (f.text text)
        | none => part s f colons letter
      match shown with
      | some text => text ++ formatWithin s fuel more
      | none => ('%' :: rest).take (rest.length + 1 - more.length) ++ formatWithin s fuel more
  | fuel + 1, c :: rest => c :: formatWithin s fuel rest

/-- A date by a format. -/
def Shown.format (s : Shown) (text : String) : String :=
  String.ofList (formatWithin s (text.length + 40) text.toList)

/-- The format of a date that is asked for without one. -/
def usualFormat : String := "%a %b %e %H:%M:%S %Z %Y"

end NativeBuild.Machine.Calendar
