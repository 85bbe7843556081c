import NativeBuild.Machine.Calendar.Basic

/-
  Time zones. A zone is named by a rule: the name of its standard time and how far that is behind
  universal time and, if the clocks change in summer, the name of the summer time and the days on
  which they change. Some places stand for the rules that hold there.
-/

namespace NativeBuild.Machine.Calendar

/-- The day of a year on which clocks change. -/
inductive ChangeDay where
  /-- A day of the week in a week of a month; the fifth week is the last. -/
  | weekdayOf (month week day : Nat)
  /-- A day of the year, from 1 on, where the last of February does not count. -/
  | plain (day : Nat)
  /-- A day of the year, from 0 on. -/
  | counted (day : Nat)
  deriving Repr, DecidableEq

/-- A time of the year at which clocks change. -/
structure ClockChange where
  day : ChangeDay
  /-- Seconds from midnight of that day. -/
  time : Int := 7200
  deriving Repr, DecidableEq

/-- A name of a time and by how many seconds it is ahead of universal time. -/
structure ZoneTime where
  name : String
  ahead : Int
  deriving Repr, DecidableEq

/-- A time zone. -/
structure Zone where
  standard : ZoneTime
  /-- The summer time, when it begins and when it ends. -/
  summer : Option (ZoneTime × ClockChange × ClockChange) := none
  deriving Repr, DecidableEq

/-- Universal time. -/
def universal : Zone := { standard := ⟨"UTC", 0⟩ }

/-- The number of the day of a year on which clocks change. -/
def ChangeDay.inYear (year : Int) : ChangeDay → Int
  | counted day => dayNumber year 1 1 + day
  | plain day =>
    let first := dayNumber year 1 1
    let leaps := dayNumber year 3 1 - dayNumber year 2 1 = 29
    first + day - 1 + if leaps ∧ 60 ≤ day then 1 else 0
  | weekdayOf month week day =>
    let first := dayNumber year month 1
    let next := dayNumber year (month + 1) 1
    let start := first + ((day + 7 - weekday first) % 7 : Nat)
    let found := start + 7 * ((week : Int) - 1)
    if next ≤ found then found - 7 else found

namespace Zone

/-- The time that holds in a zone at so many seconds after the first of 1970 began. -/
def timeAt (z : Zone) (seconds : Int) : ZoneTime :=
  match z.summer with
  | none => z.standard
  | some (summer, start, stop) =>
    let year := (momentOf (seconds + z.standard.ahead)).date.year
    let first := start.day.inYear year * daySeconds + start.time - z.standard.ahead
    let last := stop.day.inYear year * daySeconds + stop.time - summer.ahead
    let isSummer := if first ≤ last then first ≤ seconds ∧ seconds < last
      else seconds < last ∨ first ≤ seconds
    if isSummer then summer else z.standard

/-- The seconds at which clocks in a zone show so many seconds. A time that is shown twice is the
first of the two. -/
def toUniversal (z : Zone) (shown : Int) : Int :=
  let guesses := (z.summer.toList.map fun entry => shown - entry.1.ahead) ++
    [shown - z.standard.ahead]
  (guesses.find? fun guess => guess + (z.timeAt guess).ahead == shown).getD
    (shown - z.standard.ahead)

/-- Hours, minutes and seconds at the start of a text, in seconds. -/
def readTime (cs : List Char) : Option (Int × List Char) :=
  let (negative, cs) := match cs with
    | '-' :: rest => (true, rest)
    | '+' :: rest => (false, rest)
    | cs => (false, cs)
  let number := fun (cs : List Char) =>
    let digits := cs.takeWhile Char.isDigit
    if digits = [] then none else some (ofDigits 10 digits, cs.drop digits.length)
  let part := fun (cs : List Char) => match cs with
    | ':' :: rest => (number rest).getD (0, cs)
    | cs => (0, cs)
  (number cs).map fun (hours, cs) =>
    let (minutes, cs) := part cs
    let (seconds, cs) := part cs
    let n : Int := hours * 3600 + minutes * 60 + seconds
    (if negative then -n else n, cs)

/-- The name of a time at the start of a text. -/
def readName (cs : List Char) : Option (String × List Char) :=
  match cs with
  | '<' :: rest =>
    let name := rest.takeWhile (· ≠ '>')
    if rest.drop name.length = [] then none
    else some (String.ofList name, rest.drop (name.length + 1))
  | cs =>
    let name := cs.takeWhile isLetter
    if name.length < 3 then none else some (String.ofList name, cs.drop name.length)

/-- The day and time of a change of clocks. -/
def readChange (cs : List Char) : Option ClockChange :=
  let time := cs.dropWhile (· ≠ '/')
  let day := cs.take (cs.length - time.length)
  let time? := if time = [] then some 7200 else (readTime (time.drop 1)).map (·.1)
  let day? : Option ChangeDay := match day with
    | 'J' :: digits => (natural? digits).map .plain
    | 'M' :: rest =>
      match (piecesAt (· == '.') rest).map natural? with
      | [some month, some week, some day] => some (.weekdayOf month week day)
      | _ => none
    | digits => (natural? digits).map .counted
  match day?, time? with
  | some day, some time => some ⟨day, time⟩
  | _, _ => none

/-- The zone of a rule. A rule that is not complete stands for universal time. -/
def ofRule (rule : String) : Zone :=
  match readName rule.toList with
  | none => { standard := ⟨"", 0⟩ }
  | some (name, rest) =>
    match readTime rest with
    | none => { standard := ⟨name, 0⟩ }
    | some (behind, rest) =>
      let standard : ZoneTime := ⟨name, -behind⟩
      match readName rest with
      | none => { standard := standard }
      | some (summer, rest) =>
        let (behind, rest) := match rest with
          | ',' :: _ => (behind - 3600, rest)
          | rest => (readTime rest).getD (behind - 3600, rest)
        let changes := match (piecesAt (· == ',') rest).drop 1 with
          | [a, b] => (readChange a, readChange b)
          | _ => (some ⟨.weekdayOf 3 2 0, 7200⟩, some ⟨.weekdayOf 11 1 0, 7200⟩)
        match changes with
        | (some start, some stop) =>
          { standard := standard, summer := some (⟨summer, -behind⟩, start, stop) }
        | _ => { standard := standard }

/-- The rules that hold at places. -/
def places : List (String × String) :=
  let european := ",M3.5.0/3,M10.5.0/4"
  let central := "CET-1CEST,M3.5.0,M10.5.0/3"
  let american := ",M3.2.0,M11.1.0"
  [("UTC", "UTC0"), ("Etc/UTC", "UTC0"), ("GMT", "GMT0"), ("Etc/GMT", "GMT0"), ("Zulu", "UTC0"),
    ("UCT", "UTC0"), ("Universal", "UTC0"), ("Etc/Universal", "UTC0"), ("Etc/Zulu", "UTC0"),
    ("EST", "EST5"), ("MST", "MST7"), ("HST", "HST10"),
    ("EST5EDT", "EST5EDT" ++ american), ("CST6CDT", "CST6CDT" ++ american),
    ("MST7MDT", "MST7MDT" ++ american), ("PST8PDT", "PST8PDT" ++ american),
    ("US/Eastern", "EST5EDT" ++ american), ("US/Central", "CST6CDT" ++ american),
    ("US/Mountain", "MST7MDT" ++ american), ("US/Pacific", "PST8PDT" ++ american),
    ("America/New_York", "EST5EDT" ++ american), ("America/Toronto", "EST5EDT" ++ american),
    ("America/Chicago", "CST6CDT" ++ american), ("America/Denver", "MST7MDT" ++ american),
    ("America/Phoenix", "MST7"), ("America/Los_Angeles", "PST8PDT" ++ american),
    ("America/Anchorage", "AKST9AKDT" ++ american), ("America/Halifax", "AST4ADT" ++ american),
    ("America/St_Johns", "NST3:30NDT" ++ american), ("America/Sao_Paulo", "<-03>3"),
    ("America/Argentina/Buenos_Aires", "<-03>3"), ("America/Bogota", "<-05>5"),
    ("America/Mexico_City", "CST6"), ("Pacific/Honolulu", "HST10"),
    ("Europe/London", "GMT0BST,M3.5.0/1,M10.5.0"), ("GB", "GMT0BST,M3.5.0/1,M10.5.0"),
    ("Europe/Dublin", "GMT0IST,M3.5.0/1,M10.5.0"), ("Europe/Lisbon", "WET0WEST,M3.5.0/1,M10.5.0"),
    ("Europe/Berlin", central), ("Europe/Paris", central), ("Europe/Madrid", central),
    ("Europe/Rome", central), ("Europe/Vienna", central), ("Europe/Zurich", central),
    ("Europe/Amsterdam", central), ("Europe/Brussels", central), ("Europe/Prague", central),
    ("Europe/Warsaw", central), ("Europe/Stockholm", central), ("Europe/Oslo", central),
    ("Europe/Copenhagen", central), ("Europe/Budapest", central), ("CET", central),
    ("Europe/Athens", "EET-2EEST" ++ european), ("Europe/Helsinki", "EET-2EEST" ++ european),
    ("Europe/Kiev", "EET-2EEST" ++ european), ("Europe/Kyiv", "EET-2EEST" ++ european),
    ("EET", "EET-2EEST" ++ european), ("Europe/Moscow", "MSK-3"), ("Europe/Istanbul", "<+03>-3"),
    ("Asia/Tokyo", "JST-9"), ("Japan", "JST-9"), ("Asia/Seoul", "KST-9"),
    ("Asia/Shanghai", "CST-8"), ("Asia/Hong_Kong", "HKT-8"), ("Asia/Singapore", "<+08>-8"),
    ("Asia/Taipei", "CST-8"), ("Asia/Kolkata", "IST-5:30"), ("Asia/Calcutta", "IST-5:30"),
    ("Asia/Kathmandu", "<+0545>-5:45"), ("Asia/Dubai", "<+04>-4"), ("Asia/Karachi", "PKT-5"),
    ("Asia/Bangkok", "<+07>-7"), ("Asia/Jakarta", "WIB-7"), ("Asia/Manila", "PST-8"),
    ("Australia/Sydney", "AEST-10AEDT,M10.1.0,M4.1.0/3"),
    ("Australia/Melbourne", "AEST-10AEDT,M10.1.0,M4.1.0/3"), ("Australia/Brisbane", "AEST-10"),
    ("Australia/Perth", "AWST-8"), ("Pacific/Auckland", "NZST-12NZDT,M9.5.0,M4.1.0/3"),
    ("Africa/Cairo", "EET-2EEST,M4.5.5/0,M10.5.4/24"), ("Africa/Johannesburg", "SAST-2"),
    ("Africa/Lagos", "WAT-1"), ("Africa/Nairobi", "EAT-3")]

/-- The zone that a text names: a place or a rule. Nothing or no text is universal time. -/
def ofName (name : Option String) : Zone :=
  match name with
  | none => universal
  | some name =>
    let name := if name.toList.head? = some ':' then String.ofList (name.toList.drop 1) else name
    if name = "" then universal
    else
      match places.lookup name with
      | some rule => ofRule rule
      | none =>
        match name.toList with
        | 'E' :: 't' :: 'c' :: '/' :: 'G' :: 'M' :: 'T' :: sign :: digits =>
          let shown := (if sign = '+' then "-" else "+") ++
            String.ofList (padLeft '0' 2 digits)
          ofRule ("<" ++ shown ++ ">" ++ String.ofList (sign :: digits))
        | _ => ofRule name

end Zone

end NativeBuild.Machine.Calendar
