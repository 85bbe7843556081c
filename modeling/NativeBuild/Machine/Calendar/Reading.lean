import NativeBuild.Machine.Calendar.Zone

/-
  Reading dates that people write: `2024-02-28`, `Jan 5 2021 10:30 UTC`, `tomorrow`, `3 days ago`,
  `@86400`. A text is taken apart into words, and these into items that may stand in any order; each
  kind of item may be there once, but steps such as `+ 1 day` add up.
-/

namespace NativeBuild.Machine.Calendar

/-- What a step counts. -/
inductive StepUnit where
  | year
  | month
  | day (count : Int)
  /-- A part of the day, in seconds. -/
  | second (count : Int)
  deriving Repr, DecidableEq

/-- A word of a date. -/
inductive Word where
  /-- A number with its count of digits; it may have a sign. -/
  | number (signed : Bool) (value : Int) (digits : Nat)
  /-- A number with decimals, in nanoseconds. -/
  | fraction (signed : Bool) (nanoseconds : Int)
  | month (n : Nat)
  | day (n : Nat)
  | unit (u : StepUnit)
  /-- A day before or after this one. -/
  | shift (days : Int)
  /-- Which one from here. -/
  | ordinal (n : Int)
  | ago
  | half (afternoon : Bool)
  /-- A zone, by how many seconds it is ahead, and whether it is one of summer. -/
  | zone (ahead : Int) (summer : Bool)
  | summer
  /-- The letter between a date and a time. -/
  | letterT
  | mark (c : Char)
  deriving Repr, DecidableEq

/-- The names of zones, with the hours and minutes that they are ahead. -/
def zoneNames : List (String × Int × Bool) :=
  let hours := fun (n : Int) => n * 3600
  [("GMT", 0, false), ("UT", 0, false), ("UTC", 0, false), ("WET", 0, false), ("WEST", 0, true),
    ("BST", 0, true), ("ART", hours (-3), false), ("BRT", hours (-3), false),
    ("NST", -12600, false), ("NDT", -12600, true), ("AST", hours (-4), false),
    ("ADT", hours (-4), true), ("EST", hours (-5), false), ("EDT", hours (-5), true),
    ("CST", hours (-6), false), ("CDT", hours (-6), true), ("MST", hours (-7), false),
    ("MDT", hours (-7), true), ("PST", hours (-8), false), ("PDT", hours (-8), true),
    ("AKST", hours (-9), false), ("AKDT", hours (-9), true), ("HST", hours (-10), false),
    ("WAT", hours 1, false), ("CET", hours 1, false), ("CEST", hours 1, true),
    ("MET", hours 1, false), ("MEST", hours 1, true), ("EET", hours 2, false),
    ("EEST", hours 2, true), ("CAT", hours 2, false), ("SAST", hours 2, false),
    ("EAT", hours 3, false), ("MSK", hours 3, false), ("MSD", hours 3, true),
    ("IST", 19800, false), ("SGT", hours 8, false), ("KST", hours 9, false),
    ("JST", hours 9, false), ("GST", hours 10, false), ("NZST", hours 12, false),
    ("NZDT", hours 12, true)]

/-- The zone that a single letter stands for. -/
def letterZone? (c : Char) : Option Int :=
  let n := c.toNat
  if c = 'Z' then some 0
  else if 'A' ≤ c ∧ c ≤ 'I' then some (((n - 64 : Nat) : Int) * 3600)
  else if 'K' ≤ c ∧ c ≤ 'M' then some (((n - 65 : Nat) : Int) * 3600)
  else if 'N' ≤ c ∧ c ≤ 'Y' then some (-(((n - 77 : Nat) : Int) * 3600))
  else none

/-- Words for steps. -/
def unitNames : List (String × StepUnit) :=
  [("YEAR", .year), ("MONTH", .month), ("FORTNIGHT", .day 14), ("WEEK", .day 7), ("DAY", .day 1),
    ("HOUR", .second 3600), ("MINUTE", .second 60), ("MIN", .second 60), ("SECOND", .second 1),
    ("SEC", .second 1)]

/-- Words that say when, seen from now. -/
def relativeNames : List (String × Word) :=
  [("TOMORROW", .shift 1), ("YESTERDAY", .shift (-1)), ("TODAY", .shift 0), ("NOW", .shift 0),
    ("LAST", .ordinal (-1)), ("THIS", .ordinal 0), ("NEXT", .ordinal 1), ("FIRST", .ordinal 1),
    ("THIRD", .ordinal 3), ("FOURTH", .ordinal 4), ("FIFTH", .ordinal 5), ("SIXTH", .ordinal 6),
    ("SEVENTH", .ordinal 7), ("EIGHTH", .ordinal 8), ("NINTH", .ordinal 9), ("TENTH", .ordinal 10),
    ("ELEVENTH", .ordinal 11), ("TWELFTH", .ordinal 12), ("AGO", .ago), ("HENCE", .ordinal 0)]

/-- What a word in capitals stands for. -/
def lookUpWord (word : String) : Option Word :=
  let cs := word.toList
  let isShort := cs.length = 3 ∨ (cs.length = 4 ∧ cs.getLast? = some '.')
  let named := fun (names : List String) => names.findIdx? fun name =>
    let upper := name.toList.map Char.toUpper
    upper == cs || (isShort && upper.take 3 == cs.take 3)
  let bare := String.ofList (cs.filter (· ≠ '.'))
  if bare = "AM" then some (.half false)
  else if bare = "PM" then some (.half true)
  else if word = "SEPT" then some (.month 9)
  else if word = "TUES" then some (.day 2)
  else if word = "WEDNES" then some (.day 3)
  else if word = "THUR" ∨ word = "THURS" then some (.day 4)
  else
    let singular := if cs.getLast? = some 'S' then String.ofList cs.dropLast else word
    let fromMonth := (named monthNames).map fun k => Word.month (k + 1)
    let fromDay := (named dayNames).map Word.day
    let fromZone := (zoneNames.lookup word).map fun (ahead, isSummer) => Word.zone ahead isSummer
    let fromUnit := ((unitNames.lookup word).or (unitNames.lookup singular)).map Word.unit
    let fromLetter := match cs with
      | ['T'] => some Word.letterT
      | [c] => (letterZone? c).map fun ahead => Word.zone ahead false
      | _ => none
    let fromSummer := if word = "DST" then some Word.summer else none
    fromMonth.or (fromDay.or (fromZone.or (fromSummer.or (fromUnit.or
      ((relativeNames.lookup word).or (fromLetter.or
        (if bare ≠ word then (zoneNames.lookup bare).map fun (ahead, isSummer) =>
          Word.zone ahead isSummer else none)))))))

/-- Takes a date apart into words; nothing if there is one that means nothing. -/
def wordsOf : Nat → List Char → Option (List Word)
  | 0, _ => none
  | _, [] => some []
  | fuel + 1, c :: rest =>
    if isSpace c then wordsOf fuel rest
    else if c.isDigit ∨ c = '-' ∨ c = '+' then
      let isSigned := !c.isDigit
      let body := if isSigned then rest.dropWhile isSpace else c :: rest
      let digits := body.takeWhile Char.isDigit
      if digits = [] then wordsOf fuel body
      else
        let n : Int := ofDigits 10 digits
        let negative := c = '-'
        let after := body.drop digits.length
        match after with
        | p :: d :: more =>
          if (p = '.' ∨ p = ',') ∧ d.isDigit then
            let decimals := (d :: more).takeWhile Char.isDigit
            let places := ofDigits 10 ((decimals ++ List.replicate 9 '0').take 9)
            let value := n * 1000000000 + places
            (wordsOf fuel ((d :: more).drop decimals.length)).map
              (Word.fraction isSigned (if negative then -value else value) :: ·)
          else (wordsOf fuel after).map
            (Word.number isSigned (if negative then -n else n) digits.length :: ·)
        | _ => (wordsOf fuel after).map
          (Word.number isSigned (if negative then -n else n) digits.length :: ·)
    else if isLetter c then
      let letters := (c :: rest).takeWhile fun d => isLetter d || d == '.'
      let after := (c :: rest).drop letters.length
      match lookUpWord (String.ofList (letters.map Char.toUpper)) with
      | some word => (wordsOf fuel after).map (word :: ·)
      | none => none
    else if c = '(' then wordsOf fuel ((rest.dropWhile (· ≠ ')')).drop 1)
    else (wordsOf fuel rest).map (Word.mark c :: ·)

/-- What has been read of a date. -/
structure Reading where
  year : Option (Int × Nat) := none
  month : Int := 0
  day : Int := 0
  dates : Nat := 0
  /-- Hour, minute, and nanoseconds of the minute; the half of the day that the hour is of. -/
  hour : Int := 0
  minute : Int := 0
  fine : Int := 0
  half : Option Bool := none
  times : Nat := 0
  /-- A day of the week, and which one from here. -/
  weekday : Nat := 0
  ordinal : Int := 0
  days : Nat := 0
  zone : Int := 0
  zones : Nat := 0
  /-- Steps: years, months, days, and nanoseconds. -/
  years : Int := 0
  months : Int := 0
  stepDays : Int := 0
  steps : Int := 0
  hasSteps : Bool := false

namespace Reading

/-- The reading with a step taken. -/
def step (r : Reading) (u : StepUnit) (count : Int) : Reading :=
  let r := { r with hasSteps := true }
  match u with
  | .year => { r with years := r.years + count }
  | .month => { r with months := r.months + count }
  | .day n => { r with stepDays := r.stepDays + n * count }
  | .second n => { r with steps := r.steps + n * count * 1000000000 }

/-- The reading with a time of the day. -/
def time (r : Reading) (hour minute fine : Int) (half : Option Bool) : Reading :=
  { r with hour := hour, minute := minute, fine := fine, half := half, times := r.times + 1 }

/-- The reading with a date; without a year it is this year. -/
def date (r : Reading) (year : Option (Int × Nat)) (month day : Int) : Reading :=
  { r with year := year.or r.year, month := month, day := day, dates := r.dates + 1 }

/-- The reading with a zone. -/
def inZone (r : Reading) (ahead : Int) : Reading := { r with zone := ahead, zones := r.zones + 1 }

/-- A number on its own: a year behind a date, a date without marks, or a time. -/
def number (r : Reading) (n : Int) (digits : Nat) : Reading :=
  if 0 < r.dates ∧ r.year.isNone ∧ r.hasSteps = false ∧ (0 < r.times ∨ 2 < digits) then
    { r with year := some (n, digits) }
  else if 4 < digits then r.date (some (n / 10000, digits - 4)) (n / 100 % 100) (n % 100)
  else if digits ≤ 2 then r.time n 0 0 none
  else r.time (n / 100) (n % 100) 0 none

end Reading

/-- How far ahead a number with a sign says that a zone is; minutes may stand behind a colon. -/
def aheadOf (n : Int) (digits : Nat) (rest : List Word) : Option (Int × List Word) :=
  let sign := if n < 0 then (-1 : Int) else 1
  match rest with
  | .mark ':' :: .number false m _ :: rest => some (n * 3600 + sign * m * 60, rest)
  | rest =>
    let (hours, minutes) := if digits ≤ 2 then (n.natAbs, 0) else (n.natAbs / 100, n.natAbs % 100)
    if 24 < hours then none else some (sign * ((hours * 3600 + minutes * 60 : Nat) : Int), rest)

/-- What may stand behind a time: a half of the day, or a zone. -/
def afterTime (r : Reading) (hour minute fine : Int) (rest : List Word) :
    Option (Reading × List Word) :=
  match rest with
  | .half afternoon :: rest => some (r.time hour minute fine (some afternoon), rest)
  | .number true n digits :: rest =>
    (aheadOf n digits rest).map fun (ahead, rest) =>
      ((r.time hour minute fine none).inZone ahead, rest)
  | rest => some (r.time hour minute fine none, rest)

/-- A time whose hour has been read. -/
def timeFrom (r : Reading) (hour : Int) (rest : List Word) : Option (Reading × List Word) :=
  match rest with
  | .mark ':' :: .number false minute _ :: rest =>
    match rest with
    | .mark ':' :: .number false s _ :: rest => afterTime r hour minute (s * 1000000000) rest
    | .mark ':' :: .fraction false fine :: rest => afterTime r hour minute fine rest
    | rest => afterTime r hour minute 0 rest
  | _ => none

/-- A step of so many units. -/
def stepFrom (r : Reading) (count : Int) (u : StepUnit) (rest : List Word) : Reading × List Word :=
  match rest with
  | .ago :: rest => (r.step u (-count), rest)
  | rest => (r.step u count, rest)

/-- An item that starts with a number without a sign. -/
def numberItem (r : Reading) (n : Int) (digits : Nat) (rest : List Word) :
    Option (Reading × List Word) :=
  let alone := (r.number n digits, rest)
  match rest with
  | .half afternoon :: rest => some (r.time n 0 0 (some afternoon), rest)
  | .mark ':' :: _ => timeFrom r n rest
  | .mark '/' :: .number false a k :: .mark '/' :: .number false b j :: rest =>
    if 4 ≤ digits then some (r.date (some (n, digits)) a b, rest)
    else let _ := k; some (r.date (some (b, j)) n a, rest)
  | .mark '/' :: .number false a _ :: rest => some (r.date none n a, rest)
  | .month m :: .number true y k :: rest => some (r.date (some (-y, k)) m n, rest)
  | .month m :: .number false y k :: rest => some (r.date (some (y, k)) m n, rest)
  | .month m :: rest => some (r.date none m n, rest)
  | .day d :: rest => some ({ r with weekday := d, ordinal := n, days := r.days + 1 }, rest)
  | .number true m _ :: .number true d _ :: rest =>
    let dated := r.date (some (n, digits)) (-m) (-d)
    match rest with
    | .letterT :: .number false hour k :: rest =>
      match rest with
      | .mark ':' :: _ => timeFrom dated hour rest
      | .number true z j :: rest =>
        let _ := k
        (aheadOf z j rest).map fun (ahead, rest) => ((dated.time hour 0 0 none).inZone ahead, rest)
      | rest => some (dated.number hour k, rest)
    | rest => some (dated, rest)
  | .number true m _ :: .unit u :: rest => some (stepFrom (r.number n digits) m u rest)
  | .number true z k :: rest =>
    (aheadOf z k rest).map fun (ahead, rest) => ((r.time n 0 0 none).inZone ahead, rest)
  | .unit u :: rest => some (stepFrom r n u rest)
  | _ => some alone

/-- Reads an item of a date. -/
def readItem (r : Reading) : List Word → Option (Reading × List Word)
  | .number false n digits :: rest => numberItem r n digits rest
  | .number true n _ :: .unit u :: rest => some (stepFrom r n u rest)
  | .fraction _ fine :: .unit (.second 1) :: rest =>
    let (sign, rest) := match rest with
      | .ago :: rest => ((-1 : Int), rest)
      | rest => (1, rest)
    some ({ r with steps := r.steps + sign * fine, hasSteps := true }, rest)
  | .month m :: .number true d _ :: .number true y k :: rest =>
    some (r.date (some (-y, k)) m (-d), rest)
  | .month m :: .number false d _ :: .mark ',' :: .number false y k :: rest =>
    some (r.date (some (y, k)) m d, rest)
  | .month m :: .number false d _ :: rest => some (r.date none m d, rest)
  | .day d :: rest =>
    let rest := match rest with
      | .mark ',' :: rest => rest
      | rest => rest
    some ({ r with weekday := d, ordinal := 0, days := r.days + 1 }, rest)
  | .ordinal n :: .day d :: rest =>
    some ({ r with weekday := d, ordinal := n, days := r.days + 1 }, rest)
  | .ordinal n :: .unit u :: rest => some (stepFrom r n u rest)
  | .unit u :: rest => some (stepFrom r 1 u rest)
  | .shift n :: rest => some (r.step (.day 1) n, rest)
  | .zone ahead isSummer :: rest =>
    let ahead := if isSummer then ahead + 3600 else ahead
    match rest with
    | .number true n _ :: .unit u :: rest => some (stepFrom (r.inZone ahead) n u rest)
    | .number true n digits :: rest =>
      (aheadOf n digits rest).map fun (more, rest) => (r.inZone (ahead + more), rest)
    | .summer :: rest => some (r.inZone (ahead + 3600), rest)
    | rest => some (r.inZone ahead, rest)
  | .letterT :: rest => if 0 < r.dates then none else some (r.inZone (-25200), rest)
  | _ => none

/-- Reads all items of a date. -/
def readItems : Nat → Reading → List Word → Option Reading
  | 0, _, _ => none
  | _, r, [] => some r
  | fuel + 1, r, words => (readItem r words).bind fun (r, rest) => readItems fuel r rest

/-- The hour of a day of twenty-four; nothing if there is no such hour. -/
def fullHour (hour : Int) (half : Option Bool) : Option Int :=
  match half with
  | none => if 0 ≤ hour ∧ hour < 24 then some hour else none
  | some afternoon =>
    if 1 ≤ hour ∧ hour ≤ 12 then some (hour % 12 + if afternoon then 12 else 0) else none

/-- The seconds that clocks show on a day at a time, if there is such a day and time. -/
def shownSeconds (year month day hour minute second : Int) : Option Int :=
  let isDay := 1 ≤ month ∧ month ≤ 12 ∧ 1 ≤ day ∧
    day ≤ dayNumber year (month + 1) 1 - dayNumber year month 1
  if isDay ∧ 0 ≤ hour ∧ hour < 24 ∧ 0 ≤ minute ∧ minute < 60 ∧ 0 ≤ second ∧ second < 60 then
    some (dayNumber year month day * daySeconds + hour * 3600 + minute * 60 + second)
  else none

/-- The time that a reading stands for, in nanoseconds; it is seen from a time in a zone. -/
def Reading.resolve (r : Reading) (zone : Zone) (now : Int) : Option Int := do
  if [r.dates, r.times, r.days, r.zones].any (1 < ·) then failure
  let nowSeconds := now.fdiv 1000000000
  let ahead := if 0 < r.zones then r.zone else (zone.timeAt nowSeconds).ahead
  let here := momentOf (nowSeconds + ahead)
  let isStep := r.hasSteps ∧ r.dates = 0 ∧ r.days = 0
  let year : Int := match r.year with
    | some (y, digits) => if digits = 2 then y + (if y < 69 then 2000 else 1900) else y
    | none => here.date.year
  let (month, day) : Int × Int :=
    if 0 < r.dates then (r.month, r.day) else (here.date.month, here.date.day)
  let hour ← if 0 < r.times then fullHour r.hour r.half
    else some (if isStep then (here.hour : Int) else 0)
  let minute := if 0 < r.times then r.minute else if isStep then (here.minute : Int) else 0
  let second := if 0 < r.times then r.fine.fdiv 1000000000 else if isStep then (here.second : Int)
    else 0
  let fine := if 0 < r.times then r.fine.fmod 1000000000 else if isStep then now.fmod 1000000000
    else 0
  let shown ← shownSeconds year month day hour minute second
  let day := shown.fdiv daySeconds
  let inDay := shown.fmod daySeconds
  let day := if 0 < r.days ∧ r.dates = 0 then
      let today := Calendar.weekday day
      day + ((r.weekday + 7 - today) % 7 : Nat) +
        7 * (r.ordinal - if 0 < r.ordinal ∧ today ≠ r.weekday then 1 else 0)
    else day
  let date := dateOf day
  let day := dayNumber (date.year + r.years) (date.month + r.months) date.day + r.stepDays
  let shown := day * daySeconds + inDay
  let seconds := if 0 < r.zones then shown - r.zone else zone.toUniversal shown
  let exists_ := 0 < r.zones ∨ r.hasSteps ∨ seconds + (zone.timeAt seconds).ahead = shown
  if !exists_ then failure
  return seconds * 1000000000 + fine + r.steps

/-- The time that a text names, in nanoseconds from the start of 1970, if it names one. -/
def readDate (zone : Zone) (now : Int) (text : List Char) : Option Int :=
  let (zone, text) := match text.dropWhile isSpace with
    | 'T' :: 'Z' :: '=' :: '"' :: rest =>
      let name := rest.takeWhile (· ≠ '"')
      (Zone.ofName (some (String.ofList name)), rest.drop (name.length + 1))
    | cs => (zone, cs)
  match wordsOf (text.length + 1) text with
  | some [.mark '@', .number _ n _] => some (n * 1000000000)
  | some [.mark '@', .fraction _ n] => some n
  | some words => (readItems (words.length + 1) {} words).bind fun r => r.resolve zone now
  | none => none

/-- The time that digits spell: month, day, hour and minute, with the year in front and the seconds
behind a point if they are there. -/
def readStamp (zone : Zone) (now : Int) (text : List Char) : Option Int :=
  let digits := text.takeWhile Char.isDigit
  let second? := match text.drop digits.length with
    | [] => some (0 : Int)
    | ['.', a, b] => (natural? [a, b]).map Int.ofNat
    | _ => none
  let front := digits.length - 8
  let yearDigits := digits.take front
  let pair := fun (k : Nat) => (ofDigits 10 ((digits.drop (front + 2 * k)).take 2) : Int)
  let year? : Option Int := match yearDigits with
    | [] => some (momentOf (now.fdiv 1000000000)).date.year
    | [a, b] =>
      let y := ofDigits 10 [a, b]
      some (if y < 69 then 2000 + (y : Int) else 1900 + (y : Int))
    | [a, b, c, d] => some (ofDigits 10 [a, b, c, d])
    | _ => none
  if digits.length < 8 then none
  else
    match year?, second? with
    | some year, some second =>
      (shownSeconds year (pair 0) (pair 1) (pair 2) (pair 3) second).map fun shown =>
        zone.toUniversal shown * 1000000000
    | _, _ => none

end NativeBuild.Machine.Calendar
