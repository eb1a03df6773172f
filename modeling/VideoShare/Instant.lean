import VideoShare.Text.Integer

/-!
# Instants

An instant is a number of microseconds since the beginning of the year 1 of the proleptic Gregorian calendar, and it is written
as a date, a `T` and a time of day, with six digits of a second's fraction when the fraction is not zero. The calendar ends with
the year 9999: an instant outside it cannot be written, and a shift that leaves it is refused.
-/

namespace VideoShare

/-- A point in time, in microseconds since the beginning of the year 1. -/
abbrev Instant : Type := Int

/-- A length of time in microseconds. -/
abbrev Duration : Type := Int

/-- The microseconds of a second. -/
def Duration.second : Duration := 1000000

/-- The microseconds of an hour. -/
def Duration.hour : Duration := 3600000000

/-- The microseconds of a day. -/
def Duration.day : Duration := 86400000000

/-- Whether a year has a 29th of February. -/
def isLeapYear (y : Nat) : Bool := y % 4 == 0 && (y % 100 != 0 || y % 400 == 0)

/-- The days of the months of a year. -/
def monthLengths (y : Nat) : List Nat :=
  [31, if isLeapYear y then 29 else 28, 31, 30, 31, 30, 31, 31, 30, 31, 30, 31]

/-- The days of the calendar before a year. -/
def daysBeforeYear (y : Nat) : Nat := 365 * (y - 1) + (y - 1) / 4 - (y - 1) / 100 + (y - 1) / 400

/-- The day of the calendar of a date, the first one being day 0; none when there is no such date. -/
def dayOfDate? (year month day : Nat) : Option Nat :=
  let lengths := monthLengths year
  match lengths[month - 1]? with
  | none => none
  | some length =>
    if 1 ≤ year ∧ year ≤ 9999 ∧ 1 ≤ month ∧ 1 ≤ day ∧ day ≤ length then
      some (daysBeforeYear year + (lengths.take (month - 1)).foldl (· + ·) 0 + (day - 1))
    else none

/-- The month and day of a day of the year, given the lengths of the months from the given one on. -/
def monthAndDay (month : Nat) (lengths : List Nat) (d : Nat) : Nat × Nat :=
  match lengths with
  | [] => (month, d + 1)
  | length :: rest => if d < length then (month, d + 1) else monthAndDay (month + 1) rest (d - length)

/-- The year, month and day of a day of the calendar. -/
def dateOfDay (d : Nat) : Nat × Nat × Nat :=
  let era := d / 146097
  let century := min 3 (d % 146097 / 36524)
  let inCentury := d % 146097 - century * 36524
  let four := inCentury / 1461
  let one := min 3 (inCentury % 1461 / 365)
  let year := 400 * era + 100 * century + 4 * four + one + 1
  (year, monthAndDay 1 (monthLengths year) (d - daysBeforeYear year))

/-- The first instant after the calendar. -/
def Instant.limit : Instant := 3652059 * Duration.day

/-- Why an instant cannot be shifted by a length of time. -/
inductive ShiftFault where
  | hugeDays (days : Int)
  | manyDays (days : Int)
  | outsideCalendar
  deriving DecidableEq, Repr

/-- A length of time that can be held: its whole days have at most nine digits. -/
def Duration.held (d : Duration) : Except ShiftFault Duration :=
  let days := Int.fdiv d Duration.day
  if days < -2147483648 ∨ 2147483647 < days then .error (.hugeDays days)
  else if days < -999999999 ∨ 999999999 < days then .error (.manyDays days)
  else .ok d

/-- An instant that lies in the calendar. -/
def Instant.inCalendar (t : Instant) : Except ShiftFault Instant :=
  if 0 ≤ t ∧ t < Instant.limit then .ok t else .error .outsideCalendar

/-- The instant a length of time before another. -/
def Instant.before (t : Instant) (d : Duration) : Except ShiftFault Instant := d.held.bind fun d => (t - d).inCalendar

/-- The instant a length of time after another. -/
def Instant.after (t : Instant) (d : Duration) : Except ShiftFault Instant := d.held.bind fun d => (t + d).inCalendar

/-! ## Writing and reading -/

/-- A number filled with zeros to a width. -/
def zeroPadded (width n : Nat) : String :=
  let ds := (toString n).toList
  String.ofList (List.replicate (width - ds.length) '0' ++ ds)

/-- An instant of the calendar as text. -/
def Instant.toText (t : Instant) : String :=
  let n := t.toNat
  let (year, month, day) := dateOfDay (n / 86400000000)
  let s := n / 1000000 % 86400
  let fraction := n % 1000000
  zeroPadded 4 year ++ "-" ++ zeroPadded 2 month ++ "-" ++ zeroPadded 2 day ++ "T" ++ zeroPadded 2 (s / 3600) ++ ":" ++
    zeroPadded 2 (s / 60 % 60) ++ ":" ++ zeroPadded 2 (s % 60) ++
    (if fraction = 0 then "" else "." ++ zeroPadded 6 fraction)

/-- The number that a run of exactly `width` ASCII digits denotes, and what follows it. -/
def takeFixed (width : Nat) (cs : List Char) : Option (Nat × List Char) :=
  match (cs.take width).mapM Text.asciiDigitValue? with
  | none => none
  | some ds => if ds.length = width then some (Text.digitsValue ds, cs.drop width) else none

/-- Takes one character of a class off. -/
def takeMark (p : Char → Bool) : List Char → Option (List Char)
  | [] => none
  | c :: cs => if p c then some cs else none

/-- Reads the fraction of a second: nothing, or a point and one to six digits. -/
def readFraction : List Char → Option Nat
  | [] => some 0
  | c :: cs =>
    if c = '.' && 1 ≤ cs.length && cs.length ≤ 6 then
      (cs.mapM Text.asciiDigitValue?).map fun ds => Text.digitsValue ds * Nat.pow 10 (6 - cs.length)
    else none

/-- Reads a time of day with hours and minutes, and seconds with a fraction when they are given, in microseconds. -/
def readTimeOfDay (cs : List Char) : Option Nat := do
  let (hour, cs) ← takeFixed 2 cs
  let cs ← takeMark (· == ':') cs
  let (minute, cs) ← takeFixed 2 cs
  let (second, fraction) ←
    if cs = [] then some (0, 0)
    else do
      let cs ← takeMark (· == ':') cs
      let (second, cs) ← takeFixed 2 cs
      let fraction ← readFraction cs
      some (second, fraction)
  if hour < 24 ∧ minute < 60 ∧ second < 60 then
    some (((hour * 60 + minute) * 60 + second) * 1000000 + fraction)
  else none

/-- Reads an instant: a date, and after a `T` or a blank a time of day. -/
def Instant.ofText? (s : String) : Option Instant := do
  let (year, cs) ← takeFixed 4 s.toList
  let cs ← takeMark (· == '-') cs
  let (month, cs) ← takeFixed 2 cs
  let cs ← takeMark (· == '-') cs
  let (day, cs) ← takeFixed 2 cs
  let d ← dayOfDate? year month day
  let time ← if cs = [] then some 0 else (takeMark (fun c => c == 'T' || c == ' ') cs).bind readTimeOfDay
  some (d * 86400000000 + time : Nat)

end VideoShare
