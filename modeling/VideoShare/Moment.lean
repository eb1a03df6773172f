import VideoShare.Instant
import VideoShare.Number.Binary64
import VideoShare.Text.Encoded

/-!
# Moments

A moment is what a caller gives for a point in time: a date and a time of day as a calendar and a clock show them, and where it is
known the offset of that clock from universal time. A moment is read from a text or from a number of seconds since the beginning
of the year 1970; a number that is too large for seconds counts milliseconds. A number has the offset zero, a date alone means
its beginning and has none.
-/

namespace VideoShare

open Number (Binary64)
open Text

/-- A date with a time of day, and the minutes by which the clock is ahead of universal time. -/
structure Moment where
  wall : Instant
  offset : Option Int := none
  deriving DecidableEq, Repr

/-- What can be wrong with a date, or with a number that stands for a point in time. -/
inductive MomentCause where
  | tooShort
  | yearCharacter
  | monthCharacter
  | dayCharacter
  | separator
  | month
  | day
  | extraCharacters
  | beforeCalendar
  | afterCalendar
  | yearZero
  | notNumber
  deriving DecidableEq, Repr

namespace MomentCause

/-- What is said of a cause. -/
def message : MomentCause → String
  | .tooShort => "input is too short"
  | .yearCharacter => "invalid character in year"
  | .monthCharacter => "invalid character in month"
  | .dayCharacter => "invalid character in day"
  | .separator => "invalid date separator, expected \x60-\x60"
  | .month => "month value is outside expected range of 1-12"
  | .day => "day value is outside expected range"
  | .extraCharacters => "unexpected extra characters at the end of the input"
  | .beforeCalendar => "dates before 0000 are not supported as unix timestamps"
  | .afterCalendar => "dates after 9999 are not supported as unix timestamps"
  | .yearZero => "year 0 is out of range"
  | .notNumber => "NaN values not permitted"

end MomentCause

/-- Why a value is no moment. A text is tried as a date with a time and then as a date alone, and the fault says which of them was
tried last. -/
inductive MomentFault where
  | noTime (cause : MomentCause)
  | noTimeNorDate (cause : MomentCause)
  deriving DecidableEq, Repr

namespace Moment

/-! ## Writing -/

/-- An offset as text. The sign is that of the whole hours. -/
def offsetText (minutes : Int) : String :=
  if minutes = 0 then "Z"
  else
    let hours := Int.tdiv minutes 60
    (if hours < 0 then "-" else "+") ++ zeroPadded 2 hours.natAbs ++ ":" ++ zeroPadded 2 (minutes.natAbs % 60)

/-- A moment as text. -/
def toText (m : Moment) : String := m.wall.toText ++ (m.offset.map offsetText).getD ""

/-! ## Numbers -/

/-- The beginning of the year 1970. -/
def epoch : Instant := 719162 * Duration.day

/-- The greatest number, with either sign, that counts seconds. -/
def mostSeconds : Nat := 20000000000

/-- The moment that a number stands for, with some microseconds after it. Of the year before the calendar's first one a number may
still speak, but it is no moment. -/
def ofNumber (n : Int) (microseconds : Nat) : Except MomentCause Moment :=
  let t := (if n.natAbs ≤ mostSeconds then n * 1000000 else n * 1000) + microseconds
  if Int.fdiv t 1000000 < -62167219200 then .error .beforeCalendar
  else if 253402300799 < Int.fdiv t 1000000 then .error .afterCalendar
  else if epoch + t < 0 then .error .yearZero
  else .ok ⟨epoch + t, some 0⟩

/-- The moment that a double stands for. Its whole part is rounded down, and the fraction that the double shows is added to it,
rounded to microseconds. -/
def ofReal (x : Binary64) : Except MomentCause Moment :=
  match x with
  | .nan => .error .notNumber
  | .infinite negative => .error (if negative then .beforeCalendar else .afterCalendar)
  | .finite negative m e =>
    let den := Number.shiftUp 1 (-e)
    let fraction := Number.shiftUp m e % den
    match (Binary64.ofRatio false (fraction * 1000000) den).ratio? with
    | some (n, d) => ofNumber (Binary64.floorDyadic negative m e) (Number.roundUpDiv n.natAbs d)
    | none => .error .notNumber

/-- The moment of a double that was written as text. More than can count seconds is divided by a thousand first; the fraction is
what the number is above its whole part rounded down. -/
def ofWrittenReal (x : Binary64) : Except MomentCause Moment :=
  match x.ratio? with
  | none => .error .afterCalendar
  | some (n, d) =>
    let scaled := if mostSeconds * d < n.natAbs then (Binary64.ofQuotient n (1000 * d)).ratio? else some (n, d)
    match scaled with
    | none => .error .afterCalendar
    | some (n, d) =>
      let whole := Int.fdiv n d
      let above := (Binary64.ofQuotient (n - whole * d) d).ratio?.bind fun (a, b) =>
        (Binary64.ofQuotient (a * 1000000) b).ratio?
      match above with
      | none => .error .afterCalendar
      | some (a, b) => ofNumber whole (Number.roundUpDiv a.natAbs b)

/-- A number written as text: an integer of sixty-four bits, or one of those before a point and digits behind it. -/
inductive Written where
  | whole (n : Int)
  | real (x : Binary64)
  deriving DecidableEq, Repr

/-- Reads a number that is written with an optional sign and digits. -/
def readWritten? (cs : List Char) : Option Written :=
  let (negative, body) := takeSign cs
  let whole := body.takeWhile isAsciiDigit
  let rest := body.dropWhile isAsciiDigit
  let values := fun (ds : List Char) => ds.map fun d => d.toNat - 48
  let n := digitsValue (values whole)
  if whole = [] ∨ 9223372036854775807 < n then none
  else
    match rest with
    | [] => some (.whole (if negative then -(n : Int) else n))
    | '.' :: places =>
      if places.all isAsciiDigit then
        some (.real (Binary64.ofDecimal negative (values (whole ++ places)) (-(places.length : Int))))
      else none
    | _ => none

/-! ## Dates and times -/

/-- The year, the month and the day of a date. -/
structure Date where
  year : Nat
  month : Nat
  day : Nat
  deriving DecidableEq, Repr

/-- The result of a step of a reader, or a cause when there is none. -/
def orCause {α : Type} (cause : MomentCause) : Option α → Except MomentCause α
  | some a => .ok a
  | none => .error cause

/-- Reads the date at the beginning of a text: what it is, and what follows it. The year zero is a leap year. -/
def readDate (cs : List Char) : Except MomentCause (Date × List Char) :=
  if (utf8Bytes cs).length < 10 then .error .tooShort
  else do
    let (year, cs) ← orCause .yearCharacter (takeFixed 4 cs)
    let cs ← orCause .separator (takeMark (· == '-') cs)
    let (month, cs) ← orCause .monthCharacter (takeFixed 2 cs)
    let cs ← orCause .separator (takeMark (· == '-') cs)
    let (day, cs) ← orCause .dayCharacter (takeFixed 2 cs)
    if month < 1 ∨ 12 < month then .error .month
    else if day < 1 ∨ (monthLengths year).getD (month - 1) 0 < day then .error .day
    else .ok (⟨year, month, day⟩, cs)

/-- Takes the seconds of a time of day with their fraction, in microseconds, where there are any. Of the fraction only six digits
count. -/
def takeSeconds : List Char → Option (Nat × List Char)
  | ':' :: cs => do
    let (second, cs) ← takeFixed 2 cs
    if 60 ≤ second then none
    else
      match cs with
      | c :: rest =>
        if c == '.' || c == ',' then
          let ds := rest.takeWhile isAsciiDigit
          let places := (ds.take 6).map fun d => d.toNat - 48
          if ds = [] then none
          else
            some (second * 1000000 + digitsValue places * Nat.pow 10 (6 - places.length), rest.dropWhile isAsciiDigit)
        else some (second * 1000000, cs)
      | [] => some (second * 1000000, [])
  | cs => some (0, cs)

/-- Takes a time of day, in microseconds. -/
def takeTime (cs : List Char) : Option (Nat × List Char) := do
  let (hour, cs) ← takeFixed 2 cs
  let cs ← takeMark (· == ':') cs
  let (minute, cs) ← takeFixed 2 cs
  if 24 ≤ hour ∨ 60 ≤ minute then none
  else
    let (seconds, cs) ← takeSeconds cs
    some ((hour * 60 + minute) * 60000000 + seconds, cs)

/-- Reads the hours and minutes of an offset, with or without a colon between them. -/
def readOffset (cs : List Char) : Option Nat := do
  let (hours, cs) ← takeFixed 2 cs
  let (minutes, cs) ← takeFixed 2 ((takeMark (· == ':') cs).getD cs)
  if cs = [] ∧ minutes < 60 ∧ hours < 24 then some (hours * 60 + minutes) else none

/-- Reads what follows a time of day: nothing, the letter for universal time, or an offset. The minus sign of an offset may be the
hyphen or the mathematical one. -/
def readZone : List Char → Option (Option Int)
  | [] => some none
  | c :: cs =>
    if c == 'Z' || c == 'z' then (if cs = [] then some (some 0) else none)
    else if c == '+' then (readOffset cs).map fun n => some n
    else if c == '-' || c == Char.ofNat 0x2212 then (readOffset cs).map fun n => some (-(n : Int))
    else none

/-- The moment of a date and a time of day. The calendar has no year zero. -/
def ofParts (date : Date) (time : Nat) (offset : Option Int) : Except MomentCause Moment :=
  match dayOfDate? date.year date.month date.day with
  | some day => .ok ⟨day * 86400000000 + time, offset⟩
  | none => .error .yearZero

/-- Reads a date and behind it a `T`, a blank or an underscore with a time of day; none when a text is not of this form. -/
def readDateAndTime? (cs : List Char) : Option (Except MomentCause Moment) := do
  let (date, cs) ← (readDate cs).toOption
  let cs ← takeMark (fun c => c == 'T' || c == 't' || c == ' ' || c == '_') cs
  let (time, cs) ← takeTime cs
  let offset ← readZone cs
  some (ofParts date time offset)

/-- Reads a date with nothing behind it, whose beginning is meant. -/
def ofDateText (cs : List Char) : Except MomentFault Moment :=
  match readDate cs with
  | .error cause => .error (.noTimeNorDate cause)
  | .ok (date, []) => (ofParts date 0 none).mapError .noTime
  | .ok _ => .error (.noTimeNorDate .extraCharacters)

/-- Reads a moment from a text: a date with a time of day, a number, or a date. -/
def ofText (s : String) : Except MomentFault Moment :=
  let cs := s.toList
  match readDateAndTime? cs, readWritten? cs with
  | some result, _ => result.mapError .noTime
  | none, some (.whole n) =>
    (ofNumber n 0).mapError fun cause => if cause = .yearZero then .noTime cause else .noTimeNorDate cause
  | none, some (.real x) =>
    match ofWrittenReal x with
    | .ok m => .ok m
    | .error .yearZero => .error (.noTime .yearZero)
    | .error _ => ofDateText cs
  | none, none => ofDateText cs

end Moment

end VideoShare
