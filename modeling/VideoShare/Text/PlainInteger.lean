import VideoShare.Text.Integer
import VideoShare.Text.Pieces

/-!
# Integers plainly and loosely written

The plain form of an integer is an optional minus sign and ASCII digits, the first of which is zero only when it is the only one. A
text that is not in this form is brought into it: white space around it, a plus sign, zeros and underscores at the beginning, a
fraction of zeros and single underscores are taken off. What is left has to be a plain form, so a minus sign may still stand
behind zeros.
-/

namespace VideoShare.Text

/-- Reads the plain form of an integer. Digits that are too many, together with the sign, are refused for their number, whatever
follows them. -/
def plainInteger (cs : List Char) : Except IntegerFault Int :=
  let negative := cs.head? == some '-'
  let body := if negative then cs.drop 1 else cs
  let ds := body.takeWhile isAsciiDigit
  let size := if negative then ds.length + 1 else ds.length
  if body = ['0'] then .ok 0
  else if ds.head?.all (· == '0') then .error .malformed
  else if maxIntegerDigits < size then .error (.tooManyDigits size)
  else if body.length ≠ ds.length then .error .malformed
  else
    let n : Int := digitsValue (ds.map fun d => d.toNat - 48)
    .ok (if negative then -n else n)

/-- What is left of a text behind its first zero, `last` being the character before the rest: zeros and underscores are skipped up
to a digit or a sign; before a point, and at the end, the last of them stays. -/
def skipZeros (last : Char) : List Char → Option (List Char)
  | [] => some [last]
  | c :: cs =>
    if c == '0' || c == '_' then skipZeros c cs
    else if c == '-' || isAsciiDigit c then some (c :: cs)
    else if c == '.' then some (last :: c :: cs)
    else none

/-- A text that begins with a digit or a minus sign, without zeros at its beginning. -/
def withoutZeros : List Char → Option (List Char)
  | [] => none
  | c :: cs =>
    if c == '0' then skipZeros c cs
    else if c == '-' || isAsciiDigit c then some (c :: cs)
    else none

/-- A text without the point and the zeros that follow its first point, where nothing but zeros does. -/
def withoutZeroFraction (cs : List Char) : List Char :=
  let zeros := afterFirst '.' cs
  if !zeros.isEmpty && zeros.all (· == '0') then beforeFirst '.' cs else cs

/-- A text without its underscores, where each of them stands alone between two other characters. -/
def withoutUnderscores (cs : List Char) : List Char :=
  if cs.head? == some '_' || cs.getLast? == some '_' || occursIn ['_', '_'] cs then cs else cs.filter (· != '_')

/-- The plain form of a loosely written integer; none when there can be none. -/
def plainForm? (cs : List Char) : Option (List Char) :=
  let stripped :=
    match trimBoth isSpace cs with
    | '+' :: '-' :: _ => none
    | '+' :: body => withoutZeros body
    | '-' :: body => (withoutZeros body).map ('-' :: ·)
    | body => withoutZeros body
  stripped.map fun body => withoutUnderscores (withoutZeroFraction body)

/-- Reads an integer that is plainly or loosely written. -/
def looseInteger (cs : List Char) : Except IntegerFault Int :=
  match plainInteger cs, plainForm? cs with
  | .error .malformed, some form => plainInteger form
  | result, _ => result

end VideoShare.Text
