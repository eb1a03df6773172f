import VideoShare.Text.Blank
import VideoShare.Text.Digit

/-!
# Integers written as text

The grammar of a base-ten integer: white space around it, an optional sign, and decimal digits of any script with single
underscores between them. A number of more than 4300 digits is refused for its length, whatever follows its digits.
-/

namespace VideoShare.Text

/-- Why a text is no integer. -/
inductive IntegerFault where
  | malformed
  | tooManyDigits (count : Nat)
  deriving DecidableEq, Repr

/-- The number of digits that an integer may have. -/
def maxIntegerDigits : Nat := 4300

/-- The values of decimal digits with single underscores between them; none for anything else, the empty list included. -/
def digitGroup : List Char → Option (List Nat)
  | [] => none
  | [c] => (digitValue? c).map fun d => [d]
  | c :: '_' :: cs =>
    match digitValue? c, digitGroup cs with
    | some d, some ds => some (d :: ds)
    | _, _ => none
  | c :: cs =>
    match digitValue? c, digitGroup cs with
    | some d, some ds => some (d :: ds)
    | _, _ => none

/-- The number that a list of decimal digits denotes. -/
def digitsValue (ds : List Nat) : Nat := ds.foldl (fun n d => 10 * n + d) 0

/-- Takes an optional sign off: whether it was a minus, and the rest. -/
def takeSign : List Char → Bool × List Char
  | '-' :: cs => (true, cs)
  | '+' :: cs => (false, cs)
  | cs => (false, cs)

/-- A digit or an underscore: what a run of digits is made of. -/
def isDigitOrUnderscore (c : Char) : Bool := c = '_' || (digitValue? c).isSome

/-- Reads an integer from a list of characters. -/
def integerOfList (cs : List Char) : Except IntegerFault Int :=
  let (negative, body) := takeSign (trimBoth isSpace cs)
  match digitGroup (body.takeWhile isDigitOrUnderscore) with
  | none => .error .malformed
  | some ds =>
    if maxIntegerDigits < ds.length then .error (.tooManyDigits ds.length)
    else if body.dropWhile isDigitOrUnderscore ≠ [] then .error .malformed
    else .ok (if negative then -(digitsValue ds : Int) else digitsValue ds)

/-- Reads an integer from a text. -/
def integerOf (s : String) : Except IntegerFault Int := integerOfList s.toList

end VideoShare.Text
