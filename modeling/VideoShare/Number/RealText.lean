import VideoShare.Number.Binary64
import VideoShare.Text.Integer

/-!
# Real numbers written as text

The grammar of a real number: white space around it, an optional sign, and either digits with an optional fraction and an
optional exponent, or one of the words for infinity and for what is not a number, in any case. Digits may be of any script and
may have single underscores between them; one of the two sides of the point may be empty.
-/

namespace VideoShare.Number

open VideoShare.Text

/-- A group of digits that may be absent. -/
def optionalDigits (cs : List Char) : Option (List Nat) := if cs = [] then some [] else digitGroup cs

/-- Reads an exponent: nothing, or the letter, an optional sign and digits. -/
def readExponent : List Char → Option Int
  | [] => some 0
  | c :: cs =>
    if c = 'e' || c = 'E' then
      let (negative, body) := takeSign cs
      (digitGroup body).map fun ds => if negative then -(digitsValue ds : Int) else digitsValue ds
    else none

/-- Splits what follows the whole part into the fraction and the rest. -/
def takeFraction : List Char → List Char × List Char
  | '.' :: cs => (cs.takeWhile isDigitOrUnderscore, cs.dropWhile isDigitOrUnderscore)
  | cs => ([], cs)

/-- Reads an unsigned real number written with digits. -/
def readDecimal (negative : Bool) (cs : List Char) : Option Binary64 :=
  let whole := cs.takeWhile isDigitOrUnderscore
  let (fraction, rest) := takeFraction (cs.dropWhile isDigitOrUnderscore)
  if whole = [] ∧ fraction = [] then none
  else
    match optionalDigits whole, optionalDigits fraction, readExponent rest with
    | some ws, some fs, some e => some (Binary64.ofDecimal negative (ws ++ fs) (e - fs.length))
    | _, _, _ => none

/-- Reads a real number from a list of characters; none when it is not written as one. -/
def realOfList? (cs : List Char) : Option Binary64 :=
  let (negative, body) := takeSign (trimBoth isSpace cs)
  let word := String.ofList (body.map Char.toLower)
  if word = "inf" || word = "infinity" then some (.infinite negative)
  else if word = "nan" then some .nan
  else readDecimal negative body

end VideoShare.Number
