/-!
# Pieces of a text

Cutting a text at a separator and asking whether one text begins, ends or occurs in another. Everything is stated on the list of
characters, so a text of any script is cut between characters and never inside one.
-/

namespace VideoShare.Text

/-- The pieces between the occurrences of a separator; there is one more piece than there are separators. -/
def splitAt (d : Char) : List Char → List (List Char)
  | [] => [[]]
  | c :: cs =>
    if c = d then [] :: splitAt d cs
    else
      match splitAt d cs with
      | [] => [[c]]
      | piece :: rest => (c :: piece) :: rest

/-- The pieces of a text between the occurrences of a separator. -/
def split (d : Char) (s : String) : List String := (splitAt d s.toList).map String.ofList

/-- What stands before the first occurrence of a separator, the whole text when there is none. -/
def beforeFirst (d : Char) (cs : List Char) : List Char := cs.takeWhile (· != d)

/-- What stands after the first occurrence of a separator, nothing when there is none. -/
def afterFirst (d : Char) (cs : List Char) : List Char := (cs.dropWhile (· != d)).drop 1

/-- Whether a list of characters occurs in another without a gap. -/
def occursIn (part : List Char) : List Char → Bool
  | [] => part.isEmpty
  | c :: cs => part.isPrefixOf (c :: cs) || occursIn part cs

/-- Whether a text occurs in another. -/
def contains (whole part : String) : Bool := occursIn part.toList whole.toList

/-- Whether a text begins with another. -/
def startsWith (whole part : String) : Bool := part.toList.isPrefixOf whole.toList

/-- Whether a text ends with another. -/
def endsWith (whole part : String) : Bool := part.toList.isSuffixOf whole.toList

/-- A text without the occurrences of a character at its end. -/
def trimEnd (d : Char) (s : String) : String := String.ofList (s.toList.reverse.dropWhile (· == d)).reverse

/-- A text without the occurrences of a character at its beginning. -/
def trimStart (d : Char) (s : String) : String := String.ofList (s.toList.dropWhile (· == d))

/-- The first characters of a text. -/
def takeChars (n : Nat) (s : String) : String := String.ofList (s.toList.take n)

/-- The part of a text up to and with the last occurrence of a character; none when it does not occur. -/
def throughLast? (d : Char) (s : String) : Option String :=
  if s.toList.contains d then some (String.ofList (s.toList.reverse.dropWhile (· != d)).reverse) else none

end VideoShare.Text
