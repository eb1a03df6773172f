import VideoShare.Text.Encoded
import VideoShare.Text.Quoted

/-!
# Pairs written as text

The query of a request and the body of a plain form hold pairs of a name and a value. Blanks are written as plus signs and
everything but letters, digits and four marks as percent escapes. Both are cut at ampersands, and a name without a value is a name
with an empty one.
-/

namespace VideoShare.Http

open Text

/-- Whether a character is written as it is. -/
def isPlain (c : Char) : Bool := c.isAlphanum || c == '_' || c == '.' || c == '-' || c == '~'

/-- The percent escape of a byte. -/
def byteEscape (b : Nat) : List Char := '%' :: (hexDigits 2 b).map Char.toUpper

/-- A character as it is written in a pair. -/
def pairChar (c : Char) : List Char :=
  if isPlain c then [c]
  else if c = ' ' then ['+']
  else (utf8Bytes [c]).flatMap byteEscape

/-- A text as it is written in a pair. -/
def pairText (s : String) : String := String.ofList (s.toList.flatMap pairChar)

/-- Pairs as text. -/
def writePairs (pairs : List (String × String)) : String :=
  "&".intercalate (pairs.map fun p => pairText p.1 ++ "=" ++ pairText p.2)

/-- Reads a text of a pair. -/
def readPairText (cs : List Char) : String :=
  percentDecode (String.ofList (cs.map fun c => if c = '+' then ' ' else c))

/-- The pair of a piece of text; a piece without an equals sign has an empty value. -/
def readPair (cs : List Char) : String × String := (readPairText (beforeFirst '=' cs), readPairText (afterFirst '=' cs))

/-- Reads the pairs of a query. -/
def readQuery (query : String) : List (String × String) :=
  ((splitAt '&' query.toList).filter (! ·.isEmpty)).map readPair

/-! ## The body of a form -/

/-- Reads the pairs of a body, whose bytes stand for one character each. -/
def readBody (body : String) : List (String × String) := readQuery (String.ofList ((utf8Bytes body.toList).map Char.ofNat))

end VideoShare.Http
