import VideoShare.Json
import VideoShare.Text.Quoted

/-!
# Writing JSON text

Text is written in ASCII: every character outside the visible ASCII range is an escape of four hexadecimal digits, or two of
them, a surrogate pair, beyond the first plane. A double is written with its exact decimal digits.
-/

namespace VideoShare.Json

open VideoShare.Number VideoShare.Text

/-- The escape of one unit of sixteen bits. -/
def unitEscape (n : Nat) : List Char := backslash :: 'u' :: hexDigits 4 n

/-- A character as it stands in a string. -/
def escapedChar (c : Char) : List Char :=
  if c = doubleQuote || c = backslash then [backslash, c]
  else if c = '\n' then [backslash, 'n']
  else if c = '\r' then [backslash, 'r']
  else if c = '\t' then [backslash, 't']
  else if c = Char.ofNat 8 then [backslash, 'b']
  else if c = Char.ofNat 12 then [backslash, 'f']
  else if 0x20 ≤ c.toNat && c.toNat ≤ 0x7E then [c]
  else if c.toNat < 0x10000 then unitEscape c.toNat
  else
    let n := c.toNat - 0x10000
    unitEscape (0xD800 + n / 0x400) ++ unitEscape (0xDC00 + n % 0x400)

/-- A string with its quotes. -/
def quotedText (s : String) : String :=
  String.ofList (doubleQuote :: s.toList.flatMap escapedChar ++ [doubleQuote])

/-- A code point as it stands in a string; half of a surrogate pair is the escape of its unit. -/
def escapedPoint (n : Nat) : List Char :=
  if 0xD800 ≤ n && n ≤ 0xDFFF then unitEscape n else escapedChar (Char.ofNat n)

/-- A string of code points with its quotes. -/
def quotedPoints (points : List Nat) : String :=
  String.ofList (doubleQuote :: points.flatMap escapedPoint ++ [doubleQuote])

/-- A double with its exact digits, or one of the words for the numbers that are not finite. -/
def realText : Binary64 → String
  | .nan => "NaN"
  | .infinite negative => if negative then "-Infinity" else "Infinity"
  | .finite negative m e =>
    let (digits, places) := Binary64.toDecimal m e
    let zeros := ((toString digits).toList.reverse.takeWhile (· == '0')).length
    let cut := min zeros places
    (if negative then "-" else "") ++ toString (digits / Nat.pow 10 cut) ++
      (if places = cut then ".0" else "e-" ++ toString (places - cut))

mutual

/-- A value as text, with a separator after each item and one after each name. -/
def render (comma colon : String) : Json → String
  | .null => "null"
  | .bool b => if b then "true" else "false"
  | .int n => toString n
  | .real x => realText x
  | .str s => quotedText s
  | .broken points => quotedPoints points
  | .arr items => "[" ++ renderItems comma colon items ++ "]"
  | .obj fields => "\x7b" ++ renderFields comma colon fields ++ "\x7d"

/-- The items of an array. -/
def renderItems (comma colon : String) : List Json → String
  | [] => ""
  | [item] => render comma colon item
  | item :: rest => render comma colon item ++ comma ++ renderItems comma colon rest

/-- The fields of an object. -/
def renderFields (comma colon : String) : List (String × Json) → String
  | [] => ""
  | [(name, value)] => quotedText name ++ colon ++ render comma colon value
  | (name, value) :: rest =>
    quotedText name ++ colon ++ render comma colon value ++ comma ++ renderFields comma colon rest

end

/-- A value as text without blanks. -/
def compact (v : Json) : String := render "," ":" v

/-- A value as text with a blank after each comma and colon. -/
def spaced (v : Json) : String := render ", " ": " v

end VideoShare.Json
