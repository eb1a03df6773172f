import VideoShare.Text.Pieces
import VideoShare.Text.Visible

/-!
# Quoted texts

A message that shows a text it refuses puts it between quotes. Single quotes are used unless the text holds a single quote and
no double quote; the quote in use and the backslash are escaped, and a character without a visible form is written as a
numeric escape.
-/

namespace VideoShare.Text

/-- The digits of a number in base sixteen, in lower case, filled with zeros to a width. -/
def hexDigits (width n : Nat) : List Char :=
  let ds := Nat.toDigits 16 n
  List.replicate (width - ds.length) '0' ++ ds

/-- The single quote. -/
def singleQuote : Char := Char.ofNat 0x27

/-- The double quote. -/
def doubleQuote : Char := Char.ofNat 0x22

/-- The backslash. -/
def backslash : Char := Char.ofNat 0x5C

/-- A character as it stands between the given quotes. -/
def quotedChar (quote c : Char) : List Char :=
  if c = quote || c = backslash then [backslash, c]
  else if c = '\n' then [backslash, 'n']
  else if c = '\r' then [backslash, 'r']
  else if c = '\t' then [backslash, 't']
  else if isVisible c then [c]
  else if c.toNat < 0x100 then backslash :: 'x' :: hexDigits 2 c.toNat
  else if c.toNat < 0x10000 then backslash :: 'u' :: hexDigits 4 c.toNat
  else backslash :: 'U' :: hexDigits 8 c.toNat

/-- A text between quotes. -/
def quoted (s : String) : String :=
  let cs := s.toList
  let quote := if cs.contains singleQuote && !cs.contains doubleQuote then doubleQuote else singleQuote
  String.ofList (quote :: cs.flatMap (quotedChar quote) ++ [quote])

end VideoShare.Text
