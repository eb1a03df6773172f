import VideoShare.Text.Blank
import VideoShare.Text.Case
import VideoShare.Text.Quoted

/-!
# Values of headers with options

Some headers have a value and options behind it, a name with a text each. The text of an option may stand in quotes, where a semicolon
is one of its characters and a backslash stands before a character that would otherwise not be. Names are written in any case.
-/

namespace VideoShare.Http

open Text

/-- The value of a header and its options. -/
structure HeaderValue where
  value : String
  options : List (String × List Char)
  deriving DecidableEq, Repr

namespace HeaderValue

/-- A blank between the parts of a header. -/
def isGap (c : Char) : Bool := c == ' ' || c == '\t'

/-- A text between the parts of a header without the blanks around it. -/
def trimGap (cs : List Char) : List Char := trimBoth isGap cs

/-- The pieces of a text between its semicolons, those between quotes aside. `quoted` says whether the text begins between quotes,
and `escaped` whether its first character is protected by a backslash. -/
def pieces (quoted escaped : Bool) : List Char → List (List Char)
  | [] => [[]]
  | c :: cs =>
    if c = ';' ∧ !quoted then [] :: pieces false false cs
    else
      let isEscape := quoted && !escaped && c == backslash
      let isMark := !escaped && c == doubleQuote
      match pieces (quoted != isMark) isEscape cs with
      | [] => [[c]]
      | piece :: rest => (c :: piece) :: rest

/-- A text up to the quote that ends it, without the backslashes that protect its characters. -/
def unquoted (escaped : Bool) : List Char → List Char
  | [] => []
  | c :: cs =>
    if escaped then c :: unquoted false cs
    else if c = doubleQuote then []
    else if c = backslash ∧ cs ≠ [] then unquoted true cs
    else c :: unquoted false cs

/-- Reads an option; a piece without an equals sign is none. -/
def readOption? (piece : List Char) : Option (String × List Char) :=
  if piece.contains '=' then
    let text := trimGap (afterFirst '=' piece)
    some (lower (String.ofList (trimGap (beforeFirst '=' piece))),
      if text.head? = some doubleQuote then unquoted false (text.drop 1) else text)
  else none

/-- Reads the value of a header. -/
def ofText (s : String) : HeaderValue :=
  let cs := s.toList
  { value := lower (String.ofList (trimGap (beforeFirst ';' cs)))
    options := (pieces false false (afterFirst ';' cs)).filterMap readOption? }

/-- The text of an option; where one is written twice the last one counts. -/
def option? (h : HeaderValue) (name : String) : Option (List Char) :=
  (h.options.reverse.find? fun o => o.1 == name).map (·.2)

end HeaderValue

end VideoShare.Http
