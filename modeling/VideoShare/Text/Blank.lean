/-!
# Blank characters and trimming

Two classes of blank characters are in use. Names, tags and replies are trimmed of every blank character; around a number only
white space is skipped, which leaves the four information separators of ASCII out.
-/

namespace VideoShare.Text

/-- White space: the characters that may surround a number. -/
def isSpace (c : Char) : Bool :=
  let n := c.toNat
  (0x09 ≤ n && n ≤ 0x0D) || n == 0x20 || n == 0x85 || n == 0xA0 || n == 0x1680 || (0x2000 ≤ n && n ≤ 0x200A) ||
    n == 0x2028 || n == 0x2029 || n == 0x202F || n == 0x205F || n == 0x3000

/-- The four information separators of ASCII. -/
def isInformationSeparator (c : Char) : Bool := 0x1C ≤ c.toNat && c.toNat ≤ 0x1F

/-- A blank character: white space or an information separator. -/
def isBlank (c : Char) : Bool := isSpace c || isInformationSeparator c

/-- A list of characters without those of a class at its two ends. -/
def trimBoth (p : Char → Bool) (cs : List Char) : List Char :=
  ((cs.dropWhile p).reverse.dropWhile p).reverse

/-- A text without the blank characters at its two ends. -/
def trim (s : String) : String := String.ofList (trimBoth isBlank s.toList)

/-- Whether a text holds blank characters only. -/
def allBlank (s : String) : Bool := s.toList.all isBlank

end VideoShare.Text
