import VideoShare.Text.Pieces

/-!
# Text in bytes and in percent escapes

A path or a form field writes bytes as percent escapes. The bytes are read as UTF-8, where every longest part that cannot
continue to a character becomes one replacement character.
-/

namespace VideoShare.Text

/-- The character that stands for bytes that are no text. -/
def replacement : Char := Char.ofNat 0xFFFD

/-- The bytes of a text. -/
def utf8Bytes (cs : List Char) : List Nat := cs.flatMap fun c => (String.utf8EncodeChar c).map UInt8.toNat

/-- What the first byte of a character asks of the next ones: how many they are, the range of the first of them, and the bits the
first byte gives. -/
def leadByte? (b : Nat) : Option (Nat × Nat × Nat × Nat) :=
  if 0xC2 ≤ b && b ≤ 0xDF then some (1, 0x80, 0xBF, b - 0xC0)
  else if b == 0xE0 then some (2, 0xA0, 0xBF, 0)
  else if b == 0xED then some (2, 0x80, 0x9F, 0xD)
  else if 0xE1 ≤ b && b ≤ 0xEF then some (2, 0x80, 0xBF, b - 0xE0)
  else if b == 0xF0 then some (3, 0x90, 0xBF, 0)
  else if 0xF1 ≤ b && b ≤ 0xF3 then some (3, 0x80, 0xBF, b - 0xF0)
  else if b == 0xF4 then some (3, 0x80, 0x8F, 4)
  else none

/-- Reads bytes inside a character: `owed` bytes are to come, the next one between `low` and `high`, and `bits` are the bits so
far. With nothing owed the reader stands between characters. -/
def utf8Run (owed low high bits : Nat) : List Nat → List Char
  | [] => if owed = 0 then [] else [replacement]
  | b :: bs =>
    if owed ≠ 0 ∧ low ≤ b ∧ b ≤ high then
      let bits := 64 * bits + b % 64
      if owed = 1 then Char.ofNat bits :: utf8Run 0 0 0 0 bs else utf8Run (owed - 1) 0x80 0xBF bits bs
    else
      (if owed = 0 then [] else [replacement]) ++
        if b < 0x80 then Char.ofNat b :: utf8Run 0 0 0 0 bs
        else
          match leadByte? b with
          | some (n, lo, hi, first) => utf8Run n lo hi first bs
          | none => replacement :: utf8Run 0 0 0 0 bs

/-- The text that bytes hold. -/
def utf8Text (bs : List Nat) : List Char := utf8Run 0 0 0 0 bs

/-- The value of a hexadecimal digit. -/
def hexValue? (c : Char) : Option Nat :=
  if '0' ≤ c && c ≤ '9' then some (c.toNat - 48)
  else if 'a' ≤ c && c ≤ 'f' then some (c.toNat - 87)
  else if 'A' ≤ c && c ≤ 'F' then some (c.toNat - 55)
  else none

/-- The bytes of a text whose percent escapes stand for one byte each; a percent sign that begins no escape stands for itself. -/
def unescapeBytes : List Char → List Nat
  | [] => []
  | '%' :: a :: b :: rest =>
    match hexValue? a, hexValue? b with
    | some x, some y => (16 * x + y) :: unescapeBytes rest
    | _, _ => 0x25 :: unescapeBytes (a :: b :: rest)
  | c :: cs => utf8Bytes [c] ++ unescapeBytes cs

/-- A text with its percent escapes read. -/
def percentDecode (s : String) : String := String.ofList (utf8Text (unescapeBytes s.toList))

end VideoShare.Text
