import VideoShare.Text.Case
import VideoShare.Text.Encoded

/-!
# Encodings

The encodings of texts in bytes: UTF-8, units of two or four bytes with the greater byte first or last, and single bytes. Units of
two bytes hold a code point or half of a surrogate pair; a half without the other one is a code point by itself, which a reader may
refuse. Bytes that do not fill their last unit, and units beyond the last code point, are no text. A single byte is the code point
of its number, but for the bytes to which an encoding gives another code point or none.
-/

namespace VideoShare.Text

/-- An encoding. -/
inductive Encoding where
  | utf8
  /-- UTF-8 behind the mark of its byte order, which may be missing. -/
  | markedUtf8
  | utf16 (greaterFirst : Bool)
  | utf32 (greaterFirst : Bool)
  /-- Single bytes, with those that are not the code point of their number. -/
  | bytes (others : List (Nat × Option Nat))
  deriving DecidableEq, Repr

/-- Bytes without the mark of their order. -/
def withoutMark : List Nat → List Nat
  | 0xEF :: 0xBB :: 0xBF :: rest => rest
  | bytes => bytes

/-- Western European bytes with typographic signs in the place of the second range of control characters. -/
def windowsWestern : Encoding := .bytes
  [(0x80, some 0x20AC), (0x81, none), (0x82, some 0x201A), (0x83, some 0x192), (0x84, some 0x201E), (0x85, some 0x2026),
    (0x86, some 0x2020), (0x87, some 0x2021), (0x88, some 0x2C6), (0x89, some 0x2030), (0x8A, some 0x160),
    (0x8B, some 0x2039), (0x8C, some 0x152), (0x8D, none), (0x8E, some 0x17D), (0x8F, none), (0x90, none),
    (0x91, some 0x2018), (0x92, some 0x2019), (0x93, some 0x201C), (0x94, some 0x201D), (0x95, some 0x2022),
    (0x96, some 0x2013), (0x97, some 0x2014), (0x98, some 0x2DC), (0x99, some 0x2122), (0x9A, some 0x161),
    (0x9B, some 0x203A), (0x9C, some 0x153), (0x9D, none), (0x9E, some 0x17E), (0x9F, some 0x178)]

/-- Western European bytes with the euro sign and seven letters in the place of rarer signs. -/
def latinNine : Encoding := .bytes
  [(0xA4, some 0x20AC), (0xA6, some 0x160), (0xA8, some 0x161), (0xB4, some 0x17D), (0xB8, some 0x17E), (0xBC, some 0x152),
    (0xBD, some 0x153), (0xBE, some 0x178)]

/-- The number that bytes denote, the greater byte first or last. -/
def unitValue (greaterFirst : Bool) (bytes : List Nat) : Nat :=
  (if greaterFirst then bytes else bytes.reverse).foldl (fun n b => 256 * n + b) 0

/-- The units of two bytes; none when the bytes do not fill the last one. -/
def pairUnits? (greaterFirst : Bool) : List Nat → Option (List Nat)
  | [] => some []
  | a :: b :: rest => (pairUnits? greaterFirst rest).map (unitValue greaterFirst [a, b] :: ·)
  | _ => none

/-- The units of four bytes; none when the bytes do not fill the last one. -/
def quadUnits? (greaterFirst : Bool) : List Nat → Option (List Nat)
  | [] => some []
  | a :: b :: c :: d :: rest => (quadUnits? greaterFirst rest).map (unitValue greaterFirst [a, b, c, d] :: ·)
  | _ => none

/-- The code point of a high and a low half of a surrogate pair. -/
def joinSurrogates (high low : Nat) : Nat := 0x10000 + (high - 0xD800) * 0x400 + (low - 0xDC00)

/-- The code points of units of two bytes: a high half followed by a low one is one code point. -/
def joinUnits : List Nat → List Nat
  | [] => []
  | [n] => [n]
  | n :: m :: rest =>
    if 0xD800 ≤ n && n ≤ 0xDBFF && 0xDC00 ≤ m && m ≤ 0xDFFF then
      joinSurrogates n m :: joinUnits rest
    else n :: joinUnits (m :: rest)

namespace Encoding

/-- The code points of bytes. -/
def points? (e : Encoding) (bytes : List Nat) : Option (List Nat) :=
  match e with
  | .utf8 => some ((utf8Text bytes).map Char.toNat)
  | .markedUtf8 => some ((utf8Text (withoutMark bytes)).map Char.toNat)
  | .utf16 greaterFirst => (pairUnits? greaterFirst bytes).map joinUnits
  | .utf32 greaterFirst => (quadUnits? greaterFirst bytes).filter fun ns => ns.all (· < 0x110000)
  | .bytes others => bytes.mapM fun b => (others.lookup b).getD (some b)

/-- The characters of bytes; none when a code point is no character. -/
def chars? (e : Encoding) (bytes : List Nat) : Option (List Char) :=
  (e.points? bytes).bind fun ns => ns.mapM fun n => if h : n.isValidChar then some (Char.ofNatAux n h) else none

/-! ## Names -/

/-- A name of an encoding in the form that is looked up: in lower case, with one underscore for every run of other characters than
letters, digits and points. -/
def plainName (name : List Char) : List Char :=
  match name with
  | [] => []
  | c :: cs =>
    let rest := plainName cs
    if c.isAlphanum || c == '.' then lowerChar c ++ rest
    else if rest.head? == some '_' then rest
    else '_' :: rest

/-- The encodings by their names. -/
def names : List (String × Encoding) :=
  [("utf_8", .utf8), ("utf8", .utf8), ("u8", .utf8), ("utf", .utf8), ("utf8_ucs2", .utf8), ("utf8_ucs4", .utf8),
    ("cp65001", .utf8), ("utf_8_sig", .markedUtf8), ("utf_16", .utf16 false), ("utf16", .utf16 false), ("u16", .utf16 false),
    ("utf_16_le", .utf16 false), ("utf_16le", .utf16 false), ("unicodelittleunmarked", .utf16 false),
    ("utf_16_be", .utf16 true), ("utf_16be", .utf16 true), ("unicodebigunmarked", .utf16 true),
    ("utf_32", .utf32 false), ("utf32", .utf32 false), ("u32", .utf32 false), ("utf_32_le", .utf32 false),
    ("utf_32le", .utf32 false), ("utf_32_be", .utf32 true), ("utf_32be", .utf32 true),
    ("cp1252", windowsWestern), ("windows_1252", windowsWestern), ("1252", windowsWestern), ("iso8859_15", latinNine),
    ("iso_8859_15", latinNine), ("latin9", latinNine), ("l9", latinNine)]

/-- The encoding with a name. -/
def ofName? (name : String) : Option Encoding := names.lookup (String.ofList (plainName name.toList))

end Encoding

/-- The text of bytes in the encoding with a name. Where there is no such encoding, or the bytes are no text in it, every byte is
the character of its number. -/
def textOfBytes (encoding : String) (bytes : List Nat) : String :=
  String.ofList (((Encoding.ofName? encoding).bind fun e => e.chars? bytes).getD (bytes.map Char.ofNat))

end VideoShare.Text
