import VideoShare.Json
import VideoShare.Text.Encoding
import VideoShare.Text.Integer

/-!
# Reading JSON text

The reader accepts the standard grammar and the three words for numbers that are not finite. It works on code points, because a text
may hold half of a surrogate pair and a string may escape one. A text that is refused is refused at a position: the number of code
points before the place where the reader could not go on. Every step hands back the rest of the text, so a position is the
length of the whole less the length of the rest. A step takes at least one code point or comes right after one that does, so
twice the length of the text is enough fuel. Arrays and objects may be nested as deep as the caller of the reader allows.
-/

namespace VideoShare.Json

open VideoShare.Number VideoShare.Text

/-- What is wrong at the place where a text is malformed. -/
inductive Malformation where
  | noValue
  | noName
  | noColon
  | noComma
  | openString
  | controlCharacter
  | unknownEscape
  | brokenCode
  | extraText
  deriving DecidableEq, Repr

/-- What is said of a malformed text. -/
def Malformation.message : Malformation → String
  | .noValue => "Expecting value"
  | .noName => "Expecting property name enclosed in double quotes"
  | .noColon => "Expecting ':' delimiter"
  | .noComma => "Expecting ',' delimiter"
  | .openString => "Unterminated string starting at"
  | .controlCharacter => "Invalid control character at"
  | .unknownEscape => "Invalid \\escape"
  | .brokenCode => "Invalid \\uXXXX escape"
  | .extraText => "Extra data"

/-- Why a text is no JSON text: it is malformed where the given text remains, it holds an integer with more digits than an integer
may have, or it is nested too deep. -/
inductive ReadFault where
  | malformed (cause : Malformation) (rest : List Nat)
  | tooManyDigits
  | tooDeep
  deriving DecidableEq, Repr

/-- What a step of the reader gives: a result with the rest of the text, or a fault. -/
abbrev Step (α : Type) : Type := Except ReadFault (α × List Nat)

/-! ## Code points -/

/-- Whether a code point is that of a character. -/
def isPoint (c : Char) (n : Nat) : Bool := n == c.toNat

/-- The quote around a string. -/
def isQuote (n : Nat) : Bool := n == 0x22

/-- The backslash of an escape. -/
def isEscape (n : Nat) : Bool := n == 0x5C

/-- The brace that opens an object. -/
def opensObject (n : Nat) : Bool := n == 0x7B

/-- The brace that closes an object. -/
def closesObject (n : Nat) : Bool := n == 0x7D

/-- The blank characters of JSON. -/
def isJsonBlank (n : Nat) : Bool := isPoint ' ' n || isPoint '\t' n || isPoint '\n' n || isPoint '\r' n

/-- A text without the blanks at its beginning. -/
def skipBlanks (ps : List Nat) : List Nat := ps.dropWhile isJsonBlank

/-- An ASCII digit. -/
def isDigitPoint (n : Nat) : Bool := 0x30 ≤ n && n ≤ 0x39

/-- Whether a code point is half of a surrogate pair. -/
def isHalf (n : Nat) : Bool := 0xD800 ≤ n && n ≤ 0xDFFF

/-- The code points of a text. -/
def pointsOf (s : String) : List Nat := s.toList.map Char.toNat

/-- The text of code points, with the replacement character for each half of a surrogate pair. -/
def textOf (points : List Nat) : String :=
  String.ofList (points.map fun n => if isHalf n then replacement else Char.ofNat n)

/-- The value of a string. -/
def stringOf (points : List Nat) : Json := if points.any isHalf then .broken points else .str (textOf points)

/-- A field of an object. A broken name is the name of nothing that is looked for, and what stands under it is broken with it. -/
def fieldOf (name : List Nat) (v : Json) : String × Json :=
  (textOf name, if name.any isHalf then .broken name else v)

/-! ## Strings -/

/-- The value of four hexadecimal digits. -/
def hexQuad? (ps : List Nat) : Option Nat :=
  match ps.map fun n => if n < 0x80 then hexValue? (Char.ofNat n) else none with
  | [some a, some b, some c, some d] => some (((16 * a + b) * 16 + c) * 16 + d)
  | _ => none

/-- The code point that a one-letter escape stands for. -/
def simpleEscape? (n : Nat) : Option Nat :=
  if isQuote n || isEscape n || isPoint '/' n then some n
  else if isPoint 'b' n then some 8
  else if isPoint 'f' n then some 12
  else if isPoint 'n' n then some 10
  else if isPoint 'r' n then some 13
  else if isPoint 't' n then some 9
  else none

/-- The low half of a surrogate pair when one is escaped next: its code and what follows it. A malformed escape is a fault. -/
def lowSurrogate? : List Nat → Except ReadFault (Option (Nat × List Nat))
  | a :: b :: rest =>
    if isEscape a && isPoint 'u' b && rest.drop 4 != [] then
      match hexQuad? (rest.take 4) with
      | none => .error (.malformed .brokenCode (b :: rest))
      | some n => .ok (if 0xDC00 ≤ n && n ≤ 0xDFFF then some (n, rest.drop 4) else none)
    else .ok none
  | _ => .ok none

/-- Reads the code points of a string up to the closing quote. `opening` is the text from the opening quote on, the place of a
string that is not closed. `fuel` bounds the number of code points. -/
def readString (opening : List Nat) : Nat → List Nat → List Nat → Step (List Nat)
  | 0, _, _ => .error (.malformed .openString opening)
  | _ + 1, _, [] => .error (.malformed .openString opening)
  | fuel + 1, acc, c :: ps =>
    if isQuote c then .ok (acc.reverse, ps)
    else if c ≤ 0x1F then .error (.malformed .controlCharacter (c :: ps))
    else if isEscape c then
      match ps with
      | [] => .error (.malformed .openString opening)
      | e :: rest =>
        if isPoint 'u' e then
          if rest.drop 4 = [] then .error (.malformed .brokenCode (e :: rest))
          else
            match hexQuad? (rest.take 4) with
            | none => .error (.malformed .brokenCode (e :: rest))
            | some n =>
              if 0xD800 ≤ n && n ≤ 0xDBFF then
                match lowSurrogate? (rest.drop 4) with
                | .error f => .error f
                | .ok (some (low, after)) => readString opening fuel (joinSurrogates n low :: acc) after
                | .ok none => readString opening fuel (n :: acc) (rest.drop 4)
              else readString opening fuel (n :: acc) (rest.drop 4)
        else
          match simpleEscape? e with
          | some x => readString opening fuel (x :: acc) rest
          | none => .error (.malformed .unknownEscape (c :: e :: rest))
    else readString opening fuel (c :: acc) ps

/-! ## Numbers and words -/

/-- The digits of a whole part: one zero, or a run that does not begin with zero. -/
def takeWhole : List Nat → Option (List Nat × List Nat)
  | [] => none
  | c :: ps =>
    if isPoint '0' c then some ([c], ps)
    else if isDigitPoint c then some (c :: ps.takeWhile isDigitPoint, ps.dropWhile isDigitPoint)
    else none

/-- The digits of a fraction when one follows. -/
def takeDecimals : List Nat → Option (List Nat × List Nat)
  | point :: c :: ps =>
    if isPoint '.' point && isDigitPoint c then some (c :: ps.takeWhile isDigitPoint, ps.dropWhile isDigitPoint) else none
  | _ => none

/-- The values of ASCII digits. -/
def digitValues (ps : List Nat) : List Nat := ps.map (· - 0x30)

/-- The exponent when one follows. -/
def takeExponent : List Nat → Option (Int × List Nat)
  | c :: ps =>
    if isPoint 'e' c || isPoint 'E' c then
      let negative := ps.head?.any (isPoint '-')
      let body := if ps.head?.any fun n => isPoint '-' n || isPoint '+' n then ps.drop 1 else ps
      let ds := body.takeWhile isDigitPoint
      if ds = [] then none
      else
        let n : Int := digitsValue (digitValues ds)
        some (if negative then -n else n, body.dropWhile isDigitPoint)
    else none
  | [] => none

/-- Reads a number. -/
def readNumber (ps : List Nat) : Step Json :=
  let negative := ps.head?.any (isPoint '-')
  match takeWhole (if negative then ps.drop 1 else ps) with
  | none => .error (.malformed .noValue ps)
  | some (whole, rest) =>
    match takeDecimals rest, takeExponent ((takeDecimals rest).elim rest (·.2)) with
    | none, none =>
      if maxIntegerDigits < whole.length then .error .tooManyDigits
      else
        let n : Int := digitsValue (digitValues whole)
        .ok (.int (if negative then -n else n), rest)
    | fraction, exponent =>
      let decimals := fraction.elim [] (·.1)
      let rest := fraction.elim rest (·.2)
      .ok (.real (Binary64.ofDecimal negative (digitValues (whole ++ decimals)) (exponent.elim 0 (·.1) - decimals.length)),
        exponent.elim rest (·.2))

/-- Takes a word off. -/
def takeWord? (word : String) (ps : List Nat) : Option (List Nat) :=
  if (pointsOf word).isPrefixOf ps then some (ps.drop word.length) else none

/-- The values that are written as words. -/
def words : List (String × Json) :=
  [("null", .null), ("true", .bool true), ("false", .bool false), ("NaN", .real .nan),
    ("Infinity", .real (.infinite false)), ("-Infinity", .real (.infinite true))]

/-- Reads a value that is neither a string, an array nor an object. -/
def readScalar (ps : List Nat) : Step Json :=
  match words.findSome? fun w => (takeWord? w.1 ps).map fun rest => (w.2, rest) with
  | some result => .ok result
  | none => readNumber ps

/-! ## Values -/

mutual

/-- Reads one value, with `fuel` bounding the number of steps and `depth` the arrays and objects that may be open at a time. -/
def readValue : Nat → Nat → List Nat → Step Json
  | 0, _, ps => .error (.malformed .noValue ps)
  | fuel + 1, depth, ps =>
    match ps with
    | [] => .error (.malformed .noValue [])
    | c :: rest =>
      if isQuote c then
        match readString ps fuel [] rest with
        | .error f => .error f
        | .ok (s, rest) => .ok (stringOf s, rest)
      else if opensObject c then
        match depth, skipBlanks rest with
        | 0, _ => .error .tooDeep
        | _, [] => .error (.malformed .noName [])
        | depth + 1, d :: after =>
          if closesObject d then .ok (.obj [], after)
          else
            match readFields fuel depth (d :: after) with
            | .error f => .error f
            | .ok (fields, rest) => .ok (.obj fields, rest)
      else if isPoint '[' c then
        match depth, skipBlanks rest with
        | 0, _ => .error .tooDeep
        | depth + 1, after =>
          if after.head?.any (isPoint ']') then .ok (.arr [], after.drop 1)
          else
            match readItems fuel depth after with
            | .error f => .error f
            | .ok (items, rest) => .ok (.arr items, rest)
      else readScalar ps

/-- Reads the items of an array up to its closing bracket. -/
def readItems : Nat → Nat → List Nat → Step (List Json)
  | 0, _, ps => .error (.malformed .noValue ps)
  | fuel + 1, depth, ps =>
    match readValue fuel depth ps with
    | .error f => .error f
    | .ok (item, rest) =>
      match skipBlanks rest with
      | [] => .error (.malformed .noComma [])
      | d :: after =>
        if isPoint ']' d then .ok ([item], after)
        else if isPoint ',' d then
          match readItems fuel depth (skipBlanks after) with
          | .error f => .error f
          | .ok (items, rest) => .ok (item :: items, rest)
        else .error (.malformed .noComma (d :: after))

/-- Reads the fields of an object up to its closing brace. -/
def readFields : Nat → Nat → List Nat → Step (List (String × Json))
  | 0, _, ps => .error (.malformed .noName ps)
  | fuel + 1, depth, ps =>
    match ps with
    | [] => .error (.malformed .noName [])
    | c :: rest =>
      if !isQuote c then .error (.malformed .noName ps)
      else
        match readString ps fuel [] rest with
        | .error f => .error f
        | .ok (name, rest) =>
          match skipBlanks rest with
          | [] => .error (.malformed .noColon [])
          | colon :: after =>
            if !isPoint ':' colon then .error (.malformed .noColon (colon :: after))
            else
              match readValue fuel depth (skipBlanks after) with
              | .error f => .error f
              | .ok (value, rest) =>
                match skipBlanks rest with
                | [] => .error (.malformed .noComma [])
                | d :: after =>
                  if closesObject d then .ok ([fieldOf name value], after)
                  else if isPoint ',' d then
                    match readFields fuel depth (skipBlanks after) with
                    | .error f => .error f
                    | .ok (fields, rest) => .ok (fieldOf name value :: fields, rest)
                  else .error (.malformed .noComma (d :: after))

end

/-! ## Texts -/

/-- Why a whole text is refused: malformed after the given number of code points, an integer too long, nested too deep, or bytes that
are no text. -/
inductive Fault where
  | malformed (cause : Malformation) (position : Nat)
  | tooManyDigits
  | tooDeep
  | undecodable
  deriving DecidableEq, Repr

/-- Where a position is in a text: its line, and its place in the line, both counted from one. -/
def lineAndColumn (text : String) (position : Nat) : Nat × Nat :=
  let before := text.toList.take position
  (before.count '\n' + 1, (before.reverse.takeWhile (· != '\n')).length + 1)

/-- What is said of a text that is malformed at a position. -/
def malformedMessage (text : String) (cause : Malformation) (position : Nat) : String :=
  let (line, column) := lineAndColumn text position
  s!"{cause.message}: line {line} column {column} (char {position})"

/-- Reads code points that hold one value and blanks around it, with arrays and objects nested at most to a depth. -/
def ofPoints (depth : Nat) (ps : List Nat) : Except Fault Json :=
  let fault : ReadFault → Fault := fun f =>
    match f with
    | .malformed cause rest => .malformed cause (ps.length - rest.length)
    | .tooManyDigits => .tooManyDigits
    | .tooDeep => .tooDeep
  match readValue (2 * ps.length + 2) depth (skipBlanks ps) with
  | .error f => .error (fault f)
  | .ok (value, rest) =>
    match skipBlanks rest with
    | [] => .ok value
    | after => .error (fault (.malformed .extraText after))

/-- Reads a text that holds one value and blanks around it. -/
def ofText (s : String) : Except Fault Json := ofPoints s.length (pointsOf s)

end VideoShare.Json
