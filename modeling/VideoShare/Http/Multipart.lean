import VideoShare.Http.FormField
import VideoShare.Http.FormText
import VideoShare.Http.HeaderValue
import VideoShare.MediaType
import VideoShare.Text.Encoding

/-!
# Forms in parts

A form with files is written part by part. A line with the boundary stands before every part and one with two hyphens more behind the
last one; a part is headers, an empty line, and its data up to the line end before the next boundary. The disposition among the
headers names the field, and a part is a file when its disposition says a file's name, be it empty. What follows the last boundary
does not count, and a part that the text breaks off is dropped. Everything that separates is ASCII, so a form is read
character by character, and the texts in it by the encoding that the request names.
-/

namespace VideoShare.Http.Multipart

open Text

/-! ## Headers -/

/-- A header of a part: its name and its value. -/
structure Header where
  name : String
  value : List Char
  deriving DecidableEq, Repr

/-- The number of headers that a part may have. -/
def mostHeaders : Nat := 8

/-- The number of bytes that a header may have. -/
def mostHeaderBytes : Nat := 4224

/-- The number of bytes of a text. -/
def byteLength (cs : List Char) : Nat := (utf8Bytes cs).length

/-- Whether a character may stand in the name of a header. -/
def isNameChar (c : Char) : Bool :=
  c.isAlphanum || (c.toNat < 0x7F && 0x20 < c.toNat && !"(),/:;<=>?@[]\\\x7b\x7d\"".toList.contains c)

/-- Takes a header with its line end; none when the text ends before. -/
def takeHeader (cs : List Char) : Except FormFault (Option (Header × List Char)) :=
  let name := cs.takeWhile isNameChar
  match cs.drop name.length with
  | [] => if mostHeaderBytes < byteLength name then .error .malformed else .ok none
  | ':' :: rest =>
    let value := (rest.dropWhile (· == ' ')).takeWhile (· != '\r')
    let line := rest.takeWhile (· != '\r')
    if name = [] ∨ mostHeaderBytes < byteLength name + 1 + byteLength line then .error .malformed
    else
      match rest.drop line.length with
      | '\r' :: '\n' :: after => .ok (some (⟨lower (String.ofList name), value⟩, after))
      | '\r' :: _ :: _ => .error .malformed
      | _ => .ok none
  | _ => .error .malformed

/-- Takes the headers of a part and the empty line behind them, at most a number of them; none when the text ends before. -/
def takeHeaders : Nat → List Char → Except FormFault (Option (List Header × List Char))
  | _, [] | _, ['\r'] => .ok none
  | _, '\r' :: '\n' :: rest => .ok (some ([], rest))
  | _, '\r' :: _ => .error .malformed
  | 0, _ => .error .malformed
  | n + 1, cs =>
    match takeHeader cs with
    | .error f => .error f
    | .ok none => .ok none
    | .ok (some (header, rest)) =>
      match takeHeaders n rest with
      | .error f => .error f
      | .ok none => .ok none
      | .ok (some (headers, rest)) => .ok (some (header :: headers, rest))

/-! ## Data -/

/-- The data of a part, and what follows the boundary behind it: the next part, or nothing that counts. -/
structure Data where
  data : List Char
  next : Option (List Char)
  deriving DecidableEq, Repr

/-- Takes the data of a part up to a mark, the line end and the boundary; none when the text ends before. A mark that is not
followed by a line end or by two hyphens is data, and so is the first character of the two that are not what they should be.
`taken` is what was taken before, the last character first. -/
def takeData (mark : List Char) : Nat → List Char → List Char → Option Data
  | 0, _, _ => none
  | _ + 1, _, [] => none
  | fuel + 1, taken, c :: cs =>
    if mark.isPrefixOf (c :: cs) then
      let past := mark.reverse ++ taken
      match (c :: cs).drop mark.length with
      | '\r' :: '\n' :: rest => some ⟨taken.reverse, some rest⟩
      | '-' :: '-' :: _ => some ⟨taken.reverse, none⟩
      | '\r' :: d :: rest => takeData mark fuel (d :: '\r' :: past) rest
      | '-' :: d :: rest => takeData mark fuel (d :: '-' :: past) rest
      | d :: rest => takeData mark fuel (d :: past) rest
      | [] => none
    else takeData mark fuel (c :: taken) cs

/-! ## Parts -/

/-- The name of a file without the folders before it, where it begins with a drive or with two backslashes. -/
def bareFileName (cs : List Char) : List Char :=
  let isWhole := match cs with
    | _ :: ':' :: c :: _ => c == backslash
    | _ => false
  let isShared := cs.take 2 == [backslash, backslash]
  if isWhole || isShared then (cs.reverse.takeWhile (· != backslash)).reverse else cs

/-- What a part is the field of: its name, and the name of its file when it is one. -/
def fieldOf? (headers : List Header) : Option (List Char × Option (List Char)) := do
  let disposition ← headers.reverse.find? fun h => h.name == "content-disposition"
  let value := HeaderValue.ofText (String.ofList disposition.value)
  let name ← value.option? "name"
  some (name, (value.option? "filename").map bareFileName)

/-- Reads the parts from the headers of the first one on, with the numbers of texts and files so far. -/
def readParts (mark : List Char) (encoding : String) : Nat → Nat → Nat → List Char → Except FormFault Form
  | 0, _, _, _ => .ok []
  | fuel + 1, texts, files, cs =>
    match takeHeaders mostHeaders cs with
    | .error f => .error f
    | .ok none => .ok []
    | .ok (some (headers, rest)) =>
      match fieldOf? headers with
      | none => .error .unnamed
      | some (name, fileName) =>
        let texts := if fileName.isSome then texts else texts + 1
        let files := if fileName.isSome then files + 1 else files
        if mostFields < files then .error .tooManyFiles
        else if mostFields < texts then .error .tooManyFields
        else
          match takeData mark (rest.length + 1) [] rest with
          | none => .ok []
          | some part =>
            let decoded := fun cs => textOfBytes encoding (utf8Bytes cs)
            let value : FormValue := match fileName with
              | some f => .file (decoded f) (String.ofList part.data)
              | none => .text (decoded part.data)
            if fileName.isNone ∧ mostBytes < byteLength part.data then .error .hugeField
            else
              match part.next with
              | none => .ok [(decoded name, value)]
              | some rest =>
                match readParts mark encoding fuel texts files rest with
                | .error f => .error f
                | .ok form => .ok ((decoded name, value) :: form)

/-- Whether the characters of a line end come first. -/
def isLineEnd (c : Char) : Bool := c == '\r' || c == '\n'

/-- Reads a form in parts. -/
def read (boundary : List Char) (encoding : String) (body : String) : Except FormFault Form :=
  let cs := body.toList.dropWhile isLineEnd
  let line := '-' :: '-' :: boundary
  if line.isPrefixOf cs then
    match cs.drop line.length with
    | '\r' :: '\n' :: rest => readParts ('\r' :: '\n' :: line) encoding (rest.length + 1) 0 0 rest
    | [] | ['\r'] | ['-'] | '-' :: '-' :: _ => .ok []
    | _ => .error .malformed
  else if cs.isPrefixOf line then .ok []
  else .error .malformed

/-! ## Writing -/

/-- A character of a name as it is written in a disposition: a quote and a control character are escaped, a backslash is doubled. -/
def nameChar (c : Char) : List Char :=
  if c = doubleQuote || (c.toNat < 0x20 && c.toNat != 0x1B) then byteEscape c.toNat
  else if c = backslash then [backslash, backslash]
  else [c]

/-- A name between quotes. -/
def quotedName (s : String) : String := String.ofList (doubleQuote :: s.toList.flatMap nameChar ++ [doubleQuote])

/-- A field as a part without its boundary. A file says its media type. -/
def writePart (name : String) : FormValue → String
  | .text s => "Content-Disposition: form-data; name=" ++ quotedName name ++ "\r\n\r\n" ++ s
  | .file fileName content =>
    "Content-Disposition: form-data; name=" ++ quotedName name ++ "; filename=" ++ quotedName fileName ++
      "\r\nContent-Type: " ++ MediaType.ofPath fileName ++ "\r\n\r\n" ++ content

/-- A form in parts. -/
def write (boundary : String) (form : Form) : String :=
  String.join (form.map fun f => "--" ++ boundary ++ "\r\n" ++ writePart f.1 f.2 ++ "\r\n") ++ "--" ++ boundary ++ "--\r\n"

/-- The boundary that a content type names to whoever writes the form. -/
def statedBoundary? (contentType : String) : Option String :=
  if startsWith contentType "multipart/form-data" then
    (((splitAt ';' contentType.toList).map fun piece => String.ofList (trimBoth isSpace piece)).find? fun piece =>
      startsWith (lower piece) "boundary=").map fun piece => trimEnd doubleQuote (trimStart doubleQuote
        (String.ofList (piece.toList.drop 9)))
  else none

end VideoShare.Http.Multipart
