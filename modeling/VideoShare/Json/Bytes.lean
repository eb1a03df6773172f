import VideoShare.Json.Reader
import VideoShare.Text.Encoding

/-!
# JSON in bytes

The first character of a JSON text and mostly the second are ASCII, so the zeros among the first four bytes tell its encoding. A
text in UTF-8 may begin with the mark of its byte order.
-/

namespace VideoShare.Json

open Text (Encoding withoutMark)

/-- The encoding of a JSON text. -/
def encodingOf : List Nat → Encoding
  | a :: b :: c :: d :: _ =>
    if a = 0 then (if b = 0 then .utf32 true else .utf16 true)
    else if b = 0 then (if c = 0 ∧ d = 0 then .utf32 false else .utf16 false)
    else .utf8
  | [a, b] => if a = 0 then .utf16 true else if b = 0 then .utf16 false else .utf8
  | _ => .utf8

/-- The depth to which arrays and objects in a request may be nested. -/
def requestDepth : Nat := 965

/-- Reads bytes that hold one value. -/
def ofBytes (bytes : List Nat) : Except Fault Json :=
  match (encodingOf bytes).points? (withoutMark bytes) with
  | some points => ofPoints requestDepth points
  | none => .error .undecodable

end VideoShare.Json
