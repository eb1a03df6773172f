import VideoShare.Form.Model
import VideoShare.MediaType
import VideoShare.Text.Encoded
import VideoShare.World

/-!
# Answers to requests

An answer has a status and content: nothing, a value, or a text of a media type. A refusal is answered with its message and its
code, two rows with one key with a conflict, fields that are wrong with all that is wrong with them, and every other failure with
the words that say nothing about it.
-/

namespace VideoShare.Http

/-- The content of an answer. -/
inductive AnswerContent where
  | nothing
  | value (v : Json)
  | text (type body : String)
  deriving Repr

/-- An answer. -/
structure Answer where
  status : Int
  content : AnswerContent
  deriving Repr

namespace Answer

/-- A value that was asked for. -/
def ok (v : Json) : Answer := ⟨200, .value v⟩

/-- A value that came into being. -/
def created (v : Json) : Answer := ⟨201, .value v⟩

/-- The answer when something was done and there is nothing to say. -/
def done : Answer := ⟨204, .nothing⟩

/-- A plain text. -/
def plain (status : Int) (text : String) : Answer := ⟨status, .text "text/plain; charset=utf-8" text⟩

/-- A detail and nothing else. -/
def detail (status : Int) (text : String) : Answer := ⟨status, .value (.obj [("detail", .str text)])⟩

/-- A detail with a code. -/
def coded (status : Int) (text code : String) : Answer :=
  ⟨status, .value (.obj [("detail", .str text), ("code", .str code)])⟩

/-- The answer to fields that are wrong. -/
def invalid (errors : List FieldError) : Answer := ⟨422, .value (.obj [("detail", .arr (errors.map FieldError.toJson))])⟩

/-- The answer to what should not have happened. -/
def serverError : Answer := plain 500 "Internal Server Error"

/-- The bytes of the value of a header, which hold one character each; none when a character does not fit into one. -/
def headerBytes? (value : String) : Option (List Nat) :=
  let ns := value.toList.map Char.toNat
  if ns.all (· < 0x100) then some ns else none

/-- The content of an object with its media type. The type is sent one byte a character and arrives as the text of these bytes; one
that cannot be sent is as bad as a failure, and one that does not arrive as a text leaves nothing to be read. -/
def stream (type content : String) : Answer :=
  match headerBytes? (MediaType.header type) with
  | none => serverError
  | some bytes =>
    let text := Text.utf8Text bytes
    if Text.utf8Bytes text = bytes then ⟨200, .text (String.ofList text) content⟩ else ⟨500, .nothing⟩

/-- The answer to a failure. -/
def ofFailure : Failure → Answer
  | .refused r => coded r.report.status r.report.message r.report.code
  | .duplicateKey => coded 409 "Conflicting concurrent update" "conflict"
  | _ => serverError

/-- An answer without its content. -/
def withoutContent (a : Answer) : Answer := { a with content := .nothing }

end Answer

/-- Goes on with the value of some fields, or answers what is wrong with them. -/
def withFields {α : Type} (fields : Checked α) (f : α → Service Answer) : Service Answer :=
  match fields with
  | .ok a => f a
  | .error errors => pure (.invalid errors)

end VideoShare.Http
