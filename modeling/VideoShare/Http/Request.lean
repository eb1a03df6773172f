import VideoShare.Form.Model
import VideoShare.Http.Multipart
import VideoShare.Http.Target
import VideoShare.Json.Bytes
import VideoShare.Text.Blank
import VideoShare.Text.Case

/-!
# Requests

A request has a method, an address, headers and content. The content is a text, which a header says how to read: as a value, as the
pairs of a form, or as the parts of one.
-/

namespace VideoShare.Http

open Text

/-- A request. -/
structure Request where
  method : String
  address : String
  headers : List (String × String) := []
  content : String := ""
  deriving DecidableEq, Repr

namespace Request

/-- The value of a header; its name is written in any case. -/
def header? (r : Request) (name : String) : Option String :=
  (r.headers.find? fun h => lower h.1 == name).map (·.2)

/-- The user on whose behalf a request is made. -/
def userId? (r : Request) : Option String := (r.header? "x-user-id").filter (· != "")

/-! ## Content types -/

/-- Whether a content type says that a text is JSON. -/
def saysJson (contentType : String) : Bool :=
  let type := lower (trim (String.ofList (beforeFirst ';' contentType.toList)))
  match split '/' type with
  | [main, sub] => main == "application" && (sub == "json" || endsWith sub "+json")
  | _ => false

/-! ## Bodies -/

/-- What is in a body where a value is asked for. -/
inductive Body where
  /-- Nothing. -/
  | absent
  /-- A value. -/
  | value (v : Json)
  /-- Something that is no value. -/
  | other
  deriving Repr

/-- The body of a request for a value. -/
def body (r : Request) : Except Json.Fault Body :=
  if r.content = "" then .ok .absent
  else if (r.header? "content-type").any saysJson then (Json.ofBytes (utf8Bytes r.content.toList)).map .value
  else .ok .other

/-- Reads a model from a body. -/
def Body.read {α : Type} (ofFields : Fields → Checked α) : Body → Checked α
  | .absent => Checked.fault [.name "body"] .missing
  | .value (.obj fields) => (ofFields fields).below [.name "body"]
  | _ => Checked.fault [.name "body"] .notObject

/-- What an answer shows of a body that is wrong: the value at fault, and the whole body where something is missing in it. -/
def Body.shown (b : Body) (e : FieldError) : Json :=
  match b, e.fault, e.place with
  | .value v, .missing, _ | .value v, .notObject, _ => v
  | .value v, _, [_, .name name] => (v.field? name).getD .null
  | _, _, _ => .null

/-! ## Forms -/

/-- The form in a request; it has no fields when the request does not say that there is one. -/
def form (r : Request) : Except FormFault Form :=
  let type := HeaderValue.ofText ((r.header? "content-type").getD "")
  if type.value = "multipart/form-data" then
    match type.option? "boundary" with
    | none => .error .noBoundary
    | some boundary => Multipart.read boundary (((type.option? "charset").map String.ofList).getD "utf-8") r.content
  else if type.value = "application/x-www-form-urlencoded" then
    let pairs := readBody r.content
    if mostFields < pairs.length then .error .tooManyFields else .ok (pairs.map fun p => (p.1, .text p.2))
  else .ok []

end Request

end VideoShare.Http
