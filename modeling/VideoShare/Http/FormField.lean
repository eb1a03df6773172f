import VideoShare.Form.Field

/-!
# Fields of forms

A field of a form is a text or a file. The last field of a name counts, and an empty text is as good as none. A form that cannot be
read, or that has more fields than a form may have, is refused as a whole before any of its fields is looked at.
-/

namespace VideoShare.Http

/-- A field of a form. -/
inductive FormValue where
  | text (s : String)
  | file (name content : String)
  deriving DecidableEq, Repr

/-- A form: its fields with their names. -/
abbrev Form : Type := List (String × FormValue)

/-- Why a form is refused. -/
inductive FormFault where
  /-- The request does not say what separates the parts of its form. -/
  | noBoundary
  | malformed
  /-- A part of the form is not the field of a name. -/
  | unnamed
  | tooManyFields
  | tooManyFiles
  | hugeField
  deriving DecidableEq, Repr

/-- The number of texts that a form may have, and of files. -/
def mostFields : Nat := 1000

/-- The number of bytes that a text in a form may have. -/
def mostBytes : Nat := 1048576

/-- What is said of a form that is refused. -/
def FormFault.message : FormFault → String
  | .noBoundary => "Missing boundary in multipart."
  | .malformed => "Invalid multipart data."
  | .unnamed => "The Content-Disposition header field \"name\" must be provided."
  | .tooManyFields => s!"Too many fields. Maximum number of fields is {mostFields}."
  | .tooManyFiles => s!"Too many files. Maximum number of files is {mostFields}."
  | .hugeField => s!"Part exceeded maximum size of {mostBytes / 1024}KB."

/-- A field of a form, if it was sent. -/
def sentField? (form : Form) (name : String) : Option FormValue :=
  ((form.reverse.find? fun f => f.1 == name).map (·.2)).filter (· != .text "")

/-- Reads a text from a form. -/
def formText : FormValue → Except FieldFault String
  | .text s => .ok s
  | .file _ _ => .error .notText

/-- Reads an integer from a form. -/
def formInteger : FormValue → Except FieldFault Int
  | .text s => readIntegerText s
  | .file _ _ => .error .notInteger

/-- A file that was sent. -/
structure SentFile where
  name : String
  content : String
  deriving DecidableEq, Repr

/-- Reads a file from a form. -/
def formFile : FormValue → Except FieldFault SentFile
  | .file name content => .ok ⟨name, content⟩
  | .text _ => .error .notFile

end VideoShare.Http
