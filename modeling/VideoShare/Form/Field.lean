import VideoShare.Json
import VideoShare.Moment
import VideoShare.Text.PlainInteger

/-!
# Fields

Reading one field of what a caller sends. A field has constraints, and a value that breaks one is a fault at a place; the faults
of several fields are collected, so that a caller is told of all of them at once. A text has to be given as one; an integer may
also be given as a truth value, as a double without a fraction, or as text, and a moment as a number or as text.
-/

namespace VideoShare

/-- What is wrong with a field. -/
inductive FieldFault where
  | missing
  | notText
  /-- A string is no text of characters. -/
  | brokenText
  | shorterThan (least : Nat)
  | longerThan (most : Nat)
  | notInteger
  | notIntegerText
  | hugeInteger
  | fractional
  | notFinite
  | lessThan (least : Int)
  | notMoment
  /-- A number or a text is not that of a moment. -/
  | illegalMoment (fault : MomentFault)
  /-- A model was asked for, and something other than an object came. -/
  | notModel (model : String)
  /-- An object was asked for, and something else came. -/
  | notObject
  /-- A file was asked for, and a text came. -/
  | notFile
  | malformedJson
  deriving DecidableEq, Repr

namespace FieldFault

/-- The code of a fault. -/
def code : FieldFault → String
  | .missing => "missing"
  | .notText => "string_type"
  | .brokenText => "string_unicode"
  | .shorterThan _ => "string_too_short"
  | .longerThan _ => "string_too_long"
  | .notInteger => "int_type"
  | .notIntegerText => "int_parsing"
  | .hugeInteger => "int_parsing_size"
  | .fractional => "int_from_float"
  | .notFinite => "finite_number"
  | .lessThan _ => "greater_than_equal"
  | .notMoment => "datetime_type"
  | .illegalMoment (.noTime _) => "datetime_parsing"
  | .illegalMoment (.noTimeNorDate _) => "datetime_from_date_parsing"
  | .notModel _ => "model_type"
  | .notObject => "model_attributes_type"
  | .notFile => "value_error"
  | .malformedJson => "json_invalid"

/-- A number of characters in words. -/
def characters (n : Nat) : String := if n = 1 then "1 character" else s!"{n} characters"

/-- What is said of a fault. -/
def message : FieldFault → String
  | .missing => "Field required"
  | .notText => "Input should be a valid string"
  | .brokenText => "Input should be a valid string, unable to parse raw data as a unicode string"
  | .shorterThan least => s!"String should have at least {characters least}"
  | .longerThan most => s!"String should have at most {characters most}"
  | .notInteger => "Input should be a valid integer"
  | .notIntegerText => "Input should be a valid integer, unable to parse string as an integer"
  | .hugeInteger => "Unable to parse input string as an integer, exceeded maximum size"
  | .fractional => "Input should be a valid integer, got a number with a fractional part"
  | .notFinite => "Input should be a finite number"
  | .lessThan least => s!"Input should be greater than or equal to {least}"
  | .notMoment => "Input should be a valid datetime"
  | .illegalMoment (.noTime cause) => s!"Input should be a valid datetime, {cause.message}"
  | .illegalMoment (.noTimeNorDate cause) => s!"Input should be a valid datetime or date, {cause.message}"
  | .notModel model => s!"Input should be a valid dictionary or instance of {model}"
  | .notObject => "Input should be a valid dictionary or object to extract fields from"
  | .notFile => "Value error, Expected UploadFile, received: <class 'str'>"
  | .malformedJson => "JSON decode error"

end FieldFault

/-- A step of the way to a field: a name, or a place in a list. -/
inductive Place where
  | name (s : String)
  | index (n : Nat)
  deriving DecidableEq, Repr

/-- A fault and where it is. -/
structure FieldError where
  place : List Place
  fault : FieldFault
  deriving DecidableEq, Repr

/-- The value of some fields, or everything that is wrong with them, in order. -/
def Checked (α : Type) : Type := Except (List FieldError) α

namespace Checked

variable {α β : Type}

/-- The faults. -/
def errors : Checked α → List FieldError
  | .ok _ => []
  | .error es => es

/-- A single fault. -/
def fault (place : List Place) (f : FieldFault) : Checked α := .error [⟨place, f⟩]

/-- Applies a checked function to a checked value; the faults of both are kept. -/
protected def seq (f : Checked (α → β)) (x : Checked α) : Checked β :=
  match f, x with
  | .ok f, .ok a => .ok (f a)
  | .ok _, .error es => .error es
  | .error es, x => .error (es ++ x.errors)

instance : Applicative Checked where
  pure a := .ok a
  seq f x := Checked.seq f (x ())

/-- The checked values of a list. -/
def all (f : α → Checked β) : List α → Checked (List β)
  | [] => .ok []
  | a :: rest => List.cons <$> f a <*> all f rest

/-- The faults moved below a place. -/
def below (place : List Place) (x : Checked α) : Checked α :=
  match x with
  | .ok a => .ok a
  | .error es => .error (es.map fun e => { e with place := place ++ e.place })

end Checked

/-! ## Readers -/

/-- A reader of one value: the value or what is wrong with it. -/
abbrev FieldReader (α : Type) : Type := Json → Except FieldFault α

/-- Reads a text. -/
def readText : FieldReader String
  | .str s => .ok s
  | .broken _ => .error .brokenText
  | _ => .error .notText

/-- Reads a text with a least and a greatest number of characters. -/
def readTextWithin (least most : Nat) : FieldReader String := fun v =>
  match readText v with
  | .error f => .error f
  | .ok s =>
    if s.length < least then .error (.shorterThan least)
    else if most < s.length then .error (.longerThan most)
    else .ok s

/-- Reads an integer from a text that holds it plainly or loosely written. -/
def readIntegerText (s : String) : Except FieldFault Int :=
  match Text.looseInteger s.toList with
  | .ok n => .ok n
  | .error .malformed => .error .notIntegerText
  | .error (.tooManyDigits _) => .error .hugeInteger

/-- Reads an integer. -/
def readInteger : FieldReader Int
  | .int n => .ok n
  | .bool b => .ok (if b then 1 else 0)
  | .real (.finite negative m e) =>
    if !Number.Binary64.isWhole m e then .error .fractional
    else
      let n := Number.Binary64.floorDyadic negative m e
      if n.natAbs < Nat.pow 2 63 then .ok n else .error .hugeInteger
  | .real _ => .error .notFinite
  | .str s => readIntegerText s
  | .broken _ => .error .brokenText
  | _ => .error .notInteger

/-- Reads an integer that is not less than a bound. -/
def readIntegerFrom (least : Int) : FieldReader Int := fun v =>
  match readInteger v with
  | .error f => .error f
  | .ok n => if n < least then .error (.lessThan least) else .ok n

/-- Reads a moment from a number. An integer of sixty-four bits is taken as it is, a wider one as the double nearest to it. -/
def readMomentNumber (n : Int) : Except FieldFault Moment :=
  if -9223372036854775808 ≤ n ∧ n ≤ 9223372036854775807 then
    (Moment.ofNumber n 0).mapError fun cause => .illegalMoment (.noTime cause)
  else
    match Number.Binary64.ofInt n with
    | .finite negative m e =>
      (Moment.ofReal (.finite negative m e)).mapError fun cause => .illegalMoment (.noTime cause)
    | _ => .error .notMoment

/-- Reads a moment. -/
def readMoment : FieldReader Moment
  | .int n => readMomentNumber n
  | .real x => (Moment.ofReal x).mapError fun cause => .illegalMoment (.noTime cause)
  | .str s => (Moment.ofText s).mapError .illegalMoment
  | .broken _ => .error .brokenText
  | _ => .error .notMoment

/-- Reads a value that may be null. -/
def orNull {α : Type} (read : FieldReader α) : FieldReader (Option α)
  | .null => .ok none
  | v =>
    match read v with
    | .ok a => .ok (some a)
    | .error f => .error f

/-! ## Fields of an object -/

/-- A value read at a place. -/
def readAt {α : Type} (place : List Place) (read : FieldReader α) (v : Json) : Checked α :=
  match read v with
  | .ok a => .ok a
  | .error f => Checked.fault place f

/-- A field that has to be given. -/
def required {α : Type} (fields : List (String × Json)) (name : String) (read : FieldReader α) : Checked α :=
  match Json.lastField? name fields with
  | none => Checked.fault [.name name] .missing
  | some v => readAt [.name name] read v

/-- A field with a default for when it is not given. -/
def optional {α : Type} (fields : List (String × Json)) (name : String) (default : α) (read : FieldReader α) : Checked α :=
  match Json.lastField? name fields with
  | none => .ok default
  | some v => readAt [.name name] read v

end VideoShare
