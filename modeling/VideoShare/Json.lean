import VideoShare.Number.Binary64

/-!
# JSON values

The values that requests and answers carry. Whole numbers are integers of any size and stay apart from numbers written with a
point or an exponent, which are doubles. A string that holds half of a surrogate pair is no text of characters and is kept as its
code points. An object keeps its fields in the order written; where a name is written twice the last one counts.
-/

namespace VideoShare

/-- A JSON value. -/
inductive Json where
  | null
  | bool (b : Bool)
  | int (n : Int)
  | real (x : Number.Binary64)
  | str (s : String)
  /-- A string that is no text. -/
  | broken (points : List Nat)
  | arr (items : List Json)
  | obj (fields : List (String × Json))
  deriving Repr

namespace Json

instance : Inhabited Json := ⟨.null⟩

/-- The value of a field in a list of fields: the last one of that name. -/
def lastField? (name : String) (fields : List (String × Json)) : Option Json :=
  (fields.reverse.find? fun f => f.1 == name).map (·.2)

/-- The value of a field of an object; none for other values and for absent fields. -/
def field? (name : String) : Json → Option Json
  | .obj fields => lastField? name fields
  | _ => none

/-! ## Values that can be written -/

mutual

/-- Whether a value can be written as text in every reader's eyes: no number in it is infinite or no number at all, and no string in
it is broken. Of the fields of one name only the last is looked at. -/
def isWritable : Json → Bool
  | .real (.finite _ _ _) => true
  | .real _ => false
  | .broken _ => false
  | .arr items => areWritable items
  | .obj fields => areFieldsWritable fields
  | _ => true

/-- Whether all items can be written. -/
def areWritable : List Json → Bool
  | [] => true
  | v :: rest => v.isWritable && areWritable rest

/-- Whether all fields that count can be written. -/
def areFieldsWritable : List (String × Json) → Bool
  | [] => true
  | (name, v) :: rest => ((rest.any fun f => f.1 == name) || v.isWritable) && areFieldsWritable rest

end

end Json

end VideoShare
