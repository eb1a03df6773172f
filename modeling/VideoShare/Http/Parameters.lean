import VideoShare.Http.Request

/-!
# Parameters of requests

A parameter is read from a step of the path, from the query or from a form. What is wrong with it is said with the place where it
was looked for. A query may hold a name more than once: a single value is the last one, and a list is all of them.
-/

namespace VideoShare.Http

/-- A value read at a place. -/
def checkedAt {α : Type} (place : List Place) (x : Except FieldFault α) : Checked α :=
  match x with
  | .ok a => .ok a
  | .error f => Checked.fault place f

/-- The id of a video in a path. -/
def videoIdOf (step : String) : Checked Int :=
  checkedAt [.name "path", .name "video_id"] (readIntegerText step)

/-! ## The query -/

/-- The pairs of a query. -/
abbrev Query : Type := List (String × String)

namespace Query

/-- The values of a name. -/
def all (q : Query) (name : String) : List String := (q.filter (·.1 == name)).map (·.2)

/-- The value of a name. -/
def last? (q : Query) (name : String) : Option String := (q.all name).getLast?

/-- Where a name is in a query. -/
def place (name : String) : List Place := [.name "query", .name name]

/-- A text that has to be given. -/
def text (q : Query) (name : String) : Checked String :=
  match q.last? name with
  | some s => .ok s
  | none => Checked.fault (place name) .missing

/-- A text that has to be given and must not be empty. -/
def filledText (q : Query) (name : String) : Checked String :=
  match q.last? name with
  | some s => if s = "" then Checked.fault (place name) (.shorterThan 1) else .ok s
  | none => Checked.fault (place name) .missing

/-- Texts of which at least one has to be given. -/
def texts (q : Query) (name : String) : Checked (List String) :=
  if (q.all name).isEmpty then Checked.fault (place name) .missing else .ok (q.all name)

/-- An integer that need not be given. -/
def integer? (q : Query) (name : String) : Checked (Option Int) :=
  match q.last? name with
  | some s => some <$> checkedAt (place name) (readIntegerText s)
  | none => .ok none

/-- An integer that is not less than a bound, with a default for when it is not given. -/
def integerFrom (q : Query) (name : String) (least default : Int) : Checked Int :=
  match q.last? name with
  | some s =>
    checkedAt (place name) do
      let n ← readIntegerText s
      if n < least then throw (.lessThan least) else return n
  | none => .ok default

/-- Integers, any number of them. -/
def integers (q : Query) (name : String) : Checked (List Int) :=
  Checked.all (fun p => checkedAt (place name ++ [.index p.2]) (readIntegerText p.1)) (q.all name).zipIdx

end Query

/-! ## Forms -/

/-- A field of a form that has to be sent. -/
def sent {α : Type} (form : Form) (name : String) (read : FormValue → Except FieldFault α) :
    Checked α :=
  match sentField? form name with
  | some v => checkedAt [.name "body", .name name] (read v)
  | none => Checked.fault [.name "body", .name name] .missing

/-- A field of a form that need not be sent. -/
def sent? {α : Type} (form : Form) (name : String) (read : FormValue → Except FieldFault α) :
    Checked (Option α) :=
  match sentField? form name with
  | some v => some <$> checkedAt [.name "body", .name name] (read v)
  | none => .ok none

end VideoShare.Http
