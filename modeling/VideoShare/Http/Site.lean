import VideoShare.Feed
import VideoShare.Http.Answer
import VideoShare.Http.Parameters
import VideoShare.Settings

/-!
# The site

What an endpoint needs besides a request: the settings, how feeds are bounded and shuffled, and what the detector of languages
finds in the title of an upload. Some endpoints serve a user only, and a request that names none is refused before anything else
about it is looked at.
-/

namespace VideoShare.Http

/-- What the endpoints of a site have in common. -/
structure Site where
  settings : Settings
  bounds : FeedBounds := {}
  feedSize : Int := 20
  shuffle : Shuffle := id
  detected : Option String := none

/-- Serves a request on behalf of a user. -/
def asUser (r : Request) (f : String → Service Answer) : Service Answer :=
  match r.userId? with
  | none => Service.refuse .noUser
  | some u => f u

/-- Serves a request with its body. -/
def withBody (r : Request) (f : Request.Body → Service Answer) : Service Answer :=
  match r.body with
  | .ok body => f body
  | .error (.malformed _ position) => pure (.invalid [⟨[.name "body", .index position], .malformedJson⟩])
  | .error _ => pure (.detail 400 "There was an error parsing the body")

/-- Serves a request with the fields of its body, or answers what is wrong with them. The answer shows what is wrong, and when that
cannot be written there is no such answer. -/
def withBodyFields {α : Type} (body : Request.Body) (read : Fields → Checked α) (f : α → Service Answer) : Service Answer :=
  match body.read read with
  | .ok a => f a
  | .error errors => pure (if errors.all fun e => (body.shown e).isWritable then .invalid errors else .serverError)

/-- Serves a request with its form. -/
def withForm (r : Request) (f : Form → Service Answer) : Service Answer :=
  match r.form with
  | .ok form => f form
  | .error fault => pure (.detail 400 fault.message)

/-- Videos as an answer shows them. -/
def showVideos (videos : List Video) : Service Answer := do
  pure (.ok (.arr (((← Service.database).views videos).map VideoView.toJson)))

/-- A video as an answer shows it. -/
def showVideo (v : Video) : Service Json := do
  pure ((← Service.database).view v).toJson

/-- Users as an answer shows them. -/
def showUsers (users : List User) : Answer := .ok (.arr (users.map fun u => u.view.toJson))

/-- A truth value as an answer shows it. -/
def showFlag (b : Bool) : Answer := .ok (.obj [("value", .bool b)])

end VideoShare.Http
