import VideoShare.Form.Model
import VideoShare.SearchOption
import VideoShare.VideoFolder
import VideoShare.VideoOrder
import VideoShare.World

/-!
# Users

Users are registered under an id of their own choice, change their data, and leave. Who leaves takes everything along: the
videos owned, the likes, the histories, the scores and the subscriptions in both directions, and the folders of the user and of
the videos in the object store. The rows go first and the folders after them, in one transaction.
-/

namespace VideoShare

/-- A text that was given and is not empty, or a default. -/
def givenOr (given : Option String) (default : String) : String :=
  match given with
  | none => default
  | some s => if s = "" then default else s

/-- The row of a new user. -/
def NewUser.row (u : NewUser) (s : Settings) (now : Instant) : User where
  id := u.id
  username := u.username
  email := u.email
  picture := some (givenOr u.picture s.defaultPicture)
  authorities := givenOr u.authorities defaultAuthorities
  createdAt := now

/-- A user after changes. -/
def UserChanges.apply (c : UserChanges) (u : User) : User :=
  { u with
    username := c.username.getD u.username
    email := c.email.or u.email
    picture := c.picture.or u.picture }

namespace Service

/-- Every user in the order they were registered. -/
def allUsers : Service (List User) := do
  let users := (← database).usersByAge
  if users.isEmpty then refuse .noUsers
  pure users

/-- The user with an id. -/
def findUser (id : String) : Service User := user id .noUser

/-- The users who meet the options of a search. -/
def findUsers (options values : List String) : Service (List User) := do
  lift ((← database).findUsers options values)

/-- The videos of a user, oldest first or in another order. -/
def videosOfUser (id : String) (order : Option VideoOrder) : Service (List Video) := do
  let _ ← findUser id
  pure (sortVideos order ((← database).videosOf id))

/-- Registers a user. -/
def registerUser (s : Settings) (data : NewUser) : Service User := transaction do
  if ((← database).user? data.id).isSome then refuse (.userExists data.id)
  let row := data.row s (← now)
  updateDatabase (·.addUser row)
  pure row

/-- Changes a user's data. -/
def updateUser (id : String) (changes : UserChanges) : Service User := transaction do
  let u ← findUser id
  modifyDatabase (·.updateUser id changes.apply)
  pure (changes.apply u)

/-- Removes a user and everything that is the user's own. -/
def deleteUser (s : Settings) (id : String) : Service Unit := transaction do
  let _ ← findUser id
  let videos := (← database).ownedVideos id
  modifyDatabase fun db => (db.removeVideos videos).removeUser id
  removeFolder (s.userFolder id)
  forEach (fun video => removeFolder (s.videoFolder video)) videos

end Service

end VideoShare
