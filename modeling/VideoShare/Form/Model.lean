import VideoShare.Form.Field
import VideoShare.Database

/-!
# Models

What callers send to make or change a user or a video, and what they are shown of one. The public name of a model that is sent
stands in the message for something that is not an object.
-/

namespace VideoShare

/-- The metadata of a video to be made. -/
structure NewVideo where
  title : String
  description : Option String
  category : String
  language : Option String
  duration : Int
  deriving DecidableEq, Repr

/-- The changes of a video's metadata; what is none stays as it is. -/
structure VideoChanges where
  title : Option String := none
  description : Option String := none
  category : Option String := none
  deriving DecidableEq, Repr

/-- The data of a user to be registered. -/
structure NewUser where
  id : String
  username : String
  email : Option String
  authorities : Option String
  picture : Option String
  deriving DecidableEq, Repr

/-- The changes of a user's data; what is none stays as it is. -/
structure UserChanges where
  username : Option String := none
  email : Option String := none
  picture : Option String := none
  deriving DecidableEq, Repr

/-- What is shown of a video. -/
structure VideoView where
  id : Int
  ownerId : String
  title : String
  description : Option String
  category : String
  language : String
  duration : Int
  views : Int
  likes : Int
  uploadDate : Moment
  deriving DecidableEq, Repr

/-- What is shown of a user. -/
structure UserView where
  id : String
  username : String
  email : Option String
  picture : Option String
  authorities : String
  deriving DecidableEq, Repr

/-! ## Reading -/

/-- The fields of an object. -/
abbrev Fields : Type := List (String × Json)

/-- Reads a model from a value that has to be an object, given what is wrong with any other value. -/
def readModel {α : Type} (fault : FieldFault) (ofFields : Fields → Checked α) : Json → Checked α
  | .obj fields => ofFields fields
  | _ => Checked.fault [] fault

/-- Reads the metadata of a video to be made. -/
def NewVideo.ofFields (fs : Fields) : Checked NewVideo :=
  NewVideo.mk <$> required fs "title" (readTextWithin 1 255)
    <*> optional fs "description" none (orNull readText)
    <*> required fs "category" (readTextWithin 1 100)
    <*> optional fs "language" none (orNull readText)
    <*> optional fs "duration" 0 (readIntegerFrom 0)

/-- Reads the changes of a video's metadata. -/
def VideoChanges.ofFields (fs : Fields) : Checked VideoChanges :=
  VideoChanges.mk <$> optional fs "title" none (orNull (readTextWithin 1 255))
    <*> optional fs "description" none (orNull readText)
    <*> optional fs "category" none (orNull (readTextWithin 1 100))

/-- Reads the data of a user to be registered. -/
def NewUser.ofFields (fs : Fields) : Checked NewUser :=
  NewUser.mk <$> required fs "id" (readTextWithin 1 64)
    <*> required fs "username" (readTextWithin 1 100)
    <*> optional fs "email" none (orNull readText)
    <*> optional fs "authorities" none (orNull readText)
    <*> optional fs "picture" none (orNull readText)

/-- Reads the changes of a user's data. -/
def UserChanges.ofFields (fs : Fields) : Checked UserChanges :=
  UserChanges.mk <$> optional fs "username" none (orNull (readTextWithin 1 100))
    <*> optional fs "email" none (orNull readText)
    <*> optional fs "picture" none (orNull readText)

/-- Reads what is shown of a video. -/
def VideoView.ofFields (fs : Fields) : Checked VideoView :=
  VideoView.mk <$> required fs "id" readInteger
    <*> required fs "owner_id" readText
    <*> required fs "title" readText
    <*> optional fs "description" none (orNull readText)
    <*> required fs "category" readText
    <*> required fs "language" readText
    <*> optional fs "duration" 0 readInteger
    <*> optional fs "views" 0 readInteger
    <*> optional fs "likes" 0 readInteger
    <*> required fs "upload_date" readMoment

/-- Reads what is shown of a user. -/
def UserView.ofFields (fs : Fields) : Checked UserView :=
  UserView.mk <$> required fs "id" readText
    <*> required fs "username" readText
    <*> optional fs "email" none (orNull readText)
    <*> optional fs "picture" none (orNull readText)
    <*> required fs "authorities" readText

/-- Reads the metadata of a video to be made from a value. -/
def NewVideo.ofJson : Json → Checked NewVideo := readModel (.notModel "VideoCreate") NewVideo.ofFields

/-- Reads the changes of a video's metadata from a value. -/
def VideoChanges.ofJson : Json → Checked VideoChanges := readModel (.notModel "VideoUpdate") VideoChanges.ofFields

/-- Reads the data of a user to be registered from a value. -/
def NewUser.ofJson : Json → Checked NewUser := readModel (.notModel "UserCreate") NewUser.ofFields

/-- Reads the changes of a user's data from a value. -/
def UserChanges.ofJson : Json → Checked UserChanges := readModel (.notModel "UserUpdate") UserChanges.ofFields

/-- Reads what is shown of a video from a value. -/
def VideoView.ofJson : Json → Checked VideoView := readModel .notObject VideoView.ofFields

/-- Reads what is shown of a user from a value. -/
def UserView.ofJson : Json → Checked UserView := readModel .notObject UserView.ofFields

/-! ## Writing -/

/-- A text that may be absent. -/
def optionalText (s : Option String) : Json := (s.map Json.str).getD .null

/-- The metadata of a video to be made as a value. -/
def NewVideo.toJson (v : NewVideo) : Json :=
  .obj [("title", .str v.title), ("description", optionalText v.description), ("category", .str v.category),
    ("language", optionalText v.language), ("duration", .int v.duration)]

/-- The changes of a video's metadata as a value. -/
def VideoChanges.toJson (v : VideoChanges) : Json :=
  .obj [("title", optionalText v.title), ("description", optionalText v.description), ("category", optionalText v.category)]

/-- The data of a user to be registered as a value. -/
def NewUser.toJson (u : NewUser) : Json :=
  .obj [("id", .str u.id), ("username", .str u.username), ("email", optionalText u.email),
    ("authorities", optionalText u.authorities), ("picture", optionalText u.picture)]

/-- The changes of a user's data as a value. -/
def UserChanges.toJson (u : UserChanges) : Json :=
  .obj [("username", optionalText u.username), ("email", optionalText u.email), ("picture", optionalText u.picture)]

/-- What is shown of a video as a value. -/
def VideoView.toJson (v : VideoView) : Json :=
  .obj [("id", .int v.id), ("owner_id", .str v.ownerId), ("title", .str v.title), ("description", optionalText v.description),
    ("category", .str v.category), ("language", .str v.language), ("duration", .int v.duration), ("views", .int v.views),
    ("likes", .int v.likes), ("upload_date", .str v.uploadDate.toText)]

/-- What is shown of a user as a value. -/
def UserView.toJson (u : UserView) : Json :=
  .obj [("id", .str u.id), ("username", .str u.username), ("email", optionalText u.email), ("picture", optionalText u.picture),
    ("authorities", .str u.authorities)]

/-! ## Views of rows -/

/-- What is shown of the row of a user. -/
def User.view (u : User) : UserView := ⟨u.id, u.username, u.email, u.picture, u.authorities⟩

/-- What is shown of the row of a video, given the number of its likes. -/
def Video.view (v : Video) (likes : Int) : VideoView where
  id := v.id
  ownerId := v.ownerId
  title := v.title
  description := v.description
  category := v.category
  language := v.language
  duration := v.duration
  views := v.views
  likes := likes
  uploadDate := ⟨v.uploadDate, none⟩

/-- What is shown of the rows of some videos, in their order. The likes of all of them are counted in one go; a video that this
leaves out has none. -/
def Database.views (db : Database) (videos : List Video) : List VideoView :=
  let counts := db.likesByVideo (videos.map (·.id))
  videos.map fun v => v.view ((counts.lookup v.id).getD 0)

/-- What is shown of the row of one video. -/
def Database.view (db : Database) (v : Video) : VideoView := v.view (((db.likesByVideo [v.id]).lookup v.id).getD 0)

/-- A fault as a value: its code, its place and what is said of it. -/
def FieldError.toJson (e : FieldError) : Json :=
  .obj [("type", .str e.fault.code),
    ("loc", .arr (e.place.map fun p => match p with | .name s => .str s | .index n => .int n)),
    ("msg", .str e.fault.message)]

end VideoShare
