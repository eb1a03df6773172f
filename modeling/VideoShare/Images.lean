import VideoShare.Settings
import VideoShare.World

/-!
# Images

Pictures of users and thumbnails of videos lie in the object store under a path of three parts: a root, an owner and a name. An
upload is put there, handed to the processing service and taken back when the service does not process it. An image without an
owner is put into a folder of its own, whose name is drawn until it is the name of no folder. Removing the image of a user also
removes whatever else lies in the user's folder.
-/

namespace VideoShare

/-- The roots under which images are kept. -/
def imageRoots : List String := ["users", "videos"]

/-- Whether a text can be a part of the path of an image. -/
def isImagePart (part : String) : Bool := part != "" && !Text.contains part "/" && !Text.contains part ".."

/-- The path of an image. -/
def imagePath (root owner name : String) : Except Refusal String :=
  if !imageRoots.contains root then .error (.unknownImageFolder root)
  else if !isImagePart owner then .error (.illegalImagePart owner)
  else if !isImagePart name then .error (.illegalImagePart name)
  else .ok (root ++ "/" ++ owner ++ "/" ++ name)

/-- The folder name that an identifier gives: its first twelve characters. -/
def folderName (identifier : String) : String := Text.takeChars 12 identifier

namespace Service

/-- Draws names until one is the name of no folder under a path, at most as often as the fuel allows. -/
def drawFolder (path : String) : Nat → Service String
  | 0 => do
    pure (folderName (← freshIdentifier))
  | fuel + 1 => do
    let name := folderName (← freshIdentifier)
    let keys ← listObjects (path ++ name ++ "/")
    if keys.isEmpty then pure name else drawFolder path fuel

/-- Draws the name of a folder that does not exist under a path. Every object takes one name at most, so one draw more than there
are objects finds a free one. -/
def freshFolder (path : String) : Service String := do
  drawFolder path ((← world).store.objects.length + 1)

/-- Uploads an image to the folder of an owner under a path, and answers where it is. -/
def uploadImage (s : Settings) (owner : Option String) (path filename queue content : String) : Service String := do
  let path := if Text.endsWith path "/" then path else path ++ "/"
  let owner ← match owner with
    | none => freshFolder path
    | some o => if o = "" then freshFolder path else pure o
  match imagePath (Text.trimEnd '/' path) owner filename with
  | .error r => refuse r
  | .ok key =>
    putObject key content
    cleaningUp (process queue key s.processingTimeout) (removeObject key)
    pure key

/-- Uploads the picture of a user. -/
def uploadPicture (s : Settings) (owner : Option String) (filename content : String) : Service String :=
  uploadImage s owner s.userPath filename s.pictureQueue content

/-- Uploads a thumbnail of a video. -/
def uploadThumbnail (s : Settings) (owner : Option String) (filename content : String) : Service String :=
  uploadImage s owner s.videoPath filename s.thumbnailQueue content

/-- The picture of a user who has none. -/
def defaultPicture (s : Settings) : Service String := getObject s.defaultPicture

/-- Removes an image, and with the image of a user everything in its folder. -/
def deleteImage (s : Settings) (path : String) : Service Unit := do
  removeObject path
  match Text.throughLast? '/' path with
  | none => fail .noFolder
  | some folder =>
    if Text.startsWith folder s.userPath then
      let keys ← listObjects folder
      if !keys.isEmpty then removeFolder folder

end Service

end VideoShare
