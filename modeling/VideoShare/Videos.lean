import VideoShare.Feed
import VideoShare.Form.Model
import VideoShare.Language
import VideoShare.SearchOption
import VideoShare.VideoFolder
import VideoShare.VideoOrder

/-!
# Videos

A video is a row and a folder. It is made in one step that holds or fails as a whole: the row gets its id, the thumbnail and the
content are put into the folder and handed to the processing service, and when both replies are affirmative the row stays
and a notification goes out. When anything fails on the way the folder is emptied again, and that this fails too is nobody's
concern but the folder's. Changing a video replaces its metadata, its thumbnail or its content; removing it removes the row,
its likes, its entries in watch histories and its folder.
-/

namespace VideoShare

/-- The row of a new video. -/
def NewVideo.row (data : NewVideo) (id : Int) (owner language : String) (now : Instant) : Video where
  id := id
  ownerId := owner
  title := data.title
  description := data.description
  category := data.category
  language := language
  duration := data.duration
  views := 0
  uploadDate := now

/-- A video after changes of its metadata. -/
def VideoChanges.apply (c : VideoChanges) (v : Video) : Video :=
  { v with
    title := c.title.getD v.title
    description := c.description.or v.description
    category := c.category.getD v.category }

namespace Service

/-- The videos that meet the options of a search. -/
def findVideos (options values : List String) : Service (List Video) := do
  lift ((← database).findVideos options values)

/-- The ids of the feed of a user, or of nobody in particular. -/
def feed (bounds : FeedBounds) (shuffle : Shuffle) (userId : Option String) (excludes : List Int) (languages : List String)
    (size : Int) : Service (List Int) := do
  lift ((← database).feed (← now) bounds shuffle userId excludes languages size)

/-- The videos recommended to a user, or to nobody in particular, in the order of the feed or in another one. -/
def recommendations (bounds : FeedBounds) (shuffle : Shuffle) (userId : Option String) (excludes : List Int)
    (languages : List String) (size : Int) (order : Option VideoOrder) : Service (List Video) := do
  let videos ← lift ((← database).recommendedVideos (← now) bounds shuffle userId excludes languages size)
  pure (sortVideos order videos)

/-! ## Streaming -/

/-- The playlist of a video. -/
def playlist (s : Settings) (videoId : Int) : Service String := getObject (s.videoFolder videoId ++ s.indexFilename)

/-- Whether a name stays in its folder: it has no slash and no two points in a row. -/
def staysInFolder (name : String) : Bool := !Text.contains name "/" && !Text.contains name ".."

/-- A segment of a video. -/
def segment (s : Settings) (videoId : Int) (filename : String) : Service String :=
  if staysInFolder filename then getObject (s.videoFolder videoId ++ filename) else refuse (.illegalFilename filename)

/-! ## Making a video -/

/-- Puts the files of a new video into its folder and waits until both are processed. -/
def uploadFiles (s : Settings) (folder thumbnail content : String) : Service Unit := do
  putObject (folder ++ s.thumbnailFilename) thumbnail
  let _ ← submit s.thumbnailQueue (folder ++ s.thumbnailFilename)
  putObject (folder ++ s.videoFilename) content
  let _ ← submit s.videoQueue (folder ++ s.videoFilename)
  awaitReply s.processingTimeout
  awaitReply s.processingTimeout

/-- Adds the row of a video and uploads its files, or leaves neither. -/
def addVideo (s : Settings) (row : Video) (thumbnail content : String) : Service Unit :=
  let folder := s.videoFolder row.id
  cleaningUp
    (transaction do
      modifyDatabase (·.addVideo row)
      uploadFiles s folder thumbnail content)
    (removeFolder folder)

/-- Makes a video. Its language is the one given, or the one that the detector found in its title. -/
def createVideo (s : Settings) (detected : Option String) (owner : String) (data : NewVideo) (thumbnail content : String) :
    Service Video := do
  let _ ← user owner .noUser
  lift (checkColumns [data.duration])
  let language := languageOfUpload s.defaultLanguage detected data.language data.title
  let row := data.row (← database).nextVideoId owner language (← now)
  addVideo s row thumbnail content
  push s.createdQueue (toString row.id)
  pure row

/-! ## Changing and removing a video -/

/-- Puts a new thumbnail in the place of the old one. -/
def replaceThumbnail (s : Settings) (folder thumbnail : String) : Service Unit := do
  let path := folder ++ s.thumbnailFilename
  putObject path thumbnail
  process s.thumbnailQueue path s.processingTimeout

/-- Puts new content into the folder of a video, which keeps its thumbnail and nothing else. -/
def replaceContent (s : Settings) (folder content : String) : Service Unit := do
  let keys ← listObjects folder
  forEach removeObject (keys.filter fun key => !Text.contains key s.thumbnailFilename)
  let path := folder ++ s.videoFilename
  putObject path content
  process s.videoQueue path s.processingTimeout

/-- Changes a video: its metadata, and its thumbnail and its content where new ones are given. -/
def updateVideo (s : Settings) (videoId : Int) (changes : VideoChanges) (thumbnail content : Option String) : Service Video :=
  transaction do
    let v ← video videoId
    modifyDatabase (·.updateVideo videoId changes.apply)
    let folder := s.videoFolder videoId
    if let some t := thumbnail then replaceThumbnail s folder t
    if let some c := content then replaceContent s folder c
    pure (changes.apply v)

/-- Removes a video. -/
def deleteVideo (s : Settings) (videoId : Int) : Service Unit := transaction do
  let _ ← video videoId
  modifyDatabase (·.removeVideos [videoId])
  removeFolder (s.videoFolder videoId)

end Service

end VideoShare
