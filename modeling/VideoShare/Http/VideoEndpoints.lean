import VideoShare.Http.Site
import VideoShare.Videos
import VideoShare.Watching

/-!
# Endpoints for videos

Finding, showing, watching and streaming videos is open to everyone. Making a video needs a user, and changing or removing one
needs its owner.
-/

namespace VideoShare.Http

open Service

/-- Finds videos by options. -/
def findVideosEndpoint (q : Query) : Service Answer :=
  withFields (Prod.mk <$> q.texts "option" <*> q.texts "value") fun (options, values) => do
    showVideos (← findVideos options values)

/-- Finds videos by a part of their title. -/
def searchTitlesEndpoint (q : Query) : Service Answer :=
  withFields (q.filledText "search_query") fun pattern => do
    showVideos (← findVideos ["BY_TITLE"] [pattern])

/-- Shows a video. -/
def showVideoEndpoint (id : String) : Service Answer :=
  withFields (videoIdOf id) fun id => do
    pure (.ok (← showVideo (← video id)))

/-- Watches a video, on behalf of the user of the request if it names one. -/
def watchVideoEndpoint (site : Site) (r : Request) (id : String) : Service Answer :=
  withFields (videoIdOf id) fun id => do
    pure (.ok (← showVideo (← watch site.settings id r.userId?)))

/-- Streams the playlist of a video. -/
def playlistEndpoint (site : Site) (id : String) : Service Answer :=
  withFields (videoIdOf id) fun id => do
    pure (.stream "application/vnd.apple.mpegurl" (← playlist site.settings id))

/-- Streams a segment of a video. -/
def segmentEndpoint (site : Site) (id filename : String) : Service Answer :=
  withFields (videoIdOf id) fun id => do
    pure (.stream "video/mp2t" (← segment site.settings id filename))

/-! ## Making, changing and removing -/

/-- A form for a new video. -/
structure UploadForm where
  data : NewVideo
  thumbnail : SentFile
  content : SentFile
  deriving DecidableEq, Repr

/-- Reads a form for a new video. -/
def UploadForm.read (form : Form) : Checked UploadForm :=
  (fun title category description language duration thumbnail content =>
      ⟨⟨title, description, category, language, duration.getD 0⟩, thumbnail, content⟩)
    <$> sent form "title" formText
    <*> sent form "category" formText
    <*> sent? form "description" formText
    <*> sent? form "language" formText
    <*> sent? form "duration" formInteger
    <*> sent form "thumbnail" formFile
    <*> sent form "video" formFile

/-- Makes a video. -/
def createVideoEndpoint (site : Site) (r : Request) : Service Answer :=
  withForm r fun form =>
    withFields (UploadForm.read form) fun form =>
      asUser r fun owner => do
        match NewVideo.ofJson form.data.toJson with
        | .error _ => pure .serverError
        | .ok data =>
          let v ← createVideo site.settings site.detected owner data form.thumbnail.content form.content.content
          pure (.created (← showVideo v))

/-- Refuses everyone but the owner of a video. -/
def requireOwner (r : Request) (id : Int) : Service Unit := do
  let v ← video id
  if r.userId? ≠ some v.ownerId then refuse .notOwner

/-- A form for changes of a video. -/
structure ChangeForm where
  id : Int
  changes : VideoChanges
  thumbnail : Option SentFile
  content : Option SentFile
  deriving DecidableEq, Repr

/-- Reads a form for changes of a video. -/
def ChangeForm.read (id : String) (form : Form) : Checked ChangeForm :=
  (fun id title description category thumbnail content => ⟨id, ⟨title, description, category⟩, thumbnail, content⟩)
    <$> videoIdOf id
    <*> sent? form "title" formText
    <*> sent? form "description" formText
    <*> sent? form "category" formText
    <*> sent? form "thumbnail" formFile
    <*> sent? form "video" formFile

/-- Changes a video. -/
def updateVideoEndpoint (site : Site) (r : Request) (id : String) : Service Answer :=
  withForm r fun form =>
    withFields (ChangeForm.read id form) fun form => do
      requireOwner r form.id
      match VideoChanges.ofJson form.changes.toJson with
      | .error _ => pure .serverError
      | .ok changes =>
        let v ← updateVideo site.settings form.id changes (form.thumbnail.map (·.content)) (form.content.map (·.content))
        pure (.ok (← showVideo v))

/-- Removes a video. -/
def deleteVideoEndpoint (site : Site) (r : Request) (id : String) : Service Answer :=
  withFields (videoIdOf id) fun id => do
    requireOwner r id
    deleteVideo site.settings id
    pure .done

/-! ## Recommendations -/

/-- Recommends videos. -/
def recommendEndpoint (site : Site) (r : Request) (q : Query) : Service Answer :=
  let fields := Prod.mk <$> q.integerFrom "size" 1 site.feedSize <*> (Prod.mk <$> q.integers "exclude" <*> q.integer? "sort")
  withFields fields fun (size, excludes, sort) => do
    let languages := requestedLanguages (q.last? "languages") (r.header? "accept-language")
    showVideos (← recommendations site.bounds site.shuffle r.userId? excludes languages size (sort.bind VideoOrder.ofCode?))

end VideoShare.Http
