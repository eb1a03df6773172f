import VideoShare.Http.Site
import VideoShare.Images

/-!
# Endpoints for images

Images are uploaded, shown and removed for everyone. An upload is answered with its path and with the address where it is shown.
-/

namespace VideoShare.Http

open Service

/-- The path of an upload as an answer shows it. -/
def showUpload (path : String) : Answer := .ok (.obj [("path", .str path), ("url", .str ("/api/image/" ++ path))])

/-- Uploads a picture of the user of the request, or of nobody in particular. -/
def uploadPictureEndpoint (site : Site) (r : Request) : Service Answer :=
  withForm r fun form =>
    withFields (sent form "image" formFile) fun image => do
      pure (showUpload (← uploadPicture site.settings r.userId? image.name image.content))

/-- Uploads a thumbnail of a video, or of none in particular. -/
def uploadThumbnailEndpoint (site : Site) (r : Request) : Service Answer :=
  withForm r fun form =>
    withFields (Prod.mk <$> sent form "image" formFile <*> sent? form "id" formText) fun (image, id) => do
      pure (showUpload (← uploadThumbnail site.settings id image.name image.content))

/-- Shows the picture of users who have none. -/
def defaultPictureEndpoint (site : Site) : Service Answer := do
  pure (.stream (MediaType.ofPath site.settings.defaultPicture) (← defaultPicture site.settings))

/-- The path of an image, or the refusal of one that cannot be. -/
def pathOfImage (root owner name : String) : Service String :=
  match imagePath root owner name with
  | .ok path => pure path
  | .error r => refuse r

/-- Shows an image. -/
def showImageEndpoint (root owner name : String) : Service Answer := do
  let path ← pathOfImage root owner name
  pure (.stream (MediaType.ofPath path) (← getObject path))

/-- Removes an image. -/
def deleteImageEndpoint (site : Site) (root owner name : String) : Service Answer := do
  deleteImage site.settings (← pathOfImage root owner name)
  pure .done

end VideoShare.Http
