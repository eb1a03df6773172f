import VideoShare.World

/-!
# Likes

A user likes a video once or not at all. Liking is a toggle: it adds the like where there is none and takes it back where there
is one. The look-up may miss a like that another call has just added; adding it then meets a key that is taken, and the toggle is
tried once more on what is there by then. A second such meeting is the caller's to see.
-/

namespace VideoShare

namespace Service

/-- Adds a user's like of a video, or takes it back: the video, and whether it is liked now. -/
def toggleLike (userId : String) (videoId : Int) : Service (Video × Bool) := transaction do
  let _ ← user userId .noUser
  let v ← video videoId
  match ← like? userId videoId with
  | none =>
    let t ← now
    updateDatabase (·.addLike ⟨userId, videoId, t⟩)
    pure (v, true)
  | some _ =>
    modifyDatabase (·.removeLike userId videoId)
    pure (v, false)

/-- Runs a call again when it met a key that was taken. -/
def retryingOnce {α : Type} (x : Service α) : Service α := fun w =>
  match x w with
  | (.error .duplicateKey, w') => x w'
  | answer => answer

/-- Toggles a user's like of a video. -/
def likeVideo (userId : String) (videoId : Int) : Service (Video × Bool) := retryingOnce (toggleLike userId videoId)

/-- Takes a user's like of a video back, if there is one. -/
def dislikeVideo (userId : String) (videoId : Int) : Service Unit := transaction do
  let _ ← user userId .noUser
  let _ ← video videoId
  if (← like? userId videoId).isSome then modifyDatabase (·.removeLike userId videoId)

/-- Whether a user likes a video. -/
def hasLiked (userId : String) (videoId : Int) : Service Bool := do
  let _ ← user userId .noUser
  let _ ← video videoId
  pure (← like? userId videoId).isSome

/-- The videos a user likes, the latest like first. -/
def likedVideos (userId : String) : Service (List Video) := do
  let _ ← user userId (.noUserWithId userId)
  let db ← database
  pure ((db.likesOf userId).filterMap fun l => db.video? l.videoId)

end Service

end VideoShare
