import VideoShare.Affinity

/-!
# Watching

Whoever watches a video, known or not, adds a view to it. A registered user also gains a point for the video's category and for
its language, and an entry in the watch history; the entry replaces those for the same video that are younger than a window. A
user who is not interested in a video loses most of the points for its category.
-/

namespace VideoShare

namespace Service

/-- Counts a watch for a registered user and enters it in the user's history. -/
def rememberWatch (s : Settings) (userId : String) (v : Video) : Service Unit := do
  modifyDatabase (·.countWatch userId v.category v.language)
  let t ← now
  let since ← lift (t.minus s.dedupHours Duration.hour)
  modifyDatabase (·.refreshWatch userId v.id since t)

/-- Watches a video, as a user or as nobody. -/
def watch (s : Settings) (videoId : Int) (userId : Option String) : Service Video := transaction do
  let v ← video videoId
  if let some u := userId then
    if ((← database).user? u).isSome then rememberWatch s u v
  let watched := { v with views := v.views + 1 }
  lift (checkColumns [watched.views])
  modifyDatabase (·.updateVideo videoId fun v => { v with views := v.views + 1 })
  pure watched

/-- The videos in a user's watch history, the last watched first, each once. -/
def watchHistory (userId : String) : Service (List Video) := do
  let _ ← user userId (.noViewer userId)
  let db ← database
  pure (((db.watchesOf userId).map (·.videoId)).eraseDups.filterMap db.video?)

/-- Takes points for a video's category from a user who is not interested in it. -/
def notInterested (s : Settings) (videoId : Int) (userId : String) : Service Unit := transaction do
  let v ← video videoId
  let _ ← user userId .noUser
  let _ ← decayCategory userId v.category s.notInterestedFactor

end Service

end VideoShare
