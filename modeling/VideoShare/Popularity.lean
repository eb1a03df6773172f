import VideoShare.Database

/-!
# Popularity

Videos are ranked by their likes since an instant, then by their views, then by the smaller id. A ranking leaves out the videos
it is told to exclude, keeps those that a condition admits, and is cut at a size; a video without a recent like counts none and
stays in. Asked for nothing, a ranking is empty whatever else it is asked.
-/

namespace VideoShare

namespace Database

/-- The number of likes of a video since an instant. -/
def recentLikes (db : Database) (since : Instant) (video : Int) : Nat :=
  db.likes.countP fun l => l.videoId == video && since ≤ l.timestamp

/-- Whether the first video stands before the second in a ranking, or in its place. -/
def outranks (db : Database) (since : Instant) (a b : Video) : Bool :=
  let x := db.recentLikes since a.id
  let y := db.recentLikes since b.id
  y < x || (x == y && (b.views < a.views || (a.views == b.views && a.id ≤ b.id)))

/-- The ranking of the videos that are admitted and not excluded. -/
def ranking (db : Database) (since : Instant) (excludes : List Int) (admits : Video → Bool) : List Int :=
  ((db.videos.filter fun v => admits v && !excludes.contains v.id).mergeSort (db.outranks since)).map (·.id)

/-- The first videos of a ranking. The excluded ids and the size are handed to the database. -/
def top (db : Database) (since : Instant) (excludes : List Int) (size : Int) (admits : Video → Bool) :
    Except Failure (List Int) :=
  if size ≤ 0 then .ok []
  else
    match checkColumns (size :: excludes) with
    | .error e => .error e
    | .ok _ => .ok ((db.ranking since excludes admits).take size.toNat)

/-- The most popular videos. -/
def topOverall (db : Database) (since : Instant) (excludes : List Int) (size : Int) : Except Failure (List Int) :=
  db.top since excludes size fun _ => true

/-- The most popular videos in a language. -/
def topByLanguage (db : Database) (since : Instant) (language : String) (excludes : List Int) (size : Int) :
    Except Failure (List Int) :=
  db.top since excludes size fun v => v.language == language

/-- The most popular videos in one of some categories or one of some languages; none when there are neither. -/
def topByCategoryOrLanguage (db : Database) (since : Instant) (categories languages : List String) (excludes : List Int)
    (size : Int) : Except Failure (List Int) :=
  if categories.isEmpty && languages.isEmpty then .ok []
  else db.top since excludes size fun v => categories.contains v.category || languages.contains v.language

end Database

/-- The instant from which likes are recent, a number of days before now. -/
def recentSince (now : Instant) (days : Number.Quantity) : Except Failure Instant := now.minus days Duration.day

end VideoShare
