import VideoShare.Database

/-!
# Orders of videos

A list of videos may be put into one of six orders: by views, by upload date or by duration, each in both directions. Videos that
an order does not tell apart keep their places, in the descending orders too, so a descending order is not an ascending one read
backwards.
-/

namespace VideoShare

/-- The orders of videos. -/
inductive VideoOrder where
  | mostViewed | leastViewed | oldest | newest | longest | shortest
  deriving DecidableEq, Repr

namespace VideoOrder

/-- The name of an order. -/
def name : VideoOrder → String
  | .mostViewed => "BY_VIEWS_FROM_DESC"
  | .leastViewed => "BY_VIEWS_FROM_ASC"
  | .oldest => "BY_UPLOAD_DATE_FROM_OLDEST"
  | .newest => "BY_UPLOAD_DATE_FROM_NEWEST"
  | .longest => "BY_DURATION_FROM_DESC"
  | .shortest => "BY_DURATION_FROM_ASC"

/-- The order that a number from one to six stands for; every other number stands for none. -/
def ofCode? (n : Int) : Option VideoOrder :=
  if n = 1 then some .mostViewed
  else if n = 2 then some .leastViewed
  else if n = 3 then some .oldest
  else if n = 4 then some .newest
  else if n = 5 then some .longest
  else if n = 6 then some .shortest
  else none

/-- What an order compares. -/
def key : VideoOrder → Video → Int
  | .mostViewed, v | .leastViewed, v => v.views
  | .oldest, v | .newest, v => v.uploadDate
  | .longest, v | .shortest, v => v.duration

/-- Whether an order puts large keys first. -/
def isDescending : VideoOrder → Bool
  | .mostViewed | .newest | .longest => true
  | .leastViewed | .oldest | .shortest => false

/-- Whether an order allows the first video before the second. -/
def allows (o : VideoOrder) (a b : Video) : Bool :=
  if o.isDescending then o.key b ≤ o.key a else o.key a ≤ o.key b

end VideoOrder

/-- Videos in an order; without one they stay as they are. -/
def sortVideos (order : Option VideoOrder) (videos : List Video) : List Video :=
  match order with
  | none => videos
  | some o => videos.mergeSort o.allows

end VideoShare
