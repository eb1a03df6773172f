import VideoShare.Affinity
import VideoShare.Popularity

/-!
# The feed

The feed of a user is filled in tiers, each as far as the tiers before it leave room: the videos that match the user's affinity,
then each requested language in the order requested, then whatever is popular. Every tier leaves out what was excluded and what
is already in the feed, so nothing stands in it twice. The filled feed is shuffled and cut to its size.
-/

namespace VideoShare

/-- How a feed is shuffled: a permutation of its ids, whatever they are. -/
abbrev Shuffle : Type := List Int → List Int

/-- The bounds of a feed: the days over which likes are recent, and the most videos a request may ask for. -/
structure FeedBounds where
  days : Number.Quantity := .whole 30
  cap : Int := 100
  deriving DecidableEq, Repr

namespace Database

/-- The tier of a user's affinity; empty for a user without a positive score, and without a user. -/
def affinityTier (db : Database) (since : Instant) (user : Option String) (excludes : List Int) (size : Int) :
    Except Failure (List Int) :=
  match user with
  | none => .ok []
  | some u =>
    let a := db.affinity u
    db.topByCategoryOrLanguage since (a.categories.map (·.1)) (a.languages.map (·.1)) excludes size

/-- The tiers of the requested languages, appended to the feed so far up to a size. -/
def languageTiers (db : Database) (since : Instant) (excludes : List Int) (size : Int) (feed : List Int) :
    List String → Except Failure (List Int)
  | [] => .ok feed
  | language :: rest =>
    if size ≤ feed.length then .ok feed
    else
      match db.topByLanguage since language (excludes ++ feed) (size - feed.length) with
      | .error e => .error e
      | .ok ids => db.languageTiers since excludes size (feed ++ ids) rest

/-- The tier of whatever is popular, appended to the feed so far up to a size. -/
def overallTier (db : Database) (since : Instant) (excludes : List Int) (size : Int) (feed : List Int) :
    Except Failure (List Int) :=
  if size ≤ feed.length then .ok feed
  else
    match db.topOverall since (excludes ++ feed) (size - feed.length) with
    | .error e => .error e
    | .ok ids => .ok (feed ++ ids)

/-- The feed before it is shuffled, for a size that is positive. -/
def fillFeed (db : Database) (since : Instant) (user : Option String) (excludes : List Int) (languages : List String)
    (size : Int) : Except Failure (List Int) := do
  let personal ← db.affinityTier since user excludes size
  let spoken ← db.languageTiers since excludes size personal languages
  db.overallTier since excludes size spoken

/-- The feed of a user, or of nobody in particular. A user who is not registered is refused before the size is looked at. -/
def feed (db : Database) (now : Instant) (bounds : FeedBounds) (shuffle : Shuffle) (user : Option String)
    (excludes : List Int) (languages : List String) (size : Int) : Except Failure (List Int) := do
  let size := min size bounds.cap
  if let some u := user then
    if (db.user? u).isNone then throw (.refused (.noAudience u))
  if size ≤ 0 then return []
  let since ← recentSince now bounds.days
  let ids ← db.fillFeed since user excludes languages size
  return (shuffle ids).take size.toNat

/-- The videos of a feed in the feed's order, or in another one. A feed needs at least one language. -/
def recommendedVideos (db : Database) (now : Instant) (bounds : FeedBounds) (shuffle : Shuffle) (user : Option String)
    (excludes : List Int) (languages : List String) (size : Int) : Except Failure (List Video) :=
  if languages.isEmpty then .error (.refused .noLanguage)
  else
    match db.feed now bounds shuffle user excludes languages size with
    | .error e => .error e
    | .ok ids => .ok (ids.filterMap db.video?)

end Database

end VideoShare
