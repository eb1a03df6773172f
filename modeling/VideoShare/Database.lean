import VideoShare.Failure

/-!
# The database

Eight tables of rows. Users, videos, watches and searches have one key column, the other tables two. The tables hold no
references to each other that the database would check; that no row dangles is the work of the operations. A table is a list of
rows in no particular order: whatever order an answer shows is the order its query asks for.

The id of a new row is one more than the largest id in its table, so the id of a deleted last row is given out again.
-/

namespace VideoShare

/-- A registered user, who is also a channel. -/
structure User where
  id : String
  username : String
  email : Option String
  picture : Option String
  authorities : String
  createdAt : Instant
  deriving DecidableEq, Repr

/-- What a user may do who is registered without saying so. -/
def defaultAuthorities : String := "ROLE_USER"

/-- A video. -/
structure Video where
  id : Int
  ownerId : String
  title : String
  description : Option String
  category : String
  language : String
  duration : Int
  views : Int
  uploadDate : Instant
  deriving DecidableEq, Repr

/-- A user's like of a video. -/
structure Like where
  userId : String
  videoId : Int
  timestamp : Instant
  deriving DecidableEq, Repr

/-- An entry of a user's watch history. -/
structure Watch where
  id : Int
  userId : String
  videoId : Int
  timestamp : Instant
  deriving DecidableEq, Repr

/-- A user's score for a category or a language. -/
structure Score where
  userId : String
  key : String
  score : Int
  deriving DecidableEq, Repr

/-- A user's subscription to a channel. -/
structure Subscription where
  subscriberId : String
  channelId : String
  createdAt : Instant
  deriving DecidableEq, Repr

/-- An entry of a user's search history. -/
structure Search where
  id : Int
  userId : String
  option : String
  dateAdded : Instant
  deriving DecidableEq, Repr

/-- The tables. -/
structure Database where
  users : List User := []
  videos : List Video := []
  likes : List Like := []
  watches : List Watch := []
  categoryScores : List Score := []
  languageScores : List Score := []
  subscriptions : List Subscription := []
  searches : List Search := []
  deriving DecidableEq, Repr

/-- The id of the next row of a table, given the ids in use. -/
def nextId (ids : List Int) : Int := ids.foldl max 0 + 1

namespace Database

/-! ## Looking rows up -/

/-- The user with an id. -/
def user? (db : Database) (id : String) : Option User := db.users.find? (·.id == id)

/-- The video with an id. -/
def video? (db : Database) (id : Int) : Option Video := db.videos.find? (·.id == id)

/-- A user's like of a video. -/
def like? (db : Database) (user : String) (video : Int) : Option Like :=
  db.likes.find? fun l => l.userId == user && l.videoId == video

/-- A user's subscription to a channel. -/
def subscription? (db : Database) (user channel : String) : Option Subscription :=
  db.subscriptions.find? fun s => s.subscriberId == user && s.channelId == channel

/-- A user's search history entry for an option. -/
def search? (db : Database) (user option : String) : Option Search :=
  db.searches.find? fun s => s.userId == user && s.option == option

/-- The row of a user and a key in a table of scores. -/
def score? (rows : List Score) (user key : String) : Option Score :=
  rows.find? fun s => s.userId == user && s.key == key

/-! ## Counting -/

/-- The number of likes of a video. -/
def likeCount (db : Database) (video : Int) : Nat := db.likes.countP (·.videoId == video)

/-- The videos among those with the given ids that are liked at all, each once and with the number of its likes. -/
def likesByVideo (db : Database) (ids : List Int) : List (Int × Nat) :=
  let liked := (db.likes.map (·.videoId)).filter ids.contains
  liked.eraseDups.map fun id => (id, liked.count id)

/-- The number of subscribers of a channel. -/
def subscriberCount (db : Database) (channel : String) : Nat := db.subscriptions.countP (·.channelId == channel)

/-! ## Adding rows -/

/-- Adds a user, unless one with this id is there. -/
def addUser (db : Database) (u : User) : Except Failure Database :=
  if (db.user? u.id).isSome then .error .duplicateKey else .ok { db with users := db.users ++ [u] }

/-- The id of the next video. -/
def nextVideoId (db : Database) : Int := nextId (db.videos.map (·.id))

/-- Adds a video. -/
def addVideo (db : Database) (v : Video) : Database := { db with videos := db.videos ++ [v] }

/-- Adds a like, unless the user has one for this video. -/
def addLike (db : Database) (l : Like) : Except Failure Database :=
  if (db.like? l.userId l.videoId).isSome then .error .duplicateKey else .ok { db with likes := db.likes ++ [l] }

/-- The id of the next entry of a watch history. -/
def nextWatchId (db : Database) : Int := nextId (db.watches.map (·.id))

/-- Adds an entry to the watch history of a user. -/
def addWatch (db : Database) (user : String) (video : Int) (t : Instant) : Database :=
  { db with watches := db.watches ++ [⟨db.nextWatchId, user, video, t⟩] }

/-- Adds an entry to the watch history of a user in the place of the user's entries for the video that are later than an instant.
The id of the new entry follows on all others, those it replaces included. -/
def refreshWatch (db : Database) (user : String) (video : Int) (since t : Instant) : Database :=
  { db with
    watches := (db.watches.filter fun w => !(w.userId == user && w.videoId == video && since < w.timestamp)) ++
      [⟨db.nextWatchId, user, video, t⟩] }

/-- Adds a subscription. -/
def addSubscription (db : Database) (s : Subscription) : Database :=
  { db with subscriptions := db.subscriptions ++ [s] }

/-- The id of the next entry of a search history. -/
def nextSearchId (db : Database) : Int := nextId (db.searches.map (·.id))

/-- Adds an entry to the search history of a user in the place of the entries with the given ids. The id of the new entry follows
on all others, those it replaces included. -/
def replaceSearches (db : Database) (ids : List Int) (user option : String) (t : Instant) : Database :=
  { db with searches := (db.searches.filter fun s => !ids.contains s.id) ++ [⟨db.nextSearchId, user, option, t⟩] }

/-- Gives an entry of the search history another date. -/
def redateSearch (db : Database) (id : Int) (t : Instant) : Database :=
  { db with searches := db.searches.map fun s => if s.id == id then { s with dateAdded := t } else s }

/-- Adds a row to a table of scores, unless the user has one for this key. -/
def addScore (rows : List Score) (s : Score) : Except Failure (List Score) :=
  if (score? rows s.userId s.key).isSome then .error .duplicateKey else .ok (rows ++ [s])

/-! ## Changing and removing rows -/

/-- Changes the user with an id. -/
def updateUser (db : Database) (id : String) (f : User → User) : Database :=
  { db with users := db.users.map fun u => if u.id == id then f u else u }

/-- Changes the video with an id. -/
def updateVideo (db : Database) (id : Int) (f : Video → Video) : Database :=
  { db with videos := db.videos.map fun v => if v.id == id then f v else v }

/-- The ids of the videos that a user owns. -/
def ownedVideos (db : Database) (user : String) : List Int := (db.videos.filter (·.ownerId == user)).map (·.id)

/-- Removes a user's like of a video. -/
def removeLike (db : Database) (user : String) (video : Int) : Database :=
  { db with likes := db.likes.filter fun l => !(l.userId == user && l.videoId == video) }

/-- Removes the videos with the given ids, and every like of them and every entry for them in a watch history. -/
def removeVideos (db : Database) (ids : List Int) : Database :=
  { db with
    likes := db.likes.filter fun l => !ids.contains l.videoId
    watches := db.watches.filter fun w => !ids.contains w.videoId
    videos := db.videos.filter fun v => !ids.contains v.id }

/-- Removes the scores of a user. -/
def removeScores (db : Database) (user : String) : Database :=
  { db with
    categoryScores := db.categoryScores.filter (·.userId != user)
    languageScores := db.languageScores.filter (·.userId != user) }

/-- Removes a user and every row that is the user's own: likes, histories, scores and the subscriptions of and to the user. -/
def removeUser (db : Database) (id : String) : Database :=
  { db.removeScores id with
    likes := db.likes.filter (·.userId != id)
    watches := db.watches.filter (·.userId != id)
    searches := db.searches.filter (·.userId != id)
    subscriptions := db.subscriptions.filter fun s => !(s.subscriberId == id || s.channelId == id)
    users := db.users.filter (·.id != id) }

/-- Removes a subscription. -/
def removeSubscription (db : Database) (user channel : String) : Database :=
  { db with subscriptions := db.subscriptions.filter fun s => !(s.subscriberId == user && s.channelId == channel) }

/-- Removes an entry of the search history. -/
def removeSearch (db : Database) (id : Int) : Database :=
  { db with searches := db.searches.filter (·.id != id) }

/-! ## Queries with an order -/

/-- The videos of a user, oldest first, those of one instant by id. -/
def videosOf (db : Database) (user : String) : List Video :=
  (db.videos.filter (·.ownerId == user)).mergeSort fun a b =>
    a.uploadDate < b.uploadDate || (a.uploadDate == b.uploadDate && a.id ≤ b.id)

/-- The users in the order they were registered, those of one instant by id. -/
def usersByAge (db : Database) : List User :=
  db.users.mergeSort fun a b => a.createdAt < b.createdAt || (a.createdAt == b.createdAt && a.id ≤ b.id)

/-- The search history of a user, newest first. -/
def searchesOf (db : Database) (user : String) : List Search :=
  (db.searches.filter (·.userId == user)).mergeSort fun a b =>
    b.dateAdded < a.dateAdded || (a.dateAdded == b.dateAdded && b.id ≤ a.id)

/-- The watch history of a user, newest first. -/
def watchesOf (db : Database) (user : String) : List Watch :=
  (db.watches.filter (·.userId == user)).mergeSort fun a b =>
    b.timestamp < a.timestamp || (a.timestamp == b.timestamp && b.id ≤ a.id)

/-- The likes of a user, newest first, those of one instant by the video's id. -/
def likesOf (db : Database) (user : String) : List Like :=
  (db.likes.filter (·.userId == user)).mergeSort fun a b =>
    b.timestamp < a.timestamp || (a.timestamp == b.timestamp && a.videoId ≤ b.videoId)

/-- The subscriptions of a user, oldest first, those of one instant by the channel. -/
def subscriptionsOf (db : Database) (user : String) : List Subscription :=
  (db.subscriptions.filter (·.subscriberId == user)).mergeSort fun a b =>
    a.createdAt < b.createdAt || (a.createdAt == b.createdAt && a.channelId ≤ b.channelId)

end Database

end VideoShare
