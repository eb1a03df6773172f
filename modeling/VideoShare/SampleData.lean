import VideoShare.World

/-!
# Sample data

Users, videos and likes to try recommendations on. Everything that is random is drawn beforehand: a draft of a video says who
owns it, what it is about and who likes it since when. A draft becomes rows as a whole or not at all; it does not become rows when
somebody stands twice among those who like the video.
-/

namespace VideoShare

/-! ## Draws -/

/-- A source of random numbers: the numbers it gives, and how many of them were taken. -/
structure Draws where
  number : Nat → Nat
  taken : Nat := 0

namespace Draws

/-- The next number. -/
def next (d : Draws) : Nat × Draws := (d.number d.taken, { d with taken := d.taken + 1 })

/-- A number below a bound, and zero below zero. -/
def below (d : Draws) (bound : Nat) : Nat × Draws := (d.next.1 % bound, d.next.2)

/-- An item of a list that is not empty. -/
def pick {α : Type} (d : Draws) (list : List α) (h : list ≠ []) : α × Draws :=
  (list.get ⟨d.next.1 % list.length, Nat.mod_lt _ (List.length_pos_iff.mpr h)⟩, d.next.2)

/-- A number of items of a list that stand side by side, where the first one follows the last one. -/
def sample {α : Type} (d : Draws) (list : List α) (count : Nat) : List α × Draws :=
  let (start, d) := d.below list.length
  ((list.drop start ++ list.take start).take count, d)

end Draws

/-! ## Drafts -/

/-- What a sample video can be about: a category, and things in it. -/
structure SampleCategory where
  name : String
  first : String
  others : List String

/-- The things in a category. -/
def SampleCategory.items (c : SampleCategory) : List String := c.first :: c.others

/-- The categories of sample videos. -/
def sampleCategories : List SampleCategory :=
  [⟨"Sport", "Football", ["Basketball", "Hockey", "Golf"]⟩,
    ⟨"Music", "Eminem", ["Drake", "Playboi Carti", "Yeat"]⟩,
    ⟨"Education", "Java", ["Python", "English", "French"]⟩,
    ⟨"Movies", "Oppenheimer", ["American psycho", "Fight club", "Breaking bad"]⟩,
    ⟨"Games", "GTA V", ["Fortnite", "Minecraft", "Need For Speed Most Wanted"]⟩,
    ⟨"Other", "Monkeys", ["Cars", "Dogs", "Cats", "Nature"]⟩]

/-- The languages of sample videos. -/
def sampleLanguages : List String := ["en", "ru", "ko", "de"]

/-- The names of sample users. -/
def sampleNames : List String :=
  ["Liam", "Noah", "Oliver", "James", "Elijah", "William", "Henry", "Lucas", "Benjamin", "Theodore", "Mateo", "Levi", "Daniel",
    "Jack"]

/-- The seconds over which the likes of sample videos are spread: thirty days. -/
def likeSpread : Nat := 30 * 24 * 60 * 60

/-- A sample video to be made, with those who like it and the ages of their likes in seconds. -/
structure VideoDraft where
  owner : String
  category : String
  item : String
  language : String
  duration : Nat
  likes : List (String × Nat)
  deriving DecidableEq, Repr

/-- Gives each of some likers an age. -/
def drawAges (d : Draws) : List String → List (String × Nat)
  | [] => []
  | liker :: rest =>
    let (age, d) := d.below (likeSpread + 1)
    (liker, age) :: drawAges d rest

/-- Drafts a video of one of some users. -/
def VideoDraft.draw (d : Draws) (users : List String) (h : users ≠ []) : VideoDraft :=
  let (owner, d) := d.pick users h
  let (category, d) := d.pick sampleCategories (List.cons_ne_nil _ _)
  let (item, d) := d.pick category.items (List.cons_ne_nil _ _)
  let (language, d) := d.pick sampleLanguages (List.cons_ne_nil _ _)
  let (duration, d) := d.below 3591
  let (count, d) := d.below (users.length + 1)
  let (likers, d) := d.sample users count
  ⟨owner, category.name, item, language, duration + 10, drawAges d likers⟩

/-- The row of a drafted video. -/
def VideoDraft.row (v : VideoDraft) (id : Int) (now : Instant) : Video where
  id := id
  ownerId := v.owner
  title := v.item ++ " by " ++ Text.takeChars 8 v.owner
  description := some "Nothing here..."
  category := v.category
  language := v.language
  duration := v.duration
  views := 0
  uploadDate := now

/-! ## Making rows of drafts -/

namespace Service

/-- Adds a like of a given age in seconds. -/
def addAgedLike (videoId : Int) (like : String × Nat) : Service Unit := do
  match (← now).before (like.2 * Duration.second) with
  | .error fault => fail (.shift fault)
  | .ok t => updateDatabase (·.addLike ⟨like.1, videoId, t⟩)

/-- Makes the rows of a draft. -/
def addDraft (draft : VideoDraft) : Service Unit := transaction do
  let row := draft.row (← database).nextVideoId (← now)
  modifyDatabase (·.addVideo row)
  forEach (addAgedLike row.id) draft.likes

/-- Makes the rows of some drafts and answers how many of them became rows. -/
def addDrafts : List VideoDraft → Service Nat
  | [] => pure 0
  | draft :: rest => fun w =>
    match addDraft draft w with
    | (.ok _, w') => ((· + 1) <$> addDrafts rest) w'
    | (.error _, w') => addDrafts rest w'

/-- Makes a sample video from each of some sources, and answers how many came about; none when there is nobody to own one. -/
def createSampleVideos (users : List String) (sources : List Draws) : Service Nat :=
  if h : users = [] then pure 0 else addDrafts (sources.map fun d => VideoDraft.draw d users h)

/-- Drafts users with fresh identifiers. -/
def draftUsers (d : Draws) : Nat → Service (List User)
  | 0 => pure []
  | n + 1 => do
    let id ← freshIdentifier
    let t ← now
    let (name, d) := d.pick sampleNames (List.cons_ne_nil _ _)
    let rest ← draftUsers d n
    pure (⟨id, name, some (id ++ "@example.com"), none, defaultAuthorities, t⟩ :: rest)

/-- Makes sample users and answers their ids. -/
def createSampleUsers (amount : Nat) (d : Draws) : Service (List String) := transaction do
  let users ← draftUsers d amount
  forEach (fun u => updateDatabase (·.addUser u)) users
  pure (users.map (·.id))

/-- Makes sample users and their videos, and answers how many there are of both. The users are drawn from the source with number
zero, and the videos from those with number two and up. -/
def createSampleData (users videos : Nat) (source : Nat → Draws) : Service (Nat × Nat) := do
  let ids ← createSampleUsers users (source 0)
  let made ← createSampleVideos ids ((List.range videos).map fun i => source (i + 2))
  pure (ids.length, made)

end Service

end VideoShare
