import VideoShare.Affinity
import Mathlib.Data.List.Nodup

/-!
# Keys

No two rows of a table have one key. Every change of the tables keeps it so: a row that is added has a new key, a row that is
changed keeps its key, and removing rows brings no two keys together. The id that the next row of a table gets is above all that
are in use.
-/

namespace VideoShare

/-! ## Columns without repetition -/

section Columns

variable {α κ : Type} {k : α → κ} {l : List α}

/-- A row with a new key goes to the end of a table. -/
theorem nodup_map_concat {x : α} (h : (l.map k).Nodup) (hx : ∀ y ∈ l, k y ≠ k x) : ((l ++ [x]).map k).Nodup := by
  rw [List.map_append, List.nodup_append]
  refine ⟨h, by simp, ?_⟩
  intro a ha b hb
  simp only [List.map_cons, List.map_nil, List.mem_singleton] at hb
  obtain ⟨y, hy, rfl⟩ := List.mem_map.mp ha
  rw [hb]
  exact hx y hy

/-- Rows are removed from a table. -/
theorem nodup_map_filter (p : α → Bool) (h : (l.map k).Nodup) : ((l.filter p).map k).Nodup :=
  h.sublist (List.filter_sublist.map k)

/-- Among rows with one owner, the rest of the key tells them apart. -/
theorem nodup_map_filter_owned {ω : Type} {owner : α → ω} {p : α → Bool} {o : ω} (hp : ∀ x, p x = true → owner x = o)
    (h : (l.map fun x => (owner x, k x)).Nodup) : ((l.filter p).map k).Nodup := by
  refine List.Nodup.of_map (fun key => (o, key)) ?_
  have hpairs : ((l.filter p).map k).map (fun key => (o, key)) = (l.filter p).map fun x => (owner x, k x) := by
    rw [List.map_map]
    refine List.map_congr_left fun x hx => ?_
    exact Prod.ext (hp x (List.mem_filter.mp hx).2).symm rfl
  rw [hpairs]
  exact nodup_map_filter p h

/-- Rows change and keep their keys. -/
theorem nodup_map_map {f : α → α} (hf : ∀ x, k (f x) = k x) (h : (l.map k).Nodup) : ((l.map f).map k).Nodup := by
  have : (l.map f).map k = l.map k := by
    rw [List.map_map]
    exact List.map_congr_left fun x _ => hf x
  rwa [this]

/-- The row with one key changes, and every other row stays. -/
theorem mem_map_at {f : α → α} {p : α → Bool} {a x : α} (hp : ∀ y, p y = true ↔ k y = k a) (ha : a ∈ l)
    (h : (l.map k).Nodup) : x ∈ l.map (fun y => if p y then f y else y) ↔ x = f a ∨ x ∈ l ∧ k x ≠ k a := by
  rw [List.mem_map]
  constructor
  · rintro ⟨y, hy, rfl⟩
    by_cases hkey : k y = k a
    · obtain rfl := List.inj_on_of_nodup_map h hy ha hkey
      exact Or.inl (if_pos ((hp y).mpr rfl))
    · rw [if_neg fun hpy => hkey ((hp y).mp hpy)]
      exact Or.inr ⟨hy, hkey⟩
  · rintro (rfl | ⟨hx, hkey⟩)
    · exact ⟨a, ha, if_pos ((hp a).mpr rfl)⟩
    · exact ⟨x, hx, if_neg fun hpx => hkey ((hp x).mp hpx)⟩

end Columns

/-- The fold of the largest id is at least where it begins and at least each id. -/
theorem le_foldl_max (ids : List Int) : ∀ n : Int, n ≤ ids.foldl max n ∧ ∀ i ∈ ids, i ≤ ids.foldl max n := by
  induction ids with
  | nil => simp
  | cons a ids ih =>
    intro n
    obtain ⟨h1, h2⟩ := ih (max n a)
    refine ⟨by rw [List.foldl_cons]; omega, ?_⟩
    intro i hi
    rw [List.foldl_cons]
    rcases List.mem_cons.mp hi with rfl | hi
    · omega
    · exact h2 i hi

/-- The id of the next row is above all ids in use. -/
theorem lt_nextId {ids : List Int} {i : Int} (h : i ∈ ids) : i < nextId ids := by
  have := (le_foldl_max ids 0).2 i h
  unfold nextId
  omega

namespace Database

/-! ## Rows and keys -/

/-- A user with an id is in the tables. -/
def HasUser (db : Database) (id : String) : Prop := ∃ u ∈ db.users, u.id = id

/-- A video with an id is in the tables. -/
def HasVideo (db : Database) (id : Int) : Prop := ∃ v ∈ db.videos, v.id = id

instance (db : Database) (id : String) : Decidable (db.HasUser id) :=
  inferInstanceAs (Decidable (∃ u ∈ db.users, u.id = id))

instance (db : Database) (id : Int) : Decidable (db.HasVideo id) :=
  inferInstanceAs (Decidable (∃ v ∈ db.videos, v.id = id))

/-- No two rows of a table have one key. -/
structure Keyed (db : Database) : Prop where
  users : (db.users.map (·.id)).Nodup
  videos : (db.videos.map (·.id)).Nodup
  likes : (db.likes.map fun l => (l.userId, l.videoId)).Nodup
  watches : (db.watches.map (·.id)).Nodup
  categoryScores : (db.categoryScores.map fun s => (s.userId, s.key)).Nodup
  languageScores : (db.languageScores.map fun s => (s.userId, s.key)).Nodup
  subscriptions : (db.subscriptions.map fun s => (s.subscriberId, s.channelId)).Nodup
  searches : (db.searches.map (·.id)).Nodup

theorem user?_eq_some {db : Database} {id : String} {u : User} (h : db.user? id = some u) : u ∈ db.users ∧ u.id = id :=
  ⟨List.mem_of_find?_eq_some h, by simpa using List.find?_some h⟩

theorem video?_eq_some {db : Database} {id : Int} {v : Video} (h : db.video? id = some v) : v ∈ db.videos ∧ v.id = id :=
  ⟨List.mem_of_find?_eq_some h, by simpa using List.find?_some h⟩

theorem hasUser_of_user? {db : Database} {id : String} {u : User} (h : db.user? id = some u) : db.HasUser id :=
  ⟨u, user?_eq_some h⟩

theorem hasVideo_of_video? {db : Database} {id : Int} {v : Video} (h : db.video? id = some v) : db.HasVideo id :=
  ⟨v, video?_eq_some h⟩

/-- A user is found exactly when the user is in the tables. -/
theorem user?_isSome_iff {db : Database} {id : String} : (db.user? id).isSome = true ↔ db.HasUser id := by
  simp [user?, HasUser, List.find?_isSome]

/-- A user who is in the tables is found. -/
theorem HasUser.found {db : Database} {id : String} (h : db.HasUser id) : ∃ u, db.user? id = some u :=
  Option.isSome_iff_exists.mp (user?_isSome_iff.mpr h)

theorem user?_eq_none_iff {db : Database} {id : String} : db.user? id = none ↔ ¬db.HasUser id := by
  rw [← user?_isSome_iff, Option.not_isSome_iff_eq_none]

/-- A like that is not found is not there. -/
theorem like?_eq_none {db : Database} {user : String} {video : Int} (h : db.like? user video = none) :
    ∀ l ∈ db.likes, ¬(l.userId = user ∧ l.videoId = video) := by
  simpa [like?, List.find?_eq_none] using h

theorem subscription?_eq_none {db : Database} {user channel : String} (h : db.subscription? user channel = none) :
    ∀ s ∈ db.subscriptions, ¬(s.subscriberId = user ∧ s.channelId = channel) := by
  simpa [subscription?, List.find?_eq_none] using h

theorem score?_eq_none {rows : List Score} {user key : String} (h : score? rows user key = none) :
    ∀ s ∈ rows, ¬(s.userId = user ∧ s.key = key) := by
  simpa [score?, List.find?_eq_none] using h

/-- The id of the next video is the id of none. -/
theorem not_hasVideo_nextVideoId (db : Database) : ¬db.HasVideo db.nextVideoId := by
  rintro ⟨v, hv, h⟩
  have := lt_nextId (List.mem_map_of_mem (f := (·.id)) hv)
  rw [h, nextVideoId] at this
  omega

/-- In tables with keys a video is determined by its id. -/
theorem Keyed.eq_of_video_id {db : Database} (h : db.Keyed) {v v' : Video} (hv : v ∈ db.videos) (hv' : v' ∈ db.videos)
    (hid : v.id = v'.id) : v = v' :=
  List.inj_on_of_nodup_map h.videos hv hv' hid

/-! ## Scores -/

/-- Counting up adds a row or keeps the keys as they are. -/
theorem nodup_countUp {rows : List Score} (user key : String) (h : (rows.map fun s => (s.userId, s.key)).Nodup) :
    ((countUp user key rows).map fun s => (s.userId, s.key)).Nodup := by
  unfold countUp
  split
  · refine nodup_map_map (fun s => ?_) h
    split <;> rfl
  · rename_i hnone
    rw [Option.not_isSome_iff_eq_none] at hnone
    refine nodup_map_concat h fun s hs heq => score?_eq_none hnone s hs ?_
    simpa using heq

/-- Setting a score removes a row or keeps the keys as they are. -/
theorem nodup_setScore {rows : List Score} (user key : String) (score : Int)
    (h : (rows.map fun s => (s.userId, s.key)).Nodup) :
    ((setScore user key score rows).map fun s => (s.userId, s.key)).Nodup := by
  unfold setScore
  split
  · exact nodup_map_filter _ h
  · refine nodup_map_map (fun s => ?_) h
    split <;> rfl

/-- What a decay does: nothing, or it sets the score of one row. -/
theorem decayCategory_cases {db db' : Database} {user category : String} {f : Number.Quantity} {answer : Option Int}
    (h : db.decayCategory user category f = .ok (answer, db')) :
    db' = db ∨ ∃ score, db' = { db with categoryScores := setScore user category score db.categoryScores } := by
  unfold decayCategory at h
  split at h
  · simp only [Except.ok.injEq, Prod.mk.injEq] at h
    exact Or.inl h.2.symm
  · split at h
    · simp at h
    · rename_i row _ score _
      split at h
      · simp only [Except.ok.injEq, Prod.mk.injEq] at h
        exact Or.inr ⟨score, h.2.symm⟩
      · split at h
        · simp only [Except.ok.injEq, Prod.mk.injEq] at h
          exact Or.inl h.2.symm
        · split at h
          · simp only [Except.ok.injEq, Prod.mk.injEq] at h
            exact Or.inr ⟨score, h.2.symm⟩
          · simp at h

/-! ## Every change keeps the keys -/

namespace Keyed

variable {db : Database}

theorem empty : Keyed {} := by
  constructor <;> simp

theorem addUser (h : db.Keyed) {u : User} (hnew : db.user? u.id = none) : { db with users := db.users ++ [u] }.Keyed :=
  { h with users := nodup_map_concat h.users fun y hy heq => user?_eq_none_iff.mp hnew ⟨y, hy, heq⟩ }

theorem updateUser (h : db.Keyed) (id : String) {f : User → User} (hf : ∀ u, (f u).id = u.id) :
    (db.updateUser id f).Keyed := by
  refine { h with users := nodup_map_map (fun u => ?_) h.users }
  split
  · exact hf u
  · rfl

theorem addVideo (h : db.Keyed) {v : Video} (hid : v.id = db.nextVideoId) : (db.addVideo v).Keyed :=
  { h with
    videos := nodup_map_concat h.videos fun y hy heq => db.not_hasVideo_nextVideoId ⟨y, hy, heq.trans hid⟩ }

theorem updateVideo (h : db.Keyed) (id : Int) {f : Video → Video} (hf : ∀ v, (f v).id = v.id) :
    (db.updateVideo id f).Keyed := by
  refine { h with videos := nodup_map_map (fun v => ?_) h.videos }
  split
  · exact hf v
  · rfl

theorem removeVideos (h : db.Keyed) (ids : List Int) : (db.removeVideos ids).Keyed :=
  { h with
    videos := nodup_map_filter _ h.videos
    likes := nodup_map_filter _ h.likes
    watches := nodup_map_filter _ h.watches }

theorem removeUser (h : db.Keyed) (id : String) : (db.removeUser id).Keyed where
  users := nodup_map_filter _ h.users
  videos := h.videos
  likes := nodup_map_filter _ h.likes
  watches := nodup_map_filter _ h.watches
  categoryScores := nodup_map_filter _ h.categoryScores
  languageScores := nodup_map_filter _ h.languageScores
  subscriptions := nodup_map_filter _ h.subscriptions
  searches := nodup_map_filter _ h.searches

theorem addLike (h : db.Keyed) {l : Like} (hnew : db.like? l.userId l.videoId = none) :
    { db with likes := db.likes ++ [l] }.Keyed := by
  refine { h with likes := nodup_map_concat h.likes fun y hy heq => like?_eq_none hnew y hy ?_ }
  simpa using heq

theorem removeLike (h : db.Keyed) (user : String) (video : Int) : (db.removeLike user video).Keyed :=
  { h with likes := nodup_map_filter _ h.likes }

theorem countWatch (h : db.Keyed) (user category language : String) : (db.countWatch user category language).Keyed :=
  { h with
    categoryScores := nodup_countUp user category h.categoryScores
    languageScores := nodup_countUp user language h.languageScores }

theorem refreshWatch (h : db.Keyed) (user : String) (video : Int) (since t : Instant) :
    (db.refreshWatch user video since t).Keyed := by
  refine { h with watches := nodup_map_concat (nodup_map_filter _ h.watches) fun y hy heq => ?_ }
  have := lt_nextId (List.mem_map_of_mem (f := (·.id)) (List.mem_filter.mp hy).1)
  simp only [nextWatchId] at heq
  omega

theorem decayCategory (h : db.Keyed) {db' : Database} {user category : String} {f : Number.Quantity}
    {answer : Option Int} (hd : db.decayCategory user category f = .ok (answer, db')) : db'.Keyed := by
  rcases decayCategory_cases hd with rfl | ⟨score, rfl⟩
  · exact h
  · exact { h with categoryScores := nodup_setScore _ _ _ h.categoryScores }

theorem addSubscription (h : db.Keyed) {s : Subscription} (hnew : db.subscription? s.subscriberId s.channelId = none) :
    (db.addSubscription s).Keyed := by
  refine { h with subscriptions := nodup_map_concat h.subscriptions fun y hy heq => subscription?_eq_none hnew y hy ?_ }
  simpa using heq

theorem removeSubscription (h : db.Keyed) (user channel : String) : (db.removeSubscription user channel).Keyed :=
  { h with subscriptions := nodup_map_filter _ h.subscriptions }

theorem replaceSearches (h : db.Keyed) (ids : List Int) (user option : String) (t : Instant) :
    (db.replaceSearches ids user option t).Keyed := by
  refine { h with searches := nodup_map_concat (nodup_map_filter _ h.searches) fun y hy heq => ?_ }
  have := lt_nextId (List.mem_map_of_mem (f := (·.id)) (List.mem_filter.mp hy).1)
  simp only [nextSearchId] at heq
  omega

theorem redateSearch (h : db.Keyed) (id : Int) (t : Instant) : (db.redateSearch id t).Keyed := by
  refine { h with searches := nodup_map_map (fun s => ?_) h.searches }
  split <;> rfl

theorem removeSearch (h : db.Keyed) (id : Int) : (db.removeSearch id).Keyed :=
  { h with searches := nodup_map_filter _ h.searches }

end Keyed

end Database

end VideoShare
