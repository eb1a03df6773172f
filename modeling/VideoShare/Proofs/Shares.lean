import VideoShare.Proofs.Departure
import VideoShare.Proofs.ScoreTables

/-!
# What a call does to the rows of others

The share of a user is what the tables hold of the user: the row, the videos, the likes, the scores, the two histories and the
subscriptions in which the user is the subscriber. A call is made by somebody (`Call.By`), who has to own the video that it changes or
removes. It spares everybody else: their shares stay as they are, but that a watch adds a view to the video watched, that likes and
watches of a video go with the video when its owner removes it, and that the subscriptions to a channel go when the channel leaves.
-/

namespace VideoShare

/-! ## Rows that a table keeps -/

section Rows

variable {α : Type} {p q : α → Bool} {l : List α}

/-- The rows of one kind stay when rows of other kinds go. -/
theorem filter_filter_of_imp (h : ∀ x ∈ l, p x = true → q x = true) : (l.filter q).filter p = l.filter p := by
  rw [List.filter_filter]
  refine List.filter_congr fun x hx => ?_
  by_cases hp : p x = true
  · simp [hp, h x hx hp]
  · simp [hp]

/-- The rows of one kind stay when a row of another kind is added. -/
theorem filter_concat_of_neg {x : α} (h : p x = false) : (l ++ [x]).filter p = l.filter p := by
  simp [List.filter_append, h]

/-- The rows of one kind stay when rows of other kinds change, unless these become of this kind. -/
theorem filter_map_of_fixed {f : α → α} (hkind : ∀ x ∈ l, p (f x) = p x) (hfix : ∀ x ∈ l, p x = true → f x = x) :
    (l.map f).filter p = l.filter p := by
  induction l with
  | nil => rfl
  | cons x l ih =>
    have hrest := ih (fun y hy => hkind y (List.mem_cons_of_mem x hy)) fun y hy => hfix y (List.mem_cons_of_mem x hy)
    have hx := hkind x List.mem_cons_self
    by_cases hp : p x = true
    · rw [List.map_cons, List.filter_cons_of_pos (by rw [hx, hp]), List.filter_cons_of_pos hp, hrest,
        hfix x List.mem_cons_self hp]
    · rw [List.map_cons, List.filter_cons_of_neg (by rw [hx]; exact hp), List.filter_cons_of_neg hp, hrest]

end Rows

namespace Database

/-! ## Shares -/

/-- What the tables hold of a user. -/
def shareOf (db : Database) (user : String) : Database where
  users := db.users.filter (·.id == user)
  videos := db.videos.filter (·.ownerId == user)
  likes := db.likes.filter (·.userId == user)
  watches := db.watches.filter (·.userId == user)
  categoryScores := rowsOf db.categoryScores user
  languageScores := rowsOf db.languageScores user
  subscriptions := db.subscriptions.filter (·.subscriberId == user)
  searches := db.searches.filter (·.userId == user)

/-- The ids of the videos of somebody that are in some tables and no longer in others. -/
def goneOf (before after : Database) (caller : Option String) : List Int :=
  (before.videos.filter fun v => decide (some v.ownerId = caller ∧ ¬after.HasVideo v.id)).map (·.id)

theorem mem_goneOf {before after : Database} {caller : Option String} {id : Int} :
    id ∈ before.goneOf after caller ↔ ∃ v ∈ before.videos, (some v.ownerId = caller ∧ ¬after.HasVideo v.id) ∧ v.id = id := by
  simp only [goneOf, List.mem_map, List.mem_filter, decide_eq_true_eq, and_assoc]

/-- What may have become of the share of another user when somebody has made a call. The user's row, scores and search history are as
before. The user's videos are as before too, but that one of them may have a view more when the call was to watch it. Of the user's
likes and watches none is missing but those of videos that were the caller's and are gone. The user's subscriptions are as before, but
for one to the caller when the caller has left. -/
structure Spares (before after : Database) (caller : Option String) (watching leaving : Prop) (other : String) : Prop where
  user : (after.shareOf other).users = (before.shareOf other).users
  categoryScores : (after.shareOf other).categoryScores = (before.shareOf other).categoryScores
  languageScores : (after.shareOf other).languageScores = (before.shareOf other).languageScores
  searches : (after.shareOf other).searches = (before.shareOf other).searches
  videos : (after.shareOf other).videos = (before.shareOf other).videos ∨
    watching ∧ ∃ id, (after.shareOf other).videos = (before.shareOf other).videos.map fun v => if v.id == id then addView v else v
  likes : (after.shareOf other).likes =
    (before.shareOf other).likes.filter fun l => !(before.goneOf after caller).contains l.videoId
  watches : (after.shareOf other).watches =
    (before.shareOf other).watches.filter fun h => !(before.goneOf after caller).contains h.videoId
  subscriptions : (after.shareOf other).subscriptions = (before.shareOf other).subscriptions ∨
    leaving ∧ ∃ left, caller = some left ∧
      (after.shareOf other).subscriptions = (before.shareOf other).subscriptions.filter fun s => s.channelId != left

/-- What a user is spared stays true when more may be watching or leaving. -/
theorem Spares.mono {before after : Database} {caller : Option String} {watching watching' leaving leaving' : Prop} {other : String}
    (h : before.Spares after caller watching leaving other) (hwatching : watching → watching') (hleaving : leaving → leaving') :
    before.Spares after caller watching' leaving' other :=
  { h with
    videos := h.videos.imp_right (And.imp_left hwatching)
    subscriptions := h.subscriptions.imp_right (And.imp_left hleaving) }

/-- Where no video goes, none of the caller's is gone. -/
theorem goneOf_eq_nil {before after : Database} (caller : Option String) (h : ∀ v ∈ before.videos, after.HasVideo v.id) :
    before.goneOf after caller = [] := by
  refine List.eq_nil_iff_forall_not_mem.mpr fun id hid => ?_
  obtain ⟨v, hv, ⟨-, hnot⟩, -⟩ := mem_goneOf.mp hid
  exact hnot (h v hv)

/-- Who sees the own share as before is spared, where no video goes. -/
theorem Spares.of_shareOf_eq {before after : Database} {caller : Option String} {watching leaving : Prop} {other : String}
    (hshare : after.shareOf other = before.shareOf other) (hvideos : ∀ v ∈ before.videos, after.HasVideo v.id) :
    before.Spares after caller watching leaving other := by
  have hgone := goneOf_eq_nil caller hvideos
  constructor <;> simp [hshare, hgone]

/-- The same for a video that is watched. -/
theorem Spares.of_watch {before after : Database} {caller : Option String} {watching leaving : Prop} {other : String}
    (hwatching : watching) (id : Int) (hshare : after.shareOf other = (before.updateVideo id addView).shareOf other)
    (hvideos : ∀ v ∈ before.videos, after.HasVideo v.id) : before.Spares after caller watching leaving other := by
  have hgone := goneOf_eq_nil caller hvideos
  have hviews : (after.shareOf other).videos =
      (before.shareOf other).videos.map fun v => if v.id == id then addView v else v := by
    have howner : ((·.ownerId == other) ∘ fun v : Video => if v.id == id then addView v else v) = (·.ownerId == other) := by
      funext v
      simp only [Function.comp]
      split <;> rfl
    rw [hshare]
    simp only [shareOf, updateVideo, List.filter_map, howner]
  refine ⟨?_, ?_, ?_, ?_, Or.inr ⟨hwatching, id, hviews⟩, ?_, ?_, Or.inl ?_⟩
  all_goals
    rw [hshare]
    simp [shareOf, updateVideo, hgone]

/-! ## Single changes -/

section Changes

variable {db : Database} {other : String}

/-- A user changes, and not this one. -/
theorem shareOf_updateUser {id : String} {f : User → User} (hf : ∀ u, (f u).id = u.id) (hne : id ≠ other) :
    (db.updateUser id f).shareOf other = db.shareOf other := by
  have husers : (db.updateUser id f).users.filter (·.id == other) = db.users.filter (·.id == other) := by
    refine filter_map_of_fixed (fun u _ => ?_) fun u _ hu => ?_
    · split
      · rw [hf u]
      · rfl
    · have hid : u.id = other := by simpa using hu
      simp [hid, hne.symm]
  simp only [shareOf, husers]
  rfl

/-- A video changes, and it is not one of this user's. -/
theorem shareOf_updateVideo {id : Int} {f : Video → Video} (hf : ∀ v, (f v).ownerId = v.ownerId)
    (hid : ∀ v ∈ db.videos, v.id = id → v.ownerId ≠ other) : (db.updateVideo id f).shareOf other = db.shareOf other := by
  have hvideos : (db.updateVideo id f).videos.filter (·.ownerId == other) = db.videos.filter (·.ownerId == other) := by
    refine filter_map_of_fixed (fun v _ => ?_) fun v hv howner => ?_
    · split
      · rw [hf v]
      · rfl
    · have hne : v.id ≠ id := fun heq => hid v hv heq (by simpa using howner)
      simp [hne]
  simp only [shareOf, hvideos]
  rfl

/-- Videos go, none of them this user's, and the likes and the watches of them. -/
theorem shareOf_removeVideos {ids : List Int} (hids : ∀ v ∈ db.videos, v.id ∈ ids → v.ownerId ≠ other) :
    (db.removeVideos ids).shareOf other =
      { db.shareOf other with
        likes := (db.shareOf other).likes.filter fun l => !ids.contains l.videoId
        watches := (db.shareOf other).watches.filter fun h => !ids.contains h.videoId } := by
  have hvideos : (db.removeVideos ids).videos.filter (·.ownerId == other) = db.videos.filter (·.ownerId == other) := by
    refine filter_filter_of_imp fun v hv howner => ?_
    have hnot : v.id ∉ ids := fun hmem => hids v hv hmem (by simpa using howner)
    simpa using hnot
  simp only [shareOf, hvideos]
  simp only [removeVideos, List.filter_filter, Bool.and_comm]

/-- A user leaves who is not this one. -/
theorem shareOf_removeUser {id : String} (hne : id ≠ other) :
    (db.removeUser id).shareOf other =
      { db.shareOf other with subscriptions := (db.shareOf other).subscriptions.filter fun s => s.channelId != id } := by
  have hkept : ∀ user : String, (user == other) = true → (user != id) = true := by
    intro user huser
    have huser : user = other := by simpa using huser
    simpa [huser] using hne.symm
  have husers : (db.removeUser id).users.filter (·.id == other) = db.users.filter (·.id == other) :=
    filter_filter_of_imp fun u _ hu => hkept u.id hu
  have hlikes : (db.removeUser id).likes.filter (·.userId == other) = db.likes.filter (·.userId == other) :=
    filter_filter_of_imp fun l _ hl => hkept l.userId hl
  have hwatches : (db.removeUser id).watches.filter (·.userId == other) = db.watches.filter (·.userId == other) :=
    filter_filter_of_imp fun h _ hh => hkept h.userId hh
  have hsearches : (db.removeUser id).searches.filter (·.userId == other) = db.searches.filter (·.userId == other) :=
    filter_filter_of_imp fun s _ hs => hkept s.userId hs
  have hcategories : rowsOf (db.removeUser id).categoryScores other = rowsOf db.categoryScores other :=
    filter_filter_of_imp fun s _ hs => hkept s.userId hs
  have hlanguages : rowsOf (db.removeUser id).languageScores other = rowsOf db.languageScores other :=
    filter_filter_of_imp fun s _ hs => hkept s.userId hs
  have hsubscriptions : (db.removeUser id).subscriptions.filter (·.subscriberId == other) =
      (db.subscriptions.filter (·.subscriberId == other)).filter fun s => s.channelId != id := by
    simp only [removeUser, List.filter_filter]
    refine List.filter_congr fun s _ => ?_
    by_cases hs : s.subscriberId = other
    · simp [hs, hne.symm, bne]
    · have hnot : (s.subscriberId == other) = false := beq_eq_false_iff_ne.mpr hs
      simp [hnot]
  simp only [shareOf, husers, hlikes, hwatches, hsearches, hcategories, hlanguages, hsubscriptions]
  rfl

/-- A user who is not this one likes a video. -/
theorem shareOf_addLike {l : Like} (hne : l.userId ≠ other) :
    { db with likes := db.likes ++ [l] }.shareOf other = db.shareOf other := by
  have hlikes : (db.likes ++ [l]).filter (·.userId == other) = db.likes.filter (·.userId == other) :=
    filter_concat_of_neg (beq_eq_false_iff_ne.mpr hne)
  simp only [shareOf, hlikes]

theorem shareOf_removeLike {user : String} {video : Int} (hne : user ≠ other) :
    (db.removeLike user video).shareOf other = db.shareOf other := by
  have hlikes : (db.removeLike user video).likes.filter (·.userId == other) = db.likes.filter (·.userId == other) := by
    refine filter_filter_of_imp fun l _ hl => ?_
    have hl : l.userId = other := by simpa using hl
    simp [hl, hne.symm]
  simp only [shareOf, hlikes]
  rfl

theorem shareOf_addSubscription {s : Subscription} (hne : s.subscriberId ≠ other) :
    (db.addSubscription s).shareOf other = db.shareOf other := by
  have hsubscriptions : (db.subscriptions ++ [s]).filter (·.subscriberId == other) =
      db.subscriptions.filter (·.subscriberId == other) := filter_concat_of_neg (beq_eq_false_iff_ne.mpr hne)
  simp only [shareOf, addSubscription, hsubscriptions]

theorem shareOf_removeSubscription {user channel : String} (hne : user ≠ other) :
    (db.removeSubscription user channel).shareOf other = db.shareOf other := by
  have hsubscriptions : (db.removeSubscription user channel).subscriptions.filter (·.subscriberId == other) =
      db.subscriptions.filter (·.subscriberId == other) := by
    refine filter_filter_of_imp fun s _ hs => ?_
    have hs : s.subscriberId = other := by simpa using hs
    simp [hs, hne.symm]
  simp only [shareOf, hsubscriptions]
  rfl

theorem shareOf_addVideo {v : Video} (hne : v.ownerId ≠ other) : (db.addVideo v).shareOf other = db.shareOf other := by
  have hvideos : (db.videos ++ [v]).filter (·.ownerId == other) = db.videos.filter (·.ownerId == other) :=
    filter_concat_of_neg (beq_eq_false_iff_ne.mpr hne)
  simp only [shareOf, addVideo, hvideos]

/-- A user registers, under another id. -/
theorem shareOf_addUser {u : User} (hne : u.id ≠ other) :
    { db with users := db.users ++ [u] }.shareOf other = db.shareOf other := by
  have husers : (db.users ++ [u]).filter (·.id == other) = db.users.filter (·.id == other) :=
    filter_concat_of_neg (beq_eq_false_iff_ne.mpr hne)
  simp only [shareOf, husers]

/-- Searches go, none of them this user's, and one of another user's is added. -/
theorem shareOf_replaceSearches {ids : List Int} {user option : String} {t : Instant} (hne : user ≠ other)
    (hids : ∀ e ∈ db.searches, e.id ∈ ids → e.userId ≠ other) :
    (db.replaceSearches ids user option t).shareOf other = db.shareOf other := by
  have hsearches : (db.replaceSearches ids user option t).searches.filter (·.userId == other) =
      db.searches.filter (·.userId == other) := by
    refine (filter_concat_of_neg (p := fun e : Search => e.userId == other) (beq_eq_false_iff_ne.mpr hne)).trans ?_
    refine filter_filter_of_imp fun e he howner => ?_
    have hnot : e.id ∉ ids := fun hmem => hids e he hmem (by simpa using howner)
    simpa using hnot
  simp only [shareOf, hsearches]
  rfl

theorem shareOf_redateSearch {id : Int} {t : Instant} (hid : ∀ e ∈ db.searches, e.id = id → e.userId ≠ other) :
    (db.redateSearch id t).shareOf other = db.shareOf other := by
  have hsearches : (db.redateSearch id t).searches.filter (·.userId == other) = db.searches.filter (·.userId == other) := by
    refine filter_map_of_fixed (fun e _ => ?_) fun e he howner => ?_
    · split <;> rfl
    · have hne : e.id ≠ id := fun heq => hid e he heq (by simpa using howner)
      simp [hne]
  simp only [shareOf, hsearches]
  rfl

theorem shareOf_removeSearch {id : Int} (hid : ∀ e ∈ db.searches, e.id = id → e.userId ≠ other) :
    (db.removeSearch id).shareOf other = db.shareOf other := by
  have hsearches : (db.removeSearch id).searches.filter (·.userId == other) = db.searches.filter (·.userId == other) := by
    refine filter_filter_of_imp fun e he howner => ?_
    have hne : e.id ≠ id := fun heq => hid e he heq (by simpa using howner)
    simpa using hne
  simp only [shareOf, hsearches]
  rfl

/-- A watch is counted and remembered for a user who is not this one. -/
theorem shareOf_rememberWatch {user : String} {v : Video} {since t : Instant} (hne : user ≠ other) :
    (db.rememberWatch user v since t).shareOf other = db.shareOf other := by
  have hwatches : (db.rememberWatch user v since t).watches.filter (·.userId == other) =
      db.watches.filter (·.userId == other) := by
    refine (filter_concat_of_neg (p := fun h : Watch => h.userId == other) (beq_eq_false_iff_ne.mpr hne)).trans ?_
    refine filter_filter_of_imp fun h _ hh => ?_
    have hh : h.userId = other := by simpa using hh
    simp [hh, hne.symm]
  have hcategories : rowsOf (db.rememberWatch user v since t).categoryScores other = rowsOf db.categoryScores other :=
    rowsOf_countUp_of_ne hne.symm
  have hlanguages : rowsOf (db.rememberWatch user v since t).languageScores other = rowsOf db.languageScores other :=
    rowsOf_countUp_of_ne hne.symm
  simp only [shareOf, hwatches, hcategories, hlanguages]
  rfl

theorem shareOf_decayCategory {db' : Database} {user category : String} {f : Number.Quantity} {answer : Option Int}
    (h : db.decayCategory user category f = .ok (answer, db')) (hne : user ≠ other) :
    db'.shareOf other = db.shareOf other := by
  rcases decayCategory_cases h with rfl | ⟨score, rfl⟩
  · rfl
  · simp only [shareOf, rowsOf_setScore_of_ne hne.symm]

end Changes

/-! ## Searches of a user -/

/-- In tables with keys a search is determined by its id. -/
theorem Keyed.eq_of_search_id {db : Database} (h : db.Keyed) {e entry : Search} (he : e ∈ db.searches)
    (hentry : entry ∈ db.searches) (hid : e.id = entry.id) : e = entry :=
  List.inj_on_of_nodup_map h.searches he hentry hid

/-- The searches that a new one pushes out are the user's own. -/
theorem mem_outdatedSearches {db : Database} {limit : Int} {user : String} {id : Int}
    (h : id ∈ db.outdatedSearches limit user) : ∃ entry ∈ db.searches, entry.userId = user ∧ entry.id = id := by
  obtain ⟨entry, hentry, rfl⟩ := List.mem_map.mp h
  have hlisted : entry ∈ db.searchesOf user := by
    unfold dropFrom at hentry
    split at hentry
    · exact List.mem_of_mem_drop hentry
    · exact List.mem_of_mem_drop hentry
  have hrow := List.mem_filter.mp (List.mem_mergeSort.mp hlisted)
  exact ⟨entry, hrow.1, by simpa using hrow.2, rfl⟩

theorem search?_eq_some {db : Database} {user option : String} {entry : Search} (h : db.search? user option = some entry) :
    entry ∈ db.searches ∧ entry.userId = user := by
  have hfound := List.find?_some h
  simp only [Bool.and_eq_true, beq_iff_eq] at hfound
  exact ⟨List.mem_of_find?_eq_some h, hfound.1⟩

/-! ## Videos of the caller's -/

section Gone

variable {caller : Option String} {other : String}

/-- When a caller's videos go, what is gone of the caller is just these. -/
theorem mem_goneOf_iff {before after : Database} {ids : List Int} (hids : ∀ id ∈ ids, ∃ v ∈ before.videos,
    v.id = id ∧ caller = some v.ownerId) (hafter : after.videos = (before.removeVideos ids).videos) (id : Int) :
    id ∈ before.goneOf after caller ↔ id ∈ ids := by
  have hleft : ∀ i, after.HasVideo i ↔ before.HasVideo i ∧ i ∉ ids := by
    intro i
    simp only [HasVideo, hafter, removeVideos, List.mem_filter, Bool.not_eq_true', ← Bool.not_eq_true,
      List.contains_iff_mem]
    constructor
    · rintro ⟨v, ⟨hv, hnot⟩, rfl⟩
      exact ⟨⟨v, hv, rfl⟩, hnot⟩
    · rintro ⟨⟨v, hv, rfl⟩, hnot⟩
      exact ⟨v, ⟨hv, hnot⟩, rfl⟩
  rw [mem_goneOf]
  constructor
  · rintro ⟨v, hv, ⟨-, hgone⟩, rfl⟩
    by_contra hnot
    exact hgone ((hleft v.id).mpr ⟨⟨v, hv, rfl⟩, hnot⟩)
  · intro hid
    obtain ⟨v, hv, rfl, hcaller⟩ := hids id hid
    exact ⟨v, hv, ⟨hcaller.symm, fun hstill => ((hleft v.id).mp hstill).2 hid⟩, rfl⟩

/-- When a caller's videos go, the likes and watches of what is gone of the caller are those of these videos. -/
theorem rows_of_gone {before : Database} (after : Database) {ids : List Int} (hids : ∀ id ∈ ids, ∃ v ∈ before.videos,
    v.id = id ∧ caller = some v.ownerId) (hafter : after.videos = (before.removeVideos ids).videos) :
    (fun l : Like => !(before.goneOf after caller).contains l.videoId) = (fun l => !ids.contains l.videoId) ∧
      (fun h : Watch => !(before.goneOf after caller).contains h.videoId) = fun h => !ids.contains h.videoId := by
  have hsame : ∀ id, (before.goneOf after caller).contains id = ids.contains id := by
    intro id
    rw [Bool.eq_iff_iff, List.contains_iff_mem, List.contains_iff_mem]
    exact mem_goneOf_iff hids hafter id
  exact ⟨funext fun l => by rw [hsame], funext fun h => by rw [hsame]⟩

/-- Removing videos of the caller's spares everybody else. -/
theorem spares_removeVideos {before : Database} {ids : List Int} {watching leaving : Prop} (hkeys : before.Keyed)
    (hids : ∀ id ∈ ids, ∃ v ∈ before.videos, v.id = id ∧ caller = some v.ownerId) (hne : caller ≠ some other) :
    before.Spares (before.removeVideos ids) caller watching leaving other := by
  have hothers : ∀ v ∈ before.videos, v.id ∈ ids → v.ownerId ≠ other := by
    intro v hv hid heq
    obtain ⟨v', hv', hsame, hcaller⟩ := hids v.id hid
    rw [hkeys.eq_of_video_id hv' hv hsame, heq] at hcaller
    exact hne hcaller
  have hshare := shareOf_removeVideos hothers
  obtain ⟨hlikes, hwatches⟩ := rows_of_gone (before.removeVideos ids) hids rfl
  refine ⟨?_, ?_, ?_, ?_, Or.inl ?_, ?_, ?_, Or.inl ?_⟩
  all_goals simp only [hshare, hlikes, hwatches]

/-- A user who leaves spares everybody else, but for their subscriptions to the user. -/
theorem spares_departure {before : Database} {user : String} {watching leaving : Prop} (hleaving : leaving) (hkeys : before.Keyed)
    (hcaller : caller = some user) (hne : caller ≠ some other) :
    before.Spares ((before.removeVideos (before.ownedVideos user)).removeUser user) caller watching leaving other := by
  have hother : user ≠ other := fun heq => hne (heq ▸ hcaller)
  have hids : ∀ id ∈ before.ownedVideos user, ∃ v ∈ before.videos, v.id = id ∧ caller = some v.ownerId := by
    intro id hid
    obtain ⟨v, hv, rfl, rfl⟩ := mem_ownedVideos.mp hid
    exact ⟨v, hv, rfl, hcaller⟩
  have hothers : ∀ v ∈ before.videos, v.id ∈ before.ownedVideos user → v.ownerId ≠ other := by
    intro v hv hid
    rw [(hkeys.mem_ownedVideos_iff hv).mp hid]
    exact hother
  have hshare : ((before.removeVideos (before.ownedVideos user)).removeUser user).shareOf other = _ :=
    shareOf_removeUser hother
  rw [shareOf_removeVideos hothers] at hshare
  obtain ⟨hlikes, hwatches⟩ := rows_of_gone ((before.removeVideos (before.ownedVideos user)).removeUser user) hids rfl
  refine ⟨?_, ?_, ?_, ?_, Or.inl ?_, ?_, ?_, Or.inr ⟨hleaving, user, hcaller, ?_⟩⟩
  all_goals simp only [hshare, hlikes, hwatches]

end Gone

end Database

/-! ## Calls -/

namespace Call

/-- Whether a call is made by somebody, given the tables. A user may act for the user alone; who changes or removes a video has to own
it; anybody may register a user. -/
def By (db : Database) (caller : Option String) : Call → Prop
  | register _ => True
  | changeUser id _ | deleteUser id => caller = some id
  | like user _ | dislike user _ | notInterested _ user => caller = some user
  | subscribe user _ | unsubscribe user _ | addSearch user _ | deleteSearch user _ => caller = some user
  | watch _ user => caller = user
  | createVideo _ owner _ _ _ => caller = some owner
  | changeVideo video _ _ _ | deleteVideo video => ∃ v, db.video? video = some v ∧ caller = some v.ownerId

variable {s : Settings} {w : World} {c : Call} {answer : Except Failure Unit} {db : Database}

/-- Only the two removals make a video go. -/
theorem Effect.videos_stay (h : c.Effect s w answer db) (huser : ∀ id, c ≠ .deleteUser id)
    (hvideo : ∀ id, c ≠ .deleteVideo id) :
    ∀ v ∈ w.db.videos, db.HasVideo v.id := by
  intro v hv
  have hthere : w.db.HasVideo v.id := ⟨v, hv, rfl⟩
  cases h with
  | deleteUser => exact absurd rfl (huser _)
  | deleteVideo => exact absurd rfl (hvideo _)
  | watch => exact Database.HasVideo.updateVideo hthere _ fun _ => rfl
  | watchUnknown => exact hthere.updateVideo _ fun _ => rfl
  | changeVideo => exact hthere.updateVideo _ fun _ => rfl
  | createVideo => exact ⟨v, List.mem_append_left _ hv, rfl⟩
  | notInterested _ _ hdecay =>
    rcases Database.decayCategory_cases hdecay with rfl | ⟨score, rfl⟩
    · exact hthere
    · exact hthere
  | _ => exact hthere

variable {caller : Option String} {other : String}

/-- The calls that may show in the share of another user. -/
def isFelt : Call → Bool
  | watch _ _ | deleteUser _ | deleteVideo _ => true
  | _ => false

/-- A call that is not felt leaves the share of everybody else as it was. -/
theorem Effect.shareOf_eq (h : c.Effect s w answer db) (hquiet : c.isFelt = false) (hkeys : w.db.Keyed) (hby : c.By w.db caller)
    (hother : w.db.HasUser other) (hne : caller ≠ some other) : db.shareOf other = w.db.shareOf other := by
  have hacting : ∀ {user}, caller = some user → user ≠ other := fun hcaller heq => hne (heq ▸ hcaller)
  cases h with
  | failed => rfl
  | @register data new =>
    have hid : data.id ≠ other := fun heq => Database.user?_eq_none_iff.mp new (heq ▸ hother)
    exact Database.shareOf_addUser hid
  | changeUser => exact Database.shareOf_updateUser (fun _ => rfl) (hacting hby)
  | addLike => exact Database.shareOf_addLike (hacting hby)
  | takeLike => exact Database.shareOf_removeLike (hacting hby)
  | dislike => exact Database.shareOf_removeLike (hacting hby)
  | dislikeUnseen => rfl
  | notInterested _ _ decayed => exact Database.shareOf_decayCategory decayed (hacting hby)
  | subscribe => exact Database.shareOf_addSubscription (hacting hby)
  | subscribeAgain => rfl
  | unsubscribe => exact Database.shareOf_removeSubscription (hacting hby)
  | addSearch =>
    refine Database.shareOf_replaceSearches (hacting hby) fun e he hmem => ?_
    obtain ⟨entry, hentry, howner, hid⟩ := Database.mem_outdatedSearches hmem
    rw [hkeys.eq_of_search_id he hentry hid.symm, howner]
    exact hacting hby
  | redateSearch _ there =>
    obtain ⟨hentry, howner⟩ := Database.search?_eq_some there
    refine Database.shareOf_redateSearch fun e he hid => ?_
    rw [hkeys.eq_of_search_id he hentry hid, howner]
    exact hacting hby
  | deleteSearch there =>
    obtain ⟨hentry, howner⟩ := Database.search?_eq_some there
    refine Database.shareOf_removeSearch fun e he hid => ?_
    rw [hkeys.eq_of_search_id he hentry hid, howner]
    exact hacting hby
  | createVideo => exact Database.shareOf_addVideo (hacting hby)
  | changeVideo =>
    obtain ⟨v, hfound, hcaller⟩ := hby
    refine Database.shareOf_updateVideo (fun _ => rfl) fun v' hv' hid => ?_
    obtain ⟨hv, hvid⟩ := Database.video?_eq_some hfound
    rw [hkeys.eq_of_video_id hv' hv (hid.trans hvid.symm)]
    exact hacting hcaller
  | deleteUser => exact absurd hquiet (by simp [isFelt])
  | watch => exact absurd hquiet (by simp [isFelt])
  | watchUnknown => exact absurd hquiet (by simp [isFelt])
  | deleteVideo => exact absurd hquiet (by simp [isFelt])

/-- Whatever a call does, it spares everybody but the one who makes it. -/
theorem Effect.spares (h : c.Effect s w answer db) (hkeys : w.db.Keyed) (hby : c.By w.db caller) (hother : w.db.HasUser other)
    (hne : caller ≠ some other) :
    w.db.Spares db caller (∃ video user, c = .watch video user) (∃ user, c = .deleteUser user) other := by
  cases hfelt : c.isFelt with
  | false =>
    refine .of_shareOf_eq (h.shareOf_eq hfelt hkeys hby hother hne) (h.videos_stay ?_ ?_)
    · rintro id rfl
      simp [isFelt] at hfelt
    · rintro id rfl
      simp [isFelt] at hfelt
  | true =>
    cases h with
    | failed => exact .of_shareOf_eq rfl fun v hv => ⟨v, hv, rfl⟩
    | deleteUser => exact Database.spares_departure ⟨_, rfl⟩ hkeys hby hne
    | @deleteVideo video =>
      obtain ⟨v, hfound, hcaller⟩ := hby
      obtain ⟨hv, rfl⟩ := Database.video?_eq_some hfound
      refine Database.spares_removeVideos hkeys (fun id hid => ?_) hne
      exact ⟨v, hv, (List.mem_singleton.mp hid).symm, hcaller⟩
    | @watch video user v since _ registered =>
      have huser : user ≠ other := fun heq => hne (by rw [hby, heq])
      refine .of_watch ⟨_, _, rfl⟩ video ?_ fun v hv => ?_
      · calc ((w.db.rememberWatch user v since w.now).updateVideo video addView).shareOf other
            = { (w.db.rememberWatch user v since w.now).shareOf other with
                videos := ((w.db.updateVideo video addView).shareOf other).videos } := rfl
          _ = (w.db.updateVideo video addView).shareOf other := by rw [Database.shareOf_rememberWatch huser]; rfl
      · have hthere : w.db.HasVideo v.id := ⟨v, hv, rfl⟩
        exact hthere.updateVideo _ fun _ => rfl
    | watchUnknown =>
      exact .of_watch ⟨_, _, rfl⟩ _ rfl fun v hv => Database.HasVideo.updateVideo ⟨v, hv, rfl⟩ _ fun _ => rfl
    | _ => simp [isFelt] at hfelt

end Call

end VideoShare
