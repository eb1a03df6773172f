import VideoShare.Proofs.Services
import Mathlib.Data.Finset.Dedup
import Mathlib.Data.Finset.Insert
import Mathlib.Data.Finset.Erase

/-!
# Likes as edges

A like is an edge from a user to a video, and the table of likes is a finite set of them. Here is what each call on likes answers and
leaves, from what it finds. Calls look the user and the video up first; what they do then depends on whether the edge is there and on
how many look-ups of likes in the call are stale. A look-up that does not see an edge that is there lets the toggle add it a second
time, which fails on the key that is taken; the toggle then begins anew. So one stale look-up is made good and two are not, and where
the edge is not there a stale look-up tells the truth.
-/

namespace VideoShare

/-- A user and a video that the user may like. -/
abbrev Edge : Type := String × Int

/-- The edge of a like. -/
def Like.edge (l : Like) : Edge := (l.userId, l.videoId)

namespace Database

/-- The edges of the likes in the tables. -/
def edges (db : Database) : Finset Edge := (db.likes.map Like.edge).toFinset

/-- Why there can be no edge from a user to a video: the user is not registered, or there is no such video. The id of a video that does
not fit into a column is not looked up. -/
def missing (db : Database) (user : String) (video : Int) : Option Failure :=
  if db.HasUser user then
    if fitsColumn video = true then
      if db.HasVideo video then none else some (.refused .noVideo)
    else some .integerTooWide
  else some (.refused .noUser)

/-- What is missing is not found, but for a video whose id is too wide for the database. -/
theorem missing_eq_some {db : Database} {user : String} {video : Int} {e : Failure} (h : db.missing user video = some e) :
    (∃ r, e = .refused r ∧ r.kind = .notFound) ∨ db.HasUser user ∧ fitsColumn video = false ∧ e = .integerTooWide := by
  unfold missing at h
  split at h
  · rename_i huser
    split at h
    · split at h
      · simp at h
      · exact Or.inl ⟨.noVideo, (Option.some.inj h).symm, rfl⟩
    · rename_i hwide
      exact Or.inr ⟨huser, by simpa using hwide, (Option.some.inj h).symm⟩
  · exact Or.inl ⟨.noUser, (Option.some.inj h).symm, rfl⟩

/-! ## The set of edges -/

theorem mem_edges {db : Database} {edge : Edge} : edge ∈ db.edges ↔ ∃ l ∈ db.likes, l.edge = edge := by
  rw [edges, List.mem_toFinset, List.mem_map]

/-- A like is found exactly when its edge is there. -/
theorem like?_isSome_iff {db : Database} {user : String} {video : Int} :
    (db.like? user video).isSome = true ↔ (user, video) ∈ db.edges := by
  simp [mem_edges, like?, List.find?_isSome, Like.edge]

theorem like?_eq_none_iff {db : Database} {user : String} {video : Int} :
    db.like? user video = none ↔ (user, video) ∉ db.edges := by
  rw [← like?_isSome_iff, Option.not_isSome_iff_eq_none]

theorem edges_append (db : Database) (l : Like) :
    { db with likes := db.likes ++ [l] }.edges = insert l.edge db.edges := by
  ext edge
  simp only [mem_edges, List.mem_append, List.mem_singleton, Finset.mem_insert]
  constructor
  · rintro ⟨l', hl' | rfl, rfl⟩
    · exact Or.inr ⟨l', hl', rfl⟩
    · exact Or.inl rfl
  · rintro (rfl | ⟨l', hl', rfl⟩)
    · exact ⟨l, Or.inr rfl, rfl⟩
    · exact ⟨l', Or.inl hl', rfl⟩

/-- A like stays when another edge is taken out, and goes with its own. -/
theorem mem_removeLike {db : Database} {user : String} {video : Int} {l : Like} :
    l ∈ (db.removeLike user video).likes ↔ l ∈ db.likes ∧ l.edge ≠ (user, video) := by
  simp [removeLike, List.mem_filter, Like.edge, imp_iff_not_or]

theorem edges_removeLike (db : Database) (user : String) (video : Int) :
    (db.removeLike user video).edges = db.edges.erase (user, video) := by
  ext edge
  simp only [mem_edges, mem_removeLike, Finset.mem_erase]
  constructor
  · rintro ⟨l, ⟨hl, hne⟩, rfl⟩
    exact ⟨hne, l, hl, rfl⟩
  · rintro ⟨hne, l, hl, rfl⟩
    exact ⟨l, ⟨hl, hne⟩, rfl⟩

/-- Taking out an edge that is not there changes nothing. -/
theorem removeLike_of_not_mem {db : Database} {user : String} {video : Int} (h : (user, video) ∉ db.edges) :
    db.removeLike user video = db := by
  have hall : db.likes.filter (fun l => !(l.userId == user && l.videoId == video)) = db.likes := by
    refine List.filter_eq_self.mpr fun l hl => ?_
    have hne : l.edge ≠ (user, video) := fun heq => h (mem_edges.mpr ⟨l, hl, heq⟩)
    simpa [Like.edge, imp_iff_not_or] using hne
  rw [removeLike, hall]

theorem video?_eq_none_iff {db : Database} {id : Int} : db.video? id = none ↔ ¬db.HasVideo id := by
  simp [video?, HasVideo, List.find?_eq_none]

/-- Neither a user nor a video is missing. -/
theorem missing_eq_none {db : Database} {user : String} {video : Int} :
    db.missing user video = none ↔ db.HasUser user ∧ fitsColumn video = true ∧ db.HasVideo video := by
  unfold missing
  by_cases huser : db.HasUser user <;> by_cases hfits : fitsColumn video = true <;>
    by_cases hvideo : db.HasVideo video <;> simp [huser, hfits, hvideo]

/-! ## The likes of a user -/

theorem mem_likesOf {db : Database} {user : String} {l : Like} : l ∈ db.likesOf user ↔ l ∈ db.likes ∧ l.userId = user := by
  simp [likesOf, List.mem_mergeSort]

/-- In tables with keys a user likes no video twice. -/
theorem Keyed.nodup_likesOf {db : Database} (h : db.Keyed) (user : String) : ((db.likesOf user).map (·.videoId)).Nodup := by
  have hperm : ((db.likesOf user).map (·.videoId)).Perm ((db.likes.filter (·.userId == user)).map (·.videoId)) :=
    (List.mergeSort_perm _ _).map _
  refine hperm.nodup_iff.mpr (nodup_map_filter_owned (o := user) (fun l hl => ?_) h.likes)
  simpa using hl

/-- In tables with keys a video is found under its id. -/
theorem Keyed.video?_of_mem {db : Database} (h : db.Keyed) {v : Video} (hv : v ∈ db.videos) : db.video? v.id = some v := by
  cases hfound : db.video? v.id with
  | none => exact absurd ⟨v, hv, rfl⟩ (video?_eq_none_iff.mp hfound)
  | some v' =>
    obtain ⟨hmem, hid⟩ := video?_eq_some hfound
    rw [h.eq_of_video_id hmem hv hid]

/-- The ids of the videos found for some likes are among the ids that the likes name. -/
theorem sublist_filterMap_video? (db : Database) (likes : List Like) :
    ((likes.filterMap fun l => db.video? l.videoId).map (·.id)).Sublist (likes.map (·.videoId)) := by
  induction likes with
  | nil => exact List.Sublist.refl _
  | cons l likes ih =>
    cases hv : db.video? l.videoId with
    | none =>
      simp only [List.filterMap_cons, hv]
      exact ih.cons _
    | some v =>
      simp only [List.filterMap_cons, hv, List.map_cons, (video?_eq_some hv).2]
      exact ih.cons_cons _

end Database

/-! ## Look-ups of a user and a video -/

namespace Service

variable {β : Type}

/-- Where the user or the video is missing, a call that looks both up fails and changes nothing. -/
theorem bind_of_missing {user : String} {video : Int} {f : Video → Service β} {w : World} {e : Failure}
    (h : w.db.missing user video = some e) :
    (Service.user user .noUser >>= fun _ => Service.video video >>= f) w = (.error e, w) := by
  unfold Database.missing at h
  split at h
  · rename_i huser
    obtain ⟨u, hu⟩ := huser.found
    rw [bind_of_ok (user_eq_ok.mpr ⟨hu, rfl⟩)]
    refine bind_of_error ?_
    split at h
    · rename_i hfits
      split at h
      · simp at h
      · rename_i hnone
        obtain rfl := Option.some.inj h
        simp only [Service.video, hfits, if_true, Database.video?_eq_none_iff.mpr hnone]
    · rename_i hwide
      obtain rfl := Option.some.inj h
      simp only [Service.video, hwide, if_false, Bool.false_eq_true]
  · rename_i hnone
    obtain rfl := Option.some.inj h
    refine bind_of_error ?_
    simp only [Service.user, Database.user?_eq_none_iff.mpr hnone]

/-- Where neither is missing, a call that looks both up goes on with the video, in the same world. -/
theorem bind_of_not_missing {user : String} {video : Int} {f : Video → Service β} {w : World}
    (h : w.db.missing user video = none) :
    ∃ v, (Service.user user .noUser >>= fun _ => Service.video video >>= f) w = f v w := by
  obtain ⟨huser, hfits, hvideo⟩ := Database.missing_eq_none.mp h
  obtain ⟨u, hu⟩ := huser.found
  obtain ⟨v, hv⟩ := Option.ne_none_iff_exists'.mp fun hnone => Database.video?_eq_none_iff.mp hnone hvideo
  refine ⟨v, ?_⟩
  rw [bind_of_ok (user_eq_ok.mpr ⟨hu, rfl⟩), bind_of_ok (video_eq_ok.mpr ⟨hfits, hv, rfl⟩)]

theorem like?_fresh {user : String} {video : Int} {w : World} (h : w.staleLikes = 0) :
    like? user video w = (.ok (w.db.like? user video), w) := by
  simp only [like?, h]

theorem like?_stale {user : String} {video : Int} {w : World} {n : Nat} (h : w.staleLikes = n + 1) :
    like? user video w = (.ok none, { w with staleLikes := n }) := by
  simp only [like?, h]

/-! ## One attempt of a toggle -/

section Toggle

variable {user : String} {video : Int} {w : World}

theorem toggleLike_of_missing {e : Failure} (h : w.db.missing user video = some e) :
    toggleLike user video w = (.error e, w) :=
  transaction_eq_error.mpr ⟨w, bind_of_missing h, rfl⟩

/-- Where the edge is not there the toggle adds it, whether its look-up is stale or not. -/
theorem toggleLike_of_absent (h : w.db.missing user video = none) (habsent : (user, video) ∉ w.db.edges) :
    ∃ v, toggleLike user video w = (.ok (v, true), { w with
      db := { w.db with likes := w.db.likes ++ [⟨user, video, w.now⟩] }
      staleLikes := w.staleLikes - 1 }) := by
  have hnone := Database.like?_eq_none_iff.mpr habsent
  have hlookup : like? user video w = (.ok none, { w with staleLikes := w.staleLikes - 1 }) := by
    cases hstale : w.staleLikes with
    | zero =>
      rw [like?_fresh hstale, hnone]
      exact congrArg (fun n => (Except.ok none, { w with staleLikes := n })) hstale
    | succ n => exact like?_stale hstale
  obtain ⟨v, hv⟩ := bind_of_not_missing h
  refine ⟨v, transaction_eq_ok.mpr ?_⟩
  rw [hv, bind_of_ok hlookup]
  simp only [now_bind]
  refine bind_eq_ok.mpr ⟨(), _, updateDatabase_eq_ok.mpr ⟨_, ?_, rfl⟩, rfl⟩
  simp only [Database.addLike, hnone, Option.isSome_none, Bool.false_eq_true, if_false]

/-- Where the look-up sees the edge the toggle takes it out. -/
theorem toggleLike_of_seen (h : w.db.missing user video = none) (hthere : (user, video) ∈ w.db.edges)
    (hfresh : w.staleLikes = 0) :
    ∃ v, toggleLike user video w = (.ok (v, false), { w with db := w.db.removeLike user video }) := by
  obtain ⟨l, hl⟩ := Option.isSome_iff_exists.mp (Database.like?_isSome_iff.mpr hthere)
  obtain ⟨v, hv⟩ := bind_of_not_missing h
  refine ⟨v, transaction_eq_ok.mpr ?_⟩
  rw [hv, bind_of_ok (like?_fresh hfresh), hl]
  rfl

/-- Where the look-up does not see the edge that is there, adding it a second time fails. -/
theorem toggleLike_of_unseen {n : Nat} (h : w.db.missing user video = none) (hthere : (user, video) ∈ w.db.edges)
    (hstale : w.staleLikes = n + 1) : toggleLike user video w = (.error .duplicateKey, { w with staleLikes := n }) := by
  have hsome := Database.like?_isSome_iff.mpr hthere
  obtain ⟨v, hv⟩ := bind_of_not_missing h
  refine transaction_eq_error.mpr ⟨{ w with staleLikes := n }, ?_, rfl⟩
  rw [hv, bind_of_ok (like?_stale hstale)]
  simp only [now_bind]
  refine bind_of_error ?_
  simp only [updateDatabase, Database.addLike, hsome, if_true]

/-! ## Toggles and dislikes -/

theorem retryingOnce_of_duplicate {α : Type} {x : Service α} {w w' : World} (h : x w = (.error .duplicateKey, w')) :
    retryingOnce x w = x w' := by
  simp only [retryingOnce, h]

theorem retryingOnce_of_ne {α : Type} {x : Service α} {w : World} (h : (x w).1 ≠ .error .duplicateKey) :
    retryingOnce x w = x w := by
  unfold retryingOnce
  split
  · rename_i w' heq
    exact absurd (congrArg Prod.fst heq) h
  · rfl

theorem likeVideo_of_missing {e : Failure} (h : w.db.missing user video = some e) :
    likeVideo user video w = (.error e, w) := by
  have hfirst := toggleLike_of_missing h
  have hother : e ≠ .duplicateKey := by
    rintro rfl
    simpa using Database.missing_eq_some h
  rw [likeVideo, retryingOnce_of_ne, hfirst]
  rw [hfirst]
  simpa using hother

theorem likeVideo_of_absent (h : w.db.missing user video = none) (habsent : (user, video) ∉ w.db.edges) :
    ∃ v, likeVideo user video w = (.ok (v, true), { w with
      db := { w.db with likes := w.db.likes ++ [⟨user, video, w.now⟩] }
      staleLikes := w.staleLikes - 1 }) := by
  obtain ⟨v, hfirst⟩ := toggleLike_of_absent h habsent
  refine ⟨v, ?_⟩
  rw [likeVideo, retryingOnce_of_ne, hfirst]
  simp [hfirst]

/-- With one stale look-up at most the edge is seen: by the first attempt, or by the second one. -/
theorem likeVideo_of_seen (h : w.db.missing user video = none) (hthere : (user, video) ∈ w.db.edges)
    (hstale : w.staleLikes ≤ 1) :
    ∃ v, likeVideo user video w = (.ok (v, false), { w with db := w.db.removeLike user video, staleLikes := 0 }) := by
  rcases Nat.le_one_iff_eq_zero_or_eq_one.mp hstale with hzero | hone
  · obtain ⟨v, hfirst⟩ := toggleLike_of_seen h hthere hzero
    refine ⟨v, ?_⟩
    rw [likeVideo, retryingOnce_of_ne, hfirst]
    · exact congrArg (fun n => (Except.ok (v, false), { w with db := w.db.removeLike user video, staleLikes := n })) hzero
    · simp [hfirst]
  · have hfirst := toggleLike_of_unseen h hthere hone
    obtain ⟨v, hsecond⟩ := toggleLike_of_seen (w := { w with staleLikes := 0 }) h hthere rfl
    refine ⟨v, ?_⟩
    rw [likeVideo, retryingOnce_of_duplicate hfirst, hsecond]

/-- With two stale look-ups neither attempt sees the edge. -/
theorem likeVideo_of_unseen (h : w.db.missing user video = none) (hthere : (user, video) ∈ w.db.edges)
    (hstale : 2 ≤ w.staleLikes) :
    likeVideo user video w = (.error .duplicateKey, { w with staleLikes := w.staleLikes - 2 }) := by
  obtain ⟨n, hn⟩ := Nat.exists_eq_add_of_le' hstale
  have hfirst := toggleLike_of_unseen h hthere hn
  have hsecond := toggleLike_of_unseen (w := { w with staleLikes := n + 1 }) (n := n) h hthere rfl
  rw [likeVideo, retryingOnce_of_duplicate hfirst, hsecond, hn]
  rfl

theorem dislikeVideo_of_missing {e : Failure} (h : w.db.missing user video = some e) :
    dislikeVideo user video w = (.error e, w) :=
  transaction_eq_error.mpr ⟨w, bind_of_missing h, rfl⟩

/-- A dislike that sees the edges as they are leaves its own one out. -/
theorem dislikeVideo_of_fresh (h : w.db.missing user video = none) (hfresh : w.staleLikes = 0) :
    dislikeVideo user video w = (.ok (), { w with db := w.db.removeLike user video }) := by
  obtain ⟨v, hv⟩ := bind_of_not_missing h
  refine transaction_eq_ok.mpr ?_
  rw [hv, bind_of_ok (like?_fresh hfresh)]
  by_cases hthere : (user, video) ∈ w.db.edges
  · rw [if_pos (Database.like?_isSome_iff.mpr hthere)]
    rfl
  · rw [if_neg fun hsome => hthere (Database.like?_isSome_iff.mp hsome), Database.removeLike_of_not_mem hthere]
    rfl

/-- A dislike whose look-up is stale does nothing. -/
theorem dislikeVideo_of_stale (h : w.db.missing user video = none) (hstale : w.staleLikes ≠ 0) :
    dislikeVideo user video w = (.ok (), { w with staleLikes := w.staleLikes - 1 }) := by
  obtain ⟨n, hstale⟩ := Nat.exists_eq_succ_of_ne_zero hstale
  obtain ⟨v, hv⟩ := bind_of_not_missing h
  refine transaction_eq_ok.mpr ?_
  rw [hv, bind_of_ok (like?_stale hstale), hstale]
  rfl

/-! ## Reading likes -/

/-- With a fresh look-up, whether a user likes a video is whether the edge is there. -/
theorem hasLiked_of_fresh (h : w.db.missing user video = none) (hfresh : w.staleLikes = 0) :
    hasLiked user video w = (.ok (decide ((user, video) ∈ w.db.edges)), w) := by
  obtain ⟨v, hv⟩ := bind_of_not_missing h
  rw [hasLiked, hv, bind_of_ok (like?_fresh hfresh), pure_apply]
  congr 2
  rw [Bool.eq_iff_iff, decide_eq_true_iff]
  exact Database.like?_isSome_iff

/-- The videos that a registered user likes are those to which there is an edge, each once. -/
theorem likedVideos_of_hasUser (hdb : w.db.Keyed) (huser : w.db.HasUser user) :
    ∃ videos, likedVideos user w = (.ok videos, w) ∧ (videos.map (·.id)).Nodup ∧
      ∀ v, v ∈ videos ↔ v ∈ w.db.videos ∧ (user, v.id) ∈ w.db.edges := by
  obtain ⟨u, hu⟩ := huser.found
  refine ⟨(w.db.likesOf user).filterMap fun l => w.db.video? l.videoId, ?_, ?_, fun v => ?_⟩
  · rw [likedVideos, bind_of_ok (user_eq_ok.mpr ⟨hu, rfl⟩)]
    rfl
  · exact (hdb.nodup_likesOf user).sublist (Database.sublist_filterMap_video? _ _)
  · simp only [List.mem_filterMap, Database.mem_likesOf, Database.mem_edges]
    constructor
    · rintro ⟨l, ⟨hl, rfl⟩, hv⟩
      obtain ⟨hmem, hid⟩ := Database.video?_eq_some hv
      exact ⟨hmem, l, hl, by rw [hid]; rfl⟩
    · rintro ⟨hmem, l, hl, hedge⟩
      obtain ⟨rfl, hid⟩ := Prod.mk.inj hedge
      exact ⟨l, ⟨hl, rfl⟩, by rw [hid]; exact hdb.video?_of_mem hmem⟩

end Toggle

end Service

end VideoShare
