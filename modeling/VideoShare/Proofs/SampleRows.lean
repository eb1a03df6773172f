import Mathlib.Data.List.Perm.Subperm
import VideoShare.Popularity
import VideoShare.Proofs.HistorySpacing
import VideoShare.Proofs.Outcome
import VideoShare.Proofs.References
import VideoShare.SampleData

/-!
# Rows of sample videos

A draft of a sample video becomes rows as a whole or not at all. It does when nobody stands twice among those who like the video, their
likes are dated in the calendar, and none of them has a like under the id of the video already (`LikesFit`). No like is in the way where
every like is one of a video that is there. What becomes of drafts, one after another, is told from the tables before the first of them
(`Fates.made_iff`), and so is what rows they become (`sample_videos_come_whole`).
-/

namespace VideoShare

/-! ## What can be drawn -/

/-- A draft of a video of one of some users, as it may be drawn: nobody likes the video more often than the list of the users names
them. -/
structure VideoDraft.From (users : List String) (d : VideoDraft) : Prop where
  owner : d.owner ∈ users
  about : ∃ c ∈ sampleCategories, d.category = c.name ∧ d.item ∈ c.items
  language : d.language ∈ sampleLanguages
  shortest : 10 ≤ d.duration
  longest : d.duration ≤ 3600
  likers : (d.likes.map (·.1)).Subperm users
  ages : ∀ like ∈ d.likes, like.2 ≤ likeSpread

namespace Draws

theorem pick_mem {α : Type} (d : Draws) (list : List α) (h : list ≠ []) : (d.pick list h).1 ∈ list := List.get_mem _ _

theorem below_lt (d : Draws) {bound : Nat} (h : 0 < bound) : (d.below bound).1 < bound := Nat.mod_lt _ h

/-- Items that stand side by side are items of the list, and none of them is taken twice. -/
theorem sample_subperm {α : Type} (d : Draws) (list : List α) (count : Nat) : (d.sample list count).1.Subperm list := by
  have hturned : ∀ start, (list.drop start ++ list.take start).Perm list := by
    intro start
    refine List.perm_append_comm.trans ?_
    rw [List.take_append_drop]
  exact (List.take_sublist _ _).subperm.trans (hturned _).subperm

end Draws

theorem map_fst_drawAges (d : Draws) (likers : List String) : (drawAges d likers).map (·.1) = likers := by
  induction likers generalizing d with
  | nil => rfl
  | cons liker rest ih => rw [drawAges, List.map_cons, ih]

theorem age_le_of_mem_drawAges (d : Draws) (likers : List String) : ∀ like ∈ drawAges d likers, like.2 ≤ likeSpread := by
  induction likers generalizing d with
  | nil => simp [drawAges]
  | cons liker rest ih =>
    intro like hlike
    rcases List.mem_cons.mp hlike with rfl | hlike
    · exact Nat.le_of_lt_succ (d.below_lt (Nat.succ_pos _))
    · exact ih _ like hlike

/-- Whatever the source of random numbers gives, it is a draft that may be drawn. -/
theorem VideoDraft.from_draw (d : Draws) {users : List String} (h : users ≠ []) : (VideoDraft.draw d users h).From users where
  owner := d.pick_mem users h
  about := ⟨_, Draws.pick_mem _ _ (List.cons_ne_nil _ _), rfl, Draws.pick_mem _ _ (List.cons_ne_nil _ _)⟩
  language := Draws.pick_mem _ _ (List.cons_ne_nil _ _)
  shortest := Nat.le_add_left _ _
  longest := Nat.add_le_add_right (Nat.le_of_lt_succ (Draws.below_lt _ (by decide))) 10
  likers := by
    simp only [draw, map_fst_drawAges]
    exact Draws.sample_subperm _ _ _
  ages := age_le_of_mem_drawAges _ _

/-! ## One draft -/

/-- The rows of the likes of a draft whose video has an id. -/
def likeRows (id : Int) (now : Instant) (likes : List (String × Nat)) : List Like :=
  likes.map fun like => ⟨like.1, id, now - like.2 * Duration.second⟩

/-- The likes of a draft whose video has an id can become rows: nobody stands twice among those who like the video, the likes are dated
in the calendar, and nobody has a like of the video already. -/
structure LikesFit (db : Database) (now : Instant) (id : Int) (likes : List (String × Nat)) : Prop where
  distinct : (likes.map (·.1)).Nodup
  dated : ∀ like ∈ likes, 0 ≤ now - like.2 * Duration.second ∧ now - like.2 * Duration.second < Instant.limit
  free : ∀ like ∈ likes, db.like? like.1 id = none

/-- A world with more videos and likes. -/
def World.plus (w : World) (videos : List Video) (likes : List Like) : World :=
  { w with db := { w.db with videos := w.db.videos ++ videos, likes := w.db.likes ++ likes } }

theorem World.plus_nil (w : World) : w.plus [] [] = w := by
  simp only [plus, List.append_nil]

theorem World.plus_plus (w : World) (videos videos' : List Video) (likes likes' : List Like) :
    (w.plus videos likes).plus videos' likes' = w.plus (videos ++ videos') (likes ++ likes') := by
  simp only [plus, List.append_assoc]

/-- A like is missing with more likes when it was missing and none of these is the like. -/
theorem like?_plus_eq_none {w : World} {videos : List Video} {likes : List Like} {user : String} {id : Int} :
    (w.plus videos likes).db.like? user id = none ↔
      w.db.like? user id = none ∧ ∀ l ∈ likes, ¬(l.userId = user ∧ l.videoId = id) := by
  rw [World.plus, Database.like?, List.find?_append, Option.or_eq_none_iff, ← Database.like?]
  simp only [List.find?_eq_none, Bool.and_eq_true, beq_iff_eq]

/-- Likes of other videos are in no like's way. -/
theorem likesFit_plus_iff {w : World} {videos : List Video} {likes : List Like} {now : Instant} {id : Int}
    {drafted : List (String × Nat)} (h : ∀ l ∈ likes, l.videoId ≠ id) :
    LikesFit (w.plus videos likes).db now id drafted ↔ LikesFit w.db now id drafted := by
  have hfree : ∀ user, (w.plus videos likes).db.like? user id = none ↔ w.db.like? user id = none := by
    intro user
    rw [like?_plus_eq_none, and_iff_left_iff_imp]
    exact fun _ l hl hsame => h l hl hsame.2
  constructor
  · exact fun hfit => ⟨hfit.distinct, hfit.dated, fun like hlike => (hfree _).mp (hfit.free like hlike)⟩
  · exact fun hfit => ⟨hfit.distinct, hfit.dated, fun like hlike => (hfree _).mpr (hfit.free like hlike)⟩

/-- The likes of a draft fit when the first one does, and the others do beside it. -/
theorem likesFit_cons {w : World} {id : Int} {like : String × Nat} {rest : List (String × Nat)} :
    LikesFit w.db w.now id (like :: rest) ↔
      (0 ≤ w.now - like.2 * Duration.second ∧ w.now - like.2 * Duration.second < Instant.limit) ∧ w.db.like? like.1 id = none ∧
        LikesFit (w.plus [] (likeRows id w.now [like])).db w.now id rest := by
  have hbeside : ∀ user, (w.plus [] (likeRows id w.now [like])).db.like? user id = none ↔
      w.db.like? user id = none ∧ like.1 ≠ user := by
    intro user
    simp [like?_plus_eq_none, likeRows]
  constructor
  · rintro ⟨hdistinct, hdated, hfree⟩
    rw [List.map_cons, List.nodup_cons] at hdistinct
    rw [List.forall_mem_cons] at hdated hfree
    refine ⟨hdated.1, hfree.1, hdistinct.2, hdated.2, fun other hother => (hbeside _).mpr ⟨hfree.2 other hother, fun heq => ?_⟩⟩
    exact hdistinct.1 (heq ▸ List.mem_map_of_mem hother)
  · rintro ⟨hdated, hfree, hrest⟩
    refine ⟨?_, List.forall_mem_cons.mpr ⟨hdated, hrest.dated⟩, List.forall_mem_cons.mpr ⟨hfree, fun other hother => ?_⟩⟩
    · rw [List.map_cons, List.nodup_cons]
      refine ⟨fun hmem => ?_, hrest.distinct⟩
      obtain ⟨other, hother, heq⟩ := List.mem_map.mp hmem
      exact ((hbeside _).mp (hrest.free other hother)).2 heq.symm
    · exact ((hbeside _).mp (hrest.free other hother)).1

/-- A length of time that a like may be old can be held. -/
theorem before_of_age {age : Nat} (h : age ≤ likeSpread) (t : Instant) :
    t.before (age * Duration.second) = (t - age * Duration.second).inCalendar := by
  have hmonth : 0 ≤ Int.fdiv (age * 1000000) 86400000000 ∧ Int.fdiv (age * 1000000) 86400000000 ≤ 30 := by
    rw [Int.fdiv_eq_ediv_of_nonneg _ (by decide)]
    simp only [likeSpread] at h
    omega
  have hheld : Duration.held (age * Duration.second) = .ok (age * Duration.second) := by
    have hdays : Int.fdiv (age * Duration.second) Duration.day = Int.fdiv (age * 1000000) 86400000000 := rfl
    simp only [Duration.held, hdays]
    rw [if_neg (by omega), if_neg (by omega)]
  rw [Instant.before, hheld]
  rfl

namespace Service

/-- A like that is dated in the calendar is added when its user has none of the video. -/
theorem addAgedLike_eq_ok {id : Int} {like : String × Nat} {w w' : World} (hage : like.2 ≤ likeSpread) :
    addAgedLike id like w = (.ok (), w') ↔
      (0 ≤ w.now - like.2 * Duration.second ∧ w.now - like.2 * Duration.second < Instant.limit) ∧
        w.db.like? like.1 id = none ∧ w' = w.plus [] (likeRows id w.now [like]) := by
  rw [addAgedLike, now_bind, before_of_age hage, Instant.inCalendar]
  by_cases hdated : 0 ≤ w.now - like.2 * Duration.second ∧ w.now - like.2 * Duration.second < Instant.limit
  · rw [if_pos hdated]
    simp only [updateDatabase_eq_ok, Database.addLike, hdated, true_and]
    cases hlike : w.db.like? like.1 id with
    | none => simp [World.plus, likeRows]
    | some l => simp
  · rw [if_neg hdated]
    constructor
    · intro h
      cases (Prod.mk.inj h).1
    · rintro ⟨h, -⟩
      exact absurd h hdated

/-- The likes of a draft are added when they fit. -/
theorem forEach_addAgedLike_eq_ok {id : Int} {likes : List (String × Nat)} {w w' : World}
    (hages : ∀ like ∈ likes, like.2 ≤ likeSpread) :
    forEach (addAgedLike id) likes w = (.ok (), w') ↔
      LikesFit w.db w.now id likes ∧ w' = w.plus [] (likeRows id w.now likes) := by
  induction likes generalizing w with
  | nil =>
    rw [forEach, pure_eq_ok]
    simp only [likeRows, List.map_nil, World.plus_nil, true_and]
    exact ⟨fun h => ⟨⟨List.nodup_nil, by simp, by simp⟩, h⟩, fun h => h.2⟩
  | cons like rest ih =>
    rw [List.forall_mem_cons] at hages
    rw [forEach, bind_eq_ok, likesFit_cons]
    constructor
    · rintro ⟨_, w₁, hlike, hrest⟩
      obtain ⟨hdated, hfree, rfl⟩ := (addAgedLike_eq_ok hages.1).mp hlike
      obtain ⟨hfit, rfl⟩ := (ih hages.2).mp hrest
      exact ⟨⟨hdated, hfree, hfit⟩, World.plus_plus _ _ _ _ _⟩
    · rintro ⟨⟨hdated, hfree, hfit⟩, rfl⟩
      refine ⟨(), _, (addAgedLike_eq_ok hages.1).mpr ⟨hdated, hfree, rfl⟩, (ih hages.2).mpr ⟨hfit, ?_⟩⟩
      exact (World.plus_plus w [] [] (likeRows id w.now [like]) (likeRows id w.now rest)).symm

/-- Making the rows of a draft changes nothing but the tables. -/
theorem keeps_addAgedLike (id : Int) (like : String × Nat) : Keeps (fun w => { w with db := {} }) (addAgedLike id like) := by
  refine Keeps.bind keeps_now fun t => ?_
  split
  · exact keeps_fail _
  · exact keeps_updateDatabase (fun _ _ => rfl) _

section

variable {draft : VideoDraft} {w w' : World}

/-- A draft becomes rows when its likes fit. -/
theorem addDraft_eq_ok (hages : ∀ like ∈ draft.likes, like.2 ≤ likeSpread) :
    addDraft draft w = (.ok (), w') ↔
      LikesFit w.db w.now w.db.nextVideoId draft.likes ∧
        w' = w.plus [draft.row w.db.nextVideoId w.now] (likeRows w.db.nextVideoId w.now draft.likes) := by
  have hvideo : { w with db := w.db.addVideo (draft.row w.db.nextVideoId w.now) } =
      w.plus [draft.row w.db.nextVideoId w.now] [] := by
    simp only [Database.addVideo, World.plus, List.append_nil]
  rw [addDraft, transaction_eq_ok]
  simp only [database_bind, now_bind, modifyDatabase_bind, hvideo]
  rw [forEach_addAgedLike_eq_ok hages, World.plus_plus, likesFit_plus_iff (by simp)]
  rfl

/-- A draft that does not become rows leaves the world as it was. -/
theorem addDraft_eq_error {e : Failure} (h : addDraft draft w = (.error e, w')) : w' = w := by
  obtain ⟨w₁, hfailed, rfl⟩ := transaction_eq_error.mp h
  have hkeeps : Keeps (fun w => { w with db := {} }) (database >>= fun db => now >>= fun t =>
      modifyDatabase (·.addVideo (draft.row db.nextVideoId t)) >>= fun _ =>
        forEach (addAgedLike (draft.row db.nextVideoId t).id) draft.likes) :=
    Keeps.bind keeps_database fun _ => Keeps.bind keeps_now fun _ =>
      Keeps.bind (keeps_modifyDatabase (fun _ _ => rfl) _) fun _ => Keeps.forEach fun like _ => keeps_addAgedLike _ like
  exact congrArg (fun v : World => { v with db := w.db }) (hkeeps.of_eq hfailed)

end

end Service

/-! ## Drafts one after another -/

/-- What becomes of a draft: the id that its video gets or would have got, and whether the video is made. -/
structure DraftFate where
  draft : VideoDraft
  id : Int
  made : Bool

/-- The rows of the videos that are made. -/
def newVideos (now : Instant) (fates : List DraftFate) : List Video :=
  (fates.filter (·.made)).map fun f => f.draft.row f.id now

/-- The rows of the likes of the videos that are made. -/
def newLikes (now : Instant) (fates : List DraftFate) : List Like :=
  (fates.filter (·.made)).flatMap fun f => likeRows f.id now f.draft.likes

/-- The fates of drafts, one after another, from a world to another: a video is made under the next id when the likes of the draft fit,
and nothing happens when they do not. -/
inductive Fates : World → List DraftFate → World → Prop
  | nil (w : World) : Fates w [] w
  | made {w w' : World} {draft : VideoDraft} {fates : List DraftFate} (h : LikesFit w.db w.now w.db.nextVideoId draft.likes)
      (rest : Fates (w.plus [draft.row w.db.nextVideoId w.now] (likeRows w.db.nextVideoId w.now draft.likes)) fates w') :
      Fates w (⟨draft, w.db.nextVideoId, true⟩ :: fates) w'
  | missing {w w' : World} {draft : VideoDraft} {fates : List DraftFate} (h : ¬LikesFit w.db w.now w.db.nextVideoId draft.likes)
      (rest : Fates w fates w') : Fates w (⟨draft, w.db.nextVideoId, false⟩ :: fates) w'

namespace Service

section

variable {draft : VideoDraft} {rest : List VideoDraft} {w w₁ w' : World}

theorem addDrafts_of_error {e : Failure} (h : addDraft draft w = (.error e, w₁)) :
    addDrafts (draft :: rest) w = addDrafts rest w₁ := by
  simp only [addDrafts, h]

theorem addDrafts_of_ok {n : Nat} (h : addDraft draft w = (.ok (), w₁)) (hrest : addDrafts rest w₁ = (.ok n, w')) :
    addDrafts (draft :: rest) w = (.ok (n + 1), w') := by
  simp only [addDrafts, h]
  exact bind_of_ok hrest

end

/-- Every draft has its fate, and the answer is how many of the videos are made. -/
theorem addDrafts_fates {drafts : List VideoDraft} (hages : ∀ d ∈ drafts, ∀ like ∈ d.likes, like.2 ≤ likeSpread) (w : World) :
    ∃ fates w', Fates w fates w' ∧ fates.map (·.draft) = drafts ∧ addDrafts drafts w = (.ok (fates.countP (·.made)), w') := by
  induction drafts generalizing w with
  | nil => exact ⟨[], w, .nil w, rfl, rfl⟩
  | cons draft rest ih =>
    rw [List.forall_mem_cons] at hages
    rcases hdraft : addDraft draft w with ⟨e | _, w₁⟩
    · -- what failed cannot have fitted, and the world is the one before
      have hunfit : ¬LikesFit w.db w.now w.db.nextVideoId draft.likes := by
        intro hfit
        have hmade := (addDraft_eq_ok hages.1).mpr ⟨hfit, rfl⟩
        rw [hdraft] at hmade
        cases hmade
      obtain rfl := addDraft_eq_error hdraft
      obtain ⟨fates, w', hfates, hdrafts, hrun⟩ := ih hages.2 w₁
      refine ⟨_, w', .missing hunfit hfates, by rw [List.map_cons, hdrafts], ?_⟩
      rw [addDrafts_of_error hdraft, hrun, List.countP_cons_of_neg (by simp)]
    · obtain ⟨hfit, rfl⟩ := (addDraft_eq_ok hages.1).mp hdraft
      obtain ⟨fates, w', hfates, hdrafts, hrun⟩ := ih hages.2 (w.plus _ _)
      refine ⟨_, w', .made hfit hfates, by rw [List.map_cons, hdrafts], ?_⟩
      rw [addDrafts_of_ok hdraft hrun, List.countP_cons_of_pos (by rfl)]

end Service

namespace Fates

variable {w w' : World} {fates : List DraftFate}

/-- Where the fates lead: the tables with the rows of the videos that are made. -/
theorem eq_plus (h : Fates w fates w') : w' = w.plus (newVideos w.now fates) (newLikes w.now fates) := by
  induction h with
  | nil w => exact (World.plus_nil w).symm
  | made h rest ih =>
    rw [ih, World.plus_plus]
    rfl
  | missing h rest ih => exact ih

/-- Every id is above those of the videos that are there. -/
theorem lt_id (h : Fates w fates w') : ∀ f ∈ fates, ∀ v ∈ w.db.videos, v.id < f.id := by
  induction h with
  | nil w => simp
  | made h rest ih =>
    refine List.forall_mem_cons.mpr ⟨fun v hv => lt_nextId (List.mem_map_of_mem hv), fun f hf v hv => ?_⟩
    exact ih f hf v (List.mem_append_left _ hv)
  | missing h rest ih =>
    exact List.forall_mem_cons.mpr ⟨fun v hv => lt_nextId (List.mem_map_of_mem hv), ih⟩

/-- The videos that are made have different ids. -/
theorem nodup_ids (h : Fates w fates w') : ((fates.filter (·.made)).map (·.id)).Nodup := by
  induction h with
  | nil w => exact List.nodup_nil
  | made h rest ih =>
    rw [List.filter_cons_of_pos rfl, List.map_cons, List.nodup_cons]
    refine ⟨fun hmem => ?_, ih⟩
    obtain ⟨f, hf, hid⟩ := List.mem_map.mp hmem
    have hlater := rest.lt_id f (List.mem_of_mem_filter hf) _ (List.mem_append_right _ (List.mem_singleton_self _))
    exact absurd hid (Int.ne_of_gt hlater)
  | missing h rest ih => exact ih

/-- A video is made exactly when the likes of its draft fit into the tables that were there before the first one. The likes of the
videos that were made before it are likes of other videos. -/
theorem made_iff (h : Fates w fates w') : ∀ f ∈ fates, f.made = true ↔ LikesFit w.db w.now f.id f.draft.likes := by
  induction h with
  | nil w => simp
  | @made w w' draft fates h rest ih =>
    refine List.forall_mem_cons.mpr ⟨by simpa using h, fun f hf => (ih f hf).trans ?_⟩
    -- the likes that are added here are of a video with a smaller id
    have hlater : w.db.nextVideoId < f.id := rest.lt_id f hf _ (List.mem_append_right _ (List.mem_singleton_self _))
    refine likesFit_plus_iff fun l hl hid => ?_
    obtain ⟨like, -, rfl⟩ := List.mem_map.mp hl
    exact absurd hid (Int.ne_of_lt hlater)
  | missing h rest ih => exact List.forall_mem_cons.mpr ⟨by simpa using h, ih⟩

end Fates

/-! ## The rows -/

/-- What is asked of the rows that are added to a world for videos of some users. The videos are new, and owned by the users. The likes
are likes of these videos by the users, nobody has two of one video, and they are dated in the last thirty days. So all of them are
recent likes of their videos. -/
structure SampleRows (users : List String) (w : World) (videos : List Video) (likes : List Like) : Prop where
  ids : (videos.map (·.id)).Nodup
  newIds : ∀ v ∈ videos, ∀ old ∈ w.db.videos, old.id < v.id
  owners : ∀ v ∈ videos, v.ownerId ∈ users
  likers : ∀ l ∈ likes, l.userId ∈ users
  liked : ∀ l ∈ likes, ∃ v ∈ videos, v.id = l.videoId
  once : (likes.map fun l => (l.userId, l.videoId)).Nodup
  first : ∀ l ∈ likes, w.db.like? l.userId l.videoId = none
  dated : ∀ l ∈ likes, w.now - 30 * Duration.day ≤ l.timestamp ∧ l.timestamp ≤ w.now
  counted : ∀ id, (w.plus videos likes).db.recentLikes (w.now - 30 * Duration.day) id =
    w.db.recentLikes (w.now - 30 * Duration.day) id + likes.countP (·.videoId == id)

section

variable {users : List String} {w w' : World} {fates : List DraftFate} {now : Instant} {l : Like} {v : Video}

theorem mem_newVideos : v ∈ newVideos now fates ↔ ∃ f ∈ fates, f.made = true ∧ v = f.draft.row f.id now := by
  simp only [newVideos, List.mem_map, List.mem_filter, and_assoc, eq_comm]

theorem mem_newLikes :
    l ∈ newLikes now fates ↔
      ∃ f ∈ fates, f.made = true ∧ ∃ like ∈ f.draft.likes, l = ⟨like.1, f.id, now - like.2 * Duration.second⟩ := by
  simp only [newLikes, likeRows, List.mem_flatMap, List.mem_filter, List.mem_map, and_assoc, eq_comm]

theorem map_id_newVideos (now : Instant) (fates : List DraftFate) :
    (newVideos now fates).map (·.id) = (fates.filter (·.made)).map (·.id) := by
  rw [newVideos, List.map_map]
  rfl

/-- A like of an age that may be drawn is dated in the last thirty days. -/
theorem dated_of_age {age : Nat} (h : age ≤ likeSpread) (now : Instant) :
    now - 30 * Duration.day ≤ now - age * Duration.second ∧ now - age * Duration.second ≤ now := by
  have hage : (age : Int) * 1000000 ≤ 30 * 86400000000 := by
    simp only [likeSpread] at h
    omega
  have hsecond : Duration.second = 1000000 := rfl
  have hday : Duration.day = 86400000000 := rfl
  rw [hsecond, hday]
  constructor
  · exact Int.sub_le_sub_left hage now
  · exact Int.sub_le_self now (by omega)

/-- Nobody has two likes of one video among the likes of videos that are made: not of one draft, whose likers are different, and not of
two, whose videos are different. -/
theorem Fates.nodup_likes (h : Fates w fates w') : ((newLikes w.now fates).map fun l => (l.userId, l.videoId)).Nodup := by
  have hids := h.nodup_ids
  rw [newLikes, List.map_flatMap, List.nodup_flatMap]
  constructor
  · intro f hf
    obtain ⟨hmem, hmade⟩ := List.mem_filter.mp hf
    have hdistinct := ((h.made_iff f hmem).mp hmade).distinct
    rw [likeRows, List.map_map]
    exact List.Nodup.of_map Prod.fst (by rwa [List.map_map])
  · refine (List.pairwise_map.mp hids).imp fun hne => ?_
    refine List.disjoint_left.mpr fun pair hpair hpair' => ?_
    obtain ⟨l, hl, rfl⟩ := List.mem_map.mp hpair
    obtain ⟨l', hl', heq⟩ := List.mem_map.mp hpair'
    obtain ⟨like, -, rfl⟩ := List.mem_map.mp hl
    obtain ⟨like', -, rfl⟩ := List.mem_map.mp hl'
    exact hne (Prod.mk.inj heq).2.symm

/-- The rows of drafts that may be drawn are as they should be. -/
theorem Fates.sampleRows (h : Fates w fates w') (hdrafts : ∀ f ∈ fates, f.draft.From users) :
    SampleRows users w (newVideos w.now fates) (newLikes w.now fates) := by
  have hdated : ∀ l ∈ newLikes w.now fates, w.now - 30 * Duration.day ≤ l.timestamp ∧ l.timestamp ≤ w.now := by
    intro l hl
    obtain ⟨f, hf, -, like, hlike, rfl⟩ := mem_newLikes.mp hl
    exact dated_of_age ((hdrafts f hf).ages like hlike) w.now
  refine ⟨?_, ?_, ?_, ?_, ?_, h.nodup_likes, ?_, hdated, ?_⟩
  · rw [map_id_newVideos]
    exact h.nodup_ids
  · intro v hv old hold
    obtain ⟨f, hf, -, rfl⟩ := mem_newVideos.mp hv
    exact h.lt_id f hf old hold
  · intro v hv
    obtain ⟨f, hf, -, rfl⟩ := mem_newVideos.mp hv
    exact (hdrafts f hf).owner
  · intro l hl
    obtain ⟨f, hf, -, like, hlike, rfl⟩ := mem_newLikes.mp hl
    exact (hdrafts f hf).likers.subset (List.mem_map_of_mem hlike)
  · intro l hl
    obtain ⟨f, hf, hmade, like, -, rfl⟩ := mem_newLikes.mp hl
    exact ⟨_, mem_newVideos.mpr ⟨f, hf, hmade, rfl⟩, rfl⟩
  · intro l hl
    obtain ⟨f, hf, hmade, like, hlike, rfl⟩ := mem_newLikes.mp hl
    exact ((h.made_iff f hf).mp hmade).free like hlike
  · intro id
    rw [Database.recentLikes, World.plus, List.countP_append, Database.recentLikes, Nat.add_right_inj]
    refine List.countP_congr fun l hl => ?_
    simp [(hdated l hl).1]

/-- Where every like is one of a video that is there, and thirty days back are in the calendar, the likes of a draft fit when its likers
are different. -/
theorem Fates.made_iff_nodup (h : Fates w fates w') (hdrafts : ∀ f ∈ fates, f.draft.From users) (hdangling : w.db.NoDangling)
    (hback : 30 * Duration.day ≤ w.now) (hnow : w.now < Instant.limit) :
    ∀ f ∈ fates, f.made = true ↔ (f.draft.likes.map (·.1)).Nodup := by
  intro f hf
  rw [h.made_iff f hf]
  refine ⟨LikesFit.distinct, fun hdistinct => ⟨hdistinct, fun like hlike => ?_, fun like hlike => ?_⟩⟩
  · obtain ⟨hafter, hbefore⟩ := dated_of_age ((hdrafts f hf).ages like hlike) w.now
    exact ⟨Int.le_trans (Int.sub_nonneg_of_le hback) hafter, Int.lt_of_le_of_lt hbefore hnow⟩
  · -- a like under the id would be one of a video that is there, but the id is above theirs
    by_contra hliked
    obtain ⟨l, hl⟩ := Option.ne_none_iff_exists'.mp hliked
    have hid : l.videoId = f.id := by
      have hfound := List.find?_some hl
      simp only [Bool.and_eq_true, beq_iff_eq] at hfound
      exact hfound.2
    obtain ⟨v, hv, hvideo⟩ := hdangling.likedVideos l (List.mem_of_find?_eq_some hl)
    exact absurd (hvideo.trans hid) (Int.ne_of_lt (h.lt_id f hf v hv))

end

/-- Sample videos are made from drafts that may be drawn, one after another. Whatever the drafts are, some of them become rows as a whole
and the others not at all: nothing else changes, the answer is how many videos there are more, and the rows are as they should be. A
draft is missing exactly when its likers are not different, a like would be dated outside the calendar, or one of the likers has a like
under the id that the video would get, which is the id of no video. So where every like is one of a video that is there, and thirty days
back are in the calendar, a draft is missing exactly when its likers are not different. -/
theorem sample_videos_come_whole (users : List String) (hsome : users ≠ []) :
    (∀ sources : List Draws, ∃ drafts : List VideoDraft, drafts.length = sources.length ∧ (∀ d ∈ drafts, d.From users) ∧
      Service.createSampleVideos users sources = Service.addDrafts drafts) ∧
    ∀ (drafts : List VideoDraft) (w : World), (∀ d ∈ drafts, d.From users) →
      ∃ fates : List DraftFate, fates.map (·.draft) = drafts ∧
        Service.addDrafts drafts w =
          (.ok (newVideos w.now fates).length, w.plus (newVideos w.now fates) (newLikes w.now fates)) ∧
        SampleRows users w (newVideos w.now fates) (newLikes w.now fates) ∧
        (∀ f ∈ fates, (∀ v ∈ w.db.videos, v.id < f.id) ∧ (f.made = true ↔ LikesFit w.db w.now f.id f.draft.likes)) ∧
        (w.db.NoDangling → 30 * Duration.day ≤ w.now → w.now < Instant.limit →
          ∀ f ∈ fates, f.made = true ↔ (f.draft.likes.map (·.1)).Nodup) := by
  constructor
  · intro sources
    refine ⟨sources.map fun d => VideoDraft.draw d users hsome, List.length_map _, fun draft hdraft => ?_, ?_⟩
    · obtain ⟨d, -, rfl⟩ := List.mem_map.mp hdraft
      exact VideoDraft.from_draw d hsome
    · rw [Service.createSampleVideos, dif_neg hsome]
  · intro drafts w hdrafts
    obtain ⟨fates, w', hfates, rfl, hrun⟩ := Service.addDrafts_fates (fun d hd => (hdrafts d hd).ages) w
    rw [List.forall_mem_map] at hdrafts
    refine ⟨fates, rfl, ?_, hfates.sampleRows hdrafts, fun f hf => ⟨hfates.lt_id f hf, hfates.made_iff f hf⟩,
      hfates.made_iff_nodup hdrafts⟩
    rw [hrun, ← hfates.eq_plus, newVideos, List.length_map, List.countP_eq_length_filter]

/-! ### Two likes by one user -/

namespace NamedTwice

/-- Ann stands twice in the list of users. -/
def users : List String := ["ann", "bob", "ann"]

def world : World where
  now := 63000000000000000

/-- Ann's video about golf is liked by both of them. -/
def golf : VideoDraft := ⟨"ann", "Sport", "Golf", "en", 60, [("ann", 10), ("bob", 0)]⟩

/-- Bob's video about cars is liked by Ann twice. -/
def cars : VideoDraft := ⟨"bob", "Other", "Cars", "de", 60, [("ann", 10), ("ann", 0)]⟩

theorem golf_from : golf.From users :=
  ⟨by decide, by decide, by decide, by decide, by decide, by decide, by decide⟩

theorem cars_from : cars.From users :=
  ⟨by decide, by decide, by decide, by decide, by decide, by decide, by decide⟩

/-- Ann's video is made with its two likes, which are recent, and Bob's is not. -/
theorem golf_without_cars :
    ∃ id w', Service.addDrafts [golf, cars] world = (.ok 1, w') ∧ w'.db.videos = [golf.row id world.now] ∧
      w'.db.likes = likeRows id world.now golf.likes ∧ w'.db.recentLikes (world.now - 30 * Duration.day) id = 2 := by
  have hdrafts : ∀ d ∈ [golf, cars], d.From users := List.forall_mem_cons.mpr ⟨golf_from, List.forall_mem_singleton.mpr cars_from⟩
  obtain ⟨fates, hfates, hrun, hrows, -, hnodup⟩ :=
    (sample_videos_come_whole users (by decide)).2 [golf, cars] world hdrafts
  have hmade := hnodup (by constructor <;> simp [world]) (by decide) (by decide)
  obtain ⟨f, rest, rfl, hf, hrest⟩ := List.map_eq_cons_iff.mp hfates
  obtain ⟨g, rest', rfl, hg, hnil⟩ := List.map_eq_cons_iff.mp hrest
  obtain rfl := List.map_eq_nil_iff.mp hnil
  have hgolf : f.made = true := (hmade f (by simp)).mpr (by rw [hf]; decide)
  have hcars : ¬g.made = true := fun hmade' => absurd ((hmade g (by simp)).mp hmade') (by rw [hg]; decide)
  have hvideos : newVideos world.now [f, g] = [golf.row f.id world.now] := by
    simp [newVideos, hgolf, hcars, hf]
  have hlikes : newLikes world.now [f, g] = likeRows f.id world.now golf.likes := by
    simp [newLikes, hgolf, hcars, hf]
  rw [hvideos, hlikes] at hrun hrows
  refine ⟨f.id, _, hrun, rfl, rfl, (hrows.counted f.id).trans ?_⟩
  simp [likeRows, golf, world, Database.recentLikes]

/-- Bob has a like of a video that is not there. -/
def leftLike : World where
  db := { likes := [⟨"bob", 1, 0⟩] }
  now := 63000000000000000

/-- The calendar has only begun. -/
def firstInstant : World where
  now := 0

/-- Ann's video is missing though those who like it are different. Once Bob's other like is in the way, and once Ann's would be dated
before the calendar. -/
theorem golf_is_missing :
    golf.From users ∧ (golf.likes.map (·.1)).Nodup ∧ Service.addDrafts [golf] leftLike = (.ok 0, leftLike) ∧
      Service.addDrafts [golf] firstInstant = (.ok 0, firstInstant) :=
  ⟨golf_from, by decide, rfl, rfl⟩

end NamedTwice

end VideoShare
