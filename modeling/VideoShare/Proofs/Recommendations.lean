import VideoShare.Proofs.LikeEdges
import VideoShare.Proofs.Paging
import VideoShare.Proofs.StableSorting

/-!
# What is recommended

A feed is made of ids and what is recommended of videos, which are looked up by them. Each query of a feed answers ids of videos and
leaves out those that the feed holds already (`EachOnce.append_top`), so a feed has ids of videos and none of them twice, wherever it
ends and whatever fits into columns. So the look-up finds a video for each id, and nothing is lost: without an order what is
recommended is the feed, and in an order it is the same videos sorted.
-/

namespace VideoShare

namespace Database

/-! ## Feeds have ids of videos, each once -/

/-- Ids of videos, none of them twice. -/
structure EachOnce (db : Database) (ids : List Int) : Prop where
  nodup : ids.Nodup
  there : ∀ id ∈ ids, db.HasVideo id

section Feeds

variable {db : Database} {since : Instant} {user : Option String} {excludes ids feed : List Int} {languages : List String}
  {size : Int} {admits : Video → Bool}

theorem eachOnce_nil : db.EachOnce [] := ⟨List.nodup_nil, List.forall_mem_nil _⟩

theorem EachOnce.take (h : db.EachOnce ids) (n : Nat) : db.EachOnce (ids.take n) :=
  ⟨h.nodup.sublist (List.take_sublist _ _), fun id hid => h.there id (List.mem_of_mem_take hid)⟩

theorem EachOnce.of_perm (h : db.EachOnce ids) (hperm : feed.Perm ids) : db.EachOnce feed :=
  ⟨hperm.nodup_iff.mpr h.nodup, fun id hid => h.there id (hperm.mem_iff.mp hid)⟩

variable (hkeys : (db.videos.map (·.id)).Nodup)

include hkeys

theorem eachOnce_ranking : db.EachOnce (db.ranking since excludes admits) where
  nodup := (((List.mergeSort_perm _ _).map _).nodup_iff).mpr (nodup_map_filter _ hkeys)
  there id hid := by
    obtain ⟨-, v, hv, -, rfl⟩ := mem_ranking.mp hid
    exact ⟨v, hv, rfl⟩

/-- What a query adds to a feed are ids of videos that the feed does not hold yet. -/
theorem EachOnce.append_top (hfeed : db.EachOnce feed) (h : db.top since (excludes ++ feed) size admits = .ok ids) :
    db.EachOnce (feed ++ ids) := by
  obtain rfl := eq_take_of_top h
  have hranking : db.EachOnce (db.ranking since (excludes ++ feed) admits) := eachOnce_ranking hkeys
  refine ⟨hfeed.nodup.append (hranking.take _).nodup fun id hold hnew => ?_, fun id hid => ?_⟩
  · have hkept := (mem_ranking.mp (List.mem_of_mem_take hnew)).1
    exact hkept (List.mem_append_right _ hold)
  · exact (List.mem_append.mp hid).elim (hfeed.there id) ((hranking.take _).there id)

theorem eachOnce_affinityTier (h : db.affinityTier since user excludes size = .ok ids) : db.EachOnce ids := by
  cases user with
  | none =>
    obtain rfl := Except.ok.inj h
    exact eachOnce_nil
  | some u =>
    simp only [affinityTier, topByCategoryOrLanguage] at h
    split at h
    · obtain rfl := Except.ok.inj h
      exact eachOnce_nil
    · rw [← List.append_nil excludes] at h
      exact eachOnce_nil.append_top hkeys h

theorem EachOnce.languageTiers (languages : List String) :
    ∀ feed, db.EachOnce feed → db.languageTiers since excludes size feed languages = .ok ids → db.EachOnce ids := by
  induction languages with
  | nil =>
    intro feed hfeed h
    obtain rfl := Except.ok.inj h
    exact hfeed
  | cons language rest ih =>
    intro feed hfeed h
    rw [Database.languageTiers] at h
    split at h
    · obtain rfl := Except.ok.inj h
      exact hfeed
    · split at h
      · simp at h
      · rename_i found htop
        exact ih (feed ++ found) (hfeed.append_top hkeys htop) h

theorem EachOnce.overallTier (hfeed : db.EachOnce feed) (h : db.overallTier since excludes size feed = .ok ids) :
    db.EachOnce ids := by
  rw [Database.overallTier] at h
  split at h
  · obtain rfl := Except.ok.inj h
    exact hfeed
  · split at h
    · simp at h
    · rename_i found htop
      obtain rfl := Except.ok.inj h
      exact hfeed.append_top hkeys htop

theorem eachOnce_fillFeed (h : db.fillFeed since user excludes languages size = .ok ids) : db.EachOnce ids := by
  simp only [fillFeed, bind, Except.bind] at h
  split at h
  · simp at h
  · rename_i personal hpersonal
    split at h
    · simp at h
    · rename_i spoken hspoken
      exact ((eachOnce_affinityTier hkeys hpersonal).languageTiers hkeys languages personal hspoken).overallTier hkeys h

/-- A feed that is answered has ids of videos, none of them twice. -/
theorem eachOnce_feed {now : Instant} {bounds : FeedBounds} {shuffle : Shuffle} (hshuffle : ∀ ids, (shuffle ids).Perm ids)
    (h : db.feed now bounds shuffle user excludes languages size = .ok ids) : db.EachOnce ids := by
  rw [feed_eq (hasUser_of_feed h)] at h
  split at h
  · obtain rfl := Except.ok.inj h
    exact eachOnce_nil
  · simp only [Except.bind] at h
    split at h
    · simp at h
    · split at h
      · simp at h
      · rename_i filled hfilled
        obtain rfl := Except.ok.inj h
        exact ((eachOnce_fillFeed hkeys hfilled).of_perm (hshuffle filled)).take _

end Feeds

/-! ## Looking up the videos -/

/-- Each id that is a video's finds a video with this id. -/
theorem map_id_filterMap_video? {db : Database} {ids : List Int} (hthere : ∀ id ∈ ids, db.HasVideo id) :
    (ids.filterMap db.video?).map (·.id) = ids := by
  induction ids with
  | nil => rfl
  | cons id rest ih =>
    obtain ⟨hid, hrest⟩ := List.forall_mem_cons.mp hthere
    obtain ⟨v, hv⟩ := Option.ne_none_iff_exists'.mp (mt video?_eq_none_iff.mp (not_not_intro hid))
    rw [List.filterMap_cons_some hv, List.map_cons, (video?_eq_some hv).2, ih hrest]

theorem mem_of_mem_filterMap_video? {db : Database} {ids : List Int} {v : Video} (h : v ∈ ids.filterMap db.video?) :
    v ∈ db.videos := by
  obtain ⟨id, -, hv⟩ := List.mem_filterMap.mp h
  exact (video?_eq_some hv).1

end Database

/-! ## Recommendations -/

namespace Service

section Recommendations

variable {bounds : FeedBounds} {shuffle : Shuffle} {user : Option String} {excludes : List Int} {languages : List String}
  {size : Int} {w : World}

/-- What is recommended of a feed: its videos, in an order if there is one. -/
theorem recommendations_eq (hlanguages : languages ≠ []) (order : Option VideoOrder) :
    recommendations bounds shuffle user excludes languages size order w =
      ((feed bounds shuffle user excludes languages size w).1.map fun ids =>
        sortVideos order (ids.filterMap w.db.video?), w) := by
  have hsome : languages.isEmpty = false := by rwa [List.isEmpty_eq_false_iff]
  have hfeed : feed bounds shuffle user excludes languages size w =
      (w.db.feed w.now bounds shuffle user excludes languages size, w) := rfl
  have hvideos : w.db.recommendedVideos w.now bounds shuffle user excludes languages size =
      (w.db.feed w.now bounds shuffle user excludes languages size).map fun ids => ids.filterMap w.db.video? := by
    rw [Database.recommendedVideos, hsome, if_neg Bool.false_ne_true]
    cases w.db.feed w.now bounds shuffle user excludes languages size <;> rfl
  rw [recommendations, database_bind, now_bind, hvideos, hfeed]
  cases w.db.feed w.now bounds shuffle user excludes languages size with
  | error e => exact bind_of_error rfl
  | ok ids => exact bind_of_ok rfl

end Recommendations

/-- What is recommended in at least one language are the videos of the feed, each once. Without an order they stand as in the feed; in
an order they are sorted, which brings them into the order and leaves those with the same views, upload date or duration as they were.
A feed that is not answered is the answer, whatever the order. There is one such sorting for each order and each list of videos, and
sorting leaves a list that is in the order already as it is. -/
theorem recommendations_are_the_feed (bounds : FeedBounds) (shuffle : Shuffle) (user : Option String) (excludes : List Int)
    (languages : List String) (size : Int) (w : World) (hkeys : (w.db.videos.map (·.id)).Nodup)
    (hshuffle : ∀ ids, (shuffle ids).Perm ids) (hlanguages : languages ≠ []) :
    (∀ e, feed bounds shuffle user excludes languages size w = (.error e, w) →
      ∀ order, recommendations bounds shuffle user excludes languages size order w = (.error e, w)) ∧
    (∀ ids, feed bounds shuffle user excludes languages size w = (.ok ids, w) →
      ids.Nodup ∧ ∃ videos : List Video, videos.map (·.id) = ids ∧ (∀ v ∈ videos, v ∈ w.db.videos) ∧
        recommendations bounds shuffle user excludes languages size none w = (.ok videos, w) ∧
        ∀ o : VideoOrder, ∃ sorted, o.SortedStably videos sorted ∧
          recommendations bounds shuffle user excludes languages size (some o) w = (.ok sorted, w)) ∧
    ∀ (o : VideoOrder) (videos : List Video),
      (∀ sorted, o.SortedStably videos sorted ↔ sorted = sortVideos (some o) videos) ∧
        (o.InOrder videos → sortVideos (some o) videos = videos) := by
  refine ⟨fun e hfeed order => ?_, fun ids hfeed => ?_, fun o videos => ⟨fun sorted => VideoOrder.sortedStably_iff,
    VideoOrder.sortVideos_of_inOrder⟩⟩
  · rw [recommendations_eq hlanguages, hfeed]
    rfl
  · have heach : w.db.EachOnce ids := Database.eachOnce_feed hkeys hshuffle (congrArg Prod.fst hfeed)
    refine ⟨heach.nodup, ids.filterMap w.db.video?, Database.map_id_filterMap_video? heach.there,
      fun v hv => Database.mem_of_mem_filterMap_video? hv, ?_, fun o => ⟨_, VideoOrder.sortedStably_iff.mpr rfl, ?_⟩⟩
    · rw [recommendations_eq hlanguages, hfeed]
      rfl
    · rw [recommendations_eq hlanguages, hfeed]
      rfl

/-! ### Three videos, the longest first -/

namespace ThreeClips

open Database.SomeFeed (clip)

/-- Two videos are as long as each other, and the third one is longer. -/
def world : World where
  db := { videos := [clip 1 "Travel" "en" 3, { clip 2 "Sport" "ko" 2 with duration := 90 }, clip 3 "Sport" "en" 1] }
  now := Duration.day

def bounds : FeedBounds := { days := .whole 1 }

/-- What stands in a feed after it is sorted: the longer video comes to the front, and the others stay. -/
theorem longest_of_three :
    VideoOrder.longest.SortedStably [clip 3 "Sport" "en" 1, clip 1 "Travel" "en" 3, { clip 2 "Sport" "ko" 2 with duration := 90 }]
      [{ clip 2 "Sport" "ko" 2 with duration := 90 }, clip 3 "Sport" "en" 1, clip 1 "Travel" "en" 3] := by
  refine ⟨by decide, by unfold VideoOrder.InOrder; decide, fun k => ?_⟩
  by_cases hlong : k = 90
  · rw [hlong]
    decide
  · have hshort : ¬(90 : Int) = k := fun h => hlong h.symm
    simp [VideoOrder.key, clip, List.filter_cons, hshort]

/-- The feed is the ranking by views, backwards. -/
theorem feed_backwards : feed bounds List.reverse none [] ["ko", "en"] 3 world = (.ok [3, 1, 2], world) := by
  have hkeys : (world.db.videos.map (·.id)).Nodup := by decide
  have hsorted : (world.db.videos.filter fun v => !List.contains [] v.id).mergeSort
      (world.db.standsBefore 0 (world.db.tier none ["ko", "en"])) =
        [{ clip 2 "Sport" "ko" 2 with duration := 90 }, clip 1 "Travel" "en" 3, clip 3 "Sport" "en" 1] :=
    (Database.orders_standsBefore hkeys _).mergeSort_eq (by decide) (by decide)
  have hranked : world.db.cutRanking 0 none [] ["ko", "en"] 3 = [2, 1, 3] := by
    rw [Database.cutRanking, Database.globalRanking, hsorted]
    rfl
  have hfill : world.db.fillFeed 0 none [] ["ko", "en"] 3 = .ok [2, 1, 3] := by
    rw [Database.fillFeed_eq_cutRanking hkeys (by decide) (by decide) (by decide) (by decide), hranked]
  have hfeed : world.db.feed world.now bounds List.reverse none [] ["ko", "en"] 3 = .ok [3, 1, 2] := by
    have hsince : recentSince world.now bounds.days = .ok 0 := by decide
    have hmin : min 3 bounds.cap = 3 := by decide
    rw [Database.feed_eq (by simp), hmin, if_neg (by decide), hsince, Except.bind, hfill]
    rfl
  exact congrArg (·, world) hfeed

/-- The longer video comes to the front, and the others stay in the sequence of the feed. -/
theorem longest_first :
    ∃ videos sorted : List Video,
      recommendations bounds List.reverse none [] ["ko", "en"] 3 none world = (.ok videos, world) ∧ videos.map (·.id) = [3, 1, 2] ∧
        recommendations bounds List.reverse none [] ["ko", "en"] 3 (some .longest) world = (.ok sorted, world) ∧
          sorted.map (·.id) = [2, 3, 1] := by
  obtain ⟨-, hall, hsort⟩ := recommendations_are_the_feed bounds List.reverse none [] ["ko", "en"] 3 world (by decide)
    List.reverse_perm (by simp)
  obtain ⟨-, videos, hids, hthere, hplain, hordered⟩ := hall [3, 1, 2] feed_backwards
  obtain ⟨sorted, hsorted, hanswer⟩ := hordered .longest
  refine ⟨videos, sorted, hplain, hids, hanswer, ?_⟩
  obtain ⟨a, rest, rfl, ha, hrest⟩ := List.map_eq_cons_iff.mp hids
  obtain ⟨b, rest, rfl, hb, hrest⟩ := List.map_eq_cons_iff.mp hrest
  obtain ⟨c, rest, rfl, hc, hrest⟩ := List.map_eq_cons_iff.mp hrest
  obtain rfl := List.map_eq_nil_iff.mp hrest
  have hone : ∀ v ∈ [a, b, c], ∀ u ∈ world.db.videos, v.id = u.id → v = u := fun v hv u hu =>
    List.inj_on_of_nodup_map (by decide : (world.db.videos.map (·.id)).Nodup) (hthere v hv) hu
  obtain rfl := hone a (by simp) (clip 3 "Sport" "en" 1) (by decide) ha
  obtain rfl := hone b (by simp) (clip 1 "Travel" "en" 3) (by decide) hb
  obtain rfl := hone c (by simp) { clip 2 "Sport" "ko" 2 with duration := 90 } (by decide) hc
  obtain rfl := ((hsort _ _).1 sorted).mp hsorted
  rw [← ((hsort _ _).1 _).mp longest_of_three]
  rfl

end ThreeClips

end Service

end VideoShare
