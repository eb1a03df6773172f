import VideoShare.Proofs.FeedOrder

/-!
# Feeds page by page

A caller who has seen a page of a feed asks for the next one by excluding the videos of the first. The ranking that the second feed
is cut from is then what the first page left of the ranking it was cut from (`globalRanking_of_excluded`), wherever in the tiers the
cut fell. So two pages are the feed of both sizes, cut in two, and however each feed is shuffled nothing is lost between the pages
and nothing stands on both.

A feed is answered or not for reasons that its tiers do not matter for: its user is registered or it is nobody's, and where it asks
for videos at all, the days in which likes are recent begin at a date, and its size and all that it excludes fit into columns
(`feed_answers_iff`).
-/

namespace VideoShare

/-- Leaving out those whose keys stand among the first of a list leaves the rest of the list, where no two have one key. -/
theorem filter_not_mem_take {α κ : Type} {k : α → κ} {l : List α} {p : α → Bool} {n : Nat} (hkeys : (l.map k).Nodup)
    (hp : ∀ a ∈ l, p a = true ↔ k a ∉ (l.map k).take n) : l.filter p = l.drop n := by
  have hnone : (l.take n).filter p = [] := by
    refine List.filter_eq_nil_iff.mpr fun a ha hpa => ?_
    refine (hp a (List.mem_of_mem_take ha)).mp hpa ?_
    rw [← List.map_take]
    exact List.mem_map_of_mem ha
  have hall : (l.drop n).filter p = l.drop n := by
    refine List.filter_eq_self.mpr fun a ha => (hp a (List.mem_of_mem_drop ha)).mpr fun htaken => ?_
    exact (List.disjoint_take_drop hkeys (Nat.le_refl n)) htaken (by rw [← List.map_drop]; exact List.mem_map_of_mem ha)
  calc l.filter p = (l.take n).filter p ++ (l.drop n).filter p := by rw [← List.filter_append, List.take_append_drop]
    _ = l.drop n := by rw [hnone, hall, List.nil_append]

namespace Database

section Pages

variable {db : Database} {since : Instant} {user : Option String} {excludes more : List Int} {languages : List String}

/-- Excluding the first of a ranking as well leaves the rest of it, in the same order. -/
theorem globalRanking_of_excluded (hkeys : (db.videos.map (·.id)).Nodup) {n : Nat}
    (hmore : ∀ id, id ∈ more ↔ id ∈ excludes ∨ id ∈ (db.globalRanking since user excludes languages).take n) :
    db.globalRanking since user more languages = (db.globalRanking since user excludes languages).drop n := by
  let before := db.standsBefore since (db.tier user languages)
  let sorted := (db.videos.filter fun v => !excludes.contains v.id).mergeSort before
  have horder : Orders before (db.videos.filter fun v => !more.contains v.id) := orders_standsBefore hkeys _
  have hsorted : sorted.Pairwise fun a b => before a b = true :=
    List.pairwise_mergeSort horder.trans horder.total _
  have hnodup : (sorted.map (·.id)).Nodup := nodup_globalRanking hkeys
  have hrest : (sorted.filter fun v => !more.contains v.id) = sorted.drop n := by
    refine filter_not_mem_take hnodup fun v hv => ?_
    have hkept : v.id ∉ excludes := by simpa using (List.mem_filter.mp (List.mem_mergeSort.mp hv)).2
    simp only [Bool.not_eq_true', List.contains_eq_mem, decide_eq_false_iff_not, hmore, not_or]
    exact ⟨fun h => h.2, fun h => ⟨hkept, h⟩⟩
  -- the rest has the videos that the second ranking has, and is in order
  have hperm : (sorted.filter fun v => !more.contains v.id).Perm (db.videos.filter fun v => !more.contains v.id) := by
    refine ((List.mergeSort_perm _ _).filter _).trans (List.Perm.of_eq ?_)
    rw [List.filter_filter]
    refine List.filter_congr fun v _ => ?_
    rw [Bool.eq_iff_iff]
    simp only [Bool.and_eq_true, Bool.not_eq_true', List.contains_eq_mem, decide_eq_false_iff_not, hmore, not_or]
    exact ⟨fun h => h.1, fun h => ⟨h, h.1⟩⟩
  calc db.globalRanking since user more languages
      = (sorted.filter fun v => !more.contains v.id).map (·.id) := by
        rw [globalRanking, horder.mergeSort_eq hperm (hsorted.filter _)]
    _ = (db.globalRanking since user excludes languages).drop n := by rw [hrest, List.map_drop]; rfl

/-- A ranking that is cut at two sizes together is the ranking cut at the first, followed by what the second cuts off the rest. -/
theorem cutRanking_add (hkeys : (db.videos.map (·.id)).Nodup) {n m : Nat}
    (hmore : ∀ id, id ∈ more ↔ id ∈ excludes ∨ id ∈ db.cutRanking since user excludes languages n) :
    db.cutRanking since user excludes languages (n + m : Nat) =
      db.cutRanking since user excludes languages n ++ db.cutRanking since user more languages m := by
  have hrest : db.globalRanking since user more languages = (db.globalRanking since user excludes languages).drop n :=
    globalRanking_of_excluded hkeys hmore
  simp only [cutRanking, Int.toNat_natCast, hrest, List.take_add]

end Pages

/-! ## Feeds that are answered -/

section Answers

variable {db : Database} {now since : Instant} {bounds : FeedBounds} {shuffle : Shuffle} {user : Option String}
  {excludes : List Int} {languages : List String} {n : Nat}

/-- What a feed needs in order to be answered. -/
structure Answerable (db : Database) (now : Instant) (bounds : FeedBounds) (user : Option String) (excludes : List Int) (n : Nat) :
    Prop where
  user : ∀ u, user = some u → db.HasUser u
  since : 0 < n → ∃ since, recentSince now bounds.days = .ok since
  size : (n : Int) ≤ greatestColumn
  excludes : 0 < n → ∀ id ∈ excludes, fitsColumn id = true

/-- A feed that is asked for no more than the bounds allow is answered with the cut ranking in some order. -/
theorem Answerable.feed_eq_ok (h : db.Answerable now bounds user excludes n) (hkeys : (db.videos.map (·.id)).Nodup)
    (hids : ∀ v ∈ db.videos, fitsColumn v.id = true) (hshuffle : ∀ ids, (shuffle ids).Perm ids) (hcap : (n : Int) ≤ bounds.cap)
    (hsince : 0 < n → recentSince now bounds.days = .ok since) (languages : List String) :
    ∃ ids, db.feed now bounds shuffle user excludes languages n = .ok ids ∧
      ids.Perm (db.cutRanking since user excludes languages n) := by
  rw [feed_eq h.user, Int.min_eq_left hcap]
  by_cases hpos : 0 < n
  · have hperm := hshuffle (db.cutRanking since user excludes languages n)
    have hlength : (shuffle (db.cutRanking since user excludes languages n)).length ≤ (n : Int).toNat := by
      rw [hperm.length_eq]
      exact List.length_take_le _ _
    refine ⟨_, ?_, hperm⟩
    rw [if_neg (by omega), hsince hpos, Except.bind, fillFeed_eq_cutRanking hkeys hids (h.excludes hpos) (by omega) h.size,
      Except.bind, List.take_of_length_le hlength]
  · have hnone : db.cutRanking since user excludes languages n = [] := by
      rw [cutRanking, Int.toNat_natCast, Nat.eq_zero_of_not_pos hpos, List.take_zero]
    exact ⟨[], by rw [if_pos (by omega)], by rw [hnone]⟩

/-- A feed for somebody who is not registered is refused. -/
theorem feed_of_unknown {u : String} {size : Int} (hnone : ¬db.HasUser u) :
    db.feed now bounds shuffle (some u) excludes languages size = .error (.refused (.noAudience u)) := by
  simp only [feed, user?_eq_none_iff.mpr hnone, Option.isNone_none, if_true]
  rfl

/-- A feed is answered to a user who is registered, or to nobody in particular. -/
theorem hasUser_of_feed {size : Int} {ids : List Int}
    (h : db.feed now bounds shuffle user excludes languages size = .ok ids) : ∀ u, user = some u → db.HasUser u := by
  rintro u rfl
  by_contra hnone
  rw [feed_of_unknown hnone] at h
  simp at h

/-- A feed that is answered has what it needs. -/
theorem answerable_of_feed {ids : List Int} (hcap : (n : Int) ≤ bounds.cap)
    (h : db.feed now bounds shuffle user excludes languages n = .ok ids) : db.Answerable now bounds user excludes n := by
  have huser : ∀ u, user = some u → db.HasUser u := hasUser_of_feed h
  rw [feed_eq huser, Int.min_eq_left hcap] at h
  by_cases hpos : 0 < n
  · rw [if_neg (by omega)] at h
    cases hsince : recentSince now bounds.days with
    | error e => simp [hsince, Except.bind] at h
    | ok since =>
      have hcolumns : ∀ id ∈ (n : Int) :: excludes, fitsColumn id = true := by
        by_contra hwide
        have hcheck : checkColumns ((n : Int) :: excludes) = .error .integerTooWide := by
          rw [checkColumns, if_neg (by rwa [List.all_eq_true])]
        simp [hsince, Except.bind, fillFeed_eq_error_of_wide (by omega : (0 : Int) < n) hcheck] at h
      obtain ⟨hsize, hexcludes⟩ := List.forall_mem_cons.mp hcolumns
      have hle : (n : Int) ≤ greatestColumn := by
        simp only [fitsColumn, Bool.and_eq_true, decide_eq_true_eq] at hsize
        exact hsize.2
      exact ⟨huser, fun _ => ⟨since, hsince⟩, hle, fun _ => hexcludes⟩
  · refine ⟨huser, fun h => absurd h hpos, ?_, fun h => absurd h hpos⟩
    unfold greatestColumn
    omega

/-- A feed within its bounds is answered exactly when it has what it needs. -/
theorem feed_answers_iff (hkeys : (db.videos.map (·.id)).Nodup) (hids : ∀ v ∈ db.videos, fitsColumn v.id = true)
    (hshuffle : ∀ ids, (shuffle ids).Perm ids) (hcap : (n : Int) ≤ bounds.cap) :
    (∃ ids, db.feed now bounds shuffle user excludes languages n = .ok ids) ↔ db.Answerable now bounds user excludes n := by
  constructor
  · rintro ⟨ids, h⟩
    exact answerable_of_feed hcap h
  · intro h
    obtain ⟨since, hsince⟩ : ∃ since, 0 < n → recentSince now bounds.days = .ok since := by
      by_cases hpos : 0 < n
      · exact (h.since hpos).imp fun _ hs _ => hs
      · exact ⟨0, fun h => absurd h hpos⟩
    obtain ⟨ids, hids, -⟩ := h.feed_eq_ok hkeys hids hshuffle hcap hsince languages
    exact ⟨ids, hids⟩

end Answers

/-- Whenever a feed of two sizes together is answered, so is the feed of the first size, and so is the feed of the second one that
also excludes what the first one holds; the two hold what the feed of both holds, and nothing stands in both, nor twice in one. The
three feeds may be shuffled in different ways. The feed of both sizes is answered when it has what it needs, and only then. -/
theorem feed_is_two_pages (db : Database) (now : Instant) (bounds : FeedBounds) (shuffle shuffle₁ shuffle₂ : Shuffle)
    (user : Option String) (excludes : List Int) (languages : List String) (n m : Nat)
    (hkeys : (db.videos.map (·.id)).Nodup) (hids : ∀ v ∈ db.videos, fitsColumn v.id = true)
    (hshuffle : ∀ ids, (shuffle ids).Perm ids) (hshuffle₁ : ∀ ids, (shuffle₁ ids).Perm ids)
    (hshuffle₂ : ∀ ids, (shuffle₂ ids).Perm ids) (hcap : ((n + m : Nat) : Int) ≤ bounds.cap) :
    (∀ feed, db.feed now bounds shuffle user excludes languages (n + m : Nat) = .ok feed →
      ∃ page, db.feed now bounds shuffle₁ user excludes languages n = .ok page ∧
        ∀ more : List Int, (∀ id, id ∈ more ↔ id ∈ excludes ∨ id ∈ page) →
          ∃ next, db.feed now bounds shuffle₂ user more languages m = .ok next ∧
            feed.Perm (page ++ next) ∧ (page ++ next).Nodup) ∧
    ((∃ feed, db.feed now bounds shuffle user excludes languages (n + m : Nat) = .ok feed) ↔
      db.Answerable now bounds user excludes (n + m)) := by
  refine ⟨fun feed hfeed => ?_, feed_answers_iff hkeys hids hshuffle hcap⟩
  have hboth := answerable_of_feed hcap hfeed
  obtain ⟨since, hsince⟩ : ∃ since, 0 < n + m → recentSince now bounds.days = .ok since := by
    by_cases hpos : 0 < n + m
    · exact (hboth.since hpos).imp fun _ hs _ => hs
    · exact ⟨0, fun h => absurd h hpos⟩
  obtain ⟨feed', hfeed', hperm⟩ := hboth.feed_eq_ok hkeys hids hshuffle hcap hsince languages
  obtain rfl : feed = feed' := Except.ok.inj (hfeed.symm.trans hfeed')
  have hsize := hboth.size
  -- the first page asks for less of the same
  have hfirst : db.Answerable now bounds user excludes n :=
    ⟨hboth.user, fun h => hboth.since (by omega), by omega, fun h => hboth.excludes (by omega)⟩
  obtain ⟨page, hpage, hpagePerm⟩ := hfirst.feed_eq_ok hkeys hids hshuffle₁ (by omega) (fun h => hsince (by omega))
    languages
  refine ⟨page, hpage, fun more hmore => ?_⟩
  -- what it answers are ids of videos, which fit into columns
  have hsecond : db.Answerable now bounds user more m := by
    refine ⟨hboth.user, fun h => hboth.since (by omega), by omega, fun h id hid => ?_⟩
    rcases (hmore id).mp hid with hid | hid
    · exact hboth.excludes (by omega) id hid
    · obtain ⟨⟨v, hv, rfl⟩, -⟩ := mem_globalRanking.mp (List.mem_of_mem_take (hpagePerm.mem_iff.mp hid))
      exact hids v hv
  obtain ⟨next, hnext, hnextPerm⟩ := hsecond.feed_eq_ok hkeys hids hshuffle₂ (by omega) (fun h => hsince (by omega))
    languages
  have hcut : db.cutRanking since user excludes languages (n + m : Nat) =
      db.cutRanking since user excludes languages n ++ db.cutRanking since user more languages m :=
    cutRanking_add hkeys fun id => by rw [hmore, hpagePerm.mem_iff]
  have hpages : feed.Perm (page ++ next) := by
    rw [hcut] at hperm
    exact hperm.trans (hpagePerm.append hnextPerm).symm
  refine ⟨next, hnext, hpages, ?_⟩
  rw [← hpages.nodup_iff, hperm.nodup_iff]
  exact (List.take_sublist _ _).nodup (nodup_globalRanking hkeys)

/-! ### Two pages, and two pages of a feed that is too wide -/

namespace TwoPages

open SomeFeed (clip)

/-- Ann likes sport: her first page ends among her favourites, of which video 5 is excluded. -/
def db : Database where
  users := [⟨"ann", "Ann", none, none, "ROLE_USER", 0⟩]
  videos := [clip 1 "Travel" "en" 9, clip 2 "Sport" "ko" 1, clip 3 "Sport" "en" 5, clip 4 "Travel" "ko" 2, clip 5 "Sport" "en" 7]
  categoryScores := [⟨"ann", "Sport", 2⟩]

def bounds : FeedBounds := { days := .whole 1, cap := 3 }

/-- Ann is shown three videos on two pages, each shuffled in a way of its own. -/
theorem three_on_two_pages :
    ∃ feed page next, db.feed Duration.day bounds id (some "ann") [5] ["ko"] (1 + 2 : Nat) = .ok feed ∧
      db.feed Duration.day bounds List.reverse (some "ann") [5] ["ko"] (1 : Nat) = .ok page ∧
      db.feed Duration.day bounds List.reverse (some "ann") ([5] ++ page) ["ko"] (2 : Nat) = .ok next ∧
      feed.Perm (page ++ next) ∧ (page ++ next).Nodup := by
  have hids : ∀ v ∈ db.videos, fitsColumn v.id = true := by decide
  obtain ⟨hpages, hanswers⟩ := feed_is_two_pages db Duration.day bounds id List.reverse List.reverse (some "ann") [5] ["ko"] 1 2
    (by decide) hids (fun _ => List.Perm.refl _) List.reverse_perm List.reverse_perm (by decide)
  have huser : ∀ u, some "ann" = some u → db.HasUser u := fun u hu => ⟨_, List.mem_singleton_self _, Option.some.inj hu⟩
  have hsince : recentSince Duration.day bounds.days = .ok 0 := by decide
  obtain ⟨feed, hfeed⟩ := hanswers.mpr ⟨huser, fun _ => ⟨0, hsince⟩, by decide, fun _ => by decide⟩
  obtain ⟨page, hpage, hrest⟩ := hpages feed hfeed
  obtain ⟨next, hnext, hperm, hnodup⟩ := hrest ([5] ++ page) fun _ => List.mem_append
  exact ⟨feed, page, next, hfeed, hpage, hnext, hperm, hnodup⟩

/-- One video, and bounds that allow more than a column can count: two pages are answered, and the feed of both sizes is not. -/
theorem pages_without_feed :
    let one : Database := { videos := [clip 1 "Sport" "en" 0] }
    let wide : FeedBounds := { days := .whole 1, cap := 9223372036854775808 }
    one.feed Duration.day wide id none [] ["en"] 4611686018427387904 = .ok [1] ∧
      one.feed Duration.day wide id none ([] ++ [1]) ["en"] 4611686018427387904 = .ok [] ∧
      ¬∃ feed, one.feed Duration.day wide id none [] ["en"] (4611686018427387904 + 4611686018427387904) = .ok feed ∧
        feed.Perm ([1] ++ []) := by
  intro one wide
  have hfails : one.feed Duration.day wide id none [] ["en"] (4611686018427387904 + 4611686018427387904) =
      .error .integerTooWide := by decide
  refine ⟨by decide +kernel, by decide +kernel, ?_⟩
  rintro ⟨feed, hfeed, -⟩
  rw [hfails] at hfeed
  simp at hfeed

end TwoPages

end Database

end VideoShare
