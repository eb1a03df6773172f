import VideoShare.Feed
import VideoShare.Proofs.Keys
import VideoShare.Proofs.Outcome
import VideoShare.Proofs.Ranking

/-!
# The feed is one ranking, cut once

The feed is filled by one query for each tier, and each query leaves out what the feed holds already and asks for what it still
lacks. What the feed holds after some tiers is the beginning of the ranking of their videos (`upTo`). While the feed is short of its
size it holds all of these videos, so the next query, which may admit videos of earlier tiers as well, finds those of its own tier
and no others. When it is not short, a further tier would not change the beginning of the ranking any more.
-/

namespace VideoShare

/-- The greatest integer that fits into a column. -/
def greatestColumn : Int := 9223372036854775807

namespace Database

/-! ## Queries -/

section Queries

variable {db : Database} {since : Instant} {excludes : List Int} {size : Int} {admits : Video → Bool}

/-- A query for some videos answers the first of the ranking, when its numbers fit into columns. -/
theorem top_eq_ok (hpos : 0 < size) (hsize : size ≤ greatestColumn) (hexcludes : ∀ id ∈ excludes, fitsColumn id = true) :
    db.top since excludes size admits = .ok ((db.ranking since excludes admits).take size.toNat) := by
  have hfits : fitsColumn size = true := by
    simp only [fitsColumn, Bool.and_eq_true, decide_eq_true_eq]
    unfold greatestColumn at hsize
    omega
  have hcheck : checkColumns (size :: excludes) = .ok () :=
    checkColumns_eq_ok.mpr (List.forall_mem_cons.mpr ⟨hfits, hexcludes⟩)
  rw [top, if_neg (by omega), hcheck]

/-- A query of which a number does not fit into a column fails. -/
theorem top_eq_error_of_wide (hpos : 0 < size) (hwide : checkColumns (size :: excludes) = .error .integerTooWide) :
    db.top since excludes size admits = .error .integerTooWide := by
  rw [top, if_neg (by omega), hwide]

/-- A query that is answered answers the first of the ranking. -/
theorem eq_take_of_top {ids : List Int} (h : db.top since excludes size admits = .ok ids) :
    ids = (db.ranking since excludes admits).take size.toNat := by
  by_cases hsize : size ≤ 0
  · rw [top, if_pos hsize] at h
    rw [Int.toNat_of_nonpos hsize, List.take_zero, ← Except.ok.inj h]
  · rw [top, if_neg hsize] at h
    split at h
    · simp at h
    · exact (Except.ok.inj h).symm

/-- The ids in the ranking of some videos are those of the ones that are admitted and not excluded. -/
theorem mem_ranking {id : Int} :
    id ∈ db.ranking since excludes admits ↔ id ∉ excludes ∧ ∃ v ∈ db.videos, admits v = true ∧ v.id = id := by
  simp only [ranking, List.mem_map, List.mem_mergeSort, List.mem_filter, Bool.and_eq_true, Bool.not_eq_true',
    List.contains_eq_mem, decide_eq_false_iff_not]
  constructor
  · rintro ⟨v, ⟨hv, hadmitted, hkept⟩, rfl⟩
    exact ⟨hkept, v, hv, hadmitted, rfl⟩
  · rintro ⟨hkept, v, hv, hadmitted, rfl⟩
    exact ⟨v, ⟨hv, hadmitted, hkept⟩, rfl⟩

theorem length_ranking_le : (db.ranking since excludes admits).length ≤ db.videos.length := by
  rw [ranking, List.length_map, List.length_mergeSort]
  exact List.length_filter_le _ _

end Queries

/-! ## The beginning of the ranking -/

/-- The first ids of the ranking of the tiers before one. -/
def upTo (db : Database) (since : Instant) (tier : Video → Nat) (excludes : List Int) (n j : Nat) : List Int :=
  ((db.ranked since tier excludes (· < j)).map (·.id)).take n

section Steps

variable {db : Database} {since : Instant} {tier : Video → Nat} {excludes : List Int} {n j : Nat} {admits : Video → Bool}

/-- A query that admits all videos of a tier, and none of a later one, finds the videos of the tier when it leaves out those of the
tiers before. -/
theorem ranking_eq_ranked (hkeys : (db.videos.map (·.id)).Nodup)
    (hadmits : ∀ v ∈ db.videos, (tier v = j → admits v = true) ∧ (admits v = true → tier v ≤ j)) :
    db.ranking since (excludes ++ (db.ranked since tier excludes (· < j)).map (·.id)) admits =
      (db.ranked since tier excludes (· == j)).map (·.id) := by
  rw [ranked_eq hkeys, ranking]
  congr 2
  refine List.filter_congr fun v hv => ?_
  -- a video is in the feed when it is of an earlier tier and not excluded
  have hfeed : v.id ∈ (db.ranked since tier excludes (· < j)).map (·.id) ↔ tier v < j ∧ v.id ∉ excludes := by
    rw [List.mem_map]
    constructor
    · rintro ⟨v', hv', hid⟩
      obtain ⟨hthere, htier, hkept⟩ := mem_ranked.mp hv'
      have hsame : v' = v := List.inj_on_of_nodup_map hkeys hthere hv hid
      rw [← hsame]
      exact ⟨by simpa using htier, hkept⟩
    · rintro ⟨htier, hkept⟩
      exact ⟨v, mem_ranked.mpr ⟨hv, by simpa using htier, hkept⟩, rfl⟩
  obtain ⟨hall, hnone⟩ := hadmits v hv
  rw [Bool.eq_iff_iff]
  simp only [Bool.and_eq_true, Bool.not_eq_true', List.contains_eq_mem, decide_eq_false_iff_not, List.mem_append, hfeed,
    beq_iff_eq, not_or, not_and_or, not_not]
  constructor
  · rintro ⟨hadm, hkept, hlate | hexcluded⟩
    · exact ⟨by have := hnone hadm; omega, hkept⟩
    · exact absurd hexcluded hkept
  · rintro ⟨htier, hkept⟩
    exact ⟨hall htier, hkept, Or.inl (by omega)⟩

/-- A feed that is full is the beginning of the ranking of one tier more. -/
theorem upTo_succ_of_full (hkeys : (db.videos.map (·.id)).Nodup)
    (hfull : n ≤ (db.upTo since tier excludes n j).length) :
    db.upTo since tier excludes n (j + 1) = db.upTo since tier excludes n j := by
  rw [upTo, List.length_take] at hfull
  rw [upTo, upTo, ranked_lt_succ hkeys, List.map_append, List.take_append_of_le_length (by omega)]

/-- A feed that is full is the beginning of the ranking of however many tiers more. -/
theorem upTo_add_of_full (hkeys : (db.videos.map (·.id)).Nodup) (hfull : n ≤ (db.upTo since tier excludes n j).length) :
    ∀ more, db.upTo since tier excludes n (j + more) = db.upTo since tier excludes n j
  | 0 => rfl
  | more + 1 => by
    have ih := upTo_add_of_full hkeys hfull more
    rw [← Nat.add_assoc, upTo_succ_of_full hkeys (ih ▸ hfull), ih]

/-- A feed that is not full grows by the answer to the query of the next tier. -/
theorem upTo_succ_of_short (hkeys : (db.videos.map (·.id)).Nodup)
    (hadmits : ∀ v ∈ db.videos, (tier v = j → admits v = true) ∧ (admits v = true → tier v ≤ j))
    (hshort : (db.upTo since tier excludes n j).length < n) :
    db.upTo since tier excludes n (j + 1) =
      db.upTo since tier excludes n j ++
        (db.ranking since (excludes ++ db.upTo since tier excludes n j) admits).take
          (n - (db.upTo since tier excludes n j).length) := by
  -- nothing was cut off so far
  have hall : db.upTo since tier excludes n j = (db.ranked since tier excludes (· < j)).map (·.id) := by
    rw [upTo, List.length_take] at hshort
    rw [upTo, List.take_of_length_le (by omega)]
  rw [hall, ranking_eq_ranked hkeys hadmits, upTo, ranked_lt_succ hkeys, List.map_append, List.take_append,
    List.take_of_length_le]
  rw [hall] at hshort
  omega

/-- The query of the next tier, asked while the feed is short, answers what the feed lacks of the next tier. -/
theorem top_eq_ok_of_short (hkeys : (db.videos.map (·.id)).Nodup) (hids : ∀ v ∈ db.videos, fitsColumn v.id = true)
    (hexcludes : ∀ id ∈ excludes, fitsColumn id = true) (hn : (n : Int) ≤ greatestColumn)
    (hadmits : ∀ v ∈ db.videos, (tier v = j → admits v = true) ∧ (admits v = true → tier v ≤ j))
    (hshort : (db.upTo since tier excludes n j).length < n) :
    ∃ ids,
      db.top since (excludes ++ db.upTo since tier excludes n j) (n - (db.upTo since tier excludes n j).length) admits = .ok ids ∧
        db.upTo since tier excludes n j ++ ids = db.upTo since tier excludes n (j + 1) := by
  have hfits : ∀ id ∈ excludes ++ db.upTo since tier excludes n j, fitsColumn id = true := by
    intro id hid
    rcases List.mem_append.mp hid with hid | hid
    · exact hexcludes id hid
    · obtain ⟨v, hv, rfl⟩ := List.mem_map.mp (List.mem_of_mem_take hid)
      exact hids v (mem_ranked.mp hv).1
  have hlack : ((n : Int) - (db.upTo since tier excludes n j).length).toNat = n - (db.upTo since tier excludes n j).length := by
    omega
  refine ⟨_, top_eq_ok (by omega) (by omega) hfits, ?_⟩
  rw [hlack, ← upTo_succ_of_short hkeys hadmits hshort]

end Steps

/-! ## The tiers of a feed -/

section Tiers

variable {db : Database} {since : Instant} {user : Option String} {excludes : List Int} {languages : List String} {n : Nat}

/-- A key has a positive score of a user in a table exactly when a row says so. -/
theorem contains_positiveScores {rows : List Score} {user key : String} :
    ((positiveScores rows user).map (·.1)).contains key = rows.any fun s => s.userId == user && s.key == key && 0 < s.score := by
  rw [Bool.eq_iff_iff, List.contains_iff_mem, List.any_eq_true]
  simp only [positiveScores, List.mem_map, List.mem_filter, Bool.and_eq_true, beq_iff_eq, decide_eq_true_eq]
  constructor
  · rintro ⟨-, ⟨s, ⟨hs, huser, hpos⟩, rfl⟩, rfl⟩
    exact ⟨s, hs, ⟨huser, rfl⟩, hpos⟩
  · rintro ⟨s, hs, ⟨huser, rfl⟩, hpos⟩
    exact ⟨_, ⟨s, ⟨hs, huser, hpos⟩, rfl⟩, rfl⟩

/-- The query of the first tier admits what the user prefers. -/
theorem contains_affinity (u : String) (v : Video) :
    (((db.affinity u).categories.map (·.1)).contains v.category || ((db.affinity u).languages.map (·.1)).contains v.language) =
      db.prefers u v := by
  rw [affinity, contains_positiveScores, contains_positiveScores, prefers]

theorem tier_none (v : Video) : db.tier none languages v = 1 + languages.idxOf v.language := rfl

theorem tier_some (u : String) (v : Video) :
    db.tier (some u) languages v = if db.prefers u v then 0 else 1 + languages.idxOf v.language := rfl

theorem tier_le (v : Video) : db.tier user languages v ≤ 1 + languages.idxOf v.language := by
  unfold tier
  split <;> omega

/-- Before the first tier the feed is empty. -/
theorem upTo_zero {tier : Video → Nat} : db.upTo since tier excludes n 0 = [] := by
  simp [upTo, ranked]

/-- Without a video in the first tier the feed is empty after it too. -/
theorem upTo_one_of_pos {tier : Video → Nat} (hnone : ∀ v ∈ db.videos, 0 < tier v) : db.upTo since tier excludes n 1 = [] := by
  have hempty : (db.videos.filter fun v => decide (tier v < 1) && !excludes.contains v.id) = [] := by
    rw [List.filter_eq_nil_iff]
    intro v hv
    have := hnone v hv
    simp only [Bool.and_eq_true, decide_eq_true_eq, not_and]
    omega
  rw [upTo, ranked, hempty, List.mergeSort_nil, List.map_nil, List.take_nil]

/-- The query of a requested language admits the videos of its tier, and no video of a later one. -/
theorem language_admits (done rest : List String) (language : String) (v : Video) :
    (db.tier user (done ++ language :: rest) v = 1 + done.length → (v.language == language) = true) ∧
      ((v.language == language) = true → db.tier user (done ++ language :: rest) v ≤ 1 + done.length) := by
  constructor
  · intro htier
    have hindex : (done ++ language :: rest).idxOf v.language = done.length := by
      unfold tier at htier
      split at htier <;> omega
    have hlt : (done ++ language :: rest).idxOf v.language < (done ++ language :: rest).length := by
      rw [hindex, List.length_append, List.length_cons]
      omega
    have hat := List.getElem_idxOf hlt
    simp only [hindex, List.getElem_append_right (Nat.le_refl _), Nat.sub_self, List.getElem_cons_zero] at hat
    rw [hat, beq_self_eq_true]
  · intro hlanguage
    have hle : db.tier user (done ++ language :: rest) v ≤ 1 + (done ++ language :: rest).idxOf v.language := tier_le v
    have hindex : (done ++ language :: rest).idxOf v.language ≤ done.length := by
      rw [beq_iff_eq.mp hlanguage, List.idxOf_append]
      split
      · exact Nat.le_of_lt (List.idxOf_lt_length_of_mem ‹_›)
      · simp
    omega

section Filling

variable (hkeys : (db.videos.map (·.id)).Nodup) (hids : ∀ v ∈ db.videos, fitsColumn v.id = true)
  (hexcludes : ∀ id ∈ excludes, fitsColumn id = true) (hn : (n : Int) ≤ greatestColumn)

include hkeys hids hexcludes hn

/-- The first tier: what the user prefers. -/
theorem affinityTier_eq_ok (hpos : 0 < n) :
    db.affinityTier since user excludes n = .ok (db.upTo since (db.tier user languages) excludes n 1) := by
  cases user with
  | none =>
    rw [upTo_one_of_pos fun v _ => by rw [tier_none]; omega]
    rfl
  | some u =>
    simp only [affinityTier, topByCategoryOrLanguage]
    by_cases hempty : (((db.affinity u).categories.map (·.1)).isEmpty && ((db.affinity u).languages.map (·.1)).isEmpty) = true
    · rw [if_pos hempty, upTo_one_of_pos]
      intro v _
      obtain ⟨hcategories, hlanguages⟩ := Bool.and_eq_true_iff.mp hempty
      have hnot : db.prefers u v = false := by
        rw [← contains_affinity, List.isEmpty_iff.mp hcategories, List.isEmpty_iff.mp hlanguages]
        rfl
      rw [tier_some, hnot, if_neg Bool.false_ne_true]
      omega
    · rw [if_neg hempty]
      simp only [contains_affinity]
      have hadmits : ∀ v ∈ db.videos, (db.tier (some u) languages v = 0 → db.prefers u v = true) ∧
          (db.prefers u v = true → db.tier (some u) languages v ≤ 0) := by
        intro v _
        rw [tier_some]
        by_cases hprefers : db.prefers u v = true <;> simp [hprefers]
      have hshort : (db.upTo since (db.tier (some u) languages) excludes n 0).length < n := by
        rw [upTo_zero]
        exact hpos
      obtain ⟨ids, htop, hfeed⟩ := top_eq_ok_of_short hkeys hids hexcludes hn hadmits hshort
      simp only [upTo_zero, List.append_nil, List.nil_append, List.length_nil, Int.natCast_zero, Int.sub_zero] at htop hfeed
      rw [htop, hfeed]

/-- The tiers of the requested languages that are left, after those that are done. -/
theorem languageTiers_eq_ok (rest : List String) :
    ∀ done, db.languageTiers since excludes n (db.upTo since (db.tier user (done ++ rest)) excludes n (1 + done.length)) rest =
      .ok (db.upTo since (db.tier user (done ++ rest)) excludes n (1 + (done ++ rest).length)) := by
  induction rest with
  | nil =>
    intro done
    rw [List.append_nil, languageTiers]
  | cons language rest ih =>
    intro done
    rw [languageTiers]
    by_cases hfull : n ≤ (db.upTo since (db.tier user (done ++ language :: rest)) excludes n (1 + done.length)).length
    · rw [if_pos (by omega), List.length_append, ← Nat.add_assoc, upTo_add_of_full hkeys hfull]
    · have hshort : (db.upTo since (db.tier user (done ++ language :: rest)) excludes n (1 + done.length)).length < n := by
        omega
      obtain ⟨ids, htop, hfeed⟩ := top_eq_ok_of_short hkeys hids hexcludes hn
        (fun v _ => language_admits done rest language v) hshort
      have hnext := ih (done ++ [language])
      rw [List.append_assoc, List.singleton_append, List.length_append, List.length_singleton, ← Nat.add_assoc] at hnext
      rw [if_neg (by omega), topByLanguage, htop]
      simp only
      rw [hfeed]
      exact hnext

/-- The last tier: whatever is popular. -/
theorem overallTier_eq_ok :
    db.overallTier since excludes n (db.upTo since (db.tier user languages) excludes n (1 + languages.length)) =
      .ok ((db.globalRanking since user excludes languages).take n) := by
  have hlast : ∀ v ∈ db.videos, db.tier user languages v ≤ 1 + languages.length := fun v _ =>
    Nat.le_trans (tier_le v) (Nat.add_le_add_left List.idxOf_le_length 1)
  have hall : db.upTo since (db.tier user languages) excludes n (1 + languages.length + 1) =
      (db.globalRanking since user excludes languages).take n := by
    rw [upTo, ranked_eq_globalRanking fun v hv => by simpa using Nat.lt_succ_of_le (hlast v hv)]
  rw [overallTier]
  by_cases hfull : n ≤ (db.upTo since (db.tier user languages) excludes n (1 + languages.length)).length
  · rw [if_pos (by omega), ← hall, upTo_succ_of_full hkeys hfull]
  · have hshort : (db.upTo since (db.tier user languages) excludes n (1 + languages.length)).length < n := by omega
    obtain ⟨ids, htop, hfeed⟩ := top_eq_ok_of_short hkeys hids hexcludes hn (fun v hv => ⟨fun _ => rfl, fun _ => hlast v hv⟩)
      hshort
    rw [if_neg (by omega), topOverall, htop]
    simp only
    rw [hfeed, hall]

/-- The filled feed is the beginning of the ranking of all videos that are not excluded. -/
theorem fillFeed_eq_ok (hpos : 0 < n) :
    db.fillFeed since user excludes languages n = .ok ((db.globalRanking since user excludes languages).take n) := by
  have hpersonal : db.affinityTier since user excludes n = .ok (db.upTo since (db.tier user languages) excludes n 1) :=
    affinityTier_eq_ok hkeys hids hexcludes hn hpos
  have hspoken : db.languageTiers since excludes n (db.upTo since (db.tier user languages) excludes n 1) languages =
      .ok (db.upTo since (db.tier user languages) excludes n (1 + languages.length)) :=
    languageTiers_eq_ok hkeys hids hexcludes hn languages []
  have hoverall : db.overallTier since excludes n (db.upTo since (db.tier user languages) excludes n (1 + languages.length)) =
      .ok ((db.globalRanking since user excludes languages).take n) := overallTier_eq_ok hkeys hids hexcludes hn
  simp only [fillFeed, hpersonal, hspoken, hoverall, bind, Except.bind]

end Filling

/-- A feed is not filled when its size or an excluded id does not fit into a column: the first query that is made fails. -/
theorem fillFeed_eq_error_of_wide {size : Int} (hpos : 0 < size)
    (hwide : checkColumns (size :: excludes) = .error .integerTooWide) :
    db.fillFeed since user excludes languages size = .error .integerTooWide := by
  have hpersonal : db.affinityTier since user excludes size = .ok [] ∨
      db.affinityTier since user excludes size = .error .integerTooWide := by
    cases user with
    | none => exact Or.inl rfl
    | some u =>
      simp only [affinityTier, topByCategoryOrLanguage]
      split
      · exact Or.inl rfl
      · exact Or.inr (top_eq_error_of_wide hpos hwide)
  -- without personal videos the next query leaves out what was excluded and no more, and asks for the whole size
  have hnext : ∀ admits, db.top since (excludes ++ []) (size - ([] : List Int).length) admits = .error .integerTooWide := by
    intro admits
    refine top_eq_error_of_wide (by simpa using hpos) ?_
    simpa using hwide
  rcases hpersonal with hpersonal | hpersonal
  · cases languages with
    | nil =>
      have hoverall : db.overallTier since excludes size [] = .error .integerTooWide := by
        rw [overallTier, if_neg (by simpa using hpos), topOverall, hnext]
      simp only [fillFeed, hpersonal, languageTiers, hoverall, bind, Except.bind]
    | cons language rest =>
      have hspoken : db.languageTiers since excludes size [] (language :: rest) = .error .integerTooWide := by
        rw [languageTiers, if_neg (by simpa using hpos), topByLanguage, hnext]
      simp only [fillFeed, hpersonal, hspoken, bind, Except.bind]
  · simp only [fillFeed, hpersonal, bind, Except.bind]

/-- A feed of more videos than a column can count is not filled. -/
theorem fillFeed_eq_error {size : Int} (hsize : greatestColumn < size) :
    db.fillFeed since user excludes languages size = .error .integerTooWide := by
  unfold greatestColumn at hsize
  have hwide : fitsColumn size = false := by
    simp only [fitsColumn, Bool.and_eq_false_iff, decide_eq_false_iff_not]
    omega
  refine fillFeed_eq_error_of_wide (by omega) ?_
  simp only [checkColumns, List.all_cons, hwide, Bool.false_and, Bool.false_eq_true, if_false]

end Tiers

/-! ## The feed -/

section Feed

variable {db : Database} {since : Instant} {user : Option String} {excludes : List Int} {languages : List String}

/-- The first ids of the ranking of all videos that are not excluded, none when asked for no positive number. -/
def cutRanking (db : Database) (since : Instant) (user : Option String) (excludes : List Int) (languages : List String)
    (size : Int) : List Int :=
  (db.globalRanking since user excludes languages).take size.toNat

/-- A feed for nobody in particular, or for somebody who is registered, is filled and shuffled when it has a size. -/
theorem feed_eq {now : Instant} {bounds : FeedBounds} {shuffle : Shuffle} {size : Int}
    (huser : ∀ u, user = some u → db.HasUser u) :
    db.feed now bounds shuffle user excludes languages size =
      if min size bounds.cap ≤ 0 then .ok []
      else (recentSince now bounds.days).bind fun since =>
        (db.fillFeed since user excludes languages (min size bounds.cap)).bind fun ids =>
          .ok ((shuffle ids).take (min size bounds.cap).toNat) := by
  cases user with
  | none => rfl
  | some u =>
    obtain ⟨row, hrow⟩ := (huser u rfl).found
    simp only [feed, hrow, Option.isNone_some, Bool.false_eq_true, if_false]
    rfl

/-- The ids in the ranking are those of the videos that are not excluded. -/
theorem mem_globalRanking {id : Int} :
    id ∈ db.globalRanking since user excludes languages ↔ db.HasVideo id ∧ id ∉ excludes := by
  simp only [globalRanking, List.mem_map, List.mem_mergeSort, List.mem_filter, HasVideo]
  constructor
  · rintro ⟨v, ⟨hv, hkept⟩, rfl⟩
    exact ⟨⟨v, hv, rfl⟩, by simpa using hkept⟩
  · rintro ⟨⟨v, hv, rfl⟩, hkept⟩
    exact ⟨v, ⟨hv, by simpa using hkept⟩, rfl⟩

/-- No id stands in the ranking twice. -/
theorem nodup_globalRanking (hkeys : (db.videos.map (·.id)).Nodup) :
    (db.globalRanking since user excludes languages).Nodup :=
  (((List.mergeSort_perm _ _).map _).nodup_iff).mpr (nodup_map_filter _ hkeys)

/-- The ranking has as many ids as there are videos that are not excluded. -/
theorem length_globalRanking :
    (db.globalRanking since user excludes languages).length = db.videos.countP fun v => !excludes.contains v.id := by
  rw [globalRanking, List.length_map, List.length_mergeSort, List.countP_eq_length_filter]

/-- The filled feed is the cut ranking. -/
theorem fillFeed_eq_cutRanking (hkeys : (db.videos.map (·.id)).Nodup) (hids : ∀ v ∈ db.videos, fitsColumn v.id = true)
    (hexcludes : ∀ id ∈ excludes, fitsColumn id = true) {size : Int} (hpos : 0 < size) (hsize : size ≤ greatestColumn) :
    db.fillFeed since user excludes languages size = .ok (db.cutRanking since user excludes languages size) := by
  obtain ⟨n, rfl⟩ := Int.eq_ofNat_of_zero_le (Int.le_of_lt hpos)
  rw [cutRanking, Int.toNat_natCast]
  exact fillFeed_eq_ok hkeys hids hexcludes hsize (by omega)

/-- The cut ranking is as long as its size and the videos allow. -/
theorem length_cutRanking (size : Int) :
    ((db.cutRanking since user excludes languages size).length : Int) =
      min (max 0 size) (db.videos.countP fun v => !excludes.contains v.id) := by
  rw [cutRanking, List.length_take, length_globalRanking]
  omega

end Feed

/-- The feed before the shuffle is the ranking of all videos that are not excluded, cut once at the size asked for or at the most
that may be asked for, and the feed is the shuffle of it. Nothing stands in the feed twice, nothing that was excluded, and it is as
long as its size and the videos allow. A feed of more videos than a column can count is asked for in vain. -/
theorem feed_eq_shuffled_ranking (db : Database) (now : Instant) (bounds : FeedBounds) (shuffle : Shuffle)
    (user : Option String) (excludes : List Int) (languages : List String) (size : Int) (since : Instant)
    (hkeys : (db.videos.map (·.id)).Nodup) (hids : ∀ v ∈ db.videos, fitsColumn v.id = true)
    (hexcludes : ∀ id ∈ excludes, fitsColumn id = true) (huser : ∀ u, user = some u → db.HasUser u)
    (hshuffle : ∀ ids, (shuffle ids).Perm ids)
    (hsince : 0 < min size bounds.cap → recentSince now bounds.days = .ok since) :
    (min size bounds.cap ≤ greatestColumn →
      (0 < min size bounds.cap →
        db.fillFeed since user excludes languages (min size bounds.cap) =
          .ok (db.cutRanking since user excludes languages (min size bounds.cap))) ∧
      ∃ ids, db.feed now bounds shuffle user excludes languages size = .ok ids ∧
        ids = shuffle (db.cutRanking since user excludes languages (min size bounds.cap)) ∧
        ids.Nodup ∧ (∀ id ∈ ids, id ∉ excludes) ∧
        (ids.length : Int) = min (max 0 (min size bounds.cap)) (db.videos.countP fun v => !excludes.contains v.id)) ∧
    (greatestColumn < min size bounds.cap →
      db.feed now bounds shuffle user excludes languages size = .error .integerTooWide) := by
  have hfeed : db.feed now bounds shuffle user excludes languages size = _ := feed_eq huser
  rw [hfeed]
  generalize min size bounds.cap = n at hsince ⊢
  refine ⟨fun hn => ⟨fun hpos => fillFeed_eq_cutRanking hkeys hids hexcludes hpos hn, ?_⟩, fun hn => ?_⟩
  · have hperm := hshuffle (db.cutRanking since user excludes languages n)
    refine ⟨shuffle (db.cutRanking since user excludes languages n), ?_, rfl, ?_, ?_, ?_⟩
    · by_cases hpos : n ≤ 0
      · have hempty : db.cutRanking since user excludes languages n = [] := by
          rw [cutRanking, Int.toNat_of_nonpos hpos, List.take_zero]
        rw [hempty] at hperm
        rw [if_pos hpos, hempty, hperm.eq_nil]
      · have hlength : (shuffle (db.cutRanking since user excludes languages n)).length ≤ n.toNat := by
          rw [hperm.length_eq]
          exact List.length_take_le _ _
        rw [if_neg hpos, hsince (by omega), Except.bind, fillFeed_eq_cutRanking hkeys hids hexcludes (by omega) hn, Except.bind,
          List.take_of_length_le hlength]
    · exact hperm.nodup_iff.mpr ((List.take_sublist _ _).nodup (nodup_globalRanking hkeys))
    · intro id hid
      exact (mem_globalRanking.mp (List.mem_of_mem_take (hperm.mem_iff.mp hid))).2
    · rw [hperm.length_eq, length_cutRanking]
  · have hpos : 0 < n := by
      unfold greatestColumn at hn
      omega
    rw [if_neg (by omega), hsince hpos, Except.bind, fillFeed_eq_error hn, Except.bind]

/-! ### A feed and one that is too wide -/

namespace SomeFeed

def clip (id : Int) (category language : String) (views : Int) : Video :=
  ⟨id, "ann", "clip", none, category, language, 60, views, 0⟩

/-- Ann likes sport. -/
def db : Database where
  users := [⟨"ann", "Ann", none, none, "ROLE_USER", 0⟩]
  videos := [clip 1 "Travel" "en" 9, clip 2 "Sport" "ko" 1, clip 3 "Sport" "en" 5, clip 4 "Travel" "ko" 2, clip 5 "Sport" "en" 7,
    clip 6 "Travel" "de" 3]
  likes := [⟨"ann", 2, 0⟩]
  categoryScores := [⟨"ann", "Sport", 2⟩]

/-- Ann's favourite category comes first, then the languages in the order asked for; video 5 is excluded, and the feed is cut. -/
theorem feed_of_ann :
    db.feed Duration.day { days := .whole 1 } List.reverse (some "ann") [5] ["ko", "en", "ko"] 4 = .ok [1, 4, 3, 2] ∧
      db.fillFeed 0 (some "ann") [5] ["ko", "en", "ko"] 4 = .ok [2, 3, 4, 1] := by
  have hkeys : (db.videos.map (·.id)).Nodup := by decide
  have hsorted : (db.videos.filter fun v => !List.contains [5] v.id).mergeSort
      (db.standsBefore 0 (db.tier (some "ann") ["ko", "en", "ko"])) =
        [clip 2 "Sport" "ko" 1, clip 3 "Sport" "en" 5, clip 4 "Travel" "ko" 2, clip 1 "Travel" "en" 9, clip 6 "Travel" "de" 3] :=
    (orders_standsBefore hkeys _).mergeSort_eq (by decide) (by decide)
  have hranked : db.cutRanking 0 (some "ann") [5] ["ko", "en", "ko"] 4 = [2, 3, 4, 1] := by
    rw [cutRanking, globalRanking, hsorted]
    rfl
  have huser : ∀ u, some "ann" = some u → db.HasUser u := fun u hu =>
    ⟨_, List.mem_singleton_self _, Option.some.inj hu⟩
  obtain ⟨hfill, ids, hfeed, hids, -⟩ := (feed_eq_shuffled_ranking db Duration.day { days := .whole 1 } List.reverse
    (some "ann") [5] ["ko", "en", "ko"] 4 0 hkeys (by decide) (by decide) huser List.reverse_perm
    fun _ => by decide).1 (by decide)
  have hmin : min 4 (FeedBounds.cap { days := .whole 1 }) = 4 := by decide
  rw [hmin, hranked] at hfill hids
  rw [hids] at hfeed
  exact ⟨hfeed, hfill (by decide)⟩

/-- One video, and a feed of one more than a column can count: the ranking has the video, and the feed fails. -/
theorem feed_too_wide :
    Database.cutRanking { videos := [clip 1 "Sport" "en" 0] } 0 none [] ["en"] 9223372036854775808 = [1] ∧
      Database.feed { videos := [clip 1 "Sport" "en" 0] } Duration.day { days := .whole 1, cap := 9223372036854775808 } id none []
        ["en"] 9223372036854775808 ≠ .ok [1] := by
  decide +kernel

end SomeFeed

end Database

end VideoShare
