import Mathlib.Data.List.Nodup
import VideoShare.Affinity
import VideoShare.Popularity

/-!
# One ranking by tiers

What a feed is meant to be, said in one go. Every video that is not excluded stands in a tier: in the first one if the user likes
its category or its language, else in that of the first requested language that is its own, else in the last one. The videos are
ranked by tier, then by recent likes, by views and by the smaller id. No two videos with different ids stand in one place, so a
list of videos in this order is the ranking of its members, and a ranking can be put together from its tiers (`ranked_lt_succ`).
-/

namespace VideoShare

/-! ## Lists in order -/

section Sorting

variable {α : Type} {le le' : α → α → Bool} {l : List α}

/-- An order brings the members of a list into one sequence and no other. -/
structure Orders (le : α → α → Bool) (l : List α) : Prop where
  trans : ∀ a b c, le a b = true → le b c = true → le a c = true
  total : ∀ a b, (le a b || le b a) = true
  antisymm : ∀ a ∈ l, ∀ b ∈ l, le a b = true → le b a = true → a = b

/-- A list that is in order is what sorting makes of a list with the same members. -/
theorem Orders.mergeSort_eq (h : Orders le l) {l' : List α} (hperm : l'.Perm l)
    (hsorted : l'.Pairwise fun a b => le a b = true) : l.mergeSort le = l' := by
  refine List.Perm.eq_of_pairwise ?_ (List.pairwise_mergeSort h.trans h.total l) hsorted
    ((List.mergeSort_perm l le).trans hperm.symm)
  intro a b ha hb hab hba
  exact h.antisymm a (List.mem_mergeSort.mp ha) b (hperm.mem_iff.mp hb) hab hba

/-- Sorting a list whose members fall into two parts, each of the one before each of the other, is sorting the parts. -/
theorem Orders.mergeSort_filter_append (h : Orders le l) (p : α → Bool)
    (hparts : ∀ a ∈ l, ∀ b ∈ l, p a = true → p b = false → le a b = true) :
    l.mergeSort le = (l.filter p).mergeSort le ++ (l.filter fun a => !p a).mergeSort le := by
  refine h.mergeSort_eq ?_ ?_
  · exact ((List.mergeSort_perm _ _).append (List.mergeSort_perm _ _)).trans (List.filter_append_perm p l)
  · rw [List.pairwise_append]
    refine ⟨List.pairwise_mergeSort h.trans h.total _, List.pairwise_mergeSort h.trans h.total _, ?_⟩
    intro a ha b hb
    obtain ⟨hal, hpa⟩ := List.mem_filter.mp (List.mem_mergeSort.mp ha)
    obtain ⟨hbl, hpb⟩ := List.mem_filter.mp (List.mem_mergeSort.mp hb)
    exact hparts a hal b hbl hpa (by simpa using hpb)

/-- Orders that agree on the members of a list sort it alike. -/
theorem Orders.mergeSort_congr (h : Orders le l) (h' : Orders le' l) (hagree : ∀ a ∈ l, ∀ b ∈ l, le a b = le' a b) :
    l.mergeSort le = l.mergeSort le' := by
  refine h.mergeSort_eq (List.mergeSort_perm l le') ?_
  refine (List.pairwise_mergeSort h'.trans h'.total l).imp_of_mem ?_
  intro a b ha hb hab
  rw [hagree a (List.mem_mergeSort.mp ha) b (List.mem_mergeSort.mp hb)]
  exact hab

end Sorting

namespace Database

/-! ## Tiers -/

/-- Whether a user has a positive score for a video's category or for its language. -/
def prefers (db : Database) (user : String) (v : Video) : Bool :=
  (db.categoryScores.any fun s => s.userId == user && s.key == v.category && 0 < s.score) ||
    db.languageScores.any fun s => s.userId == user && s.key == v.language && 0 < s.score

/-- The tier of a video in the feed of a user, or of nobody in particular. -/
def tier (db : Database) (user : Option String) (languages : List String) (v : Video) : Nat :=
  if user.any fun u => db.prefers u v then 0 else 1 + languages.idxOf v.language

/-- Whether the first video stands before the second, or in its place: in a lower tier, or with more recent likes in the same one,
or with more views and as many likes, or with the smaller id and all else alike. -/
def standsBefore (db : Database) (since : Instant) (tier : Video → Nat) (a b : Video) : Bool :=
  tier a < tier b ||
    (tier a == tier b &&
      (db.recentLikes since b.id < db.recentLikes since a.id ||
        (db.recentLikes since a.id == db.recentLikes since b.id &&
          (b.views < a.views || (a.views == b.views && a.id ≤ b.id)))))

/-- The videos that are not excluded and whose tier is admitted, in the order of the ranking. -/
def ranked (db : Database) (since : Instant) (tier : Video → Nat) (excludes : List Int) (admits : Nat → Bool) : List Video :=
  (db.videos.filter fun v => admits (tier v) && !excludes.contains v.id).mergeSort (db.standsBefore since tier)

/-- The ids of all videos that are not excluded, in one ranking. -/
def globalRanking (db : Database) (since : Instant) (user : Option String) (excludes : List Int) (languages : List String) :
    List Int :=
  ((db.videos.filter fun v => !excludes.contains v.id).mergeSort
    (db.standsBefore since (db.tier user languages))).map (·.id)

section Order

variable {db : Database} {since : Instant} {tier : Video → Nat} {excludes : List Int}

theorem standsBefore_iff {a b : Video} :
    db.standsBefore since tier a b = true ↔ tier a < tier b ∨ tier a = tier b ∧ db.outranks since a b = true := by
  simp only [standsBefore, outranks, Bool.or_eq_true, Bool.and_eq_true, decide_eq_true_eq, beq_iff_eq]

theorem outranks_iff {a b : Video} :
    db.outranks since a b = true ↔
      db.recentLikes since b.id < db.recentLikes since a.id ∨
        db.recentLikes since a.id = db.recentLikes since b.id ∧ (b.views < a.views ∨ a.views = b.views ∧ a.id ≤ b.id) := by
  simp only [outranks, Bool.or_eq_true, Bool.and_eq_true, decide_eq_true_eq, beq_iff_eq]

theorem outranks_trans (a b c : Video) (hab : db.outranks since a b = true) (hbc : db.outranks since b c = true) :
    db.outranks since a c = true := by
  rw [outranks_iff] at *
  omega

theorem outranks_total (a b : Video) : (db.outranks since a b || db.outranks since b a) = true := by
  rw [Bool.or_eq_true, outranks_iff, outranks_iff]
  omega

/-- Two videos that outrank each other have one id. -/
theorem outranks_antisymm {a b : Video} (hab : db.outranks since a b = true) (hba : db.outranks since b a = true) :
    a.id = b.id := by
  rw [outranks_iff] at *
  omega

theorem standsBefore_trans (a b c : Video) (hab : db.standsBefore since tier a b = true)
    (hbc : db.standsBefore since tier b c = true) : db.standsBefore since tier a c = true := by
  rw [standsBefore_iff] at *
  rcases hab with hab | ⟨htab, hab⟩
  · rcases hbc with hbc | ⟨htbc, -⟩ <;> exact Or.inl (by omega)
  · rcases hbc with hbc | ⟨htbc, hbc⟩
    · exact Or.inl (by omega)
    · exact Or.inr ⟨htab.trans htbc, outranks_trans a b c hab hbc⟩

theorem standsBefore_total (a b : Video) :
    (db.standsBefore since tier a b || db.standsBefore since tier b a) = true := by
  rw [Bool.or_eq_true, standsBefore_iff, standsBefore_iff]
  rcases Nat.lt_trichotomy (tier a) (tier b) with h | h | h
  · exact Or.inl (Or.inl h)
  · have hranks : (db.outranks since a b || db.outranks since b a) = true := outranks_total a b
    rcases Bool.or_eq_true_iff.mp hranks with hab | hba
    · exact Or.inl (Or.inr ⟨h, hab⟩)
    · exact Or.inr (Or.inr ⟨h.symm, hba⟩)
  · exact Or.inr (Or.inl h)

/-- Two videos that stand before each other have one id. -/
theorem standsBefore_antisymm {a b : Video} (hab : db.standsBefore since tier a b = true)
    (hba : db.standsBefore since tier b a = true) : a.id = b.id := by
  rw [standsBefore_iff] at *
  rcases hab with hab | ⟨htab, hab⟩
  · rcases hba with hba | ⟨htba, -⟩ <;> omega
  · rcases hba with hba | ⟨-, hba⟩
    · omega
    · exact outranks_antisymm hab hba

/-- Videos of one database are in one sequence by rank. -/
theorem orders_outranks (hkeys : (db.videos.map (·.id)).Nodup) (p : Video → Bool) :
    Orders (db.outranks since) (db.videos.filter p) where
  trans := outranks_trans
  total := outranks_total
  antisymm _ ha _ hb hab hba :=
    List.inj_on_of_nodup_map hkeys (List.mem_filter.mp ha).1 (List.mem_filter.mp hb).1 (outranks_antisymm hab hba)

/-- Videos of one database are in one sequence by tier and rank. -/
theorem orders_standsBefore (hkeys : (db.videos.map (·.id)).Nodup) (p : Video → Bool) :
    Orders (db.standsBefore since tier) (db.videos.filter p) where
  trans := standsBefore_trans
  total := standsBefore_total
  antisymm _ ha _ hb hab hba :=
    List.inj_on_of_nodup_map hkeys (List.mem_filter.mp ha).1 (List.mem_filter.mp hb).1 (standsBefore_antisymm hab hba)

/-! ## The ranking tier by tier -/

theorem mem_ranked {admits : Nat → Bool} {v : Video} :
    v ∈ db.ranked since tier excludes admits ↔ v ∈ db.videos ∧ admits (tier v) = true ∧ v.id ∉ excludes := by
  simp [ranked]

/-- Within a tier the ranking is by rank alone. -/
theorem ranked_eq (hkeys : (db.videos.map (·.id)).Nodup) (j : Nat) :
    db.ranked since tier excludes (· == j) =
      (db.videos.filter fun v => tier v == j && !excludes.contains v.id).mergeSort (db.outranks since) := by
  refine (orders_standsBefore hkeys _).mergeSort_congr (orders_outranks hkeys _) fun a ha b hb => ?_
  have hta : tier a = j := by simpa using (Bool.and_eq_true_iff.mp (List.mem_filter.mp ha).2).1
  have htb : tier b = j := by simpa using (Bool.and_eq_true_iff.mp (List.mem_filter.mp hb).2).1
  rw [Bool.eq_iff_iff, standsBefore_iff]
  simp [hta, htb]

/-- The ranking of the tiers up to one is the ranking of those before it, followed by that of the one. -/
theorem ranked_lt_succ (hkeys : (db.videos.map (·.id)).Nodup) (j : Nat) :
    db.ranked since tier excludes (· < j + 1) =
      db.ranked since tier excludes (· < j) ++ db.ranked since tier excludes (· == j) := by
  have horder : Orders (db.standsBefore since tier)
      (db.videos.filter fun v => decide (tier v < j + 1) && !excludes.contains v.id) := orders_standsBefore hkeys _
  have hparts := horder.mergeSort_filter_append (fun v => decide (tier v < j)) fun a _ b _ hpa hpb => by
    have hta : tier a < j := by simpa using hpa
    have htb : j ≤ tier b := by simpa using hpb
    exact standsBefore_iff.mpr (Or.inl (by omega))
  have hbelow : (fun v => decide (tier v < j) && (decide (tier v < j + 1) && !excludes.contains v.id)) =
      fun v => decide (tier v < j) && !excludes.contains v.id := by
    funext v
    rw [Bool.eq_iff_iff]
    simp only [Bool.and_eq_true, decide_eq_true_eq]
    exact ⟨fun ⟨h, _, hv⟩ => ⟨h, hv⟩, fun ⟨h, hv⟩ => ⟨h, by omega, hv⟩⟩
  have hat : (fun v => !decide (tier v < j) && (decide (tier v < j + 1) && !excludes.contains v.id)) =
      fun v => tier v == j && !excludes.contains v.id := by
    funext v
    rw [Bool.eq_iff_iff]
    simp only [Bool.and_eq_true, Bool.not_eq_true', decide_eq_false_iff_not, decide_eq_true_eq, beq_iff_eq]
    exact ⟨fun ⟨h, h', hv⟩ => ⟨by omega, hv⟩, fun ⟨h, hv⟩ => ⟨by omega, by omega, hv⟩⟩
  rw [List.filter_filter, List.filter_filter, hbelow, hat] at hparts
  exact hparts

/-- When all tiers are admitted the ranking is that of all videos. -/
theorem ranked_eq_globalRanking {user : Option String} {languages : List String} {admits : Nat → Bool}
    (hall : ∀ v ∈ db.videos, admits (db.tier user languages v) = true) :
    (db.ranked since (db.tier user languages) excludes admits).map (·.id) =
      db.globalRanking since user excludes languages := by
  have hfilter : (db.videos.filter fun v => admits (db.tier user languages v) && !excludes.contains v.id) =
      db.videos.filter fun v => !excludes.contains v.id :=
    List.filter_congr fun v hv => by rw [hall v hv, Bool.true_and]
  rw [ranked, hfilter, globalRanking]

end Order

end Database

end VideoShare
