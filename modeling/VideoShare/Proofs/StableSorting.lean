import Mathlib.Data.List.Basic
import VideoShare.VideoOrder

/-!
# Sorting is stable

An order may allow two members of a list in either sequence. Sorting keeps them in the sequence they are in, whichever way the order
goes, so that a list has one sorted form: the members in order, and those that are tied as they were (`sortedStably_iff`). For the orders
of videos the tied ones are those with the same views, the same upload date or the same duration.
-/

namespace VideoShare

/-! ## Lists with ties -/

section Ties

variable {α : Type} {le : α → α → Bool} {l l' : List α}

/-- Whether an order allows two members in either sequence. -/
def tied (le : α → α → Bool) (a b : α) : Bool := le a b && le b a

theorem tied_iff {a b : α} : tied le a b = true ↔ le a b = true ∧ le b a = true := Bool.and_eq_true_iff

section

variable (htrans : ∀ a b c, le a b = true → le b c = true → le a c = true) (htotal : ∀ a b, (le a b || le b a) = true)

include htotal in
theorem tied_self (a : α) : tied le a a = true := by
  have ha : le a a = true := by simpa using htotal a a
  exact tied_iff.mpr ⟨ha, ha⟩

include htrans htotal

/-- Members of which each is allowed before each stay in the sequence they are in. -/
theorem filter_mergeSort_of_tied {p : α → Bool} (hties : ∀ a ∈ l, ∀ b ∈ l, p a = true → p b = true → le a b = true) :
    (l.mergeSort le).filter p = l.filter p := by
  have hsorted : (l.filter p).Pairwise fun a b => le a b = true := by
    refine List.Pairwise.imp_of_mem (R := fun _ _ => True) ?_ (List.pairwise_of_forall fun _ _ => trivial)
    intro a b ha hb _
    obtain ⟨hal, hpa⟩ := List.mem_filter.mp ha
    obtain ⟨hbl, hpb⟩ := List.mem_filter.mp hb
    exact hties a hal b hbl hpa hpb
  have hsub : (l.filter p).Sublist (l.mergeSort le) := List.sublist_mergeSort htrans htotal hsorted List.filter_sublist
  have hkept := hsub.filter p
  rw [List.filter_filter, funext fun a => Bool.and_self (p a)] at hkept
  exact (hkept.eq_of_length ((List.mergeSort_perm l le).filter p).length_eq.symm).symm

/-- What holds of any two members of a list, the first before the second, holds after sorting of any two that are tied. -/
theorem pairwise_mergeSort_of_tied {R : α → α → Prop} (h : l.Pairwise R) :
    (l.mergeSort le).Pairwise fun a b => le a b = true ∧ (le b a = true → R a b) := by
  refine (List.pairwise_mergeSort htrans htotal l).and (List.pairwise_iff_forall_sublist.mpr ?_)
  intro a b hsub hba
  have hab : le a b = true :=
    List.pairwise_iff_forall_sublist.mp (List.pairwise_mergeSort htrans htotal l) hsub
  -- the two stand in the sorted list as they stand among those that are tied with the first
  have hties : (l.mergeSort le).filter (tied le a) = l.filter (tied le a) := by
    refine filter_mergeSort_of_tied htrans htotal fun x _ y _ hx hy => ?_
    exact htrans x a y (tied_iff.mp hx).2 (tied_iff.mp hy).1
  have hpair := hsub.filter (tied le a)
  rw [hties, List.filter_cons_of_pos (tied_self htotal a), List.filter_cons_of_pos (tied_iff.mpr ⟨hab, hba⟩),
    List.filter_nil] at hpair
  exact List.pairwise_iff_forall_sublist.mp h (hpair.trans List.filter_sublist)

omit htrans in
/-- There is one list that is in order and has the tied members in a given sequence. -/
theorem eq_of_sorted_of_ties (hl : l.Pairwise fun a b => le a b = true) (hl' : l'.Pairwise fun a b => le a b = true)
    (hties : ∀ c, l.filter (tied le c) = l'.filter (tied le c)) : l = l' := by
  -- a member of one list stands in the other, as it is tied with itself
  have hmem : ∀ {s s' : List α}, (∀ c, s.filter (tied le c) = s'.filter (tied le c)) → ∀ a ∈ s, a ∈ s' := by
    intro s s' hsame a ha
    have hkept : a ∈ s.filter (tied le a) := List.mem_filter.mpr ⟨ha, tied_self htotal a⟩
    rw [hsame a] at hkept
    exact (List.mem_filter.mp hkept).1
  induction l generalizing l' with
  | nil =>
    cases l' with
    | nil => rfl
    | cons b t' => exact absurd (hmem (fun c => (hties c).symm) b List.mem_cons_self) List.not_mem_nil
  | cons a t ih =>
    cases l' with
    | nil => exact absurd (hmem hties a List.mem_cons_self) List.not_mem_nil
    | cons b t' =>
      obtain ⟨hat, ht⟩ := List.pairwise_cons.mp hl
      obtain ⟨hbt', ht'⟩ := List.pairwise_cons.mp hl'
      have hself : ∀ c, le c c = true := fun c => (tied_iff.mp (tied_self htotal c)).1
      have hab : le a b = true := by
        rcases List.mem_cons.mp (hmem (fun c => (hties c).symm) b List.mem_cons_self) with rfl | hb
        · exact hself b
        · exact hat b hb
      have hba : le b a = true := by
        rcases List.mem_cons.mp (hmem hties a List.mem_cons_self) with rfl | ha
        · exact hself a
        · exact hbt' a ha
      -- the first members are tied, and so they are the first of those that are tied with them
      have hfirst := hties a
      rw [List.filter_cons_of_pos (tied_self htotal a), List.filter_cons_of_pos (tied_iff.mpr ⟨hab, hba⟩)] at hfirst
      obtain ⟨rfl, -⟩ := List.cons.inj hfirst
      congr 1
      refine ih ht ht' fun c => ?_
      have hc := hties c
      by_cases hca : tied le c a = true
      · rw [List.filter_cons_of_pos hca, List.filter_cons_of_pos hca] at hc
        exact (List.cons.inj hc).2
      · rwa [List.filter_cons_of_neg hca, List.filter_cons_of_neg hca] at hc

end

end Ties

/-! ## Orders of videos -/

namespace VideoOrder

variable {o : VideoOrder} {videos sorted : List Video}

/-- A list of videos is in an order. -/
def InOrder : VideoOrder → List Video → Prop
  | .mostViewed, videos => videos.Pairwise fun a b => b.views ≤ a.views
  | .leastViewed, videos => videos.Pairwise fun a b => a.views ≤ b.views
  | .oldest, videos => videos.Pairwise fun a b => a.uploadDate ≤ b.uploadDate
  | .newest, videos => videos.Pairwise fun a b => b.uploadDate ≤ a.uploadDate
  | .longest, videos => videos.Pairwise fun a b => b.duration ≤ a.duration
  | .shortest, videos => videos.Pairwise fun a b => a.duration ≤ b.duration

theorem inOrder_iff : o.InOrder videos ↔ videos.Pairwise fun a b => o.allows a b = true := by
  cases o <;> exact List.Pairwise.iff fun a b => decide_eq_true_iff.symm

theorem allows_trans (a b c : Video) (hab : o.allows a b = true) (hbc : o.allows b c = true) : o.allows a c = true := by
  unfold allows at *
  split at hab <;> simp_all only [if_true, if_false, decide_eq_true_eq, Bool.false_eq_true] <;> omega

theorem allows_total (a b : Video) : (o.allows a b || o.allows b a) = true := by
  unfold allows
  split <;> simp only [Bool.or_eq_true, decide_eq_true_eq] <;> omega

/-- An order does not tell videos apart that have the same key. -/
theorem tied_iff_key {a b : Video} : tied o.allows a b = true ↔ o.key a = o.key b := by
  rw [tied_iff]
  unfold allows
  split <;> simp only [decide_eq_true_eq] <;> omega

/-- A list of videos is another one in an order, with the videos that have the same key in the sequence they had. -/
structure SortedStably (o : VideoOrder) (videos sorted : List Video) : Prop where
  perm : sorted.Perm videos
  inOrder : o.InOrder sorted
  stable : ∀ k, sorted.filter (fun v => o.key v == k) = videos.filter fun v => o.key v == k

/-- Sorting makes of a list the one that has its videos in order and those with the same key in the sequence they had. -/
theorem sortedStably_iff : o.SortedStably videos sorted ↔ sorted = sortVideos (some o) videos := by
  have hsort : o.SortedStably videos (sortVideos (some o) videos) := by
    refine ⟨List.mergeSort_perm _ _, inOrder_iff.mpr (List.pairwise_mergeSort allows_trans allows_total videos), fun k => ?_⟩
    refine filter_mergeSort_of_tied allows_trans allows_total fun a _ b _ ha hb => ?_
    have hkeys : o.key a = o.key b := (beq_iff_eq.mp ha).trans (beq_iff_eq.mp hb).symm
    exact (tied_iff.mp (tied_iff_key.mpr hkeys)).1
  constructor
  · intro h
    refine eq_of_sorted_of_ties allows_total (inOrder_iff.mp h.inOrder) (inOrder_iff.mp hsort.inOrder) fun c => ?_
    have hclass : tied o.allows c = fun v => o.key v == o.key c := by
      funext v
      rw [Bool.eq_iff_iff, tied_iff_key, beq_iff_eq, eq_comm]
    rw [hclass, h.stable, hsort.stable]
  · rintro rfl
    exact hsort

/-- Videos that are in an order already stay as they are. -/
theorem sortVideos_of_inOrder (h : o.InOrder videos) : sortVideos (some o) videos = videos :=
  (sortedStably_iff.mp ⟨List.Perm.refl _, h, fun _ => rfl⟩).symm

end VideoOrder

end VideoShare
