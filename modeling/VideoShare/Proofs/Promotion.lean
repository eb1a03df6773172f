import Mathlib.Data.List.Perm.Subperm
import VideoShare.Proofs.Calls
import VideoShare.Proofs.NewestFirst
import VideoShare.Proofs.TopList

/-!
# A like or a watch never hurts

A video that is liked or watched gains a recent like or a view, and no other video gains or loses anything. In the order of popularity
it moves past some of those that were before it, and the others stay as they are. So in a list of the most popular videos that is cut at
a size it stands where it stood or further up, or comes in anew, and it pushes at most one other video off the end
(`engagement_promotes`).
-/

namespace VideoShare

/-! ## Lists with one member further up -/

/-- One list comes from another by moving a member up, or bringing it in, and dropping what does not fit any more: it stands no further
down, the others that are in both lists stand in the same sequence, no other has come in, and one at most is dropped. -/
structure Promotes {α : Type} [DecidableEq α] (x : α) (before after : List α) : Prop where
  rises : ∀ i : Nat, before[i]? = some x → ∃ j : Nat, j ≤ i ∧ after[j]? = some x
  sequence : (before.filter fun a => a ≠ x ∧ a ∈ after) = after.filter fun a => a ≠ x ∧ a ∈ before
  newcomer : ∀ a ∈ after, a ∉ before → a = x
  dropped : ∀ a ∈ before, ∀ b ∈ before, a ∉ after → b ∉ after → a = b

section Promotes

variable {α : Type} [DecidableEq α] {x : α}

theorem Promotes.refl (x : α) (l : List α) : Promotes x l l where
  rises i hi := ⟨i, Nat.le_refl i, hi⟩
  sequence := rfl
  newcomer _ ha hout := absurd ha hout
  dropped _ ha _ _ hout _ := absurd ha hout

theorem filter_ne_of_not_mem {l : List α} (hx : x ∉ l) : (l.filter fun a => a ≠ x) = l := by
  refine List.filter_eq_self.mpr fun a ha => ?_
  have hne : a ≠ x := fun heq => hx (heq ▸ ha)
  simpa using hne

theorem filter_ne_middle {front back : List α} (hx : x ∉ front ++ back) :
    ((front ++ x :: back).filter fun a => a ≠ x) = front ++ back := by
  rw [List.filter_append, List.filter_cons_of_neg (by simp), ← List.filter_append, filter_ne_of_not_mem hx]

/-- The beginning of a list without one member: the member takes a place up, or its place is beyond the beginning. -/
theorem filter_take_middle {front back : List α} (hx : x ∉ front ++ back) (n : Nat) :
    (((front ++ x :: back).take n).filter fun a => a ≠ x) =
      (front ++ back).take (if n ≤ front.length then n else n - 1) := by
  obtain ⟨hfront, hback⟩ : x ∉ front ∧ x ∉ back := by simpa using hx
  by_cases hn : n ≤ front.length
  · rw [if_pos hn, List.take_append_of_le_length hn, List.take_append_of_le_length hn]
    exact filter_ne_of_not_mem fun hmem => hfront (List.mem_of_mem_take hmem)
  · obtain ⟨k, rfl⟩ : ∃ k, n = front.length + (k + 1) := ⟨n - front.length - 1, by omega⟩
    have hrest : front.length + (k + 1) - 1 = front.length + k := by omega
    rw [if_neg hn, hrest, List.take_length_add_append, List.take_length_add_append, List.take_succ_cons, List.filter_append,
      List.filter_cons_of_neg (by simp), filter_ne_of_not_mem hfront,
      filter_ne_of_not_mem fun hmem => hback (List.mem_of_mem_take hmem)]

/-- A list in which one member stands no further down, and whose other members are a beginning of the others that lacks one of them
at most, promotes the member. -/
theorem Promotes.of_beginning {before after : List α} (hnodup : before.Nodup)
    (hrises : ∀ i : Nat, before[i]? = some x → ∃ j : Nat, j ≤ i ∧ after[j]? = some x)
    (hothers : (after.filter fun a => a ≠ x) <+: before.filter fun a => a ≠ x)
    (hone : (before.filter fun a => a ≠ x).length ≤ (after.filter fun a => a ≠ x).length + 1) : Promotes x before after := by
  obtain ⟨gone, hgone⟩ := hothers
  have hothers : ∀ a, a ∈ before ∧ a ≠ x ↔ a ∈ after ∧ a ≠ x ∨ a ∈ gone := by
    intro a
    have hmem : a ∈ (before.filter fun a => a ≠ x) ↔ a ∈ (after.filter fun a => a ≠ x) ++ gone := by rw [hgone]
    simpa using hmem
  have hdisjoint : ∀ a ∈ gone, a ∉ after := by
    intro a ha hafter
    have hleft : (before.filter fun a => a ≠ x).Nodup := hnodup.filter _
    rw [← hgone, List.nodup_append] at hleft
    have hax : a ≠ x := ((hothers a).mpr (Or.inr ha)).2
    exact hleft.2.2 a (List.mem_filter.mpr ⟨hafter, by simpa using hax⟩) a ha rfl
  refine ⟨hrises, ?_, fun a ha hout => ?_, fun a ha b hb houta houtb => ?_⟩
  · have hsplit : ∀ l l' : List α, (l.filter fun a => a ≠ x ∧ a ∈ l') = (l.filter fun a => a ≠ x).filter fun a => a ∈ l' := by
      intro l l'
      rw [List.filter_filter]
      exact List.filter_congr fun a _ => by simp [Bool.and_comm]
    have hall : ∀ l : List α, (∀ a, a ∈ after ∧ a ≠ x → a ∈ l) →
        ((after.filter fun a => a ≠ x).filter fun a => a ∈ l) = after.filter fun a => a ≠ x := fun l hl =>
      List.filter_eq_self.mpr fun a ha => by simpa using hl a (by simpa using ha)
    have hnone : (gone.filter fun a => a ∈ after) = [] :=
      List.filter_eq_nil_iff.mpr fun a ha => by simpa using hdisjoint a ha
    rw [hsplit, hsplit, ← hgone, List.filter_append, hnone, List.append_nil,
      hall after fun a ha => ha.1, hall before fun a ha => ((hothers a).mpr (Or.inl ha)).1]
  · by_contra hne
    exact hout ((hothers a).mpr (Or.inl ⟨ha, hne⟩)).1
  · -- the member itself is in the list still, so what is not has gone, and not more than one has
    have hleft : ∀ a ∈ before, a ∉ after → a ∈ gone := by
      intro a ha hout
      have hax : a ≠ x := by
        rintro rfl
        obtain ⟨i, hi⟩ := List.mem_iff_getElem?.mp ha
        obtain ⟨j, -, hj⟩ := hrises i hi
        exact hout (List.mem_of_getElem? hj)
      exact ((hothers a).mp ⟨ha, hax⟩).resolve_left fun hafter => hout hafter.1
    have ha' := hleft a ha houta
    have hb' := hleft b hb houtb
    rw [← hgone, List.length_append] at hone
    match gone, hone, ha', hb' with
    | [c], _, ha', hb' => exact (List.mem_singleton.mp ha').trans (List.mem_singleton.mp hb').symm
    | _ :: _ :: _, hone, _, _ =>
      simp only [List.length_cons] at hone
      omega

/-- Moving a member up and cutting the list promotes the member. -/
theorem promotes_take {front back front' back' : List α} (hnodup : (front ++ x :: back).Nodup)
    (hothers : front ++ back = front' ++ back') (hup : front'.length ≤ front.length) (n : Nat) :
    Promotes x ((front ++ x :: back).take n) ((front' ++ x :: back').take n) := by
  have hx : x ∉ front ++ back := by
    have hmiddle := List.perm_middle.nodup_iff.mp hnodup
    exact (List.nodup_cons.mp hmiddle).1
  refine .of_beginning (hnodup.sublist (List.take_sublist _ _)) (fun i hi => ?_) ?_ ?_
  · rw [List.getElem?_take] at hi
    split at hi
    swap
    · simp at hi
    have hplace : (front ++ x :: back)[front.length]? = some x := by simp
    have hi' : i = front.length :=
      (List.getElem?_inj (List.getElem?_eq_some_iff.mp hi).1 hnodup).mp (hi.trans hplace.symm)
    refine ⟨front'.length, by omega, ?_⟩
    rw [List.getElem?_take, if_pos (by omega)]
    simp
  · rw [filter_take_middle hx, filter_take_middle (hothers ▸ hx), ← hothers]
    refine List.take_prefix_take_left ?_
    split <;> split <;> omega
  · rw [filter_take_middle hx, filter_take_middle (hothers ▸ hx), ← hothers, List.length_take, List.length_take]
    split <;> split <;> omega

end Promotes

/-! ## Sorting by an order in which one member has gained -/

section Sorting

variable {α : Type} {le le' : α → α → Bool} {l : List α}

/-- Where two orders agree on all but one member, the others are in the same sequence in both sorted lists. -/
theorem Orders.mergeSort_others [DecidableEq α] (h : Orders le l) (h' : Orders le' l) {x : α}
    (hothers : ∀ a ∈ l, ∀ b ∈ l, a ≠ x → b ≠ x → le a b = le' a b) :
    ((l.mergeSort le).filter fun a => a ≠ x) = (l.mergeSort le').filter fun a => a ≠ x := by
  rw [← h.mergeSort_filter, ← h'.mergeSort_filter]
  refine (h.mono fun a ha => (List.mem_filter.mp ha).1).mergeSort_congr (h'.mono fun a ha => (List.mem_filter.mp ha).1) ?_
  intro a ha b hb
  obtain ⟨hal, hax⟩ := List.mem_filter.mp ha
  obtain ⟨hbl, hbx⟩ := List.mem_filter.mp hb
  exact hothers a hal b hbl (by simpa using hax) (by simpa using hbx)

/-- Where one member still goes before whatever it went before, and the others stand to each other as they did, it stands no further
down in the sorted list, and the others are in the same sequence. -/
theorem Orders.mergeSort_raised [DecidableEq α] (h : Orders le l) (h' : Orders le' l) (hnodup : l.Nodup) {x : α} (hx : x ∈ l)
    (hothers : ∀ a ∈ l, ∀ b ∈ l, a ≠ x → b ≠ x → le a b = le' a b) (hraised : ∀ b ∈ l, b ≠ x → le x b = true → le' x b = true) :
    ∃ front back front' back', l.mergeSort le = front ++ x :: back ∧ l.mergeSort le' = front' ++ x :: back' ∧
      front ++ back = front' ++ back' ∧ front'.length ≤ front.length := by
  have hsorted := List.pairwise_mergeSort h.trans h.total l
  have hsorted' := List.pairwise_mergeSort h'.trans h'.total l
  have hx₁ : x ∈ l.mergeSort le := List.mem_mergeSort.mpr hx
  have hx₂ : x ∈ l.mergeSort le' := List.mem_mergeSort.mpr hx
  obtain ⟨front, back, hsplit⟩ := List.append_of_mem hx₁
  obtain ⟨front', back', hsplit'⟩ := List.append_of_mem hx₂
  have hdistinct := List.perm_middle.nodup_iff.mp (hsplit ▸ (List.mergeSort_perm l le).nodup_iff.mpr hnodup)
  have hdistinct' := List.perm_middle.nodup_iff.mp (hsplit' ▸ (List.mergeSort_perm l le').nodup_iff.mpr hnodup)
  rw [hsplit, List.pairwise_append] at hsorted
  rw [hsplit', List.pairwise_append] at hsorted'
  have hrest : front ++ back = front' ++ back' := by
    have halike := h.mergeSort_others h' hothers
    rwa [hsplit, hsplit', filter_ne_middle (List.nodup_cons.mp hdistinct).1,
      filter_ne_middle (List.nodup_cons.mp hdistinct').1] at halike
  refine ⟨front, back, front', back', hsplit, hsplit', hrest, ?_⟩
  -- what stands before the member now stood before it then: it would not have been passed otherwise
  have hsub : front' ⊆ front := by
    intro a ha
    have hax : a ≠ x := fun heq => (List.nodup_cons.mp hdistinct').1 (List.mem_append_left _ (heq ▸ ha))
    have hal : a ∈ l := List.mem_mergeSort.mp (hsplit' ▸ List.mem_append_left _ ha)
    have hbefore : le' a x = true := hsorted'.2.2 a ha x (List.mem_cons_self ..)
    have hthere : a ∈ front ++ back := hrest ▸ List.mem_append_left _ ha
    refine (List.mem_append.mp hthere).resolve_right fun hback => hax ?_
    have hafter : le x a = true := (List.pairwise_cons.mp hsorted.2.1).1 a hback
    exact h'.antisymm a hal x hx hbefore (hraised a hal hax hafter)
  have hfront' : front'.Nodup := (List.nodup_append.mp (List.nodup_cons.mp hdistinct').2).1
  exact (List.Nodup.subperm hfront' hsub).length_le

/-- In the list of the keys of the first members, the key of the member that has gained is promoted. -/
theorem Orders.promotes [DecidableEq α] {κ : Type} [DecidableEq κ] {k : α → κ} {x : κ} (h : Orders le l) (h' : Orders le' l)
    (hkeys : (l.map k).Nodup) (hothers : ∀ a ∈ l, ∀ b ∈ l, k a ≠ x → k b ≠ x → le a b = le' a b)
    (hraised : ∀ a ∈ l, ∀ b ∈ l, k a = x → k b ≠ x → le a b = true → le' a b = true) (n : Nat) :
    Promotes x (((l.mergeSort le).take n).map k) (((l.mergeSort le').take n).map k) := by
  by_cases hthere : ∃ a ∈ l, k a = x
  · obtain ⟨a, ha, rfl⟩ := hthere
    have hkey : ∀ b ∈ l, b ≠ a → k b ≠ k a := fun b hb hne heq => hne (List.inj_on_of_nodup_map hkeys hb ha heq)
    obtain ⟨front, back, front', back', hbefore, hafter, hrest, hup⟩ :=
      h.mergeSort_raised h' (hkeys.of_map _) ha (fun b hb c hc hba hca => hothers b hb c hc (hkey b hb hba) (hkey c hc hca))
        fun b hb hba => hraised a ha b hb rfl (hkey b hb hba)
    have hdistinct : (front.map k ++ k a :: back.map k).Nodup := by
      have hsorted := ((List.mergeSort_perm l le).map k).nodup_iff.mpr hkeys
      rwa [hbefore, List.map_append, List.map_cons] at hsorted
    have hsame : front.map k ++ back.map k = front'.map k ++ back'.map k := by
      rw [← List.map_append, hrest, List.map_append]
    rw [hbefore, hafter, List.map_take, List.map_take, List.map_append, List.map_append, List.map_cons, List.map_cons]
    exact promotes_take hdistinct hsame (by simpa using hup) n
  · -- nothing in the list has gained, so nothing moves
    have hkey : ∀ a ∈ l, k a ≠ x := fun a ha heq => hthere ⟨a, ha, heq⟩
    rw [h.mergeSort_congr h' fun a ha b hb => hothers a ha b hb (hkey a ha) (hkey b hb)]
    exact .refl _ _

end Sorting

/-! ## Tables in which one video has gained -/

/-- One video has gained views or recent likes and keeps what it is asked for by; no other video has changed or gained likes. -/
structure Gains (video : Int) (change : Video → Video) (db db' : Database) : Prop where
  videos : db'.videos = db.videos.map change
  others : ∀ v, v.id ≠ video → change v = v
  kept : ∀ v, (change v).id = v.id ∧ (change v).category = v.category ∧ (change v).language = v.language
  views : ∀ v, v.views ≤ (change v).views
  otherLikes : ∀ since id, id ≠ video → db'.recentLikes since id = db.recentLikes since id
  likes : ∀ since, db.recentLikes since video ≤ db'.recentLikes since video

section Gains

variable {video : Int} {change : Video → Video} {db db' : Database} {since : Instant} {excludes : List Int} {size : Int}
  {q : TopQuery}

/-- The videos that qualify are the same, as they have become. -/
theorem Gains.candidates (h : Gains video change db db') : q.candidates db' excludes = (q.candidates db excludes).map change := by
  rw [TopQuery.candidates, TopQuery.candidates, h.videos, List.filter_map]
  congr 1
  refine List.filter_congr fun v _ => ?_
  obtain ⟨hid, hcategory, hlanguage⟩ := h.kept v
  have hadmits : q.Admits (change v) ↔ q.Admits v := by
    cases q <;> simp [TopQuery.Admits, hcategory, hlanguage]
  simp [hid, hadmits]

/-- The order of popularity that has become, on the videos as they were. -/
def becoming (change : Video → Video) (db' : Database) (since : Instant) (a b : Video) : Bool :=
  db'.outranks since (change a) (change b)

theorem Gains.orders (h : Gains video change db db') (hkeys : (db.videos.map (·.id)).Nodup) (p : Video → Bool) :
    Orders (becoming change db' since) (db.videos.filter p) where
  trans _ _ _ := Database.outranks_trans _ _ _
  total _ _ := Database.outranks_total _ _
  antisymm a ha b hb hab hba := by
    have hid := Database.outranks_antisymm hab hba
    rw [(h.kept a).1, (h.kept b).1] at hid
    exact List.inj_on_of_nodup_map hkeys (List.mem_filter.mp ha).1 (List.mem_filter.mp hb).1 hid

/-- The other videos stand to each other as they did. -/
theorem Gains.becoming_eq (h : Gains video change db db') {a b : Video} (ha : a.id ≠ video) (hb : b.id ≠ video) :
    db.outranks since a b = becoming change db' since a b := by
  rw [becoming, h.others a ha, h.others b hb, Bool.eq_iff_iff, Database.outranks_iff, Database.outranks_iff,
    h.otherLikes since a.id ha, h.otherLikes since b.id hb]

/-- The video still goes before what it went before. -/
theorem Gains.becoming_of_outranks (h : Gains video change db db') {x b : Video} (hx : x.id = video) (hb : b.id ≠ video)
    (hxb : db.outranks since x b = true) : becoming change db' since x b = true := by
  have hlikes := h.likes since
  have hviews := h.views x
  rw [Database.outranks_iff, hx] at hxb
  rw [becoming, h.others b hb, Database.outranks_iff, (h.kept x).1, hx, h.otherLikes since b.id hb]
  omega

/-- A query answers the ids of the videos that qualified before, in the order that has become. -/
theorem Gains.ask_eq (h : Gains video change db db') (hsize : size ≤ greatestColumn)
    (hexcludes : ∀ id ∈ excludes, fitsColumn id = true) (q : TopQuery) :
    q.ask db' since excludes size =
      .ok ((((q.candidates db excludes).mergeSort (becoming change db' since)).take size.toNat).map (·.id)) := by
  have hsorted : ((q.candidates db excludes).mergeSort (becoming change db' since)).map change =
      (q.candidates db' excludes).mergeSort (db'.outranks since) := by
    rw [h.candidates]
    exact List.map_mergeSort fun _ _ _ _ => rfl
  rw [TopQuery.ask_eq hsize hexcludes, ← hsorted, ← List.map_take, List.map_map]
  congr 1
  exact List.map_congr_left fun v _ => (h.kept v).1

/-- In the list of the most popular videos the one that has gained is promoted. -/
theorem Gains.promotes (h : Gains video change db db') (hkeys : (db.videos.map (·.id)).Nodup) {ids : List Int}
    (hsize : size ≤ greatestColumn) (hexcludes : ∀ id ∈ excludes, fitsColumn id = true)
    (hids : q.ask db since excludes size = .ok ids) :
    ∃ ids', q.ask db' since excludes size = .ok ids' ∧ Promotes video ids ids' := by
  have horders : Orders (db.outranks since) (q.candidates db excludes) := Database.orders_outranks hkeys _
  have horders' : Orders (becoming change db' since) (q.candidates db excludes) := h.orders hkeys _
  rw [TopQuery.ask_eq hsize hexcludes] at hids
  obtain rfl := Except.ok.inj hids
  refine ⟨_, h.ask_eq hsize hexcludes q, ?_⟩
  exact horders.promotes horders' (nodup_map_filter _ hkeys) (fun a _ b _ ha hb => h.becoming_eq ha hb)
    (fun a _ b _ ha hb => h.becoming_of_outranks ha hb) _

end Gains

/-! ## Likes and watches -/

/-- The calls in favour of a video: a like of somebody who does not like it yet, and a watch. -/
inductive Favours (db : Database) (video : Int) : Call → Prop
  | like {user : String} (new : db.like? user video = none) : Favours db video (.like user video)
  | watch {user : Option String} : Favours db video (.watch video user)

theorem gains_refl (video : Int) (db : Database) : Gains video id db db where
  videos := by simp
  others _ _ := rfl
  kept _ := ⟨rfl, rfl, rfl⟩
  views _ := Int.le_refl _
  otherLikes _ _ _ := rfl
  likes _ := Nat.le_refl _

/-- A like of a video counts for the video and for no other. -/
theorem gains_addLike (db : Database) (user : String) (video : Int) (t : Instant) :
    Gains video id db { db with likes := db.likes ++ [⟨user, video, t⟩] } where
  videos := by simp
  others _ _ := rfl
  kept _ := ⟨rfl, rfl, rfl⟩
  views _ := Int.le_refl _
  otherLikes since id hid := by
    have hnot : (video == id && decide (since ≤ t)) = false := by simp [Ne.symm hid]
    simp [Database.recentLikes, List.countP_append, hnot]
  likes since := by
    simp [Database.recentLikes, List.countP_append]

/-- A view more makes no other difference to what is asked for. -/
theorem gains_addView {db db' : Database} {video : Int} (hvideos : db'.videos = db.videos) (hlikes : db'.likes = db.likes) :
    Gains video (fun v => if v.id == video then addView v else v) db (db'.updateVideo video addView) where
  videos := by rw [Database.updateVideo, hvideos]
  others v hv := by simp [hv]
  kept v := by split <;> exact ⟨rfl, rfl, rfl⟩
  views v := by
    split
    · exact Int.le_add_of_nonneg_right (by decide)
    · exact Int.le_refl _
  otherLikes since id _ := by simp only [Database.recentLikes, Database.updateVideo, hlikes]
  likes since := by
    simp only [Database.recentLikes, Database.updateVideo, hlikes]
    exact Nat.le_refl _

/-- By a call in its favour a video gains, or the call fails and nothing changes. -/
theorem Call.Effect.gains {s : Settings} {w : World} {c : Call} {answer : Except Failure Unit} {db : Database} {video : Int}
    (h : c.Effect s w answer db) (hfavours : Favours w.db video c) : ∃ change, Gains video change w.db db := by
  cases hfavours with
  | like hnew =>
    cases h with
    | failed => exact ⟨id, gains_refl _ _⟩
    | addLike => exact ⟨id, gains_addLike _ _ _ _⟩
    | takeLike _ _ hthere => simp [hnew] at hthere
  | watch =>
    cases h with
    | failed => exact ⟨id, gains_refl _ _⟩
    | watch => exact ⟨_, gains_addView rfl rfl⟩
    | watchUnknown => exact ⟨_, gains_addView rfl rfl⟩

/-- Whatever has been called before, a like by somebody who does not like a video yet, or a watch of it by anybody, does not hurt the
video in any list of the most popular ones that could be answered before: the list can be answered as well, and it promotes the video. -/
theorem engagement_promotes (s : Settings) (steps : List Step) (step : Step) (video : Int)
    (hfavours : Favours (replay s steps) video step.call) (q : TopQuery) (since : Instant) (excludes : List Int) (size : Int)
    (ids : List Int) (hids : q.ask (replay s steps) since excludes size = .ok ids) :
    ∃ ids', q.ask (replay s (steps ++ [step])) since excludes size = .ok ids' ∧ Promotes video ids ids' := by
  have heffect := step.call.effect_perform s (step.world (replay s steps))
  obtain ⟨change, hgains⟩ := heffect.gains hfavours
  rw [replay_concat]
  by_cases hfits : size ≤ greatestColumn ∧ ∀ id ∈ excludes, fitsColumn id = true
  · exact hgains.promotes (keyed_replay s steps).videos hfits.1 hfits.2 hids
  · refine ⟨ids, ?_, .refl video ids⟩
    rw [TopQuery.ask_of_wide hfits q (replay s steps), hids]

namespace ThirdVideo

def ann : NewUser := ⟨"ann", "Ann", none, none, none⟩

def bob : NewUser := ⟨"bob", "Bob", none, none, none⟩

def clip (title : String) : NewVideo := ⟨title, none, "Travel", some "en", 60⟩

def making (title : String) : Step := ⟨{}, .createVideo none "ann" (clip title) "thumbnail" "content"⟩

/-- Ann makes three videos and likes the second one. -/
def steps : List Step :=
  [⟨{}, .register ann⟩, ⟨{}, .register bob⟩, making "Hills", making "Lakes", making "Woods", ⟨{ now := 5 }, .like "ann" 2⟩]

def video (id : Int) (title : String) : Video := ⟨id, "ann", title, none, "Travel", "en", 60, 0, 0⟩

/-- Bob likes the third one. -/
def liking : Step := ⟨{ now := 7 }, .like "bob" 3⟩

/-- The third video has as many likes as the second one then, comes in behind it, and pushes the first one off the end. -/
theorem third_comes_in :
    TopQuery.overall.ask (replay {} steps) 5 [] 2 = .ok [2, 1] ∧
      TopQuery.overall.ask (replay {} (steps ++ [liking])) 5 [] 2 = .ok [2, 3] ∧ Promotes (3 : Int) [2, 1] [2, 3] := by
  have hbefore : TopQuery.overall.Tops (replay {} steps) 5 [] 2 [video 2 "Lakes", video 1 "Hills"] :=
    ⟨by decide, by decide, by decide, by decide, by decide⟩
  have hafter : TopQuery.overall.Tops (replay {} (steps ++ [liking])) 5 [] 2 [video 2 "Lakes", video 3 "Woods"] :=
    ⟨by decide, by decide, by decide, by decide, by decide⟩
  have hasked := hbefore.ask_eq (keyed_replay {} steps).videos (by decide) (by decide)
  have hasked' := hafter.ask_eq (keyed_replay {} (steps ++ [liking])).videos (by decide) (by decide)
  obtain ⟨ids', hids', hpromotes⟩ :=
    engagement_promotes {} steps liking 3 (.like (by decide)) .overall 5 [] 2 _ hasked
  obtain rfl := Except.ok.inj (hids'.symm.trans hasked')
  exact ⟨hasked, hasked', hpromotes⟩

end ThirdVideo

end VideoShare
