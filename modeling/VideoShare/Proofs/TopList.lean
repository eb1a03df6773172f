import VideoShare.Proofs.FeedOrder

/-!
# The most popular videos

Three queries ask for the most popular videos: among all of them, in one language, and in some categories or languages. Each of them
answers the first of the videos that qualify, as many as were asked for or as there are, in the order of their likes since an instant,
their views and their ids. What is meant by that is said without sorting (`TopQuery.Tops`), and there is one such list
(`top_queries_are_exact`). Likes before the instant do not matter, and a video without a later one qualifies like any other.
-/

namespace VideoShare

/-! ## The first of a list in an order -/

/-- The first members of a list in an order, as many as a number or all: no member that is left out stands before one of them. -/
structure FirstOf {α : Type} (le : α → α → Bool) (l : List α) (n : Nat) (xs : List α) : Prop where
  mem : ∀ a ∈ xs, a ∈ l
  nodup : xs.Nodup
  length : xs.length = min n l.length
  ordered : xs.Pairwise fun a b => le a b = true
  rest : ∀ b ∈ l, b ∉ xs → ∀ a ∈ xs, le a b = true

section FirstOf

variable {α : Type} [DecidableEq α] {le : α → α → Bool} {l xs : List α} {n : Nat}

/-- The first members are a beginning of the sorted list. -/
theorem FirstOf.mergeSort_eq (hxs : FirstOf le l n xs) (h : Orders le l) (hl : l.Nodup) :
    l.mergeSort le = xs ++ (l.filter fun a => a ∉ xs).mergeSort le := by
  have hchosen : (l.filter fun a => a ∈ xs).Perm xs := by
    rw [List.perm_ext_iff_of_nodup (hl.filter _) hxs.nodup]
    intro a
    simpa using hxs.mem a
  have hparts : ((l.filter fun a => a ∈ xs) ++ l.filter fun a => a ∉ xs).Perm l := by
    simpa using List.filter_append_perm (fun a => decide (a ∈ xs)) l
  refine h.mergeSort_eq ((hchosen.symm.append (List.mergeSort_perm _ _)).trans hparts) ?_
  rw [List.pairwise_append]
  refine ⟨hxs.ordered, List.pairwise_mergeSort h.trans h.total _, ?_⟩
  intro a ha b hb
  obtain ⟨hbl, hout⟩ := List.mem_filter.mp (List.mem_mergeSort.mp hb)
  exact hxs.rest b hbl (by simpa using hout) a ha

/-- The first members of a list are the beginning of the sorted list and nothing else. -/
theorem Orders.firstOf_iff (h : Orders le l) (hl : l.Nodup) : FirstOf le l n xs ↔ xs = (l.mergeSort le).take n := by
  have hsorted := List.pairwise_mergeSort h.trans h.total l
  constructor
  · intro hxs
    have hlength := hxs.length
    have hsum := congrArg List.length (hxs.mergeSort_eq h hl)
    rw [List.length_append, List.length_mergeSort] at hsum
    rw [hxs.mergeSort_eq h hl]
    by_cases hfull : xs.length = n
    · exact (List.take_left' hfull).symm
    · -- the list is shorter than asked for, so nothing is left out
      have hnone : (l.filter fun a => a ∉ xs).mergeSort le = [] := List.eq_nil_of_length_eq_zero (by omega)
      rw [hnone, List.append_nil, List.take_of_length_le (by omega)]
  · rintro rfl
    have hnodup : (l.mergeSort le).Nodup := (List.mergeSort_perm l le).nodup_iff.mpr hl
    rw [← List.take_append_drop n (l.mergeSort le), List.pairwise_append] at hsorted
    refine ⟨fun a ha => List.mem_mergeSort.mp (List.mem_of_mem_take ha), hnodup.sublist (List.take_sublist _ _),
      by rw [List.length_take, List.length_mergeSort], hsorted.1, fun b hb hout a ha => hsorted.2.2 a ha b ?_⟩
    have hb' : b ∈ (l.mergeSort le).take n ++ (l.mergeSort le).drop n := by
      rw [List.take_append_drop]
      exact List.mem_mergeSort.mpr hb
    exact (List.mem_append.mp hb').resolve_left hout

end FirstOf

/-! ## Queries -/

/-- Among which videos the most popular ones are asked for. -/
inductive TopQuery where
  | overall
  | inLanguage (language : String)
  | inTastes (categories languages : List String)

namespace TopQuery

/-- Whether a video is one of those asked for. -/
def Admits : TopQuery → Video → Prop
  | overall, _ => True
  | inLanguage language, v => v.language = language
  | inTastes categories languages, v => v.category ∈ categories ∨ v.language ∈ languages

instance (q : TopQuery) (v : Video) : Decidable (q.Admits v) :=
  match q with
  | overall => instDecidableTrue
  | inLanguage language => inferInstanceAs (Decidable (v.language = language))
  | inTastes categories languages => inferInstanceAs (Decidable (v.category ∈ categories ∨ v.language ∈ languages))

/-- Asks for the ids of the most popular videos. -/
def ask (q : TopQuery) (db : Database) (since : Instant) (excludes : List Int) (size : Int) : Except Failure (List Int) :=
  match q with
  | overall => db.topOverall since excludes size
  | inLanguage language => db.topByLanguage since language excludes size
  | inTastes categories languages => db.topByCategoryOrLanguage since categories languages excludes size

/-- The videos that qualify. -/
def candidates (q : TopQuery) (db : Database) (excludes : List Int) : List Video :=
  db.videos.filter fun v => v.id ∉ excludes ∧ q.Admits v

end TopQuery

/-- Whether one video is more popular than another: by its likes since an instant, where these are as many by its views, and where
these are as many too by its smaller id. -/
def Database.MorePopular (db : Database) (since : Instant) (a b : Video) : Prop :=
  db.recentLikes since b.id < db.recentLikes since a.id ∨
    db.recentLikes since a.id = db.recentLikes since b.id ∧ (b.views < a.views ∨ a.views = b.views ∧ a.id < b.id)

instance (db : Database) (since : Instant) (a b : Video) : Decidable (db.MorePopular since a b) :=
  inferInstanceAs (Decidable (_ ∨ _))

/-- What the most popular videos are: some that qualify, no two of one id, as many as asked for or as there are, the more popular ones
first, and none that is left out is more popular than one of them. -/
structure TopQuery.Tops (q : TopQuery) (db : Database) (since : Instant) (excludes : List Int) (size : Int)
    (vs : List Video) : Prop where
  qualify : ∀ v ∈ vs, v ∈ db.videos ∧ v.id ∉ excludes ∧ q.Admits v
  distinct : (vs.map (·.id)).Nodup
  length : (vs.length : Int) = min (max size 0) (q.candidates db excludes).length
  ordered : vs.Pairwise (db.MorePopular since)
  rest : ∀ v ∈ db.videos, v.id ∉ excludes → q.Admits v → v ∉ vs → ∀ u ∈ vs, db.MorePopular since u v

section Exact

variable {db : Database} {since : Instant} {excludes : List Int} {size : Int} {q : TopQuery}

theorem mem_candidates {v : Video} : v ∈ q.candidates db excludes ↔ v ∈ db.videos ∧ v.id ∉ excludes ∧ q.Admits v := by
  simp [TopQuery.candidates]

theorem Database.MorePopular.outranks {a b : Video} (h : db.MorePopular since a b) : db.outranks since a b = true := by
  unfold Database.MorePopular at h
  rw [Database.outranks_iff]
  omega

/-- A video that outranks another one is more popular. -/
theorem morePopular_of_outranks {a b : Video} (hne : a.id ≠ b.id) (h : db.outranks since a b = true) :
    db.MorePopular since a b := by
  rw [Database.outranks_iff] at h
  unfold Database.MorePopular
  omega

/-- Whatever the size, a query answers as much of the ranking as the size allows. -/
theorem top_eq_take (hsize : size ≤ greatestColumn) (hexcludes : ∀ id ∈ excludes, fitsColumn id = true)
    (admits : Video → Bool) : db.top since excludes size admits = .ok ((db.ranking since excludes admits).take size.toNat) := by
  by_cases hpos : 0 < size
  · exact Database.top_eq_ok hpos hsize hexcludes
  · have hnone : size.toNat = 0 := by omega
    rw [Database.top, if_pos (by omega), hnone, List.take_zero]

/-- Each query answers the ids at the beginning of its candidates in the order of popularity. -/
theorem TopQuery.ask_eq (hsize : size ≤ greatestColumn) (hexcludes : ∀ id ∈ excludes, fitsColumn id = true) (q : TopQuery) :
    q.ask db since excludes size =
      .ok ((((q.candidates db excludes).mergeSort (db.outranks since)).take size.toNat).map (·.id)) := by
  have htop : ∀ admits : Video → Bool, (∀ v, admits v = true ↔ q.Admits v) → db.top since excludes size admits =
      .ok ((((q.candidates db excludes).mergeSort (db.outranks since)).take size.toNat).map (·.id)) := by
    intro admits hadmits
    have hsame : (db.videos.filter fun v => admits v && !excludes.contains v.id) = q.candidates db excludes := by
      refine List.filter_congr fun v _ => ?_
      rw [Bool.eq_iff_iff]
      simp [hadmits, and_comm]
    rw [top_eq_take hsize hexcludes, Database.ranking, hsame, List.map_take]
  cases q with
  | overall => exact htop _ (by simp [Admits])
  | inLanguage language => exact htop _ (by simp [Admits])
  | inTastes categories languages =>
    by_cases hnothing : (categories.isEmpty && languages.isEmpty) = true
    · have hnone : (inTastes categories languages).candidates db excludes = [] := by
        simp only [Bool.and_eq_true, List.isEmpty_iff] at hnothing
        simp [candidates, Admits, hnothing]
      rw [ask, Database.topByCategoryOrLanguage, if_pos hnothing, hnone]
      simp
    · rw [ask, Database.topByCategoryOrLanguage, if_neg hnothing]
      exact htop _ (by simp [Admits])

/-- Where the numbers of a query do not fit into columns, it fails or asks for nothing, whatever the tables are. -/
theorem TopQuery.ask_of_wide (hwide : ¬(size ≤ greatestColumn ∧ ∀ id ∈ excludes, fitsColumn id = true)) (q : TopQuery)
    (db db' : Database) :
    q.ask db' since excludes size = q.ask db since excludes size := by
  have htop : ∀ admits, db'.top since excludes size admits = db.top since excludes size admits := by
    intro admits
    unfold Database.top
    split
    · rfl
    · split
      · rfl
      · rename_i hpos _ hcheck
        obtain ⟨hsize, hexcludes⟩ := List.forall_mem_cons.mp (checkColumns_eq_ok.mp hcheck)
        simp only [fitsColumn, Bool.and_eq_true, decide_eq_true_eq] at hsize
        exact absurd ⟨hsize.2, hexcludes⟩ hwide
  cases q <;> simp only [ask, Database.topOverall, Database.topByLanguage, Database.topByCategoryOrLanguage, htop]

/-- The most popular videos are the first of the candidates in the order of popularity. -/
theorem tops_iff (hkeys : (db.videos.map (·.id)).Nodup) {vs : List Video} :
    q.Tops db since excludes size vs ↔ FirstOf (db.outranks since) (q.candidates db excludes) size.toNat vs := by
  have hlength : (vs.length : Int) = min (max size 0) (q.candidates db excludes).length ↔
      vs.length = min size.toNat (q.candidates db excludes).length := by omega
  have hids : ∀ {a b : Video}, a ∈ q.candidates db excludes → b ∈ q.candidates db excludes → a ≠ b → a.id ≠ b.id :=
    fun ha hb hne hid => hne (List.inj_on_of_nodup_map hkeys (mem_candidates.mp ha).1 (mem_candidates.mp hb).1 hid)
  constructor
  · rintro ⟨hqualify, hdistinct, hlen, hordered, hrest⟩
    refine ⟨fun v hv => mem_candidates.mpr (hqualify v hv), hdistinct.of_map _, hlength.mp hlen,
      hordered.imp fun h => h.outranks, fun v hv hout u hu => ?_⟩
    obtain ⟨hthere, hkept, hadmitted⟩ := mem_candidates.mp hv
    exact (hrest v hthere hkept hadmitted hout u hu).outranks
  · rintro ⟨hmem, hnodup, hlen, hordered, hrest⟩
    refine ⟨fun v hv => mem_candidates.mp (hmem v hv), ?_, hlength.mpr hlen, ?_, fun v hthere hkept hadmitted hout u hu => ?_⟩
    · refine hnodup.map_on fun a ha b hb hid => ?_
      by_contra hne
      exact hids (hmem a ha) (hmem b hb) hne hid
    · refine (hordered.and hnodup).imp_of_mem fun ha hb h => ?_
      exact morePopular_of_outranks (hids (hmem _ ha) (hmem _ hb) h.2) h.1
    · have hv := mem_candidates.mpr ⟨hthere, hkept, hadmitted⟩
      have hne : u ≠ v := fun heq => hout (heq ▸ hu)
      exact morePopular_of_outranks (hids (hmem u hu) hv hne) (hrest v hv hout u hu)

/-- The most popular videos are at the beginning of the candidates in the order of popularity, and nothing else is. -/
theorem tops_iff_eq_take (hkeys : (db.videos.map (·.id)).Nodup) {vs : List Video} :
    q.Tops db since excludes size vs ↔ vs = ((q.candidates db excludes).mergeSort (db.outranks since)).take size.toNat := by
  have horders : Orders (db.outranks since) (q.candidates db excludes) := Database.orders_outranks hkeys _
  have hnodup : (q.candidates db excludes).Nodup := (hkeys.of_map _).filter _
  exact (tops_iff hkeys).trans (horders.firstOf_iff hnodup)

/-- A query answers the ids of the most popular videos. -/
theorem TopQuery.Tops.ask_eq {vs : List Video} (h : q.Tops db since excludes size vs) (hkeys : (db.videos.map (·.id)).Nodup)
    (hsize : size ≤ greatestColumn) (hexcludes : ∀ id ∈ excludes, fitsColumn id = true) :
    q.ask db since excludes size = .ok (vs.map (·.id)) := by
  rw [TopQuery.ask_eq hsize hexcludes, (tops_iff_eq_take hkeys).mp h]

/-! ## Likes that do not count -/

variable {db' : Database}

theorem recentLikes_eq_countP_filter (video : Int) :
    db.recentLikes since video = (db.likes.filter fun l => since ≤ l.timestamp).countP fun l => l.videoId == video := by
  rw [Database.recentLikes, List.countP_filter]

/-- Tables with the same videos, and the same likes since the instant, answer alike. -/
theorem TopQuery.ask_congr (hvideos : db'.videos = db.videos)
    (hlikes : (db'.likes.filter fun l => since ≤ l.timestamp) = db.likes.filter fun l => since ≤ l.timestamp) (q : TopQuery) :
    q.ask db' since excludes size = q.ask db since excludes size := by
  have hrecent : db'.recentLikes since = db.recentLikes since := by
    funext video
    rw [recentLikes_eq_countP_filter, recentLikes_eq_countP_filter, hlikes]
  have hranks : db'.outranks since = db.outranks since := by
    funext a b
    simp only [Database.outranks, hrecent]
  have htop : ∀ admits, db'.top since excludes size admits = db.top since excludes size admits := by
    intro admits
    simp only [Database.top, Database.ranking, hvideos, hranks]
  cases q <;>
    simp only [ask, Database.topOverall, Database.topByLanguage, Database.topByCategoryOrLanguage, htop]

end Exact

/-! ## Exactness -/

/-- Each query answers the ids of the most popular videos among those that qualify, and there is one list of these. Likes before the
instant make no difference, and whether a video qualifies does not depend on likes at all. -/
theorem top_queries_are_exact (db : Database) (since : Instant) (excludes : List Int) (size : Int) (q : TopQuery)
    (hkeys : (db.videos.map (·.id)).Nodup) (hsize : size ≤ greatestColumn)
    (hexcludes : ∀ id ∈ excludes, fitsColumn id = true) :
    (∃ vs, q.ask db since excludes size = .ok (vs.map (·.id)) ∧ q.Tops db since excludes size vs ∧
      ∀ vs', q.Tops db since excludes size vs' → vs' = vs) ∧
    ∀ db' : Database, db'.videos = db.videos →
      (db'.likes.filter fun l => since ≤ l.timestamp) = (db.likes.filter fun l => since ≤ l.timestamp) →
        q.ask db' since excludes size = q.ask db since excludes size := by
  refine ⟨⟨_, TopQuery.ask_eq hsize hexcludes q, (tops_iff_eq_take hkeys).mpr rfl, fun vs' hvs' => ?_⟩, ?_⟩
  · exact (tops_iff_eq_take hkeys).mp hvs'
  · exact fun db' hvideos hlikes => TopQuery.ask_congr hvideos hlikes q

namespace PopularClips

def clip (id : Int) (category language : String) (views : Int) : Video :=
  ⟨id, "ann", "clip", none, category, language, 60, views, 0⟩

/-- Six clips and five likes. One of the likes has just become recent at 10, one is a moment too old. -/
def db : Database where
  videos := [clip 1 "Travel" "en" 9, clip 2 "Sport" "ko" 1, clip 3 "Sport" "en" 5, clip 4 "Travel" "ko" 200, clip 5 "News" "de" 100,
    clip 6 "Sport" "en" 300]
  likes := [⟨"ann", 2, 20⟩, ⟨"bob", 2, 10⟩, ⟨"ann", 3, 9⟩, ⟨"cid", 1, 30⟩, ⟨"ann", 5, 40⟩]

/-- Sport or English, but not clip 6: clip 2 has two recent likes, clip 1 has one, and clip 3 has none and is left out. -/
theorem two_of_three : (TopQuery.inTastes ["Sport"] ["en"]).ask db 10 [6] 2 = .ok [2, 1] := by
  have hkeys : (db.videos.map (·.id)).Nodup := by decide
  obtain ⟨⟨vs, hanswer, -, hunique⟩, -⟩ :=
    top_queries_are_exact db 10 [6] 2 (.inTastes ["Sport"] ["en"]) hkeys (by decide) (by decide)
  have htops : (TopQuery.inTastes ["Sport"] ["en"]).Tops db 10 [6] 2 [clip 2 "Sport" "ko" 1, clip 1 "Travel" "en" 9] :=
    ⟨by decide, by decide, by decide, by decide, by decide⟩
  rw [hanswer, ← hunique _ htops]
  rfl

end PopularClips

end VideoShare
