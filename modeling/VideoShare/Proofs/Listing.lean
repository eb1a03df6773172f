import Mathlib.Data.String.Basic
import VideoShare.Proofs.Engagement
import VideoShare.Proofs.RangeGrammar

/-!
# What a search lists

A search lists the rows of a table that meet its conditions, each once and by id. There is one such list, so that a search is known
when it is known which rows have been found. A search with one option fails where the option cannot be read or the database does
not take its integers, and nowhere else.
-/

namespace VideoShare

/-! ## Rows by id -/

/-- The rows of a table that have a property, each once and by id. -/
structure ListsById {ρ κ : Type} [LT κ] (id : ρ → κ) (table : List ρ) (P : ρ → Prop) (rows : List ρ) : Prop where
  ascending : rows.Pairwise fun a b => id a < id b
  mem : ∀ a, a ∈ rows ↔ a ∈ table ∧ P a

section Rows

variable {ρ κ : Type} [LinearOrder κ] {id : ρ → κ} {table rows rows' : List ρ} {P Q : ρ → Prop}

/-- What is listed depends on the property of the rows of the table only. -/
theorem ListsById.congr (h : ListsById id table P rows) (hPQ : ∀ a ∈ table, P a ↔ Q a) : ListsById id table Q rows where
  ascending := h.ascending
  mem a := by
    rw [h.mem]
    exact and_congr_right (hPQ a)

theorem ListsById.nodup (h : ListsById id table P rows) : rows.Nodup := by
  refine h.ascending.imp ?_
  rintro a b hlt rfl
  exact lt_irrefl _ hlt

/-- There is one list of the rows that have a property. -/
theorem ListsById.unique (h : ListsById id table P rows) (h' : ListsById id table P rows') : rows = rows' := by
  have hperm : rows.Perm rows' := by
    rw [List.perm_ext_iff_of_nodup h.nodup h'.nodup]
    intro a
    rw [h.mem, h'.mem]
  refine List.Perm.eq_of_pairwise ?_ h.ascending h'.ascending hperm
  intro a b _ _ hab hba
  exact absurd hba (lt_asymm hab)

/-- One row is listed when it is the only one of the table that has the property. -/
theorem listsById_singleton {a : ρ} (ha : a ∈ table) (hP : P a) (honly : ∀ b ∈ table, P b → b = a) :
    ListsById id table P [a] where
  ascending := List.pairwise_singleton _ _
  mem b := by
    rw [List.mem_singleton]
    constructor
    · rintro rfl
      exact ⟨ha, hP⟩
    · rintro ⟨hb, hPb⟩
      exact honly b hb hPb

/-- Rows that are selected and sorted are listed by id when no two of them have one. -/
theorem listsById_mergeSort {le : ρ → ρ → Bool} (hle : ∀ a b, le a b = true ↔ id a ≤ id b) (hkeys : (table.map id).Nodup)
    (p : ρ → Bool) : ListsById id table (fun a => p a = true) ((table.filter p).mergeSort le) where
  ascending := by
    have htrans : ∀ a b c, le a b = true → le b c = true → le a c = true := by
      intro a b c
      simp only [hle]
      exact le_trans
    have htotal : ∀ a b, (le a b || le b a) = true := by
      intro a b
      simp only [Bool.or_eq_true, hle]
      exact le_total _ _
    have hdistinct : (((table.filter p).mergeSort le).map id).Nodup :=
      ((List.mergeSort_perm _ le).map id).nodup_iff.mpr (nodup_map_filter p hkeys)
    refine ((List.pairwise_mergeSort htrans htotal _).and (List.pairwise_map.mp hdistinct)).imp ?_
    rintro a b ⟨hab, hne⟩
    exact lt_of_le_of_ne ((hle a b).mp hab) hne
  mem a := by rw [List.mem_mergeSort, List.mem_filter]

end Rows

/-! ## Searches with one option -/

/-- A search with one option that can be read lists what the condition leaves, unless an integer of it is too wide. -/
theorem search_of_condition {γ ρ : Type} {ofOption : String → String → Except Refusal γ} {integers : γ → List Int}
    {rows : List γ → List ρ} {option value : String} {c : γ} (h : ofOption (Text.upper option) value = .ok c) :
    search ofOption integers rows [option] [value] =
      if (integers c).all fitsColumn then .ok (rows [c]) else .error .integerTooWide := by
  rw [search, readConditions_single, h]
  simp only [Except.map, List.flatMap_singleton, checkColumns]
  by_cases hfits : (integers c).all fitsColumn = true
  · simp [hfits]
  · simp [hfits]

/-- A search with one option that cannot be read is refused. -/
theorem search_of_refusal {γ ρ : Type} {ofOption : String → String → Except Refusal γ} {integers : γ → List Int}
    {rows : List γ → List ρ} {option value : String} {r : Refusal} (h : ofOption (Text.upper option) value = .error r) :
    search ofOption integers rows [option] [value] = .error (.refused r) := by
  rw [search, readConditions_single, h]
  rfl

namespace Database

variable {db : Database}

theorem Keyed.lists_videosMeeting (h : db.Keyed) (conditions : List VideoCondition) :
    ListsById Video.id db.videos (fun v => ∀ c ∈ conditions, c.holds db v = true) (db.videosMeeting conditions) := by
  refine (listsById_mergeSort (fun a b => ?_) h.videos _).congr fun v _ => List.all_eq_true
  exact decide_eq_true_iff

theorem Keyed.lists_usersMeeting (h : db.Keyed) (conditions : List UserCondition) :
    ListsById User.id db.users (fun u => ∀ c ∈ conditions, c.holds db u = true) (db.usersMeeting conditions) := by
  refine (listsById_mergeSort (fun a b => ?_) h.users _).congr fun u _ => List.all_eq_true
  exact decide_eq_true_iff

end Database

end VideoShare
