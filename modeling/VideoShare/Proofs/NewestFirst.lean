import VideoShare.Proofs.Calls
import VideoShare.Proofs.Ranking

/-!
# Histories, newest first

The watch history and the search history of a user are rows of a table, listed by their times, the latest first, and where times are
equal by their ids, the largest first. No two rows of a table have one id, so that the listing is the only sequence of its rows that is
in this order. What is left when rows go is therefore listed as it was before, and a row that is later than all others, or as late as
these and with a larger id, is listed first.
-/

namespace VideoShare

section Sorting

variable {α : Type} {le : α → α → Bool} {l : List α}

/-- An order that brings a list into one sequence does so with fewer members. -/
theorem Orders.mono (h : Orders le l) {l' : List α} (hsub : ∀ a ∈ l', a ∈ l) : Orders le l' where
  trans := h.trans
  total := h.total
  antisymm a ha b hb := h.antisymm a (hsub a ha) b (hsub b hb)

/-- What is left of a list is sorted as it stands in the sorted list. -/
theorem Orders.mergeSort_filter (h : Orders le l) (p : α → Bool) : (l.filter p).mergeSort le = (l.mergeSort le).filter p := by
  have hleft : Orders le (l.filter p) := h.mono fun a ha => (List.mem_filter.mp ha).1
  refine hleft.mergeSort_eq ((List.mergeSort_perm l le).filter p) ?_
  exact (List.pairwise_mergeSort h.trans h.total l).filter p

/-- A member that goes before all others stands first in the sorted list. -/
theorem Orders.mergeSort_eq_cons (h : Orders le l) {x : α} {rest : List α} (hperm : l.Perm (x :: rest))
    (hfirst : ∀ a ∈ rest, le x a = true) : l.mergeSort le = x :: rest.mergeSort le := by
  refine h.mergeSort_eq (((List.mergeSort_perm rest le).cons x).trans hperm.symm) ?_
  refine List.pairwise_cons.mpr ⟨fun a ha => hfirst a (List.mem_mergeSort.mp ha), ?_⟩
  exact List.pairwise_mergeSort h.trans h.total rest

end Sorting

/-- Whether a row is listed before another, or is the same: it is later, or as late and its id is not smaller. -/
def newestFirst {α : Type} (time : α → Instant) (id : α → Int) (a b : α) : Bool :=
  time b < time a || (time a == time b && id b ≤ id a)

section Order

variable {α : Type} {time : α → Instant} {id : α → Int} {a b c : α}

theorem newestFirst_iff : newestFirst time id a b = true ↔ time b < time a ∨ time a = time b ∧ id b ≤ id a := by
  simp only [newestFirst, Bool.or_eq_true, Bool.and_eq_true, decide_eq_true_eq, beq_iff_eq]

/-- Rows with different ids are listed in one sequence. -/
theorem orders_newestFirst {l : List α} (hids : (l.map id).Nodup) : Orders (newestFirst time id) l where
  trans a b c hab hbc := by
    rw [newestFirst_iff] at *
    have hint : ∀ ta tb tc ia ib ic : Int, (tb < ta ∨ ta = tb ∧ ib ≤ ia) → (tc < tb ∨ tb = tc ∧ ic ≤ ib) →
        tc < ta ∨ ta = tc ∧ ic ≤ ia := by omega
    exact hint _ _ _ _ _ _ hab hbc
  total a b := by
    rw [Bool.or_eq_true, newestFirst_iff, newestFirst_iff]
    have hint : ∀ ta tb ia ib : Int, (tb < ta ∨ ta = tb ∧ ib ≤ ia) ∨ (ta < tb ∨ tb = ta ∧ ia ≤ ib) := by omega
    exact hint _ _ _ _
  antisymm a ha b hb hab hba := by
    rw [newestFirst_iff] at hab hba
    have hint : ∀ ta tb ia ib : Int, (tb < ta ∨ ta = tb ∧ ib ≤ ia) → (ta < tb ∨ tb = ta ∧ ia ≤ ib) → ia = ib := by omega
    exact List.inj_on_of_nodup_map hids ha hb (hint _ _ _ _ hab hba)

end Order

namespace Database

/-- The entries of a user's search history, as they stand in the table. -/
def searchRows (db : Database) (user : String) : List Search := db.searches.filter (·.userId == user)

/-- The entries of a user's watch history, as they stand in the table. -/
def watchRows (db : Database) (user : String) : List Watch := db.watches.filter (·.userId == user)

theorem mem_searchRows {db : Database} {user : String} {e : Search} :
    e ∈ db.searchRows user ↔ e ∈ db.searches ∧ e.userId = user := by
  simp [searchRows, List.mem_filter]

theorem mem_watchRows {db : Database} {user : String} {e : Watch} :
    e ∈ db.watchRows user ↔ e ∈ db.watches ∧ e.userId = user := by
  simp [watchRows, List.mem_filter]

theorem searchesOf_eq (db : Database) (user : String) :
    db.searchesOf user = (db.searchRows user).mergeSort (newestFirst Search.dateAdded Search.id) := rfl

theorem watchesOf_eq (db : Database) (user : String) :
    db.watchesOf user = (db.watchRows user).mergeSort (newestFirst Watch.timestamp Watch.id) := rfl

theorem searchesOf_perm (db : Database) (user : String) : (db.searchesOf user).Perm (db.searchRows user) :=
  List.mergeSort_perm _ _

theorem watchesOf_perm (db : Database) (user : String) : (db.watchesOf user).Perm (db.watchRows user) :=
  List.mergeSort_perm _ _

/-- In tables with keys a search history is listed in one sequence. -/
theorem Keyed.orders_searchRows {db : Database} (h : db.Keyed) (user : String) :
    Orders (newestFirst Search.dateAdded Search.id) (db.searchRows user) :=
  orders_newestFirst (nodup_map_filter _ h.searches)

/-- In tables with keys a watch history is listed in one sequence. -/
theorem Keyed.orders_watchRows {db : Database} (h : db.Keyed) (user : String) :
    Orders (newestFirst Watch.timestamp Watch.id) (db.watchRows user) :=
  orders_newestFirst (nodup_map_filter _ h.watches)

end Database

end VideoShare
