import VideoShare.Proofs.NewestFirst
import VideoShare.Proofs.Shares

/-!
# The bound of a search history

An option that is new to a user's search history pushes out all entries behind a cut, which stands one short of the limit; an option
that is there gets another date and pushes nothing out. A limit of zero or less puts the cut in front of the list, and what is in front
is counted from the end: of a history of one entry nothing stands before such a cut. So a history that grows from nothing has never
more entries than the limit, or than one where the limit is less (`SearchesBounded`), wherever the clock stood when they were made.
The clock decides only which entries stand before the cut.
-/

namespace VideoShare

/-! ## The cut -/

section Cut

variable {α κ : Type} {k : α → κ} {l : List α}

/-- How many of some items stand before a cut at a number; a negative number is counted from the end. -/
def spared (n : Int) (count : Nat) : Nat := if 0 ≤ n then n.toNat else count - n.natAbs

theorem dropFrom_eq_drop (n : Int) (l : List α) : dropFrom n l = l.drop (spared n l.length) := by
  unfold dropFrom spared
  split <;> rfl

/-- Before a cut one short of a limit, there is room for one more. -/
theorem min_spared_lt {limit : Int} {count : Nat} (h : (count : Int) ≤ max limit 1) :
    ((min (spared (limit - 1) count) count : Nat) : Int) < max limit 1 := by
  unfold spared
  split <;> omega

/-- Where no two items have one key, leaving out those behind a cut by their keys leaves those before it. -/
theorem filter_not_mem_drop [BEq κ] [LawfulBEq κ] (hkeys : (l.map k).Nodup) (n : Nat) :
    (l.filter fun a => !((l.drop n).map k).contains (k a)) = l.take n := by
  have hall : ((l.take n).filter fun a => !((l.drop n).map k).contains (k a)) = l.take n := by
    refine List.filter_eq_self.mpr fun a ha => ?_
    have htaken : k a ∈ (l.map k).take n := by
      rw [← List.map_take]
      exact List.mem_map_of_mem ha
    have hnot : k a ∉ (l.drop n).map k := by
      rw [List.map_drop]
      exact (List.disjoint_take_drop hkeys (Nat.le_refl n)) htaken
    simpa using hnot
  have hnone : ((l.drop n).filter fun a => !((l.drop n).map k).contains (k a)) = [] := by
    refine List.filter_eq_nil_iff.mpr fun a ha => ?_
    have hmem : k a ∈ (l.drop n).map k := List.mem_map_of_mem ha
    simpa using hmem
  calc (l.filter fun a => !((l.drop n).map k).contains (k a))
      = ((l.take n ++ l.drop n).filter fun a => !((l.drop n).map k).contains (k a)) := by rw [List.take_append_drop]
    _ = l.take n := by rw [List.filter_append, hall, hnone, List.append_nil]

/-- Where no two items have one key, an item and those with other keys are all there are. -/
theorem perm_cons_filter_ne [BEq κ] [LawfulBEq κ] (hkeys : (l.map k).Nodup) {x : α} (hx : x ∈ l) :
    l.Perm (x :: l.filter fun a => k a != k x) := by
  obtain ⟨before, after, rfl⟩ := List.append_of_mem hx
  have hmiddle : ((before ++ x :: after).map k).Nodup ↔ k x ∉ (before ++ after).map k ∧ ((before ++ after).map k).Nodup := by
    rw [(List.perm_middle.map k).nodup_iff, List.map_cons, List.nodup_cons]
  have hothers : (before ++ after).filter (fun a => k a != k x) = before ++ after := by
    refine List.filter_eq_self.mpr fun a ha => ?_
    have hne : k a ≠ k x := fun heq => (hmiddle.mp hkeys).1 (heq ▸ List.mem_map_of_mem ha)
    simpa using hne
  have hself : ((before ++ x :: after).filter fun a => k a != k x) = before ++ after := by
    rw [List.filter_append, List.filter_cons_of_neg (by simp), ← List.filter_append, hothers]
  rw [hself]
  exact List.perm_middle

end Cut

namespace Database

variable {db : Database} {limit : Int} {user option : String} {t : Instant}

/-! ## Rows of one user -/

/-- The entry with which a new option comes into a user's search history. -/
def newSearch (db : Database) (user option : String) (t : Instant) : Search := ⟨db.nextSearchId, user, option, t⟩

/-- The entries of a user's search history that a new option leaves, the latest first. -/
def keptSearches (db : Database) (limit : Int) (user : String) : List Search :=
  (db.searchesOf user).take (spared (limit - 1) (db.searchesOf user).length)

theorem searchRows_replaceSearches (db : Database) (ids : List Int) (user option : String) (t : Instant) :
    (db.replaceSearches ids user option t).searchRows user =
      ((db.searchRows user).filter fun e => !ids.contains e.id) ++ [db.newSearch user option t] := by
  simp [searchRows, replaceSearches, newSearch, List.filter_append, List.filter_filter, Bool.and_comm]

theorem searchRows_redateSearch (db : Database) (id : Int) (t : Instant) (user : String) :
    (db.redateSearch id t).searchRows user =
      (db.searchRows user).map fun e => if e.id == id then { e with dateAdded := t } else e := by
  have howner : ((·.userId == user) ∘ fun e : Search => if e.id == id then { e with dateAdded := t } else e) =
      (·.userId == user) := by
    funext e
    simp only [Function.comp]
    split <;> rfl
  simp only [searchRows, redateSearch, List.filter_map, howner]

theorem searchRows_removeSearch (db : Database) (id : Int) (user : String) :
    (db.removeSearch id).searchRows user = (db.searchRows user).filter (·.id != id) := by
  simp only [searchRows, removeSearch, List.filter_filter, Bool.and_comm]

theorem search?_eq_some_row {entry : Search} (h : db.search? user option = some entry) :
    entry ∈ db.searchRows user ∧ entry.option = option := by
  have hfound := List.find?_some h
  simp only [Bool.and_eq_true, beq_iff_eq] at hfound
  exact ⟨mem_searchRows.mpr ⟨List.mem_of_find?_eq_some h, hfound.1⟩, hfound.2⟩

theorem search?_eq_none_iff : db.search? user option = none ↔ ∀ e ∈ db.searchRows user, e.option ≠ option := by
  simp [search?, searchRows, List.find?_eq_none]

theorem searchRows_of_shareOf {db' : Database} (h : db'.shareOf user = db.shareOf user) :
    db'.searchRows user = db.searchRows user :=
  congrArg Database.searches h

theorem Keyed.nodup_searchRows (h : db.Keyed) (user : String) : ((db.searchRows user).map (·.id)).Nodup :=
  nodup_map_filter _ h.searches

/-- What a new option leaves of a user's listing. -/
theorem Keyed.filter_outdated (h : db.Keyed) (limit : Int) (user : String) :
    ((db.searchesOf user).filter fun e => !(db.outdatedSearches limit user).contains e.id) = db.keptSearches limit user := by
  have hids : ((db.searchesOf user).map (·.id)).Nodup :=
    ((db.searchesOf_perm user).map (·.id)).nodup_iff.mpr (h.nodup_searchRows user)
  rw [outdatedSearches, dropFrom_eq_drop]
  exact filter_not_mem_drop hids _

/-- After an option has been added that was new, a user has its entry and those before the cut. -/
theorem Keyed.addSearch_perm (h : db.Keyed) (limit : Int) (user option : String) (t : Instant) :
    ((db.replaceSearches (db.outdatedSearches limit user) user option t).searchRows user).Perm
      (db.newSearch user option t :: db.keptSearches limit user) := by
  rw [searchRows_replaceSearches]
  refine (List.perm_append_singleton _ _).trans (List.Perm.cons _ ?_)
  rw [← h.filter_outdated]
  exact ((db.searchesOf_perm user).filter _).symm

/-- A new option pushes no entry of another user out. -/
theorem Keyed.addSearch_rows_of_ne (h : db.Keyed) (limit : Int) {other : String} (hne : user ≠ other) (option : String)
    (t : Instant) :
    (db.replaceSearches (db.outdatedSearches limit user) user option t).searchRows other = db.searchRows other := by
  refine searchRows_of_shareOf (shareOf_replaceSearches hne fun e he hid howner => ?_)
  obtain ⟨entry, hentry, huser, heq⟩ := mem_outdatedSearches hid
  exact hne (huser.symm.trans (h.eq_of_search_id he hentry heq.symm ▸ howner))

/-- After an entry has got another date, a user has it with this date, and the others as they were. -/
theorem Keyed.redateSearch_perm (h : db.Keyed) {entry : Search} (hentry : entry ∈ db.searchRows user) (t : Instant) :
    ((db.redateSearch entry.id t).searchRows user).Perm
      ({ entry with dateAdded := t } :: (db.searchRows user).filter (·.id != entry.id)) := by
  have hothers : ((db.searchRows user).filter (·.id != entry.id)).map
      (fun e => if e.id == entry.id then { e with dateAdded := t } else e) =
      (db.searchRows user).filter (·.id != entry.id) := by
    refine (List.map_congr_left fun e he => ?_).trans (List.map_id _)
    have hne : e.id ≠ entry.id := by simpa using (List.mem_filter.mp he).2
    simp [hne]
  have hperm := (perm_cons_filter_ne (h.nodup_searchRows user) hentry).map
    fun e : Search => if e.id == entry.id then { e with dateAdded := t } else e
  rw [List.map_cons, hothers] at hperm
  rw [searchRows_redateSearch]
  simpa using hperm

theorem mem_keptSearches {e : Search} (h : e ∈ db.keptSearches limit user) : e ∈ db.searchRows user :=
  (db.searchesOf_perm user).mem_iff.mp (List.mem_of_mem_take h)

theorem length_keptSearches (db : Database) (limit : Int) (user : String) :
    (db.keptSearches limit user).length =
      min (spared (limit - 1) (db.searchRows user).length) (db.searchRows user).length := by
  rw [keptSearches, List.length_take, (db.searchesOf_perm user).length_eq]

/-! ## Few entries, each option once -/

/-- No search history has more entries than a limit, or than one, and none has an option twice. -/
structure SearchesBounded (limit : Int) (db : Database) : Prop where
  few : ∀ user, ((db.searchRows user).length : Int) ≤ max limit 1
  once : ∀ user, ((db.searchRows user).map (·.option)).Nodup

namespace SearchesBounded

variable {db' : Database}

theorem empty (limit : Int) : SearchesBounded limit {} where
  few user := Int.le_trans (by decide : (0 : Int) ≤ 1) (Int.le_max_right limit 1)
  once user := List.nodup_nil

/-- Search histories from which entries go stay bounded. -/
theorem of_sublist (h : db.SearchesBounded limit) (hsub : ∀ user, (db'.searchRows user).Sublist (db.searchRows user)) :
    db'.SearchesBounded limit where
  few user := by
    have hless := (hsub user).length_le
    have hfew := h.few user
    omega
  once user := (h.once user).sublist ((hsub user).map _)

theorem redateSearch (h : db.SearchesBounded limit) (id : Int) (t : Instant) : (db.redateSearch id t).SearchesBounded limit where
  few user := by
    rw [searchRows_redateSearch, List.length_map]
    exact h.few user
  once user := by
    rw [searchRows_redateSearch]
    refine nodup_map_map (fun e => ?_) (h.once user)
    split <;> rfl

/-- A new option leaves room for its entry in the user's history, and does not touch the others. -/
theorem addSearch (h : db.SearchesBounded limit) (hkeyed : db.Keyed) (hnew : db.search? user option = none) (t : Instant) :
    (db.replaceSearches (db.outdatedSearches limit user) user option t).SearchesBounded limit := by
  have hperm := hkeyed.addSearch_perm limit user option t
  constructor
  case few =>
    intro other
    by_cases hother : user = other
    · subst hother
      rw [hperm.length_eq, List.length_cons, length_keptSearches]
      have hroom := min_spared_lt (h.few user)
      omega
    · rw [hkeyed.addSearch_rows_of_ne limit hother]
      exact h.few other
  case once =>
    intro other
    by_cases hother : user = other
    · subst hother
      rw [(hperm.map (·.option)).nodup_iff, List.map_cons, List.nodup_cons]
      -- no two of the entries before had one option, and none of them the new one
      constructor
      · intro hmem
        obtain ⟨e, he, heq⟩ := List.mem_map.mp hmem
        exact search?_eq_none_iff.mp hnew e (mem_keptSearches he) heq
      · have honce := ((db.searchesOf_perm user).map (·.option)).nodup_iff.mpr (h.once user)
        exact honce.sublist ((List.take_sublist _ _).map _)
    · rw [hkeyed.addSearch_rows_of_ne limit hother]
      exact h.once other

end SearchesBounded

end Database

/-- Every call keeps the search histories bounded. -/
theorem Call.Effect.searchesBounded {s : Settings} {w : World} {c : Call} {answer : Except Failure Unit} {db : Database}
    (h : c.Effect s w answer db) (hkeyed : w.db.Keyed) (hw : w.db.SearchesBounded s.maxSearchOptions) :
    db.SearchesBounded s.maxSearchOptions := by
  cases h with
  | addSearch _ hnew => exact hw.addSearch hkeyed hnew w.now
  | redateSearch => exact hw.redateSearch _ _
  | deleteSearch =>
    refine hw.of_sublist fun user => ?_
    rw [Database.searchRows_removeSearch]
    exact List.filter_sublist
  | deleteUser => exact hw.of_sublist fun user => List.filter_sublist.filter _
  | notInterested _ _ hdecay =>
    rcases Database.decayCategory_cases hdecay with rfl | ⟨score, rfl⟩
    · exact hw
    · exact hw.of_sublist fun _ => List.Sublist.refl _
  | failed => exact hw
  | _ => exact hw.of_sublist fun _ => List.Sublist.refl _

/-! ## Runs and additions -/

theorem searchesBounded_replay (s : Settings) (steps : List Step) : (replay s steps).SearchesBounded s.maxSearchOptions := by
  suffices h : (replay s steps).Keyed ∧ (replay s steps).SearchesBounded s.maxSearchOptions from h.2
  refine replay_induction (P := fun db => db.Keyed ∧ db.SearchesBounded s.maxSearchOptions) ?_ ?_ steps
  · exact ⟨Database.Keyed.empty, .empty _⟩
  · intro w c answer db h hw
    exact ⟨h.keyed hw.1, h.searchesBounded hw.1 hw.2⟩

/-- The tables after an option has been added to the search history of a user. -/
def Database.addOption (db : Database) (limit : Int) (user option : String) (t : Instant) : Database :=
  match db.search? user option with
  | some entry => db.redateSearch entry.id t
  | none => db.replaceSearches (db.outdatedSearches limit user) user option t

/-- Who is registered can search. -/
theorem Service.addSearch_of_hasUser {s : Settings} {user option : String} {w : World} (h : w.db.HasUser user) :
    addSearch s user option w = (.ok (), { w with db := w.db.addOption s.maxSearchOptions user option w.now }) := by
  obtain ⟨u, hu⟩ := h.found
  refine transaction_eq_ok.mpr ?_
  rw [user_bind_of_some hu, database_bind, now_bind]
  unfold Database.addOption
  cases w.db.search? user option <;> rfl

/-- The entries that a user has after an option has been added: one for the option, with the date given, and others that the user had
before. Where the option was there, these are all but its entry; where it was new and the limit lets a history have entries, these are as
many as fit below the limit, of those that were listed first. -/
structure Database.OptionEntered (limit : Int) (user option : String) (t : Instant) (before after : Database) (entry : Search)
    (others : List Search) : Prop where
  entries : (after.searchRows user).Perm (entry :: others)
  added : entry.option = option
  dated : entry.dateAdded = t
  old : ∀ e ∈ others, e ∈ before.searchRows user
  there : (∃ e ∈ before.searchRows user, e.option = option) →
    ∃ e, e.option = option ∧ (before.searchRows user).Perm (e :: others)
  new : (∀ e ∈ before.searchRows user, e.option ≠ option) → 1 ≤ limit →
    others = (before.searchesOf user).take (limit - 1).toNat ∧
      (others.length : Int) = min ((before.searchRows user).length : Int) (limit - 1)

namespace Database

variable {db : Database} {user option : String}

theorem Keyed.optionEntered_of_there (h : db.Keyed) {entry : Search} (hthere : db.search? user option = some entry) (limit : Int)
    (t : Instant) :
    OptionEntered limit user option t db (db.redateSearch entry.id t) { entry with dateAdded := t }
      ((db.searchRows user).filter (·.id != entry.id)) := by
  obtain ⟨hentry, hoption⟩ := search?_eq_some_row hthere
  constructor
  case entries => exact h.redateSearch_perm hentry t
  case added => exact hoption
  case dated => rfl
  case old => exact fun e he => (List.mem_filter.mp he).1
  case there => exact fun _ => ⟨entry, hoption, perm_cons_filter_ne (h.nodup_searchRows user) hentry⟩
  case new => exact fun hnew _ => absurd hoption (hnew entry hentry)

theorem Keyed.optionEntered_of_new (h : db.Keyed) (hnew : db.search? user option = none) (limit : Int) (t : Instant) :
    OptionEntered limit user option t db (db.replaceSearches (db.outdatedSearches limit user) user option t)
      (db.newSearch user option t) (db.keptSearches limit user) := by
  constructor
  case entries => exact h.addSearch_perm limit user option t
  case added => rfl
  case dated => rfl
  case old => exact fun e he => mem_keptSearches he
  case there => exact fun ⟨e, he, hoption⟩ => absurd hoption (search?_eq_none_iff.mp hnew e he)
  case new =>
    intro _ hlimit
    have hspared : ∀ count, spared (limit - 1) count = (limit - 1).toNat := by
      intro count
      rw [spared, if_pos (by omega)]
    constructor
    · rw [keptSearches, hspared]
    · rw [length_keptSearches, hspared]
      omega

theorem Keyed.optionEntered (h : db.Keyed) (limit : Int) (user option : String) (t : Instant) :
    ∃ entry others, OptionEntered limit user option t db (db.addOption limit user option t) entry others := by
  unfold addOption
  cases hsearch : db.search? user option with
  | some entry => exact ⟨_, _, h.optionEntered_of_there hsearch limit t⟩
  | none => exact ⟨_, _, h.optionEntered_of_new hsearch limit t⟩

/-- An addition to a search history does not touch another user's. -/
theorem Keyed.addOption_rows_of_ne (h : db.Keyed) (limit : Int) {other : String} (hne : user ≠ other) (option : String) (t : Instant) :
    (db.addOption limit user option t).searchRows other = db.searchRows other := by
  unfold addOption
  cases hsearch : db.search? user option with
  | none => exact h.addSearch_rows_of_ne limit hne option t
  | some entry =>
    refine searchRows_of_shareOf (shareOf_redateSearch fun e he hid => ?_)
    obtain ⟨hentry, huser⟩ := search?_eq_some hsearch
    rw [h.eq_of_search_id he hentry hid, huser]
    exact hne

end Database

/-- No call ever lets a user's search history outgrow the limit of the settings, or one entry where the limit is less, nor have an
option twice, wherever the clock stands in the meantime. An addition that answers, from any tables with keys, enters the option in the
user's history and touches nobody else's. -/
theorem searches_stay_bounded (s : Settings) :
    (∀ steps user, (((replay s steps).searchRows user).length : Int) ≤ max s.maxSearchOptions 1 ∧
      (((replay s steps).searchRows user).map (·.option)).Nodup) ∧
    ∀ (w w' : World) (user option : String), w.db.Keyed → Service.addSearch s user option w = (.ok (), w') →
      (∃ entry others, Database.OptionEntered s.maxSearchOptions user option w.now w.db w'.db entry others) ∧
        ∀ other, other ≠ user → w'.db.searchRows other = w.db.searchRows other := by
  constructor
  · intro steps user
    have hbounded := searchesBounded_replay s steps
    exact ⟨hbounded.few user, hbounded.once user⟩
  · intro w w' user option hkeyed hadd
    obtain ⟨huser, -⟩ := Service.addSearch_eq_ok hadd
    rw [Service.addSearch_of_hasUser huser] at hadd
    rw [← (Prod.mk.inj hadd).2]
    exact ⟨hkeyed.optionEntered _ _ _ _, fun other hne => hkeyed.addOption_rows_of_ne _ hne.symm _ _⟩

/-! ### A history beyond the limit -/

namespace LongHistory

/-- Two entries are the limit. -/
def settings : Settings := { maxSearchOptions := 2 }

def bobs : Search := ⟨3, "bob", "tea", 7⟩

def latest : Search := ⟨4, "ann", "milk", 9⟩

/-- Ann has more entries than the limit allows, two of them of one instant, and all but one later than now. -/
def world : World where
  db := {
    users := [⟨"ann", "Ann", none, none, "ROLE_USER", 0⟩, ⟨"bob", "Bob", none, none, "ROLE_USER", 0⟩]
    searches := [⟨1, "ann", "tea", 5⟩, ⟨2, "ann", "rice", 9⟩, bobs, latest, ⟨5, "ann", "salt", 1⟩] }
  now := 3

/-- What Ann's new option leaves is the entry that was listed first; the new one is older. -/
theorem one_and_the_new_one :
    (Service.addSearch settings "ann" "soup" world).1 = .ok () ∧
      (∃ entry, ((Service.addSearch settings "ann" "soup" world).2.db.searchRows "ann").Perm [entry, latest] ∧
        entry.option = "soup" ∧ entry.dateAdded = 3) ∧
      (Service.addSearch settings "ann" "soup" world).2.db.searchRows "bob" = [bobs] := by
  have hadded : (Service.addSearch settings "ann" "soup" world).1 = .ok () := by decide
  have hkeyed : world.db.Keyed := by constructor <;> decide
  obtain ⟨⟨entry, others, h⟩, hbob⟩ := (searches_stay_bounded settings).2 world _ "ann" "soup" hkeyed (Prod.ext hadded rfl)
  have hnone : ∀ e ∈ world.db.searchRows "ann", e.option ≠ "soup" := by decide
  have hlisting : world.db.searchesOf "ann" = [latest, ⟨2, "ann", "rice", 9⟩, ⟨1, "ann", "tea", 5⟩, ⟨5, "ann", "salt", 1⟩] :=
    (hkeyed.orders_searchRows "ann").mergeSort_eq (by decide) (by decide)
  have hfirst : others = [latest] := by
    rw [(h.new hnone (by decide)).1, hlisting]
    rfl
  exact ⟨hadded, ⟨entry, hfirst ▸ h.entries, h.added, h.dated⟩, (hbob "bob" (by decide)).trans (by decide)⟩

end LongHistory

end VideoShare
