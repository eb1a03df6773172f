import VideoShare.Proofs.ScoreHistory
import VideoShare.Proofs.SearchBound

/-!
# A search history is a list of what was searched last

A user's options, as they are listed, can be told without dates and ids: the option that is added goes to the front, wherever it stood
before, what is beyond the limit falls off the end, and the option that is deleted goes (`recent`). This is told by the calls of the user
since registering alone, whether they answered or not.

The entries are rows that keep their ids when they get another date, so the front of the list is where the latest date is. That holds as
long as each addition comes later than those before it: then no entry is as late as now when an option is added, and the entry of the
option, new or not, is listed first.
-/

namespace VideoShare

/-- What a user does to the own search history. -/
inductive SearchEvent where
  | added (option : String)
  | deleted (option : String)
  deriving DecidableEq, Repr

/-- The options after something was done to them, the last searched first. -/
def recent (limit : Nat) (options : List String) : SearchEvent → List String
  | .added option => (option :: options.filter (· != option)).take limit
  | .deleted option => options.filter (· != option)

/-- The options after some events, beginning with none. -/
def recentOptions (limit : Nat) (events : List SearchEvent) : List String := events.foldl (recent limit) []

theorem recentOptions_concat (limit : Nat) (events : List SearchEvent) (e : SearchEvent) :
    recentOptions limit (events ++ [e]) = recent limit (recentOptions limit events) e := by
  simp [recentOptions, List.foldl_append]

/-- What a call is to do to the search history of a user. -/
def Call.searchEvent? (user : String) : Call → Option SearchEvent
  | addSearch u option => if u = user then some (.added option) else none
  | deleteSearch u option => if u = user then some (.deleted option) else none
  | _ => none

/-- What a user asks in a run to be done to the own search history. -/
def searchEvents (user : String) (steps : List Step) : List SearchEvent := steps.filterMap fun step => step.call.searchEvent? user

/-- The time of a step that adds to the search history of a user. -/
def Step.searchTime? (user : String) (step : Step) : Option Instant :=
  match step.call with
  | .addSearch u _ => if u = user then some step.around.now else none
  | _ => none

/-- The times at which a user adds to the own search history in a run. -/
def searchTimes (user : String) (steps : List Step) : List Instant := steps.filterMap (Step.searchTime? user)

theorem searchEvents_concat (user : String) (steps : List Step) (step : Step) :
    searchEvents user (steps ++ [step]) = searchEvents user steps ++ (step.call.searchEvent? user).toList := by
  cases h : step.call.searchEvent? user <;> simp [searchEvents, List.filterMap_append, h]

theorem searchTimes_concat (user : String) (steps : List Step) (step : Step) :
    searchTimes user (steps ++ [step]) = searchTimes user steps ++ (step.searchTime? user).toList := by
  cases h : step.searchTime? user <;> simp [searchTimes, List.filterMap_append, h]

/-! ## What the calls of a registered user do -/

namespace Service

variable {s : Settings} {user option : String} {w : World}

/-- An option is deleted where it is there. -/
theorem deleteSearch_of_there {entry : Search} (h : w.db.HasUser user) (hthere : w.db.search? user option = some entry) :
    deleteSearch user option w = (.ok (), { w with db := w.db.removeSearch entry.id }) := by
  obtain ⟨u, hu⟩ := h.found
  refine transaction_eq_ok.mpr ?_
  rw [user_bind_of_some hu, database_bind, hthere]
  rfl

/-- An option that is not there is not deleted, and nothing else changes. -/
theorem deleteSearch_of_absent (h : w.db.HasUser user) (habsent : w.db.search? user option = none) :
    deleteSearch user option w = (.error (.refused .noSearchOption), w) := by
  obtain ⟨u, hu⟩ := h.found
  refine transaction_eq_error.mpr ⟨w, ?_, rfl⟩
  rw [user_bind_of_some hu, database_bind, habsent]
  rfl

/-- Who is registered gets the own search history. -/
theorem searchHistory_of_hasUser (h : w.db.HasUser user) : searchHistory user w = (.ok (w.db.searchesOf user), w) := by
  obtain ⟨u, hu⟩ := h.found
  rw [searchHistory, user_bind_of_some hu, database_bind]
  rfl

end Service

/-- Whoever calls without an event for a user who stays leaves the user's search history as it is. -/
theorem Call.Effect.searchRows_eq {s : Settings} {w : World} {c : Call} {answer : Except Failure Unit} {db : Database}
    {user : String} (h : c.Effect s w answer db) (hkeyed : w.db.Keyed) (huser : db.HasUser user)
    (hquiet : c.searchEvent? user = none) : db.searchRows user = w.db.searchRows user := by
  cases h with
  | @addSearch u option _ hnew =>
    have hne : u ≠ user := fun heq => by simp [searchEvent?, heq] at hquiet
    exact hkeyed.addSearch_rows_of_ne _ hne _ _
  | @redateSearch u option entry _ hthere =>
    have hne : u ≠ user := fun heq => by simp [searchEvent?, heq] at hquiet
    have hrows := hkeyed.addOption_rows_of_ne s.maxSearchOptions hne option w.now
    rwa [Database.addOption, hthere] at hrows
  | @deleteSearch u option entry hthere =>
    have hne : u ≠ user := fun heq => by simp [searchEvent?, heq] at hquiet
    obtain ⟨hentry, howner⟩ := Database.search?_eq_some hthere
    refine Database.searchRows_of_shareOf (Database.shareOf_removeSearch fun e he hid => ?_)
    rw [hkeyed.eq_of_search_id he hentry hid, howner]
    exact hne
  | @deleteUser id =>
    have hne : id ≠ user := by
      rintro rfl
      obtain ⟨u, hu, hid⟩ := huser
      have hgone := (List.mem_filter.mp hu).2
      simp [hid] at hgone
    refine filter_filter_of_imp fun e _ he => ?_
    have howner : e.userId = user := by simpa using he
    simpa [howner] using hne.symm
  | notInterested _ _ hdecay =>
    rcases Database.decayCategory_cases hdecay with rfl | ⟨score, rfl⟩
    · rfl
    · rfl
  | _ => rfl

theorem Call.searchEvent?_eq_added {c : Call} {user option : String} (h : c.searchEvent? user = some (.added option)) :
    c = .addSearch user option := by
  cases c with
  | addSearch u o =>
    by_cases hu : u = user
    · simp only [searchEvent?, if_pos hu, Option.some.injEq, SearchEvent.added.injEq] at h
      rw [hu, h]
    · simp [searchEvent?, if_neg hu] at h
  | deleteSearch u o => by_cases hu : u = user <;> simp [searchEvent?, hu] at h
  | _ => nomatch h

theorem Call.searchEvent?_eq_deleted {c : Call} {user option : String} (h : c.searchEvent? user = some (.deleted option)) :
    c = .deleteSearch user option := by
  cases c with
  | addSearch u o => by_cases hu : u = user <;> simp [searchEvent?, hu] at h
  | deleteSearch u o =>
    by_cases hu : u = user
    · simp only [searchEvent?, if_pos hu, Option.some.injEq, SearchEvent.deleted.injEq] at h
      rw [hu, h]
    · simp [searchEvent?, if_neg hu] at h
  | _ => nomatch h

/-! ## Options as they are listed -/

namespace Database

/-- The options of a user, the last searched first. -/
def optionsOf (db : Database) (user : String) : List String := (db.searchesOf user).map (·.option)

variable {db : Database} {limit : Int} {user option : String} {t : Instant} {entry : Search}

theorem mem_optionsOf : option ∈ db.optionsOf user ↔ ∃ e ∈ db.searchRows user, e.option = option := by
  rw [optionsOf, List.mem_map]
  simp only [(db.searchesOf_perm user).mem_iff]

theorem search?_eq_none_iff_not_mem : db.search? user option = none ↔ option ∉ db.optionsOf user := by
  rw [search?_eq_none_iff, mem_optionsOf]
  simp only [not_exists, not_and, ne_eq]

/-- Leaving out an option that is not there leaves all. -/
theorem filter_optionsOf_of_absent (h : db.search? user option = none) :
    (db.optionsOf user).filter (· != option) = db.optionsOf user := by
  refine List.filter_eq_self.mpr fun o ho => ?_
  have hne : o ≠ option := fun heq => search?_eq_none_iff_not_mem.mp h (heq ▸ ho)
  simpa using hne

/-- The options without an entry are the options without its option. -/
theorem SearchesBounded.map_option_filter (h : db.SearchesBounded limit) (hkeyed : db.Keyed)
    (hthere : db.search? user option = some entry) :
    ((db.searchesOf user).filter (·.id != entry.id)).map (·.option) = (db.optionsOf user).filter (· != option) := by
  obtain ⟨hentry, hoption⟩ := search?_eq_some_row hthere
  rw [optionsOf, List.filter_map]
  congr 1
  refine List.filter_congr fun e he => ?_
  have hrow : e ∈ db.searchRows user := (db.searchesOf_perm user).mem_iff.mp he
  -- an entry of a user is determined by its id, and by its option as well
  have hsame : e.id = entry.id ↔ e.option = option := by
    constructor
    · intro hid
      rw [List.inj_on_of_nodup_map (hkeyed.nodup_searchRows user) hrow hentry hid, hoption]
    · intro ho
      rw [List.inj_on_of_nodup_map (h.once user) hrow hentry (ho.trans hoption.symm)]
  rw [Bool.eq_iff_iff]
  simp [hsame]

/-- The listing after an option has been deleted. -/
theorem SearchesBounded.optionsOf_removeSearch (h : db.SearchesBounded limit) (hkeyed : db.Keyed)
    (hthere : db.search? user option = some entry) :
    (db.removeSearch entry.id).optionsOf user = (db.optionsOf user).filter (· != option) := by
  rw [← h.map_option_filter hkeyed hthere, optionsOf, searchesOf_eq, searchRows_removeSearch,
    (hkeyed.orders_searchRows user).mergeSort_filter]
  rfl

/-- An entry that gets a later date than all others is listed first, before what was there without it. -/
theorem Keyed.searchesOf_redateSearch (h : db.Keyed) (hentry : entry ∈ db.searchRows user)
    (hlate : ∀ e ∈ db.searchRows user, e.dateAdded < t) :
    (db.redateSearch entry.id t).searchesOf user =
      { entry with dateAdded := t } :: (db.searchesOf user).filter (·.id != entry.id) := by
  have hfirst : ∀ e ∈ (db.searchRows user).filter (·.id != entry.id),
      newestFirst Search.dateAdded Search.id { entry with dateAdded := t } e = true := by
    intro e he
    exact newestFirst_iff.mpr (Or.inl (hlate e (List.mem_filter.mp he).1))
  rw [searchesOf_eq, ((h.redateSearch _ _).orders_searchRows user).mergeSort_eq_cons (h.redateSearch_perm hentry t) hfirst,
    (h.orders_searchRows user).mergeSort_filter]
  rfl

/-- The entry of a new option is listed first when it is later than all others, before those that it leaves. -/
theorem Keyed.searchesOf_addSearch (h : db.Keyed) (limit : Int) (option : String)
    (hlate : ∀ e ∈ db.searchRows user, e.dateAdded < t) :
    (db.replaceSearches (db.outdatedSearches limit user) user option t).searchesOf user =
      db.newSearch user option t :: db.keptSearches limit user := by
  have hfirst : ∀ e ∈ db.keptSearches limit user,
      newestFirst Search.dateAdded Search.id (db.newSearch user option t) e = true := by
    intro e he
    exact newestFirst_iff.mpr (Or.inl (hlate e (mem_keptSearches he)))
  have horders := h.orders_searchRows user
  have hsorted : (db.keptSearches limit user).Pairwise fun a b => newestFirst Search.dateAdded Search.id a b = true :=
    (List.pairwise_mergeSort horders.trans horders.total _).sublist (List.take_sublist _ _)
  rw [searchesOf_eq, ((h.replaceSearches _ _ _ _).orders_searchRows user).mergeSort_eq_cons
    (h.addSearch_perm limit user option t) hfirst, List.mergeSort_of_pairwise hsorted]

/-- The listing after an option has been added, later than all that are there. -/
theorem SearchesBounded.optionsOf_addOption (h : db.SearchesBounded limit) (hkeyed : db.Keyed) (hlimit : 1 ≤ limit)
    (option : String) (hlate : ∀ e ∈ db.searchRows user, e.dateAdded < t) :
    (db.addOption limit user option t).optionsOf user =
      (option :: (db.optionsOf user).filter (· != option)).take limit.toNat := by
  unfold addOption
  cases hthere : db.search? user option with
  | some entry =>
    obtain ⟨hentry, hoption⟩ := search?_eq_some_row hthere
    -- an option that is there leaves a place where it was, so that nothing falls off
    have hfew : (option :: (db.optionsOf user).filter (· != option)).length ≤ limit.toNat := by
      have hall := (perm_cons_filter_ne (hkeyed.nodup_searchRows user) hentry).length_eq
      have hmost := h.few user
      rw [← h.map_option_filter hkeyed hthere, List.length_cons, List.length_map,
        ((db.searchesOf_perm user).filter _).length_eq]
      rw [List.length_cons] at hall
      omega
    rw [List.take_of_length_le hfew, optionsOf, hkeyed.searchesOf_redateSearch hentry hlate, List.map_cons,
      h.map_option_filter hkeyed hthere]
    exact congrArg (· :: _) hoption
  | none =>
    have hone : limit.toNat = (limit - 1).toNat + 1 := by omega
    have hcut : spared (limit - 1) (db.searchesOf user).length = (limit - 1).toNat := by
      rw [spared, if_pos (by omega)]
    rw [filter_optionsOf_of_absent hthere, hone, List.take_succ_cons, optionsOf, hkeyed.searchesOf_addSearch limit option hlate,
      List.map_cons, keptSearches, hcut, optionsOf, List.map_take]
    rfl

end Database

/-! ## Runs -/

/-- The step that brings a user has the user registered, and leaves no search history. -/
theorem searchRows_of_comes {s : Settings} {user : String} {before : List Step} {coming : Step}
    (absent : ¬(replay s before).HasUser user) (present : (replay s (before ++ [coming])).HasUser user) :
    (replay s (before ++ [coming])).searchRows user = [] := by
  -- no entry names a user who is not registered
  have hnone : (replay s before).searchRows user = [] := by
    refine List.filter_eq_nil_iff.mpr ?_
    intro e he howner
    have hsearcher := (noDangling_replay s before).searchers e he
    rw [beq_iff_eq.mp howner] at hsearcher
    exact absent hsearcher
  rw [replay_concat] at present ⊢
  have heffect := coming.call.effect_perform s (coming.world (replay s before))
  rcases heffect.registered present with ⟨hbefore, -⟩ | ⟨-, hregisters, -⟩
  · exact absurd hbefore absent
  · have hquiet : coming.call.searchEvent? user = none := by
      cases hcall : coming.call with
      | register => rfl
      | _ => simp [hcall, Call.registers] at hregisters
    exact (heffect.searchRows_eq (keyed_replay s before) present hquiet).trans hnone

/-- The options of a user are those that the events since registering tell, and each entry has the time of an addition. -/
structure Database.Recalls (limit : Int) (user : String) (after : List Step) (db : Database) : Prop where
  options : db.optionsOf user = recentOptions limit.toNat (searchEvents user after)
  dates : ∀ e ∈ db.searchRows user, e.dateAdded ∈ searchTimes user after

namespace Database.Recalls

variable {db : Database} {limit : Int} {user option : String} {after : List Step} {around : World}

/-- A step without an event for the user, which leaves the entries. -/
theorem quiet (h : db.Recalls limit user after) {db' : Database} {step : Step}
    (hrows : db'.searchRows user = db.searchRows user) (hevent : step.call.searchEvent? user = none) :
    db'.Recalls limit user (after ++ [step]) where
  options := by
    rw [searchEvents_concat, hevent, Option.toList_none, List.append_nil, ← h.options, optionsOf, optionsOf, searchesOf_eq,
      searchesOf_eq, hrows]
  dates e he := by
    rw [hrows] at he
    rw [searchTimes_concat]
    exact List.mem_append_left _ (h.dates e he)

/-- An addition, later than those before it. -/
theorem add (h : db.Recalls limit user after) (hkeyed : db.Keyed) (hbounded : db.SearchesBounded limit) (hlimit : 1 ≤ limit)
    (hclock : (searchTimes user (after ++ [⟨around, .addSearch user option⟩])).Pairwise (· < ·)) :
    (db.addOption limit user option around.now).Recalls limit user (after ++ [⟨around, .addSearch user option⟩]) := by
  have htime : Step.searchTime? user ⟨around, .addSearch user option⟩ = some around.now := if_pos rfl
  have hevent : (Call.addSearch user option).searchEvent? user = some (.added option) := if_pos rfl
  rw [searchTimes_concat, htime, Option.toList_some] at hclock
  constructor
  case options =>
    -- each entry has the time of an addition, and all of these were earlier
    have hlate : ∀ e ∈ db.searchRows user, e.dateAdded < around.now := by
      intro e he
      exact (List.pairwise_append.mp hclock).2.2 _ (h.dates e he) _ List.mem_cons_self
    rw [searchEvents_concat, hevent, Option.toList_some, recentOptions_concat, recent, ← h.options]
    exact hbounded.optionsOf_addOption hkeyed hlimit option hlate
  case dates =>
    intro e he
    rw [searchTimes_concat, htime, Option.toList_some]
    obtain ⟨entry, others, hentered⟩ := hkeyed.optionEntered limit user option around.now
    rcases List.mem_cons.mp (hentered.entries.mem_iff.mp he) with rfl | he
    · rw [hentered.dated]
      exact List.mem_append_right _ List.mem_cons_self
    · exact List.mem_append_left _ (h.dates e (hentered.old e he))

/-- A deletion, whether the option is there or not. -/
theorem delete (h : db.Recalls limit user after) (hkeyed : db.Keyed) (hbounded : db.SearchesBounded limit) {db' : Database}
    (hdb' : ∀ entry, db.search? user option = some entry → db' = db.removeSearch entry.id)
    (habsent : db.search? user option = none → db' = db) :
    db'.Recalls limit user (after ++ [⟨around, .deleteSearch user option⟩]) := by
  have hevent : (Call.deleteSearch user option).searchEvent? user = some (.deleted option) := if_pos rfl
  have htimes : searchTimes user (after ++ [⟨around, .deleteSearch user option⟩]) = searchTimes user after := by
    rw [searchTimes_concat, Step.searchTime?, Option.toList_none, List.append_nil]
  constructor
  case options =>
    rw [searchEvents_concat, hevent, Option.toList_some, recentOptions_concat, recent, ← h.options]
    cases hsearch : db.search? user option with
    | some entry => rw [hdb' entry hsearch, hbounded.optionsOf_removeSearch hkeyed hsearch]
    | none => rw [habsent hsearch, filter_optionsOf_of_absent hsearch]
  case dates =>
    intro e he
    rw [htimes]
    cases hsearch : db.search? user option with
    | some entry =>
      rw [hdb' entry hsearch, searchRows_removeSearch] at he
      exact h.dates e (List.mem_filter.mp he).1
    | none =>
      rw [habsent hsearch] at he
      exact h.dates e he

/-- Whatever a step does, while the user stays the options are those that the events tell. -/
theorem step {s : Settings} {step : Step} (h : db.Recalls s.maxSearchOptions user after) (hkeyed : db.Keyed)
    (hbounded : db.SearchesBounded s.maxSearchOptions) (hlimit : 1 ≤ s.maxSearchOptions)
    (hclock : (searchTimes user (after ++ [step])).Pairwise (· < ·)) (hbefore : db.HasUser user)
    (hafter : (step.run s db).HasUser user) : (step.run s db).Recalls s.maxSearchOptions user (after ++ [step]) := by
  obtain ⟨around, call⟩ := step
  let w : World := Step.world ⟨around, call⟩ db
  cases hevent : call.searchEvent? user with
  | none => exact h.quiet ((call.effect_perform s w).searchRows_eq hkeyed hafter hevent) hevent
  | some event =>
    cases event with
    | added option =>
      obtain rfl := Call.searchEvent?_eq_added hevent
      have hadd : Service.addSearch s user option w = _ := Service.addSearch_of_hasUser hbefore
      have hrun : Step.run s db ⟨around, .addSearch user option⟩ = db.addOption s.maxSearchOptions user option around.now :=
        congrArg (fun r => r.2.db) hadd
      rw [hrun]
      exact h.add hkeyed hbounded hlimit hclock
    | deleted option =>
      obtain rfl := Call.searchEvent?_eq_deleted hevent
      refine h.delete hkeyed hbounded (fun entry hthere => ?_) fun habsent => ?_
      · have hdelete : Service.deleteSearch user option w = _ := Service.deleteSearch_of_there hbefore hthere
        exact congrArg (fun r => r.2.db) hdelete
      · have hdelete : Service.deleteSearch user option w = _ := Service.deleteSearch_of_absent hbefore habsent
        exact congrArg (fun r => r.2.db) hdelete

end Database.Recalls

/-- While a user is registered, the options are those that the events since registering tell. -/
theorem recalls_since {s : Settings} (hlimit : 1 ≤ s.maxSearchOptions) {user : String} {before after : List Step} {coming : Step}
    (h : Since s (·.HasUser user) before coming after) (hclock : (searchTimes user after).Pairwise (· < ·)) :
    (replay s (before ++ coming :: after)).Recalls s.maxSearchOptions user after := by
  -- by the steps for which the user has been there
  induction h with
  | comes absent present =>
    have hnone := searchRows_of_comes absent present
    constructor
    · rw [Database.optionsOf, Database.searchesOf_eq, hnone, List.mergeSort_nil]
      rfl
    · rw [hnone]
      exact nofun
  | @stays after step since present ih =>
    have hpast : (searchTimes user after).Pairwise (· < ·) := by
      rw [searchTimes_concat] at hclock
      exact (List.pairwise_append.mp hclock).1
    rw [← List.cons_append, ← List.append_assoc, replay_concat]
    rw [replay_concat] at present
    exact (ih hpast).step (keyed_replay s _) (searchesBounded_replay s _) hlimit hclock since.present present

/-- A user stays registered through every call but the own deletion. -/
theorem Call.Effect.hasUser {s : Settings} {w : World} {c : Call} {answer : Except Failure Unit} {db : Database} {user : String}
    (h : c.Effect s w answer db) (hc : c ≠ .deleteUser user) (huser : w.db.HasUser user) : db.HasUser user := by
  cases h with
  | register =>
    obtain ⟨u, hu, hid⟩ := huser
    exact ⟨u, List.mem_append_left _ hu, hid⟩
  | changeUser => exact huser.updateUser _ fun _ => rfl
  | @deleteUser id =>
    have hne : user ≠ id := fun heq => hc (by rw [heq])
    have hstill : (w.db.removeVideos (w.db.ownedVideos id)).HasUser user := huser
    exact hstill.removeUser hne
  | notInterested _ _ hdecay =>
    rcases Database.decayCategory_cases hdecay with rfl | ⟨score, rfl⟩
    · exact huser
    · exact huser
  | _ => exact huser

/-- Whoever registers is registered since, as long as no step is the own deletion. -/
theorem since_of_registered {s : Settings} {user : String} {before after : List Step} {coming : Step}
    (absent : ¬(replay s before).HasUser user) (present : (replay s (before ++ [coming])).HasUser user)
    (hstays : ∀ step ∈ after, step.call ≠ .deleteUser user) : Since s (·.HasUser user) before coming after := by
  induction after using List.reverseRecOn with
  | nil => exact .comes absent present
  | append_singleton after step ih =>
    have hsince := ih fun step hstep => hstays step (List.mem_append_left _ hstep)
    refine .stays hsince ?_
    have hstep := hstays step (List.mem_append_right _ List.mem_cons_self)
    rw [replay_concat]
    exact (step.call.effect_perform s (step.world _)).hasUser hstep hsince.present

/-- What a user can ask of the own search history, when it is a list of options: the list itself, that any option is added, and that
one is deleted that is in the list. To delete another one is refused and changes nothing. -/
structure ListsOptions (s : Settings) (w : World) (user : String) (options : List String) : Prop where
  lists : ∃ entries, Service.searchHistory user w = (.ok entries, w) ∧ entries.map (·.option) = options
  adds : ∀ option, (Service.addSearch s user option w).1 = .ok ()
  deletes : ∀ option ∈ options, (Service.deleteSearch user option w).1 = .ok ()
  refuses : ∀ option, option ∉ options → Service.deleteSearch user option w = (.error (.refused .noSearchOption), w)

theorem listsOptions_of_hasUser {s : Settings} {w : World} {user : String} (h : w.db.HasUser user) :
    ListsOptions s w user (w.db.optionsOf user) where
  lists := ⟨_, Service.searchHistory_of_hasUser h, rfl⟩
  adds option := by rw [Service.addSearch_of_hasUser h]
  deletes option hoption := by
    obtain ⟨entry, hthere⟩ : ∃ entry, w.db.search? user option = some entry := by
      refine Option.ne_none_iff_exists'.mp fun hnone => ?_
      exact Database.search?_eq_none_iff_not_mem.mp hnone hoption
    rw [Service.deleteSearch_of_there h hthere]
  refuses option hoption := Service.deleteSearch_of_absent h (Database.search?_eq_none_iff_not_mem.mpr hoption)

/-- After a run in which a user's additions came one later than the other, the search history of the user, who is registered, is the
list of options that the user's calls since registering tell: an added option goes to the front, the list is cut at the limit, and a
deleted option goes. The user came with one step of the run and has been registered since. -/
theorem search_history_is_recency_list (s : Settings) (hlimit : 1 ≤ s.maxSearchOptions) (steps : List Step) (user : String)
    (hclock : (searchTimes user steps).Pairwise (· < ·)) (w : World) (hw : w.db = replay s steps) (huser : w.db.HasUser user) :
    (∃ before registering after, steps = before ++ registering :: after ∧ Since s (·.HasUser user) before registering after) ∧
    ∀ before registering after, steps = before ++ registering :: after → Since s (·.HasUser user) before registering after →
      ListsOptions s w user (recentOptions s.maxSearchOptions.toNat (searchEvents user after)) := by
  constructor
  · rw [hw] at huser
    refine exists_since ?_ huser
    rintro ⟨u, hu, -⟩
    nomatch hu
  · rintro before registering after rfl hsince
    have hpast : (searchTimes user after).Pairwise (· < ·) :=
      hclock.sublist (((List.sublist_cons_self _ _).trans (List.sublist_append_right _ _)).filterMap _)
    rw [← (recalls_since hlimit hsince hpast).options, ← hw]
    exact listsOptions_of_hasUser huser

/-! ### Options that come to the front -/

namespace SearchesAgain

def settings : Settings := { maxSearchOptions := 3 }

def ann : NewUser := ⟨"ann", "Ann", none, none, none⟩

def bob : NewUser := ⟨"bob", "Bob", none, none, none⟩

/-- A search of Ann's. -/
def searching (option : String) (t : Instant) : Step := ⟨{ now := t }, .addSearch "ann" option⟩

/-- Ann searches, leaves, and comes back. -/
def before : List Step := [⟨{}, .register ann⟩, searching "maps" 1, ⟨{}, .deleteUser "ann"⟩]

/-- Ann searches for three things and again for the first, in vain wants a fourth to be deleted, searches for another one, which pushes
out the second, and has the third deleted. Meanwhile Bob searches too, his clock being behind. -/
def after : List Step :=
  [searching "tea" 2, searching "rice" 3, ⟨{}, .register bob⟩, ⟨{}, .addSearch "bob" "milk"⟩, searching "milk" 4, searching "tea" 5,
    ⟨{ now := 5 }, .deleteSearch "ann" "soup"⟩, searching "salt" 6, ⟨{ now := 6 }, .deleteSearch "ann" "milk"⟩]

def steps : List Step := before ++ ⟨{ now := 1 }, .register ann⟩ :: after

def world : World := { db := replay settings steps, now := 7 }

/-- The last search first; what was searched for before Ann came back is forgotten, and to delete it is refused. -/
theorem salt_and_tea :
    (∃ entries, Service.searchHistory "ann" world = (.ok entries, world) ∧ entries.map (·.option) = ["salt", "tea"]) ∧
      Service.deleteSearch "ann" "maps" world = (.error (.refused .noSearchOption), world) := by
  have hclock : (searchTimes "ann" steps).Pairwise (· < ·) := by decide
  have hsince : Since settings (·.HasUser "ann") before ⟨{ now := 1 }, .register ann⟩ after :=
    since_of_registered (by decide +kernel) (by decide +kernel) (by simp [after, searching])
  have hann : world.db.HasUser "ann" := hsince.present
  have htold : recentOptions 3 (searchEvents "ann" after) = ["salt", "tea"] := by decide
  have h := (search_history_is_recency_list settings (by decide) steps "ann" hclock world rfl hann).2 before _ after rfl hsince
  have hlists : ListsOptions settings world "ann" ["salt", "tea"] := htold ▸ h
  exact ⟨hlists.lists, hlists.refuses "maps" (by decide)⟩

end SearchesAgain

end VideoShare
