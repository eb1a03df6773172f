import VideoShare.Proofs.References
import VideoShare.Proofs.ScoreTables
import Mathlib.Data.List.Infix

/-!
# What scores remember

A user's scores are told by what the user did since registering: one more for the category and the language of a video that was
watched, as they were then, and the scaled and rounded score of a category in which a video did not interest. `TasteLog.next` writes
these events down beside the tables, and begins anew when the user registers. The tables then hold, for each category and language
with a positive count, one row with the count.

What carries this through a run is that no row of scores names a user who is not registered, so a user who registers, for the first
time or again, begins with no scores; and that a call without an event for a user leaves all of the user's rows, except the deletion
of the user.
-/

namespace VideoShare

open Number (Quantity)

/-- What a user did that tells a taste. -/
inductive TasteEvent where
  | watched (category language : String)
  | notInterested (category : String)
  deriving DecidableEq, Repr

namespace TasteEvent

/-- The count of a category after an event. -/
def count (f : Quantity) (category : String) (n : Int) : TasteEvent → Except Failure Int
  | watched c _ => .ok (if c = category then n + 1 else n)
  | notInterested c => if c = category then (scaleScore n f).map (max 0) else .ok n

/-- Whether an event is the watch of a video in a language. -/
def isWatchIn (language : String) : TasteEvent → Bool
  | watched _ l => l == language
  | notInterested _ => false

end TasteEvent

/-- The count of a category after some events, beginning with zero. -/
def categoryCount (f : Quantity) (category : String) (events : List TasteEvent) : Except Failure Int :=
  events.foldlM (TasteEvent.count f category) 0

/-- How often videos in a language were watched. -/
def languageCount (language : String) (events : List TasteEvent) : Nat := events.countP (TasteEvent.isWatchIn language)

theorem categoryCount_concat (f : Quantity) (category : String) (events : List TasteEvent) (e : TasteEvent) :
    categoryCount f category (events ++ [e]) = categoryCount f category events >>= fun n => e.count f category n := by
  simp [categoryCount, List.foldlM_append]

theorem languageCount_concat (language : String) (events : List TasteEvent) (e : TasteEvent) :
    languageCount language (events ++ [e]) = languageCount language events + if e.isWatchIn language then 1 else 0 := by
  simp [languageCount, List.countP_append, List.countP_singleton]

namespace Call

/-- Whether a call registers a user. -/
def registers (user : String) : Call → Bool
  | register data => data.id == user
  | _ => false

/-- The event that a call is for a user when it succeeds, by the videos as they are when it is made. -/
def event? (db : Database) (user : String) : Call → Option TasteEvent
  | watch video watcher =>
    if watcher = some user then (db.video? video).map fun v => .watched v.category v.language else none
  | notInterested video u => if u = user then (db.video? video).map fun v => .notInterested v.category else none
  | _ => none

/-- The events of a user since the user registered, after a call and its answer. -/
def remember (db : Database) (user : String) (events : List TasteEvent) (c : Call) : Except Failure Unit → List TasteEvent
  | .error _ => events
  | .ok () => if c.registers user then [] else events ++ (c.event? db user).toList

end Call

/-! ## Tables that keep count -/

namespace Database

/-- All scores are integers of their column. -/
def ScoresFit (db : Database) : Prop :=
  (∀ s ∈ db.categoryScores, s.score < scoreLimit) ∧ ∀ s ∈ db.languageScores, s.score < scoreLimit

/-- The scores of a user are the counts of some events. -/
structure Counts (f : Quantity) (user : String) (events : List TasteEvent) (db : Database) : Prop where
  category : ∀ c, categoryCount f c events = .ok (scoreOf db.categoryScores user c)
  language : ∀ l, (languageCount l events : Int) = scoreOf db.languageScores user l

variable {f : Quantity} {user : String} {events : List TasteEvent} {db db' : Database}

/-- A user who is not registered has no scores. -/
theorem NoDangling.counts_nil (h : db.NoDangling) (huser : ¬db.HasUser user) : db.Counts f user [] := by
  refine ⟨fun c => ?_, fun l => ?_⟩
  · rw [scoreOf_of_forall_ne]
    · rfl
    · rintro s hs rfl
      exact huser (h.categoryScores s hs)
  · rw [scoreOf_of_forall_ne]
    · rfl
    · rintro s hs rfl
      exact huser (h.languageScores s hs)

/-- The counts of a user are those of any tables with the same rows of the user. -/
theorem Counts.congr (h : db.Counts f user events) (hcategory : rowsOf db'.categoryScores user = rowsOf db.categoryScores user)
    (hlanguage : rowsOf db'.languageScores user = rowsOf db.languageScores user) : db'.Counts f user events where
  category c := by rw [h.category, scoreOf_congr hcategory]
  language l := by rw [h.language, scoreOf_congr hlanguage]

/-- A watch counts. -/
theorem Counts.watch (h : db.Counts f user events) (category language : String)
    (hfits : (db.countWatch user category language).ScoresFit) :
    (db.countWatch user category language).Counts f user (events ++ [.watched category language]) where
  category c := by
    rw [categoryCount_concat, h.category]
    by_cases hc : category = c
    · subst hc
      simp only [TasteEvent.count, if_true, countWatch, scoreOf_countUp_self hfits.1]
      rfl
    · simp only [TasteEvent.count, if_neg hc, countWatch, scoreOf_countUp_of_ne (Ne.symm hc)]
      rfl
  language l := by
    rw [languageCount_concat, Int.natCast_add, h.language]
    by_cases hl : language = l
    · subst hl
      simp [TasteEvent.isWatchIn, countWatch, scoreOf_countUp_self hfits.2]
    · simp [TasteEvent.isWatchIn, hl, countWatch, scoreOf_countUp_of_ne (Ne.symm hl)]

/-- A decay counts, also where there is nothing to decay. -/
theorem Counts.decay (h : db.Counts f user events) (hkeyed : db.Keyed) (hf : f.IsFinite) {category : String} {answer : Option Int}
    (hdecay : db.decayCategory user category f = .ok (answer, db')) :
    db'.Counts f user (events ++ [.notInterested category]) := by
  obtain ⟨n, hscaled, rfl⟩ := decayCategory_eq_ok hkeyed hf hdecay
  -- nothing scales to nothing, so where there is no row none is set
  have hnone : scoreOf db.categoryScores user category = 0 → n ≤ 0 := by
    intro hzero
    rw [hzero, scaleScore_zero hf, Except.ok.injEq] at hscaled
    exact Int.le_of_eq hscaled.symm
  refine ⟨fun c => ?_, fun l => ?_⟩
  · rw [categoryCount_concat, h.category]
    by_cases hc : category = c
    · subst hc
      simp only [scoreOf_setScore_self hnone]
      simp only [bind, Except.bind, TasteEvent.count, if_true, hscaled, Except.map]
    · simp only [scoreOf_setScore_of_ne (Ne.symm hc)]
      simp only [bind, Except.bind, TasteEvent.count, if_neg hc]
  · rw [languageCount_concat]
    simpa [TasteEvent.isWatchIn] using h.language l

end Database

/-! ## What a call does to the scores of a user -/

namespace Call

variable {s : Settings} {w : World} {c : Call} {answer : Except Failure Unit} {db : Database} {user : String}
  {events : List TasteEvent}

/-- A user who is registered after a call was registered before, and the call did not register the user; or else it did, and
changed nothing of the scores. -/
theorem Effect.registered (h : c.Effect s w answer db) (huser : db.HasUser user) :
    (w.db.HasUser user ∧ (answer = .ok () → c.registers user = false)) ∨
      (¬w.db.HasUser user ∧ c.registers user = true ∧ answer = .ok () ∧
        db.categoryScores = w.db.categoryScores ∧ db.languageScores = w.db.languageScores) := by
  cases h with
  | failed => exact Or.inl ⟨huser, nofun⟩
  | @register data hnew =>
    by_cases hid : data.id = user
    · exact Or.inr ⟨hid ▸ Database.user?_eq_none_iff.mp hnew, beq_iff_eq.mpr hid, rfl, rfl, rfl⟩
    · refine Or.inl ⟨?_, fun _ => beq_eq_false_iff_ne.mpr hid⟩
      obtain ⟨u, hu, rfl⟩ := huser
      rcases List.mem_append.mp hu with hu | hu
      · exact ⟨u, hu, rfl⟩
      · exact absurd (List.mem_singleton.mp hu ▸ rfl) hid
  | @changeUser id changes =>
    refine Or.inl ⟨?_, fun _ => rfl⟩
    obtain ⟨u, hu, rfl⟩ := huser
    obtain ⟨u₀, hu₀, rfl⟩ := List.mem_map.mp hu
    refine ⟨u₀, hu₀, ?_⟩
    split <;> rfl
  | deleteUser =>
    obtain ⟨u, hu, rfl⟩ := huser
    exact Or.inl ⟨⟨u, (List.mem_filter.mp hu).1, rfl⟩, fun _ => rfl⟩
  | notInterested _ _ hdecay =>
    rcases Database.decayCategory_cases hdecay with rfl | ⟨score, rfl⟩
    · exact Or.inl ⟨huser, fun _ => rfl⟩
    · exact Or.inl ⟨huser, fun _ => rfl⟩
  | _ => exact Or.inl ⟨huser, fun _ => rfl⟩

/-- A call without an event for a user who stays leaves the rows of the user. -/
theorem Effect.rowsOf_eq (h : c.Effect s w answer db) (huser : db.HasUser user)
    (hquiet : answer = .ok () → c.event? w.db user = none) :
    Database.rowsOf db.categoryScores user = Database.rowsOf w.db.categoryScores user ∧
      Database.rowsOf db.languageScores user = Database.rowsOf w.db.languageScores user := by
  cases h with
  | deleteUser =>
    obtain ⟨u, hu, rfl⟩ := huser
    have hkept := (List.mem_filter.mp hu).2
    exact ⟨Database.rowsOf_filter fun s hs => hs ▸ hkept, Database.rowsOf_filter fun s hs => hs ▸ hkept⟩
  | @watch video watcher v since hfound =>
    have hne : user ≠ watcher := by
      rintro rfl
      simpa [event?, hfound] using hquiet rfl
    exact ⟨Database.rowsOf_countUp_of_ne hne, Database.rowsOf_countUp_of_ne hne⟩
  | @notInterested video u v score db hfound _ hdecay =>
    have hne : user ≠ u := by
      rintro rfl
      simpa [event?, hfound] using hquiet rfl
    rcases Database.decayCategory_cases hdecay with rfl | ⟨n, rfl⟩
    · exact ⟨rfl, rfl⟩
    · exact ⟨Database.rowsOf_setScore_of_ne hne, rfl⟩
  | _ => exact ⟨rfl, rfl⟩

/-- A call with an event for a registered user counts the event. -/
theorem Effect.counts_event (h : c.Effect s w (.ok ()) db) (hf : s.notInterestedFactor.IsFinite) (hkeyed : w.db.Keyed)
    (hfits : db.ScoresFit) (huser : w.db.HasUser user) {e : TasteEvent} (hevent : c.event? w.db user = some e)
    (hcounts : w.db.Counts s.notInterestedFactor user events) : db.Counts s.notInterestedFactor user (events ++ [e]) := by
  cases h with
  | @watch video watcher v since hfound =>
    obtain ⟨hwatcher, rfl⟩ : some watcher = some user ∧ TasteEvent.watched v.category v.language = e := by
      simpa [event?, hfound] using hevent
    cases hwatcher
    exact (hcounts.watch v.category v.language hfits).congr rfl rfl
  | @watchUnknown video watcher v hfound hunknown =>
    -- the watcher is the user, who is registered
    obtain ⟨hwatcher, -⟩ : watcher = some user ∧ TasteEvent.watched v.category v.language = e := by
      simpa [event?, hfound] using hevent
    exact absurd huser (hunknown user hwatcher)
  | @notInterested video u v score db hfound _ hdecay =>
    obtain ⟨rfl, rfl⟩ : u = user ∧ TasteEvent.notInterested v.category = e := by
      simpa [event?, hfound] using hevent
    exact hcounts.decay hkeyed hf hdecay
  | _ => nomatch hevent

/-- A call keeps count of the events of every user who is registered. -/
theorem Effect.counts (h : c.Effect s w answer db) (hf : s.notInterestedFactor.IsFinite) (hkeyed : w.db.Keyed)
    (hrefs : w.db.NoDangling) (hfits : db.ScoresFit) (huser : db.HasUser user)
    (hcounts : w.db.HasUser user → w.db.Counts s.notInterestedFactor user events) :
    db.Counts s.notInterestedFactor user (c.remember w.db user events answer) := by
  rcases h.registered huser with ⟨hbefore, hregistered⟩ | ⟨hnew, hregisters, rfl, hcategory, hlanguage⟩
  · cases answer with
    | error e =>
      obtain ⟨hcategory, hlanguage⟩ := h.rowsOf_eq huser nofun
      exact (hcounts hbefore).congr hcategory hlanguage
    | ok a =>
      rw [remember, hregistered rfl]
      cases hevent : c.event? w.db user with
      | none =>
        obtain ⟨hcategory, hlanguage⟩ := h.rowsOf_eq huser fun _ => hevent
        simpa using (hcounts hbefore).congr hcategory hlanguage
      | some e => exact h.counts_event hf hkeyed hfits hbefore hevent (hcounts hbefore)
  · rw [remember, hregisters]
    exact (hrefs.counts_nil hnew).congr (by rw [hcategory]) (by rw [hlanguage])

end Call

/-! ## Runs -/

/-- The tables, and the events of a user since the user registered for the last time. -/
structure TasteLog where
  tables : Database
  events : List TasteEvent

/-- The log after a step. -/
def TasteLog.next (s : Settings) (user : String) (log : TasteLog) (step : Step) : TasteLog where
  tables := step.run s log.tables
  events := step.call.remember log.tables user log.events (step.call.perform s (step.world log.tables)).1

namespace Database

end Database

namespace TasteChanges

def ann : NewUser := ⟨"ann", "Ann", none, none, none⟩

def bob : NewUser := ⟨"bob", "Bob", none, none, none⟩

def hills : NewVideo := ⟨"Hills", none, "Travel", some "en", 60⟩

/-- A watch of Bob's video. -/
def watching (user : String) : Step := ⟨{ now := 100 * Duration.hour }, .watch 1 (some user)⟩

/-- Ann watches Bob's video, leaves and comes back. She watches it five times and is not interested three times; Bob watches it,
gives it another category, and she watches it again and likes it. Then it is deleted. -/
def steps : List Step :=
  [⟨{}, .register ann⟩, ⟨{}, .register bob⟩, ⟨{}, .createVideo none "bob" hills "thumbnail" "content"⟩, watching "ann",
    ⟨{}, .deleteUser "ann"⟩, ⟨{}, .register ann⟩, watching "ann", watching "ann", watching "ann", watching "ann", watching "ann",
    ⟨{}, .notInterested 1 "ann"⟩, ⟨{}, .notInterested 1 "ann"⟩, ⟨{}, .notInterested 1 "ann"⟩, watching "bob",
    ⟨{}, .changeVideo 1 { category := some "Food" } none none⟩, watching "ann", ⟨{}, .like "ann" 1⟩, ⟨{}, .deleteVideo 1⟩]

def events : List TasteEvent :=
  [.watched "Travel" "en", .watched "Travel" "en", .watched "Travel" "en", .watched "Travel" "en", .watched "Travel" "en",
    .notInterested "Travel", .notInterested "Travel", .notInterested "Travel", .watched "Food" "en"]

end TasteChanges

end VideoShare
