import VideoShare.Proofs.Calls
import Mathlib.Data.List.Pairwise

/-!
# The spacing of a watch history

A watch enters a video in the history of its user in the place of the entries that are younger than a window, and the window reaches
back from the time of the watch. What it leaves is not later than the window's beginning, so it lies at least the window's length
before the new entry. This holds wherever the clock stood when the other entries were made: those that lie in the future are younger
than the window as well, and go. No other call adds an entry or changes one, so any two entries that a user has for a video are at
least as far apart as the window is long.
-/

namespace VideoShare

/-- The time between two instants, whichever is the later one. -/
def Instant.distance (t u : Instant) : Duration := Int.natAbs (t - u)

theorem Instant.distance_comm (t u : Instant) : t.distance u = u.distance t := by
  have hint : ∀ t u : Int, (t - u).natAbs = (u - t).natAbs := by omega
  exact congrArg Int.ofNat (hint t u)

/-- What does not lie after the beginning of a window lies at least the window's length from its end. -/
theorem Instant.le_distance {t u : Instant} {d : Duration} (h : ¬u - d < t) : d ≤ t.distance u := by
  have hint : ∀ t u d : Int, ¬u - d < t → d ≤ (t - u).natAbs := by omega
  exact hint t u d h

/-! ## Shifting an instant -/

theorem Duration.held_eq_ok {d d' : Duration} (h : d.held = .ok d') : d' = d := by
  simp only [held] at h
  split at h
  · simp at h
  · split at h
    · simp at h
    · exact (Except.ok.inj h).symm

theorem Instant.inCalendar_eq_ok {t t' : Instant} (h : t.inCalendar = .ok t') : t' = t := by
  unfold inCalendar at h
  split at h
  · exact (Except.ok.inj h).symm
  · simp at h

/-- An instant that lies before another by a quantity of units is their difference. -/
theorem Instant.minus_eq_ok {t since : Instant} {q : Number.Quantity} {unit : Duration} (h : t.minus q unit = .ok since) :
    ∃ d, lengthOf q unit = .ok d ∧ since = t - d := by
  unfold Instant.minus at h
  cases hd : lengthOf q unit with
  | error e => simp [hd, Except.bind] at h
  | ok d =>
    simp only [hd, Except.bind, Instant.before] at h
    cases hheld : d.held with
    | error f => simp [hheld, Except.mapError] at h
    | ok d' =>
      cases hcal : (t - d').inCalendar with
      | error f => simp [hheld, hcal, Except.mapError] at h
      | ok t' =>
        simp only [hheld, hcal, Except.mapError, Except.ok.injEq] at h
        rw [← h, inCalendar_eq_ok hcal, Duration.held_eq_ok hheld]
        exact ⟨d, rfl, rfl⟩

/-! ## Entries that stay apart -/

/-- Where two entries are the same user's for the same video, a quantity of hours lies between them. -/
def Watch.ApartFrom (hours : Number.Quantity) (a b : Watch) : Prop :=
  a.userId = b.userId → a.videoId = b.videoId →
    ∃ d, lengthOf hours Duration.hour = .ok d ∧ d ≤ a.timestamp.distance b.timestamp

instance (hours : Number.Quantity) : Std.Symm (Watch.ApartFrom hours) where
  symm a b h huser hvideo := by
    obtain ⟨d, hd, hle⟩ := h huser.symm hvideo.symm
    rw [Instant.distance_comm] at hle
    exact ⟨d, hd, hle⟩

/-- A new entry is apart from those that are not later than the beginning of the window. -/
theorem Database.refreshWatch_pairwise {db : Database} {hours : Number.Quantity} {since now : Instant}
    (h : db.watches.Pairwise (Watch.ApartFrom hours)) (hsince : now.minus hours Duration.hour = .ok since) (user : String)
    (video : Int) : (db.refreshWatch user video since now).watches.Pairwise (Watch.ApartFrom hours) := by
  obtain ⟨d, hd, rfl⟩ := Instant.minus_eq_ok hsince
  refine List.pairwise_append.mpr ⟨h.filter _, List.pairwise_singleton _ _, ?_⟩
  intro a ha b hb huser hvideo
  rw [List.mem_singleton.mp hb] at huser hvideo ⊢
  have hkept := (List.mem_filter.mp ha).2
  simp only [huser, hvideo, beq_self_eq_true, Bool.true_and, Bool.not_eq_true', decide_eq_false_iff_not] at hkept
  exact ⟨d, hd, Instant.le_distance hkept⟩

/-- Every call keeps the entries of the watch histories apart. -/
theorem Call.Effect.watches_pairwise {s : Settings} {w : World} {c : Call} {answer : Except Failure Unit} {db : Database}
    (h : c.Effect s w answer db) (hw : w.db.watches.Pairwise (Watch.ApartFrom s.dedupHours)) :
    db.watches.Pairwise (Watch.ApartFrom s.dedupHours) := by
  cases h with
  | deleteUser => exact (hw.filter _).filter _
  | deleteVideo => exact hw.filter _
  | watch _ _ window => exact Database.refreshWatch_pairwise hw window _ _
  | notInterested _ _ hdecay =>
    rcases Database.decayCategory_cases hdecay with rfl | ⟨score, rfl⟩
    · exact hw
    · exact hw
  | _ => exact hw

/-- After a replay, any two entries that a user has for a video are at least as far apart as the window of the settings is long, a
whole number of hours exactly. The clock may have stood anywhere at each step. -/
theorem watches_stay_apart (s : Settings) (steps : List Step) (a b : Watch) (ha : a ∈ (replay s steps).watches)
    (hb : b ∈ (replay s steps).watches) (hne : a ≠ b) (huser : a.userId = b.userId) (hvideo : a.videoId = b.videoId) :
    ∃ d, lengthOf s.dedupHours Duration.hour = .ok d ∧ d ≤ a.timestamp.distance b.timestamp ∧
      ∀ hours : Int, s.dedupHours = .whole hours → d = hours * Duration.hour := by
  have hpairs : (replay s steps).watches.Pairwise (Watch.ApartFrom s.dedupHours) :=
    replay_induction List.Pairwise.nil (fun _ _ _ _ h hw => h.watches_pairwise hw) steps
  have hapart : a.ApartFrom s.dedupHours b := hpairs.forall ha hb hne
  obtain ⟨d, hd, hle⟩ := hapart huser hvideo
  refine ⟨d, hd, hle, ?_⟩
  intro hours hwhole
  rw [hwhole] at hd
  exact (Except.ok.inj hd).symm

/-! ### A clock that goes back -/

namespace ClockGoesBack

def ann : NewUser := ⟨"ann", "Ann", none, none, none⟩

def hills : NewVideo := ⟨"Hills", none, "Travel", some "en", 60⟩

/-- Ann watches her video at a hundred hours, a day later, and then, when the clock has gone back, an hour after the first time and
a day after that. -/
def steps : List Step :=
  [⟨{}, .register ann⟩,
    ⟨{}, .createVideo none "ann" hills "thumbnail" "content"⟩,
    ⟨{ now := 100 * Duration.hour }, .watch 1 (some "ann")⟩,
    ⟨{ now := 124 * Duration.hour }, .watch 1 (some "ann")⟩,
    ⟨{ now := 101 * Duration.hour }, .watch 1 (some "ann")⟩,
    ⟨{ now := 125 * Duration.hour }, .watch 1 (some "ann")⟩]

def earlier : Watch := ⟨3, "ann", 1, 101 * Duration.hour⟩

def later : Watch := ⟨4, "ann", 1, 125 * Duration.hour⟩

/-- The third watch takes the place of the first two, of which one lies in its future. The fourth one is exactly a day later and leaves
it where it is. -/
theorem a_day_apart :
    (replay {} (steps.take 4)).watches = [⟨1, "ann", 1, 100 * Duration.hour⟩, ⟨2, "ann", 1, 124 * Duration.hour⟩] ∧
      (replay {} steps).watches = [earlier, later] ∧
      ∃ d, lengthOf (.whole 24) Duration.hour = .ok d ∧ d ≤ earlier.timestamp.distance later.timestamp ∧
        ∀ hours : Int, (.whole 24 : Number.Quantity) = .whole hours → d = hours * Duration.hour := by
  have hfour : (replay {} (steps.take 4)).watches =
      [⟨1, "ann", 1, 100 * Duration.hour⟩, ⟨2, "ann", 1, 124 * Duration.hour⟩] := by decide
  have hsix : (replay {} steps).watches = [earlier, later] := by decide
  refine ⟨hfour, hsix, watches_stay_apart {} steps earlier later ?_ ?_ (by decide) rfl rfl⟩
  · rw [hsix]
    exact List.mem_cons_self
  · rw [hsix]
    exact List.mem_cons_of_mem _ List.mem_cons_self

end ClockGoesBack

end VideoShare
