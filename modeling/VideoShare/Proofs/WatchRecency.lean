import VideoShare.Proofs.LikeEdges
import VideoShare.Proofs.NewestFirst
import VideoShare.Proofs.Shares

/-!
# A watch history is a list of what was watched last

A watch enters its video in front of its user's history, in the place of the entries for the video that the window covers; the others
stay in their order. That the new entry is in front takes no more than a clock that does not go back: an entry of the same instant has a
smaller id, even where the entries with the largest ids are those that the new one replaces.

The history is listed by its videos, and a video is listed once, where its latest entry stands. An entry that was not replaced because it
is older than the window is therefore kept and not listed any more. So what the listing was, without the video where it was watched
within the window, is what the listing becomes behind the video, except where the video was watched before the window and not since
(`watch_enters_in_front_iff`).
-/

namespace VideoShare

/-! ## Lists without repetition -/

section

variable {α : Type} [BEq α] [LawfulBEq α]

/-- What is left of a list, each item once, is what is left of the items, each once. -/
theorem eraseDups_filter (p : α → Bool) (l : List α) : (l.filter p).eraseDups = l.eraseDups.filter p := by
  induction hn : l.length using Nat.strongRecOn generalizing l with
  | ind n ih =>
    cases l with
    | nil => rfl
    | cons a l =>
      have hshorter : (l.filter fun b => !b == a).length < n := by
        have := List.length_filter_le (fun b => !b == a) l
        rw [← hn, List.length_cons]
        omega
      have hrest := ih _ hshorter (l.filter fun b => !b == a) rfl
      have hcomm : (l.filter p).filter (fun b => !b == a) = (l.filter fun b => !b == a).filter p := by
        simp only [List.filter_filter, Bool.and_comm]
      rw [List.eraseDups_cons]
      by_cases ha : p a = true
      · rw [List.filter_cons_of_pos ha, List.filter_cons_of_pos ha, List.eraseDups_cons, hcomm, hrest]
      · -- the item goes, and with it all that are like it
        have hnone : (l.filter p).filter (fun b => !b == a) = l.filter p := by
          refine List.filter_eq_self.mpr fun b hb => ?_
          have hne : b ≠ a := fun heq => ha (heq ▸ (List.mem_filter.mp hb).2)
          simpa using hne
        rw [List.filter_cons_of_neg ha, List.filter_cons_of_neg ha, ← hrest, ← hcomm, hnone]

/-- An item in front of a list from which only its like are missing: each once, it is in front of the others. -/
theorem eraseDups_cons_of_dropped {a : α} {l m : List α} (h : (m.filter fun b => !b == a) = l.filter fun b => !b == a) :
    (a :: m).eraseDups = a :: l.eraseDups.filter fun b => !b == a := by
  rw [List.eraseDups_cons, h, eraseDups_filter]

end

namespace Database

/-! ## The listing -/

/-- The videos of a user's watch history, the last watched first, each once. -/
def watchListing (db : Database) (user : String) : List Video :=
  ((db.watchesOf user).map (·.videoId)).eraseDups.filterMap db.video?

/-- Whether a user has an entry for a video that is later than an instant. -/
def WatchedAfter (db : Database) (user : String) (video : Int) (since : Instant) : Prop :=
  ∃ e ∈ db.watchRows user, e.videoId = video ∧ since < e.timestamp

instance (db : Database) (user : String) (video : Int) (since : Instant) : Decidable (db.WatchedAfter user video since) :=
  inferInstanceAs (Decidable (∃ e ∈ db.watchRows user, e.videoId = video ∧ since < e.timestamp))

/-- A video that was watched stands in front of the listing as it was, from which the video is dropped where its entry is later than an
instant. -/
def EntersInFront (user : String) (video : Int) (since : Instant) (before after : Database) : Prop :=
  (after.watchListing user).map (·.id) =
    video :: ((before.watchListing user).map (·.id)).filter fun id => !(id == video && decide (before.WatchedAfter user id since))

variable {db : Database} {user : String} {video : Int} {since now : Instant}

theorem video?_updateVideo {f : Video → Video} (hf : ∀ v, (f v).id = v.id) (changed id : Int) :
    (db.updateVideo changed f).video? id = (db.video? id).map fun v => if v.id == changed then f v else v := by
  have hid : ((·.id == id) ∘ fun v : Video => if v.id == changed then f v else v) = (·.id == id) := by
    funext v
    simp only [Function.comp]
    split
    · rw [hf]
    · rfl
  simp only [video?, updateVideo, List.find?_map, hid]

/-- The ids of the listing are those of the entries, each once: no entry is for a video that is gone. -/
theorem NoDangling.map_id_watchListing (h : db.NoDangling) (user : String) :
    (db.watchListing user).map (·.id) = ((db.watchesOf user).map (·.videoId)).eraseDups := by
  have hfound : ∀ id ∈ ((db.watchesOf user).map (·.videoId)).eraseDups, ∃ v, db.video? id = some v := by
    intro id hid
    obtain ⟨e, he, rfl⟩ := List.mem_map.mp (List.mem_eraseDups.mp hid)
    have hrow := (mem_watchRows.mp ((db.watchesOf_perm user).mem_iff.mp he)).1
    refine Option.ne_none_iff_exists'.mp fun hnone => ?_
    exact video?_eq_none_iff.mp hnone (h.watchedVideos e hrow)
  unfold watchListing
  generalize ((db.watchesOf user).map (·.videoId)).eraseDups = ids at hfound
  induction ids with
  | nil => rfl
  | cons id ids ih =>
    obtain ⟨v, hv⟩ := hfound id List.mem_cons_self
    rw [List.filterMap_cons_some hv, List.map_cons, (video?_eq_some hv).2,
      ih fun other hother => hfound other (List.mem_cons_of_mem _ hother)]

/-! ## What a watch does to the entries and to the listing -/

variable {v : Video}

/-- Whether a watch of a video leaves an entry of its user's: it is for another video, or not later than the window's beginning. -/
def outlasts (video : Int) (since : Instant) (e : Watch) : Bool := !(e.videoId == video && since < e.timestamp)

theorem watchRows_rememberWatch (db : Database) (user : String) (v : Video) (since now : Instant) :
    (db.rememberWatch user v since now).watchRows user =
      (db.watchRows user).filter (outlasts v.id since) ++ [⟨db.nextWatchId, user, v.id, now⟩] := by
  have hkept : ∀ e : Watch, ((e.userId == user) && !(e.userId == user && e.videoId == v.id && decide (since < e.timestamp))) =
      (outlasts v.id since e && (e.userId == user)) := by
    intro e
    unfold outlasts
    cases e.userId == user <;> simp
  simp only [watchRows, rememberWatch, refreshWatch, countWatch, List.filter_append, List.filter_filter, hkept]
  simp [nextWatchId]

/-- The new entry is listed first when no other is later than now. -/
theorem Keyed.watchesOf_rememberWatch (h : db.Keyed) (v : Video) (since : Instant)
    (hclock : ∀ e ∈ db.watchRows user, e.timestamp ≤ now) :
    (db.rememberWatch user v since now).watchesOf user =
      ⟨db.nextWatchId, user, v.id, now⟩ :: (db.watchesOf user).filter (outlasts v.id since) := by
  have hkeyed : (db.rememberWatch user v since now).Keyed := (h.countWatch user v.category v.language).refreshWatch _ _ _ _
  have hperm : ((db.rememberWatch user v since now).watchRows user).Perm
      (⟨db.nextWatchId, user, v.id, now⟩ :: (db.watchRows user).filter (outlasts v.id since)) := by
    rw [watchRows_rememberWatch]
    exact List.perm_append_singleton _ _
  have hfirst : ∀ e ∈ (db.watchRows user).filter (outlasts v.id since),
      newestFirst Watch.timestamp Watch.id ⟨db.nextWatchId, user, v.id, now⟩ e = true := by
    intro e he
    have hrow := (List.mem_filter.mp he).1
    have hid : e.id < db.nextWatchId := lt_nextId (List.mem_map_of_mem (mem_watchRows.mp hrow).1)
    -- an entry of this instant is older by its id
    rcases Int.lt_or_eq_of_le (hclock e hrow) with hearlier | hsame
    · exact newestFirst_iff.mpr (Or.inl hearlier)
    · exact newestFirst_iff.mpr (Or.inr ⟨hsame.symm, Int.le_of_lt hid⟩)
  rw [watchesOf_eq, (hkeyed.orders_watchRows user).mergeSort_eq_cons hperm hfirst, (h.orders_watchRows user).mergeSort_filter]
  rfl

/-- A watch does not touch the histories of others. -/
theorem watchRows_rememberWatch_of_ne {other : String} (hne : other ≠ user) :
    (db.rememberWatch user v since now).watchRows other = db.watchRows other := by
  have hshare : (db.rememberWatch user v since now).shareOf other = db.shareOf other := shareOf_rememberWatch hne.symm
  exact congrArg Database.watches hshare

/-- The videos that are found under some ids, one of them excepted, when only that one has changed. -/
theorem filterMap_video?_of_ne {after : Database} {changed : Int} (hsame : ∀ id, id ≠ changed → after.video? id = db.video? id)
    (ids : List Int) :
    (ids.filter fun id => !id == changed).filterMap after.video? = (ids.filterMap db.video?).filter (·.id != changed) := by
  rw [List.filterMap_filter, List.filter_filterMap]
  refine List.filterMap_congr fun id _ => ?_
  by_cases hid : id = changed
  · subst hid
    cases hv : db.video? id with
    | none => simp
    | some v => simp [Option.filter, (video?_eq_some hv).2]
  · rw [if_pos (by simpa using hid), hsame id hid]
    cases hv : db.video? id with
    | none => rfl
    | some v => simp [Option.filter, (video?_eq_some hv).2, hid]

/-- The tables after a user has watched a video. -/
def afterWatch (db : Database) (user : String) (v : Video) (since now : Instant) : Database :=
  (db.rememberWatch user v since now).updateVideo v.id addView

theorem video?_afterWatch (db : Database) (user : String) (v : Video) (since now : Instant) (id : Int) :
    (db.afterWatch user v since now).video? id = (db.video? id).map fun u => if u.id == v.id then addView u else u :=
  video?_updateVideo (f := addView) (fun _ => rfl) v.id id

/-- The video watched stands in front of the listing, which is otherwise as before. -/
theorem Keyed.watchListing_afterWatch (h : db.Keyed) (hv : db.video? video = some v) (since : Instant)
    (hclock : ∀ e ∈ db.watchRows user, e.timestamp ≤ now) :
    (db.afterWatch user v since now).watchListing user = addView v :: (db.watchListing user).filter (·.id != video) := by
  obtain ⟨-, hid⟩ := video?_eq_some hv
  have hdropped : (((db.watchesOf user).filter (outlasts v.id since)).map (·.videoId)).filter (fun id => !id == v.id) =
      ((db.watchesOf user).map (·.videoId)).filter fun id => !id == v.id := by
    simp only [List.filter_map, List.filter_filter]
    congr 1
    refine List.filter_congr fun e _ => ?_
    simp only [Function.comp, outlasts]
    cases e.videoId == v.id <;> simp
  have hids : ((db.afterWatch user v since now).watchesOf user).map (·.videoId) =
      v.id :: ((db.watchesOf user).filter (outlasts v.id since)).map (·.videoId) :=
    congrArg (List.map (·.videoId)) (h.watchesOf_rememberWatch v since hclock)
  have hother : ∀ id, id ≠ v.id → (db.afterWatch user v since now).video? id = db.video? id := by
    intro id hne
    rw [video?_afterWatch]
    cases hu : db.video? id with
    | none => rfl
    | some u => simp [(video?_eq_some hu).2, hne]
  have hself : (db.afterWatch user v since now).video? v.id = some (addView v) := by
    rw [video?_afterWatch, hid, hv]
    simp [hid]
  rw [watchListing, hids, eraseDups_cons_of_dropped hdropped, List.filterMap_cons_some hself, filterMap_video?_of_ne hother, hid]
  rfl

/-- What stands behind the video in the listing is what stood in it without the video where its entry was in the window, except where the
video was watched, and not in the window. -/
theorem Keyed.entersInFront_iff (h : db.Keyed) (hrefs : db.NoDangling) (hv : db.video? video = some v) (since : Instant)
    (hclock : ∀ e ∈ db.watchRows user, e.timestamp ≤ now) :
    EntersInFront user video since db (db.afterWatch user v since now) ↔
      ((∃ e ∈ db.watchRows user, e.videoId = video) → db.WatchedAfter user video since) := by
  have hafter : ((db.afterWatch user v since now).watchListing user).map (·.id) =
      video :: ((db.watchListing user).map (·.id)).filter (· != video) := by
    rw [h.watchListing_afterWatch hv since hclock, List.map_cons, List.filter_map]
    exact congrArg (· :: _) (video?_eq_some hv).2
  have hlisted : video ∈ (db.watchListing user).map (·.id) ↔ ∃ e ∈ db.watchRows user, e.videoId = video := by
    rw [hrefs.map_id_watchListing, List.mem_eraseDups, List.mem_map]
    simp only [(db.watchesOf_perm user).mem_iff]
  unfold EntersInFront
  rw [hafter, List.cons.injEq, ← hlisted]
  generalize (db.watchListing user).map (·.id) = ids
  by_cases hlate : db.WatchedAfter user video since
  · have hsame : ids.filter (fun id => !(id == video && decide (db.WatchedAfter user id since))) = ids.filter (· != video) := by
      refine List.filter_congr fun id _ => ?_
      by_cases hid : id = video
      · simp [hid, hlate]
      · simp [bne, hid]
    rw [hsame]
    exact iff_of_true ⟨rfl, rfl⟩ fun _ => hlate
  · have hall : ids.filter (fun id => !(id == video && decide (db.WatchedAfter user id since))) = ids := by
      refine List.filter_eq_self.mpr fun id _ => ?_
      by_cases hid : id = video
      · simp [hid, hlate]
      · simp [hid]
    rw [hall]
    constructor
    · -- nothing was dropped, so the video was not listed
      rintro ⟨-, heq⟩ hmem
      have hkept := List.filter_eq_self.mp heq video hmem
      simp at hkept
    · intro hnot
      refine ⟨rfl, List.filter_eq_self.mpr fun id hid => ?_⟩
      have hne : id ≠ video := fun heq => hlate (hnot (heq ▸ hid))
      simpa using hne

/-- Others see the video where it stood, with one more view. -/
theorem watchListing_afterWatch_of_ne {other : String} (hne : other ≠ user) :
    (db.afterWatch user v since now).watchListing other =
      (db.watchListing other).map fun u => if u.id == v.id then addView u else u := by
  have hrows : (db.afterWatch user v since now).watchesOf other = db.watchesOf other := by
    rw [watchesOf_eq, watchesOf_eq]
    exact congrArg (List.mergeSort · _) (watchRows_rememberWatch_of_ne hne)
  rw [watchListing, watchListing, hrows, List.map_filterMap]
  exact List.filterMap_congr fun id _ => video?_afterWatch db user v since now id

end Database

/-! ## Entries have the times of steps -/

/-- An entry that a call leaves was there before, or has the time of the call. -/
theorem Call.Effect.mem_watches {s : Settings} {w : World} {c : Call} {answer : Except Failure Unit} {db : Database} {e : Watch}
    (h : c.Effect s w answer db) (he : e ∈ db.watches) : e ∈ w.db.watches ∨ e.timestamp = w.now := by
  cases h with
  | deleteUser => exact Or.inl (List.mem_filter.mp (List.mem_filter.mp he).1).1
  | deleteVideo => exact Or.inl (List.mem_filter.mp he).1
  | watch =>
    rcases List.mem_append.mp he with he | he
    · exact Or.inl (List.mem_filter.mp he).1
    · exact Or.inr (by rw [List.mem_singleton.mp he])
  | notInterested _ _ hdecay =>
    rcases Database.decayCategory_cases hdecay with rfl | ⟨score, rfl⟩
    · exact Or.inl he
    · exact Or.inl he
  | _ => exact Or.inl he

/-- No entry is later than the latest step. -/
theorem timestamp_le_of_replay {s : Settings} {steps : List Step} {now : Instant} (hclock : ∀ step ∈ steps, step.around.now ≤ now) :
    ∀ e ∈ (replay s steps).watches, e.timestamp ≤ now := by
  induction steps using List.reverseRecOn with
  | nil => exact nofun
  | append_singleton steps step ih =>
    intro e he
    rw [replay_concat] at he
    rcases (step.call.effect_perform s (step.world (replay s steps))).mem_watches he with hbefore | hnew
    · exact ih (fun step hstep => hclock step (List.mem_append_left _ hstep)) e hbefore
    · rw [hnew]
      exact hclock step (List.mem_append_right _ List.mem_cons_self)

/-! ## Watches in a run -/

/-- Who is registered gets the own watch history. -/
theorem Service.watchHistory_of_hasUser {user : String} {w : World} (h : w.db.HasUser user) :
    watchHistory user w = (.ok (w.db.watchListing user), w) := by
  obtain ⟨u, hu⟩ := h.found
  rw [watchHistory, user_bind_of_some hu, database_bind]
  rfl

/-- Who is not registered has no watch history. -/
theorem Service.watchHistory_of_unknown {user : String} {w : World} (h : ¬w.db.HasUser user) :
    watchHistory user w = (.error (.refused (.noViewer user)), w) := by
  refine bind_of_error ?_
  simp only [Service.user, Database.user?_eq_none_iff.mpr h]

/-- What a watch that answered `watched` does to the watch histories: the user gets an entry in front of those that it leaves, and the
video in front of the listing, where it stands no more. Others see the video with one more view where it stood. -/
structure WatchListed (user : String) (watched : Video) (since : Instant) (w w' : World) : Prop where
  entries : w'.db.watchesOf user =
    ⟨w.db.nextWatchId, user, watched.id, w.now⟩ :: (w.db.watchesOf user).filter (Database.outlasts watched.id since)
  listing : ∃ listed, Service.watchHistory user w = (.ok listed, w) ∧
    Service.watchHistory user w' = (.ok (watched :: listed.filter (·.id != watched.id)), w')
  others : ∀ other, other ≠ user → (Service.watchHistory other w').1 =
    (Service.watchHistory other w).1.map (List.map fun v => if v.id == watched.id then addView v else v)

/-- What a remembered watch does to the watch histories, when no entry is later than now. -/
theorem watchListed_afterWatch {w : World} {user : String} {v : Video} (hkeyed : w.db.Keyed) (huser : w.db.HasUser user)
    (hv : w.db.video? v.id = some v) (since : Instant) (hclock : ∀ e ∈ w.db.watchRows user, e.timestamp ≤ w.now) :
    WatchListed user (addView v) since w { w with db := w.db.afterWatch user v since w.now } where
  entries := hkeyed.watchesOf_rememberWatch v since hclock
  listing := by
    refine ⟨w.db.watchListing user, Service.watchHistory_of_hasUser huser, ?_⟩
    have hstays : { w with db := w.db.afterWatch user v since w.now }.db.HasUser user := huser
    rw [Service.watchHistory_of_hasUser hstays]
    exact congrArg (fun l => (Except.ok l, _)) (hkeyed.watchListing_afterWatch hv since hclock)
  others other hne := by
    by_cases hother : w.db.HasUser other
    · have hstays : { w with db := w.db.afterWatch user v since w.now }.db.HasUser other := hother
      rw [Service.watchHistory_of_hasUser hother, Service.watchHistory_of_hasUser hstays]
      exact congrArg Except.ok (Database.watchListing_afterWatch_of_ne hne)
    · have hnone : ¬{ w with db := w.db.afterWatch user v since w.now }.db.HasUser other := hother
      rw [Service.watchHistory_of_unknown hother, Service.watchHistory_of_unknown hnone]
      rfl

/-- A registered user watches a video after a run in which the clock was never later than now. The new entry stands in front of the user's
entries, from which just those for the video that are later than the window's beginning are gone, and the video in front of the user's
listing, where it stands no more behind; everybody else's listing is as it was. So the listing behind the video is the one from before,
without the video if its entry was later than the window's beginning, exactly when the user had an entry for the video within the window,
or none at all. -/
theorem watch_enters_in_front_iff (s : Settings) (steps : List Step) (w w' : World) (hw : w.db = replay s steps)
    (hclock : ∀ step ∈ steps, step.around.now ≤ w.now) (user : String) (huser : w.db.HasUser user) (video : Int) (watched : Video)
    (h : Service.watch s video (some user) w = (.ok watched, w')) :
    ∃ since, w.now.minus s.dedupHours Duration.hour = .ok since ∧ watched.id = video ∧ WatchListed user watched since w w' ∧
      (Database.EntersInFront user video since w.db w'.db ↔
        ((∃ e ∈ w.db.watchRows user, e.videoId = video) → w.db.WatchedAfter user video since)) := by
  obtain ⟨v, -, hv, -, rfl, ⟨u, since, hu, -, hsince, rfl⟩ | ⟨hunknown, -⟩⟩ := Service.watch_eq_ok h
  · obtain rfl := Option.some.inj hu
    have hkeyed : w.db.Keyed := hw ▸ keyed_replay s steps
    have hrefs : w.db.NoDangling := hw ▸ noDangling_replay s steps
    have hpast : ∀ e ∈ w.db.watchRows user, e.timestamp ≤ w.now := by
      intro e he
      have hrow := (Database.mem_watchRows.mp he).1
      rw [hw] at hrow
      exact timestamp_le_of_replay hclock e hrow
    obtain ⟨-, rfl⟩ := Database.video?_eq_some hv
    exact ⟨since, hsince, rfl, watchListed_afterWatch hkeyed huser hv since hpast,
      hkeyed.entersInFront_iff hrefs hv since hpast⟩
  · exact absurd huser (hunknown user rfl)

/-! ### A video watched on another day -/

namespace NextDay

def ann : NewUser := ⟨"ann", "Ann", none, none, none⟩

def hills : NewVideo := ⟨"Hills", none, "Travel", some "en", 60⟩

/-- Ann watches her video. -/
def steps : List Step :=
  [⟨{}, .register ann⟩, ⟨{}, .createVideo none "ann" hills "thumbnail" "content"⟩,
    ⟨{ now := 100 * Duration.hour }, .watch 1 (some "ann")⟩]

/-- A day and an hour later. -/
def world : World := { db := replay {} steps, now := 125 * Duration.hour }

def watching : Except Failure Video × World := Service.watch {} 1 (some "ann") world

def seenOnce : Video := ⟨1, "ann", "Hills", none, "Travel", "en", 60, 1, 0⟩

def seenTwice : Video := addView seenOnce

/-- Ann watches the video again, and has two entries for it. The listing shows it once. -/
theorem two_entries_listed_once :
    watching.1 = .ok seenTwice ∧
      watching.2.db.watchesOf "ann" = [⟨2, "ann", 1, 125 * Duration.hour⟩, ⟨1, "ann", 1, 100 * Duration.hour⟩] ∧
      Service.watchHistory "ann" watching.2 = (.ok [seenTwice], watching.2) := by
  have hseen : watching.1 = .ok seenTwice := by decide
  have hwatching : Service.watch {} 1 (some "ann") world = (.ok seenTwice, watching.2) := Prod.ext hseen rfl
  have hann : world.db.HasUser "ann" := by decide
  have hclock : ∀ step ∈ steps, step.around.now ≤ world.now := by decide
  obtain ⟨since, hsince, -, hlisted, -⟩ := watch_enters_in_front_iff {} steps world _ rfl hclock "ann" hann 1 seenTwice hwatching
  have hbefore : world.db.watchesOf "ann" = [⟨1, "ann", 1, 100 * Duration.hour⟩] := by
    have hrows : world.db.watchRows "ann" = [⟨1, "ann", 1, 100 * Duration.hour⟩] := by decide
    rw [Database.watchesOf_eq, hrows, List.mergeSort_singleton]
  obtain rfl : 101 * Duration.hour = since := Except.ok.inj ((by decide : _ = _).trans hsince)
  refine ⟨hseen, ?_, ?_⟩
  · rw [hlisted.entries, hbefore]
    decide
  · obtain ⟨listed, hlist, hagain⟩ := hlisted.listing
    rw [Service.watchHistory_of_hasUser hann, Database.watchListing, hbefore] at hlist
    have hone : listed = [seenOnce] := (Except.ok.inj (Prod.mk.inj hlist).1).symm.trans (by decide)
    rw [hagain, hone]
    rfl

/-- An entry that is a day and an hour old is not in the window, and yet the video does not stand in the listing any more. -/
theorem not_entersInFront :
    world.db = replay {} steps ∧ (steps.map (·.around.now)).Pairwise (· ≤ ·) ∧ (∀ step ∈ steps, step.around.now ≤ world.now) ∧
      world.db.HasUser "ann" ∧ watching.1 = .ok seenTwice ∧
      world.now.minus (Settings.dedupHours {}) Duration.hour = .ok (101 * Duration.hour) ∧
      ¬Database.EntersInFront "ann" 1 (101 * Duration.hour) world.db watching.2.db := by
  have hann : world.db.HasUser "ann" := by decide
  refine ⟨rfl, by decide, by decide, hann, by decide, by decide, ?_⟩
  have hkeyed : world.db.Keyed := keyed_replay {} steps
  have hrefs : world.db.NoDangling := noDangling_replay {} steps
  have hvideo : world.db.video? 1 = some seenOnce := by decide
  have hclock : ∀ e ∈ world.db.watchRows "ann", e.timestamp ≤ world.now := by decide
  have hafter : watching.2.db = world.db.afterWatch "ann" seenOnce (101 * Duration.hour) world.now := by decide
  rw [hafter, hkeyed.entersInFront_iff hrefs hvideo _ hclock]
  decide

end NextDay

end VideoShare
