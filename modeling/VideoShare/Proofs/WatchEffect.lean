import VideoShare.Proofs.ScoreTables
import VideoShare.Proofs.Services

/-!
# The effect of a watch

A watch changes the row of the video, and for a registered user three tables more: one row in each table of scores, and the user's
entries for the video in the watch history. What is said of a table here names the rows that are in it afterwards; as no two rows
have one key, that is the whole table. A watch that fails changes nothing.
-/

namespace VideoShare

open Database (nextScore)

/-- One more point for a user and a key: the row of the two has the next score, and every other row stays. -/
def PointAdded (user key : String) (rows rows' : List Score) : Prop :=
  ∀ s, s ∈ rows' ↔ s = ⟨user, key, nextScore rows user key⟩ ∨ s ∈ rows ∧ ¬(s.userId = user ∧ s.key = key)

/-- A new entry for a user and a video: its id is above all others, it is dated now, and it replaces the entries of the user for the
video that are later than the window's beginning. -/
def EntryRenewed (user : String) (video : Int) (since now : Instant) (entries entries' : List Watch) : Prop :=
  ∃ id, (∀ e ∈ entries, e.id < id) ∧
    ∀ e, e ∈ entries' ↔
      e = ⟨id, user, video, now⟩ ∨ e ∈ entries ∧ ¬(e.userId = user ∧ e.videoId = video ∧ since < e.timestamp)

/-- What a watch does to the scores and the watch history of a registered user. -/
structure Remembered (user : String) (v : Video) (since now : Instant) (db db' : Database) : Prop where
  category : PointAdded user v.category db.categoryScores db'.categoryScores
  language : PointAdded user v.language db.languageScores db'.languageScores
  history : EntryRenewed user v.id since now db.watches db'.watches

/-- Who watches is registered. -/
def WatchedBy (viewer : Option String) (user : String) (w : World) : Prop := viewer = some user ∧ w.db.HasUser user

/-- What a watch of a video does to the world. Beside the four tables nothing changes, and for a viewer who is nobody, or unknown,
only the row of the video does. -/
structure Watched (s : Settings) (v : Video) (viewer : Option String) (w w' : World) : Prop where
  viewed : ∀ x, x ∈ w'.db.videos ↔ x = addView v ∨ x ∈ w.db.videos ∧ x.id ≠ v.id
  remembered : ∀ user, WatchedBy viewer user w →
    ∃ since, w.now.minus s.dedupHours Duration.hour = .ok since ∧ Remembered user v since w.now w.db w'.db
  unremembered : (∀ user, ¬WatchedBy viewer user w) → w' = { w with db := { w.db with videos := w'.db.videos } }
  beside : w' = { w with
    db := { w.db with
      videos := w'.db.videos
      categoryScores := w'.db.categoryScores
      languageScores := w'.db.languageScores
      watches := w'.db.watches } }
  keyed : w'.db.Keyed

/-- One more view fits into its column, and for a registered viewer the beginning of the window is a date. -/
def Watchable (s : Settings) (v : Video) (viewer : Option String) (w : World) : Prop :=
  fitsColumn (v.views + 1) = true ∧
    ∀ user, WatchedBy viewer user w → ∃ since, w.now.minus s.dedupHours Duration.hour = .ok since

/-! ## The tables after a watch -/

namespace Database

variable {db : Database}

/-- A video that changes is the only row that does. -/
theorem Keyed.mem_updateVideo (h : db.Keyed) {v : Video} (hv : v ∈ db.videos) (f : Video → Video) {x : Video} :
    x ∈ (db.updateVideo v.id f).videos ↔ x = f v ∨ x ∈ db.videos ∧ x.id ≠ v.id :=
  mem_map_at (by simp) hv h.videos

/-- The new entry in the place of those in the window. -/
theorem entryRenewed_refreshWatch (db : Database) (user : String) (video : Int) (since now : Instant) :
    EntryRenewed user video since now db.watches (db.refreshWatch user video since now).watches := by
  refine ⟨db.nextWatchId, fun e he => lt_nextId (List.mem_map_of_mem he), fun e => ?_⟩
  rw [refreshWatch, List.mem_append, List.mem_filter, List.mem_singleton, or_comm]
  simp [imp_iff_not_or, or_assoc]

/-- The tables after a registered user has watched a video. -/
theorem Keyed.remembered (h : db.Keyed) (user : String) (v : Video) (since now : Instant) :
    Remembered user v since now db ((db.rememberWatch user v since now).updateVideo v.id addView) where
  category _ := mem_countUp_iff h.categoryScores
  language _ := mem_countUp_iff h.languageScores
  history := entryRenewed_refreshWatch (db.countWatch user v.category v.language) user v.id since now

end Database

namespace Service

variable {s : Settings} {videoId : Int} {viewer : Option String} {w w' : World}

/-! ## Watches that answer -/

/-- What a watch that answered did. -/
theorem watched_of_ok {a : Video} (hkeyed : w.db.Keyed) (h : watch s videoId viewer w = (.ok a, w')) :
    ∃ v ∈ w.db.videos, v.id = videoId ∧ fitsColumn videoId = true ∧ a = addView v ∧ Watchable s v viewer w ∧
      Watched s v viewer w w' := by
  obtain ⟨v, hfit, hv, hviews, rfl, hcases⟩ := watch_eq_ok h
  obtain ⟨hmem, rfl⟩ := Database.video?_eq_some hv
  refine ⟨v, hmem, rfl, hfit, rfl, ?_⟩
  rcases hcases with ⟨u, since, rfl, hu, hsince, rfl⟩ | ⟨hunknown, rfl⟩
  · refine ⟨⟨hviews, fun _ _ => ⟨since, hsince⟩⟩, ?_⟩
    have hremembered : (w.db.rememberWatch u v since w.now).Keyed := (hkeyed.countWatch _ _ _).refreshWatch _ _ _ _
    refine
      { viewed := fun x => hremembered.mem_updateVideo hmem addView
        remembered := ?_
        unremembered := fun hnobody => absurd ⟨rfl, hu⟩ (hnobody u)
        beside := rfl
        keyed := hremembered.updateVideo _ fun _ => rfl }
    rintro user ⟨huser, -⟩
    obtain rfl := Option.some.inj huser
    exact ⟨since, hsince, hkeyed.remembered u v since w.now⟩
  · have hnobody : ∀ user, ¬WatchedBy viewer user w := fun user huser => hunknown user huser.1 huser.2
    refine ⟨⟨hviews, fun user huser => absurd huser (hnobody user)⟩, ?_⟩
    exact
      { viewed := fun x => hkeyed.mem_updateVideo hmem addView
        remembered := fun user huser => absurd huser (hnobody user)
        unremembered := fun _ => rfl
        beside := rfl
        keyed := hkeyed.updateVideo _ fun _ => rfl }

/-- A video that can be watched is watched. -/
theorem watch_of_watchable {v : Video} (hfit : fitsColumn videoId = true) (hv : w.db.video? videoId = some v)
    (h : Watchable s v viewer w) : ∃ w', watch s videoId viewer w = (.ok (addView v), w') := by
  obtain ⟨hviews, hwindow⟩ := h
  by_cases hviewer : ∃ user, WatchedBy viewer user w
  · obtain ⟨user, rfl, huser⟩ := hviewer
    obtain ⟨since, hsince⟩ := hwindow user ⟨rfl, huser⟩
    exact ⟨_, watch_eq_ok_iff.mpr ⟨v, hfit, hv, hviews, rfl, Or.inl ⟨user, since, rfl, huser, hsince, rfl⟩⟩⟩
  · have hnobody : ∀ user, viewer = some user → ¬w.db.HasUser user := fun user heq huser => hviewer ⟨user, heq, huser⟩
    exact ⟨_, watch_eq_ok_iff.mpr ⟨v, hfit, hv, hviews, rfl, Or.inr ⟨hnobody, rfl⟩⟩⟩

/-! ## Watches that fail -/

/-- A watch changes nothing but tables. -/
theorem keeps_watch {γ : Type} {f : World → γ} (hf : ∀ w db, f { w with db := db } = f w) (s : Settings) (videoId : Int)
    (viewer : Option String) : Keeps f (watch s videoId viewer) := by
  have hmodify := keeps_modifyDatabase hf
  have hremember : ∀ v, Keeps f (rememberViewer s viewer v) := by
    intro v
    cases viewer with
    | none => exact Keeps.pure ()
    | some u =>
      refine Keeps.bind keeps_database fun db => ?_
      split
      · exact Keeps.bind (hmodify _) fun _ => Keeps.bind keeps_now fun _ => Keeps.bind (keeps_lift _) fun _ => hmodify _
      · exact Keeps.pure ()
  rw [watch_eq]
  refine keeps_transaction hf (Keeps.bind (keeps_video _) fun v => Keeps.bind (hremember v) fun _ => ?_)
  exact Keeps.bind (keeps_lift _) fun _ => Keeps.bind (hmodify _) fun _ => Keeps.pure _

/-- A watch that fails leaves the world as it was. -/
theorem world_of_watch_error {e : Failure} (h : watch s videoId viewer w = (.error e, w')) : w' = w := by
  have hdb : w'.db = w.db := transaction_error_db h
  have hbeside : { w' with db := {} } = { w with db := {} } :=
    (keeps_watch (f := fun w => { w with db := {} }) (fun _ _ => rfl) s videoId viewer).of_eq h
  calc w' = { { w' with db := {} } with db := w'.db } := rfl
    _ = { { w with db := {} } with db := w.db } := by rw [hbeside, hdb]
    _ = w := rfl

/-- A watch whose look-up fails is no more than that. -/
theorem watch_of_video_error {e : Failure} (h : video videoId w = (.error e, w)) :
    watch s videoId viewer w = (.error e, w) :=
  transaction_eq_error.mpr ⟨w, bind_of_error h, rfl⟩

end Service

/-- What becomes of a watch, whatever the world, the video and the viewer: it is refused for a video that is not there, answers
with the video for one that can be watched, and otherwise fails; and only where it answers anything changes. -/
structure WatchEnds (s : Settings) (videoId : Int) (viewer : Option String) (w : World) : Prop where
  watched : ∀ v ∈ w.db.videos, v.id = videoId → fitsColumn videoId = true → Watchable s v viewer w →
    ∃ w', Service.watch s videoId viewer w = (.ok (addView v), w') ∧ Watched s v viewer w w'
  unwatchable : ∀ v ∈ w.db.videos, v.id = videoId → ¬Watchable s v viewer w →
    ∃ e, Service.watch s videoId viewer w = (.error e, w)
  unknown : ¬w.db.HasVideo videoId → fitsColumn videoId = true →
    Service.watch s videoId viewer w = (.error (.refused .noVideo), w)
  tooWide : fitsColumn videoId = false → Service.watch s videoId viewer w = (.error .integerTooWide, w)

/-- The exact effect of a watch, for every video and every viewer. -/
theorem watch_ends (s : Settings) (videoId : Int) (viewer : Option String) (w : World) (hkeyed : w.db.Keyed) :
    WatchEnds s videoId viewer w where
  watched := by
    rintro v hv rfl hfit hwatchable
    obtain ⟨found, hfound⟩ : ∃ found, w.db.video? v.id = some found :=
      Option.isSome_iff_exists.mp (List.find?_isSome.mpr ⟨v, hv, by simp⟩)
    obtain ⟨hmem, hid⟩ := Database.video?_eq_some hfound
    obtain rfl := hkeyed.eq_of_video_id hmem hv hid
    obtain ⟨w', hw'⟩ := Service.watch_of_watchable hfit hfound hwatchable
    obtain ⟨v', hv', hid', -, -, -, hwatched⟩ := Service.watched_of_ok hkeyed hw'
    obtain rfl := hkeyed.eq_of_video_id hv' hv hid'
    exact ⟨w', hw', hwatched⟩
  unwatchable := by
    rintro v hv rfl hnot
    rcases hw : Service.watch s v.id viewer w with ⟨e | a, w'⟩
    · exact ⟨e, by rw [Service.world_of_watch_error hw]⟩
    · obtain ⟨v', hv', hid', -, -, hwatchable, -⟩ := Service.watched_of_ok hkeyed hw
      obtain rfl := hkeyed.eq_of_video_id hv' hv hid'
      exact absurd hwatchable hnot
  unknown := by
    intro hunknown hfit
    refine Service.watch_of_video_error ?_
    have hnone : w.db.video? videoId = none := by
      refine List.find?_eq_none.mpr fun v hv hid => hunknown ⟨v, hv, by simpa using hid⟩
    simp only [Service.video, hfit, if_true, hnone]
  tooWide := by
    intro hwide
    exact Service.watch_of_video_error (by simp only [Service.video, hwide, Bool.false_eq_true, if_false])

/-! ### A day and a second day of watching -/

namespace SecondDay

def hills : Video := ⟨1, "ann", "Hills", none, "Travel", "en", 60, 7, 0⟩

def lakes : Video := { hills with id := 2, title := "Lakes" }

/-- Ann has watched the hills at the beginning of the window and just after it, and Bob has watched them an hour ago. -/
def tables : Database where
  users := [⟨"ann", "Ann", none, none, "ROLE_USER", 0⟩, ⟨"bob", "Bob", none, none, "ROLE_USER", 0⟩]
  videos := [hills, lakes]
  categoryScores := [⟨"bob", "Travel", 5⟩, ⟨"ann", "Travel", 3⟩]
  watches :=
    [⟨1, "ann", 1, 24 * Duration.hour⟩, ⟨2, "ann", 1, 24 * Duration.hour + 1⟩, ⟨3, "bob", 1, 47 * Duration.hour⟩]

def world : World := { db := tables, now := 48 * Duration.hour }

theorem keyed_tables : tables.Keyed := by
  constructor <;> decide

theorem watchable_hills : Watchable {} hills (some "ann") world :=
  ⟨by decide, fun _ _ => ⟨24 * Duration.hour, by decide⟩⟩

/-- Ann watches the hills: the entry at the window's beginning stays and the one after it goes, Bob's rows stay, and Ann gets a
first point for the language. -/
theorem one_entry_replaced :
    tables.Keyed ∧ hills ∈ tables.videos ∧ fitsColumn hills.id = true ∧ Watchable {} hills (some "ann") world ∧
      ∃ w', Service.watch {} 1 (some "ann") world = (.ok { hills with views := 8 }, w') ∧
        (∀ s, s ∈ w'.db.categoryScores ↔ s = ⟨"ann", "Travel", 4⟩ ∨ s = ⟨"bob", "Travel", 5⟩) ∧
        (∀ s, s ∈ w'.db.languageScores ↔ s = ⟨"ann", "en", 1⟩) ∧
        (⟨1, "ann", 1, 24 * Duration.hour⟩ : Watch) ∈ w'.db.watches ∧
        (⟨2, "ann", 1, 24 * Duration.hour + 1⟩ : Watch) ∉ w'.db.watches ∧
        (⟨3, "bob", 1, 47 * Duration.hour⟩ : Watch) ∈ w'.db.watches := by
  have hends := watch_ends {} 1 (some "ann") world keyed_tables
  refine ⟨keyed_tables, by decide, by decide, watchable_hills, ?_⟩
  obtain ⟨w', hw', hwatched⟩ := hends.watched hills (by decide) rfl (by decide) watchable_hills
  obtain ⟨since, hsince, hremembered⟩ := hwatched.remembered "ann" ⟨rfl, by decide⟩
  obtain rfl : 24 * Duration.hour = since := Except.ok.inj ((by decide : _ = _).trans hsince)
  have hcategory : nextScore world.db.categoryScores "ann" hills.category = 4 := by decide
  have hlanguage : nextScore world.db.languageScores "ann" hills.language = 1 := by decide
  obtain ⟨id, hnew, hentries⟩ := hremembered.history
  refine ⟨w', hw', fun s => ?_, fun s => ?_, ?_, ?_, ?_⟩
  · rw [hremembered.category s, hcategory]
    simp only [world, hills, tables, List.mem_cons, List.not_mem_nil, or_false]
    constructor
    · rintro (rfl | ⟨rfl | rfl, hother⟩)
      · exact Or.inl rfl
      · exact Or.inr rfl
      · simp at hother
    · rintro (rfl | rfl)
      · exact Or.inl rfl
      · exact Or.inr ⟨Or.inl rfl, by simp⟩
  · rw [hremembered.language s, hlanguage]
    simp [world, hills, tables]
  · exact (hentries _).mpr (Or.inr (by decide))
  · intro hstays
    rcases (hentries _).mp hstays with heq | ⟨-, hother⟩
    · have hbelow : 2 < id := hnew ⟨2, "ann", 1, 24 * Duration.hour + 1⟩ (by decide)
      simp only [Watch.mk.injEq] at heq
      omega
    · exact hother (by decide)
  · exact (hentries _).mpr (Or.inr (by decide))

end SecondDay

/-! ### The first noon, when a day ago was no date -/

namespace FirstNoon

def hills : Video := ⟨1, "ann", "Hills", none, "Travel", "en", 60, 0, 0⟩

/-- Ann has the greatest score for English. -/
def tables : Database where
  users := [⟨"ann", "Ann", none, none, "ROLE_USER", 0⟩]
  videos := [hills]
  languageScores := [⟨"ann", "en", scoreLimit⟩]

def world : World := { db := tables, now := 12 * Duration.hour }

/-- Two days later. -/
def later : World := { db := tables, now := 60 * Duration.hour }

/-- Not every watch of a video that is not there is refused for this: the id may be too wide to be looked up. Not every watch of a
video by a registered user answers: a day ago may be no date. And not every watch that answers adds a point: the greatest score
stays. -/
theorem watches_out_of_line :
    (¬world.db.HasVideo 9223372036854775808 ∧
        Service.watch {} 9223372036854775808 none world = (.error .integerTooWide, world)) ∧
      (hills ∈ world.db.videos ∧ fitsColumn (hills.views + 1) = true ∧ world.db.HasUser "ann" ∧
        Service.watch {} 1 (some "ann") world = (.error (.shift .outsideCalendar), world)) ∧
      ((Service.watch {} 1 (some "ann") later).1 = .ok (addView hills) ∧
        Database.scoreOf (Service.watch {} 1 (some "ann") later).2.db.languageScores "ann" "en" =
          Database.scoreOf later.db.languageScores "ann" "en") := by
  refine ⟨⟨by decide, by decide⟩, ⟨by decide, by decide, by decide, by decide⟩, by decide, ?_⟩
  decide

end FirstNoon

end VideoShare
