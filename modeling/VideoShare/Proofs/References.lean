import VideoShare.Proofs.Calls

/-!
# References

The database checks no references, so that none dangles is the work of the calls. It is an invariant of every call: a row is added
for users and videos that were looked up, users and videos keep their ids while they change, and who removes a user or a video
removes every row that names one of them. A video whose id was given out before therefore begins without likes and without entries
in watch histories: what named the old video went with it.
-/

namespace VideoShare

namespace Database

/-- Every user and every video that a row names is in the tables. -/
structure NoDangling (db : Database) : Prop where
  owners : ∀ v ∈ db.videos, db.HasUser v.ownerId
  likers : ∀ l ∈ db.likes, db.HasUser l.userId
  likedVideos : ∀ l ∈ db.likes, db.HasVideo l.videoId
  watchers : ∀ h ∈ db.watches, db.HasUser h.userId
  watchedVideos : ∀ h ∈ db.watches, db.HasVideo h.videoId
  categoryScores : ∀ s ∈ db.categoryScores, db.HasUser s.userId
  languageScores : ∀ s ∈ db.languageScores, db.HasUser s.userId
  subscribers : ∀ s ∈ db.subscriptions, db.HasUser s.subscriberId
  channels : ∀ s ∈ db.subscriptions, db.HasUser s.channelId
  searchers : ∀ s ∈ db.searches, db.HasUser s.userId

/-! ## Users and videos that stay -/

/-- A user whose row changes stays, under the same id. -/
theorem HasUser.updateUser {db : Database} {id : String} (h : db.HasUser id) (changed : String) {f : User → User}
    (hf : ∀ u, (f u).id = u.id) : (db.updateUser changed f).HasUser id := by
  obtain ⟨u, hu, rfl⟩ := h
  refine ⟨if u.id == changed then f u else u, List.mem_map_of_mem hu, ?_⟩
  split
  · exact hf u
  · rfl

/-- A video whose row changes stays, under the same id. -/
theorem HasVideo.updateVideo {db : Database} {id : Int} (h : db.HasVideo id) (changed : Int) {f : Video → Video}
    (hf : ∀ v, (f v).id = v.id) : (db.updateVideo changed f).HasVideo id := by
  obtain ⟨v, hv, rfl⟩ := h
  refine ⟨if v.id == changed then f v else v, List.mem_map_of_mem hv, ?_⟩
  split
  · exact hf v
  · rfl

/-- A video in the tables after a change is one of those before it, changed or not. -/
theorem mem_updateVideo {db : Database} {id : Int} {f : Video → Video} {v : Video}
    (h : v ∈ (db.updateVideo id f).videos) : ∃ v₀ ∈ db.videos, v = f v₀ ∨ v = v₀ := by
  obtain ⟨v₀, hv₀, rfl⟩ := List.mem_map.mp h
  refine ⟨v₀, hv₀, ?_⟩
  split
  · exact Or.inl rfl
  · exact Or.inr rfl

/-- A user stays when somebody else leaves. -/
theorem HasUser.removeUser {db : Database} {id gone : String} (h : db.HasUser id) (hne : id ≠ gone) :
    (db.removeUser gone).HasUser id := by
  obtain ⟨u, hu, rfl⟩ := h
  exact ⟨u, List.mem_filter.mpr ⟨hu, by simpa using hne⟩, rfl⟩

/-- A video stays when others are removed. -/
theorem HasVideo.removeVideos {db : Database} {id : Int} {gone : List Int} (h : db.HasVideo id) (hne : id ∉ gone) :
    (db.removeVideos gone).HasVideo id := by
  obtain ⟨v, hv, rfl⟩ := h
  exact ⟨v, List.mem_filter.mpr ⟨hv, by simpa using hne⟩, rfl⟩

/-- Counting up names the users that were named before, and the one it counts for. -/
theorem mem_countUp {rows : List Score} {user key : String} {s : Score} (h : s ∈ countUp user key rows) :
    s.userId = user ∨ ∃ s₀ ∈ rows, s.userId = s₀.userId := by
  unfold countUp at h
  split at h
  · obtain ⟨s₀, hs₀, rfl⟩ := List.mem_map.mp h
    refine Or.inr ⟨s₀, hs₀, ?_⟩
    split <;> rfl
  · rcases List.mem_append.mp h with h | h
    · exact Or.inr ⟨s, h, rfl⟩
    · rw [List.mem_singleton] at h
      exact Or.inl (by rw [h])

/-- Setting a score names the users that were named before. -/
theorem mem_setScore {rows : List Score} {user key : String} {score : Int} {s : Score}
    (h : s ∈ setScore user key score rows) : ∃ s₀ ∈ rows, s.userId = s₀.userId := by
  unfold setScore at h
  split at h
  · exact ⟨s, (List.mem_filter.mp h).1, rfl⟩
  · obtain ⟨s₀, hs₀, rfl⟩ := List.mem_map.mp h
    refine ⟨s₀, hs₀, ?_⟩
    split <;> rfl

/-! ## Every change keeps the references -/

namespace NoDangling

variable {db : Database}

theorem empty : NoDangling {} := by
  constructor <;> simp

/-- A user is added: all references hold on to the rows they had. -/
theorem addUser (h : db.NoDangling) (u : User) : { db with users := db.users ++ [u] }.NoDangling := by
  have stays : ∀ {id}, db.HasUser id → { db with users := db.users ++ [u] }.HasUser id := by
    rintro id ⟨u₀, hu₀, rfl⟩
    exact ⟨u₀, List.mem_append_left _ hu₀, rfl⟩
  exact { h with
    owners := fun v hv => stays (h.owners v hv)
    likers := fun l hl => stays (h.likers l hl)
    watchers := fun e he => stays (h.watchers e he)
    categoryScores := fun s hs => stays (h.categoryScores s hs)
    languageScores := fun s hs => stays (h.languageScores s hs)
    subscribers := fun s hs => stays (h.subscribers s hs)
    channels := fun s hs => stays (h.channels s hs)
    searchers := fun s hs => stays (h.searchers s hs) }

theorem updateUser (h : db.NoDangling) (id : String) {f : User → User} (hf : ∀ u, (f u).id = u.id) :
    (db.updateUser id f).NoDangling where
  owners v hv := (h.owners v hv).updateUser id hf
  likers l hl := (h.likers l hl).updateUser id hf
  likedVideos := h.likedVideos
  watchers e he := (h.watchers e he).updateUser id hf
  watchedVideos := h.watchedVideos
  categoryScores s hs := (h.categoryScores s hs).updateUser id hf
  languageScores s hs := (h.languageScores s hs).updateUser id hf
  subscribers s hs := (h.subscribers s hs).updateUser id hf
  channels s hs := (h.channels s hs).updateUser id hf
  searchers s hs := (h.searchers s hs).updateUser id hf

/-- A video is added whose owner is in the tables. -/
theorem addVideo (h : db.NoDangling) {v : Video} (howner : db.HasUser v.ownerId) : (db.addVideo v).NoDangling := by
  have stays : ∀ {id}, db.HasVideo id → (db.addVideo v).HasVideo id := by
    rintro id ⟨v₀, hv₀, rfl⟩
    exact ⟨v₀, List.mem_append_left _ hv₀, rfl⟩
  exact { h with
    owners := List.forall_mem_append.mpr ⟨h.owners, List.forall_mem_singleton.mpr howner⟩
    likedVideos := fun l hl => stays (h.likedVideos l hl)
    watchedVideos := fun e he => stays (h.watchedVideos e he) }

/-- A video changes, and not its id nor its owner. -/
theorem updateVideo (h : db.NoDangling) (id : Int) {f : Video → Video}
    (hf : ∀ v, (f v).id = v.id ∧ (f v).ownerId = v.ownerId) : (db.updateVideo id f).NoDangling := by
  refine { h with
    owners := fun v hv => ?_
    likedVideos := fun l hl => (h.likedVideos l hl).updateVideo id fun v => (hf v).1
    watchedVideos := fun e he => (h.watchedVideos e he).updateVideo id fun v => (hf v).1 }
  obtain ⟨v₀, hv₀, rfl | rfl⟩ := mem_updateVideo hv
  · rw [(hf v₀).2]
    exact h.owners v₀ hv₀
  · exact h.owners _ hv₀

/-- Videos are removed with all that names them. -/
theorem removeVideos (h : db.NoDangling) (ids : List Int) : (db.removeVideos ids).NoDangling := by
  refine { h with
    owners := fun v hv => h.owners v (List.mem_filter.mp hv).1
    likers := fun l hl => h.likers l (List.mem_filter.mp hl).1
    likedVideos := fun l hl => ?_
    watchers := fun e he => h.watchers e (List.mem_filter.mp he).1
    watchedVideos := fun e he => ?_ }
  · obtain ⟨hl, hkept⟩ := List.mem_filter.mp hl
    exact (h.likedVideos l hl).removeVideos (by simpa using hkept)
  · obtain ⟨he, hkept⟩ := List.mem_filter.mp he
    exact (h.watchedVideos e he).removeVideos (by simpa using hkept)

/-- A user without videos is removed with all that names the user. -/
theorem removeUser (h : db.NoDangling) {id : String} (hnone : ∀ v ∈ db.videos, v.ownerId ≠ id) :
    (db.removeUser id).NoDangling where
  owners v hv := (h.owners v hv).removeUser (hnone v hv)
  likers l hl := by
    obtain ⟨hl, hkept⟩ := List.mem_filter.mp hl
    exact (h.likers l hl).removeUser (by simpa using hkept)
  likedVideos l hl := h.likedVideos l (List.mem_filter.mp hl).1
  watchers e he := by
    obtain ⟨he, hkept⟩ := List.mem_filter.mp he
    exact (h.watchers e he).removeUser (by simpa using hkept)
  watchedVideos e he := h.watchedVideos e (List.mem_filter.mp he).1
  categoryScores s hs := by
    obtain ⟨hs, hkept⟩ := List.mem_filter.mp hs
    exact (h.categoryScores s hs).removeUser (by simpa using hkept)
  languageScores s hs := by
    obtain ⟨hs, hkept⟩ := List.mem_filter.mp hs
    exact (h.languageScores s hs).removeUser (by simpa using hkept)
  subscribers s hs := by
    obtain ⟨hs, hkept⟩ := List.mem_filter.mp hs
    simp only [Bool.not_eq_true', Bool.or_eq_false_iff, beq_eq_false_iff_ne] at hkept
    exact (h.subscribers s hs).removeUser hkept.1
  channels s hs := by
    obtain ⟨hs, hkept⟩ := List.mem_filter.mp hs
    simp only [Bool.not_eq_true', Bool.or_eq_false_iff, beq_eq_false_iff_ne] at hkept
    exact (h.channels s hs).removeUser hkept.2
  searchers s hs := by
    obtain ⟨hs, hkept⟩ := List.mem_filter.mp hs
    exact (h.searchers s hs).removeUser (by simpa using hkept)

/-- No video of a user is left when those the user owns are removed. -/
theorem ownerId_ne_of_mem_removeVideos {id : String} {v : Video} (hv : v ∈ (db.removeVideos (db.ownedVideos id)).videos) :
    v.ownerId ≠ id := by
  obtain ⟨hthere, hkept⟩ := List.mem_filter.mp hv
  intro howner
  have howned : v.id ∈ db.ownedVideos id :=
    List.mem_map_of_mem (List.mem_filter.mpr ⟨hthere, by simpa using howner⟩)
  simp [howned] at hkept

theorem addLike (h : db.NoDangling) {l : Like} (hu : db.HasUser l.userId) (hv : db.HasVideo l.videoId) :
    { db with likes := db.likes ++ [l] }.NoDangling :=
  { h with
    likers := List.forall_mem_append.mpr ⟨h.likers, List.forall_mem_singleton.mpr hu⟩
    likedVideos := List.forall_mem_append.mpr ⟨h.likedVideos, List.forall_mem_singleton.mpr hv⟩ }

theorem removeLike (h : db.NoDangling) (user : String) (video : Int) : (db.removeLike user video).NoDangling :=
  { h with
    likers := fun l hl => h.likers l (List.mem_filter.mp hl).1
    likedVideos := fun l hl => h.likedVideos l (List.mem_filter.mp hl).1 }

theorem countWatch (h : db.NoDangling) {user : String} (hu : db.HasUser user) (category language : String) :
    (db.countWatch user category language).NoDangling := by
  refine { h with categoryScores := fun s hs => ?_, languageScores := fun s hs => ?_ }
  · rcases mem_countUp hs with hs | ⟨s₀, hs₀, hs⟩
    · exact hs ▸ hu
    · exact hs ▸ h.categoryScores s₀ hs₀
  · rcases mem_countUp hs with hs | ⟨s₀, hs₀, hs⟩
    · exact hs ▸ hu
    · exact hs ▸ h.languageScores s₀ hs₀

theorem refreshWatch (h : db.NoDangling) {user : String} {video : Int} (hu : db.HasUser user) (hv : db.HasVideo video)
    (since t : Instant) : (db.refreshWatch user video since t).NoDangling :=
  { h with
    watchers := List.forall_mem_append.mpr
      ⟨fun e he => h.watchers e (List.mem_filter.mp he).1, List.forall_mem_singleton.mpr hu⟩
    watchedVideos := List.forall_mem_append.mpr
      ⟨fun e he => h.watchedVideos e (List.mem_filter.mp he).1, List.forall_mem_singleton.mpr hv⟩ }

theorem decayCategory (h : db.NoDangling) {db' : Database} {user category : String} {f : Number.Quantity}
    {answer : Option Int} (hd : db.decayCategory user category f = .ok (answer, db')) : db'.NoDangling := by
  rcases decayCategory_cases hd with rfl | ⟨score, rfl⟩
  · exact h
  · refine { h with categoryScores := fun s hs => ?_ }
    obtain ⟨s₀, hs₀, hs⟩ := mem_setScore hs
    exact hs ▸ h.categoryScores s₀ hs₀

theorem addSubscription (h : db.NoDangling) {s : Subscription} (hu : db.HasUser s.subscriberId)
    (hc : db.HasUser s.channelId) : (db.addSubscription s).NoDangling :=
  { h with
    subscribers := List.forall_mem_append.mpr ⟨h.subscribers, List.forall_mem_singleton.mpr hu⟩
    channels := List.forall_mem_append.mpr ⟨h.channels, List.forall_mem_singleton.mpr hc⟩ }

theorem removeSubscription (h : db.NoDangling) (user channel : String) :
    (db.removeSubscription user channel).NoDangling :=
  { h with
    subscribers := fun s hs => h.subscribers s (List.mem_filter.mp hs).1
    channels := fun s hs => h.channels s (List.mem_filter.mp hs).1 }

theorem replaceSearches (h : db.NoDangling) (ids : List Int) {user : String} (hu : db.HasUser user) (option : String)
    (t : Instant) : (db.replaceSearches ids user option t).NoDangling :=
  { h with
    searchers := List.forall_mem_append.mpr
      ⟨fun s hs => h.searchers s (List.mem_filter.mp hs).1, List.forall_mem_singleton.mpr hu⟩ }

theorem redateSearch (h : db.NoDangling) (id : Int) (t : Instant) : (db.redateSearch id t).NoDangling := by
  refine { h with searchers := fun s hs => ?_ }
  obtain ⟨s₀, hs₀, rfl⟩ := List.mem_map.mp hs
  split
  · exact h.searchers s₀ hs₀
  · exact h.searchers s₀ hs₀

theorem removeSearch (h : db.NoDangling) (id : Int) : (db.removeSearch id).NoDangling :=
  { h with searchers := fun s hs => h.searchers s (List.mem_filter.mp hs).1 }

end NoDangling

end Database

namespace Call

/-- Every call keeps the references of the tables. -/
theorem Effect.noDangling {s : Settings} {w : World} {c : Call} {answer : Except Failure Unit} {db : Database}
    (h : c.Effect s w answer db) (hw : w.db.NoDangling) : db.NoDangling := by
  cases h with
  | failed => exact hw
  | register => exact hw.addUser _
  | changeUser => exact hw.updateUser _ fun _ => rfl
  | deleteUser => exact (hw.removeVideos _).removeUser fun v hv => Database.NoDangling.ownerId_ne_of_mem_removeVideos hv
  | addLike hu hv => exact hw.addLike hu hv
  | takeLike => exact hw.removeLike _ _
  | dislike => exact hw.removeLike _ _
  | dislikeUnseen => exact hw
  | notInterested _ _ hdecay => exact hw.decayCategory hdecay
  | subscribe hu hc => exact hw.addSubscription hu hc
  | subscribeAgain => exact hw
  | unsubscribe => exact hw.removeSubscription _ _
  | addSearch hu => exact hw.replaceSearches _ hu _ _
  | redateSearch => exact hw.redateSearch _ _
  | deleteSearch => exact hw.removeSearch _
  | watch hv hu =>
    obtain ⟨hv, -⟩ := Database.video?_eq_some hv
    exact ((hw.countWatch hu _ _).refreshWatch hu ⟨_, hv, rfl⟩ _ _).updateVideo _ fun _ => ⟨rfl, rfl⟩
  | watchUnknown => exact hw.updateVideo _ fun _ => ⟨rfl, rfl⟩
  | createVideo hu => exact hw.addVideo hu
  | changeVideo => exact hw.updateVideo _ fun _ => ⟨rfl, rfl⟩
  | deleteVideo => exact hw.removeVideos _

/-- A video that is in the tables after a call was there before, under its id, or the call made it: then its id was no video's,
and nothing else in the tables is new. -/
theorem Effect.video_old_or_new {s : Settings} {w : World} {c : Call} {answer : Except Failure Unit} {db : Database}
    (h : c.Effect s w answer db) {v : Video} (hv : v ∈ db.videos) :
    w.db.HasVideo v.id ∨ ¬w.db.HasVideo v.id ∧ db = w.db.addVideo v := by
  have stays : v ∈ w.db.videos → w.db.HasVideo v.id := fun hv => ⟨v, hv, rfl⟩
  have changed : ∀ {id : Int} (f : Video → Video), (∀ v, (f v).id = v.id) → v ∈ (w.db.updateVideo id f).videos →
      w.db.HasVideo v.id := by
    intro id f hf hv
    obtain ⟨v₀, hv₀, rfl | rfl⟩ := Database.mem_updateVideo hv
    · exact ⟨v₀, hv₀, (hf v₀).symm⟩
    · exact ⟨v, hv₀, rfl⟩
  cases h with
  | createVideo hu =>
    rcases List.mem_append.mp hv with hv | hv
    · exact Or.inl (stays hv)
    · rw [List.mem_singleton] at hv
      rw [hv]
      exact Or.inr ⟨Database.not_hasVideo_nextVideoId _, rfl⟩
  | watch => exact Or.inl (changed addView (fun _ => rfl) hv)
  | watchUnknown => exact Or.inl (changed addView (fun _ => rfl) hv)
  | @changeVideo video changes => exact Or.inl (changed changes.apply (fun _ => rfl) hv)
  | deleteUser => exact Or.inl (stays (List.mem_filter.mp hv).1)
  | deleteVideo => exact Or.inl (stays (List.mem_filter.mp hv).1)
  | notInterested _ _ hdecay =>
    rcases Database.decayCategory_cases hdecay with rfl | ⟨score, rfl⟩
    · exact Or.inl (stays hv)
    · exact Or.inl (stays hv)
  | _ => exact Or.inl (stays hv)

end Call

/-- References hold after every replay. -/
theorem noDangling_replay (s : Settings) (steps : List Step) : (replay s steps).NoDangling :=
  replay_induction Database.NoDangling.empty (fun _ _ _ _ h hw => h.noDangling hw) steps

/-! ## New videos -/

/-- No like and no entry in a watch history names a video. -/
def Database.Unnoticed (db : Database) (video : Int) : Prop :=
  (∀ l ∈ db.likes, l.videoId ≠ video) ∧ ∀ h ∈ db.watches, h.videoId ≠ video

/-- Where no row dangles, nothing names a video that is not there. -/
theorem Database.NoDangling.unnoticed {db : Database} (h : db.NoDangling) {video : Int} (hnone : ¬db.HasVideo video) :
    db.Unnoticed video := by
  refine ⟨fun l hl heq => hnone ?_, fun e he heq => hnone ?_⟩
  · exact heq ▸ h.likedVideos l hl
  · exact heq ▸ h.watchedVideos e he

/-- No row dangles after a replay. A video that the next step brings is unnoticed, and so is one that is made next: its id, given out
before or not, is the id of no video in the tables, and nothing in them names it. -/
theorem tables_never_dangle (s : Settings) (steps : List Step) :
    (replay s steps).NoDangling ∧
      (∀ (step : Step) (v : Video), v ∈ (step.run s (replay s steps)).videos → ¬(replay s steps).HasVideo v.id →
        (step.run s (replay s steps)).Unnoticed v.id) ∧
      ∀ (detected : Option String) (owner : String) (data : NewVideo) (thumbnail content : String) (w w' : World) (v : Video),
        w.db = replay s steps → Service.createVideo s detected owner data thumbnail content w = (.ok v, w') →
          ¬w.db.HasVideo v.id ∧ v ∈ w'.db.videos ∧ w'.db.Unnoticed v.id := by
  have hrefs := noDangling_replay s steps
  refine ⟨hrefs, ?_, ?_⟩
  · intro step v hv hnew
    have heffect := step.call.effect_perform s (step.world (replay s steps))
    -- the step added `v` and nothing else, so its likes and watches are those of before
    rcases heffect.video_old_or_new hv with hold | ⟨-, hadded⟩
    · exact absurd hold hnew
    · have hdb : step.run s (replay s steps) = (replay s steps).addVideo v := hadded
      rw [hdb]
      exact hrefs.unnoticed hnew
  · intro detected owner data thumbnail content w w' v hw h
    obtain ⟨-, -, rfl, w₁, hadd, hpush⟩ := Service.createVideo_eq_ok h
    have hdb : w'.db = w.db.addVideo (w.newVideo s detected owner data) :=
      ((Service.keeps_push (f := World.db) (fun _ _ => rfl) _ _).of_eq hpush).trans (Call.db_of_addVideo hadd)
    have hnew : ¬w.db.HasVideo w.db.nextVideoId := w.db.not_hasVideo_nextVideoId
    refine ⟨hnew, ?_, ?_⟩
    · rw [hdb]
      exact List.mem_append_right _ (List.mem_singleton_self _)
    · rw [hdb]
      exact (hw ▸ hrefs).unnoticed hnew

/-! ### An id that is given out again -/

namespace ReissuedId

def ann : NewUser := ⟨"ann", "Ann", none, none, none⟩

def hills : NewVideo := ⟨"Hills", none, "Travel", some "en", 60⟩

/-- Ann registers, makes a video, likes and watches it, and deletes it. -/
def steps : List Step :=
  [⟨{}, .register ann⟩,
    ⟨{}, .createVideo none "ann" hills "thumbnail" "content"⟩,
    ⟨{}, .like "ann" 1⟩,
    ⟨{ now := 90000000000 }, .watch 1 (some "ann")⟩,
    ⟨{}, .deleteVideo 1⟩]

/-- Ann's next video. -/
def making : Except Failure Video × World :=
  Service.createVideo {} none "ann" hills "thumbnail" "content" { db := replay {} steps }

/-- The video that Ann deleted was liked and watched. Her next one has its id, and neither the like nor the watch. -/
theorem unnoticed_under_reissued_id :
    ((replay {} (steps.take 4)).HasVideo 1 ∧ ¬(replay {} (steps.take 4)).Unnoticed 1) ∧
      making.1 = .ok (hills.row 1 "ann" "en" 0) ∧ making.2.db.Unnoticed 1 := by
  have hmade : making.1 = .ok (hills.row 1 "ann" "en" 0) := by decide +kernel
  have hnext := (tables_never_dangle {} steps).2.2 none "ann" hills "thumbnail" "content" { db := replay {} steps } making.2
    (hills.row 1 "ann" "en" 0) rfl (Prod.ext hmade rfl)
  refine ⟨⟨?_, ?_⟩, hmade, hnext.2.2⟩
  · unfold Database.HasVideo
    decide
  · unfold Database.Unnoticed
    decide

end ReissuedId

end VideoShare
