import VideoShare.Likes
import VideoShare.Proofs.Keys
import VideoShare.Proofs.StoreAndBroker
import VideoShare.SearchHistory
import VideoShare.Subscriptions
import VideoShare.Users
import VideoShare.Videos
import VideoShare.Watching

/-!
# What each call did when it answered

One statement for each call that changes the tables: what it looked up and found, what it answered, and the world it left. The
calls are transactions, but for the making of a video and the toggle of a like; a transaction that fails leaves the tables as they
were (`transaction_error_db`).
-/

namespace VideoShare

/-- The ids of the entries that a new one pushes out of a user's search history, given the most entries it may have. -/
def Database.outdatedSearches (db : Database) (limit : Int) (user : String) : List Int :=
  (dropFrom (limit - 1) (db.searchesOf user)).map (·.id)

/-- The row that a video would get that is made now. -/
def World.newVideo (w : World) (s : Settings) (detected : Option String) (owner : String) (data : NewVideo) : Video :=
  data.row w.db.nextVideoId owner (languageOfUpload s.defaultLanguage detected data.language data.title) w.now

@[simp] theorem World.newVideo_id (w : World) (s : Settings) (detected : Option String) (owner : String) (data : NewVideo) :
    (w.newVideo s detected owner data).id = w.db.nextVideoId := rfl

/-- One more view for a video. -/
def addView (v : Video) : Video := { v with views := v.views + 1 }

/-- The tables after a registered user has watched a video, but for the view. -/
def Database.rememberWatch (db : Database) (user : String) (v : Video) (since t : Instant) : Database :=
  (db.countWatch user v.category v.language).refreshWatch user v.id since t

namespace Service

/-! ## Users -/

theorem registerUser_eq_ok {s : Settings} {data : NewUser} {w w' : World} {u : User}
    (h : registerUser s data w = (.ok u, w')) :
    w.db.user? data.id = none ∧ u = data.row s w.now ∧ w' = { w with db := { w.db with users := w.db.users ++ [u] } } := by
  have hcall := transaction_eq_ok.mp h
  simp only [database_bind] at hcall
  by_cases hsome : (w.db.user? data.id).isSome = true
  · simp only [hsome, if_true] at hcall
    obtain ⟨_, _, hrefuse, -⟩ := bind_eq_ok.mp hcall
    simp at hrefuse
  · simp only [hsome, if_false, Bool.false_eq_true, now_bind] at hcall
    obtain ⟨_, w₁, hadd, hpure⟩ := bind_eq_ok.mp hcall
    obtain ⟨db, hdb, rfl⟩ := updateDatabase_eq_ok.mp hadd
    obtain ⟨rfl, rfl⟩ := pure_eq_ok.mp hpure
    have hid : (data.row s w.now).id = data.id := rfl
    simp only [Database.addUser, hid, hsome, if_false, Bool.false_eq_true, Except.ok.injEq] at hdb
    exact ⟨by simpa using hsome, rfl, by rw [← hdb]⟩

/-- Whoever is not in the tables is registered when asking for it. -/
theorem registerUser_of_new {s : Settings} {data : NewUser} {w : World} (hnew : w.db.user? data.id = none) :
    registerUser s data w =
      (.ok (data.row s w.now), { w with db := { w.db with users := w.db.users ++ [data.row s w.now] } }) := by
  have hid : (data.row s w.now).id = data.id := rfl
  refine transaction_eq_ok.mpr ?_
  simp only [database_bind, hnew, Option.isSome_none, Bool.false_eq_true, if_false, now_bind]
  refine bind_eq_ok.mpr ⟨(), _, updateDatabase_eq_ok.mpr ⟨_, ?_, rfl⟩, rfl⟩
  simp only [Database.addUser, hid, hnew, Option.isSome_none, Bool.false_eq_true, if_false]

theorem updateUser_eq_ok {id : String} {changes : UserChanges} {w w' : World} {a : User}
    (h : updateUser id changes w = (.ok a, w')) :
    ∃ u, w.db.user? id = some u ∧ a = changes.apply u ∧ w' = { w with db := w.db.updateUser id changes.apply } := by
  obtain ⟨u, hu, hrest⟩ := user_bind_eq_ok.mp (transaction_eq_ok.mp h)
  rw [modifyDatabase_bind] at hrest
  exact ⟨u, hu, pure_eq_ok.mp hrest⟩

theorem deleteUser_eq_ok {s : Settings} {id : String} {w w' : World} (h : deleteUser s id w = (.ok (), w')) :
    w.db.HasUser id ∧
      w' = { w with
        db := (w.db.removeVideos (w.db.ownedVideos id)).removeUser id
        store := w.store.eraseAll fun key =>
          Text.startsWith key (s.userFolder id) ||
            (w.db.ownedVideos id).any fun video => Text.startsWith key (s.videoFolder video) } := by
  obtain ⟨u, hu, hrest⟩ := user_bind_eq_ok.mp (transaction_eq_ok.mp h)
  simp only [database_bind, modifyDatabase_bind] at hrest
  obtain ⟨_, w₂, hfolder, hfolders⟩ := bind_eq_ok.mp hrest
  rw [removeFolder_eq_ok hfolder] at hfolders
  refine ⟨Database.hasUser_of_user? hu, ?_⟩
  rw [forEach_removeFolder_eq_ok hfolders, ObjectStore.eraseAll_eraseAll]

/-! ## Likes -/

/-- What a toggle did: it added a like that was not there, or took back the one that was. -/
def Toggled (user : String) (video : Int) (w w' : World) (answer : Video × Bool) : Prop :=
  w.db.HasUser user ∧ fitsColumn video = true ∧ w.db.video? video = some answer.1 ∧
    (answer.2 = true ∧ w.db.like? user video = none ∧
        w'.db = { w.db with likes := w.db.likes ++ [⟨user, video, w.now⟩] } ∨
      answer.2 = false ∧ (w.db.like? user video).isSome = true ∧ w'.db = w.db.removeLike user video)

theorem toggleLike_eq_ok {userId : String} {videoId : Int} {w w' : World} {a : Video × Bool}
    (h : toggleLike userId videoId w = (.ok a, w')) : Toggled userId videoId w w' a := by
  obtain ⟨u, hu, hrest⟩ := user_bind_eq_ok.mp (transaction_eq_ok.mp h)
  obtain ⟨v, hfit, hv, hfound⟩ := video_bind_eq_ok.mp hrest
  obtain ⟨l, w₁, hlike, htoggle⟩ := bind_eq_ok.mp hfound
  obtain ⟨hseen, hw₁⟩ := like?_eq_ok hlike
  have hdb₁ : w₁.db = w.db := by rw [hw₁]
  have hnow₁ : w₁.now = w.now := by rw [hw₁]
  refine ⟨Database.hasUser_of_user? hu, hfit, ?_⟩
  cases l with
  | none =>
    simp only [now_bind] at htoggle
    obtain ⟨_, w₂, hadd, hpure⟩ := bind_eq_ok.mp htoggle
    obtain ⟨db, hdb, rfl⟩ := updateDatabase_eq_ok.mp hadd
    obtain ⟨rfl, rfl⟩ := pure_eq_ok.mp hpure
    -- A look-up that did not see the like goes on to add it, and adding it finds out.
    simp only [Database.addLike, hdb₁, hnow₁] at hdb
    by_cases hsome : (w.db.like? userId videoId).isSome = true
    · simp [hsome] at hdb
    · simp only [hsome, if_false, Bool.false_eq_true, Except.ok.injEq] at hdb
      exact ⟨hv, Or.inl ⟨rfl, by simpa using hsome, hdb.symm⟩⟩
  | some l =>
    simp only [modifyDatabase_bind] at htoggle
    obtain ⟨rfl, rfl⟩ := pure_eq_ok.mp htoggle
    have hthere : w.db.like? userId videoId = some l := by
      rcases hseen with hseen | hseen
      · exact hseen.symm
      · simp at hseen
    exact ⟨hv, Or.inr ⟨rfl, by rw [hthere]; rfl, by rw [← hdb₁]⟩⟩

/-- A toggle does not touch the clock. -/
theorem keeps_now_toggleLike (userId : String) (videoId : Int) : Keeps World.now (toggleLike userId videoId) := by
  refine keeps_transaction (fun _ _ => rfl) (Keeps.bind (keeps_user _ _) fun _ => Keeps.bind (keeps_video _) fun v => ?_)
  refine Keeps.bind (keeps_like? (fun _ _ => rfl) _ _) fun l => ?_
  cases l with
  | none =>
    exact Keeps.bind keeps_now fun _ => Keeps.bind (keeps_updateDatabase (fun _ _ => rfl) _) fun _ => Keeps.pure _
  | some l => exact Keeps.bind (keeps_modifyDatabase (fun _ _ => rfl) _) fun _ => Keeps.pure _

/-- The second attempt of a toggle begins with the tables and the time of the first one. -/
theorem likeVideo_eq_ok {userId : String} {videoId : Int} {w w' : World} {a : Video × Bool}
    (h : likeVideo userId videoId w = (.ok a, w')) : Toggled userId videoId w w' a := by
  unfold likeVideo retryingOnce at h
  split at h
  · rename_i w₁ hfirst
    have hdb := transaction_error_db hfirst
    have hnow := (keeps_now_toggleLike userId videoId).of_eq hfirst
    have hsecond := toggleLike_eq_ok h
    unfold Toggled at hsecond
    rwa [hdb, hnow] at hsecond
  · exact toggleLike_eq_ok h

theorem likeVideo_error_db {userId : String} {videoId : Int} {w w' : World} {e : Failure}
    (h : likeVideo userId videoId w = (.error e, w')) : w'.db = w.db := by
  unfold likeVideo retryingOnce at h
  split at h
  · rename_i w₁ hfirst
    exact (transaction_error_db h).trans (transaction_error_db hfirst)
  · exact transaction_error_db h

/-- A dislike that answered took the like back that it saw. -/
theorem dislikeVideo_eq_ok {userId : String} {videoId : Int} {w w' : World}
    (h : dislikeVideo userId videoId w = (.ok (), w')) :
    w.db.HasUser userId ∧ w.db.HasVideo videoId ∧ (w'.db = w.db ∨ w'.db = w.db.removeLike userId videoId) := by
  obtain ⟨u, hu, hrest⟩ := user_bind_eq_ok.mp (transaction_eq_ok.mp h)
  obtain ⟨v, -, hv, hfound⟩ := video_bind_eq_ok.mp hrest
  obtain ⟨l, w₁, hlike, htake⟩ := bind_eq_ok.mp hfound
  have hdb : w₁.db = w.db := by rw [(like?_eq_ok hlike).2]
  refine ⟨Database.hasUser_of_user? hu, Database.hasVideo_of_video? hv, ?_⟩
  by_cases hsome : l.isSome = true
  · rw [if_pos hsome] at htake
    rw [modifyDatabase_eq_ok.mp htake, ← hdb]
    exact Or.inr rfl
  · rw [if_neg hsome] at htake
    obtain ⟨-, rfl⟩ := pure_eq_ok.mp htake
    exact Or.inl hdb

/-! ## Subscriptions and the search history -/

theorem subscribe_eq_ok {userId channelId : String} {w w' : World} (h : subscribe userId channelId w = (.ok (), w')) :
    w.db.HasUser userId ∧ w.db.HasUser channelId ∧
      ((w.db.subscription? userId channelId).isSome = true ∧ w' = w ∨
        w.db.subscription? userId channelId = none ∧
          w' = { w with db := w.db.addSubscription ⟨userId, channelId, w.now⟩ }) := by
  obtain ⟨u, hu, hrest⟩ := user_bind_eq_ok.mp (transaction_eq_ok.mp h)
  obtain ⟨c, hc, hfound⟩ := user_bind_eq_ok.mp hrest
  refine ⟨Database.hasUser_of_user? hu, Database.hasUser_of_user? hc, ?_⟩
  simp only [database_bind] at hfound
  cases hsub : w.db.subscription? userId channelId with
  | none =>
    simp only [hsub, Option.isNone_none, if_true, now_bind] at hfound
    exact Or.inr ⟨rfl, modifyDatabase_eq_ok.mp hfound⟩
  | some s =>
    simp only [hsub, Option.isNone_some, if_false, Bool.false_eq_true] at hfound
    exact Or.inl ⟨rfl, (pure_eq_ok.mp hfound).2⟩

theorem unsubscribe_eq_ok {userId channelId : String} {w w' : World}
    (h : unsubscribe userId channelId w = (.ok (), w')) :
    w.db.HasUser userId ∧ w' = { w with db := w.db.removeSubscription userId channelId } := by
  obtain ⟨u, hu, hrest⟩ := user_bind_eq_ok.mp (transaction_eq_ok.mp h)
  exact ⟨Database.hasUser_of_user? hu, modifyDatabase_eq_ok.mp hrest⟩

theorem addSearch_eq_ok {s : Settings} {userId option : String} {w w' : World}
    (h : addSearch s userId option w = (.ok (), w')) :
    w.db.HasUser userId ∧
      ((∃ entry, w.db.search? userId option = some entry ∧ w' = { w with db := w.db.redateSearch entry.id w.now }) ∨
        w.db.search? userId option = none ∧
          w' = { w with
            db := w.db.replaceSearches (w.db.outdatedSearches s.maxSearchOptions userId) userId option w.now }) := by
  obtain ⟨u, hu, hrest⟩ := user_bind_eq_ok.mp (transaction_eq_ok.mp h)
  refine ⟨Database.hasUser_of_user? hu, ?_⟩
  simp only [database_bind, now_bind] at hrest
  cases hsearch : w.db.search? userId option with
  | none =>
    simp only [hsearch] at hrest
    exact Or.inr ⟨rfl, modifyDatabase_eq_ok.mp hrest⟩
  | some entry =>
    simp only [hsearch] at hrest
    exact Or.inl ⟨entry, rfl, modifyDatabase_eq_ok.mp hrest⟩

theorem deleteSearch_eq_ok {userId option : String} {w w' : World} (h : deleteSearch userId option w = (.ok (), w')) :
    w.db.HasUser userId ∧
      ∃ entry, w.db.search? userId option = some entry ∧ w' = { w with db := w.db.removeSearch entry.id } := by
  obtain ⟨u, hu, hrest⟩ := user_bind_eq_ok.mp (transaction_eq_ok.mp h)
  refine ⟨Database.hasUser_of_user? hu, ?_⟩
  simp only [database_bind] at hrest
  cases hsearch : w.db.search? userId option with
  | none => simp [hsearch] at hrest
  | some entry =>
    simp only [hsearch] at hrest
    exact ⟨entry, rfl, modifyDatabase_eq_ok.mp hrest⟩

/-! ## Watching -/

theorem rememberWatch_eq_ok {s : Settings} {userId : String} {v : Video} {w w' : World} :
    rememberWatch s userId v w = (.ok (), w') ↔
      ∃ since, w.now.minus s.dedupHours Duration.hour = .ok since ∧
        w' = { w with db := w.db.rememberWatch userId v since w.now } := by
  simp only [rememberWatch, modifyDatabase_bind, now_bind]
  exact lift_bind_eq_ok.trans (exists_congr fun since => and_congr_right fun _ => modifyDatabase_eq_ok)

/-- Remembers a watch for a viewer who is registered. -/
def rememberViewer (s : Settings) (viewer : Option String) (v : Video) : Service Unit :=
  match viewer with
  | some u => do if ((← database).user? u).isSome then rememberWatch s u v
  | none => pure ()

/-- Counts a view of a video and answers the video with it. -/
def countView (videoId : Int) (v : Video) : Service Video := do
  lift (checkColumns [v.views + 1])
  modifyDatabase (·.updateVideo videoId addView)
  pure (addView v)

/-- A watch looks the video up, remembers the viewer, and counts the view. -/
theorem watch_eq (s : Settings) (videoId : Int) (viewer : Option String) :
    watch s videoId viewer = transaction
      (video videoId >>= fun v => rememberViewer s viewer v >>= fun _ => countView videoId v) := by
  refine congrArg transaction (congrArg (video videoId >>= ·) (funext fun v => ?_))
  cases viewer with
  | none => rfl
  | some u =>
    funext w
    rw [rememberViewer, bind_assoc]
    simp only [database_bind]
    split <;> rfl

/-- A viewer who is registered is remembered; for nobody, and for a viewer who is not registered, nothing is done. -/
theorem rememberViewer_eq_ok {s : Settings} {viewer : Option String} {v : Video} {w w' : World} :
    rememberViewer s viewer v w = (.ok (), w') ↔
      (∃ u since, viewer = some u ∧ w.db.HasUser u ∧ w.now.minus s.dedupHours Duration.hour = .ok since ∧
          w' = { w with db := w.db.rememberWatch u v since w.now }) ∨
        (∀ u, viewer = some u → ¬w.db.HasUser u) ∧ w' = w := by
  cases viewer with
  | none =>
    rw [rememberViewer, pure_eq_ok]
    simp
  | some u =>
    simp only [rememberViewer, database_bind]
    by_cases hu : w.db.HasUser u
    · rw [if_pos (Database.user?_isSome_iff.mpr hu), rememberWatch_eq_ok]
      simp [hu]
    · rw [if_neg fun hsome => hu (Database.user?_isSome_iff.mp hsome), pure_eq_ok]
      simp [hu]

theorem countView_eq_ok {videoId : Int} {v a : Video} {w w' : World} :
    countView videoId v w = (.ok a, w') ↔
      fitsColumn (v.views + 1) = true ∧ a = addView v ∧ w' = { w with db := w.db.updateVideo videoId addView } := by
  have hcheck : checkColumns [v.views + 1] = .ok () ↔ fitsColumn (v.views + 1) = true := by simp [checkColumns_eq_ok]
  rw [countView, lift_bind_eq_ok, ← hcheck]
  simp only [modifyDatabase_bind, pure_eq_ok]
  exact ⟨fun ⟨_, h⟩ => h, fun h => ⟨(), h⟩⟩

/-- When a watch answers, and what it does then: it counts a view, and remembers the watch for whoever is registered. -/
theorem watch_eq_ok_iff {s : Settings} {videoId : Int} {viewer : Option String} {w w' : World} {a : Video} :
    watch s videoId viewer w = (.ok a, w') ↔
      ∃ v, fitsColumn videoId = true ∧ w.db.video? videoId = some v ∧ fitsColumn (v.views + 1) = true ∧ a = addView v ∧
        ((∃ u since, viewer = some u ∧ w.db.HasUser u ∧ w.now.minus s.dedupHours Duration.hour = .ok since ∧
            w' = { w with db := (w.db.rememberWatch u v since w.now).updateVideo videoId addView }) ∨
          (∀ u, viewer = some u → ¬w.db.HasUser u) ∧ w' = { w with db := w.db.updateVideo videoId addView }) := by
  rw [watch_eq, transaction_eq_ok, video_bind_eq_ok]
  refine exists_congr fun v => and_congr_right fun _ => and_congr_right fun _ => ?_
  rw [bind_eq_ok]
  constructor
  · rintro ⟨_, w₁, hremember, hcount⟩
    obtain ⟨hviews, ha, rfl⟩ := countView_eq_ok.mp hcount
    rcases rememberViewer_eq_ok.mp hremember with ⟨u, since, hviewer, hu, hsince, rfl⟩ | ⟨hunknown, rfl⟩
    · exact ⟨hviews, ha, Or.inl ⟨u, since, hviewer, hu, hsince, rfl⟩⟩
    · exact ⟨hviews, ha, Or.inr ⟨hunknown, rfl⟩⟩
  · rintro ⟨hviews, ha, ⟨u, since, hviewer, hu, hsince, rfl⟩ | ⟨hunknown, rfl⟩⟩
    · exact ⟨(), _, rememberViewer_eq_ok.mpr (Or.inl ⟨u, since, hviewer, hu, hsince, rfl⟩),
        countView_eq_ok.mpr ⟨hviews, ha, rfl⟩⟩
    · exact ⟨(), w, rememberViewer_eq_ok.mpr (Or.inr ⟨hunknown, rfl⟩), countView_eq_ok.mpr ⟨hviews, ha, rfl⟩⟩

/-- A watch that answered counted a view, and remembered the watch for whoever is registered. -/
theorem watch_eq_ok {s : Settings} {videoId : Int} {userId : Option String} {w w' : World} {a : Video}
    (h : watch s videoId userId w = (.ok a, w')) :
    ∃ v, fitsColumn videoId = true ∧ w.db.video? videoId = some v ∧ fitsColumn (v.views + 1) = true ∧ a = addView v ∧
      ((∃ u since, userId = some u ∧ w.db.HasUser u ∧ w.now.minus s.dedupHours Duration.hour = .ok since ∧
          w' = { w with db := (w.db.rememberWatch u v since w.now).updateVideo videoId addView }) ∨
        (∀ u, userId = some u → ¬w.db.HasUser u) ∧ w' = { w with db := w.db.updateVideo videoId addView }) :=
  watch_eq_ok_iff.mp h

theorem notInterested_eq_ok {s : Settings} {videoId : Int} {userId : String} {w w' : World}
    (h : notInterested s videoId userId w = (.ok (), w')) :
    ∃ v answer db, w.db.video? videoId = some v ∧ w.db.HasUser userId ∧
      w.db.decayCategory userId v.category s.notInterestedFactor = .ok (answer, db) ∧ w' = { w with db := db } := by
  obtain ⟨v, -, hv, hrest⟩ := video_bind_eq_ok.mp (transaction_eq_ok.mp h)
  obtain ⟨u, hu, hfound⟩ := user_bind_eq_ok.mp hrest
  obtain ⟨answer, w₁, hdecay, hpure⟩ := bind_eq_ok.mp hfound
  obtain ⟨-, rfl⟩ := pure_eq_ok.mp hpure
  unfold decayCategory at hdecay
  cases hdb : w.db.decayCategory userId v.category s.notInterestedFactor with
  | error e => simp [hdb] at hdecay
  | ok result =>
    obtain ⟨score, db⟩ := result
    simp only [hdb, Prod.mk.injEq, Except.ok.injEq] at hdecay
    exact ⟨v, score, db, hv, Database.hasUser_of_user? hu, hdb, hdecay.2.symm⟩

/-! ## Videos -/

/-- Uploading the files of a video keeps what depends on neither the store, nor the broker, nor the identifiers drawn. -/
theorem keeps_uploadFiles {γ : Type} {f : World → γ} (ho : ∀ w store, f { w with store := store } = f w)
    (hb : ∀ w broker, f { w with broker := broker } = f w) (hs : ∀ w serial, f { w with serial := serial } = f w)
    (s : Settings) (folder thumbnail content : String) : Keeps f (uploadFiles s folder thumbnail content) :=
  Keeps.bind (keeps_putObject ho _ _) fun _ => Keeps.bind (keeps_submit hb hs _ _) fun _ =>
    Keeps.bind (keeps_putObject ho _ _) fun _ => Keeps.bind (keeps_submit hb hs _ _) fun _ =>
      Keeps.bind (keeps_awaitReply hb _) fun _ => keeps_awaitReply hb _

/-- Changing the files of a video keeps the tables. -/
theorem keeps_db_replaceThumbnail (s : Settings) (folder thumbnail : String) :
    Keeps World.db (replaceThumbnail s folder thumbnail) :=
  Keeps.bind (keeps_putObject (fun _ _ => rfl) _ _) fun _ => keeps_process (fun _ _ => rfl) (fun _ _ => rfl) _ _ _

theorem keeps_db_replaceContent (s : Settings) (folder content : String) :
    Keeps World.db (replaceContent s folder content) :=
  Keeps.bind (keeps_storeStep (fun _ _ => rfl) _ _ _) fun _ =>
    Keeps.bind (Keeps.forEach fun _ _ => keeps_storeStep (fun _ _ => rfl) _ _ _) fun _ =>
      Keeps.bind (keeps_putObject (fun _ _ => rfl) _ _) fun _ => keeps_process (fun _ _ => rfl) (fun _ _ => rfl) _ _ _

/-- The row of a video is added when its files are uploaded in a world whose tables have it. -/
theorem addVideo_eq_ok {s : Settings} {row : Video} {thumbnail content : String} {w w' : World} :
    addVideo s row thumbnail content w = (.ok (), w') ↔
      uploadFiles s (s.videoFolder row.id) thumbnail content { w with db := w.db.addVideo row } = (.ok (), w') := by
  rw [addVideo, cleaningUp_eq_ok, transaction_eq_ok, modifyDatabase_bind]

/-- The row of a video was not added, or not all of its files were uploaded: the tables are as before. -/
theorem addVideo_error_db {s : Settings} {row : Video} {thumbnail content : String} {w w' : World} {e : Failure}
    (h : addVideo s row thumbnail content w = (.error e, w')) : w'.db = w.db := by
  obtain ⟨w₁, hfailed, rfl⟩ := cleaningUp_eq_error.mp h
  rw [keeps_removeFolder (f := World.db) (fun _ _ => rfl)]
  exact transaction_error_db hfailed

/-- The making of a video answered: its row was added, its files uploaded, and a notification went out. -/
theorem createVideo_eq_ok {s : Settings} {detected : Option String} {owner : String} {data : NewVideo}
    {thumbnail content : String} {w w' : World} {v : Video}
    (h : createVideo s detected owner data thumbnail content w = (.ok v, w')) :
    w.db.HasUser owner ∧ fitsColumn data.duration = true ∧ v = w.newVideo s detected owner data ∧
      ∃ w₁, addVideo s v thumbnail content w = (.ok (), w₁) ∧ push s.createdQueue (toString v.id) w₁ = (.ok (), w') := by
  obtain ⟨u, hu, hrest⟩ := user_bind_eq_ok.mp h
  obtain ⟨_, hcheck, hmake⟩ := lift_bind_eq_ok.mp hrest
  simp only [database_bind, now_bind] at hmake
  obtain ⟨_, w₁, hadd, hpush⟩ := bind_eq_ok.mp hmake
  obtain ⟨_, w₂, hpushed, hpure⟩ := bind_eq_ok.mp hpush
  obtain ⟨rfl, rfl⟩ := pure_eq_ok.mp hpure
  have hfits := checkColumns_eq_ok.mp hcheck _ (List.mem_singleton_self _)
  exact ⟨Database.hasUser_of_user? hu, hfits, rfl, w₁, hadd, hpushed⟩

/-- The making of a video failed: the tables are as before, or the row and the files were there and the notification was not
taken. -/
theorem createVideo_eq_error {s : Settings} {detected : Option String} {owner : String} {data : NewVideo}
    {thumbnail content : String} {w w' : World} {e : Failure}
    (h : createVideo s detected owner data thumbnail content w = (.error e, w')) :
    w' = w ∨ addVideo s (w.newVideo s detected owner data) thumbnail content w = (.error e, w') ∨
      w.db.HasUser owner ∧ fitsColumn data.duration = true ∧
        addVideo s (w.newVideo s detected owner data) thumbnail content w = (.ok (), w') ∧
        s.createdQueue ∈ w'.broker.down ∧ e = .brokerDown := by
  rcases bind_eq_error.mp h with huser | ⟨u, w₁, huser, hrest⟩
  · unfold user at huser
    split at huser
    · simp at huser
    · simp only [Prod.mk.injEq] at huser
      exact Or.inl huser.2.symm
  · obtain ⟨hu, rfl⟩ := user_eq_ok.mp huser
    rcases bind_eq_error.mp hrest with hcheck | ⟨_, w₂, hcheck, hmake⟩
    · simp only [lift_apply, Prod.mk.injEq] at hcheck
      exact Or.inl hcheck.2.symm
    · obtain ⟨hfits, rfl⟩ := lift_eq_ok.mp hcheck
      have hduration := checkColumns_eq_ok.mp hfits _ (List.mem_singleton_self _)
      simp only [database_bind, now_bind] at hmake
      rcases bind_eq_error.mp hmake with hadd | ⟨_, w₃, hadd, hpush⟩
      · exact Or.inr (Or.inl hadd)
      · rcases bind_eq_error.mp hpush with hdown | ⟨_, w₄, -, hpure⟩
        · obtain ⟨hqueue, rfl, rfl⟩ := push_eq_error.mp hdown
          exact Or.inr (Or.inr ⟨Database.hasUser_of_user? hu, hduration, hadd, hqueue, rfl⟩)
        · simp at hpure

/-- Does something with what is given, and nothing when nothing is. -/
def whenGiven {α : Type} (f : α → Service Unit) : Option α → Service Unit
  | some a => f a
  | none => pure ()

/-- A video is changed in the tables first, then its thumbnail, then its content. -/
theorem updateVideo_eq (s : Settings) (videoId : Int) (changes : VideoChanges) (thumbnail content : Option String) :
    updateVideo s videoId changes thumbnail content = transaction (video videoId >>= fun v =>
      modifyDatabase (·.updateVideo videoId changes.apply) >>= fun _ =>
        whenGiven (replaceThumbnail s (s.videoFolder videoId)) thumbnail >>= fun _ =>
          whenGiven (replaceContent s (s.videoFolder videoId)) content >>= fun _ => pure (changes.apply v)) := by
  cases thumbnail <;> cases content <;> rfl

theorem keeps_whenGiven {α γ : Type} {g : World → γ} {f : α → Service Unit} {given : Option α}
    (h : ∀ a, given = some a → Keeps g (f a)) : Keeps g (whenGiven f given) := by
  cases given with
  | none => exact Keeps.pure ()
  | some a => exact h a rfl

/-- A change of a video that answered changed its row as asked; what else it changed is in the store and the broker. -/
theorem updateVideo_eq_ok {s : Settings} {videoId : Int} {changes : VideoChanges} {thumbnail content : Option String}
    {w w' : World} {a : Video} (h : updateVideo s videoId changes thumbnail content w = (.ok a, w')) :
    ∃ v, w.db.video? videoId = some v ∧ a = changes.apply v ∧ w'.db = w.db.updateVideo videoId changes.apply := by
  rw [updateVideo_eq] at h
  obtain ⟨v, -, hv, hrest⟩ := video_bind_eq_ok.mp (transaction_eq_ok.mp h)
  rw [modifyDatabase_bind] at hrest
  obtain ⟨_, w₁, hthumbnail, hrest⟩ := bind_eq_ok.mp hrest
  obtain ⟨_, w₂, hcontent, hpure⟩ := bind_eq_ok.mp hrest
  obtain ⟨ha, rfl⟩ := pure_eq_ok.mp hpure
  have hfirst := (keeps_whenGiven fun t _ => keeps_db_replaceThumbnail _ _ t).of_eq hthumbnail
  have hsecond := (keeps_whenGiven fun c _ => keeps_db_replaceContent _ _ c).of_eq hcontent
  exact ⟨v, hv, ha, hsecond.trans hfirst⟩

theorem deleteVideo_eq_ok {s : Settings} {videoId : Int} {w w' : World} (h : deleteVideo s videoId w = (.ok (), w')) :
    w.db.HasVideo videoId ∧
      w' = { w with
        db := w.db.removeVideos [videoId]
        store := w.store.eraseAll fun key => Text.startsWith key (s.videoFolder videoId) } := by
  obtain ⟨v, -, hv, hrest⟩ := video_bind_eq_ok.mp (transaction_eq_ok.mp h)
  simp only [modifyDatabase_bind] at hrest
  exact ⟨Database.hasVideo_of_video? hv, removeFolder_eq_ok hrest⟩

end Service

end VideoShare
