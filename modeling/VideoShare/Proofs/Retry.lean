import VideoShare.Proofs.Departure

/-!
# Trying again

Removing a user, removing a video and changing a video work on the tables and on the object store. When such a call fails on the way
the tables are as before, but some of the objects are gone or replaced by then. Trying again makes up for it. A call touches certain
keys only, and which ones they are can be told from the tables (`Call.touches`); however it ends, the other objects are left as they
are. A call that answers leaves a store in which nothing depends on what stood under the keys it touches (`Call.leaves`). So whatever
an attempt that failed has done to them, the attempt that answers leaves what it would have left without it.
-/

namespace VideoShare

/-- The objects of a world but for those under some keys. -/
def World.untouched (touched : String → Bool) (w : World) : List (String × String) :=
  (w.store.eraseAll touched).objects

namespace Service

variable {touched : String → Bool}

/-! ## Objects that are not touched -/

/-- An operation on the store leaves the untouched objects as they are when its effect does. A fault that strikes it has none. -/
theorem keeps_untouched_storeStep {α : Type} {operation : StoreOperation} {key : String}
    {effect : ObjectStore → Except Failure α × ObjectStore}
    (h : ∀ store, ((effect store).2.eraseAll touched).objects = (store.eraseAll touched).objects) :
    Keeps (World.untouched touched) (storeStep operation key effect) := by
  intro w
  unfold storeStep
  split
  · rfl
  · exact h w.store

theorem keeps_untouched_putObject {key : String} (hkey : touched key = true) (content : String) :
    Keeps (World.untouched touched) (putObject key content) := by
  refine keeps_untouched_storeStep fun store => ?_
  simp only [ObjectStore.insert, ObjectStore.eraseAll, List.filter_append, List.filter_filter]
  have hnew : [(key, content)].filter (fun o => !touched o.1) = [] := by simp [hkey]
  rw [hnew, List.append_nil]
  refine List.filter_congr fun o _ => ?_
  by_cases ho : o.1 = key
  · simp [ho, hkey]
  · simp [ho]

theorem keeps_untouched_removeObject {key : String} (hkey : touched key = true) :
    Keeps (World.untouched touched) (removeObject key) := by
  refine keeps_untouched_storeStep fun store => ?_
  simp only [ObjectStore.erase, ObjectStore.eraseAll, List.filter_filter]
  refine List.filter_congr fun o _ => ?_
  by_cases ho : o.1 = key
  · simp [ho, hkey]
  · simp [ho]

theorem keeps_untouched_listObjects (path : String) : Keeps (World.untouched touched) (listObjects path) :=
  keeps_untouched_storeStep fun _ => rfl

/-- Removes those of the objects under a path whose keys meet a condition. -/
def removeUnder (path : String) (p : String → Bool) : Service Unit := do
  let keys ← listObjects path
  forEach removeObject (keys.filter p)

theorem removeFolder_eq_removeUnder (path : String) : removeFolder path = removeUnder path fun _ => true := by
  simp only [removeFolder, removeUnder, List.filter_true]

/-- The content of a video is replaced by removing the old one and putting the new one in its place. -/
theorem replaceContent_eq (s : Settings) (folder content : String) :
    replaceContent s folder content = removeUnder folder (fun key => !Text.contains key s.thumbnailFilename) >>= fun _ =>
      putObject (folder ++ s.videoFilename) content >>= fun _ =>
        process s.videoQueue (folder ++ s.videoFilename) s.processingTimeout := by
  rw [removeUnder, bind_assoc]
  rfl

theorem removeUnder_eq_ok {path : String} {p : String → Bool} {w w' : World} (h : removeUnder path p w = (.ok (), w')) :
    w' = { w with store := w.store.eraseAll fun key => Text.startsWith key path && p key } := by
  obtain ⟨keys, w₁, hlist, hremoved⟩ := bind_eq_ok.mp h
  obtain ⟨rfl, rfl⟩ := listObjects_eq_ok hlist
  rw [forEach_removeObject_eq_ok hremoved]
  congr 1
  refine ObjectStore.eraseAll_congr fun o ho => ?_
  have hmem : o.1 ∈ w₁.store.keysUnder path ↔ Text.startsWith o.1 path = true :=
    ObjectStore.mem_keysUnder.trans ⟨fun hkey => hkey.2, fun hunder => ⟨⟨o, ho, rfl⟩, hunder⟩⟩
  rw [Bool.eq_iff_iff, List.contains_iff_mem, List.mem_filter, hmem, Bool.and_eq_true]

theorem keeps_untouched_removeUnder {path : String} {p : String → Bool}
    (h : ∀ key, Text.startsWith key path = true → p key = true → touched key = true) :
    Keeps (World.untouched touched) (removeUnder path p) := by
  intro w
  rw [removeUnder]
  rcases hlist : listObjects path w with ⟨e | keys, w₁⟩
  · rw [bind_of_error hlist]
    exact (keeps_untouched_listObjects path).of_eq hlist
  · rw [bind_of_ok hlist]
    obtain ⟨rfl, rfl⟩ := listObjects_eq_ok hlist
    refine Keeps.forEach (fun key hkey => ?_) w₁
    obtain ⟨hlisted, hp⟩ := List.mem_filter.mp hkey
    exact keeps_untouched_removeObject (h key (ObjectStore.mem_keysUnder.mp hlisted).2 hp)

theorem keeps_untouched_removeFolder {path : String} (h : ∀ key, Text.startsWith key path = true → touched key = true) :
    Keeps (World.untouched touched) (removeFolder path) := by
  rw [removeFolder_eq_removeUnder]
  exact keeps_untouched_removeUnder fun key hkey _ => h key hkey

theorem keeps_untouched_process (queue path : String) (seconds : Int) :
    Keeps (World.untouched touched) (process queue path seconds) :=
  keeps_process (fun _ _ => rfl) (fun _ _ => rfl) queue path seconds

/-- How a transaction ends matters for the tables alone. -/
theorem untouched_transaction {α : Type} (x : Service α) (w : World) :
    World.untouched touched (transaction x w).2 = World.untouched touched (x w).2 := by
  unfold transaction
  split <;> rename_i h <;> rw [h]
  rfl

end Service

namespace ObjectStore

/-- Stores that differ under a key at most are the same once an object is put there, as far as both are looked at. -/
theorem eraseAll_insert_congr {store store' : ObjectStore} {key : String} {p : String → Bool}
    (h : (store.eraseAll fun k => k == key || p k).objects = (store'.eraseAll fun k => k == key || p k).objects)
    (content : String) : ((store.insert key content).eraseAll p).objects = ((store'.insert key content).eraseAll p).objects := by
  have hold : ∀ os : List (String × String), (os.filter (·.1 != key)).filter (fun o => !p o.1) =
      os.filter fun o => !(o.1 == key || p o.1) := by
    intro os
    rw [List.filter_filter]
    refine List.filter_congr fun o _ => ?_
    rw [Bool.not_or, Bool.and_comm]
    rfl
  simp only [insert, eraseAll, List.filter_append, hold] at h ⊢
  rw [h]

theorem insert_congr {store store' : ObjectStore} {key : String}
    (h : (store.eraseAll (· == key)).objects = (store'.eraseAll (· == key)).objects) (content : String) :
    (store.insert key content).objects = (store'.insert key content).objects := by
  simp only [insert, eraseAll] at h ⊢
  exact congrArg (· ++ [(key, content)]) h

end ObjectStore

/-! ## The keys that a call touches, and the store that it leaves -/

/-- Whether a key in the folder of a video is that of old content: it does not have the name of the thumbnail in it. -/
def Settings.isContent (s : Settings) (folder key : String) : Bool :=
  Text.startsWith key folder && !Text.contains key s.thumbnailFilename

/-- The store after a new thumbnail and new content have taken the place of the old ones in the folder of a video. -/
def Settings.withFiles (s : Settings) (folder : String) (thumbnail content : Option String) (store : ObjectStore) : ObjectStore :=
  let store := match thumbnail with
    | some t => store.insert (folder ++ s.thumbnailFilename) t
    | none => store
  match content with
  | some c => (store.eraseAll (s.isContent folder)).insert (folder ++ s.videoFilename) c
  | none => store

namespace Call

/-- The calls that change objects which are there: the removal of a user or of a video, and the change of a video. -/
def changesObjects : Call → Bool
  | deleteUser _ | deleteVideo _ | changeVideo _ _ _ _ => true
  | _ => false

/-- Whether a call that is made with some tables may touch the object under a key. -/
def touches (s : Settings) (db : Database) : Call → String → Bool
  | deleteUser id, key => s.inFolders id (db.ownedVideos id) key
  | deleteVideo video, key => Text.startsWith key (s.videoFolder video)
  | changeVideo video _ thumbnail content, key =>
    (thumbnail.isSome && key == s.videoFolder video ++ s.thumbnailFilename) ||
      (content.isSome && (s.isContent (s.videoFolder video) key || key == s.videoFolder video ++ s.videoFilename))
  | _, _ => false

/-- The store that a call leaves when it answers, given the tables and the store before it. -/
def leaves (s : Settings) (db : Database) : Call → ObjectStore → ObjectStore
  | deleteUser id, store => store.eraseAll (s.inFolders id (db.ownedVideos id))
  | deleteVideo video, store => store.eraseAll fun key => Text.startsWith key (s.videoFolder video)
  | changeVideo video _ thumbnail content, store => s.withFiles (s.videoFolder video) thumbnail content store
  | _, store => store

/-- The tables that a call leaves when it answers, given the tables before it. -/
def tables : Call → Database → Database
  | deleteUser id, db => (db.removeVideos (db.ownedVideos id)).removeUser id
  | deleteVideo video, db => db.removeVideos [video]
  | changeVideo video changes _ _, db => db.updateVideo video changes.apply
  | _, db => db

end Call

namespace Service

open Call

/-! ### However a call ends -/

section Changing

variable {s : Settings} {touched : String → Bool}

theorem keeps_untouched_replaceThumbnail {folder : String} (h : touched (folder ++ s.thumbnailFilename) = true)
    (thumbnail : String) : Keeps (World.untouched touched) (replaceThumbnail s folder thumbnail) :=
  Keeps.bind (keeps_untouched_putObject h thumbnail) fun _ => keeps_untouched_process _ _ _

theorem keeps_untouched_replaceContent {folder : String} (hold : ∀ key, s.isContent folder key = true → touched key = true)
    (hnew : touched (folder ++ s.videoFilename) = true) (content : String) :
    Keeps (World.untouched touched) (replaceContent s folder content) := by
  rw [replaceContent_eq]
  refine Keeps.bind (keeps_untouched_removeUnder fun key hunder hname => hold key ?_) fun _ =>
    Keeps.bind (keeps_untouched_putObject hnew content) fun _ => keeps_untouched_process _ _ _
  rw [Settings.isContent, hunder, hname]
  rfl

theorem keeps_untouched_updateVideo (s : Settings) (db : Database) (video : Int) (changes : VideoChanges)
    (thumbnail content : Option String) :
    Keeps (World.untouched ((changeVideo video changes thumbnail content).touches s db))
      (updateVideo s video changes thumbnail content) := by
  rw [updateVideo_eq]
  refine keeps_transaction (fun _ _ => rfl) ?_
  refine Keeps.bind (keeps_video video) fun v => Keeps.bind (keeps_modifyDatabase (fun _ _ => rfl) _) fun _ =>
    Keeps.bind (keeps_whenGiven ?_) fun _ => Keeps.bind (keeps_whenGiven ?_) fun _ => Keeps.pure _
  · rintro t rfl
    exact keeps_untouched_replaceThumbnail (by simp [touches]) t
  · rintro c rfl
    exact keeps_untouched_replaceContent (fun key hkey => by simp [touches, hkey]) (by simp [touches]) c

end Changing

theorem keeps_untouched_deleteVideo (s : Settings) (db : Database) (video : Int) :
    Keeps (World.untouched ((Call.deleteVideo video).touches s db)) (Service.deleteVideo s video) :=
  keeps_transaction (fun _ _ => rfl) <|
    Keeps.bind (keeps_video video) fun _ => Keeps.bind (keeps_modifyDatabase (fun _ _ => rfl) _) fun _ =>
      keeps_untouched_removeFolder fun _ hkey => hkey

/-- Which videos the user owns is read before their rows are removed. -/
theorem untouched_deleteUser (s : Settings) (id : String) (w : World) :
    World.untouched ((Call.deleteUser id).touches s w.db) (Service.deleteUser s id w).2 =
      World.untouched ((Call.deleteUser id).touches s w.db) w := by
  rw [Service.deleteUser, untouched_transaction]
  rcases hfound : findUser id w with ⟨e | u, w₁⟩
  · rw [bind_of_error hfound]
    exact (keeps_user id .noUser).of_eq hfound
  · obtain ⟨-, rfl⟩ := user_eq_ok.mp hfound
    rw [bind_of_ok hfound, database_bind]
    refine Keeps.bind (keeps_modifyDatabase (fun _ _ => rfl) _) (fun _ => ?_) w₁
    refine Keeps.bind (keeps_untouched_removeFolder fun key hkey => ?_) fun _ => Keeps.forEach fun video hvideo => ?_
    · simp [touches, Settings.inFolders, hkey]
    · refine keeps_untouched_removeFolder fun key hkey => ?_
      have hany : (w₁.db.ownedVideos id).any (fun video => Text.startsWith key (s.videoFolder video)) = true :=
        List.any_eq_true.mpr ⟨video, hvideo, hkey⟩
      simp [touches, Settings.inFolders, hany]

end Service

namespace Call

open Service

/-- However a call ends, it leaves the objects alone that it does not touch. -/
theorem untouched_perform {s : Settings} {c : Call} (hc : c.changesObjects = true) (w : World) :
    World.untouched (c.touches s w.db) (c.perform s w).2 = World.untouched (c.touches s w.db) w := by
  cases c <;> try simp [changesObjects] at hc
  case deleteUser id => exact untouched_deleteUser s id w
  case changeVideo video changes thumbnail content =>
    rw [perform, ignoring_snd]
    exact keeps_untouched_updateVideo s w.db video changes thumbnail content w
  case deleteVideo video => exact keeps_untouched_deleteVideo s w.db video w

/-- A call that fails leaves the tables alone. -/
theorem db_of_error {s : Settings} {c : Call} (hc : c.changesObjects = true) {w w' : World} {e : Failure}
    (h : c.perform s w = (.error e, w')) : w'.db = w.db := by
  have heffect := effect_of_error h
  generalize w'.db = db at heffect ⊢
  cases c <;> try simp [changesObjects] at hc
  all_goals
    cases heffect
    rfl

end Call

/-! ### When a call answers -/

namespace Service

variable {s : Settings}

theorem replaceThumbnail_store {folder thumbnail : String} {w w' : World}
    (h : replaceThumbnail s folder thumbnail w = (.ok (), w')) :
    w'.store = w.store.insert (folder ++ s.thumbnailFilename) thumbnail := by
  obtain ⟨_, w₁, hput, hprocess⟩ := bind_eq_ok.mp h
  obtain ⟨-, rfl⟩ := putObject_eq_ok.mp hput
  exact (keeps_process (f := World.store) (fun _ _ => rfl) (fun _ _ => rfl) _ _ _).of_eq hprocess

theorem replaceContent_store {folder content : String} {w w' : World}
    (h : replaceContent s folder content w = (.ok (), w')) :
    w'.store = (w.store.eraseAll (s.isContent folder)).insert (folder ++ s.videoFilename) content := by
  rw [replaceContent_eq] at h
  obtain ⟨_, w₁, hremoved, hput⟩ := bind_eq_ok.mp h
  obtain ⟨_, w₂, hputted, hprocess⟩ := bind_eq_ok.mp hput
  obtain ⟨-, rfl⟩ := putObject_eq_ok.mp hputted
  obtain rfl := removeUnder_eq_ok hremoved
  exact (keeps_process (f := World.store) (fun _ _ => rfl) (fun _ _ => rfl) _ _ _).of_eq hprocess

/-- What a change of a video that answered leaves of the store. -/
theorem updateVideo_store {video : Int} {changes : VideoChanges} {thumbnail content : Option String} {w w' : World} {v : Video}
    (h : updateVideo s video changes thumbnail content w = (.ok v, w')) :
    w'.store = s.withFiles (s.videoFolder video) thumbnail content w.store := by
  rw [updateVideo_eq] at h
  obtain ⟨v₀, -, -, hrest⟩ := video_bind_eq_ok.mp (transaction_eq_ok.mp h)
  rw [modifyDatabase_bind] at hrest
  obtain ⟨_, w₁, hthumbnail, hrest⟩ := bind_eq_ok.mp hrest
  obtain ⟨_, w₂, hcontent, hpure⟩ := bind_eq_ok.mp hrest
  have hfirst : w₁.store = s.withFiles (s.videoFolder video) thumbnail none w.store := by
    cases thumbnail with
    | none => rw [(pure_eq_ok.mp hthumbnail).2]; rfl
    | some t =>
      have hreplaced := replaceThumbnail_store hthumbnail
      exact hreplaced
  have hsecond : w₂.store = s.withFiles (s.videoFolder video) none content w₁.store := by
    cases content with
    | none => rw [(pure_eq_ok.mp hcontent).2]; rfl
    | some c => exact replaceContent_store hcontent
  rw [(pure_eq_ok.mp hpure).2, hsecond, hfirst]
  rfl

end Service

namespace Call

open Service

/-- The tables and the store that a call leaves when it answers. -/
theorem tables_and_leaves {s : Settings} {c : Call} (hc : c.changesObjects = true) {w w' : World}
    (h : c.perform s w = (.ok (), w')) : w'.db = c.tables w.db ∧ w'.store = c.leaves s w.db w.store := by
  cases c <;> try simp [changesObjects] at hc
  case deleteUser id =>
    obtain ⟨-, rfl⟩ := deleteUser_eq_ok h
    exact ⟨rfl, rfl⟩
  case changeVideo video changes thumbnail content =>
    obtain ⟨v, hv⟩ := ignoring_eq_ok h
    obtain ⟨-, -, -, hdb⟩ := updateVideo_eq_ok hv
    exact ⟨hdb, updateVideo_store hv⟩
  case deleteVideo video =>
    obtain ⟨-, rfl⟩ := deleteVideo_eq_ok h
    exact ⟨rfl, rfl⟩

/-- What stood under the keys that a call touches does not show in the store that it leaves. -/
theorem leaves_of_untouched {s : Settings} {db : Database} {c : Call} (hc : c.changesObjects = true) {store store' : ObjectStore}
    (h : (store.eraseAll (c.touches s db)).objects = (store'.eraseAll (c.touches s db)).objects) :
    (c.leaves s db store).objects = (c.leaves s db store').objects := by
  cases c <;> try simp [changesObjects] at hc
  case deleteUser id => exact h
  case deleteVideo video => exact h
  case changeVideo video changes thumbnail content =>
    have hcontent : ∀ st st' : ObjectStore,
        (st.eraseAll ((changeVideo video changes none content).touches s db)).objects =
          (st'.eraseAll ((changeVideo video changes none content).touches s db)).objects →
        (s.withFiles (s.videoFolder video) none content st).objects =
          (s.withFiles (s.videoFolder video) none content st').objects := by
      intro st st' hst
      cases content with
      | none =>
        rw [ObjectStore.eraseAll_of_false fun _ _ => rfl, ObjectStore.eraseAll_of_false fun _ _ => rfl] at hst
        exact hst
      | some c =>
        refine ObjectStore.insert_congr ?_ c
        rw [ObjectStore.eraseAll_eraseAll, ObjectStore.eraseAll_eraseAll]
        exact hst
    cases thumbnail with
    | none => exact hcontent store store' h
    | some t =>
      refine hcontent (store.insert _ t) (store'.insert _ t) ?_
      exact ObjectStore.eraseAll_insert_congr h t

end Call

/-! ## Healthy worlds -/

/-- A world in which no fault strikes the store, every queue takes messages and every reply to come is affirmative. -/
structure World.Healthy (w : World) : Prop where
  store : ∀ operation key, (strike operation key w.store.rules).1 = none
  queues : w.broker.down = []
  replies : ∀ reply ∈ w.broker.replies, Service.Affirmative reply

namespace Service

variable {α β : Type}

/-- A call that answers in every healthy world, and leaves it healthy. -/
def Unfailing (x : Service α) : Prop := ∀ w, w.Healthy → ∃ a w', x w = (.ok a, w') ∧ w'.Healthy

theorem Unfailing.pure (a : α) : Unfailing (Pure.pure a : Service α) := fun w hw => ⟨a, w, rfl, hw⟩

theorem Unfailing.bind {x : Service α} {f : α → Service β} (hx : Unfailing x) (hf : ∀ a, Unfailing (f a)) :
    Unfailing (x >>= f) := by
  intro w hw
  obtain ⟨a, w₁, ha, hw₁⟩ := hx w hw
  obtain ⟨b, w₂, hb, hw₂⟩ := hf a w₁ hw₁
  exact ⟨b, w₂, by rw [bind_of_ok ha, hb], hw₂⟩

theorem Unfailing.forEach {f : α → Service Unit} (hf : ∀ a, Unfailing (f a)) : ∀ l, Unfailing (Service.forEach f l)
  | [] => Unfailing.pure ()
  | a :: l => Unfailing.bind (hf a) fun _ => Unfailing.forEach hf l

theorem unfailing_whenGiven {f : α → Service Unit} (hf : ∀ a, Unfailing (f a)) (given : Option α) :
    Unfailing (whenGiven f given) := by
  cases given with
  | none => exact Unfailing.pure ()
  | some a => exact hf a

theorem unfailing_modifyDatabase (g : Database → Database) : Unfailing (modifyDatabase g) :=
  fun _ hw => ⟨(), _, rfl, hw.store, hw.queues, hw.replies⟩

/-- An operation on the store does not fail when its effect does not and leaves the faults to come as they are. -/
theorem unfailing_storeStep {operation : StoreOperation} {key : String} {effect : ObjectStore → Except Failure α × ObjectStore}
    (h : ∀ store, ∃ a, (effect store).1 = .ok a ∧ (effect store).2.rules = store.rules) :
    Unfailing (storeStep operation key effect) := by
  intro w hw
  obtain ⟨a, ha, hrules⟩ := h w.store
  refine ⟨a, { w with store := (effect w.store).2 }, ?_, ?_, hw.queues, hw.replies⟩
  · exact storeStep_eq_ok.mpr ⟨hw.store operation key, _, Prod.ext ha rfl, rfl⟩
  · intro operation key
    rw [hrules]
    exact hw.store operation key

theorem unfailing_putObject (key content : String) : Unfailing (putObject key content) :=
  unfailing_storeStep fun _ => ⟨(), rfl, rfl⟩

theorem unfailing_removeUnder (path : String) (p : String → Bool) : Unfailing (removeUnder path p) :=
  Unfailing.bind (unfailing_storeStep fun _ => ⟨_, rfl, rfl⟩) fun _ =>
    Unfailing.forEach (fun _ => unfailing_storeStep fun _ => ⟨(), rfl, rfl⟩) _

theorem unfailing_removeFolder (path : String) : Unfailing (removeFolder path) := by
  rw [removeFolder_eq_removeUnder]
  exact unfailing_removeUnder path _

/-- A request is submitted where every queue takes messages. -/
theorem unfailing_submit (queue path : String) : Unfailing (submit queue path) := by
  intro w hw
  refine ⟨_, _, submit_eq_ok.mpr ⟨?_, rfl, rfl⟩, hw.store, hw.queues, hw.replies⟩
  rw [hw.queues]
  exact List.not_mem_nil

/-- Waiting uses up one of the replies to come, which are affirmative. -/
theorem unfailing_awaitReply (seconds : Int) : Unfailing (awaitReply seconds) := by
  intro w hw
  refine ⟨(), _, awaitReply_eq_ok.mpr ⟨fun reply hreply => ?_, rfl⟩, hw.store, hw.queues, fun reply hreply => ?_⟩
  · exact hw.replies reply (List.mem_of_mem_take hreply)
  · exact hw.replies reply (List.mem_of_mem_drop hreply)

theorem unfailing_process (queue path : String) (seconds : Int) : Unfailing (process queue path seconds) :=
  Unfailing.bind (unfailing_submit queue path) fun _ => unfailing_awaitReply seconds

theorem unfailing_replaceThumbnail (s : Settings) (folder thumbnail : String) :
    Unfailing (replaceThumbnail s folder thumbnail) :=
  Unfailing.bind (unfailing_putObject _ _) fun _ => unfailing_process _ _ _

theorem unfailing_replaceContent (s : Settings) (folder content : String) : Unfailing (replaceContent s folder content) := by
  rw [replaceContent_eq]
  exact Unfailing.bind (unfailing_removeUnder _ _) fun _ =>
    Unfailing.bind (unfailing_putObject _ _) fun _ => unfailing_process _ _ _

/-- Once the video is found, nothing of a change of it fails in a healthy world. -/
theorem updateVideo_of_found (s : Settings) (changes : VideoChanges) (thumbnail content : Option String) {video : Int} {w : World}
    {v : Video} (hfits : fitsColumn video = true) (hv : w.db.video? video = some v) (hw : w.Healthy) :
    ∃ a w', updateVideo s video changes thumbnail content w = (.ok a, w') := by
  have hrest : Unfailing (modifyDatabase (·.updateVideo video changes.apply) >>= fun _ =>
      whenGiven (replaceThumbnail s (s.videoFolder video)) thumbnail >>= fun _ =>
        whenGiven (replaceContent s (s.videoFolder video)) content >>= fun _ => pure (changes.apply v)) :=
    Unfailing.bind (unfailing_modifyDatabase _) fun _ =>
      Unfailing.bind (unfailing_whenGiven (unfailing_replaceThumbnail s _) thumbnail) fun _ =>
        Unfailing.bind (unfailing_whenGiven (unfailing_replaceContent s _) content) fun _ => Unfailing.pure _
  obtain ⟨a, w', ha, -⟩ := hrest w hw
  rw [updateVideo_eq]
  exact ⟨a, w', transaction_eq_ok.mpr (video_bind_eq_ok.mpr ⟨v, hfits, hv, ha⟩)⟩

end Service

namespace Call

open Service

variable {s : Settings} {c : Call} {w w' v : World}

/-- A call that answered with some tables answers with them in every healthy world. -/
theorem answers_of_healthy (hc : c.changesObjects = true) (h : c.perform s w = (.ok (), w')) (hdb : v.db = w.db)
    (hv : v.Healthy) : ∃ v', c.perform s v = (.ok (), v') := by
  cases c <;> try simp [changesObjects] at hc
  case deleteUser id =>
    obtain ⟨u, hu, -⟩ := user_bind_eq_ok.mp (transaction_eq_ok.mp h)
    have hrest : Unfailing (do
        modifyDatabase fun db => (db.removeVideos (v.db.ownedVideos id)).removeUser id
        removeFolder (s.userFolder id)
        Service.forEach (fun video => removeFolder (s.videoFolder video)) (v.db.ownedVideos id)) :=
      Unfailing.bind (unfailing_modifyDatabase _) fun _ => Unfailing.bind (unfailing_removeFolder _) fun _ =>
        Unfailing.forEach (fun _ => unfailing_removeFolder _) _
    obtain ⟨⟨⟩, v', hv', -⟩ := hrest v hv
    exact ⟨v', transaction_eq_ok.mpr (user_bind_eq_ok.mpr ⟨u, hdb ▸ hu, hv'⟩)⟩
  case changeVideo video changes thumbnail content =>
    obtain ⟨a, ha⟩ := ignoring_eq_ok h
    obtain ⟨found, hfits, hfound, -⟩ := video_bind_eq_ok.mp (transaction_eq_ok.mp ha)
    obtain ⟨a', v', hv'⟩ := updateVideo_of_found s changes thumbnail content hfits (hdb ▸ hfound) hv
    exact ⟨v', bind_of_ok hv'⟩
  case deleteVideo video =>
    obtain ⟨found, hfits, hfound, -⟩ := video_bind_eq_ok.mp (transaction_eq_ok.mp h)
    have hrest : Unfailing (do
        modifyDatabase (·.removeVideos [video])
        removeFolder (s.videoFolder video)) :=
      Unfailing.bind (unfailing_modifyDatabase _) fun _ => unfailing_removeFolder _
    obtain ⟨⟨⟩, v', hv', -⟩ := hrest v hv
    exact ⟨v', transaction_eq_ok.mpr (video_bind_eq_ok.mpr ⟨found, hfits, hdb ▸ hfound, hv'⟩)⟩

end Call

/-! ## Attempts that fail -/

/-- Two worlds with the same tables and the same objects. Faults, queues, replies, the clock and the identifiers may differ. -/
structure World.SameData (w v : World) : Prop where
  db : w.db = v.db
  objects : w.store.objects = v.store.objects

theorem World.SameData.untouched {w v : World} (h : w.SameData v) (touched : String → Bool) :
    World.untouched touched w = World.untouched touched v := by
  simp only [World.untouched, ObjectStore.eraseAll, h.objects]

/-- A call is made again and again, and fails each time: each attempt finds the tables and the objects that the last one left, in
surroundings of its own. -/
inductive Attempts (s : Settings) (c : Call) : World → World → Prop where
  | none (w : World) : Attempts s c w w
  | another {start last w failed : World} {e : Failure} (before : Attempts s c start last) (same : w.SameData last)
      (fails : c.perform s w = (.error e, failed)) : Attempts s c start failed

namespace Attempts

variable {s : Settings} {c : Call} {start failed : World}

/-- Attempts that fail leave the tables alone, and the objects that the call does not touch. -/
theorem kept (hc : c.changesObjects = true) (h : Attempts s c start failed) :
    failed.db = start.db ∧
      World.untouched (c.touches s start.db) failed = World.untouched (c.touches s start.db) start := by
  induction h with
  | none => exact ⟨rfl, rfl⟩
  | @another last w failed e _ same fails ih =>
    obtain ⟨hdb, huntouched⟩ := ih
    have hw : w.db = start.db := same.db.trans hdb
    refine ⟨(Call.db_of_error hc fails).trans hw, ?_⟩
    have hperform := Call.untouched_perform (s := s) hc w
    rw [fails, hw] at hperform
    rw [hperform, same.untouched, huntouched]

/-- After any number of attempts that failed, the one that is made in a healthy world answers, with the tables and the objects that it
would have left without them. -/
theorem answers (hc : c.changesObjects = true) (h : Attempts s c start failed) {direct done again : World}
    (hdirect : direct.SameData start) (hdone : c.perform s direct = (.ok (), done)) (hagain : again.SameData failed)
    (hhealthy : again.Healthy) : ∃ last, c.perform s again = (.ok (), last) ∧ last.SameData done := by
  obtain ⟨hdb, huntouched⟩ := h.kept hc
  have hsame : again.db = direct.db := hagain.db.trans (hdb.trans hdirect.db.symm)
  obtain ⟨last, hlast⟩ := Call.answers_of_healthy hc hdone hsame hhealthy
  obtain ⟨hdoneDb, hdoneStore⟩ := Call.tables_and_leaves hc hdone
  obtain ⟨hlastDb, hlastStore⟩ := Call.tables_and_leaves hc hlast
  refine ⟨last, hlast, by rw [hlastDb, hdoneDb, hsame], ?_⟩
  rw [hlastStore, hdoneStore, hsame]
  refine Call.leaves_of_untouched hc ?_
  rw [hdirect.db]
  calc World.untouched (c.touches s start.db) again
      = World.untouched (c.touches s start.db) failed := hagain.untouched _
    _ = World.untouched (c.touches s start.db) start := huntouched
    _ = World.untouched (c.touches s start.db) direct := (hdirect.untouched _).symm

end Attempts

/-- The removal of a user or of a video, or the change of a video, that failed at any place for whatever reason can be made again. If it
would have answered at first, in a world with other surroundings, then in a healthy world it answers with what the failure left, and
leaves the tables and the objects that it would have left at first. -/
theorem failed_call_can_be_retried (s : Settings) (c : Call) (hc : c.changesObjects = true) (start failed : World) (e : Failure)
    (hfailed : c.perform s start = (.error e, failed)) (direct done : World) (hdirect : direct.SameData start)
    (hdone : c.perform s direct = (.ok (), done)) (again : World) (hagain : again.SameData failed) (hhealthy : again.Healthy) :
    ∃ last, c.perform s again = (.ok (), last) ∧ last.SameData done :=
  (Attempts.another (.none start) ⟨rfl, rfl⟩ hfailed).answers hc hdirect hdone hagain hhealthy

/-! ### A change and a departure that broke off -/

namespace BrokenOff

/-- Ann has one video. The folder of another video begins like the one of hers. -/
def tables : Database where
  users := [⟨"ann", "Ann", none, none, "ROLE_USER", 0⟩, ⟨"bob", "Bob", none, none, "ROLE_USER", 0⟩]
  videos := [⟨1, "ann", "Surf", none, "Sport", "en", 60, 0, 0⟩]
  likes := [⟨"bob", 1, 5⟩]

def objects : List (String × String) :=
  [("users/ann/me.jpg", "ann"), ("videos/1/index.m3u8", "old"), ("videos/10/index.m3u8", "other")]

def healthy : World := { db := tables, store := { objects := objects } }

/-- The processing service does not like the new content. -/
def unprocessed : World := { healthy with broker := { replies := [some "false"] } }

/-- The playlist of the video cannot be removed. -/
def stuck : World := { healthy with store := { objects := objects, rules := [⟨.remove, "1/index", .unreachable, none⟩] } }

def change : Call := .changeVideo 1 { title := some "Surfing" } none (some "film")

def departure : Call := .deleteUser "ann"

/-- What an attempt left, in a healthy world. -/
def after (attempt : Except Failure Unit × World) : World :=
  { db := attempt.2.db, store := { objects := attempt.2.store.objects }, serial := attempt.2.serial }

theorem healthy_after (attempt : Except Failure Unit × World) : (after attempt).Healthy where
  store _ _ := rfl
  queues := rfl
  replies := by simp [after]

/-- The change fails once the old content is gone and the new one is there, and the departure between the two folders. The second
attempts leave what attempts in the healthy world leave. -/
theorem second_attempts :
    (change.perform {} unprocessed).2.store.objects =
        [("users/ann/me.jpg", "ann"), ("videos/10/index.m3u8", "other"), ("videos/1/index.mp4", "film")] ∧
      (∃ last, change.perform {} (after (change.perform {} unprocessed)) = (.ok (), last) ∧
        last.SameData (change.perform {} healthy).2) ∧
      (departure.perform {} stuck).2.store.objects = [("videos/1/index.m3u8", "old"), ("videos/10/index.m3u8", "other")] ∧
      ∃ last, departure.perform {} (after (departure.perform {} stuck)) = (.ok (), last) ∧
        last.SameData (departure.perform {} healthy).2 := by
  have hchange : (change.perform {} unprocessed).1 = .error (.refused .negativeReply) := by decide +kernel
  have hchanged : (change.perform {} healthy).1 = .ok () := by decide +kernel
  have hdeparture : (departure.perform {} stuck).1 = .error (.refused (.storeFailed "An unspecified error occurred")) := by
    decide +kernel
  have hdeparted : (departure.perform {} healthy).1 = .ok () := by decide +kernel
  refine ⟨by decide +kernel, ?_, by decide +kernel, ?_⟩
  · exact failed_call_can_be_retried {} change rfl unprocessed _ _ (Prod.ext hchange rfl) healthy _ ⟨rfl, rfl⟩
      (Prod.ext hchanged rfl) _ ⟨rfl, rfl⟩ (healthy_after _)
  · exact failed_call_can_be_retried {} departure rfl stuck _ _ (Prod.ext hdeparture rfl) healthy _ ⟨rfl, rfl⟩
      (Prod.ext hdeparted rfl) _ ⟨rfl, rfl⟩ (healthy_after _)

end BrokenOff

end VideoShare
