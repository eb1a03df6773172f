import VideoShare.Proofs.References

/-!
# Departures

A user who leaves takes everything along and nothing else: the rows that name the user or a video of the user, and the objects in
the folders of the user and of the videos. The videos are found by their owner and their rows removed by their ids, which comes to
the same because no two videos have one id. Since no row dangles, whoever is not registered is named nowhere, and begins with an
empty account, however long ago a user of the same id left.
-/

namespace VideoShare

namespace Database

/-! ## The rows that go and those that stay -/

/-- No row names a user, nor one of some videos. -/
structure Silent (db : Database) (user : String) (gone : List Int) : Prop where
  users : ∀ u ∈ db.users, u.id ≠ user
  owners : ∀ v ∈ db.videos, v.ownerId ≠ user
  videos : ∀ v ∈ db.videos, v.id ∉ gone
  likers : ∀ l ∈ db.likes, l.userId ≠ user
  likedVideos : ∀ l ∈ db.likes, l.videoId ∉ gone
  watchers : ∀ h ∈ db.watches, h.userId ≠ user
  watchedVideos : ∀ h ∈ db.watches, h.videoId ∉ gone
  categoryScores : ∀ s ∈ db.categoryScores, s.userId ≠ user
  languageScores : ∀ s ∈ db.languageScores, s.userId ≠ user
  subscribers : ∀ s ∈ db.subscriptions, s.subscriberId ≠ user
  channels : ∀ s ∈ db.subscriptions, s.channelId ≠ user
  searchers : ∀ s ∈ db.searches, s.userId ≠ user

/-- The tables without the rows that name a user or a video of the user. Every other row stays as it is and where it is. -/
def without (db : Database) (user : String) : Database where
  users := db.users.filter (·.id != user)
  videos := db.videos.filter (·.ownerId != user)
  likes := db.likes.filter fun l => l.userId != user && !(db.ownedVideos user).contains l.videoId
  watches := db.watches.filter fun h => h.userId != user && !(db.ownedVideos user).contains h.videoId
  categoryScores := db.categoryScores.filter (·.userId != user)
  languageScores := db.languageScores.filter (·.userId != user)
  subscriptions := db.subscriptions.filter fun s => s.subscriberId != user && s.channelId != user
  searches := db.searches.filter (·.userId != user)

/-- The videos that a user owns are those that name the user as their owner. -/
theorem mem_ownedVideos {db : Database} {user : String} {id : Int} :
    id ∈ db.ownedVideos user ↔ ∃ v ∈ db.videos, v.ownerId = user ∧ v.id = id := by
  simp [ownedVideos, and_assoc]

/-- Of tables with keys, a video's id is among those that a user owns exactly when the user owns the video. -/
theorem Keyed.mem_ownedVideos_iff {db : Database} (h : db.Keyed) {user : String} {v : Video} (hv : v ∈ db.videos) :
    v.id ∈ db.ownedVideos user ↔ v.ownerId = user := by
  rw [mem_ownedVideos]
  constructor
  · rintro ⟨v', hv', howner, hid⟩
    rw [← h.eq_of_video_id hv' hv hid]
    exact howner
  · intro howner
    exact ⟨v, hv, howner, rfl⟩

/-- Removing a user's videos by their ids and then the user's own rows leaves the tables without both. -/
theorem Keyed.removeUser_removeVideos {db : Database} (h : db.Keyed) (user : String) :
    (db.removeVideos (db.ownedVideos user)).removeUser user = db.without user := by
  have hvideos : db.videos.filter (fun v => !(db.ownedVideos user).contains v.id) = db.videos.filter (·.ownerId != user) := by
    refine List.filter_congr fun v hv => ?_
    rw [Bool.eq_iff_iff]
    simp [h.mem_ownedVideos_iff hv]
  simp only [Database.removeUser, removeScores, Database.removeVideos, without, List.filter_filter, hvideos, Bool.not_or, bne]

/-- Without a user nothing names the user, nor a video that the user owned. -/
theorem Keyed.silent_without {db : Database} (h : db.Keyed) (user : String) :
    (db.without user).Silent user (db.ownedVideos user) := by
  have hlikes : ∀ l ∈ (db.without user).likes, l.userId ≠ user ∧ l.videoId ∉ db.ownedVideos user := fun l hl => by
    simpa using (List.mem_filter.mp hl).2
  have hwatches : ∀ e ∈ (db.without user).watches, e.userId ≠ user ∧ e.videoId ∉ db.ownedVideos user := fun e he => by
    simpa using (List.mem_filter.mp he).2
  have hsubscriptions : ∀ s ∈ (db.without user).subscriptions, s.subscriberId ≠ user ∧ s.channelId ≠ user := fun s hs => by
    simpa using (List.mem_filter.mp hs).2
  have howners : ∀ v ∈ (db.without user).videos, v.ownerId ≠ user := fun v hv => by simpa using (List.mem_filter.mp hv).2
  exact {
    users := fun u hu => by simpa using (List.mem_filter.mp hu).2
    owners := howners
    videos := fun v hv howned => howners v hv ((h.mem_ownedVideos_iff (List.mem_filter.mp hv).1).mp howned)
    likers := fun l hl => (hlikes l hl).1
    likedVideos := fun l hl => (hlikes l hl).2
    watchers := fun e he => (hwatches e he).1
    watchedVideos := fun e he => (hwatches e he).2
    categoryScores := fun s hs => by simpa using (List.mem_filter.mp hs).2
    languageScores := fun s hs => by simpa using (List.mem_filter.mp hs).2
    subscribers := fun s hs => (hsubscriptions s hs).1
    channels := fun s hs => (hsubscriptions s hs).2
    searchers := fun s hs => by simpa using (List.mem_filter.mp hs).2 }

/-- Where no row dangles, nothing names a user who is not registered. -/
theorem NoDangling.silent {db : Database} (h : db.NoDangling) {user : String} (hnone : ¬db.HasUser user) :
    db.Silent user [] where
  users u hu heq := hnone ⟨u, hu, heq⟩
  owners v hv heq := hnone (heq ▸ h.owners v hv)
  videos _ _ := List.not_mem_nil
  likers l hl heq := hnone (heq ▸ h.likers l hl)
  likedVideos _ _ := List.not_mem_nil
  watchers e he heq := hnone (heq ▸ h.watchers e he)
  watchedVideos _ _ := List.not_mem_nil
  categoryScores s hs heq := hnone (heq ▸ h.categoryScores s hs)
  languageScores s hs heq := hnone (heq ▸ h.languageScores s hs)
  subscribers s hs heq := hnone (heq ▸ h.subscribers s hs)
  channels s hs heq := hnone (heq ▸ h.channels s hs)
  searchers s hs heq := hnone (heq ▸ h.searchers s hs)

end Database

/-! ## New accounts -/

/-- What a user finds who is registered and has nothing yet. -/
structure BlankAccount (w : World) (user : String) : Prop where
  videos : ∀ order, Service.videosOfUser user order w = (.ok [], w)
  likes : Service.likedVideos user w = (.ok [], w)
  watches : Service.watchHistory user w = (.ok [], w)
  searches : Service.searchHistory user w = (.ok [], w)
  subscriptions : Service.subscribedChannels user w = (.ok [], w)
  subscribers : w.db.subscriberCount user = 0
  affinity : w.db.affinity user = ⟨[], []⟩

/-- A look-up of a user who is there answers the user. -/
theorem Service.user_bind_of_some {β : Type} {id : String} {r : Refusal} {f : User → Service β} {w : World} {u : User}
    (h : w.db.user? id = some u) : (Service.user id r >>= f) w = f u w :=
  bind_of_ok (user_eq_ok.mpr ⟨h, rfl⟩)

/-- Where nothing names a user, the user's account is blank once the user is registered. -/
theorem Database.Silent.blankAccount {w : World} {user : String} {gone : List Int} (h : w.db.Silent user gone) {u : User}
    (hid : u.id = user) : BlankAccount { w with db := { w.db with users := w.db.users ++ [u] } } user := by
  have hfound : ({ w.db with users := w.db.users ++ [u] } : Database).user? user = some u := by
    have hnone : w.db.users.find? (·.id == user) = none := by simpa [List.find?_eq_none] using h.users
    simp [user?, List.find?_append, hnone, hid]
  have hvideos : w.db.videos.filter (·.ownerId == user) = [] := by simpa [List.filter_eq_nil_iff] using h.owners
  have hlikes : w.db.likes.filter (·.userId == user) = [] := by simpa [List.filter_eq_nil_iff] using h.likers
  have hwatches : w.db.watches.filter (·.userId == user) = [] := by simpa [List.filter_eq_nil_iff] using h.watchers
  have hsearches : w.db.searches.filter (·.userId == user) = [] := by simpa [List.filter_eq_nil_iff] using h.searchers
  have hsubscriptions : w.db.subscriptions.filter (·.subscriberId == user) = [] := by
    simpa [List.filter_eq_nil_iff] using h.subscribers
  have hpositive : ∀ {rows : List Score}, (∀ s ∈ rows, s.userId ≠ user) → positiveScores rows user = [] := by
    intro rows hrows
    simp only [positiveScores, List.map_eq_nil_iff, List.filter_eq_nil_iff]
    intro s hs
    simp [hrows s hs]
  constructor
  case videos =>
    intro order
    rw [Service.videosOfUser, Service.findUser, Service.user_bind_of_some hfound, Service.database_bind]
    cases order <;> simp [videosOf, hvideos, sortVideos]
  case likes =>
    rw [Service.likedVideos, Service.user_bind_of_some hfound, Service.database_bind]
    simp [likesOf, hlikes]
  case watches =>
    rw [Service.watchHistory, Service.user_bind_of_some hfound, Service.database_bind]
    simp [watchesOf, hwatches]
  case searches =>
    rw [Service.searchHistory, Service.user_bind_of_some hfound, Service.database_bind]
    simp [searchesOf, hsearches]
  case subscriptions =>
    rw [Service.subscribedChannels, Service.user_bind_of_some hfound, Service.database_bind]
    simp [subscriptionsOf, hsubscriptions]
  case subscribers => simpa [subscriberCount, List.countP_eq_zero] using h.channels
  case affinity => simp [affinity, hpositive h.categoryScores, hpositive h.languageScores]

/-! ## Departures -/

/-- Whether a key lies in the folder of a user or in that of one of some videos. -/
def Settings.inFolders (s : Settings) (user : String) (videos : List Int) (key : String) : Bool :=
  Text.startsWith key (s.userFolder user) || videos.any fun video => Text.startsWith key (s.videoFolder video)

/-- A departure that answered, from tables that calls have reached. Nothing names the user or a video that the user owned any more,
and no key lies in their folders. The world is as before but for those rows and those objects. Whatever calls follow, the user's
account is blank when the user registers again. -/
theorem deleteUser_erases_exactly (s : Settings) (steps : List Step) (user : String) (w w' : World)
    (hw : w.db = replay s steps) (h : Service.deleteUser s user w = (.ok (), w')) :
    w'.db.Silent user (w.db.ownedVideos user) ∧
      (∀ o ∈ w'.store.objects, Text.startsWith o.1 (s.userFolder user) = false ∧
        ∀ video ∈ w.db.ownedVideos user, Text.startsWith o.1 (s.videoFolder video) = false) ∧
      w' = { w with
        db := w.db.without user
        store := w.store.eraseAll (s.inFolders user (w.db.ownedVideos user)) } ∧
      ∀ (later : List Step) (data : NewUser) (w₁ : World), w₁.db = later.foldl (Step.run s) w'.db → data.id = user →
        ¬w₁.db.HasUser user →
          ∃ w₂, Service.registerUser s data w₁ = (.ok (data.row s w₁.now), w₂) ∧ BlankAccount w₂ user := by
  have hkeyed : w.db.Keyed := hw ▸ keyed_replay s steps
  obtain ⟨-, heq⟩ := Service.deleteUser_eq_ok h
  rw [hkeyed.removeUser_removeVideos] at heq
  have hdb : w'.db = w.db.without user := by rw [heq]
  have hstore : w'.store = w.store.eraseAll (s.inFolders user (w.db.ownedVideos user)) := by
    rw [heq]
    rfl
  refine ⟨?_, ?_, heq, ?_⟩
  · rw [hdb]
    exact hkeyed.silent_without user
  · intro o ho
    rw [hstore] at ho
    have hkept : s.inFolders user (w.db.ownedVideos user) o.1 = false := by simpa using (List.mem_filter.mp ho).2
    simpa [Settings.inFolders] using hkept
  · intro later data w₁ hlater hid hnone
    -- the tables at the time of the registration are those of a longer replay, so no row dangles in them
    have hdeparted : Step.run s (replay s steps) ⟨w, .deleteUser user⟩ = w'.db := by
      have hworld : Step.world ⟨w, .deleteUser user⟩ (replay s steps) = w := by rw [Step.world, ← hw]
      rw [Step.run, hworld]
      exact congrArg (fun r => r.2.db) h
    have hreached : w₁.db = replay s (steps ++ [⟨w, .deleteUser user⟩] ++ later) := by
      rw [hlater, ← hdeparted, ← replay_concat, replay, replay, ← List.foldl_append]
    have hsilent : w₁.db.Silent user [] := (hreached ▸ noDangling_replay s _ : w₁.db.NoDangling).silent hnone
    refine ⟨_, Service.registerUser_of_new (hid ▸ Database.user?_eq_none_iff.mpr hnone), ?_⟩
    exact hsilent.blankAccount hid

/-! ### A departure among others -/

namespace AnnLeaves

def ann : NewUser := ⟨"ann", "Ann", none, none, none⟩

def bob : NewUser := ⟨"bob", "Bob", none, none, none⟩

def clip (title : String) : NewVideo := ⟨title, none, "Sport", some "en", 60⟩

/-- Ann and Bob make a video each, like both, watch Ann's, and subscribe to each other. -/
def steps : List Step :=
  [⟨{}, .register ann⟩, ⟨{}, .register bob⟩,
    ⟨{}, .createVideo none "ann" (clip "Surf") "thumbnail" "content"⟩,
    ⟨{}, .createVideo none "bob" (clip "Golf") "thumbnail" "content"⟩,
    ⟨{}, .like "ann" 1⟩, ⟨{}, .like "ann" 2⟩, ⟨{}, .like "bob" 1⟩, ⟨{}, .like "bob" 2⟩,
    ⟨{ now := 90000000000 }, .watch 1 (some "ann")⟩, ⟨{ now := 90000000000 }, .watch 1 (some "bob")⟩,
    ⟨{}, .subscribe "ann" "bob"⟩, ⟨{}, .subscribe "bob" "ann"⟩, ⟨{}, .addSearch "ann" "surf"⟩]

/-- The keys of other users and videos may begin like those of Ann and of her video. -/
def world : World where
  db := replay {} steps
  store := { objects := [("users/ann/me.jpg", "a"), ("users/anna/me.jpg", "b"), ("videos/1/index.mp4", "c"),
    ("videos/10/index.mp4", "d"), ("videos/2/index.mp4", "e")] }

def leaving : Except Failure Unit × World := Service.deleteUser {} "ann" world

/-- Ann leaves. Bob's like of his own video stays, the objects beside the two folders stay, and Ann can begin anew. -/
theorem erased_and_blank :
    leaving.1 = .ok () ∧ leaving.2.db.Silent "ann" [1] ∧ leaving.2.db.likes = [⟨"bob", 2, 0⟩] ∧
      leaving.2.store.objects = [("users/anna/me.jpg", "b"), ("videos/10/index.mp4", "d"), ("videos/2/index.mp4", "e")] ∧
      ∃ w, Service.registerUser {} ann leaving.2 = (.ok (ann.row {} 0), w) ∧ BlankAccount w "ann" := by
  have hok : leaving.1 = .ok () := by decide +kernel
  have howned : world.db.ownedVideos "ann" = [1] := by decide +kernel
  obtain ⟨hsilent, -, -, hagain⟩ := deleteUser_erases_exactly {} steps "ann" world leaving.2 rfl (Prod.ext hok rfl)
  rw [howned] at hsilent
  have hnone : ¬leaving.2.db.HasUser "ann" := fun ⟨u, hu, hid⟩ => hsilent.users u hu hid
  have hnow : leaving.2.now = 0 := by decide +kernel
  have hregistered := hagain [] ann leaving.2 rfl rfl hnone
  rw [hnow] at hregistered
  exact ⟨hok, hsilent, by decide +kernel, by decide +kernel, hregistered⟩

end AnnLeaves

end VideoShare
