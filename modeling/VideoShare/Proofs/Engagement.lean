import VideoShare.Proofs.DecimalText
import VideoShare.Proofs.LikeEdges
import VideoShare.Proofs.References

/-!
# Engagement counts

How many users like a video, and how many have subscribed to a channel, can be read in several places: in what is shown of videos,
which counts the likes of all of them in one go; in a search for a range of likes or of subscribers, which counts them row by row;
in what a user is told about one video or channel; and in the list of those that a user likes or has subscribed to. All of them give
one number. It is the rows of a table that the first two count, and users that the others do: these are as many because no user has
two rows for one key (`Keyed`), and because the user of each row is in the tables (`NoDangling`).
-/

namespace VideoShare

/-! ## Rows and their users -/

/-- Rows whose owners are users, no two of them with one owner and one key: there are as many rows with a key as users who own one. -/
theorem countP_rows_eq_countP_users {ρ κ : Type} [DecidableEq κ] {rows : List ρ} {owner : ρ → String} {key : ρ → κ}
    {users : List User} (hrows : (rows.map fun r => (owner r, key r)).Nodup) (husers : (users.map (·.id)).Nodup)
    (howners : ∀ r ∈ rows, ∃ u ∈ users, u.id = owner r) (k : κ) :
    rows.countP (fun r => key r == k) = users.countP fun u => rows.any fun r => owner r == u.id && key r == k := by
  have howned : ((rows.filter fun r => key r == k).map owner).Nodup := by
    have hswapped : (rows.map fun r => (key r, owner r)).Nodup := by
      have := hrows.map Prod.swap_injective
      rwa [List.map_map] at this
    exact nodup_map_filter_owned (o := k) (fun r hr => by simpa using hr) hswapped
  have howning : ((users.filter fun u => rows.any fun r => owner r == u.id && key r == k).map (·.id)).Nodup :=
    nodup_map_filter _ husers
  -- the owners of the rows with the key, and the ids of the users who own such a row, are the same strings
  have hsame : ((rows.filter fun r => key r == k).map owner).Perm
      ((users.filter fun u => rows.any fun r => owner r == u.id && key r == k).map (·.id)) := by
    refine (List.perm_ext_iff_of_nodup howned howning).mpr fun id => ?_
    simp only [List.mem_map, List.mem_filter, List.any_eq_true, Bool.and_eq_true, beq_iff_eq]
    constructor
    · rintro ⟨r, ⟨hr, hk⟩, rfl⟩
      obtain ⟨u, hu, hid⟩ := howners r hr
      exact ⟨u, ⟨hu, r, hr, hid.symm, hk⟩, hid⟩
    · rintro ⟨u, ⟨-, r, hr, howner, hk⟩, rfl⟩
      exact ⟨r, ⟨hr, hk⟩, howner⟩
  rw [List.countP_eq_length_filter, List.countP_eq_length_filter]
  simpa using hsame.length_eq

namespace Database

/-- In tables with keys a user is found under the user's id. -/
theorem Keyed.user?_of_mem {db : Database} (h : db.Keyed) {u : User} (hu : u ∈ db.users) : db.user? u.id = some u := by
  cases hfound : db.user? u.id with
  | none => exact absurd ⟨u, hu, rfl⟩ (user?_eq_none_iff.mp hfound)
  | some u' =>
    obtain ⟨hmem, hid⟩ := user?_eq_some hfound
    rw [List.inj_on_of_nodup_map h.users hmem hu hid]

/-- A video has as many likes as there are users with an edge to it. -/
theorem likeCount_eq_countP {db : Database} (hkeys : db.Keyed) (hrefs : db.NoDangling) (video : Int) :
    db.likeCount video = db.users.countP fun u => decide ((u.id, video) ∈ db.edges) := by
  rw [likeCount, countP_rows_eq_countP_users hkeys.likes hkeys.users hrefs.likers video]
  refine List.countP_congr fun u _ => ?_
  simp [mem_edges, Like.edge]

/-- A channel has as many subscribers as there are users with a subscription to it. -/
theorem subscriberCount_eq_countP {db : Database} (hkeys : db.Keyed) (hrefs : db.NoDangling) (channel : String) :
    db.subscriberCount channel = db.users.countP fun u => (db.subscription? u.id channel).isSome := by
  rw [subscriberCount, countP_rows_eq_countP_users hkeys.subscriptions hkeys.users hrefs.subscribers channel]
  refine List.countP_congr fun u _ => ?_
  rw [subscription?, List.isSome_find?]

/-! ## What is shown of videos -/

/-- The likes of a video that is asked for are found by counting video by video, with none where there is no entry. -/
theorem lookup_likesByVideo {db : Database} {ids : List Int} {id : Int} (h : id ∈ ids) :
    ((db.likesByVideo ids).lookup id).getD 0 = db.likeCount id := by
  have hcount : ((db.likes.map (·.videoId)).filter ids.contains).count id = db.likeCount id := by
    rw [List.count_filter (List.contains_iff_mem.mpr h), List.count, List.countP_map]
    rfl
  have hlookup : ∀ keys : List Int, (keys.map fun i => (i, ((db.likes.map (·.videoId)).filter ids.contains).count i)).lookup id =
      if id ∈ keys then some (db.likeCount id) else none := by
    intro keys
    induction keys with
    | nil => rfl
    | cons i keys ih =>
      by_cases hi : id = i
      · subst hi
        simp [hcount]
      · have hne : (id == i) = false := by simpa using hi
        simp only [List.map_cons, List.lookup_cons, hne, ih, List.mem_cons, hi, false_or]
  rw [likesByVideo, hlookup]
  split
  · rfl
  · rename_i hmissing
    rw [List.mem_eraseDups, ← List.count_eq_zero, hcount] at hmissing
    exact hmissing.symm

/-- What is shown of videos is what is shown of each of them with its number of likes. -/
theorem views_eq (db : Database) (videos : List Video) :
    db.views videos = videos.map fun v => v.view (db.likeCount v.id) := by
  refine List.map_congr_left fun v hv => ?_
  rw [lookup_likesByVideo (List.mem_map_of_mem hv)]

/-! ## Searches with one option -/

end Database

theorem readConditions_single {γ : Type} (ofOption : String → String → Except Refusal γ) (option value : String) :
    readConditions ofOption [option] [value] = (ofOption (Text.upper option) value).map fun c => [c] := by
  simp only [readConditions, pairOptions, List.length_singleton, if_true, List.map_cons, List.map_nil, List.zip_cons_cons,
    List.zip_nil_right]
  cases h : ofOption (Text.upper option) value <;> simp [bind, Except.bind, Except.map, h, pure, Except.pure]

/-- The condition that is read from a printed range is about the two integers printed. -/
theorem map_parseRange_eq_ok {γ : Type} {f : Int × Int → γ} {option : String} {low high : Int} {c : γ}
    (h : (parseRange option (Text.printedRange low high)).map f = .ok c) : c = f (low, high) := by
  cases hrange : parseRange option (Text.printedRange low high) with
  | error r => simp [hrange, Except.map] at h
  | ok r =>
    rw [hrange] at h
    rw [← Except.ok.inj h, parseRange_printedRange_eq_ok hrange]

/-- A search with one option finds a row when the condition can be read, its integers fit into columns, and the row is among those
that the condition leaves. -/
theorem search_single {γ ρ : Type} {ofOption : String → String → Except Refusal γ} {integers : γ → List Int}
    {rows : List γ → List ρ} {option value : String} {a : ρ} :
    (∃ found, search ofOption integers rows [option] [value] = .ok found ∧ a ∈ found) ↔
      ∃ c, ofOption (Text.upper option) value = .ok c ∧ (∀ n ∈ integers c, fitsColumn n = true) ∧ a ∈ rows [c] := by
  rw [search, readConditions_single]
  cases hread : ofOption (Text.upper option) value with
  | error r => simp [Except.map]
  | ok c =>
    simp only [Except.map, List.flatMap_singleton, ← checkColumns_eq_ok]
    cases hfits : checkColumns (integers c) with
    | error e => simp [hfits]
    | ok u => simp [hfits]

namespace Database

theorem mem_videosMeeting_single {db : Database} {c : VideoCondition} {v : Video} :
    v ∈ db.videosMeeting [c] ↔ v ∈ db.videos ∧ c.holds db v = true := by
  simp [videosMeeting, List.mem_mergeSort, List.mem_filter]

theorem mem_usersMeeting_single {db : Database} {c : UserCondition} {u : User} :
    u ∈ db.usersMeeting [c] ↔ u ∈ db.users ∧ c.holds db u = true := by
  simp [usersMeeting, List.mem_mergeSort, List.mem_filter]

/-- The range of a single number of likes finds the videos with so many. -/
theorem findVideos_likes {db : Database} {n : Int} {v : Video} :
    (∃ videos, db.findVideos ["BY_LIKES"] [Text.printedRange n n] = .ok videos ∧ v ∈ videos) ↔
      fitsColumn n = true ∧ v ∈ db.videos ∧ n = db.likeCount v.id := by
  have hupper : Text.upper "BY_LIKES" = "BY_LIKES" := by decide
  have hoption : VideoCondition.ofOption "BY_LIKES" (Text.printedRange n n) =
      (parseRange "BY_LIKES" (Text.printedRange n n)).map fun r => .likesBetween r.1 r.2 := rfl
  simp only [findVideos, search_single, mem_videosMeeting_single, hupper, hoption]
  constructor
  · rintro ⟨c, hc, hfits, hv, hholds⟩
    obtain rfl := map_parseRange_eq_ok hc
    simp only [VideoCondition.holds, Bool.and_eq_true, decide_eq_true_eq] at hholds
    exact ⟨hfits n (by simp [VideoCondition.integers]), hv, by omega⟩
  · rintro ⟨hfits, hv, hn⟩
    refine ⟨.likesBetween n n, by rw [parseRange_printedRange hfits hfits]; rfl, ?_, hv, ?_⟩
    · simp [VideoCondition.integers, hfits]
    · simp [VideoCondition.holds, hn]

/-- The range of a single number of subscribers finds the channels with so many. -/
theorem findUsers_subscribers {db : Database} {n : Int} {u : User} :
    (∃ users, db.findUsers ["BY_SUBSCRIBERS"] [Text.printedRange n n] = .ok users ∧ u ∈ users) ↔
      fitsColumn n = true ∧ u ∈ db.users ∧ n = db.subscriberCount u.id := by
  have hupper : Text.upper "BY_SUBSCRIBERS" = "BY_SUBSCRIBERS" := by decide
  have hoption : UserCondition.ofOption "BY_SUBSCRIBERS" (Text.printedRange n n) =
      (parseRange "BY_SUBSCRIBERS" (Text.printedRange n n)).map fun r => .subscribersBetween r.1 r.2 := rfl
  simp only [findUsers, search_single, mem_usersMeeting_single, hupper, hoption]
  constructor
  · rintro ⟨c, hc, hfits, hu, hholds⟩
    obtain rfl := map_parseRange_eq_ok hc
    simp only [UserCondition.holds, Bool.and_eq_true, decide_eq_true_eq] at hholds
    exact ⟨hfits n (by simp [UserCondition.integers]), hu, by omega⟩
  · rintro ⟨hfits, hu, hn⟩
    refine ⟨.subscribersBetween n n, by rw [parseRange_printedRange hfits hfits]; rfl, ?_, hu, ?_⟩
    · simp [UserCondition.integers, hfits]
    · simp [UserCondition.holds, hn]

/-- What the columns of the database can hold: the ids of videos are 64-bit integers, and so is the number that the database gives to
each row of a table, so that there are no more rows than such numbers. -/
structure Storable (db : Database) : Prop where
  ids : ∀ v ∈ db.videos, fitsColumn v.id = true
  likes : fitsColumn db.likes.length = true
  subscriptions : fitsColumn db.subscriptions.length = true

/-- Rows that are counted are no more than there are. -/
theorem fitsColumn_countP {ρ : Type} {rows : List ρ} (h : fitsColumn rows.length = true) (p : ρ → Bool) :
    fitsColumn (rows.countP p) = true := by
  have hle : rows.countP p ≤ rows.length := List.countP_le_length
  simp only [fitsColumn, Bool.and_eq_true, decide_eq_true_eq] at h ⊢
  omega

end Database

/-! ## One number, read in three ways -/

namespace World

/-- The number of users of whom a question is answered with yes. -/
def affirmed (w : World) (ask : String → Service Bool) : Nat :=
  w.db.users.countP fun u =>
    match (ask u.id w).1 with
    | .ok answer => answer
    | .error _ => false

/-- The number of users in whose list something stands. -/
def listed {α : Type} [DecidableEq α] (w : World) (list : String → Service (List α)) (a : α) : Nat :=
  w.db.users.countP fun u =>
    match (list u.id w).1 with
    | .ok items => decide (a ∈ items)
    | .error _ => false

/-- One number is read in three ways: of so many users the question is answered with yes, so many users have the item in their list,
and the search for the range of a single number finds the item for this number and for no other. Question and list are answered
for every user, and no call changes anything. -/
structure CountsAgree {α : Type} [DecidableEq α] (w : World) (ask : String → Service Bool) (list : String → Service (List α))
    (search : String → Service (List α)) (a : α) : Prop where
  asked : ∀ u ∈ w.db.users, ∃ answer, ask u.id w = (.ok answer, w)
  listed : ∀ u ∈ w.db.users, ∃ items, list u.id w = (.ok items, w)
  agree : w.affirmed ask = w.listed list a
  found : ∀ n : Int, (∃ items, search (Text.printedRange n n) w = (.ok items, w) ∧ a ∈ items) ↔ n = w.affirmed ask

/-- What a question about each user is answered with is what is counted. -/
theorem affirmed_eq {w : World} {ask : String → Service Bool} {edge : User → Bool}
    (h : ∀ u ∈ w.db.users, ask u.id w = (.ok (edge u), w)) : w.affirmed ask = w.db.users.countP edge := by
  refine List.countP_congr fun u hu => ?_
  rw [h u hu]

/-- Question, list and search agree when all three are about one edge between users and the item. -/
theorem CountsAgree.of_edge {α : Type} [DecidableEq α] {w : World} {ask : String → Service Bool}
    {list : String → Service (List α)} {search : String → Service (List α)} {a : α} {edge : User → Bool}
    (hask : ∀ u ∈ w.db.users, ask u.id w = (.ok (edge u), w))
    (hlist : ∀ u ∈ w.db.users, ∃ items, list u.id w = (.ok items, w) ∧ (a ∈ items ↔ edge u = true))
    (hsearch : ∀ n : Int, (∃ items, search (Text.printedRange n n) w = (.ok items, w) ∧ a ∈ items) ↔
      n = w.db.users.countP edge) : w.CountsAgree ask list search a where
  asked u hu := ⟨edge u, hask u hu⟩
  listed u hu := by
    obtain ⟨items, hitems, -⟩ := hlist u hu
    exact ⟨items, hitems⟩
  agree := by
    rw [affirmed_eq hask]
    refine List.countP_congr fun u hu => ?_
    obtain ⟨items, hitems, hmem⟩ := hlist u hu
    simp only [hitems, decide_eq_true_eq, hmem]
  found n := by rw [hsearch, affirmed_eq hask]

end World

namespace Service

theorem findVideos_apply (options values : List String) (w : World) :
    findVideos options values w = (w.db.findVideos options values, w) := rfl

theorem findUsers_apply (options values : List String) (w : World) :
    findUsers options values w = (w.db.findUsers options values, w) := rfl

/-- Whether a registered user has subscribed to a channel is answered from the tables. -/
theorem hasSubscribed_of_hasUser {w : World} {user channel : String} (h : w.db.HasUser user) :
    hasSubscribed user channel w = (.ok (w.db.subscription? user channel).isSome, w) := by
  obtain ⟨u, hu⟩ := h.found
  rw [hasSubscribed, bind_of_ok (user_eq_ok.mpr ⟨hu, rfl⟩)]
  rfl

/-- The channels that a registered user has subscribed to are those to which there is a subscription of the user. -/
theorem subscribedChannels_of_hasUser {w : World} {user : String} (hdb : w.db.Keyed) (h : w.db.HasUser user) :
    ∃ channels, subscribedChannels user w = (.ok channels, w) ∧
      ∀ c, c ∈ channels ↔ c ∈ w.db.users ∧ (w.db.subscription? user c.id).isSome = true := by
  obtain ⟨u, hu⟩ := h.found
  refine ⟨(w.db.subscriptionsOf user).filterMap fun s => w.db.user? s.channelId, ?_, fun c => ?_⟩
  · rw [subscribedChannels, bind_of_ok (user_eq_ok.mpr ⟨hu, rfl⟩)]
    rfl
  · simp only [Database.subscription?, List.isSome_find?, List.any_eq_true, Bool.and_eq_true, beq_iff_eq, List.mem_filterMap,
      Database.subscriptionsOf, List.mem_mergeSort, List.mem_filter]
    constructor
    · rintro ⟨s, ⟨hs, hsubscriber⟩, hc⟩
      obtain ⟨hmem, hid⟩ := Database.user?_eq_some hc
      exact ⟨hmem, s, hs, hsubscriber, hid.symm⟩
    · rintro ⟨hmem, s, hs, hsubscriber, hchannel⟩
      exact ⟨s, ⟨hs, hsubscriber⟩, by rw [hchannel]; exact hdb.user?_of_mem hmem⟩

end Service

/-! ## Likes and subscribers -/

/-- In every state that calls can reach, and that the columns of the database can hold, all views of engagement agree. What is shown of
videos is one entry for each, in their order and with the number of users who like the video; the number of users whose lists have the
video is the same, and so is the one number of likes for which a search finds it. Channels and their subscribers are counted alike. -/
theorem engagement_counts_agree (s : Settings) (steps : List Step) (w : World) (hw : w.db = replay s steps)
    (hfresh : w.staleLikes = 0) (hsize : w.db.Storable) :
    (∀ videos : List Video, (∀ v ∈ videos, v ∈ w.db.videos) →
      w.db.views videos = videos.map fun v => v.view (w.affirmed fun u => Service.hasLiked u v.id)) ∧
    (∀ v ∈ w.db.videos, w.CountsAgree (fun u => Service.hasLiked u v.id) Service.likedVideos
      (fun range => Service.findVideos ["BY_LIKES"] [range]) v) ∧
    ∀ c ∈ w.db.users, w.CountsAgree (fun u => Service.hasSubscribed u c.id) Service.subscribedChannels
      (fun range => Service.findUsers ["BY_SUBSCRIBERS"] [range]) c := by
  have hkeys : w.db.Keyed := hw ▸ keyed_replay s steps
  have hrefs : w.db.NoDangling := hw ▸ noDangling_replay s steps
  have hasUser : ∀ u ∈ w.db.users, w.db.HasUser u.id := fun u hu => ⟨u, hu, rfl⟩
  have hasked : ∀ v ∈ w.db.videos, ∀ u ∈ w.db.users,
      Service.hasLiked u.id v.id w = (.ok (decide ((u.id, v.id) ∈ w.db.edges)), w) := by
    intro v hv u hu
    have hfound : w.db.missing u.id v.id = none :=
      Database.missing_eq_none.mpr ⟨hasUser u hu, hsize.ids v hv, v, hv, rfl⟩
    exact Service.hasLiked_of_fresh hfound hfresh
  refine ⟨fun videos hvideos => ?_, fun v hv => ?_, fun c hc => ?_⟩
  · rw [Database.views_eq]
    refine List.map_congr_left fun v hv => ?_
    rw [World.affirmed_eq (hasked v (hvideos v hv)), Database.likeCount_eq_countP hkeys hrefs]
  · refine World.CountsAgree.of_edge (hasked v hv) (fun u hu => ?_) fun n => ?_
    · obtain ⟨videos, hanswer, -, hmem⟩ := Service.likedVideos_of_hasUser hkeys (hasUser u hu)
      exact ⟨videos, hanswer, by simp [hmem, hv]⟩
    · have hfits : fitsColumn (w.db.likeCount v.id) = true := Database.fitsColumn_countP hsize.likes _
      simp only [Service.findVideos_apply, Prod.mk.injEq, and_true, Database.findVideos_likes, hv, true_and,
        ← Database.likeCount_eq_countP hkeys hrefs]
      exact and_iff_right_of_imp fun hn => hn ▸ hfits
  · have hanswered : ∀ u ∈ w.db.users,
        Service.hasSubscribed u.id c.id w = (.ok (w.db.subscription? u.id c.id).isSome, w) := fun u hu =>
      Service.hasSubscribed_of_hasUser (hasUser u hu)
    refine World.CountsAgree.of_edge hanswered (fun u hu => ?_) fun n => ?_
    · obtain ⟨channels, hanswer, hmem⟩ := Service.subscribedChannels_of_hasUser hkeys (hasUser u hu)
      exact ⟨channels, hanswer, by simp [hmem, hc]⟩
    · have hfits : fitsColumn (w.db.subscriberCount c.id) = true := Database.fitsColumn_countP hsize.subscriptions _
      simp only [Service.findUsers_apply, Prod.mk.injEq, and_true, Database.findUsers_subscribers, hc, true_and,
        ← Database.subscriberCount_eq_countP hkeys hrefs]
      exact and_iff_right_of_imp fun hn => hn ▸ hfits

/-! ### Bob likes Ann's hills -/

namespace LikedHills

/-- Ann and Bob register, and so does Cal. Ann makes two videos. Bob and Cal like the first, Cal takes the like back, Ann likes both, and
Bob subscribes to Ann's channel. -/
def steps : List Step :=
  [⟨{}, .register ⟨"ann", "Ann", none, none, none⟩⟩,
    ⟨{}, .register ⟨"bob", "Bob", none, none, none⟩⟩,
    ⟨{}, .register ⟨"cal", "Cal", none, none, none⟩⟩,
    ⟨{}, .createVideo none "ann" ⟨"Hills", none, "Travel", some "en", 60⟩ "thumbnail" "content"⟩,
    ⟨{}, .createVideo none "ann" ⟨"Lakes", none, "Travel", some "en", 60⟩ "thumbnail" "content"⟩,
    ⟨{}, .like "bob" 1⟩,
    ⟨{}, .like "cal" 1⟩,
    ⟨{}, .like "cal" 1⟩,
    ⟨{}, .like "ann" 1⟩,
    ⟨{}, .like "ann" 2⟩,
    ⟨{}, .subscribe "bob" "ann"⟩]

def world : World := { db := replay {} steps }

/-- The hills have two likes and the lakes one wherever one looks, and Ann's channel has one subscriber. -/
theorem two_likes_and_one :
    (world.db.views (world.db.videos ++ world.db.videos)).map (·.likes) = [2, 1, 2, 1] ∧
      (∀ v ∈ world.db.videos, world.CountsAgree (fun u => Service.hasLiked u v.id) Service.likedVideos
        (fun range => Service.findVideos ["BY_LIKES"] [range]) v) ∧
      ∀ c ∈ world.db.users, world.CountsAgree (fun u => Service.hasSubscribed u c.id) Service.subscribedChannels
        (fun range => Service.findUsers ["BY_SUBSCRIBERS"] [range]) c := by
  have hsize : world.db.Storable := ⟨by decide, by decide, by decide⟩
  obtain ⟨-, hvideos, hchannels⟩ := engagement_counts_agree {} steps world rfl rfl hsize
  exact ⟨by decide, hvideos, hchannels⟩

end LikedHills

end VideoShare
