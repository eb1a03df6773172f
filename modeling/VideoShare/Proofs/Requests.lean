import VideoShare.Http.Respond
import VideoShare.Proofs.Shares

/-!
# What requests do to the tables

Whatever a request asks for, it is served at one endpoint at most, and there it makes one call at most that changes the tables. The
call is made on behalf of the caller whom the request names, and the videos it changes or removes are the caller's. That is all that
other users need: a request spares them because its call does.
-/

namespace VideoShare

namespace Service

variable {α β : Type} {s : Settings} {allowed : Call → Prop} {w : World}

/-! ## One call at most -/

/-- What a service call does to the tables: nothing, or what one of some calls does that is made with the tables. -/
def ActsAs (s : Settings) (allowed : Call → Prop) (x : Service α) (w : World) : Prop :=
  (x w).2.db = w.db ∨ ∃ c w₁, allowed c ∧ w₁.db = w.db ∧ (x w).2.db = (c.perform s w₁).2.db

theorem ActsAs.of_keeps {x : Service α} (h : Keeps World.db x) : ActsAs s allowed x w := Or.inl (h w)

/-- The call itself, looked at or not. -/
theorem ActsAs.of_call {x : Service α} {c : Call} (hc : allowed c) (h : (x w).2 = (c.perform s w).2) :
    ActsAs s allowed x w :=
  Or.inr ⟨c, w, hc, rfl, congrArg World.db h⟩

/-- What comes before keeps the tables. -/
theorem ActsAs.after {x : Service α} {f : α → Service β} (hx : Keeps World.db x)
    (hf : ∀ a w₁, x w = (.ok a, w₁) → ActsAs s allowed (f a) w₁) : ActsAs s allowed (x >>= f) w := by
  rcases hw : x w with ⟨e | a, w₁⟩
  · refine Or.inl ?_
    rw [bind_of_error hw]
    exact hx.of_eq hw
  · have hdb : w₁.db = w.db := hx.of_eq hw
    have hact := hf a w₁ hw
    unfold ActsAs
    rw [bind_of_ok hw, ← hdb]
    exact hact

/-- What comes behind keeps the tables. -/
theorem ActsAs.before {x : Service α} {f : α → Service β} (hx : ActsAs s allowed x w) (hf : ∀ a, Keeps World.db (f a)) :
    ActsAs s allowed (x >>= f) w := by
  have hlast : ((x >>= f) w).2.db = (x w).2.db := by
    rcases hw : x w with ⟨e | a, w₁⟩
    · rw [bind_of_error hw]
    · rw [bind_of_ok hw]
      exact hf a w₁
  unfold ActsAs
  rw [hlast]
  exact hx

/-- A call and an answer. -/
theorem ActsAs.answered {x : Service α} {f : α → Service β} (c : Call) (hc : allowed c) (h : (x w).2 = (c.perform s w).2)
    (hf : ∀ a, Keeps World.db (f a)) : ActsAs s allowed (x >>= f) w :=
  .before (.of_call hc h) hf

/-! ## Calls that keep the tables -/

/-- A clean-up keeps what the call before it keeps, if it keeps it itself. -/
theorem keeps_cleaningUp {γ : Type} {f : World → γ} {x : Service α} {cleanup : Service Unit} (hx : Keeps f x)
    (hcleanup : Keeps f cleanup) : Keeps f (cleaningUp x cleanup) := by
  intro w
  rcases hw : cleaningUp x cleanup w with ⟨e | a, w₁⟩
  · obtain ⟨w₂, hfailed, rfl⟩ := cleaningUp_eq_error.mp hw
    exact (hcleanup w₂).trans (hx.of_eq hfailed)
  · exact hx.of_eq (cleaningUp_eq_ok.mp hw)

/-- The store can be worked on without the tables. -/
theorem keeps_db_storeStep (operation : StoreOperation) (key : String) (effect : ObjectStore → Except Failure α × ObjectStore) :
    Keeps World.db (storeStep operation key effect) :=
  keeps_storeStep (fun _ _ => rfl) operation key effect

/-- The search for a new folder keeps what its identifiers and its listings leave alone. -/
theorem keeps_drawFolder {γ : Type} {f : World → γ} (hserial : ∀ w n, f { w with serial := n } = f w)
    (hlist : ∀ path, Keeps f (listObjects path)) (path : String) : ∀ fuel, Keeps f (drawFolder path fuel)
  | 0 => Keeps.bind (fun w => hserial w _) fun _ => Keeps.pure _
  | fuel + 1 => by
    refine Keeps.bind (fun w => hserial w _) fun identifier => Keeps.bind (hlist _) fun keys => ?_
    split
    · exact Keeps.pure _
    · exact keeps_drawFolder hserial hlist path fuel

theorem keeps_freshFolder {γ : Type} {f : World → γ} (hserial : ∀ w n, f { w with serial := n } = f w)
    (hlist : ∀ path, Keeps f (listObjects path)) (path : String) : Keeps f (freshFolder path) :=
  Keeps.bind keeps_world fun _ => keeps_drawFolder hserial hlist path _

theorem keeps_db_uploadImage (s : Settings) (owner : Option String) (path filename queue content : String) :
    Keeps World.db (uploadImage s owner path filename queue content) := by
  unfold uploadImage
  extract_lets root putFor
  have hput : ∀ o, Keeps World.db (putFor o) := by
    intro o
    unfold putFor
    split
    · exact keeps_refuse _
    · refine Keeps.bind (keeps_db_storeStep _ _ _) fun _ => Keeps.bind ?_ fun _ => Keeps.pure _
      exact keeps_cleaningUp (keeps_process (fun _ _ => rfl) (fun _ _ => rfl) _ _ _) (keeps_db_storeStep _ _ _)
  have hfresh : Keeps World.db (freshFolder root) := keeps_freshFolder (fun _ _ => rfl) (fun _ => keeps_db_storeStep _ _ _) root
  cases owner with
  | none => exact Keeps.bind hfresh hput
  | some o =>
    by_cases ho : o = ""
    · simp only [ho, if_true]
      exact Keeps.bind hfresh hput
    · simp only [ho, if_false]
      exact Keeps.bind (Keeps.pure o) hput

theorem keeps_db_uploadPicture (s : Settings) (owner : Option String) (filename content : String) :
    Keeps World.db (uploadPicture s owner filename content) := by
  rw [uploadPicture]
  exact keeps_db_uploadImage _ _ _ _ _ _

theorem keeps_db_uploadThumbnail (s : Settings) (owner : Option String) (filename content : String) :
    Keeps World.db (uploadThumbnail s owner filename content) := by
  rw [uploadThumbnail]
  exact keeps_db_uploadImage _ _ _ _ _ _

theorem keeps_db_deleteImage (s : Settings) (path : String) : Keeps World.db (deleteImage s path) := by
  refine Keeps.bind (keeps_db_storeStep _ _ _) fun _ => ?_
  split
  · exact keeps_fail _
  · split
    · refine Keeps.bind (keeps_db_storeStep _ _ _) fun keys => ?_
      split
      · exact keeps_removeFolder (fun _ _ => rfl) _
      · exact Keeps.pure _
    · exact Keeps.pure _

end Service

/-! ## Endpoints -/

/-- The endpoints at which a call is made. -/
def Call.endpoints : Call → List Http.Endpoint
  | register _ => [.registerUser]
  | changeUser _ _ => [.updateMe, .updateMyPicture]
  | deleteUser _ => [.deleteMe]
  | like _ _ => [.likeVideo]
  | dislike _ _ => [.dislikeVideo]
  | notInterested _ _ => [.notInterested]
  | subscribe _ _ => [.subscribe]
  | unsubscribe _ _ => [.unsubscribe]
  | addSearch _ _ => [.addSearch]
  | deleteSearch _ _ => [.deleteSearch]
  | watch _ _ => [.watchVideo]
  | createVideo _ _ _ _ _ => [.createVideo]
  | changeVideo _ _ _ _ => [.updateVideo]
  | deleteVideo _ => [.deleteVideo]

namespace Http

open Service

section Wrapping

variable {α : Type} {s : Settings} {allowed : Call → Prop} {w : World} {r : Request}

theorem actsAs_asUser {f : String → Service Answer} (h : ∀ me, r.userId? = some me → ActsAs s allowed (f me) w) :
    ActsAs s allowed (asUser r f) w := by
  unfold asUser
  split
  · exact .of_keeps (keeps_refuse _)
  · rename_i me hme
    exact h me hme

theorem actsAs_withFields {fields : Checked α} {f : α → Service Answer} (h : ∀ a, ActsAs s allowed (f a) w) :
    ActsAs s allowed (withFields fields f) w := by
  unfold withFields
  split
  · exact h _
  · exact .of_keeps (Keeps.pure _)

theorem actsAs_withBody {f : Request.Body → Service Answer} (h : ∀ body, ActsAs s allowed (f body) w) :
    ActsAs s allowed (withBody r f) w := by
  unfold withBody
  split
  · exact h _
  · exact .of_keeps (Keeps.pure _)
  · exact .of_keeps (Keeps.pure _)

theorem actsAs_withBodyFields {body : Request.Body} {read : Fields → Checked α} {f : α → Service Answer}
    (h : ∀ a, ActsAs s allowed (f a) w) : ActsAs s allowed (withBodyFields body read f) w := by
  unfold withBodyFields
  split
  · exact h _
  · exact .of_keeps (Keeps.pure _)

theorem actsAs_withForm {f : Form → Service Answer} (h : ∀ form, ActsAs s allowed (f form) w) :
    ActsAs s allowed (withForm r f) w := by
  unfold withForm
  split
  · exact h _
  · exact .of_keeps (Keeps.pure _)

theorem keeps_showVideos {γ : Type} {f : World → γ} (videos : List Video) : Keeps f (showVideos videos) := fun _ => rfl

theorem keeps_showVideo {γ : Type} {f : World → γ} (v : Video) : Keeps f (showVideo v) := fun _ => rfl

end Wrapping

/-! ### Owners -/

section Owners

variable {r : Request} {id : Int} {w w' : World}

/-- Only the owner of a video passes. -/
theorem requireOwner_eq_ok (h : requireOwner r id w = (.ok (), w')) :
    w' = w ∧ ∃ v, w.db.video? id = some v ∧ r.userId? = some v.ownerId := by
  obtain ⟨v, -, hv, hrest⟩ := video_bind_eq_ok.mp h
  by_cases howner : r.userId? = some v.ownerId
  · simp only [howner, ne_eq, not_true_eq_false, if_false] at hrest
    exact ⟨(pure_eq_ok.mp hrest).2, v, hv, howner⟩
  · simp [howner] at hrest

/-- The owner of a video passes, unless its id is too wide for a column. -/
theorem requireOwner_of_owner {v : Video} (hv : w.db.video? id = some v) (howner : r.userId? = some v.ownerId) :
    requireOwner r id w = (.ok (), w) ∨ requireOwner r id w = (.error .integerTooWide, w) := by
  by_cases hfits : fitsColumn id = true
  · exact Or.inl (video_bind_eq_ok.mpr ⟨v, hfits, hv, by simp [howner]⟩)
  · have hwide : video id w = (.error .integerTooWide, w) := by simp [video, hfits]
    exact Or.inr (bind_of_error hwide)

theorem keeps_requireOwner {γ : Type} {f : World → γ} : Keeps f (requireOwner r id) := by
  refine Keeps.bind (keeps_video id) fun v => ?_
  split
  · exact keeps_refuse _
  · exact Keeps.pure _

/-- Everybody else changes nothing, whatever would have come behind. -/
theorem requireOwner_bind_of_not_owner {β : Type} (hnot : ∀ v, w.db.video? id = some v → r.userId? ≠ some v.ownerId)
    (f : Unit → Service β) : ((requireOwner r id >>= f) w).2 = w := by
  rcases hw : requireOwner r id w with ⟨e | ⟨⟩, w₁⟩
  · rw [bind_of_error hw]
    exact (keeps_requireOwner (f := fun w => w)).of_eq hw
  · obtain ⟨-, v, hv, howner⟩ := requireOwner_eq_ok hw
    exact absurd howner (hnot v hv)

end Owners

/-! ### Reading forms -/

theorem map_eq_ok {α β : Type} {f : α → β} {x : Checked α} {b : β} (h : (f <$> x : Checked β) = .ok b) :
    ∃ a, x = .ok a ∧ b = f a := by
  cases x with
  | error es => cases h
  | ok a => exact ⟨a, rfl, (Except.ok.inj h).symm⟩

theorem seq_eq_ok {α β : Type} {f : Checked (α → β)} {x : Checked α} {b : β} (h : (f <*> x : Checked β) = .ok b) :
    ∃ g a, f = .ok g ∧ x = .ok a ∧ b = g a := by
  cases f with
  | error es => cases h
  | ok g =>
    cases x with
    | error es => cases h
    | ok a => exact ⟨g, a, rfl, rfl, (Except.ok.inj h).symm⟩

/-- The id in a form for changes is the one in the path. -/
theorem id_of_read {step : String} {form : Form} {change : ChangeForm} (h : ChangeForm.read step form = .ok change) :
    videoIdOf step = .ok change.id := by
  obtain ⟨withContent, content, hthumbnail, -, rfl⟩ := seq_eq_ok h
  obtain ⟨withThumbnail, thumbnail, hcategory, -, rfl⟩ := seq_eq_ok hthumbnail
  obtain ⟨withCategory, category, hdescription, -, rfl⟩ := seq_eq_ok hcategory
  obtain ⟨withDescription, description, htitle, -, rfl⟩ := seq_eq_ok hdescription
  obtain ⟨withTitle, title, hid, -, rfl⟩ := seq_eq_ok htitle
  obtain ⟨id, hread, rfl⟩ := map_eq_ok hid
  exact hread

/-! ### Endpoints that keep the tables -/

/-- The endpoints that keep the tables. -/
def Endpoint.keepsTables : Endpoint → Bool
  | .root | .findVideos | .searchTitles | .showVideo | .playlist | .segment => true
  | .listUsers | .showUser | .videosOfUser | .likesOfUser | .channelsOfUser => true
  | .watchHistory | .searchHistory | .hasLiked | .hasSubscribed | .recommend => true
  | .uploadPicture | .uploadThumbnail | .defaultPicture | .showImage | .deleteImage => true
  | _ => false

section Serving

variable {allowed : Call → Prop} {w : World} (site : Site) (r : Request) (q : Query) (held : List String)

theorem keeps_findVideos {f : World → Database} (options values : List String) : Keeps f (findVideos options values) :=
  Keeps.bind keeps_database fun _ => keeps_lift _

/-- Looking a user up and reading the tables changes nothing. -/
theorem keeps_user_database {α γ : Type} {f : World → γ} (id : String) (refusal : Refusal) (g : Database → α) :
    Keeps f (user id refusal >>= fun _ => database >>= fun db => pure (g db)) :=
  Keeps.bind (keeps_user id refusal) fun _ => Keeps.bind keeps_database fun _ => Keeps.pure _

theorem keeps_db_listUsers : Keeps World.db (listUsersEndpoint q) := by
  unfold listUsersEndpoint
  dsimp only
  split
  · refine Keeps.bind (Keeps.bind keeps_database fun db => ?_) fun _ => Keeps.pure _
    dsimp only
    split
    · exact Keeps.bind (keeps_refuse _) fun _ => Keeps.pure _
    · exact Keeps.pure _
  · exact Keeps.bind (Keeps.bind keeps_database fun _ => keeps_lift _) fun _ => Keeps.pure _

theorem keeps_recommendations {γ : Type} {f : World → γ} (bounds : FeedBounds) (shuffle : Shuffle) (userId : Option String)
    (excludes : List Int) (languages : List String) (size : Int) (order : Option VideoOrder) :
    Keeps f (recommendations bounds shuffle userId excludes languages size order) := by
  unfold recommendations
  exact Keeps.bind keeps_database fun _ => Keeps.bind keeps_now fun _ => Keeps.bind (keeps_lift _) fun _ => Keeps.pure _

theorem keeps_db_segment (s : Settings) (id : Int) (filename : String) : Keeps World.db (Service.segment s id filename) := by
  unfold Service.segment
  split
  · exact keeps_db_storeStep _ _ _
  · exact keeps_refuse _

theorem keeps_db_pathOfImage (root owner name : String) : Keeps World.db (pathOfImage root owner name) := by
  unfold pathOfImage
  split
  · exact Keeps.pure _
  · exact keeps_refuse _

theorem serve_keepsTables (e : Endpoint) (he : e.keepsTables = true) (s : Settings) :
    ActsAs s allowed (serve site r q held e) w := by
  cases e <;> try cases he
  case root => exact .of_keeps (Keeps.pure _)
  case findVideos =>
    rw [serve, findVideosEndpoint]
    exact actsAs_withFields fun ⟨_, _⟩ => .of_keeps (Keeps.bind (keeps_findVideos _ _) fun _ => keeps_showVideos _)
  case searchTitles =>
    rw [serve, searchTitlesEndpoint]
    exact actsAs_withFields fun _ => .of_keeps (Keeps.bind (keeps_findVideos _ _) fun _ => keeps_showVideos _)
  case showVideo =>
    rw [serve, showVideoEndpoint]
    exact actsAs_withFields fun _ => .of_keeps (Keeps.bind (keeps_video _) fun _ =>
      Keeps.bind (keeps_showVideo _) fun _ => Keeps.pure _)
  case playlist =>
    rw [serve, playlistEndpoint]
    exact actsAs_withFields fun _ => .of_keeps (Keeps.bind (keeps_db_storeStep _ _ _) fun _ => Keeps.pure _)
  case segment =>
    rw [serve, segmentEndpoint]
    exact actsAs_withFields fun _ => .of_keeps (Keeps.bind (keeps_db_segment _ _ _) fun _ => Keeps.pure _)
  case listUsers => exact .of_keeps (keeps_db_listUsers q)
  case showUser => exact .of_keeps (Keeps.bind (keeps_user _ _) fun _ => Keeps.pure _)
  case videosOfUser =>
    rw [serve, videosOfUserEndpoint]
    exact actsAs_withFields fun _ => .of_keeps (Keeps.bind (keeps_user_database _ _ _) fun _ => keeps_showVideos _)
  case likesOfUser => exact .of_keeps (Keeps.bind (keeps_user_database _ _ _) fun _ => keeps_showVideos _)
  case channelsOfUser => exact .of_keeps (Keeps.bind (keeps_user_database _ _ _) fun _ => Keeps.pure _)
  case watchHistory =>
    rw [serve, watchHistoryEndpoint]
    exact actsAs_asUser fun _ _ => .of_keeps (Keeps.bind (keeps_user_database _ _ _) fun _ => keeps_showVideos _)
  case searchHistory =>
    rw [serve, searchHistoryEndpoint]
    exact actsAs_asUser fun _ _ => .of_keeps (Keeps.bind (keeps_user_database _ _ _) fun _ => Keeps.pure _)
  case hasLiked =>
    rw [serve, hasLikedEndpoint]
    refine actsAs_asUser fun me _ => actsAs_withFields fun id => .of_keeps (Keeps.bind ?_ fun _ => Keeps.pure _)
    exact Keeps.bind (keeps_user _ _) fun _ => Keeps.bind (keeps_video _) fun _ =>
      Keeps.bind (keeps_like? (fun _ _ => rfl) _ _) fun _ => Keeps.pure _
  case hasSubscribed =>
    rw [serve, hasSubscribedEndpoint]
    exact actsAs_asUser fun _ _ => .of_keeps (Keeps.bind (keeps_user_database _ _ _) fun _ => Keeps.pure _)
  case recommend =>
    rw [serve, recommendEndpoint]
    exact actsAs_withFields fun ⟨_, _, _⟩ => .of_keeps
      (Keeps.bind (keeps_recommendations _ _ _ _ _ _ _) fun _ => keeps_showVideos _)
  case uploadPicture =>
    rw [serve, uploadPictureEndpoint]
    exact actsAs_withForm fun _ => actsAs_withFields fun _ => .of_keeps
      (Keeps.bind (keeps_db_uploadPicture _ _ _ _) fun _ => Keeps.pure _)
  case uploadThumbnail =>
    rw [serve, uploadThumbnailEndpoint]
    exact actsAs_withForm fun _ => actsAs_withFields fun ⟨_, _⟩ => .of_keeps
      (Keeps.bind (keeps_db_uploadThumbnail _ _ _ _) fun _ => Keeps.pure _)
  case defaultPicture => exact .of_keeps (Keeps.bind (keeps_db_storeStep _ _ _) fun _ => Keeps.pure _)
  case showImage =>
    exact .of_keeps (Keeps.bind (keeps_db_pathOfImage _ _ _) fun _ =>
      Keeps.bind (keeps_db_storeStep _ _ _) fun _ => Keeps.pure _)
  case deleteImage =>
    exact .of_keeps (Keeps.bind (keeps_db_pathOfImage _ _ _) fun _ =>
      Keeps.bind (keeps_db_deleteImage _ _) fun _ => Keeps.pure _)

/-! ### What an endpoint does -/

/-- At every endpoint at most one call is made that changes the tables. It is one of those that belong to the endpoint, and it is made
by whom the request names. -/
theorem serve_actsAs (e : Endpoint) :
    ActsAs site.settings (fun c => e ∈ c.endpoints ∧ c.By w.db r.userId?) (serve site r q held e) w := by
  cases e
  case registerUser =>
    rw [serve, registerUserEndpoint]
    refine actsAs_withBody fun body => actsAs_withBodyFields fun data => ?_
    exact .answered (.register data) ⟨by simp [Call.endpoints], trivial⟩ (ignoring_snd _ w).symm fun _ => Keeps.pure _
  case updateMe =>
    rw [serve, updateMeEndpoint]
    refine actsAs_withBody fun body => actsAs_asUser fun me hme => actsAs_withBodyFields fun changes => ?_
    exact .answered (.changeUser me changes) ⟨by simp [Call.endpoints], hme⟩ (ignoring_snd _ w).symm fun _ => Keeps.pure _
  case updateMyPicture =>
    rw [serve, updateMyPictureEndpoint]
    refine actsAs_withForm fun form => actsAs_asUser fun me hme => actsAs_withFields fun image => ?_
    -- the picture is in the store before the row is changed
    refine .after (keeps_user _ _) fun _ w₁ _ => .after (keeps_db_uploadPicture _ _ _ _) fun path w₂ _ => ?_
    exact .answered (.changeUser me { picture := some path }) ⟨by simp [Call.endpoints], hme⟩ (ignoring_snd _ w₂).symm
      fun _ => Keeps.pure _
  case deleteMe =>
    rw [serve, deleteMeEndpoint]
    refine actsAs_asUser fun me hme => ?_
    exact .answered (.deleteUser me) ⟨by simp [Call.endpoints], hme⟩ rfl fun _ => Keeps.pure _
  case addSearch =>
    rw [serve, addSearchEndpoint]
    refine actsAs_asUser fun me hme => actsAs_withFields fun option => ?_
    exact .answered (.addSearch me option) ⟨by simp [Call.endpoints], hme⟩ rfl fun _ => Keeps.pure _
  case deleteSearch =>
    rw [serve, deleteSearchEndpoint]
    refine actsAs_asUser fun me hme => actsAs_withFields fun option => ?_
    exact .answered (.deleteSearch me option) ⟨by simp [Call.endpoints], hme⟩ rfl fun _ => Keeps.pure _
  case likeVideo =>
    rw [serve, likeVideoEndpoint]
    refine actsAs_asUser fun me hme => actsAs_withFields fun id => ?_
    exact .answered (.like me id) ⟨by simp [Call.endpoints], hme⟩ (ignoring_snd _ w).symm fun ⟨v, _⟩ =>
      Keeps.bind (keeps_showVideo v) fun _ => Keeps.pure _
  case dislikeVideo =>
    rw [serve, dislikeVideoEndpoint]
    refine actsAs_asUser fun me hme => actsAs_withFields fun id => ?_
    exact .answered (.dislike me id) ⟨by simp [Call.endpoints], hme⟩ rfl fun _ => Keeps.pure _
  case notInterested =>
    rw [serve, notInterestedEndpoint]
    refine actsAs_asUser fun me hme => actsAs_withFields fun id => ?_
    exact .answered (.notInterested id me) ⟨by simp [Call.endpoints], hme⟩ rfl fun _ => Keeps.pure _
  case subscribe =>
    rw [serve, subscribeEndpoint]
    refine actsAs_asUser fun me hme => ?_
    exact .answered (.subscribe me _) ⟨by simp [Call.endpoints], hme⟩ rfl fun _ => Keeps.pure _
  case unsubscribe =>
    rw [serve, unsubscribeEndpoint]
    refine actsAs_asUser fun me hme => ?_
    exact .answered (.unsubscribe me _) ⟨by simp [Call.endpoints], hme⟩ rfl fun _ => Keeps.pure _
  case watchVideo =>
    rw [serve, watchVideoEndpoint]
    refine actsAs_withFields fun id => ?_
    exact .answered (.watch id r.userId?) ⟨by simp [Call.endpoints], rfl⟩ (ignoring_snd _ w).symm fun v =>
      Keeps.bind (keeps_showVideo v) fun _ => Keeps.pure _
  case createVideo =>
    rw [serve, createVideoEndpoint]
    refine actsAs_withForm fun form => actsAs_withFields fun form => actsAs_asUser fun owner howner => ?_
    split
    · exact .of_keeps (Keeps.pure _)
    · rename_i data _
      exact .answered (.createVideo site.detected owner data form.thumbnail.content form.content.content)
        ⟨by simp [Call.endpoints], howner⟩ (ignoring_snd _ w).symm fun v => Keeps.bind (keeps_showVideo v) fun _ => Keeps.pure _
  case updateVideo =>
    rw [serve, updateVideoEndpoint]
    refine actsAs_withForm fun form => actsAs_withFields fun form => .after keeps_requireOwner fun _ w₁ hpassed => ?_
    -- who gets here owns the video
    obtain ⟨rfl, howner⟩ := requireOwner_eq_ok hpassed
    split
    · exact .of_keeps (Keeps.pure _)
    · rename_i changes _
      exact .answered
        (.changeVideo form.id changes (form.thumbnail.map (·.content)) (form.content.map (·.content)))
        ⟨by simp [Call.endpoints], howner⟩ (ignoring_snd _ w₁).symm fun v => Keeps.bind (keeps_showVideo v) fun _ => Keeps.pure _
  case deleteVideo =>
    rw [serve, deleteVideoEndpoint]
    refine actsAs_withFields fun id => .after keeps_requireOwner fun _ w₁ hpassed => ?_
    obtain ⟨rfl, howner⟩ := requireOwner_eq_ok hpassed
    exact .answered (.deleteVideo id) ⟨by simp [Call.endpoints], howner⟩ rfl fun _ => Keeps.pure _
  all_goals exact serve_keepsTables site r q held _ rfl site.settings

end Serving

end Http

end VideoShare
