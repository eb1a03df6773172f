import VideoShare.Proofs.Services

/-!
# All or nothing

The making of a video stores its row and its files, hands the files to the processing service, waits for two replies and sends a
notification. Up to the replies it is all or nothing: a failure empties the folder, takes the row back, and has sent no notification.
The notification goes out when the row is there to stay. If its queue takes none, the call fails and the row and the files stay.
That is the only case in which the making of a video is neither all nor nothing.
-/

namespace VideoShare

/-- The requests for the two files of a new video, and the queues they go to. -/
def uploadRequests (s : Settings) (folder : String) (serial : Nat) : List (String × String) :=
  [(s.thumbnailQueue, processingRequest (folder ++ s.thumbnailFilename) (replyQueueStart ++ Service.identifier (serial + 1))),
    (s.videoQueue, processingRequest (folder ++ s.videoFilename) (replyQueueStart ++ Service.identifier (serial + 2)))]

/-- Nothing stands in the way of the files of a new video: the store is not struck, the queues take the requests, and the next two
replies are affirmative, as they are when none are left. -/
structure Uploadable (s : Settings) (folder : String) (w : World) : Prop where
  thumbnail : (strike .put (folder ++ s.thumbnailFilename) w.store.rules).1 = none
  thumbnailQueue : s.thumbnailQueue ∉ w.broker.down
  content : (strike .put (folder ++ s.videoFilename) w.store.rules).1 = none
  videoQueue : s.videoQueue ∉ w.broker.down
  replies : ∀ reply ∈ w.broker.replies.take 2, Service.Affirmative reply

/-- The world after the files of a new video were stored and processed. -/
def World.uploaded (w : World) (s : Settings) (folder thumbnail content : String) : World :=
  { w with
    store := (w.store.insert (folder ++ s.thumbnailFilename) thumbnail).insert (folder ++ s.videoFilename) content
    broker := { w.broker with
      queues := pushAll (uploadRequests s folder w.serial) w.broker.queues
      replies := w.broker.replies.drop 2 }
    serial := w.serial + 2 }

/-- The world after the row of a new video was added as well. -/
def World.withVideo (w : World) (s : Settings) (detected : Option String) (owner : String) (data : NewVideo)
    (thumbnail content : String) : World :=
  { w.uploaded s (s.videoFolder w.db.nextVideoId) thumbnail content with
    db := w.db.addVideo (w.newVideo s detected owner data) }

namespace Service

/-! ## The files -/

/-- The files of a new video are uploaded when nothing stands in the way. -/
theorem uploadFiles_eq_ok {s : Settings} {folder thumbnail content : String} {w w' : World} :
    uploadFiles s folder thumbnail content w = (.ok (), w') ↔
      Uploadable s folder w ∧ w' = w.uploaded s folder thumbnail content := by
  have hreplies : (∀ reply ∈ w.broker.replies.take 2, Affirmative reply) ↔
      (∀ reply ∈ w.broker.replies.take 1, Affirmative reply) ∧
        ∀ reply ∈ (w.broker.replies.drop 1).take 1, Affirmative reply := by
    rw [List.take_add (i := 1) (j := 1), List.forall_mem_append]
  constructor
  · intro h
    obtain ⟨_, w₁, hthumbnail, h₁⟩ := bind_eq_ok.mp h
    obtain ⟨_, w₂, hfirst, h₂⟩ := bind_eq_ok.mp h₁
    obtain ⟨_, w₃, hcontent, h₃⟩ := bind_eq_ok.mp h₂
    obtain ⟨_, w₄, hsecond, h₄⟩ := bind_eq_ok.mp h₃
    obtain ⟨_, w₅, hreply₁, hreply₂⟩ := bind_eq_ok.mp h₄
    obtain ⟨hstruck₁, rfl⟩ := putObject_eq_ok.mp hthumbnail
    obtain ⟨hdown₁, rfl, rfl⟩ := submit_eq_ok.mp hfirst
    obtain ⟨hstruck₂, rfl⟩ := putObject_eq_ok.mp hcontent
    obtain ⟨hdown₂, rfl, rfl⟩ := submit_eq_ok.mp hsecond
    obtain ⟨hyes₁, rfl⟩ := awaitReply_eq_ok.mp hreply₁
    obtain ⟨hyes₂, rfl⟩ := awaitReply_eq_ok.mp hreply₂
    refine ⟨⟨hstruck₁, hdown₁, hstruck₂, hdown₂, hreplies.mpr ⟨hyes₁, hyes₂⟩⟩, ?_⟩
    simp only [World.uploaded, uploadRequests, pushAll, List.foldl_cons, List.foldl_nil, List.drop_drop]
  · rintro ⟨h, rfl⟩
    obtain ⟨hyes₁, hyes₂⟩ := hreplies.mp h.replies
    refine bind_eq_ok.mpr ⟨(), _, putObject_eq_ok.mpr ⟨h.thumbnail, rfl⟩, ?_⟩
    refine bind_eq_ok.mpr ⟨_, _, submit_eq_ok.mpr ⟨h.thumbnailQueue, rfl, rfl⟩, ?_⟩
    refine bind_eq_ok.mpr ⟨(), _, putObject_eq_ok.mpr ⟨h.content, rfl⟩, ?_⟩
    refine bind_eq_ok.mpr ⟨_, _, submit_eq_ok.mpr ⟨h.videoQueue, rfl, rfl⟩, ?_⟩
    refine bind_eq_ok.mpr ⟨(), _, awaitReply_eq_ok.mpr ⟨hyes₁, rfl⟩, ?_⟩
    refine awaitReply_eq_ok.mpr ⟨hyes₂, ?_⟩
    simp only [World.uploaded, uploadRequests, pushAll, List.foldl_cons, List.foldl_nil, List.drop_drop]

/-- Wherever the upload of the files of a new video fails, it has pushed no message but the first of its requests. -/
theorem uploadFiles_eq_error {s : Settings} {folder thumbnail content : String} {w w' : World} {e : Failure}
    (h : uploadFiles s folder thumbnail content w = (.error e, w')) :
    ∃ pushes, pushes <+: uploadRequests s folder w.serial ∧ w'.broker.queues = pushAll pushes w.broker.queues := by
  have none_pushed := List.nil_prefix (l := uploadRequests s folder w.serial)
  have first_pushed := List.take_prefix 1 (uploadRequests s folder w.serial)
  have both_pushed := List.prefix_refl (uploadRequests s folder w.serial)
  have put_queues : ∀ key text, Keeps (fun w => w.broker.queues) (putObject key text) := fun _ _ =>
    keeps_putObject (fun _ _ => rfl) _ _
  rcases bind_eq_error.mp h with hput | ⟨_, w₁, hput, h₁⟩
  · exact ⟨[], none_pushed, (put_queues _ _).of_eq hput⟩
  · obtain ⟨-, rfl⟩ := putObject_eq_ok.mp hput
    rcases bind_eq_error.mp h₁ with hsubmit | ⟨_, w₂, hsubmit, h₂⟩
    · exact ⟨[], none_pushed, by rw [submit_eq_error hsubmit]; rfl⟩
    · obtain ⟨-, rfl, rfl⟩ := submit_eq_ok.mp hsubmit
      rcases bind_eq_error.mp h₂ with hput' | ⟨_, w₃, hput', h₃⟩
      · exact ⟨_, first_pushed, (put_queues _ _).of_eq hput'⟩
      · obtain ⟨-, rfl⟩ := putObject_eq_ok.mp hput'
        rcases bind_eq_error.mp h₃ with hsubmit' | ⟨_, w₄, hsubmit', h₄⟩
        · exact ⟨_, first_pushed, by rw [submit_eq_error hsubmit']; rfl⟩
        · obtain ⟨-, rfl, rfl⟩ := submit_eq_ok.mp hsubmit'
          rcases bind_eq_error.mp h₄ with hreply | ⟨_, w₅, hreply, hreply'⟩
          · exact ⟨_, both_pushed, (keeps_queues_awaitReply _).of_eq hreply⟩
          · exact ⟨_, both_pushed, ((keeps_queues_awaitReply _).of_eq hreply').trans ((keeps_queues_awaitReply _).of_eq hreply)⟩

/-- Where adding the row of a video fails, nothing was pushed but the first of the requests for its files. -/
theorem addVideo_error_queues {s : Settings} {row : Video} {thumbnail content : String} {w w' : World} {e : Failure}
    (h : addVideo s row thumbnail content w = (.error e, w')) :
    ∃ pushes, pushes <+: uploadRequests s (s.videoFolder row.id) w.serial ∧
      w'.broker.queues = pushAll pushes w.broker.queues := by
  obtain ⟨w₁, hfailed, rfl⟩ := cleaningUp_eq_error.mp h
  obtain ⟨w₂, hupload, rfl⟩ := transaction_eq_error.mp hfailed
  rw [modifyDatabase_bind] at hupload
  obtain ⟨pushes, hrequests, hqueues⟩ := uploadFiles_eq_error hupload
  exact ⟨pushes, hrequests, (keeps_removeFolder (f := fun w => w.broker.queues) (fun _ _ => rfl) _ _).trans hqueues⟩

/-! ## The row, the files and the notification -/

/-- For an owner who is registered and a duration that fits into its column, the making of a video adds the row, notifies, and
answers the row. -/
theorem createVideo_of_hasUser {s : Settings} {detected : Option String} {owner : String} {data : NewVideo}
    {thumbnail content : String} {w : World} (howner : w.db.HasUser owner) (hfits : fitsColumn data.duration = true) :
    createVideo s detected owner data thumbnail content w =
      (addVideo s (w.newVideo s detected owner data) thumbnail content >>= fun _ =>
        push s.createdQueue (toString (w.newVideo s detected owner data).id) >>= fun _ =>
          pure (w.newVideo s detected owner data)) w := by
  obtain ⟨u, hu⟩ := howner.found
  have hcheck : checkColumns [data.duration] = .ok () := checkColumns_eq_ok.mpr (List.forall_mem_singleton.mpr hfits)
  rw [createVideo, bind_of_ok (user_eq_ok.mpr ⟨hu, rfl⟩), bind_of_ok (lift_eq_ok.mpr ⟨hcheck, rfl⟩), database_bind, now_bind]
  rfl

end Service

section

variable (s : Settings) (detected : Option String) (owner : String) (data : NewVideo) (thumbnail content : String) (w : World)

/-- The row of a new video is there, which has no views and the metadata given, and nothing else in the tables has changed. Its files
lie in its folder. Where settings give both files one name, the content lies in the place of the thumbnail. -/
structure VideoStored (w' : World) (v : Video) : Prop where
  row : v = w.newVideo s detected owner data
  tables : w'.db = w.db.addVideo v
  thumbnail : s.thumbnailFilename ≠ s.videoFilename →
    w'.store.content? (s.videoFolder v.id ++ s.thumbnailFilename) = some thumbnail
  content : w'.store.content? (s.videoFolder v.id ++ s.videoFilename) = some content

/-- The making of a video is all or nothing. Either it answers the video, whose row and files are stored, and beside the requests
for the files one message was pushed, the notification with the id. Or it fails, no table has changed, and no message was pushed but
requests for the files. -/
def AllOrNothing : Prop :=
  match Service.createVideo s detected owner data thumbnail content w with
  | (.ok v, w') =>
    VideoStored s detected owner data thumbnail content w w' v ∧
      w'.broker.queues =
        pushAll (uploadRequests s (s.videoFolder v.id) w.serial ++ [(s.createdQueue, toString v.id)]) w.broker.queues
  | (.error _, w') =>
    w'.db = w.db ∧
      ∃ pushes, pushes <+: uploadRequests s (s.videoFolder w.db.nextVideoId) w.serial ∧
        w'.broker.queues = pushAll pushes w.broker.queues

/-- A video can be made in every respect, and the queue for notifications takes none. -/
structure Unannounced : Prop where
  owner : w.db.HasUser owner
  duration : fitsColumn data.duration = true
  upload : Uploadable s (s.videoFolder w.db.nextVideoId) w
  notification : s.createdQueue ∈ w.broker.down

end

section

variable {s : Settings} {detected : Option String} {owner : String} {data : NewVideo} {thumbnail content : String} {w : World}

/-- What stands in the way of an upload is not in the tables. -/
theorem uploadable_with_db {folder : String} {db : Database} :
    Uploadable s folder { w with db := db } ↔ Uploadable s folder w :=
  ⟨fun h => { h with }, fun h => { h with }⟩

/-- The row of a new video is added when nothing stands in the way of its files. -/
theorem addVideo_newVideo_eq_ok {w' : World} :
    Service.addVideo s (w.newVideo s detected owner data) thumbnail content w = (.ok (), w') ↔
      Uploadable s (s.videoFolder w.db.nextVideoId) w ∧ w' = w.withVideo s detected owner data thumbnail content := by
  rw [Service.addVideo_eq_ok, Service.uploadFiles_eq_ok]
  exact and_congr uploadable_with_db Iff.rfl

/-- A video is stored wherever the tables have its row in addition and the store has its files in addition. -/
theorem videoStored_of_withVideo {w' : World} (hdb : w'.db = (w.withVideo s detected owner data thumbnail content).db)
    (hstore : w'.store = (w.withVideo s detected owner data thumbnail content).store) :
    VideoStored s detected owner data thumbnail content w w' (w.newVideo s detected owner data) where
  row := rfl
  tables := hdb
  thumbnail hnames := by
    have hkeys : s.videoFolder w.db.nextVideoId ++ s.thumbnailFilename ≠ s.videoFolder w.db.nextVideoId ++ s.videoFilename :=
      fun heq => hnames ((String.append_right_inj _).mp heq)
    rw [hstore]
    exact (ObjectStore.content?_insert_of_ne _ _ hkeys).trans (ObjectStore.content?_insert_self _ _ _)
  content := by
    rw [hstore]
    exact ObjectStore.content?_insert_self _ _ _

/-- Where a video cannot be announced, the call fails and leaves it stored. -/
theorem Unannounced.createVideo_eq (h : Unannounced s owner data w) (detected : Option String) (thumbnail content : String) :
    ∃ w', Service.createVideo s detected owner data thumbnail content w = (.error .brokerDown, w') ∧
      VideoStored s detected owner data thumbnail content w w' (w.newVideo s detected owner data) ∧
      w'.broker.queues = pushAll (uploadRequests s (s.videoFolder w.db.nextVideoId) w.serial) w.broker.queues := by
  have hadd : Service.addVideo s (w.newVideo s detected owner data) thumbnail content w =
      (.ok (), w.withVideo s detected owner data thumbnail content) :=
    addVideo_newVideo_eq_ok.mpr ⟨h.upload, rfl⟩
  have hpush : Service.push s.createdQueue (toString (w.newVideo s detected owner data).id)
      (w.withVideo s detected owner data thumbnail content) =
        (.error .brokerDown, w.withVideo s detected owner data thumbnail content) :=
    Service.push_eq_error.mpr ⟨h.notification, rfl, rfl⟩
  refine ⟨w.withVideo s detected owner data thumbnail content, ?_, videoStored_of_withVideo rfl rfl, rfl⟩
  rw [Service.createVideo_of_hasUser h.owner h.duration, Service.bind_of_ok hadd, Service.bind_of_error hpush]

end

/-- The making of a video is all or nothing but for one case: everything went well, and the queue for notifications takes none. Then
the call fails, the row and the files are stored, and no notification goes out. -/
theorem allOrNothing_iff (s : Settings) (detected : Option String) (owner : String) (data : NewVideo)
    (thumbnail content : String) (w : World) :
    (AllOrNothing s detected owner data thumbnail content w ↔ ¬Unannounced s owner data w) ∧
      (Unannounced s owner data w →
        ∃ w', Service.createVideo s detected owner data thumbnail content w = (.error .brokerDown, w') ∧
          VideoStored s detected owner data thumbnail content w w' (w.newVideo s detected owner data) ∧
          w'.broker.queues = pushAll (uploadRequests s (s.videoFolder w.db.nextVideoId) w.serial) w.broker.queues) := by
  refine ⟨⟨?_, ?_⟩, fun h => h.createVideo_eq detected thumbnail content⟩
  · intro hall hunannounced
    obtain ⟨w', hrun, hstored, -⟩ := hunannounced.createVideo_eq detected thumbnail content
    rw [AllOrNothing, hrun] at hall
    -- the row stayed although the call failed
    have hlength := congrArg (fun db => db.videos.length) (hall.1.symm.trans hstored.tables)
    simp [Database.addVideo] at hlength
  · intro hannounced
    unfold AllOrNothing
    rcases hrun : Service.createVideo s detected owner data thumbnail content w with ⟨e | v, w'⟩
    · rcases Service.createVideo_eq_error hrun with rfl | hfailed | ⟨howner, hfits, hadd, hdown, -⟩
      · exact ⟨rfl, [], List.nil_prefix, rfl⟩
      · have hqueues := Service.addVideo_error_queues hfailed
        rw [World.newVideo_id] at hqueues
        exact ⟨Service.addVideo_error_db hfailed, hqueues⟩
      · obtain ⟨hupload, rfl⟩ := addVideo_newVideo_eq_ok.mp hadd
        exact absurd ⟨howner, hfits, hupload, hdown⟩ hannounced
    · obtain ⟨-, -, rfl, w₁, hadd, hpush⟩ := Service.createVideo_eq_ok hrun
      obtain ⟨-, rfl⟩ := addVideo_newVideo_eq_ok.mp hadd
      obtain ⟨-, rfl⟩ := Service.push_eq_ok.mp hpush
      refine ⟨videoStored_of_withVideo rfl rfl, ?_⟩
      simp only [World.withVideo, World.uploaded, pushAll, List.foldl_append, List.foldl_cons, List.foldl_nil]
      rfl

/-! ### A notification that is not taken -/

namespace NobodyNotified

def hills : NewVideo := ⟨"Hills", none, "Travel", some "en", 60⟩

/-- Ann is registered, and the queue for notifications is down. -/
def world : World where
  db := { users := [⟨"ann", "Ann", none, none, "ROLE_USER", 0⟩] }
  broker := { down := ["video-created-notification"] }

def making : Except Failure Video × World := Service.createVideo {} none "ann" hills "thumbnail" "content" world

/-- Ann's video cannot be announced, so it is stored and the call fails. -/
theorem stored_and_failed :
    Unannounced {} "ann" hills world ∧
      ∃ w', making = (.error .brokerDown, w') ∧
        VideoStored {} none "ann" hills "thumbnail" "content" world w' (hills.row 1 "ann" "en" 0) ∧
        w'.broker.queues = pushAll (uploadRequests {} "videos/1/" 0) [] := by
  have hfolder : Settings.videoFolder {} world.db.nextVideoId = "videos/1/" := by decide
  have howner : world.db.HasUser "ann" := ⟨_, List.mem_singleton_self _, rfl⟩
  have hupload : Uploadable {} (Settings.videoFolder {} world.db.nextVideoId) world := by
    constructor <;> simp [world, strike]
  have h : Unannounced {} "ann" hills world := ⟨howner, by decide, hupload, by simp [world]⟩
  have hstored := (allOrNothing_iff {} none "ann" hills "thumbnail" "content" world).2 h
  rw [hfolder] at hstored
  exact ⟨h, hstored⟩

/-- The call failed, and the row is there. -/
theorem not_allOrNothing : ¬AllOrNothing {} none "ann" hills "thumbnail" "content" world := by
  intro h
  have hfailed : making.1 = .error .brokerDown := by decide
  have hstayed : making.2.db ≠ world.db := by decide
  have hmaking : Service.createVideo {} none "ann" hills "thumbnail" "content" world = (.error .brokerDown, making.2) :=
    Prod.ext hfailed rfl
  rw [AllOrNothing, hmaking] at h
  exact hstayed h.1

end NobodyNotified

end VideoShare
