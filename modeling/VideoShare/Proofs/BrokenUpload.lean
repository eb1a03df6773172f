import VideoShare.Proofs.Pieces
import VideoShare.Proofs.Retry
import VideoShare.Proofs.Upload

/-!
# Uploads that break off

The files of a new video are stored and handed over in six steps, and each of them can go wrong: the store does not take a file, the
broker does not take a request, the processing service does not answer or answers that it failed. The first fault in the order of the
steps (`uploadFault`) is what the making of the video fails with. By then some files lie in the folder of the video and some requests
are out. The row is taken back and the folder is emptied; the requests stay, and so does everything outside the folder. The store may
fail once more while the folder is emptied: then some of the files stay, and the failure is still the first one.
-/

namespace VideoShare

/-! ## Faults -/

/-- What the store fails with when an object is put under a key. -/
def World.putFault (w : World) (key : String) : Option Failure :=
  (strike .put key w.store.rules).1.map fun fault => fault.failure .put key

/-- What the broker fails with when a message is pushed to a queue. -/
def World.queueFault (w : World) (queue : String) : Option Failure :=
  if queue ∈ w.broker.down then some .brokerDown else none

/-- What waiting fails with when the reply to come is silence, or is not affirmative. -/
def Reply.fault (seconds : Int) : Reply → Option Failure
  | none => some (.refused (.noReply seconds))
  | some text => if Service.isAffirmative text then none else some (.refused .negativeReply)

/-- What waiting for one of the replies to come fails with. A reply that is not given in advance is affirmative. -/
def World.replyFault (w : World) (seconds : Int) (n : Nat) : Option Failure :=
  (w.broker.replies.drop n).head?.bind (Reply.fault seconds)

/-- The first of some possible faults that is one, with its number. -/
def firstFault : List (Nat × Option Failure) → Option (Nat × Failure)
  | [] => none
  | (n, some e) :: _ => some (n, e)
  | (_, none) :: rest => firstFault rest

/-- The first fault in the way of the files of a new video, in the order of the steps, with the number of requests that are out before
it. -/
def World.uploadFault (w : World) (s : Settings) (folder : String) : Option (Nat × Failure) :=
  firstFault
    [(0, w.putFault (folder ++ s.thumbnailFilename)), (0, w.queueFault s.thumbnailQueue),
      (1, w.putFault (folder ++ s.videoFilename)), (1, w.queueFault s.videoQueue),
      (2, w.replyFault s.processingTimeout 0), (2, w.replyFault s.processingTimeout 1)]

theorem firstFault_cons_eq_some {k n : Nat} {fault : Option Failure} {rest : List (Nat × Option Failure)} {e : Failure} :
    firstFault ((k, fault) :: rest) = some (n, e) ↔ k = n ∧ fault = some e ∨ fault = none ∧ firstFault rest = some (n, e) := by
  cases fault <;> simp [firstFault]

theorem firstFault_eq_none {faults : List (Nat × Option Failure)} :
    firstFault faults = none ↔ ∀ fault ∈ faults, fault.2 = none := by
  induction faults with
  | nil => simp [firstFault]
  | cons fault rest ih =>
    obtain ⟨n, _ | e⟩ := fault
    · simp [firstFault, ih]
    · simp [firstFault]

section Faults

variable {w : World} {e : Failure}

theorem putFault_eq_none {key : String} : w.putFault key = none ↔ (strike .put key w.store.rules).1 = none := by
  simp [World.putFault]

theorem queueFault_eq_none {queue : String} : w.queueFault queue = none ↔ queue ∉ w.broker.down := by
  simp [World.queueFault]

theorem Reply.fault_eq_none {seconds : Int} {reply : Reply} : reply.fault seconds = none ↔ Service.Affirmative reply := by
  cases reply with
  | none => simp [Reply.fault, Service.Affirmative]
  | some text => simp [Reply.fault, Service.Affirmative]

theorem replyFault_eq_none {seconds : Int} {n : Nat} :
    w.replyFault seconds n = none ↔ ∀ reply ∈ (w.broker.replies.drop n).take 1, Service.Affirmative reply := by
  simp only [World.replyFault, Option.bind_eq_none_iff, Reply.fault_eq_none]
  cases w.broker.replies.drop n <;> simp

/-- Nothing stands in the way of the files of a new video exactly when there is no first fault. -/
theorem uploadFault_eq_none {s : Settings} {folder : String} :
    w.uploadFault s folder = none ↔ Uploadable s folder w := by
  have htwo : (∀ reply ∈ w.broker.replies.take 2, Service.Affirmative reply) ↔
      w.replyFault s.processingTimeout 0 = none ∧ w.replyFault s.processingTimeout 1 = none := by
    rw [replyFault_eq_none, replyFault_eq_none]
    rw [List.take_add (i := 1) (j := 1), List.forall_mem_append, List.drop_zero]
  simp only [World.uploadFault, firstFault_eq_none, List.mem_cons, List.not_mem_nil, or_false, forall_eq_or_imp, forall_eq,
    putFault_eq_none, queueFault_eq_none, ← htwo]
  exact ⟨fun ⟨h₁, h₂, h₃, h₄, h₅⟩ => ⟨h₁, h₂, h₃, h₄, h₅⟩, fun h => ⟨h.1, h.2, h.3, h.4, h.5⟩⟩

end Faults

namespace Service

/-! ## Single steps that go wrong -/

section Steps

variable {w : World} {e : Failure}

/-- A file that the store does not take is not there, and a fault of the store is used up. -/
theorem putObject_of_fault {key : String} (h : w.putFault key = some e) (content : String) :
    putObject key content w =
      (.error e, { w with store := { w.store with rules := (strike .put key w.store.rules).2 } }) := by
  obtain ⟨fault, hstruck, rfl⟩ := Option.map_eq_some_iff.mp h
  have hstrike : strike .put key w.store.rules = (some fault, (strike .put key w.store.rules).2) := Prod.ext hstruck rfl
  unfold putObject storeStep
  rw [hstrike]

theorem putObject_of_none {key : String} (h : w.putFault key = none) (content : String) :
    putObject key content w = (.ok (), { w with store := w.store.insert key content }) :=
  putObject_eq_ok.mpr ⟨putFault_eq_none.mp h, rfl⟩

theorem removeObject_of_none {key : String} (h : (strike .remove key w.store.rules).1 = none) :
    removeObject key w = (.ok (), { w with store := w.store.erase key }) :=
  storeStep_eq_ok.mpr ⟨h, _, rfl, rfl⟩

/-- A request that the broker does not take has used an identifier up. -/
theorem submit_of_fault {queue : String} (h : w.queueFault queue = some e) (path : String) :
    submit queue path w = (.error e, { w with serial := w.serial + 1 }) := by
  unfold World.queueFault at h
  split at h
  · rename_i hdown
    obtain rfl := Option.some.inj h
    refine bind_eq_error.mpr (Or.inr ⟨_, _, rfl, bind_of_error ?_⟩)
    exact push_eq_error.mpr ⟨hdown, rfl, rfl⟩
  · simp at h

theorem submit_of_none {queue : String} (h : w.queueFault queue = none) (path : String) :
    submit queue path w = (.ok (replyQueueStart ++ identifier (w.serial + 1)), { w with
      serial := w.serial + 1
      broker := { w.broker with
        queues := pushMessage queue (processingRequest path (replyQueueStart ++ identifier (w.serial + 1))) w.broker.queues } }) :=
  submit_eq_ok.mpr ⟨queueFault_eq_none.mp h, rfl, rfl⟩

/-- A reply that is not affirmative is used up by waiting for it. -/
theorem awaitReply_of_fault {seconds : Int} (h : w.replyFault seconds 0 = some e) :
    awaitReply seconds w = (.error e, { w with broker := { w.broker with replies := w.broker.replies.drop 1 } }) := by
  obtain ⟨db, store, ⟨queues, replies, down⟩, serial, now, staleLikes⟩ := w
  obtain ⟨reply, hreply, hfault⟩ := Option.bind_eq_some_iff.mp h
  obtain ⟨rest, rfl⟩ : ∃ rest, replies = reply :: rest := by
    cases replies with
    | nil => simp at hreply
    | cons first rest => exact ⟨rest, by rw [← Option.some.inj hreply]⟩
  cases reply with
  | none =>
    obtain rfl := Option.some.inj hfault
    rfl
  | some text =>
    by_cases hyes : isAffirmative text = true
    · simp [Reply.fault, hyes] at hfault
    · simp only [Reply.fault, hyes, Bool.false_eq_true, if_false, Option.some.injEq] at hfault
      obtain rfl := hfault
      simp [awaitReply, Broker.nextReply, hyes]

theorem awaitReply_of_none {seconds : Int} (h : w.replyFault seconds 0 = none) :
    awaitReply seconds w = (.ok (), { w with broker := { w.broker with replies := w.broker.replies.drop 1 } }) := by
  exact awaitReply_eq_ok.mpr ⟨replyFault_eq_none.mp h, rfl⟩

end Steps

/-! ## The upload up to its first fault -/

section Upload

variable {s : Settings} {folder thumbnail content : String} {w : World} {n : Nat} {e : Failure}

/-- A sequence fails where its second call does, after the first one answered. -/
theorem bind_fails {α β : Type} {x : Service α} {f : α → Service β} {w w₁ : World} {a : α} {e : Failure} {Q : World → Prop}
    (hx : x w = (.ok a, w₁)) (h : ∃ w', f a w₁ = (.error e, w') ∧ Q w') : ∃ w', (x >>= f) w = (.error e, w') ∧ Q w' := by
  rwa [bind_of_ok hx]

/-- The upload of the files of a new video fails with its first fault, and has pushed the requests that are out before it. -/
theorem uploadFiles_of_fault (h : w.uploadFault s folder = some (n, e)) (thumbnail content : String) :
    ∃ w', uploadFiles s folder thumbnail content w = (.error e, w') ∧
      w'.broker.queues = pushAll ((uploadRequests s folder w.serial).take n) w.broker.queues := by
  -- no step changes what the faults of the later ones depend on, so each of them is the one of the world at the beginning
  rcases firstFault_cons_eq_some.mp h with ⟨rfl, hthumbnail⟩ | ⟨hthumbnail, h⟩
  · exact ⟨_, bind_of_error (putObject_of_fault hthumbnail thumbnail), rfl⟩
  refine bind_fails (putObject_of_none hthumbnail thumbnail) ?_
  rcases firstFault_cons_eq_some.mp h with ⟨rfl, hfirst⟩ | ⟨hfirst, h⟩
  · exact ⟨_, bind_of_error (submit_of_fault (by exact hfirst) _), rfl⟩
  refine bind_fails (submit_of_none (by exact hfirst) _) ?_
  rcases firstFault_cons_eq_some.mp h with ⟨rfl, hcontent⟩ | ⟨hcontent, h⟩
  · exact ⟨_, bind_of_error (putObject_of_fault (by exact hcontent) content), rfl⟩
  refine bind_fails (putObject_of_none (by exact hcontent) content) ?_
  rcases firstFault_cons_eq_some.mp h with ⟨rfl, hsecond⟩ | ⟨hsecond, h⟩
  · exact ⟨_, bind_of_error (submit_of_fault (by exact hsecond) _), rfl⟩
  refine bind_fails (submit_of_none (by exact hsecond) _) ?_
  rcases firstFault_cons_eq_some.mp h with ⟨rfl, hreply⟩ | ⟨hreply, h⟩
  · exact ⟨_, bind_of_error (awaitReply_of_fault (by exact hreply)), rfl⟩
  refine bind_fails (awaitReply_of_none (by exact hreply)) ?_
  rcases firstFault_cons_eq_some.mp h with ⟨rfl, hreply'⟩ | ⟨-, h⟩
  · exact ⟨_, awaitReply_of_fault (by exact hreply'), rfl⟩
  simp [firstFault] at h

/-- However the upload ends, it puts nothing outside the folder. -/
theorem keeps_untouched_uploadFiles (s : Settings) (folder thumbnail content : String) :
    Keeps (World.untouched fun key => Text.startsWith key folder) (uploadFiles s folder thumbnail content) := by
  have hput : ∀ name text, Keeps (World.untouched fun key => Text.startsWith key folder) (putObject (folder ++ name) text) :=
    fun name text => keeps_untouched_putObject (by exact Text.startsWith_append folder name) text
  exact Keeps.bind (hput _ _) fun _ => Keeps.bind (keeps_submit (fun _ _ => rfl) (fun _ _ => rfl) _ _) fun _ =>
    Keeps.bind (hput _ _) fun _ => Keeps.bind (keeps_submit (fun _ _ => rfl) (fun _ _ => rfl) _ _) fun _ =>
      Keeps.bind (keeps_awaitReply (fun _ _ => rfl) _) fun _ => keeps_awaitReply (fun _ _ => rfl) _

end Upload

/-! ## Faults that are still to come -/

/-- A strike at one operation does not change what strikes another. -/
theorem strike_of_ne {operation operation' : StoreOperation} (hne : operation ≠ operation') (key key' : String)
    (rules : List FaultRule) : (strike operation key (strike operation' key' rules).2).1 = (strike operation key rules).1 := by
  induction rules with
  | nil => rfl
  | cons r rules ih =>
    by_cases hstrikes : r.strikes operation' key' = true
    · have hoperation : r.operation = operation' := by
        simp only [FaultRule.strikes, Bool.and_eq_true, beq_iff_eq] at hstrikes
        exact hstrikes.1.1
      have hother : ∀ rule : FaultRule, rule.operation = operation' → rule.strikes operation key = false := by
        intro rule hrule
        simp [FaultRule.strikes, hrule, hne.symm]
      have hused : r.used.strikes operation key = false := hother _ hoperation
      simp only [strike, hstrikes, if_true, hused, hother _ hoperation, Bool.false_eq_true, if_false]
    · simp only [strike, hstrikes, Bool.false_eq_true, if_false]
      by_cases hthis : r.strikes operation key = true
      · simp only [hthis, if_true]
      · simp only [hthis, Bool.false_eq_true, if_false, ih]

/-- Whether an operation on a key is struck does not depend on other operations that were tried before. -/
theorem keeps_strike_storeStep {α : Type} {operation operation' : StoreOperation} (hne : operation ≠ operation')
    (key key' : String) {effect : ObjectStore → Except Failure α × ObjectStore}
    (heffect : ∀ store, (effect store).2.rules = store.rules) :
    Keeps (fun w => (strike operation key w.store.rules).1) (storeStep operation' key' effect) := by
  intro w
  unfold storeStep
  split
  · rename_i fault rules hstrike
    have hrules : rules = (strike operation' key' w.store.rules).2 := by rw [hstrike]
    simp only [hrules, strike_of_ne hne]
  · simp only [heffect]

/-- The faults that strike anything but putting objects into the store are to come after an upload as before it. -/
theorem keeps_strike_uploadFiles {operation : StoreOperation} (hne : operation ≠ .put) (key : String) (s : Settings)
    (folder thumbnail content : String) :
    Keeps (fun w => (strike operation key w.store.rules).1) (uploadFiles s folder thumbnail content) :=
  Keeps.bind (keeps_strike_storeStep hne _ _ fun _ => rfl) fun _ =>
    Keeps.bind (keeps_submit (fun _ _ => rfl) (fun _ _ => rfl) _ _) fun _ =>
      Keeps.bind (keeps_strike_storeStep hne _ _ fun _ => rfl) fun _ =>
        Keeps.bind (keeps_submit (fun _ _ => rfl) (fun _ _ => rfl) _ _) fun _ =>
          Keeps.bind (keeps_awaitReply (fun _ _ => rfl) _) fun _ => keeps_awaitReply (fun _ _ => rfl) _

/-- Nothing strikes the removal of a folder: neither its listing, nor the removal of a key in it. -/
structure Removable (folder : String) (w : World) : Prop where
  list : (strike .list folder w.store.rules).1 = none
  remove : ∀ key, Text.startsWith key folder = true → (strike .remove key w.store.rules).1 = none

theorem forEach_removeObject_of_removable {folder : String} {keys : List String}
    (hkeys : ∀ key ∈ keys, Text.startsWith key folder = true) {w : World} (h : Removable folder w) :
    (forEach removeObject keys w).1 = .ok () := by
  induction keys generalizing w with
  | nil => rfl
  | cons key keys ih =>
    rw [forEach, bind_of_ok (removeObject_of_none (h.remove key (hkeys key (by simp))))]
    exact ih (fun key' hkey' => hkeys key' (by simp [hkey'])) ⟨h.list, h.remove⟩

/-- A folder is removed where nothing strikes its removal. -/
theorem removeFolder_of_removable {folder : String} {w : World} (h : Removable folder w) : (removeFolder folder w).1 = .ok () := by
  have hlisted : listObjects folder w = (.ok (w.store.keysUnder folder), w) := storeStep_eq_ok.mpr ⟨h.list, _, rfl, rfl⟩
  rw [removeFolder, bind_of_ok hlisted]
  exact forEach_removeObject_of_removable (fun key hkey => (ObjectStore.mem_keysUnder.mp hkey).2) h

/-- A folder that was removed holds nothing. -/
theorem forall_objects_of_removeFolder {folder : String} {w w' : World} (h : removeFolder folder w = (.ok (), w')) :
    ∀ o ∈ w'.store.objects, Text.startsWith o.1 folder = false := by
  rw [removeFolder_eq_ok h]
  intro o ho
  simpa using (List.mem_filter.mp ho).2

end Service

/-! ## What is left of the making of a video -/

section

variable (s : Settings) (detected : Option String) (owner : String) (data : NewVideo) (thumbnail content : String) (w : World)

/-- The world in which the upload for a new video broke off, when its row is taken back and its folder is still to be emptied. -/
def World.brokenOff : World :=
  (Service.transaction (do
    Service.modifyDatabase (·.addVideo (w.newVideo s detected owner data))
    Service.uploadFiles s (s.videoFolder w.db.nextVideoId) thumbnail content) w).2

/-- How the folder of a new video is emptied where its upload broke off: whether that fails, and the world it leaves. -/
def World.cleaning : Except Failure Unit × World :=
  Service.removeFolder (s.videoFolder w.db.nextVideoId) (w.brokenOff s detected owner data thumbnail content)

end

/-- What is left of an upload into a folder that broke off when some requests were out, once the folder was to be emptied. No table
has changed, no object outside the folder has, and nothing was pushed but these requests. The folder is empty when emptying it did
not fail, and it does not fail when nothing strikes it. -/
structure UploadUndone (s : Settings) (folder : String) (requests : Nat) (w : World) (cleaning : Except Failure Unit × World) :
    Prop where
  tables : cleaning.2.db = w.db
  others : World.untouched (fun key => Text.startsWith key folder) cleaning.2 =
    World.untouched (fun key => Text.startsWith key folder) w
  queues : cleaning.2.broker.queues = pushAll ((uploadRequests s folder w.serial).take requests) w.broker.queues
  emptied : cleaning.1 = .ok () → ∀ o ∈ cleaning.2.store.objects, Text.startsWith o.1 folder = false
  removable : Service.Removable folder w → cleaning.1 = .ok ()

/-- A folder that is emptied after an upload into it failed. -/
theorem uploadUndone_of_uploadFiles {s : Settings} {folder thumbnail content : String} {w w₁ : World} {e : Failure} {n : Nat}
    {db : Database} (h : Service.uploadFiles s folder thumbnail content { w with db := db } = (.error e, w₁))
    (hqueues : w₁.broker.queues = pushAll ((uploadRequests s folder w.serial).take n) w.broker.queues) :
    UploadUndone s folder n w (Service.removeFolder folder { w₁ with db := w.db }) where
  tables := Service.keeps_removeFolder (f := World.db) (fun _ _ => rfl) _ _
  others := by
    have hupload := (Service.keeps_untouched_uploadFiles s folder thumbnail content).of_eq h
    exact (Service.keeps_untouched_removeFolder (fun _ hkey => hkey) _).trans hupload
  queues := (Service.keeps_removeFolder (f := fun w => w.broker.queues) (fun _ _ => rfl) _ _).trans hqueues
  emptied hanswered := Service.forall_objects_of_removeFolder (Prod.ext hanswered rfl)
  removable hremovable := by
    have hkept : ∀ {operation key}, operation ≠ .put → (strike operation key w.store.rules).1 = none →
        (strike operation key w₁.store.rules).1 = none := fun hne hnone =>
      ((Service.keeps_strike_uploadFiles hne _ s folder thumbnail content).of_eq h).trans hnone
    exact Service.removeFolder_of_removable
      ⟨hkept (by decide) hremovable.list, fun key hkey => hkept (by decide) (hremovable.remove key hkey)⟩

/-- Where the upload for a new video has a fault, adding its row fails with it, and the folder is emptied from where it broke off. -/
theorem addVideo_of_fault {s : Settings} {w : World} {n : Nat} {e : Failure}
    (h : w.uploadFault s (s.videoFolder w.db.nextVideoId) = some (n, e)) (detected : Option String) (owner : String)
    (data : NewVideo) (thumbnail content : String) :
    Service.addVideo s (w.newVideo s detected owner data) thumbnail content w =
        (.error e, (w.cleaning s detected owner data thumbnail content).2) ∧
      UploadUndone s (s.videoFolder w.db.nextVideoId) n w (w.cleaning s detected owner data thumbnail content) := by
  obtain ⟨w₁, hupload, hqueues⟩ := Service.uploadFiles_of_fault
    (w := { w with db := w.db.addVideo (w.newVideo s detected owner data) }) h thumbnail content
  have hfailed : Service.transaction (do
      Service.modifyDatabase (·.addVideo (w.newVideo s detected owner data))
      Service.uploadFiles s (s.videoFolder w.db.nextVideoId) thumbnail content) w = (.error e, { w₁ with db := w.db }) :=
    Service.transaction_eq_error.mpr ⟨w₁, hupload, rfl⟩
  have hbroken : w.brokenOff s detected owner data thumbnail content = { w₁ with db := w.db } := congrArg Prod.snd hfailed
  rw [World.cleaning, hbroken]
  exact ⟨Service.cleaningUp_eq_error.mpr ⟨_, hfailed, rfl⟩, uploadUndone_of_uploadFiles hupload hqueues⟩

/-- The making of a video fails with the first thing that goes wrong. An owner who is not registered and a duration too wide for its
column are found out before anything is changed. From then on the upload fails with its first fault, whatever becomes of emptying the
folder, and nothing is left of it but the requests that were out; without a fault, row and files are there. -/
theorem failed_upload_is_undone (s : Settings) (detected : Option String) (owner : String) (data : NewVideo)
    (thumbnail content : String) (w : World) :
    (¬w.db.HasUser owner →
      Service.createVideo s detected owner data thumbnail content w = (.error (.refused .noUser), w)) ∧
    (w.db.HasUser owner → fitsColumn data.duration = false →
      Service.createVideo s detected owner data thumbnail content w = (.error .integerTooWide, w)) ∧
    (w.db.HasUser owner → fitsColumn data.duration = true →
      (∀ requests e, w.uploadFault s (s.videoFolder w.db.nextVideoId) = some (requests, e) →
        Service.createVideo s detected owner data thumbnail content w =
            (.error e, (w.cleaning s detected owner data thumbnail content).2) ∧
          UploadUndone s (s.videoFolder w.db.nextVideoId) requests w (w.cleaning s detected owner data thumbnail content)) ∧
      (w.uploadFault s (s.videoFolder w.db.nextVideoId) = none →
        Service.addVideo s (w.newVideo s detected owner data) thumbnail content w =
          (.ok (), w.withVideo s detected owner data thumbnail content))) := by
  refine ⟨fun howner => ?_, fun howner hwide => ?_, fun howner hfits => ⟨fun requests e hfault => ?_, fun hnone => ?_⟩⟩
  · refine Service.bind_of_error ?_
    simp only [Service.user, Database.user?_eq_none_iff.mpr howner]
  · obtain ⟨u, hu⟩ := howner.found
    rw [Service.createVideo, Service.bind_of_ok (Service.user_eq_ok.mpr ⟨hu, rfl⟩)]
    refine Service.bind_of_error ?_
    simp [checkColumns, hwide]
  · obtain ⟨hadd, hundone⟩ := addVideo_of_fault hfault detected owner data thumbnail content
    rw [Service.createVideo_of_hasUser howner hfits, Service.bind_of_error hadd]
    exact ⟨rfl, hundone⟩
  · exact addVideo_newVideo_eq_ok.mpr ⟨uploadFault_eq_none.mp hnone, rfl⟩

/-! ### A service that falls silent -/

namespace SilentService

def hills : NewVideo := ⟨"Hills", none, "Travel", some "en", 60⟩

/-- Ann is registered. An object lies in the folder of the next video and one in the folder of another. The processing service does the
thumbnail and is not heard of again. -/
def world (rules : List FaultRule) : World where
  db := { users := [⟨"ann", "Ann", none, none, "ROLE_USER", 0⟩] }
  store := { objects := [("videos/1/old.ts", "old"), ("videos/10/index.mp4", "lakes")], rules := rules }
  broker := { replies := [some "true", none] }

def making (rules : List FaultRule) : Except Failure Video × World :=
  Service.createVideo {} none "ann" hills "thumbnail" "content" (world rules)

/-- The folder cannot be listed. -/
def unlisted : List FaultRule := [⟨.list, "videos/1/", .broken "disk", none⟩]

/-- Ann's video is not made. Its folder is emptied; where it cannot be listed three objects stay in it, and the failure is the same. -/
theorem nothing_left_but_requests :
    (making []).1 = .error (.refused (.noReply 300)) ∧ (making []).2.db = (world []).db ∧
      (∀ o ∈ (making []).2.store.objects, Text.startsWith o.1 "videos/1/" = false) ∧
      (making unlisted).1 = .error (.refused (.noReply 300)) ∧ (making unlisted).2.store.objects.length = 4 ∧
      (making unlisted).2.broker.queues = pushAll (uploadRequests {} "videos/1/" 0) [] := by
  have hnext : Settings.videoFolder {} (world []).db.nextVideoId = "videos/1/" := by decide
  have hfolder : ∀ rules, Settings.videoFolder {} (world rules).db.nextVideoId = "videos/1/" := fun _ => hnext
  have howner : ∀ rules, (world rules).db.HasUser "ann" := fun _ => ⟨_, List.mem_singleton_self _, rfl⟩
  have hundone : ∀ rules, (world rules).uploadFault {} "videos/1/" = some (2, .refused (.noReply 300)) →
      making rules = (.error (.refused (.noReply 300)), ((world rules).cleaning {} none "ann" hills "thumbnail" "content").2) ∧
        UploadUndone {} "videos/1/" 2 (world rules) ((world rules).cleaning {} none "ann" hills "thumbnail" "content") := by
    intro rules hfault
    have hmaking := ((failed_upload_is_undone {} none "ann" hills "thumbnail" "content" (world rules)).2.2 (howner rules)
      (by decide)).1 2 (.refused (.noReply 300))
    rw [hfolder] at hmaking
    exact hmaking hfault
  obtain ⟨hfailed, hcleaned⟩ := hundone [] (by decide)
  obtain ⟨hfailed', hcleaned'⟩ := hundone unlisted (by decide)
  have hcleaning : ((world []).cleaning {} none "ann" hills "thumbnail" "content").1 = .ok () :=
    hcleaned.removable ⟨rfl, fun _ _ => rfl⟩
  rw [hfailed]
  refine ⟨rfl, hcleaned.tables, hcleaned.emptied hcleaning, congrArg Prod.fst hfailed', by decide, ?_⟩
  rw [hfailed']
  exact hcleaned'.queues

end SilentService

end VideoShare
