import VideoShare.Http.Respond
import VideoShare.Proofs.BrokenUpload
import VideoShare.Proofs.FolderNames
import VideoShare.Proofs.ImagePaths
import VideoShare.Proofs.Requests

/-!
# Images that are not processed

An image is put into the store before the processing service is asked for it, and is taken away again when the service does not process
it. Putting it replaces whatever lay under its key, and taking it away does not bring that back. So an upload that fails leaves the
objects as they were exactly when its key was free (`leavesObjects_iff`). The key of an image without an owner is free, as its folder is
new. The key of a picture that a user sends under the name of the old one is not, and the old picture is lost with the new one.
-/

namespace VideoShare

/-! ## Failures of the processing service -/

/-- The failures of a request to the processing service: it cannot be sent, it is not answered in time, or the answer is negative. -/
def Failure.isProcessing : Failure → Bool
  | .brokerDown => true
  | .refused r => r.kind == .processingFailed
  | _ => false

/-- What a request to the processing service fails with. -/
def World.processFault (w : World) (queue : String) (seconds : Int) : Option Failure :=
  (w.queueFault queue).or (w.replyFault seconds 0)

theorem isProcessing_storeFailure (fault : StoreFault) (operation : StoreOperation) (key : String) :
    (fault.failure operation key).isProcessing = false := by
  cases fault with
  | answered code message =>
    rw [StoreFault.failure]
    split <;> rfl
  | unexplained => rfl
  | unreachable => rfl
  | broken text => rfl

theorem isProcessing_of_processFault {w : World} {queue : String} {seconds : Int} {e : Failure}
    (h : w.processFault queue seconds = some e) : e.isProcessing = true := by
  rcases Option.or_eq_some_iff.mp h with hqueue | ⟨-, hreply⟩
  · unfold World.queueFault at hqueue
    split at hqueue
    · rw [← Option.some.inj hqueue]
      rfl
    · simp at hqueue
  · obtain ⟨reply, -, hfault⟩ := Option.bind_eq_some_iff.mp hreply
    cases reply with
    | none =>
      rw [← Option.some.inj hfault]
      rfl
    | some text =>
      rw [Reply.fault] at hfault
      split at hfault
      · simp at hfault
      · rw [← Option.some.inj hfault]
        rfl

theorem isProcessing_of_imagePath {root owner name : String} {r : Refusal} (h : imagePath root owner name = .error r) :
    (Failure.refused r).isProcessing = false := by
  unfold imagePath at h
  split at h
  · rw [← Except.error.inj h]
    rfl
  · split at h
    · rw [← Except.error.inj h]
      rfl
    · split at h
      · rw [← Except.error.inj h]
        rfl
      · cases h

/-! ## Taking an object away -/

namespace ObjectStore

/-- Without an object nothing is found under its key, and whatever was found under any other key. -/
theorem content?_erase (s : ObjectStore) (key key' : String) :
    (s.erase key).content? key' = if key' = key then none else s.content? key' := by
  have herase : s.erase key = s.eraseAll (· == key) := rfl
  simp only [herase, content?_eraseAll, beq_iff_eq]

/-- An object that was put and taken away is gone, and so is what lay under its key before. -/
theorem erase_insert (s : ObjectStore) (key content : String) : (s.insert key content).erase key = s.erase key := by
  simp [erase, insert, List.filter_filter]

/-- Taking an object away changes nothing exactly when there was none. -/
theorem content?_erase_eq_iff {s : ObjectStore} {key : String} :
    (∀ key', (s.erase key).content? key' = s.content? key') ↔ s.content? key = none := by
  simp only [content?_erase]
  constructor
  · intro hsame
    have hself := hsame key
    rw [if_pos rfl] at hself
    exact hself.symm
  · intro hfree key'
    split
    · rename_i hkey
      rw [hkey, hfree]
    · rfl

end ObjectStore

namespace Service

/-! ## Requests to the processing service -/

section Requests

variable {w w' : World} {e : Failure}

theorem process_of_fault {queue : String} {seconds : Int} (h : w.processFault queue seconds = some e) (path : String) :
    (process queue path seconds w).1 = .error e := by
  rcases Option.or_eq_some_iff.mp h with hqueue | ⟨hqueue, hreply⟩
  · rw [process, bind_of_error (submit_of_fault hqueue path)]
  · rw [process, bind_of_ok (submit_of_none hqueue path), awaitReply_of_fault (by exact hreply)]

theorem process_of_none {queue : String} {seconds : Int} (h : w.processFault queue seconds = none) (path : String) :
    (process queue path seconds w).1 = .ok () := by
  obtain ⟨hqueue, hreply⟩ := Option.or_eq_none_iff.mp h
  rw [process, bind_of_ok (submit_of_none hqueue path), awaitReply_of_none (by exact hreply)]

/-- A request fails with its fault, and does not touch the store. -/
theorem process_eq_error {queue path : String} {seconds : Int} (h : process queue path seconds w = (.error e, w')) :
    w.processFault queue seconds = some e ∧ w'.store = w.store := by
  refine ⟨?_, (keeps_process (f := World.store) (fun _ _ => rfl) (fun _ _ => rfl) _ _ _).of_eq h⟩
  cases hfault : w.processFault queue seconds with
  | none =>
    have hanswer := process_of_none hfault path
    rw [h] at hanswer
    cases hanswer
  | some e' =>
    have hanswer := process_of_fault hfault path
    rw [h] at hanswer
    exact congrArg some (Except.error.inj hanswer).symm

/-- An operation on the store whose effect cannot fail does so only as the store does. -/
theorem storeStep_eq_error {α : Type} {operation : StoreOperation} {key : String}
    {effect : ObjectStore → Except Failure α × ObjectStore} (heffect : ∀ store, ∃ a, (effect store).1 = .ok a)
    (h : storeStep operation key effect w = (.error e, w')) : e.isProcessing = false := by
  unfold storeStep at h
  split at h
  · simp only [Prod.mk.injEq, Except.error.injEq] at h
    rw [← h.1]
    exact isProcessing_storeFailure _ _ _
  · obtain ⟨a, ha⟩ := heffect w.store
    rcases heffected : effect w.store with ⟨answer, store⟩
    rw [heffected] at ha h
    obtain rfl : answer = .ok a := ha
    simp at h

end Requests

/-! ## The two steps of an upload -/

/-- A path with a slash at its end. -/
def slashed (path : String) : String := if Text.endsWith path "/" then path else path ++ "/"

/-- The name of the folder that an image goes into: the owner, or a new one. -/
def imageFolder (owner : Option String) (path : String) : Service String :=
  if owner.getD "" = "" then freshFolder path else pure (owner.getD "")

/-- Uploads an image into a folder with a name. -/
def uploadInto (s : Settings) (root filename queue content name : String) : Service String :=
  match imagePath root name filename with
  | .error r => refuse r
  | .ok key => do
    putObject key content
    cleaningUp (process queue key s.processingTimeout) (removeObject key)
    pure key

/-- An image is uploaded in two steps. -/
theorem uploadImage_eq (s : Settings) (owner : Option String) (path filename queue content : String) :
    uploadImage s owner path filename queue content =
      imageFolder owner (slashed path) >>= uploadInto s (Text.trimEnd '/' (slashed path)) filename queue content := by
  unfold uploadImage
  extract_lets root putFor
  have hput : putFor = uploadInto s (Text.trimEnd '/' root) filename queue content := by
    funext name
    unfold putFor uploadInto
    generalize imagePath (Text.trimEnd '/' root) name filename = answer
    cases answer <;> rfl
  have hroot : root = slashed path := rfl
  clear_value putFor root
  subst hput hroot
  cases owner with
  | none => rfl
  | some o => by_cases ho : o = "" <;> simp [imageFolder, ho]

end Service

/-- The key that an image is put under; none when no folder is found for it or the path would not be one of an image. -/
def World.imageKey? (w : World) (owner : Option String) (path filename : String) : Option String :=
  match (Service.imageFolder owner (Service.slashed path) w).1 with
  | .ok name => (imagePath (Text.trimEnd '/' (Service.slashed path)) name filename).toOption
  | .error _ => none

namespace Service

section Upload

variable {s : Settings} {owner : Option String} {path filename queue content root name key : String} {w w' : World}
  {e : Failure}

theorem drawFolder_eq_error {fuel : Nat} (h : drawFolder path fuel w = (.error e, w')) : e.isProcessing = false := by
  induction fuel generalizing w with
  | zero =>
    rcases bind_eq_error.mp h with hid | ⟨id, w₁, -, hpure⟩
    · simp [freshIdentifier] at hid
    · simp at hpure
  | succ fuel ih =>
    rcases bind_eq_error.mp h with hid | ⟨id, w₁, -, hrest⟩
    · simp [freshIdentifier] at hid
    rcases bind_eq_error.mp hrest with hlist | ⟨keys, w₂, -, hend⟩
    · exact storeStep_eq_error (fun _ => ⟨_, rfl⟩) hlist
    · split at hend
      · simp at hend
      · exact ih hend

/-- No folder is found for an image only where the store fails. -/
theorem imageFolder_eq_error (h : imageFolder owner path w = (.error e, w')) : e.isProcessing = false := by
  unfold imageFolder at h
  split at h
  · rcases bind_eq_error.mp h with hworld | ⟨w₁, w₂, hworld, hdraw⟩
    · simp [world] at hworld
    · exact drawFolder_eq_error hdraw
  · simp at h

/-- Finding the folder of an image uses up identifiers and nothing else. -/
theorem imageFolder_eq_ok (h : imageFolder owner path w = (.ok name, w')) :
    (∃ n, w' = { w with serial := w.serial + n }) ∧ (owner.getD "" = "" → w.HasNames → ¬w.store.Holds path name) := by
  unfold imageFolder at h
  split at h
  · obtain ⟨hserial, hfree⟩ := freshFolder_eq_ok h
    exact ⟨hserial, fun _ => hfree⟩
  · rename_i howner
    exact ⟨⟨0, (pure_eq_ok.mp h).2⟩, fun hnone => absurd hnone howner⟩

/-- An upload into a folder fails with the fault of its request. -/
theorem uploadInto_of_fault (hkey : imagePath root name filename = .ok key) (hput : w.putFault key = none)
    (hfault : w.processFault queue s.processingTimeout = some e) (content : String) :
    (uploadInto s root filename queue content name w).1 = .error e := by
  rcases hprocess : process queue key s.processingTimeout { w with store := w.store.insert key content } with ⟨answer, w₂⟩
  have hanswer := process_of_fault (w := { w with store := w.store.insert key content }) hfault key
  rw [hprocess] at hanswer
  obtain rfl : answer = .error e := hanswer
  have hcleaned := cleaningUp_eq_error (c := removeObject key).mpr ⟨w₂, hprocess, rfl⟩
  simp only [uploadInto, hkey]
  rw [bind_of_ok (putObject_of_none hput content), bind_of_error hcleaned]

/-- An upload into a folder that fails because the image is not processed has put the image and taken it away, unless the store
failed to. -/
theorem uploadInto_eq_error (h : uploadInto s root filename queue content name w = (.error e, w'))
    (he : e.isProcessing = true) :
    ∃ key, imagePath root name filename = .ok key ∧ w.putFault key = none ∧
      w.processFault queue s.processingTimeout ≠ none ∧
        ((strike .remove key w.store.rules).1 = none → w'.store = w.store.erase key) := by
  cases hkey : imagePath root name filename with
  | error r =>
    -- a path that is none of an image is refused before anything is asked of the processing service
    simp only [uploadInto, hkey, refuse_apply, Prod.mk.injEq, Except.error.injEq] at h
    exact absurd he (by rw [← h.1, isProcessing_of_imagePath hkey]; simp)
  | ok key =>
    simp only [uploadInto, hkey] at h
    refine ⟨key, rfl, ?_⟩
    rcases bind_eq_error.mp h with hput | ⟨⟨⟩, w₁, hput, hrest⟩
    · exact absurd he (by simp [storeStep_eq_error (fun _ => ⟨_, rfl⟩) hput])
    obtain ⟨hstruck, rfl⟩ := putObject_eq_ok.mp hput
    rcases bind_eq_error.mp hrest with hcleaned | ⟨⟨⟩, w₂, -, hpure⟩
    swap
    · simp at hpure
    obtain ⟨w₂, hprocess, rfl⟩ := cleaningUp_eq_error.mp hcleaned
    obtain ⟨hfault, hstore⟩ := process_eq_error hprocess
    have hfault' : w.processFault queue s.processingTimeout = some e := hfault
    refine ⟨putFault_eq_none.mpr hstruck, by simp [hfault'], fun hremove => ?_⟩
    rw [removeObject_of_none (by rw [hstore]; exact hremove), hstore]
    exact ObjectStore.erase_insert _ _ _

/-- The key of an image is the path with the name of its folder. -/
theorem imageKey?_eq_some :
    w.imageKey? owner path filename = some key ↔
      ∃ name w₁, imageFolder owner (slashed path) w = (.ok name, w₁) ∧
        imagePath (Text.trimEnd '/' (slashed path)) name filename = .ok key := by
  unfold World.imageKey?
  rcases imageFolder owner (slashed path) w with ⟨e | name, w₁⟩
  · simp
  · cases hkey : imagePath (Text.trimEnd '/' (slashed path)) name filename <;> simp [Except.toOption, hkey]

/-- An upload that fails because the image is not processed has put the image under its key and taken it away, unless the store
failed to. -/
theorem uploadImage_eq_error (h : uploadImage s owner path filename queue content w = (.error e, w'))
    (he : e.isProcessing = true) :
    ∃ key, w.imageKey? owner path filename = some key ∧ w.putFault key = none ∧
      w.processFault queue s.processingTimeout ≠ none ∧
        ((strike .remove key w.store.rules).1 = none → w'.store = w.store.erase key) := by
  rw [uploadImage_eq] at h
  rcases bind_eq_error.mp h with hfolder | ⟨name, w₁, hfolder, hinto⟩
  · exact absurd he (by simp [imageFolder_eq_error hfolder])
  · obtain ⟨⟨n, rfl⟩, -⟩ := imageFolder_eq_ok hfolder
    obtain ⟨key, hkey, hrest⟩ := uploadInto_eq_error hinto he
    exact ⟨key, imageKey?_eq_some.mpr ⟨name, _, hfolder, hkey⟩, hrest⟩

end Upload

end Service

section

variable (s : Settings) (owner : Option String) (path filename queue content : String) (w : World)

/-- Where an upload fails because the image is not processed, and the store takes the image away again, every object is as it was. -/
def LeavesObjects : Prop :=
  ∀ e w' key, Service.uploadImage s owner path filename queue content w = (.error e, w') → e.isProcessing = true →
    w.imageKey? owner path filename = some key → (strike .remove key w.store.rules).1 = none →
      ∀ key', w'.store.content? key' = w.store.content? key'

/-- An image is put under a key, is not processed, and is taken away again. -/
structure Unprocessed (key : String) : Prop where
  under : w.imageKey? owner path filename = some key
  put : w.putFault key = none
  process : w.processFault queue s.processingTimeout ≠ none
  remove : (strike .remove key w.store.rules).1 = none

end

section

variable {s : Settings} {owner : Option String} {path filename queue key : String} {w : World}

/-- The upload of an image that is not processed fails for that reason, and leaves no object under the key. -/
theorem Unprocessed.uploadImage_eq (h : Unprocessed s owner path filename queue w key) (content : String) :
    ∃ e w', Service.uploadImage s owner path filename queue content w = (.error e, w') ∧ e.isProcessing = true ∧
      w'.store = w.store.erase key := by
  obtain ⟨name, w₁, hfolder, hpath⟩ := Service.imageKey?_eq_some.mp h.under
  obtain ⟨⟨n, rfl⟩, -⟩ := Service.imageFolder_eq_ok hfolder
  obtain ⟨e, hfault⟩ := Option.ne_none_iff_exists'.mp h.process
  rcases hinto : Service.uploadInto s (Text.trimEnd '/' (Service.slashed path)) filename queue content name
    { w with serial := w.serial + n } with ⟨answer, w'⟩
  have hanswer := Service.uploadInto_of_fault (w := { w with serial := w.serial + n }) hpath h.put hfault content
  rw [hinto] at hanswer
  obtain rfl : answer = .error e := hanswer
  have hrun : Service.uploadImage s owner path filename queue content w = (.error e, w') := by
    rw [Service.uploadImage_eq, Service.bind_of_ok hfolder, hinto]
  have he := isProcessing_of_processFault hfault
  obtain ⟨key', hkey', -, -, herased⟩ := Service.uploadImage_eq_error hrun he
  obtain rfl := Option.some.inj (h.under.symm.trans hkey')
  exact ⟨e, w', hrun, he, herased h.remove⟩

theorem leavesObjects_of_free (hfree : ∀ key, Unprocessed s owner path filename queue w key → w.store.content? key = none)
    (content : String) : LeavesObjects s owner path filename queue content w := by
  intro e w' key hrun he hkey hremove
  obtain ⟨key', hkey', hput, hprocess, herased⟩ := Service.uploadImage_eq_error hrun he
  obtain rfl := Option.some.inj (hkey.symm.trans hkey')
  rw [herased hremove]
  exact ObjectStore.content?_erase_eq_iff.mpr (hfree key ⟨hkey, hput, hprocess, hremove⟩)

end

/-! ## New folders -/

theorem Text.endsWith_ofList_reverse (letters : List Char) (part : String) :
    Text.endsWith (String.ofList letters.reverse) part = part.toList.reverse.isPrefixOf letters := by
  rw [Text.endsWith, String.toList_ofList, List.isSuffixOf, List.reverse_reverse]

/-- A path that ends in one slash at most is put together from what stands before the slash, and the slash. -/
theorem Service.slashed_eq {path : String} (h : Text.endsWith path "//" = false) :
    Service.slashed path = Text.trimEnd '/' (Service.slashed path) ++ "/" := by
  -- the letters are taken from the end: behind one slash there is another letter, or nothing
  have hletters : ∀ rest : List Char, rest.head? ≠ some '/' →
      String.ofList ('/' :: rest).reverse = Text.trimEnd '/' (String.ofList ('/' :: rest).reverse) ++ "/" := by
    intro rest hrest
    have hkept : rest.dropWhile (· == '/') = rest := by
      cases rest with
      | nil => rfl
      | cons c rest => exact List.dropWhile_cons_of_neg (by simpa using hrest)
    rw [Text.trimEnd, String.toList_ofList, List.reverse_reverse, List.dropWhile_cons_of_pos (by rfl), hkept,
      List.reverse_cons, String.ofList_append]
  obtain ⟨letters, rfl⟩ : ∃ letters : List Char, path = String.ofList letters.reverse :=
    ⟨path.toList.reverse, by rw [List.reverse_reverse, String.ofList_toList]⟩
  rw [Text.endsWith_ofList_reverse] at h
  by_cases hslash : letters.head? = some '/'
  · obtain ⟨rest, rfl⟩ := List.head?_eq_some_iff.mp hslash
    have hends : Text.endsWith (String.ofList ('/' :: rest).reverse) "/" = true := by
      rw [Text.endsWith_ofList_reverse]
      rfl
    rw [Service.slashed, if_pos hends]
    refine hletters rest fun hrest => ?_
    obtain ⟨rest, rfl⟩ := List.head?_eq_some_iff.mp hrest
    have hboth : "//".toList.reverse.isPrefixOf ('/' :: '/' :: rest) = true := rfl
    rw [hboth] at h
    simp at h
  · have hends : ¬Text.endsWith (String.ofList letters.reverse) "/" = true := by
      rw [Text.endsWith_ofList_reverse, List.isPrefixOf_iff_prefix]
      rintro ⟨rest, rfl⟩
      exact hslash rfl
    rw [Service.slashed, if_neg hends]
    simpa [String.ofList_append] using hletters letters hslash

/-- Nothing lies under the key of an image that goes into a folder with a free name. -/
theorem content?_of_not_holds {path name filename key : String} {w : World} (hpath : Text.endsWith path "//" = false)
    (hfree : ¬w.store.Holds (Service.slashed path) name)
    (himage : imagePath (Text.trimEnd '/' (Service.slashed path)) name filename = .ok key) : w.store.content? key = none := by
  rw [Service.slashed_eq hpath] at hfree
  rw [ObjectStore.content?, List.lookup_eq_none_iff]
  intro o ho
  have hunder : o.1 ≠ key := by
    rintro rfl
    refine hfree ⟨o, ho, ?_⟩
    rw [(imagePath_eq_ok.mp himage).2.2.2]
    exact Text.startsWith_append _ _
  simpa using hunder.symm

/-- Nothing lies under the key of an image that goes into a new folder. -/
theorem content?_of_newFolder {owner : Option String} {path filename key : String} {w : World} (howner : owner.getD "" = "")
    (hpath : Text.endsWith path "//" = false) (hnames : w.HasNames) (hkey : w.imageKey? owner path filename = some key) :
    w.store.content? key = none := by
  obtain ⟨name, w₁, hfolder, himage⟩ := Service.imageKey?_eq_some.mp hkey
  exact content?_of_not_holds hpath ((Service.imageFolder_eq_ok hfolder).2 howner hnames) himage

/-! ## Pictures of users -/

theorem Service.findUser_eq_error {id : String} {w w' : World} {e : Failure} (h : findUser id w = (.error e, w')) :
    e = .refused .noUser := by
  unfold findUser user at h
  split at h
  · simp at h
  · simp only [Prod.mk.injEq, Except.error.injEq] at h
    exact h.1.symm

theorem Service.updateUser_eq_error {id : String} {changes : UserChanges} {w w' : World} {e : Failure}
    (h : updateUser id changes w = (.error e, w')) : e = .refused .noUser := by
  obtain ⟨w₁, hfailed, -⟩ := transaction_eq_error.mp h
  rcases bind_eq_error.mp hfailed with huser | ⟨u, w₂, -, hchanged⟩
  · exact findUser_eq_error huser
  · simp at hchanged

/-- A request for another picture that fails because the picture is not processed has uploaded it for the user whom it names. -/
theorem updateMyPicture_eq_error {site : Http.Site} {r : Http.Request} {w w' : World} {e : Failure}
    (h : Http.updateMyPictureEndpoint site r w = (.error e, w')) (he : e.isProcessing = true) :
    ∃ me form image, r.userId? = some me ∧ r.form = .ok form ∧ Http.sent form "image" Http.formFile = .ok image ∧
      Service.uploadPicture site.settings (some me) image.name image.content w = (.error e, w') := by
  have hnoUser : e ≠ .refused .noUser := by
    rintro rfl
    cases he
  rw [Http.updateMyPictureEndpoint, Http.withForm] at h
  cases hform : r.form with
  | error fault => simp [hform] at h
  | ok form =>
    cases hme : r.userId? with
    | none =>
      simp only [hform, Http.asUser, hme, Service.refuse_apply, Prod.mk.injEq, Except.error.injEq] at h
      exact absurd h.1.symm hnoUser
    | some me =>
      simp only [hform, Http.asUser, hme, Http.withFields] at h
      cases himage : Http.sent form "image" Http.formFile with
      | error errors => simp [himage] at h
      | ok image =>
        simp only [himage] at h
        refine ⟨me, form, image, rfl, rfl, himage, ?_⟩
        rcases Service.bind_eq_error.mp h with hfind | ⟨u, w₁, hfind, hrest⟩
        · exact absurd (Service.findUser_eq_error hfind) hnoUser
        obtain ⟨-, rfl⟩ := Service.user_eq_ok.mp hfind
        rcases Service.bind_eq_error.mp hrest with hupload | ⟨key, w₂, -, hupdate⟩
        · exact hupload
        rcases Service.bind_eq_error.mp hupdate with hchange | ⟨u', w₃, -, hanswer⟩
        · exact absurd (Service.updateUser_eq_error hchange) hnoUser
        · simp at hanswer

/-- The key of the picture of a user begins with the user's folder. -/
theorem imageKey?_of_userId {r : Http.Request} {w : World} {me path filename key : String} (hme : r.userId? = some me)
    (hkey : w.imageKey? (some me) path filename = some key) :
    imagePath (Text.trimEnd '/' (Service.slashed path)) me filename = .ok key := by
  have hsomebody : me ≠ "" := by
    have := (Option.filter_eq_some_iff.mp hme).2
    simpa using this
  obtain ⟨name, w₁, hfolder, hpath⟩ := Service.imageKey?_eq_some.mp hkey
  rw [Service.imageFolder, Option.getD_some, if_neg hsomebody] at hfolder
  rw [(Service.pure_eq_ok.mp hfolder).1] at hpath
  exact hpath

/-! ## What becomes of the objects -/

/-- An upload that fails because the image is not processed leaves the objects as they were exactly when none lay under the key of
the image: where one did, it is lost. An image without an owner loses none. A user who sends a picture under the name of another one in
the user's folder loses that one; the user's row still names it when it was the current picture. -/
theorem leavesObjects_iff (s : Settings) (owner : Option String) (path filename queue content : String) (w : World) :
    (LeavesObjects s owner path filename queue content w ↔
      ∀ key, Unprocessed s owner path filename queue w key → w.store.content? key = none) ∧
    (∀ key, Unprocessed s owner path filename queue w key →
      ∃ e w', Service.uploadImage s owner path filename queue content w = (.error e, w') ∧ e.isProcessing = true ∧
        w'.db = w.db ∧ ∀ key', w'.store.content? key' = if key' = key then none else w.store.content? key') ∧
    (owner.getD "" = "" → Text.endsWith path "//" = false → w.HasNames →
      LeavesObjects s owner path filename queue content w) ∧
    ∀ (site : Http.Site) (r : Http.Request) (e : Failure) (w' : World),
      Http.updateMyPictureEndpoint site r w = (.error e, w') → e.isProcessing = true →
        w'.db = w.db ∧ ∃ me form image key, r.userId? = some me ∧ r.form = .ok form ∧
          Http.sent form "image" Http.formFile = .ok image ∧
          imagePath (Text.trimEnd '/' (Service.slashed site.settings.userPath)) me image.name = .ok key ∧
          ((strike .remove key w.store.rules).1 = none →
            ∀ key', w'.store.content? key' = if key' = key then none else w.store.content? key') := by
  refine ⟨⟨fun hleaves key hkey => ?_, fun hfree => leavesObjects_of_free hfree content⟩, fun key hkey => ?_,
    fun howner hpath hnames => ?_, fun site r e w' h he => ?_⟩
  · obtain ⟨e, w', hrun, he, hstore⟩ := hkey.uploadImage_eq content
    have hsame := hleaves e w' key hrun he hkey.under hkey.remove
    rw [hstore] at hsame
    exact ObjectStore.content?_erase_eq_iff.mp hsame
  · obtain ⟨e, w', hrun, he, hstore⟩ := hkey.uploadImage_eq content
    refine ⟨e, w', hrun, he, (Service.keeps_db_uploadImage s owner path filename queue content).of_eq hrun, fun key' => ?_⟩
    rw [hstore]
    exact ObjectStore.content?_erase _ _ _
  · exact leavesObjects_of_free (fun key hkey => content?_of_newFolder howner hpath hnames hkey.under) content
  · obtain ⟨me, form, image, hme, hform, himage, hupload⟩ := updateMyPicture_eq_error h he
    obtain ⟨key, hkey, -, -, herased⟩ := Service.uploadImage_eq_error hupload he
    refine ⟨(Service.keeps_db_uploadPicture _ _ _ _).of_eq hupload, me, form, image, key, hme, hform, himage,
      imageKey?_of_userId hme hkey, fun hremove key' => ?_⟩
    rw [herased hremove]
    exact ObjectStore.content?_erase _ _ _

/-! ### A picture under the name of the old one -/

namespace SameName

/-- Ann has a picture, and so has Bob. The processing service cannot do the next picture. -/
def world : World where
  db := { users := [⟨"ann", "Ann", none, some "users/ann/me.png", "ROLE_USER", 0⟩] }
  store := { objects := [("users/ann/me.png", "hills"), ("users/bob/me.png", "lakes")] }
  broker := { replies := [some "false"] }

/-- Ann sends another picture under the same name. -/
def request : Http.Request where
  method := "PUT"
  address := "/api/users/me/picture"
  headers := [("x-user-id", "ann"), ("content-type", "multipart/form-data; boundary=b")]
  content := "--b\r\nContent-Disposition: form-data; name=\"image\"; filename=\"me.png\"\r\n\r\nwoods\r\n--b--\r\n"

def site : Http.Site := { settings := {} }

/-- Ann's row names a picture that is in the store no more. Bob's is where it was. -/
theorem old_picture_is_lost :
    ∃ w', Http.updateMyPictureEndpoint site request world = (.error (.refused .negativeReply), w') ∧ w'.db = world.db ∧
      w'.store.content? "users/ann/me.png" = none ∧ w'.store.content? "users/bob/me.png" = some "lakes" := by
  rcases hrun : Http.updateMyPictureEndpoint site request world with ⟨answer, w'⟩
  have hfails : (match (Http.updateMyPictureEndpoint site request world).1 with
      | .error e => e == .refused .negativeReply
      | .ok _ => false) = true := by decide
  rw [hrun] at hfails
  cases answer with
  | ok answer => simp at hfails
  | error e =>
    obtain rfl : e = .refused .negativeReply := by simpa using hfails
    obtain ⟨htables, me, form, image, key, hme, hform, himage, hkey, hobjects⟩ :=
      (leavesObjects_iff {} (some "ann") "users/" "me.png" "user-picture-input" "woods" world).2.2.2 site request _ w' hrun rfl
    have hann : request.userId? = some "ann" := by decide
    have hread : request.form = .ok [("image", .file "me.png" "woods")] := by decide
    have hpicture : Http.sent [("image", .file "me.png" "woods")] "image" Http.formFile = .ok ⟨"me.png", "woods"⟩ := rfl
    have hpath : imagePath (Text.trimEnd '/' (Service.slashed "users/")) "ann" "me.png" = .ok "users/ann/me.png" := by
      decide
    obtain rfl := Option.some.inj (hme.symm.trans hann)
    obtain rfl := Except.ok.inj (hform.symm.trans hread)
    obtain rfl := Except.ok.inj (himage.symm.trans hpicture)
    obtain rfl := Except.ok.inj (hkey.symm.trans hpath)
    exact ⟨w', rfl, htables, hobjects rfl _, hobjects rfl _⟩

/-- What an upload leaves of the objects is not always what was there. -/
theorem not_leavesObjects : ¬LeavesObjects {} (some "ann") "users/" "me.png" "user-picture-input" "woods" world := by
  intro hleaves
  have hrun : Service.uploadImage {} (some "ann") "users/" "me.png" "user-picture-input" "woods" world =
      (.error (.refused .negativeReply),
        (Service.uploadImage {} (some "ann") "users/" "me.png" "user-picture-input" "woods" world).2) :=
    Prod.ext (by decide) rfl
  have hsame := hleaves _ _ "users/ann/me.png" hrun rfl (by decide) rfl "users/ann/me.png"
  revert hsame
  decide

end SameName

end VideoShare
