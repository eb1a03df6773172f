import VideoShare.Proofs.BrokenUpload
import VideoShare.Proofs.ImagePaths

/-!
# Images that are removed

With the image of a user everything goes that lies in the folder of its owner, with that of a video the image alone. Which folder that
is can only be read off the path, and the objects in it are removed one by one. So what goes is said by the keys (`goesWith`), and it is
shown of every step that it removes such objects at most. A removal that breaks off has removed some of them, and when it is tried again
the rest goes (`image_removal`).
-/

namespace VideoShare

/-- Whether an object goes with an image: with that of a user everything in the folder of the owner, with that of a video what lies
under the path of the image. -/
def goesWith (root owner path key : String) : Bool :=
  if root = "users" then Text.startsWith key ("users/" ++ owner ++ "/") else key == path

namespace Service

variable {α β : Type} {touched : String → Bool}

/-! ## Calls that remove objects -/

/-- A call that removes objects under some keys and does nothing else. It may have removed only some of them when it fails, which it
does as the store does, and never in a healthy world. -/
structure Removes (touched : String → Bool) (x : Service α) : Prop where
  untouched : Keeps (World.untouched touched) x
  sublist : ∀ w, (x w).2.store.objects.Sublist w.store.objects
  beside : Keeps (fun w => { w with store := {} }) x
  fails : ∀ w w' e, x w = (.error e, w') → ∃ operation key, ∃ fault : StoreFault, e = fault.failure operation key
  answers : Unfailing x

namespace Removes

theorem pure (a : α) : Removes touched (Pure.pure a : Service α) where
  untouched := Keeps.pure a
  sublist _ := List.Sublist.refl _
  beside := Keeps.pure a
  fails w w' e h := by simp at h
  answers := Unfailing.pure a

/-- A sequence removes objects when its first call does, and its second call where the first one answered. -/
theorem bind {x : Service α} {f : α → Service β} (hx : Removes touched x)
    (hf : ∀ a w w₁, x w = (.ok a, w₁) → Removes touched (f a)) : Removes touched (x >>= f) where
  untouched := Keeps.bind_of_ok hx.untouched fun a w w₁ h => (hf a w w₁ h).untouched
  sublist w := by
    have hfirst := hx.sublist w
    rcases hw : x w with ⟨e | a, w₁⟩
    · rw [bind_of_error hw]
      rwa [hw] at hfirst
    · rw [bind_of_ok hw]
      rw [hw] at hfirst
      exact ((hf a w w₁ hw).sublist w₁).trans hfirst
  beside := Keeps.bind_of_ok hx.beside fun a w w₁ h => (hf a w w₁ h).beside
  fails w w' e h := by
    rcases bind_eq_error.mp h with hfirst | ⟨a, w₁, hanswer, hsecond⟩
    · exact hx.fails w w' e hfirst
    · exact (hf a w w₁ hanswer).fails w₁ w' e hsecond
  answers w hw := by
    obtain ⟨a, w₁, ha, hw₁⟩ := hx.answers w hw
    obtain ⟨b, w₂, hb, hw₂⟩ := (hf a w w₁ ha).answers w₁ hw₁
    exact ⟨b, w₂, by rw [bind_of_ok ha, hb], hw₂⟩

theorem forEach {f : α → Service Unit} :
    ∀ {l : List α}, (∀ a ∈ l, Removes touched (f a)) → Removes touched (Service.forEach f l)
  | [], _ => Removes.pure ()
  | a :: _, h => Removes.bind (h a (by simp)) fun _ _ _ _ => Removes.forEach fun b hb => h b (by simp [hb])

end Removes

/-- An operation on the store removes objects when its effect does, answers, and leaves the faults to come as they are. -/
theorem removes_storeStep {operation : StoreOperation} {key : String} {effect : ObjectStore → Except Failure α × ObjectStore}
    (huntouched : Keeps (World.untouched touched) (storeStep operation key effect))
    (hsublist : ∀ store, (effect store).2.objects.Sublist store.objects)
    (hanswers : ∀ store, ∃ a, (effect store).1 = .ok a ∧ (effect store).2.rules = store.rules) :
    Removes touched (storeStep operation key effect) where
  untouched := huntouched
  sublist w := by
    unfold storeStep
    split
    · exact List.Sublist.refl _
    · exact hsublist w.store
  beside := keeps_storeStep (fun _ _ => rfl) operation key effect
  fails w w' e h := by
    unfold storeStep at h
    split at h
    · rename_i fault _ _
      exact ⟨operation, key, fault, (Except.error.inj (Prod.mk.inj h).1).symm⟩
    · obtain ⟨a, ha, -⟩ := hanswers w.store
      have hanswer : (effect w.store).1 = .error e := congrArg Prod.fst h
      rw [ha] at hanswer
      cases hanswer
  answers := unfailing_storeStep hanswers

theorem removes_removeObject {key : String} (h : touched key = true) : Removes touched (removeObject key) :=
  removes_storeStep (keeps_untouched_removeObject h) (fun _ => List.filter_sublist) fun _ => ⟨(), rfl, rfl⟩

theorem removes_listObjects (path : String) : Removes touched (listObjects path) :=
  removes_storeStep (keeps_untouched_listObjects path) (fun _ => List.Sublist.refl _) fun _ => ⟨_, rfl, rfl⟩

/-- The keys that are listed begin with the path of the folder. -/
theorem removes_removeFolder {folder : String} (h : ∀ key, Text.startsWith key folder = true → touched key = true) :
    Removes touched (removeFolder folder) := by
  refine Removes.bind (removes_listObjects folder) fun keys w w₁ hlist => Removes.forEach fun key hkey => ?_
  obtain ⟨rfl, -⟩ := listObjects_eq_ok hlist
  exact removes_removeObject (h key (ObjectStore.mem_keysUnder.mp hkey).2)

/-! ## The two steps of a removal -/

/-- Removes what lies in a folder, if anything does. -/
def clearFolder (folder : String) : Service Unit := do
  let keys ← listObjects folder
  if !keys.isEmpty then removeFolder folder

/-- Clears the folder of an owner when the image is one of a user. -/
def clearOwner (root owner : String) : Service Unit :=
  if root = "users" then clearFolder ("users/" ++ owner ++ "/") else pure ()

section Removal

variable {s : Settings} {root owner name path folder : String} {w w' : World}

/-- An image is removed in two steps: the image itself, and then the rest of the folder of a user. -/
theorem deleteImage_eq (hs : s.userPath = "users/") (hpath : imagePath root owner name = .ok path) :
    deleteImage s path = removeObject path >>= fun _ => clearOwner root owner := by
  have hfolder := throughLast?_imagePath hpath
  obtain ⟨hroot, -, -, -⟩ := imagePath_eq_ok.mp hpath
  rw [deleteImage, hfolder, hs, clearOwner]
  have hroots : root = "users" ∨ root = "videos" := by simpa [imageRoots] using hroot
  rcases hroots with rfl | rfl
  · have hunder : Text.startsWith ("users" ++ "/" ++ owner ++ "/") "users/" = true := by
      rw [String.append_assoc]
      exact Text.startsWith_append "users/" (owner ++ "/")
    simp only [hunder, if_true]
    rfl
  · have hunder : Text.startsWith ("videos" ++ "/" ++ owner ++ "/") "users/" = false := by
      rw [Text.startsWith, String.append_assoc, String.toList_append]
      rfl
    simp only [hunder, Bool.false_eq_true, if_false]
    rfl

theorem clearFolder_eq_ok (h : clearFolder folder w = (.ok (), w')) :
    w' = { w with store := w.store.eraseAll fun key => Text.startsWith key folder } := by
  obtain ⟨keys, w₁, hlist, hrest⟩ := bind_eq_ok.mp h
  obtain ⟨rfl, rfl⟩ := listObjects_eq_ok hlist
  by_cases hempty : (w₁.store.keysUnder folder).isEmpty = true
  · -- nothing lies in the folder, so that removing what lies there changes nothing
    rw [hempty] at hrest
    have hnone : ∀ o ∈ w₁.store.objects, Text.startsWith o.1 folder = false := by
      intro o ho
      by_contra hunder
      rw [Bool.not_eq_false] at hunder
      have hmem : o.1 ∈ w₁.store.keysUnder folder := ObjectStore.mem_keysUnder.mpr ⟨⟨o, ho, rfl⟩, hunder⟩
      rw [List.isEmpty_iff.mp hempty] at hmem
      exact List.not_mem_nil hmem
    rw [ObjectStore.eraseAll_of_false hnone]
    exact (pure_eq_ok.mp hrest).2
  · rw [Bool.not_eq_true] at hempty
    rw [hempty] at hrest
    exact removeFolder_eq_ok hrest

/-- The image itself goes with the image. -/
theorem goesWith_self (hpath : imagePath root owner name = .ok path) : goesWith root owner path path = true := by
  obtain ⟨-, -, -, rfl⟩ := imagePath_eq_ok.mp hpath
  unfold goesWith
  split
  · rename_i hroot
    rw [hroot]
    exact Text.startsWith_append _ name
  · exact beq_self_eq_true _

/-- A removal that answered has removed what goes with the image, and has changed nothing else. -/
theorem deleteImage_eq_ok (hs : s.userPath = "users/") (hpath : imagePath root owner name = .ok path)
    (h : deleteImage s path w = (.ok (), w')) : w' = { w with store := w.store.eraseAll (goesWith root owner path) } := by
  rw [deleteImage_eq hs hpath] at h
  obtain ⟨_, w₁, hremoved, hcleared⟩ := bind_eq_ok.mp h
  obtain rfl := removeObject_eq_ok hremoved
  have hself := goesWith_self hpath
  unfold clearOwner at hcleared
  unfold goesWith at hself ⊢
  split at hcleared
  · rename_i hroot
    rw [if_pos hroot] at hself
    have herase : w.store.erase path = w.store.eraseAll (· == path) := rfl
    rw [clearFolder_eq_ok hcleared, herase, ObjectStore.eraseAll_eraseAll]
    congr 1
    refine ObjectStore.eraseAll_congr fun o _ => ?_
    rw [if_pos hroot]
    by_cases ho : o.1 = path
    · simp [ho, hself]
    · simp [ho]
  · rename_i hroot
    simp only [if_neg hroot]
    exact (pure_eq_ok.mp hcleared).2

/-- However it ends, the removal of an image has removed nothing but what goes with the image. -/
theorem removes_deleteImage (hs : s.userPath = "users/") (hpath : imagePath root owner name = .ok path) :
    Removes (goesWith root owner path) (deleteImage s path) := by
  rw [deleteImage_eq hs hpath]
  refine Removes.bind (removes_removeObject (goesWith_self hpath)) fun _ _ _ _ => ?_
  unfold clearOwner
  split
  · rename_i hroot
    refine Removes.bind (removes_listObjects _) fun keys _ _ _ => ?_
    split
    · refine removes_removeFolder fun key hkey => ?_
      rw [goesWith, if_pos hroot, hkey]
    · exact Removes.pure ()
  · exact Removes.pure ()

end Removal

end Service

/-- What a removal of an image that broke off has left: some of the objects that go with the image are gone, and all else is as it was.
Another removal takes the rest, and leaves what it would have left if it had been the first one. -/
structure RemovalBroken (s : Settings) (path : String) (goes : String → Bool) (w broken : World) (e : Failure) : Prop where
  fault : ∃ operation key, ∃ fault : StoreFault, e = fault.failure operation key
  beside : broken = { w with store := broken.store }
  removed : broken.store.objects.Sublist w.store.objects
  others : World.untouched goes broken = World.untouched goes w
  again : ∀ later last, later.store.objects = broken.store.objects → Service.deleteImage s path later = (.ok (), last) →
    ∀ direct done, direct.store.objects = w.store.objects → Service.deleteImage s path direct = (.ok (), done) →
      last.store.objects = done.store.objects

/-- A removal of an image that answers removes exactly what goes with the image: the folder of the owner for the image of a user, and
the image alone for that of a video. One that fails has removed some of these objects and nothing else, fails because the store does,
and can be made again. In a healthy world it answers. -/
theorem image_removal (s : Settings) (hs : s.userPath = "users/") (root owner name path : String)
    (hpath : imagePath root owner name = .ok path) (w w' : World) :
    (Service.deleteImage s path w = (.ok (), w') →
      w' = { w with store := w.store.eraseAll (goesWith root owner path) } ∧
        ∀ key, w'.store.content? key = if goesWith root owner path key then none else w.store.content? key) ∧
    (∀ e, Service.deleteImage s path w = (.error e, w') → RemovalBroken s path (goesWith root owner path) w w' e) ∧
    (w.Healthy → ∃ done, Service.deleteImage s path w = (.ok (), done)) := by
  have hremoves := Service.removes_deleteImage hs hpath
  refine ⟨fun h => ?_, fun e h => ?_, fun hw => ?_⟩
  · obtain rfl := Service.deleteImage_eq_ok hs hpath h
    exact ⟨rfl, fun key => ObjectStore.content?_eraseAll _ _ key⟩
  · have hothers := hremoves.untouched.of_eq h
    refine
      { fault := hremoves.fails w w' e h
        beside := ?_
        removed := ?_
        others := hothers
        again := ?_ }
    · have hbeside : { w' with store := {} } = { w with store := {} } := hremoves.beside.of_eq h
      calc w' = { { w' with store := {} } with store := w'.store } := rfl
        _ = { { w with store := {} } with store := w'.store } := by rw [hbeside]
        _ = { w with store := w'.store } := rfl
    · have hsublist := hremoves.sublist w
      rwa [h] at hsublist
    · intro later last hlater hlast direct done hdirect hdone
      rw [Service.deleteImage_eq_ok hs hpath hlast, Service.deleteImage_eq_ok hs hpath hdone]
      calc World.untouched (goesWith root owner path) later
          = World.untouched (goesWith root owner path) w' := by simp only [World.untouched, ObjectStore.eraseAll, hlater]
        _ = World.untouched (goesWith root owner path) w := hothers
        _ = World.untouched (goesWith root owner path) direct := by simp only [World.untouched, ObjectStore.eraseAll, hdirect]
  · obtain ⟨⟨⟩, done, hdone, -⟩ := hremoves.answers w hw
    exact ⟨done, hdone⟩

/-! ### A removal that stops at the second object -/

namespace StuckPicture

def objects : List (String × String) :=
  [("users/ann/me.png", "ann"), ("users/ann/small/me.png", "ann"), ("users/anna/me.png", "anna"), ("videos/ann/me.png", "film")]

def healthy : World := { store := { objects := objects } }

/-- The small picture cannot be removed once. -/
def stuck : World := { store := { objects := objects, rules := [⟨.remove, "small", .unreachable, some 1⟩] } }

/-- The removal of Ann's picture has removed one of two objects when it fails, and the next one removes the other. Anna's picture, whose
folder begins like Ann's, stays. -/
theorem small_picture_goes_later :
    imagePath "users" "ann" "me.png" = .ok "users/ann/me.png" ∧
      ∃ broken e, Service.deleteImage {} "users/ann/me.png" stuck = (.error e, broken) ∧
        broken.store.objects = objects.drop 1 ∧
        RemovalBroken {} "users/ann/me.png" (goesWith "users" "ann" "users/ann/me.png") stuck broken e ∧
        ∃ last, Service.deleteImage {} "users/ann/me.png" broken = (.ok (), last) ∧ last.store.objects = objects.drop 2 := by
  have hpath : imagePath "users" "ann" "me.png" = .ok "users/ann/me.png" := by decide
  have hstuck : (Service.deleteImage {} "users/ann/me.png" stuck).1 =
      .error (.refused (.storeFailed "An unspecified error occurred")) := by decide +kernel
  have hlast : (Service.deleteImage {} "users/ann/me.png" (Service.deleteImage {} "users/ann/me.png" stuck).2).1 = .ok () := by
    decide +kernel
  have hbroken := (image_removal {} rfl "users" "ann" "me.png" _ hpath stuck _).2.1 _ (Prod.ext hstuck rfl)
  have hdone : Service.deleteImage {} "users/ann/me.png" healthy = (.ok (), { healthy with store := { objects := objects.drop 2 } }) := by
    decide +kernel
  exact ⟨hpath, _, _, Prod.ext hstuck rfl, by decide +kernel, hbroken, _, Prod.ext hlast rfl,
    hbroken.again _ _ rfl (Prod.ext hlast rfl) healthy _ rfl hdone⟩

end StuckPicture

end VideoShare
