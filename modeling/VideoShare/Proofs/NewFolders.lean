import VideoShare.Proofs.UnprocessedImage

/-!
# New folders

The search for a new folder has no bound of its own: it draws a name, and draws again for as long as a folder has that name
(`FolderSearch`). Only so many names are taken, and as long as the names that are drawn are different the search cannot go on for more
draws than that and one. The folder it finds holds no object under the path in which it was looked for. The image is put under the path
without the slashes at its end, which is the same path when there is one such slash. Where there are more of them, the image may take
the place of another one, and this is the only way in which an upload without an owner can (`uploads_to_new_folders`).
-/

namespace VideoShare

namespace Service

/-! ## The search -/

/-- A search for the name of a new folder under a path, which goes on until a name is free or a listing fails: how often it draws a
name, and how it ends. -/
inductive FolderSearch (path : String) : World → Nat → Except Failure String × World → Prop
  | free {w w' : World} {name : String} (h : drawOnce path w = (.ok (some name), w')) : FolderSearch path w 1 (.ok name, w')
  | unlisted {w w' : World} {e : Failure} (h : drawOnce path w = (.error e, w')) : FolderSearch path w 1 (.error e, w')
  | taken {w w₁ : World} {n : Nat} {out : Except Failure String × World} (h : drawOnce path w = (.ok none, w₁))
      (rest : FolderSearch path w₁ n out) : FolderSearch path w (n + 1) out

section

variable {path name : String} {w w' : World} {n m : Nat} {out out' : Except Failure String × World}

theorem FolderSearch.pos (h : FolderSearch path w n out) : 1 ≤ n := by
  cases h <;> omega

/-- Drawing with enough fuel ends as the search does. -/
theorem FolderSearch.drawFolder_eq (h : FolderSearch path w n out) {fuel : Nat} (hn : n ≤ fuel) :
    drawFolder path fuel w = out := by
  induction h generalizing fuel with
  | free h =>
    obtain ⟨fuel, rfl⟩ := Nat.exists_eq_add_of_le' hn
    rw [drawFolder_succ, bind_of_ok h]
    rfl
  | unlisted h =>
    obtain ⟨fuel, rfl⟩ := Nat.exists_eq_add_of_le' hn
    rw [drawFolder_succ, bind_of_error h]
  | taken h rest ih =>
    obtain ⟨fuel, rfl⟩ := Nat.exists_eq_add_of_le' (Nat.le_of_add_left_le hn)
    rw [drawFolder_succ, bind_of_ok h]
    exact ih (by omega)

/-- A search ends in one way. -/
theorem FolderSearch.unique (h : FolderSearch path w n out) (h' : FolderSearch path w m out') : m = n ∧ out' = out := by
  induction h generalizing m out' with
  | free h | unlisted h => cases h' <;> rename_i h' <;> simp_all
  | taken h rest ih =>
    cases h' with
    | free h' | unlisted h' => simp_all
    | taken h' rest' =>
      obtain rfl := (Prod.mk.inj (h.symm.trans h')).2
      obtain ⟨rfl, rfl⟩ := ih rest'
      exact ⟨rfl, rfl⟩

/-- A search has ended when a free name is drawn. -/
theorem exists_folderSearch (h1 : 1 ≤ n) (hfree : ¬w.store.Holds path (w.drawn n)) :
    ∃ m out, m ≤ n ∧ FolderSearch path w m out := by
  induction n generalizing w with
  | zero => omega
  | succ n ih =>
    rcases hdraw : drawOnce path w with ⟨e | _ | name, w₁⟩
    · exact ⟨1, _, h1, .unlisted hdraw⟩
    · obtain ⟨htaken, rfl⟩ := drawOnce_eq_none hdraw
      -- the first name is taken, so the free one is drawn later
      have hn : 1 ≤ n := by
        by_contra hzero
        obtain rfl : n = 0 := by omega
        exact hfree htaken
      obtain ⟨m, out, hm, hrest⟩ := ih (w := { w with serial := w.serial + 1 }) hn (by rwa [drawn_succ])
      exact ⟨m + 1, out, by omega, .taken hdraw hrest⟩
    · exact ⟨1, _, h1, .free hdraw⟩

/-- A search ends with the last name it drew, which is free, or because the folder of that name was not listed. It uses up names and
nothing else when it answers one. -/
theorem FolderSearch.ends (h : FolderSearch path w n out) :
    (out = (.ok (w.drawn n), { w with serial := w.serial + n }) ∧ ¬w.store.Holds path (w.drawn n)) ∨
      ((∃ e w', out = (.error e, w')) ∧ (strike .list (path ++ w.drawn n ++ "/") w.store.rules).1 ≠ none) := by
  induction h with
  | free h =>
    obtain ⟨rfl, hfree, rfl⟩ := drawOnce_eq_some h
    exact Or.inl ⟨rfl, hfree⟩
  | unlisted h =>
    refine Or.inr ⟨⟨_, _, rfl⟩, fun hlisted => ?_⟩
    have hanswer := drawOnce_eq_ok.mpr ⟨hlisted, rfl, rfl⟩
    rw [h] at hanswer
    cases hanswer
  | taken h rest ih =>
    obtain ⟨-, rfl⟩ := drawOnce_eq_none h
    simp only [drawn_succ, Nat.add_assoc, Nat.add_comm 1] at ih
    exact ih

end

/-- What is asked of a search for a new folder: it ends after a number of draws, with the answer of `freshFolder`; a name that it
answers is that of no folder, and nothing but names is used up; and it answers one unless it comes to a folder that cannot be listed. -/
structure SearchEnds (path : String) (w : World) (n : Nat) : Prop where
  ends : ∀ m out, FolderSearch path w m out ↔ m = n ∧ out = freshFolder path w
  free : ∀ name w', freshFolder path w = (.ok name, w') → ¬w.store.Holds path name ∧ w' = { w with serial := w.serial + n }
  answers : (∀ i, 1 ≤ i → i ≤ n → (strike .list (path ++ w.drawn i ++ "/") w.store.rules).1 = none) →
    (freshFolder path w).1 = .ok (w.drawn n)

/-- Among different names, one more than are taken, the search comes to a free one. There are at least as many objects as names that are
taken, so the fuel lasts. -/
theorem exists_searchEnds {path : String} {w : World} (h : w.DistinctNames ((w.store.takenNames path).length + 1)) :
    ∃ n, n ≤ (w.store.takenNames path).length + 1 ∧ SearchEnds path w n := by
  obtain ⟨last, h1, hlast, hfree⟩ := exists_free_of_distinctNames h
  obtain ⟨n, out, hn, hsearch⟩ := exists_folderSearch h1 hfree
  have hbound := w.store.length_takenNames_le path
  have hanswer : freshFolder path w = out := hsearch.drawFolder_eq (by omega)
  refine ⟨n, by omega, ?_, ?_, ?_⟩
  · intro m out'
    constructor
    · intro hsearch'
      obtain ⟨hm, hout⟩ := hsearch.unique hsearch'
      exact ⟨hm, hout.trans hanswer.symm⟩
    · rintro ⟨rfl, rfl⟩
      rwa [hanswer]
  · intro name w' hname
    rcases hsearch.ends with ⟨hout, hnone⟩ | ⟨⟨e, w₁, hout⟩, -⟩
    · rw [hname, hout] at hanswer
      obtain ⟨hdrawn, rfl⟩ := Prod.mk.inj hanswer
      obtain rfl := Except.ok.inj hdrawn
      exact ⟨hnone, rfl⟩
    · rw [hname, hout] at hanswer
      cases hanswer
  · intro hlisted
    rcases hsearch.ends with ⟨hout, -⟩ | ⟨-, hstruck⟩
    · rw [hanswer, hout]
    · exact absurd (hlisted n hsearch.pos le_rfl) hstruck

/-! ## Uploads and the objects that were there -/

section

variable {owner : Option String} {path root name filename key : String} {touched : String → Bool} {w w' : World}

/-- Under a key that was not touched lies what lay there before. -/
theorem content?_of_untouched (h : World.untouched touched w' = World.untouched touched w) (hkey : touched key = false) :
    w'.store.content? key = w.store.content? key := by
  have hsame : (w'.store.eraseAll touched).content? key = (w.store.eraseAll touched).content? key := congrArg (List.lookup key) h
  rwa [ObjectStore.content?_eraseAll, ObjectStore.content?_eraseAll, hkey, if_neg Bool.false_ne_true,
    if_neg Bool.false_ne_true] at hsame

theorem keeps_untouched_imageFolder (owner : Option String) (path : String) :
    Keeps (World.untouched touched) (imageFolder owner path) := by
  unfold imageFolder
  split
  · exact keeps_freshFolder (fun _ _ => rfl) keeps_untouched_listObjects path
  · exact Keeps.pure _

/-- An upload into a folder touches the key of the image alone. -/
theorem keeps_untouched_uploadInto (himage : imagePath root name filename = .ok key) (hkey : touched key = true) (s : Settings)
    (queue content : String) :
    Keeps (World.untouched touched) (uploadInto s root filename queue content name) := by
  simp only [uploadInto, himage]
  refine Keeps.bind (keeps_untouched_putObject hkey content) fun _ => Keeps.bind ?_ fun _ => Keeps.pure _
  exact keeps_cleaningUp (keeps_untouched_process _ _ _) (keeps_untouched_removeObject hkey)

/-- Removing an object leaves none under its key, or fails and leaves what was there. -/
theorem content?_removeObject (w : World) (key : String) :
    (removeObject key w).2.store.content? key = none ∨ (removeObject key w).2.store.content? key = w.store.content? key := by
  unfold removeObject storeStep
  split
  · exact Or.inr rfl
  · refine Or.inl ?_
    simp only [ObjectStore.content?_erase, if_true]

/-- Once an image has been put, its content lies under its key, or nothing does. -/
theorem content?_uploadInto (himage : imagePath root name filename = .ok key) (hput : w.putFault key = none) (s : Settings)
    (queue content : String) :
    (uploadInto s root filename queue content name w).2.store.content? key = some content ∨
      (uploadInto s root filename queue content name w).2.store.content? key = none := by
  simp only [uploadInto, himage]
  rw [bind_of_ok (putObject_of_none hput content)]
  have hstored := w.store.content?_insert_self key content
  rcases hprocess : cleaningUp (process queue key s.processingTimeout) (removeObject key)
    { w with store := w.store.insert key content } with ⟨e | _, w₁⟩
  · rw [bind_of_error hprocess]
    obtain ⟨w₂, hfailed, rfl⟩ := cleaningUp_eq_error.mp hprocess
    have hstore := (process_eq_error hfailed).2
    rcases content?_removeObject w₂ key with hgone | hleft
    · exact Or.inr hgone
    · exact Or.inl (by rw [hleft, hstore, hstored])
  · rw [bind_of_ok hprocess]
    have hstore := (keeps_process (f := World.store) (fun _ _ => rfl) (fun _ _ => rfl) _ _ _).of_eq (cleaningUp_eq_ok.mp hprocess)
    exact Or.inl (by rw [pure_apply, hstore, hstored])

/-- An upload that the store does not take changes no object. -/
theorem objects_uploadInto_of_fault {e : Failure} (himage : imagePath root name filename = .ok key) (hput : w.putFault key = some e)
    (s : Settings) (queue content : String) : (uploadInto s root filename queue content name w).2.store.objects = w.store.objects := by
  simp only [uploadInto, himage]
  rw [bind_of_error (putObject_of_fault hput content)]

end

end Service

/-- Whatever is uploaded and however the upload ends, every object that was there is still there with what it held. -/
def SparesObjects (s : Settings) (owner : Option String) (path filename queue : String) (w : World) : Prop :=
  ∀ content key old, w.store.content? key = some old →
    (Service.uploadImage s owner path filename queue content w).2.store.content? key = some old

section

variable {s : Settings} {owner : Option String} {path filename queue : String} {w : World}

open Service

/-- Uploads spare the objects when nothing lies under the key that the image is put under. -/
theorem sparesObjects_of_free
    (hfree : ∀ key, w.imageKey? owner path filename = some key → w.putFault key = none → w.store.content? key = none) :
    SparesObjects s owner path filename queue w := by
  intro content key old hold
  rw [uploadImage_eq]
  rcases hfolder : imageFolder owner (slashed path) w with ⟨e | name, w₁⟩
  · rw [bind_of_error hfolder]
    have hsame : World.untouched (fun _ => false) w₁ = World.untouched (fun _ => false) w :=
      (keeps_untouched_imageFolder _ _).of_eq hfolder
    exact (content?_of_untouched hsame rfl).trans hold
  rw [bind_of_ok hfolder]
  obtain ⟨⟨n, rfl⟩, -⟩ := imageFolder_eq_ok hfolder
  cases himage : imagePath (Text.trimEnd '/' (slashed path)) name filename with
  | error r =>
    simp only [uploadInto, himage, refuse_apply]
    exact hold
  | ok image =>
    cases hput : w.putFault image with
    | some e =>
      have hput' : World.putFault { w with serial := w.serial + n } image = some e := hput
      have hobjects := objects_uploadInto_of_fault himage hput' s queue content
      exact (congrArg (List.lookup key) hobjects).trans hold
    | none =>
      have hnone := hfree image (imageKey?_eq_some.mpr ⟨name, _, hfolder, himage⟩) hput
      have hne : (key == image) = false := by
        refine beq_false_of_ne ?_
        rintro rfl
        rw [hold] at hnone
        cases hnone
      have hothers : Keeps (World.untouched (· == image)) (uploadInto s _ filename queue content name) :=
        keeps_untouched_uploadInto himage (by simp) s queue content
      exact (content?_of_untouched (hothers _) hne).trans hold

/-- An image that is put under the key of an object takes its place, for it holds something else. -/
theorem free_of_sparesObjects {key : String} (h : SparesObjects s owner path filename queue w)
    (hkey : w.imageKey? owner path filename = some key) (hput : w.putFault key = none) : w.store.content? key = none := by
  by_contra hheld
  obtain ⟨old, hold⟩ := Option.ne_none_iff_exists'.mp hheld
  -- content that differs from the old one, whatever that is
  have hkept := h (old ++ "x") key old hold
  obtain ⟨name, w₁, hfolder, himage⟩ := imageKey?_eq_some.mp hkey
  obtain ⟨⟨n, rfl⟩, -⟩ := imageFolder_eq_ok hfolder
  rw [uploadImage_eq, bind_of_ok hfolder] at hkept
  have hput' : World.putFault { w with serial := w.serial + n } key = none := hput
  rcases content?_uploadInto himage hput' s queue (old ++ "x") with hnew | hgone
  · rw [hkept, Option.some.injEq] at hnew
    have hlength := congrArg (fun t => t.toList.length) hnew
    simp at hlength
  · rw [hkept] at hgone
    cases hgone

end

/-- The search for a new folder ends after at most one draw more than names are taken, as long as so many names are different, and the
folder that it answers holds no object. An upload without an owner spares the objects that are there exactly when none of them lies under
the key of the image. That none does follows from the search when the path ends in one slash at most. -/
theorem uploads_to_new_folders (s : Settings) (owner : Option String) (path filename queue : String) (w : World)
    (howner : owner.getD "" = "") (hnames : w.DistinctNames ((w.store.takenNames (Service.slashed path)).length + 1)) :
    (∃ n, n ≤ (w.store.takenNames (Service.slashed path)).length + 1 ∧ Service.SearchEnds (Service.slashed path) w n) ∧
    (SparesObjects s owner path filename queue w ↔
      ∀ key, w.imageKey? owner path filename = some key → w.putFault key = none → w.store.content? key = none) ∧
    (Text.endsWith path "//" = false → SparesObjects s owner path filename queue w) := by
  obtain ⟨n, hn, hends⟩ := Service.exists_searchEnds hnames
  refine ⟨⟨n, hn, hends⟩, ⟨fun h key => free_of_sparesObjects h, sparesObjects_of_free⟩, fun hpath => ?_⟩
  refine sparesObjects_of_free fun key hkey _ => ?_
  obtain ⟨name, w₁, hfolder, himage⟩ := Service.imageKey?_eq_some.mp hkey
  rw [Service.imageFolder, if_pos howner] at hfolder
  exact content?_of_not_holds hpath (hends.free name w₁ hfolder).1 himage

/-! ### A folder that is there -/

namespace TakenFolder

/-- The first name that will be drawn is that of Ann's folder. The processing service cannot do the next picture. -/
def world : World where
  store := { objects := [("users/000000000001/me.png", "hills")] }
  broker := { replies := [some "false"] }

/-- The search goes on to the second name, and Ann's picture is where it was when the new one is taken away again. -/
theorem picture_is_spared :
    (∃ n, n ≤ 2 ∧ Service.SearchEnds "users/" world n) ∧
    (Service.uploadImage {} none "users/" "me.png" "user-picture-input" "woods" world).1 = .error (.refused .negativeReply) ∧
    (Service.uploadImage {} none "users/" "me.png" "user-picture-input" "woods" world).2.store.content?
      "users/000000000001/me.png" = some "hills" := by
  obtain ⟨hends, -, hspares⟩ :=
    uploads_to_new_folders {} none "users/" "me.png" "user-picture-input" world rfl (by decide)
  refine ⟨?_, by decide +kernel, hspares (by decide +kernel) "woods" _ _ rfl⟩
  have hslashed : Service.slashed "users/" = "users/" := by decide
  have htaken : (world.store.takenNames "users/").length = 1 := by decide
  rwa [hslashed, htaken] at hends

/-- With one slash more at the end of the path another folder is looked for than the image goes into. -/
theorem not_sparesObjects :
    Text.endsWith "users//" "/" = true ∧ world.DistinctNames ((world.store.takenNames "users//").length + 1) ∧
      ¬SparesObjects {} none "users//" "me.png" "user-picture-input" world := by
  refine ⟨by decide, by decide, fun hspares => ?_⟩
  have hkept := hspares "woods" "users/000000000001/me.png" "hills" rfl
  revert hkept
  decide +kernel

end TakenFolder

end VideoShare
