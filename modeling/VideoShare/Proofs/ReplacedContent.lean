import VideoShare.Proofs.BrokenUpload

/-!
# Content that is replaced

New content takes the place of everything in the folder of a video but the thumbnail: the old content, its playlist and its segments go.
Which object is the thumbnail is told by looking for its name in the keys, and a key may have that name in it without being the key of
the thumbnail. Such an object stays with the new content. The folder holds what it should hold exactly when it held no such object
before (`folderReplaced_iff`); what is outside the folder is left alone in any case.
-/

namespace VideoShare

/-! ## What is asked of a replacement -/

section

variable (s : Settings) (folder : String) (thumbnail : Option String) (content : String)

/-- What is to be found under a key once new content has taken the place of the old: in the folder of the video the content, and the
thumbnail if one is given or was there; outside the folder what was there. -/
def replaced (before : ObjectStore) (key : String) : Option String :=
  if key = folder ++ s.videoFilename then some content
  else if key = folder ++ s.thumbnailFilename then thumbnail.or (before.content? key)
  else if Text.startsWith key folder then none
  else before.content? key

/-- New content has taken the place of the old, and of nothing else. -/
def FolderReplaced (before after : ObjectStore) : Prop :=
  ∀ key, after.content? key = replaced s folder thumbnail content before key

/-- A key in the folder of a video that has the name of the thumbnail in it, and is neither the key of the thumbnail nor that of the
content. -/
structure Mistakable (key : String) : Prop where
  inFolder : Text.startsWith key folder = true
  named : Text.contains key s.thumbnailFilename = true
  notThumbnail : key ≠ folder ++ s.thumbnailFilename
  notContent : key ≠ folder ++ s.videoFilename

end

/-! ## What a replacement leaves -/

section

variable {s : Settings} {folder content key : String} {thumbnail : Option String} {before : ObjectStore}

/-- What lies in the store once new files have taken the place of the old ones: what counts as content is gone but for the new one. -/
theorem content?_withFiles (s : Settings) (folder : String) (thumbnail : Option String) (content : String) (before : ObjectStore)
    (key : String) :
    (s.withFiles folder thumbnail (some content) before).content? key =
      if key = folder ++ s.videoFilename then some content
      else if s.isContent folder key then none
      else if key = folder ++ s.thumbnailFilename then thumbnail.or (before.content? key)
      else before.content? key := by
  cases thumbnail with
  | none => simp [Settings.withFiles, ObjectStore.content?_insert, ObjectStore.content?_eraseAll]
  | some t => simp [Settings.withFiles, ObjectStore.content?_insert, ObjectStore.content?_eraseAll]

/-- The key of the thumbnail does not count as content: it has the thumbnail's name in it. -/
theorem isContent_thumbnail (s : Settings) (folder : String) : s.isContent folder (folder ++ s.thumbnailFilename) = false := by
  rw [Settings.isContent, Text.contains_append, Bool.not_true, Bool.and_false]

/-- An object that is mistaken for the thumbnail is left where it was. -/
theorem Mistakable.content?_withFiles (h : Mistakable s folder key) :
    (s.withFiles folder thumbnail (some content) before).content? key = before.content? key := by
  have hspared : s.isContent folder key = false := by rw [Settings.isContent, h.named, Bool.not_true, Bool.and_false]
  rw [VideoShare.content?_withFiles, if_neg h.notContent, hspared, if_neg Bool.false_ne_true, if_neg h.notThumbnail]

/-- No object is to stay under a key that is mistaken for that of the thumbnail. -/
theorem Mistakable.replaced (h : Mistakable s folder key) : replaced s folder thumbnail content before key = none := by
  rw [VideoShare.replaced, if_neg h.notContent, if_neg h.notThumbnail, if_pos h.inFolder]

/-- Under every other key lies what is to be found there. -/
theorem content?_withFiles_of_not_mistakable (h : ¬Mistakable s folder key) :
    (s.withFiles folder thumbnail (some content) before).content? key = replaced s folder thumbnail content before key := by
  rw [VideoShare.content?_withFiles, VideoShare.replaced]
  by_cases hcontent : key = folder ++ s.videoFilename
  · rw [if_pos hcontent, if_pos hcontent]
  by_cases hthumbnail : key = folder ++ s.thumbnailFilename
  · have hkept : s.isContent folder key = false := hthumbnail ▸ isContent_thumbnail s folder
    rw [if_neg hcontent, if_neg hcontent, hkept, if_neg Bool.false_ne_true, if_pos hthumbnail, if_pos hthumbnail]
  -- what is left in the folder has the thumbnail's name nowhere in its key
  have hcounts : s.isContent folder key = Text.startsWith key folder := by
    cases hunder : Text.startsWith key folder with
    | false => rw [Settings.isContent, hunder, Bool.false_and]
    | true =>
      cases hnamed : Text.contains key s.thumbnailFilename with
      | false => rw [Settings.isContent, hunder, hnamed]; rfl
      | true => exact absurd ⟨hunder, hnamed, hthumbnail, hcontent⟩ h
  rw [if_neg hcontent, if_neg hcontent, hcounts, if_neg hthumbnail, if_neg hthumbnail]

end

/-- New content takes the place of everything that lay in the folder of a video but the thumbnail, and of nothing outside it, exactly
when no object lay there that is mistaken for the thumbnail. An object that is stays, under its key and with what it held; under every
other key lies what should be found there, whatever was there before. -/
theorem folderReplaced_iff (s : Settings) (video : Int) (changes : VideoChanges) (thumbnail : Option String) (content : String)
    (w w' : World) (v : Video) (h : Service.updateVideo s video changes thumbnail (some content) w = (.ok v, w')) :
    (FolderReplaced s (s.videoFolder video) thumbnail content w.store w'.store ↔
      ∀ key, Mistakable s (s.videoFolder video) key → w.store.content? key = none) ∧
    (∀ key, Mistakable s (s.videoFolder video) key → w'.store.content? key = w.store.content? key) ∧
    ∀ key, ¬Mistakable s (s.videoFolder video) key →
      w'.store.content? key = replaced s (s.videoFolder video) thumbnail content w.store key := by
  rw [Service.updateVideo_store h]
  refine ⟨⟨fun hreplaced key hkey => ?_, fun hnone key => ?_⟩, fun _ hkey => hkey.content?_withFiles,
    fun _ => content?_withFiles_of_not_mistakable⟩
  · have hleft := hreplaced key
    rwa [hkey.content?_withFiles, hkey.replaced] at hleft
  · by_cases hkey : Mistakable s (s.videoFolder video) key
    · rw [hkey.content?_withFiles, hkey.replaced, hnone key hkey]
    · exact content?_withFiles_of_not_mistakable hkey

/-! ### A segment with the thumbnail in its name -/

namespace SparedSegment

/-- Ann's video has been cut into segments, of which one is named after the thumbnail. -/
def world : World where
  db := { videos := [⟨1, "ann", "Surf", none, "Sport", "en", 60, 0, 0⟩] }
  store := { objects := [("videos/1/thumbnail.jpg", "wave"), ("videos/1/index.m3u8", "list"), ("videos/1/0.ts", "old"),
    ("videos/1/thumbnail.jpg.ts", "old"), ("videos/10/index.mp4", "golf")] }

/-- Nothing in this world keeps the content from being replaced. -/
theorem exists_change : ∃ v w', Service.updateVideo {} 1 {} none (some "new") world = (.ok v, w') :=
  Service.updateVideo_of_found {} {} none (some "new") (by decide) rfl
    { store := fun _ _ => rfl, queues := rfl, replies := by simp [world] }

/-- The playlist and a segment are gone, the thumbnail and what is in the folder of another video are kept, and so is the segment that is
named after the thumbnail. -/
theorem segment_is_spared :
    ∃ v w', Service.updateVideo {} 1 {} none (some "new") world = (.ok v, w') ∧
      w'.store.content? "videos/1/index.mp4" = some "new" ∧ w'.store.content? "videos/1/thumbnail.jpg" = some "wave" ∧
      w'.store.content? "videos/1/index.m3u8" = none ∧ w'.store.content? "videos/1/0.ts" = none ∧
      w'.store.content? "videos/10/index.mp4" = some "golf" ∧
      w'.store.content? "videos/1/thumbnail.jpg.ts" = some "old" := by
  obtain ⟨v, w', h⟩ := exists_change
  have hfolder : Settings.videoFolder {} 1 = "videos/1/" := by decide
  obtain ⟨-, hmistaken, hothers⟩ := folderReplaced_iff {} 1 {} none "new" world w' v h
  rw [hfolder] at hmistaken hothers
  have hnamed : ∀ key, Text.contains key "thumbnail.jpg" = false → ¬Mistakable {} "videos/1/" key := fun key hkey hm =>
    Bool.false_ne_true (hkey.symm.trans hm.named)
  have hspared : Mistakable {} "videos/1/" "videos/1/thumbnail.jpg.ts" :=
    ⟨by decide, by decide, by decide, by decide⟩
  refine ⟨v, w', h, (hothers _ (hnamed _ (by decide))).trans (by decide), ?_, ?_, ?_, ?_, hmistaken _ hspared⟩
  · exact (hothers _ fun hm => hm.notThumbnail rfl).trans (by decide)
  · exact (hothers _ (hnamed _ (by decide))).trans (by decide)
  · exact (hothers _ (hnamed _ (by decide))).trans (by decide)
  · exact (hothers _ (hnamed _ (by decide))).trans (by decide)

/-- The old content is not wholly gone. -/
theorem not_folderReplaced :
    ∃ v w', Service.updateVideo {} 1 {} none (some "new") world = (.ok v, w') ∧
      ¬FolderReplaced {} "videos/1/" none "new" world.store w'.store := by
  obtain ⟨v, w', h⟩ := exists_change
  refine ⟨v, w', h, fun hreplaced => ?_⟩
  have hgone := hreplaced "videos/1/thumbnail.jpg.ts"
  rw [Service.updateVideo_store h] at hgone
  revert hgone
  decide

end SparedSegment

end VideoShare
