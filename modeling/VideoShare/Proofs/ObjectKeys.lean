import VideoShare.Proofs.DecimalText
import VideoShare.Proofs.ImagePaths
import VideoShare.Videos

/-!
# Keys that cannot be mistaken

What lies in the object store is told apart by its keys alone. The three parts of the path of an image can be told from the path, no
key lies in the folders of two videos, and the key of a segment lies in the folder of its video and no deeper. So different images have
different keys and different segments have different keys (`object_keys_stay_apart`).
-/

namespace VideoShare

/-! ## Paths of images -/

section Images

variable {root owner name root' owner' name' path : String}

theorem exists_imagePath_iff :
    (∃ path, imagePath root owner name = .ok path) ↔
      root ∈ imageRoots ∧ (owner ≠ "" ∧ Confined owner) ∧ name ≠ "" ∧ Confined name := by
  simp only [imagePath_eq_ok, isImagePart_iff, exists_and_left, exists_eq, and_true]

/-- Two images have one path when they have the same root, owner and name. -/
theorem imagePath_inj (h : imagePath root owner name = .ok path) (h' : imagePath root' owner' name' = .ok path) :
    (root', owner', name') = (root, owner, name) := by
  have hparts : [root', owner', name'] = [root, owner, name] := (split_imagePath h').symm.trans (split_imagePath h)
  simpa only [List.cons.injEq, and_true, Prod.mk.injEq] using hparts

end Images

/-! ## Folders of videos -/

section Folders

variable {s : Settings} {a b : Int} {key rest rest' : String}

/-- A slash ends the id in the name of a folder, so what stands behind a folder does not matter to the id. -/
theorem eq_of_videoFolder_append (h : s.videoFolder a ++ rest = s.videoFolder b ++ rest') : a = b := by
  have hlists : ∀ (video : Int) (rest : String), (s.videoFolder video ++ rest).toList =
      s.videoPath.toList ++ ((toString video).toList ++ '/' :: rest.toList) := by
    intro video rest
    simp [Settings.videoFolder]
  have hcut : (toString a).toList ++ '/' :: rest.toList = (toString b).toList ++ '/' :: rest'.toList := by
    have hkeys := congrArg String.toList h
    rw [hlists, hlists] at hkeys
    exact List.append_cancel_left hkeys
  have hpieces := congrArg (Text.splitAt '/') hcut
  rw [Text.splitAt_append_cons (Text.slash_not_mem_toString a), Text.splitAt_append_cons (Text.slash_not_mem_toString b)] at hpieces
  exact Text.eq_of_toString_eq (String.toList_inj.mp (List.cons.inj hpieces).1)

/-- No key lies in the folders of two videos. -/
theorem videoFolder_disjoint (ha : Text.startsWith key (s.videoFolder a) = true) (hb : Text.startsWith key (s.videoFolder b) = true) :
    a = b := by
  obtain ⟨rest, rfl⟩ := Text.startsWith_iff.mp ha
  obtain ⟨rest', hrest'⟩ := Text.startsWith_iff.mp hb
  exact eq_of_videoFolder_append hrest'

end Folders

/-! ## Segments -/

namespace Service

variable {s : Settings} {video video' : Int} {filename filename' key : String}

/-- Which object is read can be told where there is none. -/
theorem getObject_injective : Function.Injective getObject := by
  intro key key' h
  have hanswer := congrArg Prod.fst (congrFun h {})
  simpa [getObject, storeStep, strike, ObjectStore.content?] using hanswer

theorem staysInFolder_iff : staysInFolder filename = true ↔ Confined filename := by
  rw [staysInFolder, confined_iff, Bool.and_eq_true, Bool.not_eq_true', Bool.not_eq_true']

/-- A segment whose name stays in its folder is an object in the folder of the video. -/
theorem segment_of_confined (h : Confined filename) :
    segment s video filename = getObject (s.videoFolder video ++ filename) := if_pos (staysInFolder_iff.mpr h)

theorem segment_of_not_confined (h : ¬Confined filename) :
    segment s video filename = refuse (.illegalFilename filename) := if_neg (mt staysInFolder_iff.mp h)

/-- The object that is read for a segment. -/
theorem segment_eq_getObject_iff :
    segment s video filename = getObject key ↔ Confined filename ∧ key = s.videoFolder video ++ filename := by
  by_cases h : Confined filename
  · rw [segment_of_confined h, getObject_injective.eq_iff, eq_comm]
    exact (and_iff_right h).symm
  · rw [segment_of_not_confined h]
    refine iff_of_false (fun heq => ?_) fun hread => h hread.1
    -- a call that is refused for its name is not refused for want of an object
    have hanswer := congrArg Prod.fst (congrFun heq {})
    simp [refuse, fail, getObject, storeStep, strike, ObjectStore.content?] at hanswer

/-- Two segments are read from one object when they are the same segment of the same video. -/
theorem segment_key_inj (h : segment s video filename = getObject key) (h' : segment s video' filename' = getObject key) :
    (video', filename') = (video, filename) := by
  obtain ⟨-, rfl⟩ := segment_eq_getObject_iff.mp h
  obtain ⟨-, hkey⟩ := segment_eq_getObject_iff.mp h'
  obtain rfl := eq_of_videoFolder_append hkey
  have hname : filename = filename' := by
    have hkeys := congrArg String.toList hkey
    rw [String.toList_append, String.toList_append] at hkeys
    exact String.toList_inj.mp (List.append_cancel_left hkeys)
  rw [hname]

end Service

/-- The keys of objects can be told apart. Texts make the path of an image exactly when the first is a root and the others are names that
are not empty and stay in their folder, and they can be told from the path. No key lies in the folders of two videos. A segment is read
exactly when its name stays in its folder, from a key in the folder of its video with no slash behind the folder, and the video and the
name can be told from the key; any other name is refused. -/
theorem object_keys_stay_apart (s : Settings) :
    (∀ root owner name : String,
      ((∃ path, imagePath root owner name = .ok path) ↔
        root ∈ imageRoots ∧ (owner ≠ "" ∧ Confined owner) ∧ name ≠ "" ∧ Confined name) ∧
      ∀ path, imagePath root owner name = .ok path →
        Text.split '/' path = [root, owner, name] ∧
          ∀ root' owner' name', imagePath root' owner' name' = .ok path → (root', owner', name') = (root, owner, name)) ∧
    (∀ a b : Int, a ≠ b → ∀ key,
      ¬(Text.startsWith key (s.videoFolder a) = true ∧ Text.startsWith key (s.videoFolder b) = true)) ∧
    ∀ (video : Int) (filename : String),
      ((∃ key, Service.segment s video filename = Service.getObject key) ↔ Confined filename) ∧
      (¬Confined filename → Service.segment s video filename = Service.refuse (.illegalFilename filename)) ∧
      ∀ key, Service.segment s video filename = Service.getObject key →
        (∃ rest, key = s.videoFolder video ++ rest ∧ '/' ∉ rest.toList) ∧
          ∀ video' filename', Service.segment s video' filename' = Service.getObject key →
            (video', filename') = (video, filename) := by
  refine ⟨fun root owner name => ⟨exists_imagePath_iff, fun path h => ⟨split_imagePath h, fun _ _ _ h' => imagePath_inj h h'⟩⟩,
    fun a b hne key hboth => hne (videoFolder_disjoint hboth.1 hboth.2),
    fun video filename => ⟨?_, Service.segment_of_not_confined, fun key h => ⟨?_, fun _ _ h' => Service.segment_key_inj h h'⟩⟩⟩
  · simp only [Service.segment_eq_getObject_iff, exists_and_left, exists_eq, and_true]
  · obtain ⟨hconfined, hkey⟩ := Service.segment_eq_getObject_iff.mp h
    exact ⟨filename, hkey, hconfined.slash⟩

/-! ### The folders of the first and the tenth video -/

namespace FirstAndTenth

/-- The folder of the tenth video does not lie in that of the first, whose name begins like it; a segment is read from the folder of its
video, whatever the sign of the id, and two points do not lead out of it. -/
theorem folders_apart :
    Text.split '/' "videos/10/thumbnail.jpg" = ["videos", "10", "thumbnail.jpg"] ∧
      Text.startsWith "videos/10/thumbnail.jpg" (Settings.videoFolder {} 10) = true ∧
      ¬Text.startsWith "videos/10/thumbnail.jpg" (Settings.videoFolder {} 1) = true ∧
      Service.segment {} (-1) "..." = Service.refuse (.illegalFilename "...") ∧
      ∃ rest, "videos/-1/0.ts" = Settings.videoFolder {} (-1) ++ rest ∧ '/' ∉ rest.toList := by
  obtain ⟨himages, hfolders, hsegments⟩ := object_keys_stay_apart {}
  have hpath : imagePath "videos" "10" "thumbnail.jpg" = .ok "videos/10/thumbnail.jpg" := by decide
  have htenth : Text.startsWith "videos/10/thumbnail.jpg" (Settings.videoFolder {} 10) = true := by decide
  have hpoints : ¬Confined "..." := fun h => h.points (by decide)
  have hkey : Service.segment {} (-1) "0.ts" = Service.getObject "videos/-1/0.ts" := by
    have hconfined : Confined "0.ts" := ⟨by decide, by decide⟩
    have hfolder : Settings.videoFolder {} (-1) ++ "0.ts" = "videos/-1/0.ts" := by decide
    exact Service.segment_eq_getObject_iff.mpr ⟨hconfined, hfolder.symm⟩
  exact ⟨((himages _ _ _).2 _ hpath).1, htenth, fun hfirst => hfolders 1 10 (by decide) _ ⟨hfirst, htenth⟩,
    (hsegments _ _).2.1 hpoints, ((hsegments _ _).2.2 _ hkey).1⟩

end FirstAndTenth

end VideoShare
