import Mathlib.Data.List.Infix
import VideoShare.Images
import VideoShare.Proofs.Pieces

/-!
# Paths of images

The path of an image is put together from a root, an owner and a name (`imagePath_eq_ok`). Owner and name stay where they are put
(`Confined`): neither of them holds a slash, so the parts of a path can be told from it (`split_imagePath`), and the folder that is read
off a path is the folder of the owner (`throughLast?_imagePath`).
-/

namespace VideoShare

namespace Text

/-- What stands behind the last slash is no part of a folder. -/
theorem throughLast?_append {folder name : String} (h : '/' ∉ name.toList) :
    throughLast? '/' (folder ++ "/" ++ name) = some (folder ++ "/") := by
  have hletters : (folder ++ "/" ++ name).toList = (folder ++ "/").toList ++ name.toList := String.toList_append
  have hslash : (folder ++ "/").toList = folder.toList ++ ['/'] := String.toList_append
  have hname : ∀ c ∈ name.toList.reverse, (c != '/') = true := by
    intro c hc
    rw [bne_iff_ne]
    rintro rfl
    exact h (List.mem_reverse.mp hc)
  have hdrop : (folder ++ "/" ++ name).toList.reverse.dropWhile (· != '/') = (folder ++ "/").toList.reverse := by
    rw [hletters, List.reverse_append, List.dropWhile_append_of_pos hname, hslash, List.reverse_append]
    rfl
  rw [throughLast?, if_pos (by simp [hletters, hslash]), hdrop, List.reverse_reverse, String.ofList_toList]

end Text

/-- A name stays in its folder: it has no slash and no two points in a row. -/
structure Confined (name : String) : Prop where
  slash : '/' ∉ name.toList
  points : ¬['.', '.'] <:+: name.toList

theorem confined_iff {name : String} : Confined name ↔ Text.contains name "/" = false ∧ Text.contains name ".." = false := by
  have hslash : "/".toList = ['/'] := rfl
  have hpoints : "..".toList = ['.', '.'] := rfl
  rw [← Bool.not_eq_true, ← Bool.not_eq_true, Text.contains, Text.contains, Text.occursIn_iff_infix, Text.occursIn_iff_infix, hslash,
    hpoints, List.singleton_infix_iff]
  exact ⟨fun h => ⟨h.slash, h.points⟩, fun h => ⟨h.1, h.2⟩⟩

/-- A part of the path of an image is a name that stays in its folder and is not empty. -/
theorem isImagePart_iff {part : String} : isImagePart part = true ↔ part ≠ "" ∧ Confined part := by
  rw [isImagePart, confined_iff]
  simp [and_assoc]

section

variable {root owner name path : String}

/-- Three texts make the path of an image when the first one is a root and the others are parts of paths. -/
theorem imagePath_eq_ok :
    imagePath root owner name = .ok path ↔
      root ∈ imageRoots ∧ isImagePart owner = true ∧ isImagePart name = true ∧ path = root ++ "/" ++ owner ++ "/" ++ name := by
  have hroot : imageRoots.contains root = true ↔ root ∈ imageRoots := List.contains_iff_mem
  unfold imagePath
  rw [← hroot]
  cases imageRoots.contains root with
  | false => simp
  | true => cases isImagePart owner with
    | false => simp
    | true => cases isImagePart name with
      | false => simp
      | true => simp [eq_comm]

/-- The path of an image tells its three parts. -/
theorem split_imagePath (h : imagePath root owner name = .ok path) : Text.split '/' path = [root, owner, name] := by
  obtain ⟨hroot, howner, hname, rfl⟩ := imagePath_eq_ok.mp h
  have hroots : ∀ r ∈ imageRoots, '/' ∉ r.toList := by decide
  refine Text.split_eq_iff.mpr ⟨List.cons_ne_nil _ _, ?_, ?_⟩
  · rw [String.intercalate_cons_cons, String.intercalate_cons_cons, String.intercalate_singleton, ← String.append_assoc,
      ← String.append_assoc]
    rfl
  · rw [List.forall_mem_cons, List.forall_mem_cons, List.forall_mem_singleton]
    exact ⟨hroots root hroot, (isImagePart_iff.mp howner).2.slash, (isImagePart_iff.mp hname).2.slash⟩

/-- The folder of an image is the folder of its owner. -/
theorem throughLast?_imagePath (h : imagePath root owner name = .ok path) :
    Text.throughLast? '/' path = some (root ++ "/" ++ owner ++ "/") := by
  obtain ⟨-, -, hname, rfl⟩ := imagePath_eq_ok.mp h
  exact Text.throughLast?_append (isImagePart_iff.mp hname).2.slash

end

end VideoShare
