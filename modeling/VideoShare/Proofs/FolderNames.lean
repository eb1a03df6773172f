import Mathlib
import VideoShare.Images
import VideoShare.Proofs.StoreAndBroker
import VideoShare.Text.Encoded

/-!
# Names for new folders

An image without an owner goes into a folder whose name is drawn until it is the name of no folder. Identifiers that follow one another
have different first twelve digits as long as they have no more than twelve, and an object lies in one folder of twelve letters at most. So
among different names, one more than are taken, one is free (`exists_free_of_distinctNames`). One name more is drawn than there are
objects, and the draws end with a free one (`freshFolder_eq_ok`).
-/

namespace VideoShare

namespace Text

/-! ## Numbers in base sixteen -/

/-- The number that hexadecimal digits write. -/
def hexNumber (cs : List Char) : Nat := cs.foldl (fun n c => 16 * n + (hexValue? c).getD 0) 0

theorem hexValue?_digitChar {d : Nat} (hd : d < 16) : hexValue? d.digitChar = some d := by
  have hall : ∀ i : Fin 16, hexValue? (Nat.digitChar i) = some i.val := by decide
  exact hall ⟨d, hd⟩

theorem hexNumber_toDigits (n : Nat) : hexNumber (Nat.toDigits 16 n) = n := by
  induction n using Nat.strongRecOn with
  | ind n ih =>
    by_cases hn : n < 16
    · rw [Nat.toDigits_of_lt_base hn]
      simp [hexNumber, hexValue?_digitChar hn]
    · have hdigit : hexValue? (n % 16).digitChar = some (n % 16) := hexValue?_digitChar (Nat.mod_lt _ (by decide))
      have hrest : hexNumber (Nat.toDigits 16 (n / 16)) = n / 16 := ih _ (Nat.div_lt_self (by omega) (by decide))
      rw [Nat.toDigits_of_base_le (by decide) (by omega), hexNumber, List.foldl_append]
      simp only [← hexNumber.eq_def, hrest, List.foldl_cons, List.foldl_nil, hdigit, Option.getD_some]
      omega

/-- The digits of a number are read back as the number, whatever width they are filled to. -/
theorem hexNumber_hexDigits (width n : Nat) : hexNumber (hexDigits width n) = n := by
  have hzeros : ∀ k, (List.replicate k '0').foldl (fun n c => 16 * n + (hexValue? c).getD 0) 0 = 0 := by
    intro k
    induction k with
    | zero => rfl
    | succ k ih =>
      have hzero : (hexValue? '0').getD 0 = 0 := by decide
      rw [List.replicate_succ, List.foldl_cons, hzero]
      exact ih
  rw [hexDigits, hexNumber, List.foldl_append, hzeros]
  exact hexNumber_toDigits n

/-- A number that needs no more digits than the width has as many digits as the width. -/
theorem length_hexDigits {width n : Nat} (hwidth : 0 < width) (hn : n < 16 ^ width) : (hexDigits width n).length = width := by
  have hlength := (Nat.length_toDigits_le_iff (b := 16) (n := n) (by decide) hwidth).mpr hn
  rw [hexDigits, List.length_append, List.length_replicate]
  omega

end Text

/-! ## Names that are drawn -/

/-- The name of a folder that is the n-th to be drawn. -/
def World.drawn (w : World) (n : Nat) : String := folderName (Service.identifier (w.serial + n))

/-- Whether a folder under a path holds an object. -/
def ObjectStore.Holds (s : ObjectStore) (path name : String) : Prop :=
  ∃ o ∈ s.objects, Text.startsWith o.1 (path ++ name ++ "/") = true

/-- The identifiers to come are numbers of twelve digits, for as many as there are objects and one more. -/
def World.HasNames (w : World) : Prop := w.serial + w.store.objects.length + 1 < 16 ^ 12

theorem toList_folderName_identifier {n : Nat} (hn : n < 16 ^ 12) :
    (folderName (Service.identifier n)).toList = Text.hexDigits 12 n := by
  have hlength := Text.length_hexDigits (by decide) hn
  rw [folderName, Text.takeChars, Service.identifier, String.toList_ofList, String.toList_ofList]
  exact List.take_left' hlength

theorem keysUnder_isEmpty_iff {s : ObjectStore} {path name : String} :
    (s.keysUnder (path ++ name ++ "/")).isEmpty = true ↔ ¬s.Holds path name := by
  rw [List.isEmpty_iff, List.eq_nil_iff_forall_not_mem]
  simp only [ObjectStore.mem_keysUnder, ObjectStore.Holds]
  constructor
  · rintro hnone ⟨o, ho, hunder⟩
    exact hnone o.1 ⟨⟨o, ho, rfl⟩, hunder⟩
  · rintro hfree key ⟨⟨o, ho, rfl⟩, hunder⟩
    exact hfree ⟨o, ho, hunder⟩

/-- The name of the folder under a path in which a key lies, when the name has twelve letters. -/
def nameUnder (path key : String) : List Char := (key.toList.drop path.length).take 12

theorem nameUnder_of_startsWith {path name key : String} (hname : name.toList.length = 12)
    (h : Text.startsWith key (path ++ name ++ "/") = true) : nameUnder path key = name.toList := by
  obtain ⟨rest, hrest⟩ := List.isPrefixOf_iff_prefix.mp h
  rw [nameUnder, ← hrest, String.toList_append, String.toList_append, List.append_assoc, List.append_assoc,
    ← String.length_toList, List.drop_left, List.take_left' hname]

instance (s : ObjectStore) (path name : String) : Decidable (s.Holds path name) :=
  inferInstanceAs (Decidable (∃ o ∈ s.objects, Text.startsWith o.1 (path ++ name ++ "/") = true))

/-- The names that could be drawn for a folder under a path and are those of folders that are there. -/
def ObjectStore.takenNames (s : ObjectStore) (path : String) : List String :=
  ((s.objects.map fun o => String.ofList (nameUnder path o.1)).filter fun name =>
    name.toList.length = 12 ∧ s.Holds path name).dedup

theorem ObjectStore.mem_takenNames {s : ObjectStore} {path name : String} :
    name ∈ s.takenNames path ↔ name.toList.length = 12 ∧ s.Holds path name := by
  rw [takenNames, List.mem_dedup, List.mem_filter, decide_eq_true_iff, and_iff_right_iff_imp]
  rintro ⟨hlength, o, ho, hunder⟩
  refine List.mem_map.mpr ⟨o, ho, ?_⟩
  rw [nameUnder_of_startsWith hlength hunder, String.ofList_toList]

/-- No object lies in two folders. -/
theorem ObjectStore.length_takenNames_le (s : ObjectStore) (path : String) :
    (s.takenNames path).length ≤ s.objects.length := by
  rw [takenNames]
  refine (List.dedup_sublist _).length_le.trans ((List.length_filter_le _ _).trans ?_)
  rw [List.length_map]

/-- The next names to be drawn, as many as a number says, are all different. -/
def World.DistinctNames (w : World) (m : Nat) : Prop := ((List.range' 1 m).map w.drawn).Nodup

instance (w : World) (m : Nat) : Decidable (w.DistinctNames m) :=
  inferInstanceAs (Decidable ((List.range' 1 m).map w.drawn).Nodup)

theorem World.DistinctNames.of_le {w : World} {m m' : Nat} (h : w.DistinctNames m) (hm : m' ≤ m) : w.DistinctNames m' := by
  have hsublist : (List.range' 1 m').Sublist (List.range' 1 m) := by
    rw [← Nat.add_sub_cancel' hm, ← List.range'_append_1]
    exact List.sublist_append_left _ _
  exact (hsublist.map w.drawn).nodup h

/-- Identifiers of twelve digits give different names. -/
theorem World.distinctNames_of_lt {w : World} {m : Nat} (h : w.serial + m < 16 ^ 12) : w.DistinctNames m := by
  refine List.Nodup.map_on (fun i hi j hj heq => ?_) List.nodup_range'
  have hi := (List.mem_range'_1.mp hi).2
  have hj := (List.mem_range'_1.mp hj).2
  have hchars := congrArg String.toList heq
  rw [World.drawn, World.drawn, toList_folderName_identifier (by omega), toList_folderName_identifier (by omega)] at hchars
  have hnumbers := congrArg Text.hexNumber hchars
  rw [Text.hexNumber_hexDigits, Text.hexNumber_hexDigits] at hnumbers
  omega

/-- Every name that is drawn has twelve letters. -/
theorem World.length_drawn (w : World) (n : Nat) : (w.drawn n).toList.length = 12 := by
  rw [drawn, folderName, Text.takeChars, Service.identifier, String.toList_ofList, String.toList_ofList, List.length_take,
    List.length_append, Text.hexDigits, List.length_append, List.length_replicate, List.length_replicate]
  omega

/-- Of different names to be drawn, one more than are taken, one is the name of no folder. -/
theorem exists_free_of_distinctNames {w : World} {path : String}
    (h : w.DistinctNames ((w.store.takenNames path).length + 1)) :
    ∃ n, 1 ≤ n ∧ n ≤ (w.store.takenNames path).length + 1 ∧ ¬w.store.Holds path (w.drawn n) := by
  by_contra hnone
  have htaken : (List.range' 1 ((w.store.takenNames path).length + 1)).map w.drawn ⊆ w.store.takenNames path := by
    intro name hname
    obtain ⟨n, hn, rfl⟩ := List.mem_map.mp hname
    obtain ⟨h1, hn⟩ := List.mem_range'_1.mp hn
    refine ObjectStore.mem_takenNames.mpr ⟨w.length_drawn n, ?_⟩
    by_contra hfree
    exact hnone ⟨n, h1, by omega, hfree⟩
  have hlength := (List.subperm_of_subset h htaken).length_le
  rw [List.length_map, List.length_range'] at hlength
  omega

/-- Of the names to be drawn, one more than there are objects, one is the name of no folder. -/
theorem exists_free_name {w : World} (hw : w.HasNames) (path : String) :
    ∃ n, 1 ≤ n ∧ n ≤ w.store.objects.length + 1 ∧ ¬w.store.Holds path (w.drawn n) := by
  have hbound := w.store.length_takenNames_le path
  have hdistinct := (World.distinctNames_of_lt (m := w.store.objects.length + 1) hw).of_le (Nat.succ_le_succ hbound)
  obtain ⟨n, h1, hn, hfree⟩ := exists_free_of_distinctNames hdistinct
  exact ⟨n, h1, by omega, hfree⟩

namespace Service

/-- Draws a name for a folder under a path, and answers it when there is no folder of that name. -/
def drawOnce (path : String) : Service (Option String) := do
  let name := folderName (← freshIdentifier)
  let keys ← listObjects (path ++ name ++ "/")
  pure (if keys.isEmpty then some name else none)

/-- A draw answers unless the listing of the folder is struck, and uses one identifier up. -/
theorem drawOnce_eq_ok {path : String} {found : Option String} {w w' : World} :
    drawOnce path w = (.ok found, w') ↔
      (strike .list (path ++ w.drawn 1 ++ "/") w.store.rules).1 = none ∧
        found = (if w.store.Holds path (w.drawn 1) then none else some (w.drawn 1)) ∧
          w' = { w with serial := w.serial + 1 } := by
  have hfound : (if (w.store.keysUnder (path ++ w.drawn 1 ++ "/")).isEmpty = true then some (w.drawn 1) else none) =
      if w.store.Holds path (w.drawn 1) then none else some (w.drawn 1) := by
    simp only [keysUnder_isEmpty_iff, ite_not]
  have hfresh : freshIdentifier w = (.ok (identifier (w.serial + 1)), { w with serial := w.serial + 1 }) := rfl
  rw [← hfound, drawOnce, bind_of_ok hfresh, bind_eq_ok]
  constructor
  · rintro ⟨keys, w₁, hlist, hend⟩
    obtain ⟨hstruck, -⟩ := storeStep_eq_ok.mp hlist
    obtain ⟨rfl, rfl⟩ := listObjects_eq_ok hlist
    obtain ⟨rfl, rfl⟩ := pure_eq_ok.mp hend
    exact ⟨hstruck, rfl, rfl⟩
  · rintro ⟨hstruck, rfl, rfl⟩
    exact ⟨_, _, storeStep_eq_ok.mpr ⟨hstruck, _, rfl, rfl⟩, rfl⟩

/-- A name that a draw answers is free. -/
theorem drawOnce_eq_some {path name : String} {w w' : World} (h : drawOnce path w = (.ok (some name), w')) :
    name = w.drawn 1 ∧ ¬w.store.Holds path name ∧ w' = { w with serial := w.serial + 1 } := by
  obtain ⟨-, hfound, rfl⟩ := drawOnce_eq_ok.mp h
  split at hfound
  · cases hfound
  · rename_i hfree
    obtain rfl := Option.some.inj hfound
    exact ⟨rfl, hfree, rfl⟩

/-- A draw that answers no name has drawn one that is taken. -/
theorem drawOnce_eq_none {path : String} {w w' : World} (h : drawOnce path w = (.ok none, w')) :
    w.store.Holds path (w.drawn 1) ∧ w' = { w with serial := w.serial + 1 } := by
  obtain ⟨-, hfound, rfl⟩ := drawOnce_eq_ok.mp h
  split at hfound
  · rename_i htaken
    exact ⟨htaken, rfl⟩
  · cases hfound

theorem drawFolder_succ (path : String) (fuel : Nat) :
    drawFolder path (fuel + 1) = drawOnce path >>= fun found =>
      match found with
      | some name => pure name
      | none => drawFolder path fuel := by
  rw [drawFolder, drawOnce, bind_assoc]
  refine congrArg (freshIdentifier >>= ·) (funext fun id => ?_)
  rw [bind_assoc]
  refine congrArg (listObjects (path ++ folderName id ++ "/") >>= ·) (funext fun keys => ?_)
  cases keys <;> rfl

/-- What is drawn after a draw is drawn one later from before it. -/
theorem drawn_succ (w : World) (n : Nat) : World.drawn { w with serial := w.serial + 1 } n = w.drawn (n + 1) := by
  simp only [World.drawn, Nat.add_assoc, Nat.add_comm 1 n]

/-- Drawing ends with the first of the names that is free, or after one more than the fuel. It uses up identifiers and nothing else. -/
theorem drawFolder_eq_ok {path name : String} {fuel : Nat} {w w' : World} (h : drawFolder path fuel w = (.ok name, w')) :
    ∃ n, name = w.drawn n ∧ w' = { w with serial := w.serial + n } ∧
      (∀ k, 1 ≤ k → k < n → w.store.Holds path (w.drawn k)) ∧ (n ≤ fuel ∧ ¬w.store.Holds path name ∨ n = fuel + 1) := by
  induction fuel generalizing w with
  | zero =>
    obtain ⟨id, w₁, hid, hpure⟩ := bind_eq_ok.mp h
    simp only [freshIdentifier, Prod.mk.injEq, Except.ok.injEq] at hid
    obtain ⟨rfl, rfl⟩ := hid
    obtain ⟨rfl, rfl⟩ := pure_eq_ok.mp hpure
    exact ⟨1, rfl, rfl, fun k h1 hk => by omega, Or.inr rfl⟩
  | succ fuel ih =>
    rw [drawFolder_succ] at h
    obtain ⟨_ | name', w₁, hdraw, hend⟩ := bind_eq_ok.mp h
    · obtain ⟨htaken, rfl⟩ := drawOnce_eq_none hdraw
      obtain ⟨n, rfl, rfl, hbefore, hlast⟩ := ih hend
      rw [drawn_succ] at hlast ⊢
      refine ⟨n + 1, rfl, ?_, fun k h1 hk => ?_, ?_⟩
      · simp only [Nat.add_assoc, Nat.add_comm 1 n]
      · obtain rfl | hlater := Nat.eq_or_lt_of_le h1
        · exact htaken
        · have := hbefore (k - 1) (by omega) (by omega)
          rwa [drawn_succ, Nat.sub_add_cancel h1] at this
      · rcases hlast with ⟨hn, hnone⟩ | hn
        · exact Or.inl ⟨by omega, hnone⟩
        · exact Or.inr (by omega)
    · obtain ⟨rfl, hfree, rfl⟩ := drawOnce_eq_some hdraw
      obtain ⟨rfl, rfl⟩ := pure_eq_ok.mp hend
      exact ⟨1, rfl, rfl, fun k h1 hk => by omega, Or.inl ⟨by omega, hfree⟩⟩

/-- The folder that is drawn under a path is new. -/
theorem freshFolder_eq_ok {path name : String} {w w' : World} (h : freshFolder path w = (.ok name, w')) :
    (∃ n, w' = { w with serial := w.serial + n }) ∧ (w.HasNames → ¬w.store.Holds path name) := by
  obtain ⟨n, rfl, hw', hbefore, hend⟩ := drawFolder_eq_ok h
  refine ⟨⟨n, hw'⟩, fun hnames => ?_⟩
  rcases hend with ⟨-, hfree⟩ | rfl
  · exact hfree
  · obtain ⟨k, h1, hk, hfree⟩ := exists_free_name hnames path
    exact absurd (hbefore k h1 (by omega)) hfree

end Service

end VideoShare
