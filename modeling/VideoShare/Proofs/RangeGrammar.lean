import VideoShare.Proofs.DecimalText

/-!
# The grammar of ranges

A range is written as two texts that denote integers with the only slash between them (`DenotesRange`). Exactly the texts that are
written so are read, and as what they denote; every other text is refused with its option. The bounds may be of any size and in any
order (`parseRange_reads_denoted`).
-/

namespace VideoShare

/-- A text denotes the range between two integers: there is one slash in it, and the texts on its two sides denote the bounds. -/
def DenotesRange (value : String) (low high : Int) : Prop :=
  ∃ left right, value = left ++ "/" ++ right ∧ '/' ∉ left.toList ∧ '/' ∉ right.toList ∧
    Text.Denotes left low ∧ Text.Denotes right high

/-- A text is cut at its slash in two when there is one slash in it. -/
theorem Text.split_eq_pair_iff {value left right : String} :
    split '/' value = [left, right] ↔ value = left ++ "/" ++ right ∧ '/' ∉ left.toList ∧ '/' ∉ right.toList := by
  rw [split_eq_iff, List.forall_mem_cons, List.forall_mem_singleton, String.intercalate_cons_cons, String.intercalate_singleton,
    eq_comm (b := value)]
  exact and_iff_right (List.cons_ne_nil _ _)

/-- A range is read as two integers when it denotes the range between them. -/
theorem parseRange_eq_ok_iff {option value : String} {low high : Int} :
    parseRange option value = .ok (low, high) ↔ DenotesRange value low high := by
  constructor
  · intro h
    unfold parseRange at h
    split at h
    · rename_i left right hsplit
      obtain ⟨hvalue, hleft, hright⟩ := Text.split_eq_pair_iff.mp hsplit
      split at h
      · rename_i a b ha hb
        obtain ⟨rfl, rfl⟩ := Prod.mk.inj (Except.ok.inj h)
        exact ⟨left, right, hvalue, hleft, hright, Text.integerOf_eq_ok_iff.mp ha, Text.integerOf_eq_ok_iff.mp hb⟩
      · cases h
    · cases h
  · rintro ⟨left, right, hvalue, hleft, hright, hlow, hhigh⟩
    have hsplit : Text.split '/' value = [left, right] := Text.split_eq_pair_iff.mpr ⟨hvalue, hleft, hright⟩
    simp only [parseRange, hsplit, Text.integerOf_eq_ok_iff.mpr hlow, Text.integerOf_eq_ok_iff.mpr hhigh]

/-- A range that cannot be read is refused with its option and its value. -/
theorem refusal_of_parseRange {option value : String} {r : Refusal} (h : parseRange option value = .error r) :
    r = .illegalOption option value := by
  unfold parseRange at h
  split at h
  · split at h
    · simp at h
    · exact (Except.error.inj h).symm
  · exact (Except.error.inj h).symm

/-- A text is read as a range when it denotes one, and as the range that it denotes; otherwise it is refused as an illegal argument. Two
printed integers with a slash between them are read back as they are, whichever is the lower one. -/
theorem parseRange_reads_denoted (option : String) :
    (∀ value : String,
      (∀ low high, parseRange option value = .ok (low, high) ↔ DenotesRange value low high) ∧
        (parseRange option value = .error (.illegalOption option value) ↔ ¬∃ low high, DenotesRange value low high) ∧
          (Refusal.illegalOption option value).kind = .illegalArgument) ∧
      ∀ low high : Int, (Nat.toDigits 10 low.natAbs).length ≤ Text.maxIntegerDigits →
        (Nat.toDigits 10 high.natAbs).length ≤ Text.maxIntegerDigits →
          parseRange option (Text.printedRange low high) = .ok (low, high) := by
  refine ⟨fun value => ⟨fun low high => parseRange_eq_ok_iff, ?_, rfl⟩, fun low high hlow hhigh => ?_⟩
  · constructor
    · rintro hrefused ⟨low, high, hdenotes⟩
      rw [parseRange_eq_ok_iff.mpr hdenotes] at hrefused
      cases hrefused
    · intro hnone
      cases hread : parseRange option value with
      | ok r => exact absurd ⟨r.1, r.2, parseRange_eq_ok_iff.mp hread⟩ hnone
      | error r => rw [refusal_of_parseRange hread]
  · simp only [parseRange, Text.split_printedRange, Text.integerOf_toString, hlow, hhigh, if_true]

/-! ### A range from ten down to minus three -/

namespace TenDown

/-- Ten, with a sign and an underscore and a blank before it. -/
def ten : Text.Numeral where
  sign := .plus
  groups := [['1'], ['0']]
  groups_ne_nil := by decide
  isDigits := List.forall_mem_cons.mpr ⟨Text.isDigits_singleton rfl, List.forall_mem_singleton.mpr (Text.isDigits_singleton rfl)⟩

/-- Minus three, with a wide digit. -/
def minusThree : Text.Numeral where
  sign := .minus
  groups := [['３']]
  groups_ne_nil := by decide
  isDigits := List.forall_mem_singleton.mpr (Text.isDigits_singleton rfl)

theorem denotesRange : DenotesRange " +1_0/-３\n" 10 (-3) := by
  have hten : Text.Padded Text.isSpace ten.chars ([' '] ++ ten.chars) := Text.padded_front (List.forall_mem_singleton.mpr rfl) _
  have hminusThree : Text.Padded Text.isSpace minusThree.chars (minusThree.chars ++ ['\n']) := Text.padded_back (List.forall_mem_singleton.mpr rfl) _
  exact ⟨" +1_0", "-３\n", rfl, by decide, by decide, ⟨ten, hten, by decide, by decide⟩,
    ⟨minusThree, hminusThree, by decide, by decide⟩⟩

/-- A loosely written range is read, and the same range as it is printed. -/
theorem loose_and_printed :
    parseRange "BY_VIEWS" " +1_0/-３\n" = .ok (10, -3) ∧ parseRange "BY_VIEWS" "10/-3" = .ok (10, -3) := by
  have hprinted : Text.printedRange 10 (-3) = "10/-3" := by decide
  obtain ⟨hread, hback⟩ := parseRange_reads_denoted "BY_VIEWS"
  exact ⟨((hread _).1 10 (-3)).mpr denotesRange, hprinted ▸ hback 10 (-3) (by decide) (by decide)⟩

end TenDown

end VideoShare
