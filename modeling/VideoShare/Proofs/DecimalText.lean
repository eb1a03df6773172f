import Mathlib.Data.List.Basic
import VideoShare.Proofs.IntegerGrammar
import VideoShare.SearchOption

/-!
# Integers and ranges as they are printed

An integer is printed as an optional minus sign and its ASCII digits, which is one of the numerals that denote it (`printed`). So a
printed integer is read as itself unless it has too many digits, and a range printed as two integers with a slash between them is read
as these two.
-/

namespace VideoShare

namespace Text

/-! ## Printed integers -/

/-- The value of an ASCII digit is its distance from zero, the first of the zeros. -/
theorem digitValue?_of_isDigit {c : Char} (h : c.isDigit = true) : digitValue? c = some (c.toNat - '0'.toNat) := by
  rw [Char.isDigit_iff_toNat] at h
  have hzero : ('0').toNat = 48 := rfl
  have hnine : ('9').toNat = 57 := rfl
  have hfirst : (48 ≤ c.toNat && c.toNat < 48 + 10) = true := by
    simp only [Bool.and_eq_true, decide_eq_true_eq]
    omega
  simp only [digitValue?, digitZeros, List.find?_cons, hfirst, Option.map_some, hzero]

theorem isDigit_of_mem_toDigits {n : Nat} {c : Char} (h : c ∈ Nat.toDigits 10 n) : c.isDigit = true :=
  Nat.isDigit_of_mem_toDigits (by decide) (by decide) h

/-- The digits of a number are read one by one. -/
theorem filterMap_toDigits (n : Nat) :
    (Nat.toDigits 10 n).filterMap digitValue? = (Nat.toDigits 10 n).map fun c => c.toNat - '0'.toNat :=
  List.filterMap_eq_map_iff_forall_eq_some.mpr fun _ hc => digitValue?_of_isDigit (isDigit_of_mem_toDigits hc)

/-- The digits of a number denote it. -/
theorem digitsValue_toDigits (n : Nat) : digitsValue ((Nat.toDigits 10 n).map fun c => c.toNat - '0'.toNat) = n := by
  rw [digitsValue, List.foldl_map, ← Nat.ofDigitChars_eq_foldl]
  exact Nat.ofDigitChars_toDigits (by decide) (by decide)

/-- The numeral that an integer is printed as: one group of digits, with a sign when it is negative. -/
def printed (n : Int) : Numeral where
  sign := if n < 0 then .minus else .missing
  groups := [Nat.toDigits 10 n.natAbs]
  groups_ne_nil := List.cons_ne_nil _ _
  isDigits := List.forall_mem_singleton.mpr
    ⟨Nat.toDigits_ne_nil, fun c hc => by rw [digitValue?_of_isDigit (isDigit_of_mem_toDigits hc)]; rfl⟩

theorem chars_printed (n : Int) : (printed n).chars = (toString n).toList := by
  rw [Int.toString_eq_repr, Int.repr_eq_if, Numeral.chars, printed, List.intercalate_singleton]
  by_cases h : n < 0
  · have habs : (-n).toNat = n.natAbs := by omega
    rw [if_pos h, if_neg (by omega), String.toList_append, Nat.toList_repr, habs]
    rfl
  · have habs : n.toNat = n.natAbs := by omega
    rw [if_neg h, if_pos (by omega), Nat.toList_repr, habs]
    rfl

theorem digits_printed (n : Int) : (printed n).digits = (Nat.toDigits 10 n.natAbs).map fun c => c.toNat - '0'.toNat := by
  rw [Numeral.digits, printed, List.flatten_singleton, filterMap_toDigits]

theorem value_printed (n : Int) : (printed n).value = n := by
  rw [Numeral.value, digits_printed, ← digitsValue_eq_ofDigits, digitsValue_toDigits, printed, Sign.applyTo]
  by_cases h : n < 0
  · rw [if_pos h, if_pos rfl]
    omega
  · have hsign : Sign.missing ≠ Sign.minus := by decide
    rw [if_neg h, if_neg hsign]
    omega

/-- Different integers are printed differently, however many digits they have. -/
theorem eq_of_toString_eq {n m : Int} (h : toString n = toString m) : n = m := by
  rw [← value_printed n, ← value_printed m]
  exact Numeral.value_eq_of_chars_eq (by rw [chars_printed, chars_printed, h])

/-- A printed integer is read as itself, unless it has too many digits. -/
theorem integerOf_toString (n : Int) :
    integerOf (toString n) = if (Nat.toDigits 10 n.natAbs).length ≤ maxIntegerDigits then .ok n
      else .error (.tooManyDigits (Nat.toDigits 10 n.natAbs).length) := by
  have hpadded : Padded isSpace (printed n).chars (toString n).toList := chars_printed n ▸ Padded.refl isSpace _
  rw [integerOf, integerOfList_of_padded hpadded, value_printed, digits_printed, List.length_map]

/-- Only itself is read from a printed integer. -/
theorem integerOf_toString_eq_ok {n m : Int} (h : integerOf (toString n) = .ok m) : m = n := by
  rw [integerOf_toString] at h
  split at h
  · exact (Except.ok.inj h).symm
  · simp at h

/-- An integer that fits into a column has few enough digits to be read back. -/
theorem integerOf_toString_of_fits {n : Int} (h : fitsColumn n = true) : integerOf (toString n) = .ok n := by
  have hsmall : n.natAbs < 10 ^ 19 := by
    simp only [fitsColumn, Bool.and_eq_true, decide_eq_true_eq] at h
    omega
  have hlength : (Nat.toDigits 10 n.natAbs).length ≤ 19 := (Nat.length_toDigits_le_iff (by decide) (by decide)).mpr hsmall
  have hmax : maxIntegerDigits = 4300 := rfl
  rw [integerOf_toString, if_pos (by omega)]

/-! ## Printed ranges -/

theorem slash_not_mem_toString (n : Int) : '/' ∉ (toString n).toList := by
  have hslash : ∀ s : Sign, '/' ∉ s.chars := by
    rintro (_ | _ | _) <;> decide
  rw [← chars_printed, Numeral.chars, List.mem_append, not_or]
  refine ⟨hslash _, fun h => ?_⟩
  exact absurd ((printed n).isDigitOrUnderscore_of_mem h) (by decide)

/-- Two integers printed with a slash between them. -/
def printedRange (low high : Int) : String := toString low ++ "/" ++ toString high

theorem split_printedRange (low high : Int) : split '/' (printedRange low high) = [toString low, toString high] := by
  refine split_eq_iff.mpr ⟨List.cons_ne_nil _ _, ?_, ?_⟩
  · rw [String.intercalate_cons_cons, String.intercalate_singleton]
    rfl
  · exact List.forall_mem_cons.mpr ⟨slash_not_mem_toString low, List.forall_mem_singleton.mpr (slash_not_mem_toString high)⟩

end Text

/-- A printed range is read as the two integers printed, or refused. -/
theorem parseRange_printedRange_eq_ok {option : String} {low high : Int} {r : Int × Int}
    (h : parseRange option (Text.printedRange low high) = .ok r) : r = (low, high) := by
  simp only [parseRange, Text.split_printedRange] at h
  split at h
  · rename_i a b ha hb
    rw [← Except.ok.inj h, Text.integerOf_toString_eq_ok ha, Text.integerOf_toString_eq_ok hb]
  · simp at h

/-- A range of integers that fit into a column is read back as printed. -/
theorem parseRange_printedRange {option : String} {low high : Int} (hlow : fitsColumn low = true)
    (hhigh : fitsColumn high = true) : parseRange option (Text.printedRange low high) = .ok (low, high) := by
  simp only [parseRange, Text.split_printedRange, Text.integerOf_toString_of_fits hlow, Text.integerOf_toString_of_fits hhigh]

end VideoShare
