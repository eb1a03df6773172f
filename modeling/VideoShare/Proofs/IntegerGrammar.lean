import Mathlib.Data.Nat.Digits.Defs
import VideoShare.Proofs.Pieces
import VideoShare.Proofs.Trimming
import VideoShare.Text.Integer

/-!
# The grammar of integers

A numeral is a sign, which may be missing, and groups of decimal digits of any script with an underscore between two of them. A text
denotes an integer when it is a numeral of that value with white space around it and with no more digits than an integer may have
(`Denotes`). Reading a text finds exactly the integer that it denotes (`integerOf_eq_ok_iff`); what is read of a numeral with white space
around it is its value, or that its digits are too many (`integerOfList_of_padded`).
-/

namespace VideoShare.Text

/-! ## Numerals -/

/-- What may stand before the digits of a numeral. -/
inductive Sign where
  | missing
  | plus
  | minus
  deriving DecidableEq, Repr

namespace Sign

def chars : Sign → List Char
  | missing => []
  | plus => ['+']
  | minus => ['-']

/-- The integer of a sign and a magnitude. -/
def applyTo (s : Sign) (n : Nat) : Int := if s = minus then -(n : Int) else n

end Sign

/-- Decimal digits, at least one. -/
structure IsDigits (group : List Char) : Prop where
  ne_nil : group ≠ []
  isSome : ∀ c ∈ group, (digitValue? c).isSome = true

/-- A sign and groups of digits, at least one. -/
structure Numeral where
  sign : Sign
  groups : List (List Char)
  groups_ne_nil : groups ≠ []
  isDigits : ∀ group ∈ groups, IsDigits group

namespace Numeral

/-- How a numeral is written: there is an underscore between two groups. -/
def chars (m : Numeral) : List Char := m.sign.chars ++ ['_'].intercalate m.groups

/-- The values of the digits. -/
def digits (m : Numeral) : List Nat := m.groups.flatten.filterMap digitValue?

/-- The value of a numeral: that of its digits in base ten, with the sign. -/
def value (m : Numeral) : Int := m.sign.applyTo (Nat.ofDigits 10 m.digits.reverse)

end Numeral

/-- A text denotes an integer. -/
def Denotes (s : String) (n : Int) : Prop :=
  ∃ m : Numeral, Padded isSpace m.chars s.toList ∧ m.digits.length ≤ maxIntegerDigits ∧ m.value = n

/-! ## Characters of a numeral -/

section Characters

variable {c : Char}

/-- A digit is one of the ten characters from some zero on. -/
theorem exists_zero_of_isSome (h : (digitValue? c).isSome = true) : ∃ z ∈ digitZeros, z ≤ c.toNat ∧ c.toNat < z + 10 := by
  rw [digitValue?, Option.isSome_map, List.find?_isSome] at h
  obtain ⟨z, hz, hrange⟩ := h
  rw [Bool.and_eq_true, decide_eq_true_eq, decide_eq_true_eq] at hrange
  exact ⟨z, hz, hrange⟩

/-- Beyond ASCII no white space lies among the digits, but on both sides of them and once between them. -/
theorem place_of_digitZeros :
    ∀ z ∈ digitZeros, z = 0x30 ∨ (0xA0 < z ∧ z + 10 ≤ 0x1680) ∨ (0x1680 < z ∧ z + 10 ≤ 0x2000) ∨ 0x3000 < z := by
  decide

theorem isDigitOrUnderscore_iff : isDigitOrUnderscore c = true ↔ c = '_' ∨ (digitValue? c).isSome = true := by
  rw [isDigitOrUnderscore, Bool.or_eq_true, decide_eq_true_eq]

/-- A digit or an underscore is no white space and no sign. -/
theorem of_isDigitOrUnderscore (h : isDigitOrUnderscore c = true) : isSpace c = false ∧ c ≠ '-' ∧ c ≠ '+' := by
  rcases isDigitOrUnderscore_iff.mp h with rfl | h
  · decide
  · obtain ⟨z, hz, hrange⟩ := exists_zero_of_isSome h
    have hplace := place_of_digitZeros z hz
    have hne : ∀ d : Char, d.toNat < 0x30 → c ≠ d := by
      rintro d hd rfl
      omega
    refine ⟨?_, hne '-' (by decide), hne '+' (by decide)⟩
    simp only [isSpace, Bool.or_eq_false_iff, Bool.and_eq_false_iff, decide_eq_false_iff_not, beq_eq_false_iff_ne]
    omega

theorem ne_underscore_of_isSome (h : (digitValue? c).isSome = true) : c ≠ '_' := by
  rintro rfl
  exact absurd h (by decide)

end Characters

/-! ## Reading groups of digits -/

theorem digitGroup_singleton (c : Char) : digitGroup [c] = (digitValue? c).map fun d => [d] := rfl

theorem digitGroup_cons_underscore {c : Char} {d : Nat} (hc : digitValue? c = some d) (cs : List Char) :
    digitGroup (c :: '_' :: cs) = (digitGroup cs).map (d :: ·) := by
  rw [digitGroup, hc]
  cases digitGroup cs <;> rfl

theorem digitGroup_cons {c c' : Char} {d : Nat} (hc : digitValue? c = some d) (hc' : c' ≠ '_') (cs : List Char) :
    digitGroup (c :: c' :: cs) = (digitGroup (c' :: cs)).map (d :: ·) := by
  rw [digitGroup]
  · rw [hc]
    cases digitGroup (c' :: cs) <;> rfl
  · simp
  · rintro cs' ⟨⟩
    exact hc' rfl

section Groups

variable {group : List Char} {groups : List (List Char)}

theorem isDigits_singleton {c : Char} {d : Nat} (hc : digitValue? c = some d) : IsDigits [c] :=
  ⟨List.cons_ne_nil _ _, List.forall_mem_singleton.mpr (Option.isSome_of_eq_some hc)⟩

/-- What is left of digits without the first of them are digits, if there are any. -/
theorem IsDigits.tail {c c' : Char} {more : List Char} (h : IsDigits (c :: c' :: more)) : IsDigits (c' :: more) :=
  ⟨List.cons_ne_nil _ _, fun x hx => h.isSome x (List.mem_cons_of_mem c hx)⟩

theorem IsDigits.exists_value {c : Char} {more : List Char} (h : IsDigits (c :: more)) : ∃ d, digitValue? c = some d :=
  Option.isSome_iff_exists.mp (h.isSome c List.mem_cons_self)

/-- Digits are read one by one. -/
theorem digitGroup_of_isDigits (h : IsDigits group) : digitGroup group = some (group.filterMap digitValue?) := by
  induction group with
  | nil => exact absurd rfl h.ne_nil
  | cons c more ih =>
    obtain ⟨d, hd⟩ := h.exists_value
    -- a digit is read together with what follows it, which may be nothing
    cases more with
    | nil => rw [digitGroup_singleton, hd, List.filterMap_cons_some hd]; rfl
    | cons c' more =>
      have hc' : c' ≠ '_' := ne_underscore_of_isSome (h.tail.isSome c' List.mem_cons_self)
      rw [digitGroup_cons hd hc', ih h.tail, List.filterMap_cons_some hd, Option.map_some]

/-- Behind digits and an underscore reading begins anew. -/
theorem digitGroup_append_underscore (h : IsDigits group) (cs : List Char) :
    digitGroup (group ++ '_' :: cs) = (digitGroup cs).map (group.filterMap digitValue? ++ ·) := by
  induction group with
  | nil => exact absurd rfl h.ne_nil
  | cons c more ih =>
    obtain ⟨d, hd⟩ := h.exists_value
    cases more with
    | nil => rw [List.singleton_append, digitGroup_cons_underscore hd, List.filterMap_cons_some hd]; rfl
    | cons c' more =>
      have hc' : c' ≠ '_' := ne_underscore_of_isSome (h.tail.isSome c' List.mem_cons_self)
      have hmore := ih h.tail
      rw [List.cons_append] at hmore ⊢
      rw [List.cons_append, digitGroup_cons hd hc', hmore, Option.map_map, List.filterMap_cons_some hd]
      rfl

/-- The digits of groups with underscores between them are read. -/
theorem digitGroup_intercalate (hne : groups ≠ []) (h : ∀ group ∈ groups, IsDigits group) :
    digitGroup (['_'].intercalate groups) = some (groups.flatten.filterMap digitValue?) := by
  induction groups with
  | nil => exact absurd rfl hne
  | cons group rest ih =>
    obtain ⟨hgroup, hrest⟩ := List.forall_mem_cons.mp h
    rw [List.flatten_cons, List.filterMap_append]
    cases rest with
    | nil => rw [List.intercalate_singleton, digitGroup_of_isDigits hgroup, List.flatten_nil, List.filterMap_nil, List.append_nil]
    | cons next rest =>
      rw [List.intercalate_cons_cons, List.append_assoc, List.singleton_append, digitGroup_append_underscore hgroup,
        ih (List.cons_ne_nil _ _) hrest, Option.map_some]

/-- Where digits are read there are groups of digits with underscores between them. -/
theorem exists_groups_of_digitGroup {cs : List Char} {ds : List Nat} (h : digitGroup cs = some ds) :
    ∃ groups, groups ≠ [] ∧ (∀ group ∈ groups, IsDigits group) ∧ ['_'].intercalate groups = cs := by
  fun_induction digitGroup cs generalizing ds with
  | case1 => cases h
  | case2 c =>
    obtain ⟨d, hc, -⟩ := Option.map_eq_some_iff.mp h
    exact ⟨[[c]], List.cons_ne_nil _ _, List.forall_mem_singleton.mpr (isDigits_singleton hc), List.intercalate_singleton⟩
  | case3 c cs d ds' hcs hc ih =>
    obtain ⟨groups, hne, hgroups, rfl⟩ := ih hcs
    refine ⟨[c] :: groups, List.cons_ne_nil _ _, List.forall_mem_cons.mpr ⟨isDigits_singleton hc, hgroups⟩, ?_⟩
    rw [List.intercalate_cons_of_ne_nil hne]
    rfl
  | case4 => cases h
  | case5 c cs hcs hunderscore d ds' hrest hc ih =>
    obtain ⟨groups, hne, hgroups, rfl⟩ := ih hrest
    obtain ⟨group, rest, rfl⟩ := List.exists_cons_of_ne_nil hne
    obtain ⟨hgroup, hothers⟩ := List.forall_mem_cons.mp hgroups
    have hlonger : IsDigits (c :: group) :=
      ⟨List.cons_ne_nil _ _, List.forall_mem_cons.mpr ⟨Option.isSome_of_eq_some hc, hgroup.isSome⟩⟩
    exact ⟨(c :: group) :: rest, List.cons_ne_nil _ _, List.forall_mem_cons.mpr ⟨hlonger, hothers⟩,
      List.intercalate_cons_cons_left⟩
  | case6 => cases h

end Groups

/-! ## Reading integers -/

/-- A number is read from its digits as it is written in base ten. -/
theorem digitsValue_eq_ofDigits (ds : List Nat) : digitsValue ds = Nat.ofDigits 10 ds.reverse := by
  rw [digitsValue, Nat.ofDigits_eq_foldr, List.foldr_reverse]
  simp only [Nat.add_comm]
  rfl

namespace Numeral

variable (m : Numeral)

theorem isDigitOrUnderscore_of_mem {c : Char} (h : c ∈ ['_'].intercalate m.groups) : isDigitOrUnderscore c = true := by
  rw [isDigitOrUnderscore_iff]
  refine (mem_intercalate h).imp_right ?_
  rintro ⟨group, hgroup, hc⟩
  exact (m.isDigits group hgroup).isSome c hc

theorem isSpace_of_mem {c : Char} (h : c ∈ m.chars) : isSpace c = false := by
  rcases List.mem_append.mp h with h | h
  · have hsign : ∀ s : Sign, ∀ c ∈ s.chars, isSpace c = false
      | .missing => List.forall_mem_nil _
      | .plus => List.forall_mem_singleton.mpr rfl
      | .minus => List.forall_mem_singleton.mpr rfl
    exact hsign m.sign c h
  · exact (of_isDigitOrUnderscore (m.isDigitOrUnderscore_of_mem h)).1

/-- The sign of a numeral is read off, and its groups are left. -/
theorem takeSign_chars : takeSign m.chars = (decide (m.sign = .minus), ['_'].intercalate m.groups) := by
  have hmissing : ∀ cs : List Char, (∀ c ∈ cs, isDigitOrUnderscore c = true) → takeSign cs = (false, cs) := by
    intro cs hcs
    cases cs with
    | nil => rfl
    | cons c cs =>
      obtain ⟨-, hminus, hplus⟩ := of_isDigitOrUnderscore (hcs c List.mem_cons_self)
      rw [takeSign]
      · rintro cs' ⟨⟩
        exact hminus rfl
      · rintro cs' ⟨⟩
        exact hplus rfl
  rw [chars]
  cases m.sign with
  | missing => exact hmissing _ fun c hc => m.isDigitOrUnderscore_of_mem hc
  | plus => rfl
  | minus => rfl

theorem digitGroup_groups : digitGroup (['_'].intercalate m.groups) = some m.digits :=
  digitGroup_intercalate m.groups_ne_nil m.isDigits

/-- Numerals that are written alike have one value. -/
theorem value_eq_of_chars_eq {m m' : Numeral} (h : m.chars = m'.chars) : m.value = m'.value := by
  have htaken := m.takeSign_chars
  rw [h, m'.takeSign_chars] at htaken
  obtain ⟨hsign, hgroups⟩ := Prod.mk.inj htaken
  have hdigits : m'.digits = m.digits := Option.some.inj (by rw [← digitGroup_groups, ← digitGroup_groups, hgroups])
  simp only [value, Sign.applyTo, hdigits, decide_eq_decide.mp hsign]

end Numeral

/-- What is read of a numeral with white space around it. -/
theorem integerOfList_of_padded {m : Numeral} {cs : List Char} (h : Padded isSpace m.chars cs) :
    integerOfList cs = if m.digits.length ≤ maxIntegerDigits then .ok m.value else .error (.tooManyDigits m.digits.length) := by
  have hall : ∀ c ∈ ['_'].intercalate m.groups, isDigitOrUnderscore c = true := fun c hc => m.isDigitOrUnderscore_of_mem hc
  have htake : (['_'].intercalate m.groups).takeWhile isDigitOrUnderscore = ['_'].intercalate m.groups :=
    List.takeWhile_eq_self_iff.mpr hall
  have hdrop : (['_'].intercalate m.groups).dropWhile isDigitOrUnderscore = [] := List.dropWhile_eq_nil_iff.mpr hall
  have htrim : trimBoth isSpace cs = m.chars := h.trimBoth_eq.trans (trimBoth_of_forall fun c hc => m.isSpace_of_mem hc)
  have hvalue : (if decide (m.sign = .minus) = true then -(digitsValue m.digits : Int) else digitsValue m.digits) = m.value := by
    simp only [digitsValue_eq_ofDigits, decide_eq_true_eq, Numeral.value, Sign.applyTo]
  simp only [integerOfList, htrim, m.takeSign_chars, htake, hdrop, m.digitGroup_groups, ne_eq, not_true_eq_false, if_false, hvalue]
  by_cases hlength : m.digits.length ≤ maxIntegerDigits
  · rw [if_neg (by omega), if_pos hlength]
  · rw [if_pos (by omega), if_neg hlength]

/-- A sign that is taken off, and what is left, are the text. -/
theorem exists_sign_of_takeSign {cs body : List Char} {negative : Bool} (h : takeSign cs = (negative, body)) :
    ∃ sign : Sign, sign.chars ++ body = cs := by
  unfold takeSign at h
  split at h
  · exact ⟨.minus, by rw [← (Prod.mk.inj h).2]; rfl⟩
  · exact ⟨.plus, by rw [← (Prod.mk.inj h).2]; rfl⟩
  · exact ⟨.missing, by rw [← (Prod.mk.inj h).2]; rfl⟩

/-- Where an integer is read there is a numeral. -/
theorem exists_numeral_of_integerOfList {cs : List Char} {n : Int} (h : integerOfList cs = .ok n) :
    ∃ m : Numeral, m.chars = trimBoth isSpace cs := by
  obtain ⟨negative, body, hsign⟩ : ∃ negative body, takeSign (trimBoth isSpace cs) = (negative, body) := ⟨_, _, rfl⟩
  obtain ⟨sign, hchars⟩ := exists_sign_of_takeSign hsign
  simp only [integerOfList, hsign] at h
  split at h
  · cases h
  · rename_i ds hdigits
    split at h
    · cases h
    · split at h
      · cases h
      · rename_i hrest
        have hbody : body.takeWhile isDigitOrUnderscore = body := by
          rw [ne_eq, not_not] at hrest
          rw [← List.append_nil (body.takeWhile isDigitOrUnderscore), ← hrest, List.takeWhile_append_dropWhile]
        rw [hbody] at hdigits
        obtain ⟨groups, hne, hgroups, rfl⟩ := exists_groups_of_digitGroup hdigits
        exact ⟨⟨sign, groups, hne, hgroups⟩, hchars⟩

/-- A text is read as the integer that it denotes. -/
theorem integerOf_eq_ok_iff {s : String} {n : Int} : integerOf s = .ok n ↔ Denotes s n := by
  constructor
  · intro h
    obtain ⟨m, hchars⟩ := exists_numeral_of_integerOfList h
    have hpadded : Padded isSpace m.chars s.toList := hchars ▸ padded_trimBoth isSpace s.toList
    rw [integerOf, integerOfList_of_padded hpadded] at h
    split at h
    · rename_i hlength
      exact ⟨m, hpadded, hlength, Except.ok.inj h⟩
    · cases h
  · rintro ⟨m, hpadded, hlength, rfl⟩
    rw [integerOf, integerOfList_of_padded hpadded, if_pos hlength]

end VideoShare.Text
