import Mathlib
import VideoShare.Proofs.Trimming
import VideoShare.Text.Case

/-!
# Blanks in lower case

Lower case leaves blank characters and commas as they are and makes none of other characters (`mem_lowerChar_iff`), which for the
characters beyond ASCII is read off the tables. A blank ends a word on both its sides, so the form of a capital sigma does not depend
on the blanks around a text either. So it does not matter whether a text is trimmed first or put into lower case first (`lower_trim`).
-/

namespace VideoShare.Text

/-! ## Lower case one character after the other -/

theorem lowerAfter_nil (before : List Char) : lowerAfter before [] = [] := rfl

theorem lowerAfter_cons (before : List Char) (c : Char) (cs : List Char) :
    lowerAfter before (c :: cs) =
      (if c = 'Σ' then [if endsWord before cs then 'ς' else 'σ'] else lowerChar c) ++ lowerAfter (c :: before) cs := rfl

/-! ## Characters without case -/

/-- The code points of the blank characters. -/
def blankCodes : List Nat :=
  [0x09, 0x0A, 0x0B, 0x0C, 0x0D, 0x1C, 0x1D, 0x1E, 0x1F, 0x20, 0x85, 0xA0, 0x1680, 0x2000, 0x2001, 0x2002, 0x2003, 0x2004, 0x2005,
    0x2006, 0x2007, 0x2008, 0x2009, 0x200A, 0x2028, 0x2029, 0x202F, 0x205F, 0x3000]

/-- The code points of the blank characters and of the comma. -/
def uncasedCodes : List Nat := 0x2C :: blankCodes

/-- The stretches between blanks and commas: the code points that each one lies behind and before. -/
def gaps : List (Int × Int) :=
  [(0x0D, 0x1C), (0x20, 0x2C), (0x2C, 0x85), (0x85, 0xA0), (0xA0, 0x1680), (0x1680, 0x2000), (0x200A, 0x2028), (0x2029, 0x202F),
    (0x202F, 0x205F), (0x205F, 0x3000), (0x3000, 0x110000)]

/-- From one number to another there are only code points of one stretch between blanks and commas. -/
def InGap (first last : Int) : Prop := ∃ g ∈ gaps, g.1 < first ∧ last < g.2

instance (first last : Int) : Decidable (InGap first last) :=
  inferInstanceAs (Decidable (∃ g ∈ gaps, g.1 < first ∧ last < g.2))

theorem InGap.lt_or_lt {first last : Int} {n : Nat} (h : InGap first last) (hn : n ∈ uncasedCodes) : n < first ∨ last < n := by
  obtain ⟨g, hg, hfirst, hlast⟩ := h
  have houtside : ∀ g ∈ gaps, ∀ n ∈ uncasedCodes, (n : Int) ≤ g.1 ∨ g.2 ≤ n := by decide
  have hn := houtside g hg n hn
  omega

/-! ### What the tables say of blanks and commas -/

set_option maxRecDepth 4000 in
/-- The runs of the lower-case mappings neither hold a blank or a comma nor lead to one. -/
theorem inGap_of_lowerRuns :
    ∀ r ∈ lowerRuns, InGap r.first r.last ∧ InGap (r.first + r.shift) (r.last + r.shift) := by
  decide

/-- Nor do the mappings to several characters. -/
theorem uncased_of_lowerSequences :
    ∀ p ∈ lowerSequences, p.1 ∉ uncasedCodes ∧ p.2 ≠ [] ∧ ∀ n ∈ p.2, n ∉ uncasedCodes := by
  decide

set_option maxRecDepth 8000 in
theorem inGap_of_caseIgnorableRanges : ∀ r ∈ caseIgnorableRanges, InGap r.1 r.2 := by
  decide

set_option maxRecDepth 4000 in
theorem inGap_of_casedRanges : ∀ r ∈ casedRanges, InGap r.1 r.2 := by
  decide

/-! ### Blanks and commas in lower case -/

section Characters

variable {c d : Char}

theorem mem_blankCodes (h : isBlank c = true) : c.toNat ∈ blankCodes := by
  simp only [isBlank, isSpace, isInformationSeparator, Bool.or_eq_true, Bool.and_eq_true, decide_eq_true_eq, beq_iff_eq] at h
  simp only [blankCodes, List.mem_cons, List.not_mem_nil, or_false]
  omega

/-- A blank or a comma is no letter of ASCII. -/
theorem not_isLetter_of_uncased (h : c.toNat ∈ uncasedCodes) : c.isUpper = false ∧ c.isLower = false := by
  have hcodes : ∀ n ∈ uncasedCodes, n < 0x41 ∨ 0x7A < n := by decide
  have hc := hcodes _ h
  have hletters : 'A'.toNat = 0x41 ∧ 'Z'.toNat = 0x5A ∧ 'a'.toNat = 0x61 ∧ 'z'.toNat = 0x7A := by decide
  rw [← Bool.not_eq_true, ← Bool.not_eq_true]
  simp only [Char.isUpper, Char.isLower, decide_eq_true_eq, Bool.and_eq_true, ge_iff_le, UInt32.le_iff_toNat_le, Char.toNat_val]
  omega

/-- A blank or a comma is no form of sigma. -/
theorem ne_sigma_of_uncased (h : c.toNat ∈ uncasedCodes) : c ≠ 'Σ' ∧ c ≠ 'ς' ∧ c ≠ 'σ' := by
  have hne : ∀ d : Char, d.toNat ∉ uncasedCodes → c ≠ d := by
    rintro d hd rfl
    exact hd h
  exact ⟨hne 'Σ' (by decide), hne 'ς' (by decide), hne 'σ' (by decide)⟩

/-- The code point of a character that is made from a number is this number, unless it is zero. -/
theorem eq_of_toNat_ofNat {n : Nat} (h : (Char.ofNat n).toNat ∈ uncasedCodes) : n ∈ uncasedCodes := by
  by_cases hn : n.isValidChar
  · rwa [Char.toNat_ofNat, if_pos hn] at h
  · rw [Char.toNat_ofNat, if_neg hn] at h
    exact absurd h (by decide)

/-- A sequence that a character is mapped to stands in the table. -/
theorem mem_of_lookup {table : List (Nat × List Nat)} {n : Nat} {ns : List Nat} (h : table.lookup n = some ns) :
    (n, ns) ∈ table := by
  obtain ⟨front, back, rfl, -⟩ := List.lookup_eq_some_iff.mp h
  exact List.mem_append_right _ List.mem_cons_self

/-- What a run of the lower-case mappings makes something of is no blank and no comma, and neither is what it makes. -/
theorem not_uncased_of_image? {r : CaseRun} {n m : Nat} (hr : r ∈ lowerRuns) (h : r.image? n = some m) :
    n ∉ uncasedCodes ∧ m ∉ uncasedCodes := by
  obtain ⟨hfrom, hto⟩ := inGap_of_lowerRuns r hr
  rw [CaseRun.image?] at h
  split at h
  · rename_i hcovered
    have himage := Option.some.inj h
    refine ⟨fun hn => ?_, fun hm => ?_⟩
    · have hoff := hfrom.lt_or_lt hn
      omega
    · have hoff := hto.lt_or_lt hm
      have hpositive : ∀ k ∈ uncasedCodes, 0 < k := by decide
      have hzero := hpositive m hm
      omega
  · simp at h

theorem lowerChar_of_uncased (h : c.toNat ∈ uncasedCodes) : lowerChar c = [c] := by
  rw [lowerChar]
  split
  · rw [Char.toLower_eq_of_not_isUpper (Bool.not_eq_true _ ▸ (not_isLetter_of_uncased h).1)]
  · have hsequence : lowerSequences.lookup c.toNat = none := by
      refine Option.eq_none_iff_forall_ne_some.mpr fun codes hcodes => ?_
      exact (uncased_of_lowerSequences _ (mem_of_lookup hcodes)).1 h
    have hrun : lowerRuns.findSome? (·.image? c.toNat) = none := by
      refine List.findSome?_eq_none_iff.mpr fun r hr => ?_
      exact Option.eq_none_iff_forall_ne_some.mpr fun m himage => (not_uncased_of_image? hr himage).1 h
    simp only [mapCase, hsequence, hrun]

/-- A character that is no lower-case letter is the lower-case form of itself alone. -/
theorem eq_of_toLower_eq (h : c.toLower = d) (hd : d.isLower = false) : c = d := by
  have hupper : c.isUpper ≠ true := by
    intro hupper
    have halpha : c.isAlpha = true := by rw [Char.isAlpha, hupper, Bool.true_or]
    rw [← h, Char.isLower_toLower_eq_isAlpha, halpha] at hd
    nomatch hd
  rw [← h, Char.toLower_eq_of_not_isUpper hupper]

/-- Lower case makes a blank or a comma of itself and of no other character. -/
theorem mem_lowerChar_iff (hd : d.toNat ∈ uncasedCodes) : d ∈ lowerChar c ↔ c = d := by
  constructor
  · intro h
    rw [lowerChar] at h
    split at h
    · exact eq_of_toLower_eq (List.mem_singleton.mp h).symm (not_isLetter_of_uncased hd).2
    · rw [mapCase] at h
      split at h
      · rename_i codes hcodes
        obtain ⟨n, hn, rfl⟩ := List.mem_map.mp h
        exact absurd (eq_of_toNat_ofNat hd) ((uncased_of_lowerSequences _ (mem_of_lookup hcodes)).2.2 n hn)
      · split at h
        · rename_i n hrun
          obtain ⟨r, hr, himage⟩ := List.exists_of_findSome?_eq_some hrun
          rw [List.mem_singleton] at h
          subst h
          exact absurd (eq_of_toNat_ofNat hd) (not_uncased_of_image? hr himage).2
        · exact (List.mem_singleton.mp h).symm
  · rintro rfl
    rw [lowerChar_of_uncased hd]
    exact List.mem_singleton_self c

theorem lowerChar_ne_nil (c : Char) : lowerChar c ≠ [] := by
  rw [lowerChar]
  split
  · exact List.cons_ne_nil _ _
  · rw [mapCase]
    split
    · rename_i codes hcodes
      exact mt List.map_eq_nil_iff.mp (uncased_of_lowerSequences _ (mem_of_lookup hcodes)).2.1
    · split <;> exact List.cons_ne_nil _ _

/-- No blank and no comma lies in ranges that lie between them. -/
theorem not_inRanges_of_uncased {ranges : List (Nat × Nat)} (hranges : ∀ r ∈ ranges, InGap r.1 r.2) (h : c.toNat ∈ uncasedCodes) :
    inRanges ranges c = false := by
  refine List.any_eq_false.mpr fun r hr hcovered => ?_
  rw [Bool.and_eq_true, decide_eq_true_eq, decide_eq_true_eq] at hcovered
  have hoff := (hranges r hr).lt_or_lt h
  omega

end Characters

/-- Lower case keeps the blanks and commas of a text, and makes no others. -/
theorem mem_lower_iff {d : Char} (hd : d.toNat ∈ uncasedCodes) {s : String} : d ∈ (lower s).toList ↔ d ∈ s.toList := by
  have hafter : ∀ (cs before : List Char), d ∈ lowerAfter before cs ↔ d ∈ cs := by
    intro cs
    induction cs with
    | nil =>
      intro before
      rw [lowerAfter_nil]
    | cons c cs ih =>
      intro before
      rw [lowerAfter_cons, List.mem_append, ih, List.mem_cons]
      refine or_congr_left ?_
      by_cases hc : c = 'Σ'
      · rw [if_pos hc, List.mem_singleton, hc]
        obtain ⟨hcapital, hfinal, hsmall⟩ := ne_sigma_of_uncased hd
        split
        · exact iff_of_false hfinal hcapital
        · exact iff_of_false hsmall hcapital
      · rw [if_neg hc, mem_lowerChar_iff hd, eq_comm]
  rw [lower, String.toList_ofList]
  exact hafter s.toList []

/-- Only the empty text is empty in lower case. -/
theorem lower_eq_empty_iff {s : String} : lower s = "" ↔ s = "" := by
  have hempty : ∀ cs : List Char, lowerAfter [] cs = [] ↔ cs = [] := by
    intro cs
    cases cs with
    | nil => rw [lowerAfter_nil]
    | cons c cs =>
      rw [lowerAfter_cons, List.append_eq_nil_iff]
      split <;> simp [lowerChar_ne_nil]
  rw [← String.toList_eq_nil_iff, lower, String.toList_ofList, hempty, String.toList_eq_nil_iff]

/-! ## Words and the blanks around them -/

section Words

variable {c : Char} {blanks front back cs : List Char}

theorem uncased_of_isBlank (h : isBlank c = true) : c.toNat ∈ uncasedCodes := List.mem_cons_of_mem _ (mem_blankCodes h)

theorem startsCased_cons (c : Char) (cs : List Char) :
    startsCased (c :: cs) = if inRanges caseIgnorableRanges c then startsCased cs else inRanges casedRanges c := by
  rw [startsCased, List.dropWhile_cons]
  by_cases hc : inRanges caseIgnorableRanges c = true
  · rw [if_pos hc, if_pos hc, startsCased]
  · rw [if_neg hc, if_neg hc]

/-- A blank has no case, and case does not ignore it. -/
theorem startsCased_of_isBlank (h : isBlank c = true) (cs : List Char) : startsCased (c :: cs) = false := by
  have huncased := uncased_of_isBlank h
  rw [startsCased_cons, not_inRanges_of_uncased inGap_of_caseIgnorableRanges huncased, if_neg Bool.false_ne_true,
    not_inRanges_of_uncased inGap_of_casedRanges huncased]

/-- Blanks behind a text do not matter to whether it begins with a character that has case. -/
theorem startsCased_append_blanks (hblanks : ∀ c ∈ blanks, isBlank c = true) (cs : List Char) :
    startsCased (cs ++ blanks) = startsCased cs := by
  induction cs with
  | nil =>
    cases blanks with
    | nil => rfl
    | cons c rest => exact startsCased_of_isBlank (hblanks c List.mem_cons_self) rest
  | cons c cs ih => rw [List.cons_append, startsCased_cons, startsCased_cons, ih]

theorem lowerAfter_blanks (hblanks : ∀ c ∈ blanks, isBlank c = true) : ∀ before, lowerAfter before blanks = blanks := by
  induction blanks with
  | nil =>
    intro before
    rw [lowerAfter_nil]
  | cons c rest ih =>
    intro before
    obtain ⟨hc, hrest⟩ := List.forall_mem_cons.mp hblanks
    have huncased := uncased_of_isBlank hc
    rw [lowerAfter_cons, if_neg (ne_sigma_of_uncased huncased).1, lowerChar_of_uncased huncased, ih hrest, List.singleton_append]

/-- Blanks in front of a text stay in front of it. -/
theorem lowerAfter_front (hfront : ∀ c ∈ front, isBlank c = true) :
    ∀ before, lowerAfter before (front ++ cs) = front ++ lowerAfter (front.reverse ++ before) cs := by
  induction front with
  | nil =>
    intro before
    rfl
  | cons c rest ih =>
    intro before
    obtain ⟨hc, hrest⟩ := List.forall_mem_cons.mp hfront
    have huncased := uncased_of_isBlank hc
    rw [List.cons_append, lowerAfter_cons, if_neg (ne_sigma_of_uncased huncased).1, lowerChar_of_uncased huncased, ih hrest,
      List.reverse_cons, List.append_assoc, List.singleton_append, List.singleton_append, List.cons_append]

/-- Blanks behind a text stay behind it, and of what stands before the text it only matters whether it ends with a character that has
case. -/
theorem lowerAfter_back (hback : ∀ c ∈ back, isBlank c = true) (cs : List Char) :
    ∀ before before', startsCased before = startsCased before' → lowerAfter before (cs ++ back) = lowerAfter before' cs ++ back := by
  induction cs with
  | nil =>
    intro before before' _
    rw [List.nil_append, lowerAfter_blanks hback, lowerAfter_nil, List.nil_append]
  | cons c cs ih =>
    intro before before' hbefore
    have hnext : startsCased (c :: before) = startsCased (c :: before') := by
      rw [startsCased_cons, startsCased_cons, hbefore]
    rw [List.cons_append, lowerAfter_cons, lowerAfter_cons, endsWord, endsWord, hbefore, startsCased_append_blanks hback,
      ih _ _ hnext, List.append_assoc]

/-- Blanks around a text stay around it in lower case. -/
theorem lowerAfter_padded (hfront : ∀ c ∈ front, isBlank c = true) (hback : ∀ c ∈ back, isBlank c = true) (cs : List Char) :
    lowerAfter [] (front ++ (cs ++ back)) = front ++ (lowerAfter [] cs ++ back) := by
  have hbefore : startsCased (front.reverse ++ []) = startsCased [] := by
    rw [List.append_nil]
    exact startsCased_append_blanks (fun c hc => hfront c (List.mem_reverse.mp hc)) []
  rw [lowerAfter_front hfront, lowerAfter_back hback cs _ _ hbefore]

/-! ## Trimming in lower case -/

/-- What lower case makes of a character that is not blank is not blank, and something. -/
theorem exists_lowered (hc : isBlank c = false) (before cs : List Char) :
    ∃ piece, piece ≠ [] ∧ (∀ d ∈ piece, isBlank d = false) ∧ lowerAfter before (c :: cs) = piece ++ lowerAfter (c :: before) cs := by
  by_cases hsigma : c = 'Σ'
  · refine ⟨_, List.cons_ne_nil _ _, ?_, by rw [lowerAfter_cons, if_pos hsigma]⟩
    intro d hd
    rw [List.mem_singleton] at hd
    split at hd <;> exact hd ▸ by decide
  · refine ⟨lowerChar c, lowerChar_ne_nil c, fun d hd => ?_, by rw [lowerAfter_cons, if_neg hsigma]⟩
    by_contra hblank
    rw [Bool.not_eq_false] at hblank
    have hsame := (mem_lowerChar_iff (uncased_of_isBlank hblank)).mp hd
    rw [hsame, hblank] at hc
    exact Bool.false_ne_true hc.symm

/-- A text that ends with a character that is not blank does so in lower case. -/
theorem exists_lowered_last (hc : isBlank c = false) (cs : List Char) :
    ∀ before, ∃ front d, isBlank d = false ∧ lowerAfter before (cs ++ [c]) = front ++ [d] := by
  induction cs with
  | nil =>
    intro before
    obtain ⟨piece, hpiece, hvisible, heq⟩ := exists_lowered hc before []
    refine ⟨piece.dropLast, piece.getLast hpiece, hvisible _ (List.getLast_mem hpiece), ?_⟩
    rw [List.nil_append, heq, lowerAfter_nil, List.append_nil, List.dropLast_append_getLast hpiece]
  | cons a cs ih =>
    intro before
    obtain ⟨front, d, hd, heq⟩ := ih (a :: before)
    rw [List.cons_append, lowerAfter_cons, heq]
    exact ⟨_, d, hd, (List.append_assoc _ _ _).symm⟩

/-- A text that has been trimmed is trimmed in lower case. -/
theorem trimBoth_lowerAfter (h : trimBoth isBlank cs = cs) : trimBoth isBlank (lowerAfter [] cs) = lowerAfter [] cs := by
  obtain ⟨hfirst, hlast⟩ := trimBoth_eq_self_iff.mp h
  refine trimBoth_eq_self_iff.mpr ⟨fun d rest hd => ?_, fun front d hd => ?_⟩
  · cases cs with
    | nil => simp [lowerAfter_nil] at hd
    | cons c cs =>
      obtain ⟨piece, hpiece, hvisible, heq⟩ := exists_lowered (hfirst c cs rfl) [] cs
      rw [heq] at hd
      cases piece with
      | nil => exact absurd rfl hpiece
      | cons e piece =>
        rw [List.cons_append] at hd
        obtain ⟨rfl, -⟩ := List.cons.inj hd
        exact hvisible e List.mem_cons_self
  · rcases List.eq_nil_or_concat cs with rfl | ⟨cs, c, rfl⟩
    · simp [lowerAfter_nil] at hd
    · rw [List.concat_eq_append] at hlast hd
      obtain ⟨front', d', hd', heq⟩ := exists_lowered_last (hlast cs c rfl) cs []
      rw [heq] at hd
      obtain ⟨-, hsame⟩ := List.append_inj' hd rfl
      obtain ⟨rfl, -⟩ := List.cons.inj hsame
      exact hd'

/-- Blanks around a text stand around it in lower case. -/
theorem Padded.lowerAfter {text : List Char} (h : Padded isBlank text cs) :
    Padded isBlank (lowerAfter [] text) (lowerAfter [] cs) := by
  obtain ⟨front, back, hfront, hback⟩ := h
  rw [lowerAfter_padded hfront hback]
  exact .intro front back hfront hback

/-- A text with blanks around it is the text in lower case only where there are no blanks. -/
theorem Padded.eq_of_lowerAfter_eq {text : List Char} (h : Padded isBlank text cs)
    (heq : Text.lowerAfter [] cs = Text.lowerAfter [] text) : cs = text := by
  obtain ⟨front, back, hfront, hback⟩ := h
  rw [lowerAfter_padded hfront hback] at heq
  have hlength := congrArg List.length heq
  rw [List.length_append, List.length_append] at hlength
  have hfront : front = [] := List.eq_nil_of_length_eq_zero (by omega)
  have hback : back = [] := List.eq_nil_of_length_eq_zero (by omega)
  rw [hfront, hback, List.nil_append, List.append_nil]

end Words

/-- A text may be trimmed before it is put into lower case or after. -/
theorem lower_trim (s : String) : lower (trim s) = trim (lower s) := by
  have hpadded := (padded_trimBoth isBlank s.toList).lowerAfter.trimBoth_eq
  have htrimmed := trimBoth_lowerAfter (trimBoth_trimBoth isBlank s.toList)
  simp only [lower, trim, String.toList_ofList, hpadded, htrimmed]

/-- A text has been trimmed exactly when it is trimmed in lower case. -/
theorem trim_lower_eq_iff {s : String} : trim (lower s) = lower s ↔ trim s = s := by
  constructor
  · intro h
    rw [← lower_trim, lower, lower, String.ofList_inj, trim, String.toList_ofList] at h
    rw [trim, ← (padded_trimBoth isBlank s.toList).eq_of_lowerAfter_eq h.symm, String.ofList_toList]
  · intro h
    rw [← lower_trim, h]

end VideoShare.Text
