import VideoShare.Text.Pieces

/-!
# Cutting a text and putting it together

The pieces of a text are the texts without the separator that make it up with a separator between two of them, and there is one such
list (`splitAt_eq_iff`, `split_eq_iff`). A text occurs in another when it is an infix of it (`occursIn_iff_infix`).
-/

namespace VideoShare.Text

/-! ## Pieces -/

section Pieces

variable {d : Char} {cs : List Char}

theorem splitAt_nil (d : Char) : splitAt d [] = [[]] := rfl

theorem splitAt_cons_self (d : Char) (cs : List Char) : splitAt d (d :: cs) = [] :: splitAt d cs := if_pos rfl

/-- A character that is not the separator is the first of the first piece. -/
theorem splitAt_cons_of_ne {c : Char} {piece : List Char} {rest : List (List Char)} (hc : c ≠ d) (h : splitAt d cs = piece :: rest) :
    splitAt d (c :: cs) = (c :: piece) :: rest := by
  rw [splitAt, if_neg hc, h]

theorem splitAt_ne_nil (d : Char) (cs : List Char) : splitAt d cs ≠ [] := by
  induction cs with
  | nil => exact List.cons_ne_nil _ _
  | cons c cs ih =>
    by_cases hc : c = d
    · rw [hc, splitAt_cons_self]
      exact List.cons_ne_nil _ _
    · obtain ⟨piece, rest, hsplit⟩ := List.exists_cons_of_ne_nil ih
      rw [splitAt_cons_of_ne hc hsplit]
      exact List.cons_ne_nil _ _

/-- A text without the separator is one piece. -/
theorem splitAt_of_not_mem (h : d ∉ cs) : splitAt d cs = [cs] := by
  induction cs with
  | nil => rfl
  | cons c cs ih =>
    have hc : c ≠ d := fun heq => h (heq ▸ List.mem_cons_self)
    have hrest : d ∉ cs := fun hmem => h (List.mem_cons_of_mem c hmem)
    rw [splitAt_cons_of_ne hc (ih hrest)]

/-- The first piece ends at the first separator. -/
theorem splitAt_append_cons (h : d ∉ cs) (rest : List Char) : splitAt d (cs ++ d :: rest) = cs :: splitAt d rest := by
  induction cs with
  | nil => rw [List.nil_append, splitAt_cons_self]
  | cons c cs ih =>
    have hc : c ≠ d := fun heq => h (heq ▸ List.mem_cons_self)
    have hrest : d ∉ cs := fun hmem => h (List.mem_cons_of_mem c hmem)
    rw [List.cons_append, splitAt_cons_of_ne hc (ih hrest)]

/-- A character of a text that is put together is the separator, or one of a piece. -/
theorem mem_intercalate {c : Char} {pieces : List (List Char)} (h : c ∈ [d].intercalate pieces) :
    c = d ∨ ∃ piece ∈ pieces, c ∈ piece := by
  induction pieces with
  | nil => simp at h
  | cons piece rest ih =>
    cases rest with
    | nil => exact Or.inr ⟨piece, List.mem_cons_self, by rwa [List.intercalate_singleton] at h⟩
    | cons next rest =>
      rw [List.intercalate_cons_cons, List.mem_append, List.mem_append, List.mem_singleton] at h
      rcases h with (h | h) | h
      · exact Or.inr ⟨piece, List.mem_cons_self, h⟩
      · exact Or.inl h
      · refine (ih h).imp_right ?_
        rintro ⟨other, hother, hc⟩
        exact ⟨other, List.mem_cons_of_mem _ hother, hc⟩

/-- Texts without the separator are the pieces of what they make up with a separator between two of them. -/
theorem splitAt_intercalate {pieces : List (List Char)} (hne : pieces ≠ []) (h : ∀ piece ∈ pieces, d ∉ piece) :
    splitAt d ([d].intercalate pieces) = pieces := by
  induction pieces with
  | nil => exact absurd rfl hne
  | cons piece rest ih =>
    obtain ⟨hpiece, hrest⟩ := List.forall_mem_cons.mp h
    cases rest with
    | nil => rw [List.intercalate_singleton, splitAt_of_not_mem hpiece]
    | cons next rest =>
      rw [List.intercalate_cons_cons, List.append_assoc, List.singleton_append, splitAt_append_cons hpiece,
        ih (List.cons_ne_nil _ _) hrest]

/-- Every text is made up of its pieces, none of which holds the separator. -/
theorem intercalate_splitAt (d : Char) (cs : List Char) :
    [d].intercalate (splitAt d cs) = cs ∧ ∀ piece ∈ splitAt d cs, d ∉ piece := by
  induction cs with
  | nil => simp [splitAt_nil]
  | cons c cs ih =>
    obtain ⟨hmade, hpieces⟩ := ih
    obtain ⟨piece, rest, hsplit⟩ := List.exists_cons_of_ne_nil (splitAt_ne_nil d cs)
    rw [hsplit] at hmade hpieces
    by_cases hc : c = d
    · subst hc
      rw [splitAt_cons_self, hsplit, List.intercalate_cons_cons, hmade]
      exact ⟨rfl, List.forall_mem_cons.mpr ⟨List.not_mem_nil, hpieces⟩⟩
    · obtain ⟨hpiece, hrest⟩ := List.forall_mem_cons.mp hpieces
      rw [splitAt_cons_of_ne hc hsplit, List.intercalate_cons_cons_left, hmade]
      exact ⟨rfl, List.forall_mem_cons.mpr ⟨List.not_mem_cons_of_ne_of_not_mem (Ne.symm hc) hpiece, hrest⟩⟩

/-- The pieces of a text are the texts without the separator that make it up. -/
theorem splitAt_eq_iff {pieces : List (List Char)} :
    splitAt d cs = pieces ↔ pieces ≠ [] ∧ [d].intercalate pieces = cs ∧ ∀ piece ∈ pieces, d ∉ piece := by
  constructor
  · rintro rfl
    exact ⟨splitAt_ne_nil d cs, intercalate_splitAt d cs⟩
  · rintro ⟨hne, rfl, hpieces⟩
    exact splitAt_intercalate hne hpieces

theorem split_eq_iff {s : String} {pieces : List String} :
    split d s = pieces ↔ pieces ≠ [] ∧ (String.singleton d).intercalate pieces = s ∧ ∀ piece ∈ pieces, d ∉ piece.toList := by
  have hlists : split d s = pieces ↔ splitAt d s.toList = pieces.map String.toList := by
    rw [split]
    constructor
    · rintro rfl
      simp [Function.comp_def]
    · intro h
      simp [h, Function.comp_def]
  rw [hlists, splitAt_eq_iff, ← String.toList_inj, String.toList_intercalate, String.toList_singleton]
  simp

end Pieces

/-! ## Parts -/

/-- A text occurs in another when it is an infix of it. -/
theorem occursIn_iff_infix {part cs : List Char} : occursIn part cs = true ↔ part <:+: cs := by
  induction cs with
  | nil => rw [occursIn, List.isEmpty_iff, List.infix_nil]
  | cons c cs ih => rw [occursIn, Bool.or_eq_true, ih, List.isPrefixOf_iff_prefix, List.infix_cons_iff]

/-- A text begins with another when it is put together from it and a rest. -/
theorem startsWith_iff {whole part : String} : startsWith whole part = true ↔ ∃ rest, whole = part ++ rest := by
  rw [startsWith, List.isPrefixOf_iff_prefix]
  constructor
  · rintro ⟨rest, hrest⟩
    refine ⟨String.ofList rest, String.toList_inj.mp ?_⟩
    rw [String.toList_append, String.toList_ofList, hrest]
  · rintro ⟨rest, rfl⟩
    rw [String.toList_append]
    exact List.prefix_append _ _

theorem startsWith_append (part rest : String) : startsWith (part ++ rest) part = true := startsWith_iff.mpr ⟨rest, rfl⟩

/-- A text holds each text that it was put together from at its end. -/
theorem contains_append (start part : String) : contains (start ++ part) part = true := by
  rw [contains, String.toList_append, occursIn_iff_infix]
  exact (List.suffix_append _ _).isInfix

end VideoShare.Text
