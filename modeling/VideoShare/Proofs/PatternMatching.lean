import Mathlib.Data.List.Forall2
import VideoShare.Proofs.DecimalText
import VideoShare.SearchOption

/-!
# Patterns

Which texts a pattern matches is said character by character (`Matches`): a percent sign stands for any characters, an underscore for
one, and any other character for itself in either ASCII case. How it is found out is another matter: the pattern is cut at its percent
signs, and each piece is looked for behind the one before it, at the first place where it stands. The two agree
(`matchesPattern_iff`). A piece may be taken at the first place because a later one only leaves less text behind it, and the
pieces to come may skip what an earlier one leaves more.
-/

namespace VideoShare

/-- A character of a pattern stands for a character of a text. -/
def StandsFor (p c : Char) : Prop := p = '_' ∨ p.toLower = c.toLower

/-- A text matches a pattern. -/
inductive Matches : List Char → List Char → Prop where
  | nil : Matches [] []
  | percent {ps cs : List Char} (skipped : List Char) : Matches ps cs → Matches ('%' :: ps) (skipped ++ cs)
  | char {p c : Char} {ps cs : List Char} : p ≠ '%' → StandsFor p c → Matches ps cs → Matches (p :: ps) (c :: cs)

/-! ## What a pattern matches -/

theorem matches_nil_iff {cs : List Char} : Matches [] cs ↔ cs = [] := by
  constructor
  · rintro ⟨⟩
    rfl
  · rintro rfl
    exact .nil

theorem matches_percent_iff {ps cs : List Char} :
    Matches ('%' :: ps) cs ↔ ∃ skipped rest, cs = skipped ++ rest ∧ Matches ps rest := by
  constructor
  · intro h
    cases h with
    | percent skipped h => exact ⟨skipped, _, rfl, h⟩
    | char hp => exact absurd rfl hp
  · rintro ⟨skipped, rest, rfl, h⟩
    exact .percent skipped h

theorem matches_char_iff {p : Char} {ps cs : List Char} (hp : p ≠ '%') :
    Matches (p :: ps) cs ↔ ∃ c rest, cs = c :: rest ∧ StandsFor p c ∧ Matches ps rest := by
  constructor
  · intro h
    cases h with
    | percent => exact absurd rfl hp
    | char _ hc h => exact ⟨_, _, rfl, hc, h⟩
  · rintro ⟨c, rest, rfl, hc, h⟩
    exact .char hp hc h

/-- A text matches two patterns in a row when it is two texts in a row that match them. -/
theorem matches_append_iff {ps qs cs : List Char} :
    Matches (ps ++ qs) cs ↔ ∃ part rest, cs = part ++ rest ∧ Matches ps part ∧ Matches qs rest := by
  constructor
  · intro h
    induction ps generalizing cs with
    | nil => exact ⟨[], cs, rfl, .nil, h⟩
    | cons p ps ih =>
      rw [List.cons_append] at h
      cases h with
      | percent skipped h =>
        obtain ⟨part, rest, rfl, hps, hqs⟩ := ih h
        exact ⟨skipped ++ part, rest, (List.append_assoc _ _ _).symm, .percent skipped hps, hqs⟩
      | char hp hc h =>
        obtain ⟨part, rest, rfl, hps, hqs⟩ := ih h
        exact ⟨_ :: part, rest, rfl, .char hp hc hps, hqs⟩
  · rintro ⟨part, rest, rfl, hps, hqs⟩
    induction hps with
    | nil => exact hqs
    | percent skipped _ ih =>
      rw [List.cons_append, List.append_assoc]
      exact .percent skipped ih
    | char hp hc _ ih => exact .char hp hc ih

/-- A single percent sign matches every text. -/
theorem matches_percent (cs : List Char) : Matches ['%'] cs := by
  simpa using Matches.percent cs .nil

/-- A pattern without percent signs and underscores matches itself in any ASCII case, and nothing else. -/
theorem matches_iff_of_plain {ps cs : List Char} (hpercent : '%' ∉ ps) (hunderscore : '_' ∉ ps) :
    Matches ps cs ↔ ps.map Char.toLower = cs.map Char.toLower := by
  induction ps generalizing cs with
  | nil => rw [matches_nil_iff, List.map_nil, eq_comm (a := []), List.map_eq_nil_iff]
  | cons p ps ih =>
    have hp : p ≠ '%' := fun heq => hpercent (heq ▸ List.mem_cons_self)
    have hp' : p ≠ '_' := fun heq => hunderscore (heq ▸ List.mem_cons_self)
    have hps : ∀ {cs}, Matches ps cs ↔ ps.map Char.toLower = cs.map Char.toLower :=
      ih (fun h => hpercent (List.mem_cons_of_mem p h)) fun h => hunderscore (List.mem_cons_of_mem p h)
    rw [matches_char_iff hp]
    constructor
    · rintro ⟨c, rest, rfl, hc | hc, hrest⟩
      · exact absurd hc hp'
      · rw [List.map_cons, List.map_cons, hc, hps.mp hrest]
    · intro h
      cases cs with
      | nil => simp at h
      | cons c rest =>
        simp only [List.map_cons, List.cons.injEq] at h
        exact ⟨c, rest, rfl, Or.inr h.1, hps.mpr h.2⟩

/-! ## Pieces of a pattern -/

/-- A piece stands at the beginning of a text, and something is left. -/
theorem takePiece_eq_some {piece cs rest : List Char} :
    takePiece piece cs = some rest ↔ ∃ part, cs = part ++ rest ∧ List.Forall₂ StandsFor piece part := by
  induction piece generalizing cs with
  | nil => simp [takePiece]
  | cons p ps ih =>
    cases cs with
    | nil => simp [takePiece]
    | cons c cs =>
      have hstands : (p == '_' || p.toLower == c.toLower) = true ↔ StandsFor p c := by simp [StandsFor]
      rw [takePiece]
      constructor
      · intro h
        split at h
        · rename_i hc
          obtain ⟨part, rfl, hpart⟩ := ih.mp h
          exact ⟨c :: part, rfl, .cons (hstands.mp hc) hpart⟩
        · nomatch h
      · rintro ⟨part, hcs, hpart⟩
        cases hpart with
        | cons hc hpart =>
          simp only [List.cons_append, List.cons.injEq] at hcs
          obtain ⟨rfl, rfl⟩ := hcs
          rw [if_pos (hstands.mpr hc)]
          exact ih.mpr ⟨_, rfl, hpart⟩

/-- Where a piece is found it stands, behind a gap. -/
theorem stands_of_skipPiece {piece cs rest : List Char} (h : skipPiece piece cs = some rest) :
    ∃ gap part, cs = gap ++ (part ++ rest) ∧ List.Forall₂ StandsFor piece part := by
  induction cs with
  | nil =>
    obtain ⟨part, hcs, hpart⟩ := takePiece_eq_some.mp h
    exact ⟨[], part, hcs, hpart⟩
  | cons c cs ih =>
    rw [skipPiece] at h
    cases htake : takePiece piece (c :: cs) with
    | some rest' =>
      rw [htake] at h
      obtain rfl := Option.some.inj h
      obtain ⟨part, hcs, hpart⟩ := takePiece_eq_some.mp htake
      exact ⟨[], part, hcs, hpart⟩
    | none =>
      rw [htake] at h
      obtain ⟨gap, part, rfl, hpart⟩ := ih h
      exact ⟨c :: gap, part, rfl, hpart⟩

/-- A piece that stands somewhere is found, and what is behind it there is behind the place where it is found. -/
theorem skipPiece_of_stands {piece part : List Char} (hpart : List.Forall₂ StandsFor piece part) (gap rest : List Char) :
    ∃ more, skipPiece piece (gap ++ (part ++ rest)) = some (more ++ rest) := by
  have hhere : ∀ cs, takePiece piece cs = some rest → skipPiece piece cs = some rest := by
    intro cs htake
    cases cs with
    | nil => exact htake
    | cons c cs => rw [skipPiece, htake]; rfl
  induction gap with
  | nil => exact ⟨[], hhere _ (takePiece_eq_some.mpr ⟨part, rfl, hpart⟩)⟩
  | cons c gap ih =>
    rw [List.cons_append, skipPiece]
    cases htake : takePiece piece (c :: (gap ++ (part ++ rest))) with
    | none => exact ih
    | some rest' =>
      obtain ⟨part', hcs, hpart'⟩ := takePiece_eq_some.mp htake
      have hlength : part'.length ≤ (c :: gap ++ part).length := by
        have := hpart.length_eq
        have := hpart'.length_eq
        simp only [List.length_append]
        omega
      have hsame : c :: gap ++ part ++ rest = part' ++ rest' := by simpa using hcs
      rcases List.append_eq_append_iff.mp hsame with ⟨more, hpart', hrest⟩ | ⟨more, -, hrest⟩
      · -- the piece would reach into the rest, so what it leaves is the rest
        have hmore : more = [] := by
          rw [hpart', List.length_append] at hlength
          exact List.eq_nil_of_length_eq_zero (by omega)
        exact ⟨[], by simp [hrest, hmore]⟩
      · exact ⟨more, by rw [hrest]; rfl⟩

/-- Pieces stand one after the other in a text, with a gap before each of them, and the text ends with the last. -/
inductive Spread : List (List Char) → List Char → Prop where
  | nil : Spread [] []
  | cons (gap : List Char) {piece part rest : List Char} {pieces : List (List Char)} :
      List.Forall₂ StandsFor piece part → Spread pieces rest → Spread (piece :: pieces) (gap ++ (part ++ rest))

theorem spread_nil_iff {cs : List Char} : Spread [] cs ↔ cs = [] := by
  constructor
  · rintro ⟨⟩
    rfl
  · rintro rfl
    exact .nil

theorem spread_cons_iff {piece cs : List Char} {pieces : List (List Char)} :
    Spread (piece :: pieces) cs ↔
      ∃ gap part rest, cs = gap ++ (part ++ rest) ∧ List.Forall₂ StandsFor piece part ∧ Spread pieces rest := by
  constructor
  · intro h
    cases h with
    | cons gap hpart h => exact ⟨gap, _, _, rfl, hpart, h⟩
  · rintro ⟨gap, part, rest, rfl, hpart, h⟩
    exact .cons gap hpart h

/-- The first gap may be longer. -/
theorem Spread.behind {piece cs : List Char} {pieces : List (List Char)} (h : Spread (piece :: pieces) cs) (more : List Char) :
    Spread (piece :: pieces) (more ++ cs) := by
  obtain ⟨gap, part, rest, rfl, hpart, hrest⟩ := spread_cons_iff.mp h
  rw [← List.append_assoc]
  exact .cons (more ++ gap) hpart hrest

/-- The last piece is where the text ends. -/
theorem holdsPieces_singleton {last cs : List Char} : holdsPieces [last] cs = true ↔ Spread [last] cs := by
  simp only [holdsPieces, Bool.and_eq_true, decide_eq_true_eq, beq_iff_eq, takePiece_eq_some, List.append_nil, spread_cons_iff,
    spread_nil_iff]
  constructor
  · rintro ⟨-, part, hdrop, hpart⟩
    refine ⟨cs.take (cs.length - last.length), part, [], ?_, hpart, rfl⟩
    rw [List.append_nil, ← hdrop, List.take_append_drop]
  · rintro ⟨gap, part, rest, rfl, hpart, rfl⟩
    have hlength := hpart.length_eq
    refine ⟨by simp only [List.length_append]; omega, part, ?_, hpart⟩
    rw [List.append_nil, List.length_append, hlength, Nat.add_sub_cancel, List.drop_left]

/-- Looking for each piece at the first place where it stands misses nothing. -/
theorem holdsPieces_iff {piece cs : List Char} {pieces : List (List Char)} :
    holdsPieces (piece :: pieces) cs = true ↔ Spread (piece :: pieces) cs := by
  induction pieces generalizing piece cs with
  | nil => exact holdsPieces_singleton
  | cons next pieces ih =>
    rw [holdsPieces, Option.any_eq_true, spread_cons_iff]
    constructor
    · rintro ⟨rest, hskip, hrest⟩
      obtain ⟨gap, part, hcs, hpart⟩ := stands_of_skipPiece hskip
      exact ⟨gap, part, rest, hcs, hpart, ih.mp hrest⟩
    · rintro ⟨gap, part, rest, rfl, hpart, hrest⟩
      obtain ⟨more, hskip⟩ := skipPiece_of_stands hpart gap rest
      exact ⟨more ++ rest, hskip, ih.mpr (hrest.behind more)⟩
    · simp

/-! ## Cutting a pattern at its percent signs -/

/-- A text matches a pattern when the first piece stands at its beginning and the others are spread over the rest. -/
theorem matches_iff_pieces {pattern cs piece : List Char} {pieces : List (List Char)}
    (h : Text.splitAt '%' pattern = piece :: pieces) :
    Matches pattern cs ↔ ∃ part rest, cs = part ++ rest ∧ List.Forall₂ StandsFor piece part ∧ Spread pieces rest := by
  induction pattern generalizing cs piece pieces with
  | nil =>
    simp only [Text.splitAt, List.cons.injEq] at h
    obtain ⟨rfl, rfl⟩ := h
    simp [matches_nil_iff, spread_nil_iff]
  | cons p ps ih =>
    obtain ⟨next, pieces', hps⟩ := List.exists_cons_of_ne_nil (Text.splitAt_ne_nil '%' ps)
    simp only [Text.splitAt, hps] at h
    by_cases hp : p = '%'
    · subst hp
      simp only [if_true, List.cons.injEq] at h
      obtain ⟨rfl, rfl⟩ := h
      rw [matches_percent_iff]
      simp only [ih hps, List.forall₂_nil_left_iff, spread_cons_iff]
      constructor
      · rintro ⟨skipped, _, rfl, part, rest, rfl, hpart, hrest⟩
        exact ⟨[], _, rfl, rfl, skipped, part, rest, rfl, hpart, hrest⟩
      · rintro ⟨_, _, rfl, rfl, gap, part, rest, rfl, hpart, hrest⟩
        exact ⟨gap, _, rfl, part, rest, rfl, hpart, hrest⟩
    · simp only [hp, if_false, List.cons.injEq] at h
      obtain ⟨rfl, rfl⟩ := h
      rw [matches_char_iff hp]
      simp only [ih hps]
      constructor
      · rintro ⟨c, _, rfl, hc, part, rest, rfl, hpart, hrest⟩
        exact ⟨c :: part, rest, rfl, .cons hc hpart, hrest⟩
      · rintro ⟨_, rest, rfl, hpart, hrest⟩
        cases hpart with
        | cons hc hpart => exact ⟨_, _, rfl, hc, _, rest, rfl, hpart, hrest⟩

/-- A pattern is matched as it says. -/
theorem matchesPattern_iff {pattern cs : List Char} : matchesPattern pattern cs = true ↔ Matches pattern cs := by
  obtain ⟨piece, pieces, hpieces⟩ := List.exists_cons_of_ne_nil (Text.splitAt_ne_nil '%' pattern)
  rw [matches_iff_pieces hpieces, matchesPattern, hpieces]
  cases pieces with
  | nil =>
    simp only [beq_iff_eq, takePiece_eq_some, List.append_nil, spread_nil_iff]
    constructor
    · rintro ⟨_, rfl, hpart⟩
      exact ⟨cs, [], (List.append_nil cs).symm, hpart, rfl⟩
    · rintro ⟨part, _, rfl, hpart, rfl⟩
      exact ⟨part, List.append_nil part, hpart⟩
  | cons next pieces =>
    simp only [Option.any_eq_true, takePiece_eq_some, holdsPieces_iff]
    constructor
    · rintro ⟨rest, ⟨part, rfl, hpart⟩, hrest⟩
      exact ⟨part, rest, rfl, hpart, hrest⟩
    · rintro ⟨part, rest, rfl, hpart, hrest⟩
      exact ⟨rest, ⟨part, rfl, hpart⟩, hrest⟩

end VideoShare
