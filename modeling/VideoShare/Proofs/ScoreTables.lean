import VideoShare.Proofs.Keys

/-!
# Tables of scores

A table of scores is a map from users and keys to positive numbers in which a missing row is a zero. Counting up and setting a score
change the number of one user and one key, and leave the rows of every other user where they are.
-/

namespace VideoShare

open Number (Binary64 Quantity)

namespace Database

/-- A user's score for a key, which is zero where there is no row. -/
def scoreOf (rows : List Score) (user key : String) : Int := ((score? rows user key).map (·.score)).getD 0

/-- No score is stored that is zero or less. -/
def PositiveScores (rows : List Score) : Prop := ∀ s ∈ rows, 0 < s.score

/-- The rows of a user. -/
def rowsOf (rows : List Score) (user : String) : List Score := rows.filter (·.userId == user)

section

variable {rows : List Score} {user key : String}

/-! ## Rows that are found -/

theorem score?_eq_some {s : Score} (h : score? rows user key = some s) : s ∈ rows ∧ s.userId = user ∧ s.key = key :=
  ⟨List.mem_of_find?_eq_some h, by simpa using List.find?_some h⟩

theorem scoreOf_of_some {s : Score} (h : score? rows user key = some s) : scoreOf rows user key = s.score := by
  simp [scoreOf, h]

theorem scoreOf_of_none (h : score? rows user key = none) : scoreOf rows user key = 0 := by
  simp [scoreOf, h]

/-- A user of whom there are no rows has no score. -/
theorem scoreOf_of_forall_ne (h : ∀ s ∈ rows, s.userId ≠ user) : scoreOf rows user key = 0 := by
  refine scoreOf_of_none (List.find?_eq_none.mpr fun s hs => ?_)
  simp [h s hs]

/-- A row is found among those of its user. -/
theorem score?_rowsOf : score? (rowsOf rows user) user key = score? rows user key := by
  rw [score?, rowsOf, List.find?_filter, score?]
  congr 1
  funext s
  rw [Bool.eq_iff_iff]
  simp

/-- Only a user's own rows tell the user's scores. -/
theorem scoreOf_congr {rows' : List Score} (h : rowsOf rows' user = rowsOf rows user) :
    scoreOf rows' user key = scoreOf rows user key := by
  rw [scoreOf, ← score?_rowsOf, h, score?_rowsOf, scoreOf]

/-- A change that keeps whose the rows are, and all of this user's, keeps the rows of this user. -/
theorem rowsOf_map {f : Score → Score} (hf : ∀ s, (f s).userId = s.userId) (hsame : ∀ s, s.userId = user → f s = s) :
    rowsOf (rows.map f) user = rowsOf rows user := by
  have hfun : ((·.userId == user) ∘ f : Score → Bool) = (·.userId == user) := by
    funext s
    simp [hf s]
  rw [rowsOf, List.filter_map, hfun, rowsOf]
  refine (List.map_congr_left fun s hs => ?_).trans (List.map_id _)
  exact hsame s (by simpa using (List.mem_filter.mp hs).2)

/-- The rows of a user stay when rows of others go. -/
theorem rowsOf_filter {p : Score → Bool} (hp : ∀ s, s.userId = user → p s = true) :
    rowsOf (rows.filter p) user = rowsOf rows user := by
  rw [rowsOf, List.filter_filter, rowsOf]
  refine List.filter_congr fun s _ => ?_
  by_cases hs : s.userId = user
  · simp [hs, hp s hs]
  · simp [hs]

/-! ## Finding rows in a changed table -/

theorem score?_map {f : Score → Score} (hf : ∀ s, (f s).userId = s.userId ∧ (f s).key = s.key) :
    score? (rows.map f) user key = (score? rows user key).map f := by
  rw [score?, List.find?_map, score?]
  congr 2
  funext s
  simp [hf s]

/-- A row is found after rows of other keys have changed. -/
theorem score?_map_of_ne {f : Score → Score} (hf : ∀ s, (f s).userId = s.userId ∧ (f s).key = s.key)
    (hsame : ∀ s, s.key = key → f s = s) : score? (rows.map f) user key = score? rows user key := by
  rw [score?_map hf]
  cases hfound : score? rows user key with
  | none => rfl
  | some s => rw [Option.map_some, hsame s (score?_eq_some hfound).2.2]

/-- A row is found after rows of other keys have gone. -/
theorem score?_filter_of_ne {p : Score → Bool} (hp : ∀ s, s.key = key → p s = true) :
    score? (rows.filter p) user key = score? rows user key := by
  rw [score?, List.find?_filter, score?]
  congr 1
  funext s
  rw [Bool.eq_iff_iff]
  simp +contextual [hp s]

/-! ## Counting up -/

/-- The score of a user for a key after one more point. The greatest score stays. -/
def nextScore (rows : List Score) (user key : String) : Int := min (scoreOf rows user key + 1) scoreLimit

/-- The first point. -/
theorem nextScore_of_none (h : score? rows user key = none) : nextScore rows user key = 1 := by
  rw [nextScore, scoreOf_of_none h]
  decide

theorem nextScore_of_some {s : Score} (h : score? rows user key = some s) :
    nextScore rows user key = min (s.score + 1) scoreLimit := by
  rw [nextScore, scoreOf_of_some h]

/-- The row that is found after counting up. -/
theorem score?_countUp_self : score? (countUp user key rows) user key = some ⟨user, key, nextScore rows user key⟩ := by
  cases hfound : score? rows user key with
  | none =>
    simp only [countUp, hfound, nextScore_of_none hfound, Option.isSome_none, Bool.false_eq_true, if_false]
    rw [score?, List.find?_append, ← score?, hfound]
    simp
  | some s =>
    obtain ⟨-, huser, hkey⟩ := score?_eq_some hfound
    simp only [countUp, hfound, nextScore_of_some hfound, Option.isSome_some, if_true]
    rw [score?_map, hfound]
    · simp [huser, hkey]
    · intro s
      split <;> exact ⟨rfl, rfl⟩

/-- Counting up adds one to the score, unless the score leaves its column. -/
theorem scoreOf_countUp_self (hfits : ∀ s ∈ countUp user key rows, s.score < scoreLimit) :
    scoreOf (countUp user key rows) user key = scoreOf rows user key + 1 := by
  have hlimit := hfits _ (score?_eq_some score?_countUp_self).1
  rw [scoreOf_of_some score?_countUp_self]
  simp only [nextScore] at hlimit ⊢
  omega

/-- Counting up gives the user one row for the key, and every other row stays. -/
theorem mem_countUp_iff (hkeys : (rows.map fun s => (s.userId, s.key)).Nodup) {s : Score} :
    s ∈ countUp user key rows ↔
      s = ⟨user, key, nextScore rows user key⟩ ∨ s ∈ rows ∧ ¬(s.userId = user ∧ s.key = key) := by
  cases hfound : score? rows user key with
  | none =>
    have hadded : countUp user key rows = rows ++ [⟨user, key, nextScore rows user key⟩] := by
      simp [countUp, hfound, nextScore_of_none hfound]
    rw [hadded, List.mem_append, List.mem_singleton, or_comm]
    exact or_congr_right (iff_self_and.mpr (score?_eq_none hfound s))
  | some found =>
    obtain ⟨hmem, rfl, rfl⟩ := score?_eq_some hfound
    have hnext : { found with score := min (found.score + 1) scoreLimit } =
        (⟨found.userId, found.key, nextScore rows found.userId found.key⟩ : Score) := by
      rw [nextScore_of_some hfound]
    rw [countUp, hfound, if_pos Option.isSome_some, ← hnext,
      mem_map_at (f := fun s => { s with score := min (s.score + 1) scoreLimit }) (by simp) hmem hkeys]
    simp

/-- Counting up leaves the user's scores for other keys. -/
theorem scoreOf_countUp_of_ne {key' : String} (hne : key' ≠ key) :
    scoreOf (countUp user key rows) user key' = scoreOf rows user key' := by
  have hsame : score? (countUp user key rows) user key' = score? rows user key' := by
    unfold countUp
    split
    · refine score?_map_of_ne (fun s => ?_) fun s hkey => ?_
      · split <;> exact ⟨rfl, rfl⟩
      · simp [hkey, hne]
    · rw [score?, List.find?_append, ← score?]
      simp [hne.symm]
  rw [scoreOf, hsame, scoreOf]

/-- Counting up for one user leaves the rows of another. -/
theorem rowsOf_countUp_of_ne {user' : String} (hne : user' ≠ user) :
    rowsOf (countUp user key rows) user' = rowsOf rows user' := by
  unfold countUp
  split
  · refine rowsOf_map (fun s => ?_) fun s huser => ?_
    · split <;> rfl
    · simp [huser, hne]
  · simp [rowsOf, List.filter_append, hne.symm]

theorem PositiveScores.countUp (h : PositiveScores rows) (user key : String) : PositiveScores (countUp user key rows) := by
  intro s hs
  unfold VideoShare.countUp at hs
  split at hs
  · obtain ⟨s₀, hs₀, rfl⟩ := List.mem_map.mp hs
    have hpos := h s₀ hs₀
    split
    · simp only [scoreLimit]
      omega
    · exact hpos
  · rcases List.mem_append.mp hs with hs | hs
    · exact h s hs
    · rw [List.mem_singleton.mp hs]
      exact Int.one_pos

/-! ## Setting a score -/

/-- A score that is set is the new one, and zero where that is less. Where there is no row, only zero can be set. -/
theorem scoreOf_setScore_self {n : Int} (hrow : scoreOf rows user key = 0 → n ≤ 0) :
    scoreOf (setScore user key n rows) user key = max 0 n := by
  unfold setScore
  split
  · rename_i hn
    rw [scoreOf_of_none, Int.max_eq_left hn]
    refine List.find?_eq_none.mpr fun s hs hfound => ?_
    have hgone := (List.mem_filter.mp hs).2
    rw [hfound] at hgone
    nomatch hgone
  · rename_i hn
    cases hfound : score? rows user key with
    | none => exact absurd (hrow (scoreOf_of_none hfound)) hn
    | some s =>
      obtain ⟨-, huser, hkey⟩ := score?_eq_some hfound
      rw [scoreOf, score?_map, hfound]
      · simp only [huser, hkey, beq_self_eq_true, Bool.and_self, if_true, Option.map_some, Option.getD_some]
        omega
      · intro s
        split <;> exact ⟨rfl, rfl⟩

/-- Where there is no row, none is removed. -/
theorem setScore_of_none (h : score? rows user key = none) : setScore user key 0 rows = rows := by
  refine List.filter_eq_self.mpr fun s hs => ?_
  simpa using not_and_or.mp (score?_eq_none h s hs)

/-- Setting the score that a row has changes nothing. -/
theorem setScore_of_some (hkeys : (rows.map fun s => (s.userId, s.key)).Nodup) {s : Score} (h : score? rows user key = some s)
    (hpos : ¬s.score ≤ 0) : setScore user key s.score rows = rows := by
  obtain ⟨hs, rfl, rfl⟩ := score?_eq_some h
  rw [setScore, if_neg hpos]
  refine (List.map_congr_left fun s' hs' => ?_).trans (List.map_id _)
  split
  · rename_i hfound
    have hsame : s' = s := List.inj_on_of_nodup_map hkeys hs' hs (by simpa using hfound)
    rw [hsame]
    rfl
  · rfl

/-- Setting a score leaves the user's scores for other keys. -/
theorem scoreOf_setScore_of_ne {key' : String} {n : Int} (hne : key' ≠ key) :
    scoreOf (setScore user key n rows) user key' = scoreOf rows user key' := by
  have hsame : score? (setScore user key n rows) user key' = score? rows user key' := by
    unfold setScore
    split
    · exact score?_filter_of_ne fun s hkey => by simp [hkey, hne]
    · refine score?_map_of_ne (fun s => ?_) fun s hkey => ?_
      · split <;> exact ⟨rfl, rfl⟩
      · simp [hkey, hne]
  rw [scoreOf, hsame, scoreOf]

/-- Setting a score of one user leaves the rows of another. -/
theorem rowsOf_setScore_of_ne {user' : String} {n : Int} (hne : user' ≠ user) :
    rowsOf (setScore user key n rows) user' = rowsOf rows user' := by
  unfold setScore
  split
  · exact rowsOf_filter fun s huser => by simp [huser, hne]
  · refine rowsOf_map (fun s => ?_) fun s huser => ?_
    · split <;> rfl
    · simp [huser, hne]

theorem PositiveScores.filter (h : PositiveScores rows) (p : Score → Bool) : PositiveScores (rows.filter p) :=
  fun s hs => h s (List.mem_filter.mp hs).1

theorem PositiveScores.setScore (h : PositiveScores rows) (user key : String) (n : Int) :
    PositiveScores (setScore user key n rows) := by
  unfold VideoShare.setScore
  split
  · exact h.filter _
  · rename_i hn
    intro s hs
    obtain ⟨s₀, hs₀, rfl⟩ := List.mem_map.mp hs
    split
    · exact Int.not_le.mp hn
    · exact h s₀ hs₀

end

end Database

/-! ## Decay -/

/-- A quantity that is a number and not infinite. -/
def Number.Quantity.IsFinite : Quantity → Prop
  | .whole _ => True
  | .real x => ∃ negative m e, x = .finite negative m e

/-- A score of nothing scales to nothing. -/
theorem scaleScore_zero {f : Quantity} (hf : f.IsFinite) : scaleScore 0 f = .ok 0 := by
  cases f with
  | whole n => simp [scaleScore, scoreLimit]
  | real x =>
    obtain ⟨negative, m, e, rfl⟩ := hf
    simp [scaleScore, scaleByReal, Binary64.ofInt, Binary64.ofRatio, Binary64.mul, Binary64.ofDyadic, Number.shiftUp,
      Binary64.floorDyadic]

/-- What a decay does that has an answer: it sets the score to the scaled one, also where there was no score to scale and where the
score is the same as before. -/
theorem Database.decayCategory_eq_ok {db db' : Database} {user category : String} {f : Quantity} {answer : Option Int}
    (hkeyed : db.Keyed) (hf : f.IsFinite) (h : db.decayCategory user category f = .ok (answer, db')) :
    ∃ n, scaleScore (scoreOf db.categoryScores user category) f = .ok n ∧
      db' = { db with categoryScores := setScore user category n db.categoryScores } := by
  unfold decayCategory at h
  cases hfound : score? db.categoryScores user category with
  | none =>
    simp only [hfound, Except.ok.injEq, Prod.mk.injEq] at h
    exact ⟨0, by rw [scoreOf_of_none hfound, scaleScore_zero hf], by rw [setScore_of_none hfound, h.2]⟩
  | some row =>
    rw [scoreOf_of_some hfound]
    simp only [hfound] at h
    cases hscaled : scaleScore row.score f with
    | error e => simp [hscaled] at h
    | ok n =>
      refine ⟨n, rfl, ?_⟩
      simp only [hscaled] at h
      split at h
      · exact (congrArg Prod.snd (Except.ok.inj h)).symm
      · split at h
        · rename_i hn hsame
          rw [hsame, setScore_of_some hkeyed.categoryScores hfound (hsame ▸ hn)]
          exact (congrArg Prod.snd (Except.ok.inj h)).symm
        · split at h
          · exact (congrArg Prod.snd (Except.ok.inj h)).symm
          · nomatch h

end VideoShare
