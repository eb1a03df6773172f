import Mathlib.Data.List.TakeWhile
import VideoShare.Text.Blank
import VideoShare.Text.Pieces

/-!
# Blanks around a text

A text may be cut at a separator and trimmed, or trimmed first and then cut: what stands before the separator, and what stands after
it, differ at most by blanks around them (`Padded.beforeFirst`, `Padded.afterFirst`), and so they are the same once they are trimmed
(`Padded.trimBoth_eq`).
-/

namespace VideoShare.Text

/-- A text with characters of a class around it. -/
inductive Padded (p : Char → Bool) (text : List Char) : List Char → Prop where
  | intro (front back : List Char) (hfront : ∀ c ∈ front, p c = true) (hback : ∀ c ∈ back, p c = true) :
    Padded p text (front ++ (text ++ back))

section Padded

variable {p : Char → Bool} {d : Char} {text front back cs : List Char}

theorem padded_front (hfront : ∀ c ∈ front, p c = true) (text : List Char) : Padded p text (front ++ text) := by
  have h : Padded p text (front ++ (text ++ [])) := .intro front [] hfront (List.forall_mem_nil _)
  rwa [List.append_nil] at h

theorem padded_back (hback : ∀ c ∈ back, p c = true) (text : List Char) : Padded p text (text ++ back) :=
  .intro [] back (List.forall_mem_nil _) hback

theorem Padded.refl (p : Char → Bool) (text : List Char) : Padded p text text :=
  have hnone : ∀ c ∈ [], p c = true := List.forall_mem_nil _
  padded_front hnone text

/-- A text is what trimming leaves of it, with what was trimmed off around it. -/
theorem padded_trimBoth (p : Char → Bool) (cs : List Char) : Padded p (trimBoth p cs) cs := by
  have hback : cs.dropWhile p = trimBoth p cs ++ ((cs.dropWhile p).reverse.takeWhile p).reverse := by
    rw [trimBoth, ← List.reverse_append, List.takeWhile_append_dropWhile, List.reverse_reverse]
  have h : Padded p (trimBoth p cs) (cs.takeWhile p ++ (trimBoth p cs ++ ((cs.dropWhile p).reverse.takeWhile p).reverse)) :=
    .intro _ _ (fun _ => List.mem_takeWhile_imp) fun _ hc => List.mem_takeWhile_imp (List.mem_reverse.mp hc)
  rwa [← hback, List.takeWhile_append_dropWhile] at h

/-- What stands around a text does not matter to what trimming leaves. -/
theorem Padded.trimBoth_eq (h : Padded p text cs) : trimBoth p cs = trimBoth p text := by
  obtain ⟨front, back, hfront, hback⟩ := h
  have hnone : back.dropWhile p = [] := List.dropWhile_eq_nil_iff.mpr hback
  rw [trimBoth, List.dropWhile_append_of_pos hfront, List.dropWhile_append, trimBoth]
  cases hrest : text.dropWhile p with
  | nil => rw [List.isEmpty_nil, if_pos rfl, hnone]
  | cons c rest =>
    rw [List.isEmpty_cons, if_neg Bool.false_ne_true, List.reverse_append,
      List.dropWhile_append_of_pos fun c hc => hback c (List.mem_reverse.mp hc)]

theorem length_trimBoth_le (p : Char → Bool) (cs : List Char) : (trimBoth p cs).length ≤ cs.length := by
  rw [trimBoth, List.length_reverse]
  have hback := (List.dropWhile_sublist p (l := (cs.dropWhile p).reverse)).length_le
  have hfront := (List.dropWhile_sublist p (l := cs)).length_le
  rw [List.length_reverse] at hback
  omega

/-- Nothing can be trimmed off a text that has been trimmed. -/
theorem trimBoth_trimBoth (p : Char → Bool) (cs : List Char) : trimBoth p (trimBoth p cs) = trimBoth p cs :=
  (padded_trimBoth p cs).trimBoth_eq.symm

/-- Nothing can be trimmed off a text exactly when neither its first nor its last character is one of those trimmed off. -/
theorem trimBoth_eq_self_iff :
    trimBoth p text = text ↔ (∀ c rest, text = c :: rest → p c = false) ∧ ∀ front c, text = front ++ [c] → p c = false := by
  constructor
  · intro h
    refine ⟨?_, ?_⟩
    · rintro c rest rfl
      by_contra hc
      rw [Bool.not_eq_false] at hc
      have hpadded : Padded p rest ([c] ++ rest) := padded_front (List.forall_mem_singleton.mpr hc) rest
      rw [List.singleton_append] at hpadded
      have hshort := length_trimBoth_le p rest
      rw [← hpadded.trimBoth_eq, h, List.length_cons] at hshort
      omega
    · rintro front c rfl
      by_contra hc
      rw [Bool.not_eq_false] at hc
      have hpadded : Padded p front (front ++ [c]) := padded_back (List.forall_mem_singleton.mpr hc) front
      have hshort := length_trimBoth_le p front
      rw [← hpadded.trimBoth_eq, h, List.length_append, List.length_singleton] at hshort
      omega
  · rintro ⟨hfirst, hlast⟩
    have hkept : ∀ {cs : List Char}, (∀ c rest, cs = c :: rest → p c = false) → cs.dropWhile p = cs := by
      intro cs h
      cases cs with
      | nil => rfl
      | cons c rest => exact List.dropWhile_cons_of_neg (Bool.eq_false_iff.mp (h c rest rfl))
    have hback : ∀ c rest, text.reverse = c :: rest → p c = false := by
      intro c rest h
      refine hlast rest.reverse c ?_
      rw [← List.reverse_reverse text, h, List.reverse_cons]
    rw [trimBoth, hkept hfirst, hkept hback, List.reverse_reverse]

/-- Nothing is trimmed off a text that has none of the characters. -/
theorem trimBoth_of_forall (h : ∀ c ∈ cs, p c = false) : trimBoth p cs = cs := by
  refine trimBoth_eq_self_iff.mpr ⟨?_, ?_⟩
  · rintro c rest rfl
    exact h c List.mem_cons_self
  · rintro front c rfl
    exact h c (List.mem_append_right _ List.mem_cons_self)

/-- All of a text is trimmed off exactly when it has no other characters. -/
theorem trimBoth_eq_nil_iff : trimBoth p cs = [] ↔ ∀ c ∈ cs, p c = true := by
  constructor
  · intro h
    have hpadded := padded_trimBoth p cs
    rw [h] at hpadded
    obtain ⟨front, back, hfront, hback⟩ := hpadded
    exact List.forall_mem_append.mpr ⟨hfront, hback⟩
  · intro h
    rw [trimBoth, List.dropWhile_eq_nil_iff.mpr h]
    rfl

/-- What stands around a text stands around its part before a separator, in front of it at least. -/
theorem Padded.beforeFirst (h : Padded p text cs) (hd : p d = false) : Padded p (beforeFirst d text) (beforeFirst d cs) := by
  obtain ⟨front, back, hfront, hback⟩ := h
  have hother : ∀ c, p c = true → (c != d) = true := fun c hc => bne_iff_ne.mpr fun heq => by simp [heq, hd] at hc
  have hall : back.takeWhile (· != d) = back := List.takeWhile_eq_self_iff.mpr fun c hc => hother c (hback c hc)
  simp only [Text.beforeFirst]
  rw [List.takeWhile_append_of_pos fun c hc => hother c (hfront c hc), List.takeWhile_append, hall]
  split
  · -- the separator is not in the text, nor in what stands behind it
    rename_i hlength
    rw [(List.takeWhile_sublist _).eq_of_length hlength]
    exact .intro front back hfront hback
  · exact padded_front hfront _

/-- What stands around a text stands around its part after a separator, behind it at least. -/
theorem Padded.afterFirst (h : Padded p text cs) (hd : p d = false) : Padded p (afterFirst d text) (afterFirst d cs) := by
  obtain ⟨front, back, hfront, hback⟩ := h
  have hother : ∀ c, p c = true → (c != d) = true := fun c hc => bne_iff_ne.mpr fun heq => by simp [heq, hd] at hc
  have hnone : back.dropWhile (· != d) = [] := List.dropWhile_eq_nil_iff.mpr fun c hc => hother c (hback c hc)
  simp only [Text.afterFirst]
  rw [List.dropWhile_append_of_pos fun c hc => hother c (hfront c hc), List.dropWhile_append]
  cases hrest : text.dropWhile (· != d) with
  | nil =>
    rw [List.isEmpty_nil, if_pos rfl, hnone]
    exact .refl p _
  | cons c rest =>
    rw [List.isEmpty_cons, if_neg Bool.false_ne_true, List.cons_append, List.drop_one, List.drop_one, List.tail_cons,
      List.tail_cons]
    exact padded_back hback _

end Padded

theorem trim_eq_empty_iff {s : String} : trim s = "" ↔ allBlank s = true := by
  rw [← String.toList_eq_nil_iff, trim, String.toList_ofList, trimBoth_eq_nil_iff, allBlank, List.all_eq_true]

end VideoShare.Text
