import VideoShare.Http.FormText
import VideoShare.Proofs.Pieces

/-!
# Text in ASCII

A text in ASCII has one byte for each character, and without percent signs it stands for itself (`percentDecode_of_ascii`). A plain
character is an ASCII character that neither cuts a body nor stands for another one, so a pair of plain characters is read from a body
as it is written (`readBody_of_plain`).
-/

namespace VideoShare

namespace Text

section Ascii

variable {c : Char} {cs : List Char}

/-- A letter of ASCII is a character of ASCII. -/
theorem toNat_of_isAlpha (h : c.isAlpha = true) : c.toNat < 128 := by
  rcases (Bool.or_eq_true _ _).mp h with h | h
  · exact Nat.lt_of_le_of_lt (UInt32.le_iff_toNat_le.mp (of_decide_eq_true h).2) (by decide)
  · exact Nat.lt_of_le_of_lt (UInt32.le_iff_toNat_le.mp (of_decide_eq_true ((Bool.and_eq_true _ _).mp h).2)) (by decide)

/-- A text in ASCII has one byte for each character. -/
theorem utf8Bytes_of_ascii (h : ∀ c ∈ cs, c.toNat < 128) : utf8Bytes cs = cs.map Char.toNat := by
  induction cs with
  | nil => rfl
  | cons c cs ih =>
    obtain ⟨hc, hcs⟩ := List.forall_mem_cons.mp h
    have hbyte : (String.utf8EncodeChar c).map UInt8.toNat = [c.toNat] := by
      have hval : c.val.toNat ≤ 127 := by rw [Char.toNat_val]; omega
      rw [String.utf8EncodeChar]
      simp only [hval, if_true, List.map_cons, List.map_nil, UInt8.toNat_ofNat', List.cons.injEq, and_true]
      rw [Char.toNat_val]
      omega
    rw [utf8Bytes, List.flatMap_cons, hbyte, List.singleton_append, List.map_cons, ← utf8Bytes, ih hcs]

/-- Bytes of ASCII are read one by one. -/
theorem utf8Text_of_ascii {bs : List Nat} (h : ∀ b ∈ bs, b < 128) : utf8Text bs = bs.map Char.ofNat := by
  rw [utf8Text]
  induction bs with
  | nil => rfl
  | cons b bs ih =>
    obtain ⟨hb, hbs⟩ := List.forall_mem_cons.mp h
    rw [utf8Run, if_neg fun howed => howed.1 rfl, if_pos rfl, if_pos hb, List.nil_append, ih hbs, List.map_cons]

/-- Where there is no percent sign there is no escape. -/
theorem unescapeBytes_of_not_mem (h : '%' ∉ cs) : unescapeBytes cs = utf8Bytes cs := by
  induction cs with
  | nil => rfl
  | cons c cs ih =>
    rw [List.mem_cons, not_or] at h
    rw [unescapeBytes, ih h.2]
    · simp only [utf8Bytes, List.flatMap_cons, List.flatMap_nil, List.append_nil]
    · rintro a b rest rfl -
      exact h.1 rfl

theorem map_ofNat_toNat (cs : List Char) : (cs.map Char.toNat).map Char.ofNat = cs := by
  rw [List.map_map]
  exact (List.map_congr_left fun c _ => Char.ofNat_toNat c).trans (List.map_id cs)

/-- A text in ASCII without percent signs stands for itself. -/
theorem percentDecode_of_ascii {s : String} (hascii : ∀ c ∈ s.toList, c.toNat < 128) (h : '%' ∉ s.toList) : percentDecode s = s := by
  have hbytes : ∀ b ∈ s.toList.map Char.toNat, b < 128 := List.forall_mem_map.mpr hascii
  rw [percentDecode, unescapeBytes_of_not_mem h, utf8Bytes_of_ascii hascii, utf8Text_of_ascii hbytes, map_ofNat_toNat,
    String.ofList_toList]

end Ascii

end Text

namespace Http

open Text

theorem toNat_of_isPlain {c : Char} (h : isPlain c = true) : c.toNat < 128 := by
  have halphanum : c.isAlphanum = (c.isAlpha || c.isDigit) := rfl
  simp only [isPlain, halphanum, Bool.or_eq_true, beq_iff_eq] at h
  rcases h with (((((h | h) | rfl) | rfl) | rfl) | rfl)
  · exact toNat_of_isAlpha h
  · exact Nat.lt_of_le_of_lt (Char.isDigit_iff_toNat.mp h).2 (by decide)
  all_goals decide

theorem not_mem_of_isPlain {d : Char} {cs : List Char} (hd : isPlain d = false) (h : ∀ c ∈ cs, isPlain c = true) : d ∉ cs := by
  intro hmem
  rw [h d hmem] at hd
  nomatch hd

theorem readPairText_of_plain {cs : List Char} (h : ∀ c ∈ cs, isPlain c = true) : readPairText cs = String.ofList cs := by
  have hblanks : cs.map (fun c => if c = '+' then ' ' else c) = cs := by
    refine (List.map_congr_left fun c hc => if_neg ?_).trans (List.map_id cs)
    rintro rfl
    exact not_mem_of_isPlain (by decide) h hc
  rw [readPairText, hblanks]
  refine percentDecode_of_ascii ?_ ?_
  · rw [String.toList_ofList]
    exact fun c hc => toNat_of_isPlain (h c hc)
  · rw [String.toList_ofList]
    exact not_mem_of_isPlain (by decide) h

/-- A pair of plain characters is read from a body as it is written. -/
theorem readBody_of_plain {name value : String} (hname : ∀ c ∈ name.toList, isPlain c = true)
    (hvalue : ∀ c ∈ value.toList, isPlain c = true) : readBody (name ++ "=" ++ value) = [(name, value)] := by
  have hbody : (name ++ "=" ++ value).toList = name.toList ++ '=' :: value.toList := by simp
  have hascii : ∀ c ∈ name.toList ++ '=' :: value.toList, c.toNat < 128 := by
    refine List.forall_mem_append.mpr ⟨fun c hc => toNat_of_isPlain (hname c hc), ?_⟩
    exact List.forall_mem_cons.mpr ⟨by decide, fun c hc => toNat_of_isPlain (hvalue c hc)⟩
  have hcut : '&' ∉ name.toList ++ '=' :: value.toList := by
    rw [List.mem_append, List.mem_cons, not_or, not_or]
    exact ⟨not_mem_of_isPlain (by decide) hname, by decide, not_mem_of_isPlain (by decide) hvalue⟩
  have hequals : ∀ c ∈ name.toList, (c != '=') = true := by
    intro c hc
    rw [bne_iff_ne]
    rintro rfl
    exact not_mem_of_isPlain (by decide) hname hc
  have hbefore : beforeFirst '=' (name.toList ++ '=' :: value.toList) = name.toList := by
    rw [beforeFirst, List.takeWhile_append_of_pos hequals]
    simp
  have hafter : afterFirst '=' (name.toList ++ '=' :: value.toList) = value.toList := by
    rw [afterFirst, List.dropWhile_append_of_pos hequals]
    simp
  rw [readBody, readQuery, String.toList_ofList, hbody, utf8Bytes_of_ascii hascii, map_ofNat_toNat, splitAt_of_not_mem hcut]
  simp [readPair, hbefore, hafter, readPairText_of_plain hname, readPairText_of_plain hvalue]

end Http

end VideoShare
