import Mathlib
import VideoShare.Proofs.AsciiText
import VideoShare.Proofs.Listing

/-!
# Searches by options

A search with several options is the conjunction of the searches with one: it answers when each of these does, and lists the rows
that all of them list. The options are all read before the database is asked, so that an option which cannot be read refuses the
search whatever the values of the others.
-/

namespace VideoShare

/-! ## Reading one after the other -/

section Reading

variable {ε α β : Type} {f : α → Except ε β} {l : List α}

/-- All are read when each of them is. -/
theorem mapM_answers_iff : (∃ bs, l.mapM f = .ok bs) ↔ ∀ a ∈ l, ∃ b, f a = .ok b := by
  induction l with
  | nil => simp [pure, Except.pure]
  | cons a l ih =>
    rw [List.mapM_cons, List.forall_mem_cons, ← ih]
    cases f a with
    | error e => simp [bind, Except.bind]
    | ok b => cases l.mapM f <;> simp [bind, Except.bind, pure, Except.pure]

/-- What was read is what can be read from one of them. -/
theorem mem_of_mapM {bs : List β} (h : l.mapM f = .ok bs) {b : β} : b ∈ bs ↔ ∃ a ∈ l, f a = .ok b := by
  induction l generalizing bs with
  | nil =>
    simp only [List.mapM_nil, pure, Except.pure, Except.ok.injEq] at h
    simp [← h]
  | cons a l ih =>
    rw [List.mapM_cons] at h
    cases ha : f a with
    | error e => simp [ha, bind, Except.bind] at h
    | ok b₀ =>
      cases hl : l.mapM f with
      | error e => simp [ha, hl, bind, Except.bind] at h
      | ok bs₀ =>
        simp only [ha, hl, bind, Except.bind, pure, Except.pure, Except.ok.injEq] at h
        rw [← h, List.mem_cons, ih hl]
        simp [ha, eq_comm]

/-- Reading fails as it does for one of them. -/
theorem error_of_mapM {e : ε} (h : l.mapM f = .error e) : ∃ a ∈ l, f a = .error e := by
  induction l with
  | nil => simp [pure, Except.pure] at h
  | cons a l ih =>
    rw [List.mapM_cons] at h
    cases ha : f a with
    | error e₀ =>
      simp only [ha, bind, Except.bind, Except.error.injEq] at h
      exact ⟨a, List.mem_cons_self, h ▸ ha⟩
    | ok b =>
      cases hl : l.mapM f with
      | error e₀ =>
        simp only [ha, hl, bind, Except.bind, Except.error.injEq] at h
        obtain ⟨a', ha', hfail⟩ := ih (h ▸ hl)
        exact ⟨a', List.mem_cons_of_mem a ha', hfail⟩
      | ok bs => simp [ha, hl, bind, Except.bind, pure, Except.pure] at h

end Reading

/-! ## The letters of options -/

/-- Two options are the same but for the case of letters. -/
def SameLetters (o o' : String) : Prop :=
  Text.upper o = Text.upper o' ∨ o.toList.map Char.toLower = o'.toList.map Char.toLower

/-- Characters that differ in ASCII case have one upper-case form. -/
theorem Text.upperChar_congr {c c' : Char} (h : c.toLower = c'.toLower) : upperChar c = upperChar c' := by
  have halpha : c.isAlpha = c'.isAlpha := by
    rw [← c.isLower_toLower_eq_isAlpha, h, c'.isLower_toLower_eq_isAlpha]
  by_cases hc : c.isAlpha = true
  · have hupper : c.toUpper = c'.toUpper := by rw [← c.toUpper_toLower_eq_toUpper, h, c'.toUpper_toLower_eq_toUpper]
    rw [upperChar, upperChar, if_pos (toNat_of_isAlpha hc), if_pos (toNat_of_isAlpha (halpha ▸ hc)), hupper]
  · have hsame : ∀ d : Char, d.isAlpha ≠ true → d.toLower = d := by
      intro d hd
      refine Char.toLower_eq_of_not_isUpper fun hupper => hd ?_
      rw [Char.isAlpha, hupper, Bool.true_or]
    rw [hsame c hc, hsame c' (halpha ▸ hc)] at h
    rw [h]

theorem SameLetters.upper_eq {o o' : String} (h : SameLetters o o') : Text.upper o = Text.upper o' := by
  rcases h with h | h
  · exact h
  · rw [Text.upper, Text.upper]
    congr 1
    generalize o.toList = cs at h
    generalize o'.toList = cs' at h
    induction cs generalizing cs' with
    | nil => rw [List.map_eq_nil_iff.mp h.symm]
    | cons c cs ih =>
      obtain ⟨c', cs'', rfl, hc, hcs⟩ := List.map_eq_cons_iff.mp h.symm
      rw [List.flatMap_cons, List.flatMap_cons, Text.upperChar_congr hc.symm, ih cs'' hcs.symm]

/-! ## Conjunctions -/

/-- A call is refused for what it was given. -/
def IsIllegal {α : Type} (x : Except Failure α) : Prop := ∃ r : Refusal, x = .error (.refused r) ∧ r.kind = .illegalArgument

/-- Two searches end alike: they answer the same rows, or both are refused, or both hand the database an integer too wide for it. -/
structure EndAlike {α : Type} (x y : Except Failure α) : Prop where
  answers : ∀ a, x = .ok a ↔ y = .ok a
  illegal : IsIllegal x ↔ IsIllegal y
  tooWide : x = .error .integerTooWide ↔ y = .error .integerTooWide

/-- A search by options is the conjunction of the searches with one option each. -/
structure SearchesByConjunction {ρ κ : Type} [LT κ] (find : List String → List String → Except Failure (List ρ)) (id : ρ → κ)
    (table : List ρ) : Prop where
  unpaired : ∀ options values, options.length ≠ values.length → IsIllegal (find options values)
  answers_iff : ∀ options values, options.length = values.length →
    ((∃ rows, find options values = .ok rows) ↔ ∀ p ∈ options.zip values, ∃ rows, find [p.1] [p.2] = .ok rows)
  lists : ∀ options values rows, options.length = values.length → find options values = .ok rows →
    ListsById id table (fun a => ∀ p ∈ options.zip values, ∃ found, find [p.1] [p.2] = .ok found ∧ a ∈ found) rows
  illegal_iff : ∀ options values, options.length = values.length →
    (IsIllegal (find options values) ↔ ∃ p ∈ options.zip values, IsIllegal (find [p.1] [p.2]))
  tooWide_iff : ∀ options values, options.length = values.length →
    (find options values = .error .integerTooWide ↔
      (∀ p ∈ options.zip values, ¬IsIllegal (find [p.1] [p.2])) ∧
        ∃ p ∈ options.zip values, find [p.1] [p.2] = .error .integerTooWide)
  samePairs : ∀ options values options' values', options.length = values.length → options'.length = values'.length →
    (∀ p, p ∈ options.zip values ↔ p ∈ options'.zip values') → EndAlike (find options values) (find options' values')
  sameLetters : ∀ options options' values, List.Forall₂ SameLetters options options' →
    find options values = find options' values

section Searching

variable {γ ρ κ : Type} {ofOption : String → String → Except Refusal γ} {integers : γ → List Int} {rows : List γ → List ρ}
  {options values : List String}

/-- The condition that an option and its value say. -/
def Says (ofOption : String → String → Except Refusal γ) (p : String × String) (c : γ) : Prop :=
  ofOption (Text.upper p.1) p.2 = .ok c

/-- Every integer of a condition fits into a column. -/
def Fits (integers : γ → List Int) (c : γ) : Prop := ∀ n ∈ integers c, fitsColumn n = true

/-- Options that are as many as the values are read one after the other. -/
theorem readConditions_of_paired (h : options.length = values.length) :
    readConditions ofOption options values = (options.zip values).mapM fun p => ofOption (Text.upper p.1) p.2 := by
  rw [readConditions, pairOptions, if_pos h, List.zip_map_left]
  change List.mapM _ _ = _
  rw [List.mapM_map]
  rfl

theorem search_of_unpaired (h : options.length ≠ values.length) :
    search ofOption integers rows options values = .error (.refused .unpairedOptions) := by
  simp [search, readConditions, pairOptions, h, bind, Except.bind]

section Ends

variable (ofOption integers rows)

/-- How a search with as many values as options ends. -/
theorem search_cases (h : options.length = values.length) :
    (∃ p ∈ options.zip values, ∃ r, ofOption (Text.upper p.1) p.2 = .error r ∧
        search ofOption integers rows options values = .error (.refused r)) ∨
      ∃ cs, (∀ p ∈ options.zip values, ∃ c, Says ofOption p c) ∧ (∀ c, c ∈ cs ↔ ∃ p ∈ options.zip values, Says ofOption p c) ∧
        ((∀ c ∈ cs, Fits integers c) ∧ search ofOption integers rows options values = .ok (rows cs) ∨
          (∃ c ∈ cs, ¬Fits integers c) ∧ search ofOption integers rows options values = .error .integerTooWide) := by
  rw [search, readConditions_of_paired h]
  cases hread : (options.zip values).mapM fun p => ofOption (Text.upper p.1) p.2 with
  | error r =>
    obtain ⟨p, hp, hr⟩ := error_of_mapM hread
    exact Or.inl ⟨p, hp, r, hr, rfl⟩
  | ok cs =>
    refine Or.inr ⟨cs, mapM_answers_iff.mp ⟨cs, hread⟩, fun c => mem_of_mapM hread, ?_⟩
    have hall : (cs.flatMap integers).all fitsColumn = true ↔ ∀ c ∈ cs, Fits integers c := by
      simp only [List.all_flatMap, List.all_eq_true, Fits]
    by_cases hfits : ∀ c ∈ cs, Fits integers c
    · refine Or.inl ⟨hfits, ?_⟩
      simp only [checkColumns, if_pos (hall.mpr hfits)]
    · refine Or.inr ⟨by simpa using hfits, ?_⟩
      simp only [checkColumns, if_neg fun h => hfits (hall.mp h)]

/-- A search answers when every option is read and no integer is too wide. -/
theorem search_answers_iff (h : options.length = values.length) :
    (∃ found, search ofOption integers rows options values = .ok found) ↔
      ∀ p ∈ options.zip values, ∃ c, Says ofOption p c ∧ Fits integers c := by
  rcases search_cases ofOption integers rows h with
    ⟨p, hp, r, hr, hsearch⟩ | ⟨cs, hsaid, hmem, ⟨hfits, hsearch⟩ | ⟨⟨c, hc, hwide⟩, hsearch⟩⟩
  · refine iff_of_false (by simp [hsearch]) fun hall => ?_
    obtain ⟨c, hc, -⟩ := hall p hp
    simp [Says, hr] at hc
  · refine iff_of_true ⟨_, hsearch⟩ fun p hp => ?_
    obtain ⟨c, hc⟩ := hsaid p hp
    exact ⟨c, hc, hfits c ((hmem c).mpr ⟨p, hp, hc⟩)⟩
  · refine iff_of_false (by simp [hsearch]) fun hall => ?_
    obtain ⟨p, hp, hc⟩ := (hmem c).mp hc
    obtain ⟨c', hc', hfits⟩ := hall p hp
    obtain rfl : c = c' := Except.ok.inj (hc.symm.trans hc')
    exact hwide hfits

/-- A search is refused when an option is not read, whatever the others. -/
theorem search_illegal_iff (hkind : ∀ o v r, ofOption o v = .error r → r.kind = .illegalArgument)
    (h : options.length = values.length) :
    IsIllegal (search ofOption integers rows options values) ↔
      ∃ p ∈ options.zip values, ∃ r, ofOption (Text.upper p.1) p.2 = .error r := by
  rcases search_cases ofOption integers rows h with
    ⟨p, hp, r, hr, hsearch⟩ | ⟨cs, hsaid, -, ⟨-, hsearch⟩ | ⟨-, hsearch⟩⟩
  · exact iff_of_true ⟨r, hsearch, hkind _ _ r hr⟩ ⟨p, hp, r, hr⟩
  all_goals
    refine iff_of_false (by simp [IsIllegal, hsearch]) ?_
    rintro ⟨p, hp, r, hr⟩
    obtain ⟨c, hc⟩ := hsaid p hp
    simp [Says, hr] at hc

/-- A search hands the database an integer too wide for it when every option is read and one of them says such an integer. -/
theorem search_tooWide_iff (h : options.length = values.length) :
    search ofOption integers rows options values = .error .integerTooWide ↔
      (∀ p ∈ options.zip values, ∃ c, Says ofOption p c) ∧
        ∃ p ∈ options.zip values, ∃ c, Says ofOption p c ∧ ¬Fits integers c := by
  rcases search_cases ofOption integers rows h with
    ⟨p, hp, r, hr, hsearch⟩ | ⟨cs, hsaid, hmem, ⟨hfits, hsearch⟩ | ⟨⟨c, hc, hwide⟩, hsearch⟩⟩
  · refine iff_of_false (by simp [hsearch]) ?_
    rintro ⟨hall, -⟩
    obtain ⟨c, hc⟩ := hall p hp
    simp [Says, hr] at hc
  · refine iff_of_false (by simp [hsearch]) ?_
    rintro ⟨-, p, hp, c, hc, hwide⟩
    exact hwide (hfits c ((hmem c).mpr ⟨p, hp, hc⟩))
  · obtain ⟨p, hp, hc⟩ := (hmem c).mp hc
    exact iff_of_true hsearch ⟨hsaid, p, hp, c, hc, hwide⟩

/-! ### One option alone -/

variable (p : String × String)

/-- An option says something unless it is not read. -/
theorem says_iff : (∃ c, Says ofOption p c) ↔ ¬∃ r, ofOption (Text.upper p.1) p.2 = .error r := by
  cases hread : ofOption (Text.upper p.1) p.2 <;> simp [Says, hread]

theorem alone_answers_iff :
    (∃ found, search ofOption integers rows [p.1] [p.2] = .ok found) ↔ ∃ c, Says ofOption p c ∧ Fits integers c := by
  have hpaired : [p.1].length = [p.2].length := rfl
  simpa using search_answers_iff ofOption integers rows hpaired

theorem alone_illegal_iff (hkind : ∀ o v r, ofOption o v = .error r → r.kind = .illegalArgument) :
    IsIllegal (search ofOption integers rows [p.1] [p.2]) ↔ ∃ r, ofOption (Text.upper p.1) p.2 = .error r := by
  have hpaired : [p.1].length = [p.2].length := rfl
  simpa using search_illegal_iff ofOption integers rows hkind hpaired

theorem alone_tooWide_iff :
    search ofOption integers rows [p.1] [p.2] = .error .integerTooWide ↔ ∃ c, Says ofOption p c ∧ ¬Fits integers c := by
  have hpaired : [p.1].length = [p.2].length := rfl
  rw [search_tooWide_iff ofOption integers rows hpaired]
  simp only [List.zip_cons_cons, List.zip_nil_right, List.mem_singleton, forall_eq, exists_eq_left]
  refine and_iff_right_of_imp ?_
  rintro ⟨c, hc, -⟩
  exact ⟨c, hc⟩

end Ends

section Listing

variable [LinearOrder κ] {id : ρ → κ} {table : List ρ} {holds : γ → ρ → Bool}
  (hrows : ∀ cs, ListsById id table (fun a => ∀ c ∈ cs, holds c a = true) (rows cs))

include hrows

/-- A search that answers lists the rows that meet what every option says. -/
theorem search_lists (h : options.length = values.length) {found : List ρ}
    (hsearch : search ofOption integers rows options values = .ok found) :
    ListsById id table (fun a => ∀ p ∈ options.zip values, ∃ c, Says ofOption p c ∧ holds c a = true) found := by
  rcases search_cases ofOption integers rows h with
    ⟨p, hp, r, hr, hends⟩ | ⟨cs, hsaid, hmem, ⟨-, hends⟩ | ⟨-, hends⟩⟩
  · simp [hends] at hsearch
  · obtain rfl : rows cs = found := Except.ok.inj (hends.symm.trans hsearch)
    refine (hrows cs).congr fun a _ => ?_
    constructor
    · intro hall p hp
      obtain ⟨c, hc⟩ := hsaid p hp
      exact ⟨c, hc, hall c ((hmem c).mpr ⟨p, hp, hc⟩)⟩
    · intro hall c hc
      obtain ⟨p, hp, hc⟩ := (hmem c).mp hc
      obtain ⟨c', hc', hholds⟩ := hall p hp
      obtain rfl : c = c' := Except.ok.inj (hc.symm.trans hc')
      exact hholds
  · simp [hends] at hsearch

/-- The rows that are answered do not depend on the order of the options, nor on how often one is given. -/
theorem search_of_samePairs {options' values' : List String} (h : options.length = values.length)
    (h' : options'.length = values'.length) (hpairs : ∀ p, p ∈ options.zip values ↔ p ∈ options'.zip values') {found : List ρ}
    (hsearch : search ofOption integers rows options values = .ok found) :
    search ofOption integers rows options' values' = .ok found := by
  have hall := (search_answers_iff ofOption integers rows h).mp ⟨found, hsearch⟩
  simp only [hpairs] at hall
  obtain ⟨found', hsearch'⟩ := (search_answers_iff ofOption integers rows h').mpr hall
  have hlists := search_lists hrows h hsearch
  simp only [hpairs] at hlists
  rw [hsearch', hlists.unique (search_lists hrows h' hsearch')]

/-- Every search by options is a conjunction when its conditions select rows, and an option that is not read is an illegal
argument. -/
theorem searchesByConjunction_search (hkind : ∀ o v r, ofOption o v = .error r → r.kind = .illegalArgument) :
    SearchesByConjunction (search ofOption integers rows) id table where
  unpaired options values h := ⟨_, search_of_unpaired h, rfl⟩
  answers_iff options values h := by
    simp only [search_answers_iff ofOption integers rows h, alone_answers_iff]
  lists options values found h hsearch := by
    refine (search_lists hrows h hsearch).congr fun a ha => forall₂_congr fun p hp => ?_
    obtain ⟨c, hc, hfits⟩ := (search_answers_iff ofOption integers rows h).mp ⟨found, hsearch⟩ p hp
    rw [search_single]
    constructor
    · rintro ⟨c', hc', hholds⟩
      obtain rfl : c = c' := Except.ok.inj (hc.symm.trans hc')
      exact ⟨c, hc, hfits, ((hrows [c]).mem a).mpr ⟨ha, List.forall_mem_singleton.mpr hholds⟩⟩
    · rintro ⟨c', hc', -, hmem⟩
      exact ⟨c', hc', ((hrows [c']).mem a).mp hmem |>.2 c' (List.mem_singleton_self c')⟩
  illegal_iff options values h := by
    simp only [search_illegal_iff ofOption integers rows hkind h, alone_illegal_iff ofOption integers rows _ hkind]
  tooWide_iff options values h := by
    simp only [search_tooWide_iff ofOption integers rows h, alone_illegal_iff ofOption integers rows _ hkind, alone_tooWide_iff,
      says_iff]
  samePairs options values options' values' h h' hpairs :=
    { answers := fun found => ⟨search_of_samePairs hrows h h' hpairs, search_of_samePairs hrows h' h fun p => (hpairs p).symm⟩
      illegal := by
        rw [search_illegal_iff ofOption integers rows hkind h, search_illegal_iff ofOption integers rows hkind h']
        simp only [hpairs]
      tooWide := by
        rw [search_tooWide_iff ofOption integers rows h, search_tooWide_iff ofOption integers rows h']
        simp only [hpairs] }
  sameLetters options options' values h := by
    have hupper : options.map Text.upper = options'.map Text.upper := by
      induction h with
      | nil => rfl
      | cons hletters _ ih => rw [List.map_cons, List.map_cons, hletters.upper_eq, ih]
    rw [search, search, readConditions, readConditions, pairOptions, pairOptions, h.length_eq, hupper]

end Listing

end Searching

/-! ## Searches of the tables -/

/-- A range that is not read is an illegal argument. -/
theorem kind_of_map_parseRange {γ : Type} {f : Int × Int → γ} {option value : String} {r : Refusal}
    (h : (parseRange option value).map f = .error r) : r.kind = .illegalArgument := by
  cases hrange : parseRange option value with
  | ok range => simp [hrange, Except.map] at h
  | error r' =>
    simp only [hrange, Except.map, Except.error.injEq] at h
    rw [← h, refusal_of_parseRange hrange]
    rfl

theorem VideoCondition.kind_of_ofOption {option value : String} {r : Refusal} (h : ofOption option value = .error r) :
    r.kind = .illegalArgument := by
  unfold ofOption at h
  split at h
  · nomatch h
  split at h
  · split at h
    · nomatch h
    · rw [← Except.error.inj h]
      rfl
  split at h
  · exact kind_of_map_parseRange h
  split at h
  · exact kind_of_map_parseRange h
  rw [← Except.error.inj h]
  rfl

theorem UserCondition.kind_of_ofOption {option value : String} {r : Refusal} (h : ofOption option value = .error r) :
    r.kind = .illegalArgument := by
  unfold ofOption at h
  split at h
  · nomatch h
  split at h
  · nomatch h
  split at h
  · nomatch h
  split at h
  · exact kind_of_map_parseRange h
  rw [← Except.error.inj h]
  rfl

/-- The searches of the videos and of the users are conjunctions, whatever the options and the values, and change nothing. -/
theorem option_searches_are_conjunctions (w : World) (hkeyed : w.db.Keyed) :
    SearchesByConjunction (fun options values => (Service.findVideos options values w).1) Video.id w.db.videos ∧
      (∀ options values, (Service.findVideos options values w).2 = w) ∧
      SearchesByConjunction (fun options values => (Service.findUsers options values w).1) User.id w.db.users ∧
      ∀ options values, (Service.findUsers options values w).2 = w := by
  refine ⟨?_, fun _ _ => rfl, ?_, fun _ _ => rfl⟩
  · exact searchesByConjunction_search hkeyed.lists_videosMeeting fun _ _ _ => VideoCondition.kind_of_ofOption
  · exact searchesByConjunction_search hkeyed.lists_usersMeeting fun _ _ _ => UserCondition.kind_of_ofOption

/-- What a search of the videos with one option finds. -/
theorem found_alone_iff {option value : String} {w : World} {v : Video} :
    (∃ found, (Service.findVideos [option] [value] w).1 = .ok found ∧ v ∈ found) ↔
      ∃ c, VideoCondition.ofOption (Text.upper option) value = .ok c ∧ (∀ n ∈ c.integers, fitsColumn n = true) ∧
        v ∈ w.db.videos ∧ c.holds w.db v = true := by
  simp only [Service.findVideos_apply, Database.findVideos, search_single, Database.mem_videosMeeting_single]

/-! ### A title and a range of views -/

namespace TitleAndViews

def hills : Video := ⟨1, "ann", "Hills", none, "Travel", "en", 60, 5, 0⟩

def lakes : Video := ⟨2, "ann", "Lakes", none, "Travel", "en", 60, 7, 0⟩

def world : World := { db := { videos := [lakes, hills] } }

/-- The title alone finds one of the videos and the range both, and together they find the one, in whatever case the options are
written. An unknown option refuses a search whose other option hands over an integer too wide for a column. -/
theorem found_by_both :
    world.db.Keyed ∧
      (∃ found, (Service.findVideos ["By_Title", "by_views"] ["hill", "1/9"] world).1 = .ok found ∧ hills ∈ found ∧ lakes ∉ found) ∧
      IsIllegal (Service.findVideos ["BY_VIEWS", "BY_NAME"] ["0/9223372036854775808", "hill"] world).1 := by
  have hkeyed : world.db.Keyed := by constructor <;> decide
  have htitle : VideoCondition.ofOption (Text.upper "By_Title") "hill" = .ok (.titleLike "hill") := by decide
  have hviews : VideoCondition.ofOption (Text.upper "by_views") "1/9" = .ok (.viewsBetween 1 9) := by decide
  have halone : ∀ p ∈ [("By_Title", "hill"), ("by_views", "1/9")],
      ∃ rows, (Service.findVideos [p.1] [p.2] world).1 = .ok rows ∧ hills ∈ rows := by
    intro p hp
    rcases List.mem_cons.mp hp with rfl | hp
    · exact found_alone_iff.mpr ⟨_, htitle, by decide, by decide, by decide⟩
    · obtain rfl := List.mem_singleton.mp hp
      exact found_alone_iff.mpr ⟨_, hviews, by decide, by decide, by decide⟩
  obtain ⟨hvideos, -, -, -⟩ := option_searches_are_conjunctions world hkeyed
  refine ⟨hkeyed, ?_, ?_⟩
  · obtain ⟨found, hfound⟩ := (hvideos.answers_iff ["By_Title", "by_views"] ["hill", "1/9"] rfl).mpr fun p hp => by
      obtain ⟨rows, hrows, -⟩ := halone p hp
      exact ⟨rows, hrows⟩
    have hlists := hvideos.lists ["By_Title", "by_views"] ["hill", "1/9"] found rfl hfound
    refine ⟨found, hfound, (hlists.mem hills).mpr ⟨by decide, halone⟩, fun hlakes => ?_⟩
    obtain ⟨c, hc, -, -, hholds⟩ := found_alone_iff.mp (((hlists.mem lakes).mp hlakes).2 ("By_Title", "hill") (by decide))
    obtain rfl := Except.ok.inj (htitle.symm.trans hc)
    exact absurd hholds (by decide)
  · refine (hvideos.illegal_iff ["BY_VIEWS", "BY_NAME"] ["0/9223372036854775808", "hill"] rfl).mpr ?_
    exact ⟨("BY_NAME", "hill"), by decide, .unknownOption "BY_NAME", by decide, rfl⟩

end TitleAndViews

end VideoShare
