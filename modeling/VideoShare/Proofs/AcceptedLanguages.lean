import VideoShare.Language
import VideoShare.Proofs.NumberOrder
import VideoShare.Proofs.StableSorting
import VideoShare.Proofs.Trimming

/-!
# The languages of a header

A header of accepted languages is a list of entries, each with a code and a weight. A code may stand in many of them, with different
regions and weights, and counts with the best one: the heaviest, and of several as heavy the first. The languages of the header are the
codes of the accepted entries, each once, in the order of their best ones (`ListsAccepted`), and there is one such list.

The entries are sorted with their places beside them, so that no two are tied; what is left of each code is then that of its first row,
which is its best one (`pairwise_eraseDups_map`).
-/

namespace VideoShare

/-! ## The first rows of each key -/

section Leaders

variable {α κ : Type} {R : α → α → Prop} {k : α → κ} {l : List α}

/-- A row that stands before all others of its key. -/
structure Leads (R : α → α → Prop) (k : α → κ) (l : List α) (x : α) : Prop where
  mem : x ∈ l
  before : ∀ y ∈ l, k y = k x → y = x ∨ R x y

/-- Among rows that stand in order each key has a row that leads. -/
theorem exists_leads (h : l.Pairwise R) {a : κ} (ha : a ∈ l.map k) : ∃ x, Leads R k l x ∧ k x = a := by
  induction l with
  | nil => simp at ha
  | cons x₀ rest ih =>
    obtain ⟨hfirst, hrest⟩ := List.pairwise_cons.mp h
    by_cases hx₀ : k x₀ = a
    · refine ⟨x₀, ⟨List.mem_cons_self, fun y hy _ => ?_⟩, hx₀⟩
      exact (List.mem_cons.mp hy).imp id (hfirst y)
    · rw [List.map_cons, List.mem_cons] at ha
      obtain ⟨x, hx, rfl⟩ := ih hrest (ha.resolve_left fun heq => hx₀ heq.symm)
      refine ⟨x, ⟨List.mem_cons_of_mem _ hx.mem, fun y hy hkey => ?_⟩, rfl⟩
      rcases List.mem_cons.mp hy with rfl | hy
      · exact absurd hkey hx₀
      · exact hx.before y hy hkey

variable [BEq κ] [LawfulBEq κ]

/-- A row that leads among those of other keys leads among all. -/
theorem Leads.of_others {x x₀ : α} (h : Leads R k (l.filter fun y => !k y == k x₀) x) : Leads R k (x₀ :: l) x := by
  obtain ⟨hx, hne⟩ := List.mem_filter.mp h.mem
  have hkey : k x ≠ k x₀ := by simpa using hne
  refine ⟨List.mem_cons_of_mem _ hx, fun y hy hsame => ?_⟩
  rcases List.mem_cons.mp hy with rfl | hy
  · exact absurd hsame.symm hkey
  · refine h.before y (List.mem_filter.mpr ⟨hy, ?_⟩) hsame
    simpa [hsame] using hkey

/-- The keys of rows that stand in order, each once, are in the order of the rows that lead. -/
theorem pairwise_eraseDups_map (h : l.Pairwise R) :
    (l.map k).eraseDups.Pairwise fun a b => ∃ x y, Leads R k l x ∧ Leads R k l y ∧ k x = a ∧ k y = b ∧ R x y := by
  induction hn : l.length using Nat.strongRecOn generalizing l with
  | ind n ih =>
    cases l with
    | nil => exact List.Pairwise.nil
    | cons x₀ rest =>
      obtain ⟨hfirst, hrest⟩ := List.pairwise_cons.mp h
      have hothers : (rest.filter fun y => !k y == k x₀).Pairwise R := hrest.filter _
      have hshorter : (rest.filter fun y => !k y == k x₀).length < n := by
        have := List.length_filter_le (fun y => !k y == k x₀) rest
        rw [← hn, List.length_cons]
        omega
      have hmap : (rest.map k).filter (fun b => !b == k x₀) = (rest.filter fun y => !k y == k x₀).map k := List.filter_map
      rw [List.map_cons, List.eraseDups_cons, hmap, List.pairwise_cons]
      refine ⟨fun b hb => ?_, (ih _ hshorter hothers rfl).imp ?_⟩
      · obtain ⟨y, hy, rfl⟩ := exists_leads hothers (List.mem_eraseDups.mp hb)
        have hleads : Leads R k (x₀ :: rest) x₀ :=
          ⟨List.mem_cons_self, fun z hz _ => (List.mem_cons.mp hz).imp id (hfirst z)⟩
        exact ⟨x₀, y, hleads, hy.of_others, rfl, rfl, hfirst y (List.mem_filter.mp hy.mem).1⟩
      · rintro a b ⟨x, y, hx, hy, hax, hby, hxy⟩
        exact ⟨x, y, hx.of_others, hy.of_others, hax, hby, hxy⟩

end Leaders

open Number (Binary64)
open Text

/-! ## Entries -/

/-- The code of an entry: what stands before its first semicolon and its first hyphen, trimmed and in lower case. -/
def entryCode (entry : List Char) : String := lower (trim (String.ofList (beforeFirst '-' (beforeFirst ';' entry))))

/-- The weight of an entry: one unless what stands after its first semicolon gives another. -/
def entryWeight (entry : List Char) : Binary64 :=
  let parameters := trimBoth isBlank (afterFirst ';' entry)
  if ['q', '='].isPrefixOf parameters then (Number.realOfList? (parameters.drop 2)).getD .zero else .one

/-- An entry of a header names a code with a weight, and is accepted. -/
structure Names (header : String) (place : Nat) (code : String) (weight : Binary64) : Prop where
  entry : ∃ entry, (splitAt ',' header.toList)[place]? = some entry ∧ entryCode entry = code ∧ entryWeight entry = weight
  notEmpty : code ≠ ""
  notAny : code ≠ "*"
  positive : 0 < weight.value

/-- Whether a weight at a place comes before another weight at another place: it is higher, or it is as high and at the earlier place. -/
def Precedes (v : Binary64) (i : Nat) (w : Binary64) (j : Nat) : Prop := w.value < v.value ∨ w.value = v.value ∧ i < j

/-- The best entry of a code: the first of those that name it with the highest weight. -/
structure Best (header code : String) (place : Nat) (weight : Binary64) : Prop where
  names : Names header place code weight
  precedes : ∀ j w, Names header j code w → j ≠ place → Precedes weight place w j

/-- The codes that the entries of a header name, each once, in the order of their best entries. -/
structure ListsAccepted (header : String) (codes : List String) : Prop where
  nodup : codes.Nodup
  mem : ∀ code, code ∈ codes ↔ ∃ place weight, Names header place code weight
  ordered : codes.Pairwise fun a b => ∃ i v j w, Best header a i v ∧ Best header b j w ∧ Precedes v i w j

/-! ### There is one such list -/

section Unique

variable {header code : String} {i j : Nat} {v w : Binary64}

theorem Precedes.asymm (h : Precedes v i w j) : ¬Precedes w j v i := by
  rintro (hlt | ⟨heq, hji⟩)
  · rcases h with hlt' | ⟨heq', -⟩
    · exact lt_asymm hlt hlt'
    · exact hlt.ne heq'.symm
  · rcases h with hlt' | ⟨-, hij⟩
    · exact hlt'.ne heq.symm
    · omega

/-- A code has one best entry. -/
theorem Best.unique (h : Best header code i v) (h' : Best header code j w) : i = j ∧ v = w := by
  have hplace : i = j := by
    by_contra hne
    exact (h.precedes j w h'.names (Ne.symm hne)).asymm (h'.precedes i v h.names hne)
  subst hplace
  obtain ⟨entry, hentry, -, hv⟩ := h.names.entry
  obtain ⟨entry', hentry', -, hw⟩ := h'.names.entry
  obtain rfl : entry = entry' := Option.some.inj (hentry.symm.trans hentry')
  exact ⟨rfl, hv.symm.trans hw⟩

theorem ListsAccepted.unique {codes codes' : List String} (h : ListsAccepted header codes) (h' : ListsAccepted header codes') :
    codes = codes' := by
  have hperm : codes.Perm codes' := (List.perm_ext_iff_of_nodup h.nodup h'.nodup).mpr fun code => by rw [h.mem, h'.mem]
  refine List.Perm.eq_of_pairwise ?_ h.ordered h'.ordered hperm
  rintro a b - - ⟨i, v, j, w, ha, hb, hab⟩ ⟨j', w', i', v', hb', ha', hba⟩
  obtain ⟨rfl, rfl⟩ := ha.unique ha'
  obtain ⟨rfl, rfl⟩ := hb.unique hb'
  exact absurd hba hab.asymm

end Unique

/-! ## Reading and sorting the entries -/

/-- An entry is trimmed before it is read, which does not matter to what is read. -/
theorem readEntry_eq (entry : List Char) : readEntry entry = ⟨entryCode entry, entryWeight entry⟩ := by
  have hpadded : Padded isBlank (trimBoth isBlank entry) entry := padded_trimBoth isBlank entry
  have hcode := ((hpadded.beforeFirst (d := ';') (by decide)).beforeFirst (d := '-') (by decide)).trimBoth_eq
  have hweight := (hpadded.afterFirst (d := ';') (by decide)).trimBoth_eq
  simp only [readEntry, readWeight, entryCode, entryWeight, trim, String.toList_ofList, hcode, hweight,
    LanguageEntry.mk.injEq, true_and]
  split
  · rename_i number hparameters
    rw [hparameters]
    rfl
  · rename_i hother
    rw [if_neg]
    intro hprefix
    obtain ⟨number, hnumber⟩ := List.isPrefixOf_iff_prefix.mp hprefix
    exact hother number hnumber.symm

/-- The accepted entries of a header, each with its place. -/
def placedEntries (header : String) : List (LanguageEntry × Nat) :=
  ((splitAt ',' header.toList).map readEntry).zipIdx.filter (·.1.isAccepted)

/-- Whether the weight of the first of two entries is at least that of the second. -/
def isHeavier (a b : LanguageEntry × Nat) : Bool := decide (b.1.weight.value ≤ a.1.weight.value)

theorem isHeavier_iff {a b : LanguageEntry × Nat} : isHeavier a b = true ↔ b.1.weight.value ≤ a.1.weight.value := decide_eq_true_iff

theorem isHeavier_trans (a b c : LanguageEntry × Nat) (hab : isHeavier a b = true) (hbc : isHeavier b c = true) :
    isHeavier a c = true := by
  rw [isHeavier_iff] at *
  exact hbc.trans hab

theorem isHeavier_total (a b : LanguageEntry × Nat) : (isHeavier a b || isHeavier b a) = true := by
  rw [Bool.or_eq_true, isHeavier_iff, isHeavier_iff]
  exact le_total _ _

theorem map_fst_placedEntries (header : String) : (placedEntries header).map (·.1) = acceptedEntries header := by
  rw [placedEntries, acceptedEntries, ← List.zipIdx_map_fst 0 ((splitAt ',' header.toList).map readEntry), List.filter_map,
    List.zipIdx_map_fst]
  rfl

/-- The entries stand in the sequence of their places. -/
theorem pairwise_placedEntries (header : String) : (placedEntries header).Pairwise fun a b => a.2 < b.2 := by
  refine List.Pairwise.filter _ (List.pairwise_map.mp ?_)
  rw [List.zipIdx_map_snd]
  exact List.pairwise_lt_range'

/-- The sorted entries stand in the order of their weights and places. -/
theorem pairwise_sorted_placedEntries (header : String) :
    ((placedEntries header).mergeSort isHeavier).Pairwise fun a b => Precedes a.1.weight a.2 b.1.weight b.2 := by
  refine (pairwise_mergeSort_of_tied isHeavier_trans isHeavier_total (pairwise_placedEntries header)).imp ?_
  rintro a b ⟨hab, htied⟩
  rw [isHeavier_iff] at hab
  rcases hab.lt_or_eq with hlt | heq
  · exact Or.inl hlt
  · exact Or.inr ⟨heq, htied (isHeavier_iff.mpr heq.ge)⟩

section Numbers

variable {header : String} (hnumbers : ∀ entry ∈ splitAt ',' header.toList, entryWeight entry ≠ .nan)

include hnumbers

/-- Where every weight is a number an entry is accepted for naming a language with a positive weight. -/
theorem mem_placedEntries {x : LanguageEntry × Nat} :
    x ∈ placedEntries header ↔ Names header x.2 x.1.code x.1.weight := by
  obtain ⟨⟨code, weight⟩, place⟩ := x
  have haccepted : ∀ weight ≠ Binary64.nan, isRefusedWeight weight = false ↔ 0 < weight.value := by
    intro weight hweight
    have hlt := Binary64.lt_iff (a := .zero) (b := weight) (by simp [Binary64.zero]) hweight
    rw [Binary64.value_zero] at hlt
    rw [← hlt]
    cases weight with
    | nan => exact absurd rfl hweight
    | infinite s => simp [isRefusedWeight]
    | finite s m e => simp [isRefusedWeight]
  simp only [placedEntries, List.mem_filter, List.mem_zipIdx_iff_getElem?, List.getElem?_map, Option.map_eq_some_iff,
    readEntry_eq, LanguageEntry.mk.injEq, LanguageEntry.isAccepted, Bool.and_eq_true, bne_iff_ne, Bool.not_eq_true']
  constructor
  · rintro ⟨⟨entry, hentry, rfl, rfl⟩, ⟨hempty, hany⟩, hrefused⟩
    have hnumber := hnumbers entry (List.mem_of_getElem? hentry)
    exact ⟨⟨entry, hentry, rfl, rfl⟩, hempty, hany, (haccepted _ hnumber).mp hrefused⟩
  · rintro ⟨⟨entry, hentry, rfl, rfl⟩, hempty, hany, hpositive⟩
    have hnumber := hnumbers entry (List.mem_of_getElem? hentry)
    exact ⟨⟨entry, hentry, rfl, rfl⟩, ⟨hempty, hany⟩, (haccepted _ hnumber).mpr hpositive⟩

theorem weight_ne_nan {x : LanguageEntry × Nat} (hx : x ∈ placedEntries header) : x.1.weight ≠ .nan := by
  obtain ⟨entry, hentry, -, hweight⟩ := ((mem_placedEntries hnumbers).mp hx).entry
  exact hweight ▸ hnumbers entry (List.mem_of_getElem? hentry)

/-- The accepted entries in their order are the entries with their places, sorted by weight. -/
theorem orderEntries_acceptedEntries :
    orderEntries (acceptedEntries header) = ((placedEntries header).mergeSort isHeavier).map (·.1) := by
  have hnumber : ((placedEntries header).map (·.1)).any (·.weight.isNan) = false := by
    rw [List.any_eq_false]
    intro e he
    obtain ⟨x, hx, rfl⟩ := List.mem_map.mp he
    have := weight_ne_nan hnumbers hx
    cases hweight : x.1.weight <;> simp_all [Binary64.isNan]
  rw [orderEntries, ← map_fst_placedEntries, hnumber, if_neg Bool.false_ne_true]
  refine (List.map_mergeSort fun a ha b hb => ?_).symm
  rw [Bool.eq_iff_iff, isHeavier_iff, Bool.not_eq_true', ← Bool.not_eq_true,
    Binary64.lt_iff (weight_ne_nan hnumbers ha) (weight_ne_nan hnumbers hb), not_lt]

/-- The entry that leads among those of its code is the best one. -/
theorem Leads.best {x : LanguageEntry × Nat}
    (h : Leads (fun a b => Precedes a.1.weight a.2 b.1.weight b.2) (·.1.code) ((placedEntries header).mergeSort isHeavier) x) :
    Best header x.1.code x.2 x.1.weight where
  names := (mem_placedEntries hnumbers).mp (List.mem_mergeSort.mp h.mem)
  precedes j w hnames hne := by
    have hmem : (⟨⟨x.1.code, w⟩, j⟩ : LanguageEntry × Nat) ∈ (placedEntries header).mergeSort isHeavier :=
      List.mem_mergeSort.mpr ((mem_placedEntries hnumbers).mpr hnames)
    exact (h.before _ hmem rfl).resolve_left fun heq => hne (congrArg Prod.snd heq)

theorem listsAccepted_acceptedLanguages : ListsAccepted header (acceptedLanguages header) := by
  have hcodes : acceptedLanguages header =
      (((placedEntries header).mergeSort isHeavier).map (·.1.code)).eraseDups := by
    rw [acceptedLanguages, orderEntries_acceptedEntries hnumbers, List.map_map]
    rfl
  rw [hcodes]
  have hordered : (((placedEntries header).mergeSort isHeavier).map (·.1.code)).eraseDups.Pairwise fun a b =>
      ∃ i v j w, Best header a i v ∧ Best header b j w ∧ Precedes v i w j := by
    refine (pairwise_eraseDups_map (pairwise_sorted_placedEntries header)).imp ?_
    rintro a b ⟨x, y, hx, hy, rfl, rfl, hxy⟩
    exact ⟨x.2, x.1.weight, y.2, y.1.weight, hx.best hnumbers, hy.best hnumbers, hxy⟩
  refine ⟨hordered.imp ?_, fun code => ?_, hordered⟩
  · -- no code comes before itself
    rintro a b ⟨i, v, j, w, ha, ha', hprecedes⟩ rfl
    obtain ⟨rfl, rfl⟩ := ha.unique ha'
    exact hprecedes.asymm hprecedes
  · rw [List.mem_eraseDups, List.mem_map]
    constructor
    · rintro ⟨x, hx, rfl⟩
      exact ⟨x.2, x.1.weight, (mem_placedEntries hnumbers).mp (List.mem_mergeSort.mp hx)⟩
    · rintro ⟨place, weight, hnames⟩
      exact ⟨⟨⟨code, weight⟩, place⟩, List.mem_mergeSort.mpr ((mem_placedEntries hnumbers).mpr hnames), rfl⟩

end Numbers

/-- Where every weight of a header is a number, and no languages are listed beside it, the languages of the request are the codes that
the accepted entries name, each once, in the order of their best entries; and no other list is. -/
theorem languages_by_best_entry (list header : Option String) (hlist : list.getD "" = "")
    (hnumbers : ∀ entry ∈ splitAt ',' (header.getD "").toList, entryWeight entry ≠ .nan) (codes : List String) :
    ListsAccepted (header.getD "") codes ↔ codes = requestedLanguages list header := by
  have hrequest : requestedLanguages list header = acceptedLanguages (header.getD "") := by
    cases list with
    | none => rfl
    | some l => exact if_pos hlist
  rw [hrequest]
  constructor
  · exact fun h => h.unique (listsAccepted_acceptedLanguages hnumbers)
  · rintro rfl
    exact listsAccepted_acceptedLanguages hnumbers

/-! ### A language with two regions -/

namespace TwoRegions

def header : String := "ko-KR;q=0.5, en;q=0.8,ko ;q=0.9,de;q=0"

/-- Korean comes first, for the better one of its two entries, and German is not accepted. -/
theorem korean_then_english :
    requestedLanguages none (some header) = ["ko", "en"] ∧ ListsAccepted header ["ko", "en"] := by
  have hentries : acceptedEntries header = [⟨"ko", .finite false 4503599627370496 (-53)⟩,
      ⟨"en", .finite false 7205759403792794 (-53)⟩, ⟨"ko", .finite false 8106479329266893 (-53)⟩] := by decide
  have hordered : orderEntries (acceptedEntries header) = [⟨"ko", .finite false 8106479329266893 (-53)⟩,
      ⟨"en", .finite false 7205759403792794 (-53)⟩, ⟨"ko", .finite false 4503599627370496 (-53)⟩] := by
    rw [hentries]
    simp [orderEntries, Binary64.isNan, Binary64.lt, Binary64.scaled, Number.shiftUp, List.mergeSort,
      List.MergeSort.Internal.splitInTwo, List.splitAt, List.splitAt.go]
  have hlanguages : requestedLanguages none (some header) = ["ko", "en"] := by
    rw [requestedLanguages, Option.getD_some, acceptedLanguages, hordered]
    decide
  refine ⟨hlanguages, (languages_by_best_entry none (some header) rfl ?_ ["ko", "en"]).mpr hlanguages.symm⟩
  decide

end TwoRegions

end VideoShare
