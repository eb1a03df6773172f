import VideoShare.Proofs.Calls
import VideoShare.Proofs.DecimalText
import VideoShare.Proofs.FeedOrder
import VideoShare.Proofs.LowerCase

/-!
# Names of languages

The language of a new video is stored in lower case, and so is a language that a request lists. A listed language is also trimmed, and
one that is given with a video is not. So a video is found under the name it was given, in whatever case the name is listed, when there
are no blanks around it, and under no name that differs in case only when there are (`given_language_is_found_iff`).
-/

namespace VideoShare

open Text

/-! ## Listing one language -/

section Listed

variable {given listed : String} {header : Option String}

/-- A text without a comma lists one language, unless it is blank. -/
theorem requestedLanguages_of_listed (hcomma : ',' ∉ listed.toList) (hvisible : allBlank listed = false) :
    requestedLanguages (some listed) header = [trim (lower listed)] := by
  have hlisted : listed ≠ "" := by
    rintro rfl
    simp [allBlank] at hvisible
  have hname : lower (trim listed) ≠ "" := by
    rw [Ne, lower_eq_empty_iff, trim_eq_empty_iff, hvisible]
    exact Bool.false_ne_true
  have hpiece : split ',' listed = [listed] := by
    rw [split, splitAt_of_not_mem hcomma, List.map_singleton, String.ofList_toList]
  have hkept : [lower (trim listed)].filter (· != "") = [lower (trim listed)] :=
    List.filter_eq_self.mpr (by simpa using hname)
  rw [requestedLanguages, if_neg hlisted, listedLanguages, hpiece, List.map_singleton, hkept, List.eraseDups_cons,
    List.filter_nil, List.eraseDups_nil, lower_trim]

/-- A text without a comma lists one language in any case. -/
theorem requestedLanguages_of_lower_eq (hcomma : ',' ∉ given.toList) (hvisible : allBlank given = false)
    (hcase : lower listed = lower given) : requestedLanguages (some listed) header = [trim (lower given)] := by
  have hlisted : allBlank listed = false := by
    rw [Bool.eq_false_iff, Ne, ← trim_eq_empty_iff, ← lower_eq_empty_iff, lower_trim, hcase, ← lower_trim, lower_eq_empty_iff,
      trim_eq_empty_iff, hvisible]
    exact Bool.false_ne_true
  have hsame : ',' ∉ listed.toList := by
    have huncased : (',' : Char).toNat ∈ uncasedCodes := List.mem_cons_self
    rwa [← mem_lower_iff huncased, hcase, mem_lower_iff huncased]
  rw [requestedLanguages_of_listed hsame hlisted, hcase]

end Listed

/-! ## The language of a new video -/

namespace Database

variable {db : Database} {row : Video} {since : Instant} {language : String} {excludes ids : List Int} {size : Int}

/-- A new video is answered by the query for a language, asked for as many videos as there are, exactly when the language is its own and
it is not excluded. -/
theorem mem_topByLanguage_addVideo (hid : row.id = db.nextVideoId) (hsize : (db.addVideo row).videos.length ≤ size)
    (h : (db.addVideo row).topByLanguage since language excludes size = .ok ids) :
    row.id ∈ ids ↔ row.language = language ∧ row.id ∉ excludes := by
  have hall : ids = (db.addVideo row).ranking since excludes fun v => v.language == language := by
    rw [eq_take_of_top h]
    refine List.take_of_length_le (Nat.le_trans length_ranking_le ?_)
    omega
  have hthere : ∀ v, v ∈ (db.addVideo row).videos ↔ v ∈ db.videos ∨ v = row := fun v => by
    rw [addVideo, List.mem_append, List.mem_singleton]
  rw [hall, mem_ranking, and_comm]
  refine and_congr_left' ?_
  constructor
  · rintro ⟨v, hv, hlanguage, hsame⟩
    rcases (hthere v).mp hv with hold | rfl
    · exact absurd ⟨v, hold, hsame.trans hid⟩ db.not_hasVideo_nextVideoId
    · exact beq_iff_eq.mp hlanguage
  · rintro rfl
    exact ⟨row, (hthere row).mpr (Or.inr rfl), beq_self_eq_true _, rfl⟩

end Database

/-- A request that lists a text asks for the language of a video and no other, and the query for that language answers the video
wherever it is not excluded and as many are asked for as there are. -/
structure FoundByLanguage (db : Database) (row : Video) (listed : String) (header : Option String) : Prop where
  asksFor : requestedLanguages (some listed) header = [row.language]
  answered : ∀ language ∈ requestedLanguages (some listed) header, ∀ (since : Instant) (excludes : List Int) (size : Int)
    (ids : List Int), row.id ∉ excludes → db.videos.length ≤ size → db.topByLanguage since language excludes size = .ok ids →
    row.id ∈ ids

/-- A video that was made with a language given, which is not blank and has no comma, is found by this language, in whatever case it is
listed, exactly when there are no blanks around it. The language is stored in lower case with the blanks, and listed in lower case
without them, so where there are blanks no query for the language that is listed answers the video. -/
theorem given_language_is_found_iff (s : Settings) (detected : Option String) (owner : String) (data : NewVideo)
    (thumbnail content : String) (w w' : World) (row : Video) (given : String) (hgiven : data.language = some given)
    (hcomma : ',' ∉ given.toList) (hvisible : allBlank given = false)
    (h : Service.createVideo s detected owner data thumbnail content w = (.ok row, w')) :
    row.language = lower given ∧
      ∀ (listed : String) (header : Option String), lower listed = lower given →
        requestedLanguages (some listed) header = [trim row.language] ∧
          (FoundByLanguage w'.db row listed header ↔ trim given = given) ∧
            (trim given ≠ given → ∀ (since : Instant) (excludes : List Int) (size : Int) (ids : List Int),
              w'.db.videos.length ≤ size → w'.db.topByLanguage since (trim row.language) excludes size = .ok ids →
              row.id ∉ ids) := by
  obtain ⟨hrow, hdb⟩ := Call.db_of_createVideo h
  have hlanguage : row.language = lower given := by
    have hne : given ≠ "" := by
      rintro rfl
      simp [allBlank] at hvisible
    rw [hrow, World.newVideo, NewVideo.row, hgiven, languageOfUpload, if_neg hne]
  have hid : row.id = w.db.nextVideoId := by rw [hrow, World.newVideo_id]
  rw [hdb, hlanguage]
  refine ⟨rfl, fun listed header hcase => ?_⟩
  have hlisted : requestedLanguages (some listed) header = [trim (lower given)] :=
    requestedLanguages_of_lower_eq hcomma hvisible hcase
  refine ⟨hlisted, ⟨fun hfound => ?_, fun htrimmed => ⟨?_, ?_⟩⟩, ?_⟩
  · have hone := hfound.asksFor
    rw [hlisted, hlanguage] at hone
    exact trim_lower_eq_iff.mp (List.cons.inj hone).1
  · rw [hlisted, hlanguage, trim_lower_eq_iff.mpr htrimmed]
  · intro language hmem since excludes size ids hkept hsize hanswer
    rw [hlisted, List.mem_singleton, trim_lower_eq_iff.mpr htrimmed] at hmem
    exact (Database.mem_topByLanguage_addVideo hid hsize hanswer).mpr ⟨hlanguage.trans hmem.symm, hkept⟩
  · intro hblanks since excludes size ids hsize hanswer hmem
    have hsame := ((Database.mem_topByLanguage_addVideo hid hsize hanswer).mp hmem).1
    exact hblanks (trim_lower_eq_iff.mp (hsame.symm.trans hlanguage))

/-! ### A language with a blank in front of it -/

namespace BlankInFront

/-- Ann is registered, and everything works. -/
def world : World where
  db := { users := [⟨"ann", "Ann", none, none, "ROLE_USER", 0⟩] }

def clip (language : String) : NewVideo := ⟨"Surf", none, "Sport", some language, 60⟩

def making (language : String) : Except Failure Video × World :=
  Service.createVideo {} none "ann" (clip language) "thumbnail" "content" world

/-- A video in Korean is found by the language as it was given, and by the language in another case. -/
theorem korean_found :
    ∃ row w', making "KO" = (.ok row, w') ∧ row.language = "ko" ∧ FoundByLanguage w'.db row "KO" none ∧
      FoundByLanguage w'.db row "Ko" (some "en") := by
  have hmade : (making "KO").1 = .ok ((clip "KO").row 1 "ann" "ko" 0) := by decide
  have hmaking : making "KO" = (.ok ((clip "KO").row 1 "ann" "ko" 0), (making "KO").2) := Prod.ext hmade rfl
  obtain ⟨hlanguage, hfound⟩ := given_language_is_found_iff {} none "ann" (clip "KO") "thumbnail" "content" world (making "KO").2 _
    "KO" rfl (by decide) (by decide) hmaking
  have htrimmed : trim "KO" = "KO" := by decide
  exact ⟨_, _, hmaking, rfl, (hfound "KO" none rfl).2.1.mpr htrimmed, (hfound "Ko" (some "en") (by decide)).2.1.mpr htrimmed⟩

/-- A video whose language is given with a blank is not found by it. -/
theorem not_foundByLanguage :
    ∃ row w', making " en" = (.ok row, w') ∧ requestedLanguages (some " en") none = ["en"] ∧
      ¬FoundByLanguage w'.db row " en" none := by
  have hmade : (making " en").1 = .ok ((clip " en").row 1 "ann" " en" 0) := by decide
  have hlisted : requestedLanguages (some " en") none = ["en"] := by decide
  refine ⟨_, (making " en").2, Prod.ext hmade rfl, hlisted, fun hfound => ?_⟩
  have hasked := hfound.asksFor
  rw [hlisted] at hasked
  exact absurd hasked (by decide)

end BlankInFront

end VideoShare
