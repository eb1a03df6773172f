import Mathlib
import VideoShare.Proofs.Callers
import VideoShare.Proofs.Listing
import VideoShare.Proofs.LowerCase
import VideoShare.Proofs.PatternMatching

/-!
# Searches by a part of a text

Videos are searched by a part of their title, and users by a part of their name or their e-mail address. The text that is searched
for is taken for a pattern: its percent signs and underscores stand for other characters, and it ends at a null character, where
the text that is found must end too. So a text is searched for literally exactly when it holds none of the three.
-/

namespace VideoShare

/-- A text has a part, in any ASCII case. -/
def HasPart (text part : String) : Prop := part.toList.map Char.toLower <:+: text.toList.map Char.toLower

instance (text part : String) : Decidable (HasPart text part) :=
  inferInstanceAs (Decidable (part.toList.map Char.toLower <:+: text.toList.map Char.toLower))

/-- A text has, before its first null character, a part that matches a pattern, and ends with it where the pattern has a null
character. -/
def HasMatch (text pattern : String) : Prop :=
  ∃ before part after, untilNull text = before ++ (part ++ after) ∧ Matches (untilNull pattern) part ∧
    (Char.ofNat 0 ∈ pattern.toList → after = [])

/-- A text without percent signs, underscores and null characters. -/
structure Plain (s : String) : Prop where
  percent : '%' ∉ s.toList
  underscore : '_' ∉ s.toList
  null : Char.ofNat 0 ∉ s.toList

/-! ## Patterns between two percent signs -/

theorem untilNull_of_not_mem {s : String} (h : Char.ofNat 0 ∉ s.toList) : untilNull s = s.toList := by
  refine List.takeWhile_eq_self_iff.mpr fun c hc => ?_
  simpa using fun heq : c = Char.ofNat 0 => h (heq ▸ hc)

theorem not_mem_untilNull (s : String) : Char.ofNat 0 ∉ untilNull s := by
  intro h
  have := List.mem_takeWhile_imp h
  simp at this

/-- The second percent sign is lost behind a null character. -/
theorem untilNull_enclosed (pattern : String) :
    untilNull ("%" ++ pattern ++ "%") =
      '%' :: (untilNull pattern ++ if Char.ofNat 0 ∈ pattern.toList then [] else ['%']) := by
  have hlist : ("%" ++ pattern ++ "%").toList = '%' :: (pattern.toList ++ ['%']) := by simp [String.toList_append]
  rw [untilNull, hlist, List.takeWhile_cons_of_pos (by decide)]
  congr 1
  split
  · rename_i hnull
    rw [List.append_nil, untilNull, List.takeWhile_append, if_neg]
    intro hlength
    have hall : untilNull pattern = pattern.toList := (List.takeWhile_prefix _).eq_of_length hlength
    exact not_mem_untilNull pattern (hall ▸ hnull)
  · rename_i hnull
    have hall := untilNull_of_not_mem hnull
    rw [hall, List.takeWhile_append_of_pos fun c hc => by simpa using fun heq : c = Char.ofNat 0 => hnull (heq ▸ hc),
      List.takeWhile_cons_of_pos (by decide), List.takeWhile_nil]

/-- What a search for a text finds. -/
theorem holdsPattern_iff {pattern text : String} : holdsPattern pattern text = true ↔ HasMatch text pattern := by
  rw [holdsPattern, matchesPattern_iff, untilNull_enclosed, matches_percent_iff]
  simp only [matches_append_iff]
  by_cases hnull : Char.ofNat 0 ∈ pattern.toList
  · simp only [HasMatch, hnull, if_true, matches_nil_iff, true_imp_iff]
    constructor
    · rintro ⟨before, _, htext, part, after, rfl, hpart, rfl⟩
      exact ⟨before, part, [], htext, hpart, rfl⟩
    · rintro ⟨before, part, after, htext, hpart, rfl⟩
      exact ⟨before, _, htext, part, [], rfl, hpart, rfl⟩
  · simp only [HasMatch, hnull, if_false, false_imp_iff, and_true]
    constructor
    · rintro ⟨before, _, htext, part, after, rfl, hpart, -⟩
      exact ⟨before, part, after, htext, hpart⟩
    · rintro ⟨before, part, after, htext, hpart⟩
      exact ⟨before, _, htext, part, after, rfl, hpart, matches_percent after⟩

/-! ## Plain texts -/

/-- A plain text is found where it is a part. -/
theorem Plain.hasMatch_iff {pattern text : String} (h : Plain pattern) (hnull : Char.ofNat 0 ∉ text.toList) :
    HasMatch text pattern ↔ HasPart text pattern := by
  simp only [HasMatch, h.null, false_imp_iff, and_true, untilNull_of_not_mem h.null, untilNull_of_not_mem hnull,
    matches_iff_of_plain h.percent h.underscore]
  constructor
  · rintro ⟨before, part, after, htext, hpart⟩
    refine ⟨before.map Char.toLower, after.map Char.toLower, ?_⟩
    rw [htext, hpart, List.map_append, List.map_append, List.append_assoc]
  · rintro ⟨before', after', htext⟩
    rw [List.append_assoc] at htext
    obtain ⟨before, rest, hsplit, rfl, hrest⟩ := List.map_eq_append_iff.mp htext.symm
    obtain ⟨part, after, rfl, hpart, rfl⟩ := List.map_eq_append_iff.mp hrest
    exact ⟨before, part, after, hsplit, hpart.symm⟩

/-- A text that a pattern finds, with no percent sign and no underscore in it. -/
def specimen (pattern : List Char) : List Char := (pattern.filter (· != '%')).map fun p => if p = '_' then 'x' else p

theorem matches_specimen (pattern : List Char) : Matches pattern (specimen pattern) := by
  induction pattern with
  | nil => exact .nil
  | cons p ps ih =>
    by_cases hp : p = '%'
    · subst hp
      exact .percent [] ih
    · have hcons : specimen (p :: ps) = (if p = '_' then 'x' else p) :: specimen ps := by
        simp [specimen, hp]
      rw [hcons]
      refine .char hp ?_ ih
      by_cases hp' : p = '_'
      · exact Or.inl hp'
      · exact Or.inr (by rw [if_neg hp'])

/-- What is in a specimen stands in the pattern, or for an underscore. -/
theorem mem_specimen {pattern : List Char} {c : Char} (h : c ∈ specimen pattern) :
    c = 'x' ∨ c ∈ pattern ∧ c ≠ '%' ∧ c ≠ '_' := by
  obtain ⟨p, hp, rfl⟩ := List.mem_map.mp h
  obtain ⟨hp, hpercent⟩ := List.mem_filter.mp hp
  by_cases hunderscore : p = '_'
  · exact Or.inl (if_pos hunderscore)
  · rw [if_neg hunderscore]
    exact Or.inr ⟨hp, by simpa using hpercent, hunderscore⟩

/-- A text that is not plain finds a text of which it is no part. -/
theorem exists_hasMatch_of_not_plain {pattern : String} (h : ¬Plain pattern) :
    ∃ text : String, Char.ofNat 0 ∉ text.toList ∧ HasMatch text pattern ∧ ¬HasPart text pattern := by
  have hclean : ∀ d ∈ ['%', '_', Char.ofNat 0], d ∉ specimen (untilNull pattern) := by
    intro d hd hmem
    rcases mem_specimen hmem with rfl | ⟨hpattern, hpercent, hunderscore⟩
    · simp at hd
    · simp only [List.mem_cons, List.not_mem_nil, or_false] at hd
      rcases hd with rfl | rfl | rfl
      · exact hpercent rfl
      · exact hunderscore rfl
      · exact not_mem_untilNull pattern hpattern
  have hnull : Char.ofNat 0 ∉ (String.ofList (specimen (untilNull pattern))).toList := by
    rw [String.toList_ofList]
    exact hclean _ (by simp)
  refine ⟨String.ofList (specimen (untilNull pattern)), hnull, ?_, ?_⟩
  · refine ⟨[], specimen (untilNull pattern), [], ?_, matches_specimen _, fun _ => rfl⟩
    rw [untilNull_of_not_mem hnull, String.toList_ofList, List.append_nil, List.nil_append]
  · intro hpart
    have hspecial : ∃ d ∈ ['%', '_', Char.ofNat 0], d ∈ pattern.toList := by
      by_contra hnone
      exact h ⟨fun hd => hnone ⟨_, by simp, hd⟩, fun hd => hnone ⟨_, by simp, hd⟩, fun hd => hnone ⟨_, by simp, hd⟩⟩
    obtain ⟨d, hd, hmem⟩ := hspecial
    have hlower : d.toLower = d ∧ d.isLower = false := by
      simp only [List.mem_cons, List.not_mem_nil, or_false] at hd
      rcases hd with rfl | rfl | rfl <;> decide
    obtain ⟨c, hc, hcd⟩ := List.mem_map.mp (hpart.subset (List.mem_map_of_mem (f := Char.toLower) hmem))
    rw [hlower.1] at hcd
    obtain rfl := Text.eq_of_toLower_eq hcd hlower.2
    rw [String.toList_ofList] at hc
    exact hclean c hd hc

/-! ## Searches -/

/-- A request for the videos that a text finds. -/
structure Http.Request.SearchesTitles (r : Http.Request) (q : String) : Prop where
  method : r.method = "GET"
  path : (Http.Target.ofText r.address).path = "/api/videos/search"
  query : Http.Query.last? (Http.readQuery (Http.Target.ofText r.address).query) "search_query" = some q
  filled : q ≠ ""

/-- What the searches for a text list: the videos by their titles, also for a request, and the users by their names and by their e-mail
addresses if they have one. No search changes anything. -/
structure SearchesFor (P : String → Prop) (q : String) (w : World) : Prop where
  titles : ∃ videos, Service.findVideos ["BY_TITLE"] [q] w = (.ok videos, w) ∧
    ListsById Video.id w.db.videos (fun v => P v.title) videos
  usernames : ∃ users, Service.findUsers ["BY_USERNAME"] [q] w = (.ok users, w) ∧
    ListsById User.id w.db.users (fun u => P u.username) users
  emails : ∃ users, Service.findUsers ["BY_EMAIL"] [q] w = (.ok users, w) ∧
    ListsById User.id w.db.users (fun u => ∃ email, u.email = some email ∧ P email) users
  requested : ∀ site (r : Http.Request), r.SearchesTitles q →
    ∃ videos, Http.respond site r w = (.ok (.arr ((w.db.views videos).map VideoView.toJson)), w) ∧
      ListsById Video.id w.db.videos (fun v => P v.title) videos

/-- No title, name or e-mail address has a null character. -/
structure Database.NullFree (db : Database) : Prop where
  titles : ∀ v ∈ db.videos, Char.ofNat 0 ∉ v.title.toList
  usernames : ∀ u ∈ db.users, Char.ofNat 0 ∉ u.username.toList
  emails : ∀ u ∈ db.users, ∀ email, u.email = some email → Char.ofNat 0 ∉ email.toList

/-- A request for titles is answered with what the search for them lists. -/
theorem Http.respond_of_searchesTitles {site : Site} {r : Request} {q : String} {w : World} {videos : List Video}
    (h : r.SearchesTitles q) (hvideos : Service.findVideos ["BY_TITLE"] [q] w = (.ok videos, w)) :
    respond site r w = (.ok (.arr ((w.db.views videos).map VideoView.toJson)), w) := by
  have hlead : lead r.method (Target.ofText r.address).path = .found .searchTitles [] := by
    rw [h.method, h.path]
    decide
  have hread : Query.filledText (readQuery (Target.ofText r.address).query) "search_query" = .ok q := by
    rw [Query.filledText, h.query]
    exact if_neg h.filled
  have hserved : serve site r (readQuery (Target.ofText r.address).query) [] .searchTitles w =
      (.ok (.ok (.arr ((w.db.views videos).map VideoView.toJson))), w) := by
    rw [serve, searchTitlesEndpoint, hread]
    change (Service.findVideos ["BY_TITLE"] [q] >>= fun videos => showVideos videos) w = _
    rw [Service.bind_of_ok hvideos]
    rfl
  rw [respond_eq_answering (arrival_of_lead (by rw [h.method]; decide) hlead)]
  simp only [answering, hserved]

section Searches

variable {q : String} {w : World}

/-- What a search for a text lists depends on the texts in the tables only. -/
theorem SearchesFor.congr {P Q : String → Prop} (h : SearchesFor P q w) (hnull : w.db.NullFree)
    (hPQ : ∀ text, Char.ofNat 0 ∉ text.toList → (P text ↔ Q text)) : SearchesFor Q q w where
  titles := by
    obtain ⟨videos, hvideos, hlists⟩ := h.titles
    exact ⟨videos, hvideos, hlists.congr fun v hv => hPQ _ (hnull.titles v hv)⟩
  usernames := by
    obtain ⟨users, husers, hlists⟩ := h.usernames
    exact ⟨users, husers, hlists.congr fun u hu => hPQ _ (hnull.usernames u hu)⟩
  emails := by
    obtain ⟨users, husers, hlists⟩ := h.emails
    refine ⟨users, husers, hlists.congr fun u hu => ?_⟩
    exact exists_congr fun email => and_congr_right fun hemail => hPQ _ (hnull.emails u hu email hemail)
  requested site r hr := by
    obtain ⟨videos, hvideos, hlists⟩ := h.requested site r hr
    exact ⟨videos, hvideos, hlists.congr fun v hv => hPQ _ (hnull.titles v hv)⟩

/-- A search for a text lists what has a part that the text matches as a pattern. -/
theorem searchesFor_hasMatch (hkeyed : w.db.Keyed) (q : String) : SearchesFor (HasMatch · q) q w := by
  have htitle : VideoCondition.ofOption (Text.upper "BY_TITLE") q = .ok (.titleLike q) := by
    rw [show Text.upper "BY_TITLE" = "BY_TITLE" by decide]
    rfl
  have husername : UserCondition.ofOption (Text.upper "BY_USERNAME") q = .ok (.usernameLike q) := by
    rw [show Text.upper "BY_USERNAME" = "BY_USERNAME" by decide]
    rfl
  have hemail : UserCondition.ofOption (Text.upper "BY_EMAIL") q = .ok (.emailLike q) := by
    rw [show Text.upper "BY_EMAIL" = "BY_EMAIL" by decide]
    rfl
  have hvideos : Service.findVideos ["BY_TITLE"] [q] w = (.ok (w.db.videosMeeting [.titleLike q]), w) := by
    rw [Service.findVideos_apply, Database.findVideos, search_of_condition htitle]
    rfl
  have htitles : ListsById Video.id w.db.videos (fun v => HasMatch v.title q) (w.db.videosMeeting [.titleLike q]) :=
    (hkeyed.lists_videosMeeting _).congr fun v _ => by
      rw [List.forall_mem_singleton]
      exact holdsPattern_iff
  refine ⟨⟨_, hvideos, htitles⟩, ⟨w.db.usersMeeting [.usernameLike q], ?_, ?_⟩, ⟨w.db.usersMeeting [.emailLike q], ?_, ?_⟩,
    fun site r hr => ⟨_, Http.respond_of_searchesTitles hr hvideos, htitles⟩⟩
  · rw [Service.findUsers_apply, Database.findUsers, search_of_condition husername]
    rfl
  · refine (hkeyed.lists_usersMeeting _).congr fun u _ => ?_
    rw [List.forall_mem_singleton]
    exact holdsPattern_iff
  · rw [Service.findUsers_apply, Database.findUsers, search_of_condition hemail]
    rfl
  · refine (hkeyed.lists_usersMeeting _).congr fun u _ => ?_
    rw [List.forall_mem_singleton, UserCondition.holds, Option.any_eq_true]
    simp only [holdsPattern_iff]

end Searches

/-- A world with one video, which has a title. -/
def World.withTitle (title : String) : World := { db := { videos := [⟨1, "", title, none, "", "", 0, 0, 0⟩] } }

theorem World.keyed_withTitle (title : String) : (withTitle title).db.Keyed := by
  constructor <;> simp [withTitle]

theorem World.nullFree_withTitle {title : String} (h : Char.ofNat 0 ∉ title.toList) : (withTitle title).db.NullFree := by
  refine ⟨fun v hv => ?_, nofun, nofun⟩
  rw [List.mem_singleton.mp hv]
  exact h

/-- A search for a text lists what has a part that the text matches as a pattern, whatever the text. It lists what has the text as a
part, in whatever tables without null characters, exactly where the text is plain. -/
theorem text_searches_match_patterns (q : String) :
    (∀ w : World, w.db.Keyed → SearchesFor (HasMatch · q) q w) ∧
      ((∀ w : World, w.db.Keyed → w.db.NullFree → SearchesFor (HasPart · q) q w) ↔ Plain q) := by
  refine ⟨fun w hkeyed => searchesFor_hasMatch hkeyed q, fun hparts => ?_, fun hplain w hkeyed hnull => ?_⟩
  · by_contra hplain
    obtain ⟨text, hnull, hmatch, hpart⟩ := exists_hasMatch_of_not_plain hplain
    have hkeyed := World.keyed_withTitle text
    obtain ⟨videos, hvideos, hlists⟩ := (hparts _ hkeyed (World.nullFree_withTitle hnull)).titles
    obtain ⟨videos', hvideos', hlists'⟩ := (searchesFor_hasMatch hkeyed q).titles
    obtain rfl : videos = videos' := by simpa using hvideos.symm.trans hvideos'
    have hfound := (hlists'.mem _).mpr ⟨List.mem_singleton_self _, hmatch⟩
    exact hpart ((hlists.mem _).mp hfound).2
  · exact (searchesFor_hasMatch hkeyed q).congr hnull fun text htext => hplain.hasMatch_iff htext

/-! ### Goals and cotton -/

namespace HundredPercent

def goals : Video := ⟨1, "ann", "100 goals", none, "Sport", "en", 60, 0, 0⟩

def cotton : Video := ⟨2, "ann", "100% Cotton", none, "Travel", "en", 60, 0, 0⟩

def world : World := { db := { videos := [goals, cotton] } }

theorem keyed_world : world.db.Keyed := by
  constructor <;> decide

theorem nullFree_world : world.db.NullFree := by
  refine ⟨?_, nofun, nofun⟩
  intro v hv
  simp only [world, List.mem_cons, List.not_mem_nil, or_false] at hv
  rcases hv with rfl | rfl <;> decide

/-- A plain text is found in any case where it stands, and only there. -/
theorem cotton_found :
    Plain "cotTON" ∧ world.db.Keyed ∧ world.db.NullFree ∧
      Service.findVideos ["BY_TITLE"] ["cotTON"] world = (.ok [cotton], world) := by
  have hplain : Plain "cotTON" := ⟨by decide, by decide, by decide⟩
  refine ⟨hplain, keyed_world, nullFree_world, ?_⟩
  have hsearches := (text_searches_match_patterns "cotTON").2.mpr hplain world keyed_world nullFree_world
  obtain ⟨videos, hvideos, hlists⟩ := hsearches.titles
  have hone : ListsById Video.id world.db.videos (fun v => HasPart v.title "cotTON") [cotton] := by
    refine listsById_singleton (by decide) (by decide) fun v hv hpart => ?_
    simp only [world, List.mem_cons, List.not_mem_nil, or_false] at hv
    rcases hv with rfl | rfl
    · exact absurd hpart (by decide)
    · rfl
  rw [hvideos, hlists.unique hone]

/-- A percent sign finds goals too, where there is none. -/
theorem goals_found :
    world.db.Keyed ∧ world.db.NullFree ∧ ¬SearchesFor (HasPart · "100%") "100%" world := by
  refine ⟨keyed_world, nullFree_world, fun hparts => ?_⟩
  obtain ⟨videos, hvideos, hlists⟩ := hparts.titles
  obtain ⟨videos', hvideos', hlists'⟩ := (searchesFor_hasMatch keyed_world "100%").titles
  obtain rfl : videos = videos' := by simpa using hvideos.symm.trans hvideos'
  have hmatch : HasMatch goals.title "100%" := holdsPattern_iff.mp (by decide)
  have hfound : goals ∈ videos := (hlists'.mem goals).mpr ⟨List.mem_cons_self, hmatch⟩
  exact absurd ((hlists.mem goals).mp hfound).2 (by decide)

end HundredPercent

end VideoShare
