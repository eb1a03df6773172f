import VideoShare.Proofs.Listing

/-!
# Searches by a range

Videos are searched by a range of views or of likes, and users by a range of subscribers. A range is two integers of any size, but
the database takes no integer beyond the sixty-four bits of a column: a range with such a bound is read and then breaks the search,
though every count lies on one side of the bound. With both bounds in a column the search lists the rows whose count is in the range.
-/

namespace VideoShare

/-- How a search by a range ends, given what is counted of a row. -/
structure SearchesRange {ρ κ : Type} [LT κ] (find : String → Service (List ρ)) (option : String) (id : ρ → κ) (table : List ρ)
    (count : ρ → Int) (w : World) : Prop where
  listed_iff : ∀ value low high, parseRange option value = .ok (low, high) →
    ((∃ rows, find value w = (.ok rows, w) ∧ ListsById id table (fun a => low ≤ count a ∧ count a ≤ high) rows) ↔
      fitsColumn low = true ∧ fitsColumn high = true)
  tooWide : ∀ value low high, parseRange option value = .ok (low, high) → ¬(fitsColumn low = true ∧ fitsColumn high = true) →
    find value w = (.error .integerTooWide, w)
  refused : ∀ value r, parseRange option value = .error r → find value w = (.error (.refused (.illegalOption option value)), w)

/-- Whether a video or a user is found depends on the two bounds alone where the option says a range. -/
theorem searchesRange_of_search {γ ρ κ : Type} [LT κ] {ofOption : String → String → Except Refusal γ} {integers : γ → List Int}
    {rows : List γ → List ρ} {find : String → Service (List ρ)} {option : String} {between : Int → Int → γ} {id : ρ → κ}
    {table : List ρ} {count : ρ → Int} {w : World}
    (hfind : ∀ value, find value w = (search ofOption integers rows [option] [value], w))
    (hoption : ∀ value, ofOption (Text.upper option) value = (parseRange option value).map fun r => between r.1 r.2)
    (hintegers : ∀ low high, integers (between low high) = [low, high])
    (hrows : ∀ low high, ListsById id table (fun a => low ≤ count a ∧ count a ≤ high) (rows [between low high])) :
    SearchesRange find option id table count w := by
  have hends : ∀ value low high, parseRange option value = .ok (low, high) →
      find value w =
        (if fitsColumn low = true ∧ fitsColumn high = true then .ok (rows [between low high]) else .error .integerTooWide, w) := by
    intro value low high hrange
    have hread : ofOption (Text.upper option) value = .ok (between low high) := by rw [hoption, hrange]; rfl
    rw [hfind, search_of_condition hread, hintegers]
    simp
  refine ⟨fun value low high hrange => ?_, fun value low high hrange hwide => ?_, fun value r hrange => ?_⟩
  · rw [hends value low high hrange]
    constructor
    · rintro ⟨found, hfound, -⟩
      by_contra hwide
      simp [hwide] at hfound
    · intro hfits
      exact ⟨_, by rw [if_pos hfits], hrows low high⟩
  · rw [hends value low high hrange, if_neg hwide]
  · have hread : ofOption (Text.upper option) value = .error r := by rw [hoption, hrange]; rfl
    rw [hfind, search_of_refusal hread, refusal_of_parseRange hrange]

/-- Searches by ranges of views, of likes and of subscribers list the videos and the users whose count is in the range, each once and by
id, exactly where both bounds fit into a column. -/
theorem range_searches_list_counts (w : World) (hkeyed : w.db.Keyed) :
    SearchesRange (fun value => Service.findVideos ["BY_VIEWS"] [value]) "BY_VIEWS" Video.id w.db.videos Video.views w ∧
      SearchesRange (fun value => Service.findVideos ["BY_LIKES"] [value]) "BY_LIKES" Video.id w.db.videos
        (fun v => w.db.likeCount v.id) w ∧
      SearchesRange (fun value => Service.findUsers ["BY_SUBSCRIBERS"] [value]) "BY_SUBSCRIBERS" User.id w.db.users
        (fun u => w.db.subscriberCount u.id) w := by
  have hviews : Text.upper "BY_VIEWS" = "BY_VIEWS" := by decide
  have hlikes : Text.upper "BY_LIKES" = "BY_LIKES" := by decide
  have hsubscribers : Text.upper "BY_SUBSCRIBERS" = "BY_SUBSCRIBERS" := by decide
  refine ⟨?_, ?_, ?_⟩
  · refine searchesRange_of_search (fun _ => rfl) (fun _ => by rw [hviews]; rfl) (fun _ _ => rfl) fun low high => ?_
    exact (hkeyed.lists_videosMeeting _).congr fun v _ => by simp [VideoCondition.holds]
  · refine searchesRange_of_search (fun _ => rfl) (fun _ => by rw [hlikes]; rfl) (fun _ _ => rfl) fun low high => ?_
    exact (hkeyed.lists_videosMeeting _).congr fun v _ => by simp [VideoCondition.holds]
  · refine searchesRange_of_search (fun _ => rfl) (fun _ => by rw [hsubscribers]; rfl) (fun _ _ => rfl) fun low high => ?_
    exact (hkeyed.lists_usersMeeting _).congr fun u _ => by simp [UserCondition.holds]

/-! ### Ranges of views -/

namespace ViewsBetween

def hills : Video := ⟨1, "ann", "Hills", none, "Travel", "en", 60, 5, 0⟩

def lakes : Video := ⟨2, "ann", "Lakes", none, "Travel", "en", 60, 7, 0⟩

def world : World := { db := { videos := [lakes, hills] } }

/-- Between six and nine views. -/
theorem six_to_nine :
    world.db.Keyed ∧ parseRange "BY_VIEWS" "6/9" = .ok (6, 9) ∧
      Service.findVideos ["BY_VIEWS"] ["6/9"] world = (.ok [lakes], world) := by
  have hkeyed : world.db.Keyed := by constructor <;> decide
  have hrange : parseRange "BY_VIEWS" "6/9" = .ok (6, 9) := by decide
  refine ⟨hkeyed, hrange, ?_⟩
  obtain ⟨rows, hrows, hlists⟩ :=
    ((range_searches_list_counts world hkeyed).1.listed_iff "6/9" 6 9 hrange).mpr ⟨by decide, by decide⟩
  have hlakes : ListsById Video.id world.db.videos (fun v => 6 ≤ v.views ∧ v.views ≤ 9) [lakes] := by
    refine listsById_singleton (by decide) (by decide) fun v hv hviews => ?_
    simp only [world, List.mem_cons, List.not_mem_nil, or_false] at hv
    rcases hv with rfl | rfl
    · rfl
    · exact absurd hviews (by decide)
  rw [hrows, hlists.unique hlakes]

/-- No more than 2⁶³ views: every video has so few, and yet the search fails. -/
theorem bound_breaks_search :
    parseRange "BY_VIEWS" "0/9223372036854775808" = .ok (0, 9223372036854775808) ∧
      (∀ v ∈ world.db.videos, 0 ≤ v.views ∧ v.views ≤ 9223372036854775808) ∧
      Service.findVideos ["BY_VIEWS"] ["0/9223372036854775808"] world = (.error .integerTooWide, world) :=
  ⟨by decide, by decide, by decide⟩

end ViewsBetween

end VideoShare
