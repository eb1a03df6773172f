import VideoShare.Proofs.References
import Mathlib.Data.List.Infix

/-!
# What becomes of a video's row

A row is made once, and from then on only two calls touch it: a change of the video gives it what was asked for, and a watch, whoever
watches, adds a view. All other calls leave the row alone or remove it, and a call that failed did nothing to it. So while the row is
there it is told by the making of the video and the calls that answered since: by the last title, description and category that were
given, and by the number of the watches (`Video.told`).

An id may have been another video's before. The calls that count are those since the last making of a video with this id, and none of the
earlier ones is among them.
-/

namespace VideoShare

/-! ## Calls that answered -/

/-- What remains of a call after its answer: the call if it answered, nothing if it failed. -/
def Call.lasting (c : Call) : Except Failure Unit → List Call
  | .ok () => [c]
  | .error _ => []

/-- The calls of a run from some tables on that answered, in their order. -/
def answered (s : Settings) : Database → List Step → List Call
  | _, [] => []
  | db, step :: rest => step.call.lasting (step.call.perform s (step.world db)).1 ++ answered s (step.run s db) rest

theorem answered_concat (s : Settings) (step : Step) (steps : List Step) :
    ∀ db, answered s db (steps ++ [step]) =
      answered s db steps ++ step.call.lasting (step.call.perform s (step.world (steps.foldl (Step.run s) db))).1 := by
  induction steps with
  | nil => exact fun db => List.append_nil _
  | cons first steps ih =>
    intro db
    rw [List.cons_append, answered, answered, ih, List.append_assoc, List.foldl_cons]

/-! ## How a row is told -/

/-- What a call that answered does to the row of a video. -/
def Call.touch (c : Call) (v : Video) : Video :=
  match c with
  | .watch id _ => if id = v.id then addView v else v
  | .changeVideo id changes _ _ => if id = v.id then changes.apply v else v
  | _ => v

/-- What a call asks to be changed about a video. -/
def Call.changesOf? (video : Int) : Call → Option VideoChanges
  | changeVideo id changes _ _ => if id = video then some changes else none
  | _ => none

/-- Whether a call watches a video, for a user or for nobody. -/
def Call.isWatchOf (video : Int) : Call → Bool
  | watch id _ => id == video
  | _ => false

/-- What some calls asked last about one datum of a video. -/
def lastGiven {α : Type} (datum : VideoChanges → Option α) (video : Int) (calls : List Call) : Option α :=
  (calls.filterMap fun c => (c.changesOf? video).bind datum).getLast?

/-- The row of a video after some calls that answered, given the row as it was made. -/
def Video.told (row : Video) (calls : List Call) : Video :=
  { row with
    title := (lastGiven (·.title) row.id calls).getD row.title
    description := (lastGiven (·.description) row.id calls).or row.description
    category := (lastGiven (·.category) row.id calls).getD row.category
    views := row.views + calls.countP (Call.isWatchOf row.id) }

theorem Call.touch_id (c : Call) (v : Video) : (c.touch v).id = v.id := by
  unfold touch
  split
  · split <;> rfl
  · split <;> rfl
  · rfl

theorem lastGiven_concat {α : Type} (datum : VideoChanges → Option α) (video : Int) (calls : List Call) (c : Call) :
    lastGiven datum video (calls ++ [c]) = ((c.changesOf? video).bind datum).or (lastGiven datum video calls) := by
  unfold lastGiven
  rw [List.filterMap_append, List.getLast?_append]
  cases h : (c.changesOf? video).bind datum <;> simp [h]

theorem Video.told_nil (row : Video) : row.told [] = row := by
  simp [told, lastGiven]

/-- A call that neither changes the video nor watches it adds nothing. -/
theorem Video.told_concat_of_quiet {row : Video} {c : Call} (hchanges : c.changesOf? row.id = none)
    (hwatch : c.isWatchOf row.id = false) (calls : List Call) : row.told (calls ++ [c]) = row.told calls := by
  simp [told, lastGiven_concat, hchanges, List.countP_append, hwatch]

/-- One more call that answered does to the row what it does to any. -/
theorem Video.told_concat (row : Video) (calls : List Call) (c : Call) : row.told (calls ++ [c]) = c.touch (row.told calls) := by
  have hid : (row.told calls).id = row.id := rfl
  cases c with
  | watch id user =>
    have hnone : (Call.watch id user).changesOf? row.id = none := rfl
    rw [Call.touch, hid]
    by_cases h : id = row.id
    · subst h
      rw [if_pos rfl]
      simp [told, addView, lastGiven_concat, hnone, List.countP_append, Call.isWatchOf, Int.add_assoc]
    · rw [if_neg h]
      exact told_concat_of_quiet hnone (beq_eq_false_iff_ne.mpr h) calls
  | changeVideo id changes thumbnail content =>
    have hwatch : (Call.changeVideo id changes thumbnail content).isWatchOf row.id = false := rfl
    rw [Call.touch, hid]
    by_cases h : id = row.id
    · have hchanges : (Call.changeVideo id changes thumbnail content).changesOf? row.id = some changes := if_pos h
      rw [if_pos h]
      simp [told, VideoChanges.apply, lastGiven_concat, hchanges, List.countP_append, hwatch, Option.or_assoc]
    · have hnone : (Call.changeVideo id changes thumbnail content).changesOf? row.id = none := if_neg h
      rw [if_neg h]
      exact told_concat_of_quiet hnone hwatch calls
  | _ => exact told_concat_of_quiet rfl rfl calls

/-! ## What a call does to a row -/

/-- The row of a video after a call that found it: touched by the call if this answered, and left alone if it failed. -/
def Call.leave (c : Call) (answer : Except Failure Unit) (v : Video) : Video := (c.lasting answer).foldl (fun v c => c.touch v) v

theorem Call.leave_id (c : Call) (answer : Except Failure Unit) (v : Video) : (c.leave answer v).id = v.id := by
  cases answer with
  | error => rfl
  | ok => exact c.touch_id v

/-- A call after some others leaves of a row what it does to it. -/
theorem Video.told_lasting (row : Video) (calls : List Call) (c : Call) (answer : Except Failure Unit) :
    row.told (calls ++ c.lasting answer) = c.leave answer (row.told calls) := by
  cases answer with
  | error => rw [Call.lasting, List.append_nil]; rfl
  | ok => exact row.told_concat calls c

/-- A video in the tables after one with an id has changed. -/
theorem Database.updated_of_mem {db : Database} {id : Int} {f : Video → Video} {v : Video} (hv : v ∈ (db.updateVideo id f).videos) :
    ∃ v₀ ∈ db.videos, v = if id = v₀.id then f v₀ else v₀ := by
  obtain ⟨v₀, hv₀, rfl⟩ := List.mem_map.mp hv
  refine ⟨v₀, hv₀, ?_⟩
  by_cases h : id = v₀.id
  · simp [h]
  · simp [h, Ne.symm h]

namespace Call

variable {s : Settings} {w : World} {c : Call} {answer : Except Failure Unit} {db : Database} {v : Video}

/-- A video that is in the tables after a call was there before, and the call did to it what it does, or the call made it. -/
theorem Effect.touched_or_made (h : c.Effect s w answer db) (hv : v ∈ db.videos) :
    (∃ v₀ ∈ w.db.videos, v = c.leave answer v₀) ∨
      ∃ detected owner data thumbnail content, c = .createVideo detected owner data thumbnail content ∧
        v = w.newVideo s detected owner data := by
  cases h with
  | failed => exact Or.inl ⟨v, hv, rfl⟩
  | @createVideo detected owner data thumbnail content answer registered answered =>
    rcases List.mem_append.mp hv with hv | hv
    · refine Or.inl ⟨v, hv, ?_⟩
      rcases answered with rfl | rfl <;> rfl
    · exact Or.inr ⟨detected, owner, data, thumbnail, content, rfl, List.mem_singleton.mp hv⟩
  | watch => exact Or.inl (Database.updated_of_mem hv)
  | watchUnknown => exact Or.inl (Database.updated_of_mem hv)
  | changeVideo => exact Or.inl (Database.updated_of_mem hv)
  | deleteUser => exact Or.inl ⟨v, (List.mem_filter.mp hv).1, rfl⟩
  | deleteVideo => exact Or.inl ⟨v, (List.mem_filter.mp hv).1, rfl⟩
  | notInterested _ _ hdecay =>
    rcases Database.decayCategory_cases hdecay with rfl | ⟨score, rfl⟩
    · exact Or.inl ⟨v, hv, rfl⟩
    · exact Or.inl ⟨v, hv, rfl⟩
  | _ => exact Or.inl ⟨v, hv, rfl⟩

end Call

/-! ## Runs -/

/-- A row that is told by its making and the calls that answered since. -/
def Database.Tells (s : Settings) (before : List Step) (making : Step) (after : List Step) (id : Int) (db : Database) : Prop :=
  ∃ detected owner data thumbnail content, making.call = .createVideo detected owner data thumbnail content ∧
    ∀ v ∈ db.videos, v.id = id →
      v = ((making.world (replay s before)).newVideo s detected owner data).told (answered s (replay s (before ++ [making])) after)

/-- The step that brings a video makes it. -/
theorem tells_of_comes {s : Settings} {id : Int} {before : List Step} {making : Step} (absent : ¬(replay s before).HasVideo id)
    (present : (replay s (before ++ [making])).HasVideo id) : (replay s (before ++ [making])).Tells s before making [] id := by
  have heffect := making.call.effect_perform s (making.world (replay s before))
  -- no video with this id was there before
  have hmade : ∀ v ∈ (replay s (before ++ [making])).videos, v.id = id →
      ∃ detected owner data thumbnail content, making.call = .createVideo detected owner data thumbnail content ∧
        v = (making.world (replay s before)).newVideo s detected owner data := by
    intro v hv hid
    rw [replay_concat] at hv
    rcases heffect.touched_or_made hv with ⟨v₀, hv₀, rfl⟩ | hmade
    · exact absurd ⟨v₀, hv₀, (Call.leave_id _ _ _).symm.trans hid⟩ absent
    · exact hmade
  obtain ⟨v, hv, hid⟩ := present
  obtain ⟨detected, owner, data, thumbnail, content, hcall, -⟩ := hmade v hv hid
  refine ⟨detected, owner, data, thumbnail, content, hcall, ?_⟩
  intro v' hv' hid'
  obtain ⟨_, _, _, _, _, hcall', rfl⟩ := hmade v' hv' hid'
  rw [hcall] at hcall'
  cases hcall'
  exact (Video.told_nil _).symm

/-- While a video is there, its row is told by its making and the calls that answered since. -/
theorem tells_since {s : Settings} {id : Int} {before after : List Step} {making : Step}
    (h : Since s (·.HasVideo id) before making after) :
    (replay s (before ++ making :: after)).Tells s before making after id := by
  induction h with
  | comes absent present => exact tells_of_comes absent present
  | @stays after step since present ih =>
    obtain ⟨detected, owner, data, thumbnail, content, hcall, htold⟩ := ih
    refine ⟨detected, owner, data, thumbnail, content, hcall, ?_⟩
    intro v hv hid
    rw [← List.cons_append, ← List.append_assoc, replay_concat] at hv
    have heffect := step.call.effect_perform s (step.world (replay s (before ++ making :: after)))
    rcases heffect.touched_or_made hv with ⟨v₀, hv₀, rfl⟩ | ⟨_, _, _, _, _, -, rfl⟩
    · rw [Call.leave_id] at hid
      rw [answered_concat, ← replay_append_cons, Video.told_lasting, ← htold v₀ hv₀ hid]
    · -- a video that is made has an id that was none's, and this one was there
      exact absurd (hid ▸ since.present) (Database.not_hasVideo_nextVideoId _)

/-- What stands in a video's row, given what it was made of, by whom and when, and the calls that answered since. -/
structure Video.MadeOf (v : Video) (data : NewVideo) (owner language : String) (made : Instant) (calls : List Call) : Prop where
  owner : v.ownerId = owner
  language : v.language = language
  duration : v.duration = data.duration
  uploadDate : v.uploadDate = made
  title : v.title = (lastGiven (·.title) v.id calls).getD data.title
  description : v.description = (lastGiven (·.description) v.id calls).or data.description
  category : v.category = (lastGiven (·.category) v.id calls).getD data.category
  views : v.views = calls.countP (Call.isWatchOf v.id)

/-- A row that is told from the row of a new video. -/
theorem Video.madeOf_told (data : NewVideo) (id : Int) (owner language : String) (made : Instant) (calls : List Call) :
    ((data.row id owner language made).told calls).MadeOf data owner language made calls where
  owner := rfl
  language := rfl
  duration := rfl
  uploadDate := rfl
  title := rfl
  description := rfl
  category := rfl
  views := Int.zero_add _

/-- Every video in the tables after a run was made by one of its steps and has been there since. Its owner, language, duration and date are
those it was made with; its title, description and category are the last that a change of the video gave, of those that answered since,
or those it was made with; and its views are as many as the watches of it that answered since, by whomever. -/
theorem video_row_tells_its_history (s : Settings) (steps : List Step) (v : Video) (hv : v ∈ (replay s steps).videos) :
    (∃ before making after, steps = before ++ making :: after ∧ Since s (·.HasVideo v.id) before making after) ∧
    ∀ before making after, steps = before ++ making :: after → Since s (·.HasVideo v.id) before making after →
      ∃ detected owner data thumbnail content, making.call = .createVideo detected owner data thumbnail content ∧
        v.MadeOf data owner (languageOfUpload s.defaultLanguage detected data.language data.title) making.around.now
          (answered s (replay s (before ++ [making])) after) := by
  constructor
  · refine exists_since ?_ ⟨v, hv, rfl⟩
    rintro ⟨u, hu, -⟩
    nomatch hu
  · rintro before making after rfl hsince
    obtain ⟨detected, owner, data, thumbnail, content, hcall, htold⟩ := tells_since hsince
    refine ⟨detected, owner, data, thumbnail, content, hcall, ?_⟩
    rw [htold v hv rfl]
    exact Video.madeOf_told data _ owner _ _ _

/-! ### A video under an id that was another's -/

namespace SecondVideo

def ann : NewUser := ⟨"ann", "Ann", none, none, none⟩

def hills : NewVideo := ⟨"Hills", none, "Travel", some "en", 60⟩

def lake : NewVideo := ⟨"Lake", none, "Travel", some "en", 90⟩

/-- Ann's first video is watched and deleted. -/
def before : List Step :=
  [⟨{}, .register ann⟩, ⟨{}, .createVideo none "ann" hills "thumbnail" "content"⟩, ⟨{}, .watch 1 none⟩, ⟨{}, .deleteVideo 1⟩]

/-- Ann makes another one. -/
def making : Step := ⟨{ now := 7 }, .createVideo none "ann" lake "thumbnail" "content"⟩

/-- Nobody in particular, somebody unknown and Ann watch it; Ann fails to watch it when the window would begin before the calendar. She
gives it another title, then another category, and then a title together with a thumbnail that is not accepted. -/
def after : List Step :=
  [⟨{}, .watch 1 none⟩, ⟨{}, .watch 1 (some "nobody")⟩, ⟨{ now := 100 * Duration.hour }, .watch 1 (some "ann")⟩,
    ⟨{}, .watch 1 (some "ann")⟩, ⟨{}, .changeVideo 1 { title := some "Sea" } none none⟩,
    ⟨{}, .changeVideo 1 { category := some "Food" } none none⟩,
    ⟨{ broker := { replies := [some "false"] } }, .changeVideo 1 { title := some "Hills" } (some "thumbnail") none⟩]

def steps : List Step := before ++ making :: after

def calls : List Call := answered {} (replay {} (before ++ [making])) after

def second : Video := ⟨1, "ann", "Sea", none, "Food", "en", 90, 3, 7⟩

/-- Three watches answered, and one change of the title; what failed did nothing, and what was done to the first video does not count. -/
theorem told_since_making :
    second.MadeOf lake "ann" "en" 7 calls ∧ calls.countP (Call.isWatchOf 1) = 3 ∧
      lastGiven (·.title) 1 calls = some "Sea" ∧ lastGiven (·.category) 1 calls = some "Food" := by
  have hsecond : second ∈ (replay {} steps).videos := by decide +kernel
  have hall : ∀ middle ∈ after.inits, (replay {} (before ++ making :: middle)).HasVideo 1 := by decide +kernel
  have hsince : Since {} (·.HasVideo second.id) before making after :=
    since_iff.mpr ⟨by decide +kernel, fun middle hmiddle => hall middle ((List.mem_inits middle after).mpr hmiddle)⟩
  obtain ⟨_, _, _, _, _, hcall, hmade⟩ :=
    (video_row_tells_its_history {} steps second hsecond).2 before making after rfl hsince
  cases hcall
  exact ⟨hmade, by decide +kernel, by decide +kernel, by decide +kernel⟩

end SecondVideo

end VideoShare
