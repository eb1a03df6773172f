import VideoShare.Proofs.Services
import Mathlib.Data.List.Induction

/-!
# Calls and their effect on the tables

Fourteen calls change the tables. `Call.Effect` lists all that one of them can do: fail and leave the tables as they are, or one
of a few changes, each with what was found in the tables before. The making of a video has an effect of its own beside these: when
the broker does not take the notification the call fails, and the row stays.

`replay` makes calls one after another, beginning with empty tables. What surrounds the tables when a call is made is anything:
time passes or goes back, objects come and go, faults and replies are to come, queues are down, look-ups are stale. What holds of
the empty tables and is kept by every call, wherever it is made, holds after every replay (`replay_induction`).
-/

namespace VideoShare

namespace Service

variable {α : Type}

/-- A call whose value nobody looks at. -/
def ignoring (x : Service α) : Service Unit := do
  let _ ← x

theorem ignoring_eq_ok {x : Service α} {w w' : World} (h : ignoring x w = (.ok (), w')) : ∃ a, x w = (.ok a, w') := by
  obtain ⟨a, w₁, hx, hpure⟩ := bind_eq_ok.mp h
  exact ⟨a, by rw [hx, (pure_eq_ok.mp hpure).2]⟩

theorem ignoring_eq_error {x : Service α} {w w' : World} {e : Failure} (h : ignoring x w = (.error e, w')) :
    x w = (.error e, w') := by
  rcases bind_eq_error.mp h with hx | ⟨a, w₁, -, hpure⟩
  · exact hx
  · simp at hpure

/-- A call whose value nobody looks at leaves the world that the call leaves. -/
theorem ignoring_snd (x : Service α) (w : World) : (ignoring x w).2 = (x w).2 := by
  rcases hx : x w with ⟨e | a, w₁⟩
  · rw [ignoring, bind_of_error hx]
  · rw [ignoring, bind_of_ok hx]
    rfl

end Service

/-- A call that may change the tables, with all that its caller gives. -/
inductive Call where
  | register (data : NewUser)
  | changeUser (id : String) (changes : UserChanges)
  | deleteUser (id : String)
  | like (user : String) (video : Int)
  | dislike (user : String) (video : Int)
  | notInterested (video : Int) (user : String)
  | subscribe (user channel : String)
  | unsubscribe (user channel : String)
  | addSearch (user option : String)
  | deleteSearch (user option : String)
  | watch (video : Int) (user : Option String)
  | createVideo (detected : Option String) (owner : String) (data : NewVideo) (thumbnail content : String)
  | changeVideo (video : Int) (changes : VideoChanges) (thumbnail content : Option String)
  | deleteVideo (video : Int)

namespace Call

open Service

/-- Makes a call. -/
def perform (s : Settings) : Call → Service Unit
  | register data => ignoring (registerUser s data)
  | changeUser id changes => ignoring (updateUser id changes)
  | deleteUser id => Service.deleteUser s id
  | like user video => ignoring (likeVideo user video)
  | dislike user video => dislikeVideo user video
  | notInterested video user => Service.notInterested s video user
  | subscribe user channel => Service.subscribe user channel
  | unsubscribe user channel => Service.unsubscribe user channel
  | addSearch user option => Service.addSearch s user option
  | deleteSearch user option => Service.deleteSearch user option
  | watch video user => ignoring (Service.watch s video user)
  | createVideo detected owner data thumbnail content =>
    ignoring (Service.createVideo s detected owner data thumbnail content)
  | changeVideo video changes thumbnail content => ignoring (updateVideo s video changes thumbnail content)
  | deleteVideo video => Service.deleteVideo s video

/-- What a call that is made in a world can answer, and the tables it can leave. -/
inductive Effect (s : Settings) (w : World) : Call → Except Failure Unit → Database → Prop where
  | failed {c : Call} {e : Failure} : Effect s w c (.error e) w.db
  | register {data : NewUser} (new : w.db.user? data.id = none) :
    Effect s w (register data) (.ok ()) { w.db with users := w.db.users ++ [data.row s w.now] }
  | changeUser {id : String} {changes : UserChanges} (user : w.db.HasUser id) :
    Effect s w (changeUser id changes) (.ok ()) (w.db.updateUser id changes.apply)
  | deleteUser {id : String} (user : w.db.HasUser id) :
    Effect s w (deleteUser id) (.ok ()) ((w.db.removeVideos (w.db.ownedVideos id)).removeUser id)
  | addLike {user : String} {video : Int} (liker : w.db.HasUser user) (liked : w.db.HasVideo video)
      (new : w.db.like? user video = none) :
    Effect s w (like user video) (.ok ()) { w.db with likes := w.db.likes ++ [⟨user, video, w.now⟩] }
  | takeLike {user : String} {video : Int} (liker : w.db.HasUser user) (liked : w.db.HasVideo video)
      (there : (w.db.like? user video).isSome = true) :
    Effect s w (like user video) (.ok ()) (w.db.removeLike user video)
  | dislike {user : String} {video : Int} (liker : w.db.HasUser user) (liked : w.db.HasVideo video) :
    Effect s w (dislike user video) (.ok ()) (w.db.removeLike user video)
  | dislikeUnseen {user : String} {video : Int} (liker : w.db.HasUser user) (liked : w.db.HasVideo video) :
    Effect s w (dislike user video) (.ok ()) w.db
  | notInterested {video : Int} {user : String} {v : Video} {score : Option Int} {db : Database}
      (found : w.db.video? video = some v) (registered : w.db.HasUser user)
      (decayed : w.db.decayCategory user v.category s.notInterestedFactor = .ok (score, db)) :
    Effect s w (notInterested video user) (.ok ()) db
  | subscribe {user channel : String} (subscriber : w.db.HasUser user) (subscribed : w.db.HasUser channel)
      (new : w.db.subscription? user channel = none) :
    Effect s w (subscribe user channel) (.ok ()) (w.db.addSubscription ⟨user, channel, w.now⟩)
  | subscribeAgain {user channel : String} (there : (w.db.subscription? user channel).isSome = true) :
    Effect s w (subscribe user channel) (.ok ()) w.db
  | unsubscribe {user channel : String} (subscriber : w.db.HasUser user) :
    Effect s w (unsubscribe user channel) (.ok ()) (w.db.removeSubscription user channel)
  | addSearch {user option : String} (searcher : w.db.HasUser user) (new : w.db.search? user option = none) :
    Effect s w (addSearch user option) (.ok ())
      (w.db.replaceSearches (w.db.outdatedSearches s.maxSearchOptions user) user option w.now)
  | redateSearch {user option : String} {entry : Search} (searcher : w.db.HasUser user)
      (there : w.db.search? user option = some entry) :
    Effect s w (addSearch user option) (.ok ()) (w.db.redateSearch entry.id w.now)
  | deleteSearch {user option : String} {entry : Search} (there : w.db.search? user option = some entry) :
    Effect s w (deleteSearch user option) (.ok ()) (w.db.removeSearch entry.id)
  | watch {video : Int} {user : String} {v : Video} {since : Instant} (found : w.db.video? video = some v)
      (registered : w.db.HasUser user) (window : w.now.minus s.dedupHours Duration.hour = .ok since) :
    Effect s w (watch video (some user)) (.ok ())
      ((w.db.rememberWatch user v since w.now).updateVideo video addView)
  | watchUnknown {video : Int} {user : Option String} {v : Video} (found : w.db.video? video = some v)
      (unknown : ∀ u, user = some u → ¬w.db.HasUser u) :
    Effect s w (watch video user) (.ok ()) (w.db.updateVideo video addView)
  | createVideo {detected : Option String} {owner : String} {data : NewVideo} {thumbnail content : String}
      {answer : Except Failure Unit} (registered : w.db.HasUser owner)
      (answered : answer = .ok () ∨ answer = .error .brokerDown) :
    Effect s w (createVideo detected owner data thumbnail content) answer
      (w.db.addVideo (w.newVideo s detected owner data))
  | changeVideo {video : Int} {changes : VideoChanges} {thumbnail content : Option String} (found : w.db.HasVideo video) :
    Effect s w (changeVideo video changes thumbnail content) (.ok ()) (w.db.updateVideo video changes.apply)
  | deleteVideo {video : Int} (found : w.db.HasVideo video) :
    Effect s w (deleteVideo video) (.ok ()) (w.db.removeVideos [video])

/-- Uploading the files of a new video leaves its row the only new one. -/
theorem db_of_addVideo {s : Settings} {row : Video} {thumbnail content : String} {w w' : World}
    (h : Service.addVideo s row thumbnail content w = (.ok (), w')) : w'.db = w.db.addVideo row :=
  (keeps_uploadFiles (f := World.db) (fun _ _ => rfl) (fun _ _ => rfl) (fun _ _ => rfl) _ _ _ _).of_eq
    (addVideo_eq_ok.mp h)

/-- The tables once a video has been made: its row is there beside the others. -/
theorem db_of_createVideo {s : Settings} {detected : Option String} {owner : String} {data : NewVideo}
    {thumbnail content : String} {w w' : World} {v : Video}
    (h : Service.createVideo s detected owner data thumbnail content w = (.ok v, w')) :
    v = w.newVideo s detected owner data ∧ w'.db = w.db.addVideo v := by
  obtain ⟨-, -, hv, w₁, hadd, hpush⟩ := createVideo_eq_ok h
  have hdb : w'.db = w₁.db := (keeps_push (f := World.db) (fun _ _ => rfl) _ _).of_eq hpush
  exact ⟨hv, hdb.trans (db_of_addVideo hadd)⟩

/-- The effect of a call that answered. -/
theorem effect_of_ok {s : Settings} {c : Call} {w w' : World} (h : c.perform s w = (.ok (), w')) :
    c.Effect s w (.ok ()) w'.db := by
  cases c with
  | register data =>
    obtain ⟨u, hu⟩ := ignoring_eq_ok h
    obtain ⟨hnew, rfl, rfl⟩ := registerUser_eq_ok hu
    exact .register hnew
  | changeUser id changes =>
    obtain ⟨a, ha⟩ := ignoring_eq_ok h
    obtain ⟨u, hu, -, rfl⟩ := updateUser_eq_ok ha
    exact .changeUser (Database.hasUser_of_user? hu)
  | deleteUser id =>
    obtain ⟨hu, rfl⟩ := deleteUser_eq_ok h
    exact .deleteUser hu
  | like user video =>
    obtain ⟨a, ha⟩ := ignoring_eq_ok h
    obtain ⟨hu, -, hv, ⟨-, hnew, hdb⟩ | ⟨-, hthere, hdb⟩⟩ := likeVideo_eq_ok ha
    · exact hdb ▸ .addLike hu (Database.hasVideo_of_video? hv) hnew
    · exact hdb ▸ .takeLike hu (Database.hasVideo_of_video? hv) hthere
  | dislike user video =>
    obtain ⟨hu, hv, hdb | hdb⟩ := dislikeVideo_eq_ok h
    · exact hdb ▸ .dislikeUnseen hu hv
    · exact hdb ▸ .dislike hu hv
  | notInterested video user =>
    obtain ⟨v, score, db, hv, hu, hdecay, rfl⟩ := notInterested_eq_ok h
    exact .notInterested hv hu hdecay
  | subscribe user channel =>
    obtain ⟨hu, hc, ⟨hthere, rfl⟩ | ⟨hnew, rfl⟩⟩ := subscribe_eq_ok h
    · exact .subscribeAgain hthere
    · exact .subscribe hu hc hnew
  | unsubscribe user channel =>
    obtain ⟨hu, rfl⟩ := unsubscribe_eq_ok h
    exact .unsubscribe hu
  | addSearch user option =>
    obtain ⟨hu, ⟨entry, hthere, rfl⟩ | ⟨hnew, rfl⟩⟩ := addSearch_eq_ok h
    · exact .redateSearch hu hthere
    · exact .addSearch hu hnew
  | deleteSearch user option =>
    obtain ⟨-, entry, hthere, rfl⟩ := deleteSearch_eq_ok h
    exact .deleteSearch hthere
  | watch video user =>
    obtain ⟨a, ha⟩ := ignoring_eq_ok h
    obtain ⟨v, -, hv, -, -, ⟨u, since, rfl, hu, hsince, rfl⟩ | ⟨hunknown, rfl⟩⟩ := watch_eq_ok ha
    · exact .watch hv hu hsince
    · exact .watchUnknown hv hunknown
  | createVideo detected owner data thumbnail content =>
    obtain ⟨v, hv⟩ := ignoring_eq_ok h
    obtain ⟨rfl, hdb⟩ := db_of_createVideo hv
    exact hdb ▸ .createVideo (createVideo_eq_ok hv).1 (Or.inl rfl)
  | changeVideo video changes thumbnail content =>
    obtain ⟨a, ha⟩ := ignoring_eq_ok h
    obtain ⟨v, hv, -, hdb⟩ := updateVideo_eq_ok ha
    exact hdb ▸ .changeVideo (Database.hasVideo_of_video? hv)
  | deleteVideo video =>
    obtain ⟨hv, rfl⟩ := deleteVideo_eq_ok h
    exact .deleteVideo hv

/-- The effect of a call that failed: none, but for a video that was made and could not be announced. -/
theorem effect_of_error {s : Settings} {c : Call} {w w' : World} {e : Failure} (h : c.perform s w = (.error e, w')) :
    c.Effect s w (.error e) w'.db := by
  have unchanged : ∀ {c : Call}, w'.db = w.db → c.Effect s w (.error e) w'.db := fun hdb => hdb ▸ .failed
  cases c with
  | register => exact unchanged (transaction_error_db (ignoring_eq_error h))
  | changeUser => exact unchanged (transaction_error_db (ignoring_eq_error h))
  | deleteUser => exact unchanged (transaction_error_db h)
  | like => exact unchanged (likeVideo_error_db (ignoring_eq_error h))
  | dislike => exact unchanged (transaction_error_db h)
  | notInterested => exact unchanged (transaction_error_db h)
  | subscribe => exact unchanged (transaction_error_db h)
  | unsubscribe => exact unchanged (transaction_error_db h)
  | addSearch => exact unchanged (transaction_error_db h)
  | deleteSearch => exact unchanged (transaction_error_db h)
  | watch => exact unchanged (transaction_error_db (ignoring_eq_error h))
  | createVideo detected owner data thumbnail content =>
    rcases createVideo_eq_error (ignoring_eq_error h) with rfl | hfailed | ⟨hu, -, hadd, -, rfl⟩
    · exact .failed
    · exact unchanged (addVideo_error_db hfailed)
    · exact db_of_addVideo hadd ▸ .createVideo hu (Or.inr rfl)
  | changeVideo => exact unchanged (transaction_error_db (ignoring_eq_error h))
  | deleteVideo => exact unchanged (transaction_error_db h)

/-- Whatever a call does, it is one of its effects. -/
theorem effect_perform (s : Settings) (c : Call) (w : World) :
    c.Effect s w (c.perform s w).1 (c.perform s w).2.db := by
  rcases h : c.perform s w with ⟨e | ⟨⟩, w'⟩
  · exact effect_of_error h
  · exact effect_of_ok h

/-- Every call keeps the keys of the tables. -/
theorem Effect.keyed {s : Settings} {w : World} {c : Call} {answer : Except Failure Unit} {db : Database}
    (h : c.Effect s w answer db) (hw : w.db.Keyed) : db.Keyed := by
  cases h with
  | failed => exact hw
  | register hnew => exact hw.addUser hnew
  | changeUser => exact hw.updateUser _ fun _ => rfl
  | deleteUser => exact (hw.removeVideos _).removeUser _
  | addLike _ _ hnew => exact hw.addLike hnew
  | takeLike => exact hw.removeLike _ _
  | dislike => exact hw.removeLike _ _
  | dislikeUnseen => exact hw
  | notInterested _ _ hdecay => exact hw.decayCategory hdecay
  | subscribe _ _ hnew => exact hw.addSubscription hnew
  | subscribeAgain => exact hw
  | unsubscribe => exact hw.removeSubscription _ _
  | addSearch => exact hw.replaceSearches _ _ _ _
  | redateSearch => exact hw.redateSearch _ _
  | deleteSearch => exact hw.removeSearch _
  | watch => exact ((hw.countWatch _ _ _).refreshWatch _ _ _ _).updateVideo _ fun _ => rfl
  | watchUnknown => exact hw.updateVideo _ fun _ => rfl
  | createVideo => exact hw.addVideo rfl
  | changeVideo => exact hw.updateVideo _ fun _ => rfl
  | deleteVideo => exact hw.removeVideos _

end Call

/-! ## Replays -/

/-- A call, and the world that surrounds the tables when it is made. -/
structure Step where
  around : World
  call : Call

/-- The world in which a step makes its call, given the tables. -/
def Step.world (step : Step) (db : Database) : World := { step.around with db := db }

/-- The tables after a step. -/
def Step.run (s : Settings) (db : Database) (step : Step) : Database := (step.call.perform s (step.world db)).2.db

/-- The tables after some steps, beginning with empty ones. -/
def replay (s : Settings) (steps : List Step) : Database := steps.foldl (Step.run s) {}

theorem replay_concat (s : Settings) (steps : List Step) (step : Step) :
    replay s (steps ++ [step]) = step.run s (replay s steps) := by
  simp [replay, List.foldl_append]

theorem replay_append_cons (s : Settings) (before : List Step) (step : Step) (after : List Step) :
    replay s (before ++ step :: after) = after.foldl (Step.run s) (replay s (before ++ [step])) := by
  simp [replay, List.foldl_append]

/-- What holds of empty tables and is kept by every effect of a call holds after every replay. -/
theorem replay_induction {s : Settings} {P : Database → Prop} (empty : P {})
    (step : ∀ (w : World) (c : Call) (answer : Except Failure Unit) (db : Database),
      c.Effect s w answer db → P w.db → P db) :
    ∀ steps, P (replay s steps) := by
  intro steps
  suffices ∀ db, P db → P (steps.foldl (Step.run s) db) from this {} empty
  induction steps with
  | nil => exact fun _ h => h
  | cons a steps ih =>
    intro db h
    exact ih _ (step (a.world db) a.call _ _ (a.call.effect_perform s (a.world db)) h)

/-- Tables that were reached by calls have keys. -/
theorem keyed_replay (s : Settings) (steps : List Step) : (replay s steps).Keyed :=
  replay_induction Database.Keyed.empty (fun _ _ _ _ h hw => h.keyed hw) steps

/-! ## What comes and stays -/

/-- Something comes into the tables with a step of a run and stays while others follow. What came before may have gone. -/
inductive Since (s : Settings) (there : Database → Prop) (before : List Step) (coming : Step) : List Step → Prop where
  | comes (absent : ¬there (replay s before)) (present : there (replay s (before ++ [coming]))) :
    Since s there before coming []
  | stays {after : List Step} {step : Step} (since : Since s there before coming after)
      (present : there (replay s (before ++ coming :: after ++ [step]))) : Since s there before coming (after ++ [step])

theorem Since.present {s : Settings} {there : Database → Prop} {before after : List Step} {coming : Step}
    (h : Since s there before coming after) : there (replay s (before ++ coming :: after)) := by
  cases h with
  | comes _ present => exact present
  | stays _ present => simpa using present

/-- It was not there before the step, and has been there after each of the steps from then on. -/
theorem since_iff {s : Settings} {there : Database → Prop} {before after : List Step} {coming : Step} :
    Since s there before coming after ↔
      ¬there (replay s before) ∧ ∀ middle, middle <+: after → there (replay s (before ++ coming :: middle)) := by
  induction after using List.reverseRecOn with
  | nil =>
    constructor
    · intro h
      refine ⟨?_, fun middle hmiddle => List.prefix_nil.mp hmiddle ▸ h.present⟩
      generalize hnil : ([] : List Step) = after at h
      cases h with
      | comes absent => exact absent
      | stays => simp at hnil
    · exact fun ⟨habsent, hpresent⟩ => .comes habsent (hpresent [] (List.prefix_refl []))
  | append_singleton after step ih =>
    constructor
    · intro h
      generalize hafter : after ++ [step] = steps at h
      cases h with
      | comes => simp at hafter
      | stays since present =>
        obtain ⟨rfl, hstep⟩ := List.append_inj' hafter rfl
        refine ⟨(ih.mp since).1, fun middle hmiddle => ?_⟩
        rcases List.prefix_concat_iff.mp hmiddle with rfl | hmiddle
        · simpa using present
        · exact (ih.mp since).2 middle hmiddle
    · rintro ⟨habsent, hpresent⟩
      refine .stays (ih.mpr ⟨habsent, fun middle hmiddle => hpresent middle (hmiddle.trans (List.prefix_append _ _))⟩) ?_
      simpa using hpresent _ (List.prefix_refl _)

/-- What is in the tables after a run came with one of its steps and has stayed since. -/
theorem exists_since {s : Settings} {there : Database → Prop} (empty : ¬there {}) {steps : List Step}
    (h : there (replay s steps)) :
    ∃ before coming after, steps = before ++ coming :: after ∧ Since s there before coming after := by
  induction steps using List.reverseRecOn with
  | nil => exact absurd h empty
  | append_singleton steps step ih =>
    by_cases hthere : there (replay s steps)
    · obtain ⟨before, coming, after, rfl, hsince⟩ := ih hthere
      exact ⟨before, coming, after ++ [step], by simp, hsince.stays h⟩
    · exact ⟨steps, step, [], rfl, .comes hthere h⟩

end VideoShare
