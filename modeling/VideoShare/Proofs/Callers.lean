import VideoShare.Proofs.DecimalText
import VideoShare.Proofs.Requests
import Mathlib.Data.List.Induction

/-!
# Callers and other users

A request arrives at one endpoint or at none, perhaps after it was sent on to a path without the slashes at its end. What it does to
the tables is what one call does that belongs to the endpoint (`respond_db`), so requests reach no tables that calls do not reach
(`reached_browse`), and a request spares all users but the one it names (`respond_spares`). A request to change or remove a video
that does not come from the owner stops at the look at the owner, before anything has happened (`respond_of_not_owner`).
-/

namespace VideoShare

namespace Http

/-! ## Arrivals -/

/-- Where a request arrives: the endpoint, what the path holds there, and what is asked. -/
structure Arrival where
  endpoint : Endpoint
  held : List String
  query : Query

/-- Where a request for a target arrives, which may be redirected as often as the fuel allows. -/
def arrivalOf (method : String) : Nat → Target → Option Arrival
  | 0, _ => none
  | fuel + 1, target =>
    match lead method target.path with
    | .found endpoint held => some ⟨endpoint, held, readQuery target.query⟩
    | .wrongMethod => none
    | .nowhere =>
      match redirect? method target.path with
      | some path => arrivalOf method fuel (target.redirected path)
      | none => none

namespace Request

/-- Where a request arrives; nowhere when it asks beforehand whether it may be sent. -/
def arrival? (r : Request) : Option Arrival :=
  match preflight? r with
  | some _ => none
  | none => arrivalOf r.method 21 (Target.ofText r.address)

/-- Whether a request arrives at an endpoint. -/
def ArrivesAt (r : Request) (e : Endpoint) : Prop := ∃ a, r.arrival? = some a ∧ a.endpoint = e

/-- Whether the user of a request owns the video that a step of a path names. -/
def Owns (r : Request) (db : Database) (step : String) : Prop :=
  ∃ id v, videoIdOf step = .ok id ∧ db.video? id = some v ∧ r.userId? = some v.ownerId

end Request

section Responding

variable {site : Site} {r : Request} {w : World}

/-- A failure that is answered leaves what it left before. -/
theorem answering_snd (x : Service Answer) : (answering x w).2 = (x w).2 := by
  unfold answering
  rcases x w with ⟨e | a, w'⟩ <;> rfl

theorem respondTo_snd (fuel : Nat) (target : Target) :
    (respondTo site r fuel target w).2 =
      match arrivalOf r.method fuel target with
      | some a => (serve site r a.query a.held a.endpoint w).2
      | none => w := by
  induction fuel generalizing target with
  | zero => rfl
  | succ fuel ih =>
    unfold respondTo arrivalOf
    cases lead r.method target.path with
    | found endpoint held => exact answering_snd _
    | wrongMethod => rfl
    | nowhere =>
      cases redirect? r.method target.path with
      | some path => exact ih _
      | none => rfl

/-- A request leaves what it leaves where it arrives. -/
theorem respond_snd (site : Site) (r : Request) (w : World) :
    (respond site r w).2 =
      match r.arrival? with
      | some a => (serve site r a.query a.held a.endpoint w).2
      | none => w := by
  cases hasked : preflight? r with
  | some a => simp only [respond, Request.arrival?, hasked]
  | none => simp only [respond, Request.arrival?, hasked, respondTo_snd]

theorem respond_of_arrival {a : Arrival} (h : r.arrival? = some a) :
    (respond site r w).2 = (serve site r a.query a.held a.endpoint w).2 := by
  rw [respond_snd, h]

/-- What leads somewhere has the method of a route. -/
theorem route_of_lead {method path : String} {e : Endpoint} {held : List String} (h : lead method path = .found e held) :
    ∃ route ∈ routes, route.method = method := by
  simp only [lead] at h
  split at h
  · rename_i route _ hfirst
    obtain ⟨fitting, hroute, hfit⟩ := List.mem_filterMap.mp (List.mem_of_find?_eq_some hfirst)
    obtain ⟨_, -, heq⟩ := Option.map_eq_some_iff.mp hfit
    obtain ⟨rfl, -⟩ := Prod.mk.inj heq
    exact ⟨fitting, hroute, by simpa using List.find?_some hfirst⟩
  · split at h <;> cases h

theorem route_of_arrivalOf {method : String} {fuel : Nat} {target : Target} {a : Arrival} (h : arrivalOf method fuel target = some a) :
    ∃ route ∈ routes, route.method = method := by
  induction fuel generalizing target with
  | zero => cases h
  | succ fuel ih =>
    cases hlead : lead method target.path with
    | found endpoint held => exact route_of_lead hlead
    | wrongMethod => simp [arrivalOf, hlead] at h
    | nowhere =>
      cases hpath : redirect? method target.path with
      | some path =>
        simp only [arrivalOf, hlead, hpath] at h
        exact ih h
      | none => simp [arrivalOf, hlead, hpath] at h

theorem respondTo_of_arrivalOf {fuel : Nat} {target : Target} {a : Arrival} (h : arrivalOf r.method fuel target = some a) :
    respondTo site r fuel target w = answering (serve site r a.query a.held a.endpoint) w := by
  induction fuel generalizing target with
  | zero => cases h
  | succ fuel ih =>
    cases hlead : lead r.method target.path with
    | found endpoint held =>
      simp only [arrivalOf, hlead, Option.some.injEq] at h
      subst h
      simp only [respondTo, hlead]
    | wrongMethod => simp [arrivalOf, hlead] at h
    | nowhere =>
      cases hpath : redirect? r.method target.path with
      | some path =>
        simp only [arrivalOf, hlead, hpath] at h
        simp only [respondTo, hlead, hpath]
        exact ih h
      | none => simp [arrivalOf, hlead, hpath] at h

/-- A request is answered with what it is answered where it arrives. No route is one for the head alone. -/
theorem respond_eq_answering {a : Arrival} (h : r.arrival? = some a) :
    respond site r w = answering (serve site r a.query a.held a.endpoint) w := by
  unfold Request.arrival? at h
  split at h
  · cases h
  · rename_i hasked
    obtain ⟨route, hroute, hmethod⟩ := route_of_arrivalOf h
    have hhead : r.method ≠ "HEAD" := by
      have hall : ∀ route ∈ routes, route.method ≠ "HEAD" := by decide
      exact hmethod ▸ hall route hroute
    simp only [respond, hasked, respondTo_of_arrivalOf h, if_neg hhead]

/-- A request does nothing to the tables, or what one call does that belongs to where the request arrives and is made by whom the
request names. -/
theorem respond_db (site : Site) (r : Request) (w : World) :
    (respond site r w).2.db = w.db ∨
      ∃ (c : Call) (w₁ : World) (e : Endpoint), r.ArrivesAt e ∧ e ∈ c.endpoints ∧ c.By w.db r.userId? ∧
        w₁.db = w.db ∧ (respond site r w).2.db = (c.perform site.settings w₁).2.db := by
  cases harrival : r.arrival? with
  | none =>
    rw [respond_snd, harrival]
    exact Or.inl rfl
  | some a =>
    rw [respond_of_arrival harrival]
    rcases serve_actsAs site r a.query a.held (w := w) a.endpoint with hsame | ⟨c, w₁, ⟨hat, hby⟩, hdb, hdone⟩
    · exact Or.inl hsame
    · exact Or.inr ⟨c, w₁, a.endpoint, ⟨a, harrival, rfl⟩, hat, hby, hdb, hdone⟩

/-- The tables that a request leaves can be reached by calls, if those before can. -/
theorem reached_respond (h : ∃ steps, w.db = replay site.settings steps) :
    ∃ steps, (respond site r w).2.db = replay site.settings steps := by
  obtain ⟨steps, hw⟩ := h
  rcases respond_db site r w with hsame | ⟨c, w₁, -, -, -, -, hdb, hdone⟩
  · exact ⟨steps, hsame.trans hw⟩
  · refine ⟨steps ++ [⟨w₁, c⟩], ?_⟩
    rw [replay_concat, ← hw, ← hdb, hdone]
    rfl

/-- A request, and the world that surrounds the tables when it comes. -/
structure Visit where
  around : World
  request : Request

/-- The tables after some requests, beginning with empty ones. -/
def browse (site : Site) (visits : List Visit) : Database :=
  visits.foldl (fun db visit => (respond site visit.request { visit.around with db := db }).2.db) {}

/-- Whatever tables requests leave, calls reach them. -/
theorem reached_browse (site : Site) (visits : List Visit) : ∃ steps, browse site visits = replay site.settings steps := by
  induction visits using List.reverseRecOn with
  | nil => exact ⟨[], rfl⟩
  | append_singleton visits visit ih =>
    rw [browse, List.foldl_concat]
    exact reached_respond (w := { visit.around with db := browse site visits }) ih

/-- A request spares all users but the one that it names. -/
theorem respond_spares {other : String} (hkeys : w.db.Keyed) (hother : w.db.HasUser other) (hne : r.userId? ≠ some other) :
    w.db.Spares (respond site r w).2.db r.userId? (r.ArrivesAt .watchVideo) (r.ArrivesAt .deleteMe) other := by
  -- one call is behind it, and a watch or a departure is made at one endpoint only
  rcases respond_db site r w with hsame | ⟨c, w₁, e, harrives, hat, hby, hdb, hdone⟩
  · rw [hsame]
    exact .of_shareOf_eq rfl fun v hv => ⟨v, hv, rfl⟩
  · rw [hdone]
    rw [← hdb] at hkeys hother hby ⊢
    refine ((c.effect_perform site.settings w₁).spares hkeys hby hother hne).mono ?_ ?_
    · rintro ⟨video, user, rfl⟩
      simpa [← List.mem_singleton.mp hat] using harrives
    · rintro ⟨user, rfl⟩
      simpa [← List.mem_singleton.mp hat] using harrives

end Responding

/-! ## Videos of others -/

section Owned

variable {site : Site} {r : Request} {w : World}

/-- Where videos are changed and removed, nothing happens unless the owner asks for it. -/
theorem serve_of_not_owner {e : Endpoint} {q : Query} {held : List String} (he : e = .updateVideo ∨ e = .deleteVideo)
    (hnot : ¬r.Owns w.db (held.getD 0 "")) : (serve site r q held e w).2 = w := by
  have hothers : ∀ id, videoIdOf (held.getD 0 "") = .ok id → ∀ v, w.db.video? id = some v → r.userId? ≠ some v.ownerId :=
    fun id hid v hv howner => hnot ⟨id, v, hid, hv, howner⟩
  rcases he with rfl | rfl
  · rw [serve, updateVideoEndpoint, withForm]
    cases r.form with
    | error fault => rfl
    | ok form =>
      dsimp only
      unfold withFields
      cases hread : ChangeForm.read (held.getD 0 "") form with
      | error errors => rfl
      | ok change => exact requireOwner_bind_of_not_owner (hothers change.id (id_of_read hread)) _
  · rw [serve, deleteVideoEndpoint]
    unfold withFields
    cases hid : videoIdOf (held.getD 0 "") with
    | error errors => rfl
    | ok id => exact requireOwner_bind_of_not_owner (hothers id hid) _

theorem respond_of_not_owner {a : Arrival} (h : r.arrival? = some a) (he : a.endpoint = .updateVideo ∨ a.endpoint = .deleteVideo)
    (hnot : ¬r.Owns w.db (a.held.getD 0 "")) : (respond site r w).2 = w := by
  rw [respond_of_arrival h]
  exact serve_of_not_owner he hnot

end Owned

/-! ## Paths to a video -/

section Paths

variable {method path : String}

/-- The first route with the method is taken, if it fits. -/
theorem lead_of_first {taken : Route} {held : List String} (before after : List Route) (hroutes : routes = before ++ taken :: after)
    (hfit : Step.fit? taken.shape (Text.split '/' path) = some held) (hmethod : taken.method = method)
    (hbefore : ∀ other ∈ before, other.method ≠ method) : lead method path = .found taken.endpoint held := by
  have hfound : (routes.filterMap fun r => (Step.fit? r.shape (Text.split '/' path)).map fun held => (r, held)).find?
      (fun f => f.1.method == method) = some (taken, held) := by
    rw [hroutes, List.filterMap_append, List.find?_append, List.filterMap_cons, hfit]
    have hnone : (before.filterMap fun r => (Step.fit? r.shape (Text.split '/' path)).map fun held => (r, held)).find?
        (fun f => f.1.method == method) = none := by
      refine List.find?_eq_none.mpr fun f hf => ?_
      obtain ⟨other, hother, hsome⟩ := List.mem_filterMap.mp hf
      obtain ⟨_, -, rfl⟩ := Option.map_eq_some_iff.mp hsome
      simpa using hbefore other hother
    simp [hnone, hmethod]
  simp only [lead, hfound]

/-- The steps of the path of a video. -/
theorem split_videoPath {step : String} (h : '/' ∉ step.toList) :
    Text.split '/' ("/api/videos/" ++ step) = ["", "api", "videos", step] := by
  have hlist : ("/api/videos/" ++ step).toList =
      [] ++ '/' :: (['a', 'p', 'i'] ++ '/' :: (['v', 'i', 'd', 'e', 'o', 's'] ++ '/' :: step.toList)) := by
    rw [String.toList_append]
    rfl
  rw [Text.split, hlist, Text.splitAt_append_cons (by decide), Text.splitAt_append_cons (by decide),
    Text.splitAt_append_cons (by decide), Text.splitAt_of_not_mem h]
  simp

/-- The path of a video has the shape that the routes for changing and removing it have. -/
theorem fit_videoPath {step : String} (hne : step ≠ "") (h : '/' ∉ step.toList) :
    Step.fit? (shapeOf "/api/videos/*") (Text.split '/' ("/api/videos/" ++ step)) = some [step] := by
  have hshape : shapeOf "/api/videos/*" = [.fixed "", .fixed "api", .fixed "videos", .any] := by decide
  simp [hshape, split_videoPath h, Step.fit?, isFixedStep, hne]

theorem lead_put_video {step : String} (hne : step ≠ "") (h : '/' ∉ step.toList) :
    lead "PUT" ("/api/videos/" ++ step) = .found .updateVideo [step] :=
  lead_of_first (routes.take 7) (routes.drop 8) rfl (fit_videoPath hne h) rfl (by decide)

theorem lead_delete_video {step : String} (hne : step ≠ "") (h : '/' ∉ step.toList) :
    lead "DELETE" ("/api/videos/" ++ step) = .found .deleteVideo [step] :=
  lead_of_first (routes.take 8) (routes.drop 9) rfl (fit_videoPath hne h) rfl (by decide)

end Paths

section Arrivals

variable {site : Site} {r : Request} {w : World}

/-- Only a request for the options asks beforehand. -/
theorem preflight?_of_ne (h : r.method ≠ "OPTIONS") : preflight? r = none := by
  unfold preflight?
  split
  · rename_i hmethod _ _
    exact absurd hmethod h
  · rfl

theorem arrival_of_lead {e : Endpoint} {held : List String} (hmethod : r.method ≠ "OPTIONS")
    (hlead : lead r.method (Target.ofText r.address).path = .found e held) :
    r.arrival? = some ⟨e, held, readQuery (Target.ofText r.address).query⟩ := by
  simp only [Request.arrival?, preflight?_of_ne hmethod, arrivalOf, hlead]

/-- A request to change or to remove the video at a path does nothing unless it is the owner's. -/
theorem respond_videoPath_of_not_owner {step : String} (hne : step ≠ "") (hslash : '/' ∉ step.toList)
    (hpath : (Target.ofText r.address).path = "/api/videos/" ++ step) (hmethod : r.method = "PUT" ∨ r.method = "DELETE")
    (hnot : ¬r.Owns w.db step) : (respond site r w).2 = w := by
  rcases hmethod with hput | hdelete
  · have hlead : lead r.method (Target.ofText r.address).path = .found .updateVideo [step] := by
      rw [hput, hpath, lead_put_video hne hslash]
    exact respond_of_not_owner (arrival_of_lead (by simp [hput]) hlead) (Or.inl rfl) hnot
  · have hlead : lead r.method (Target.ofText r.address).path = .found .deleteVideo [step] := by
      rw [hdelete, hpath, lead_delete_video hne hslash]
    exact respond_of_not_owner (arrival_of_lead (by simp [hdelete]) hlead) (Or.inr rfl) hnot

end Arrivals

end Http

/-- Whatever a request asks for, and whether it succeeds or fails, it spares all users but the one it names, and nothing at all
happens when somebody who is not the owner asks to change or to remove a video. -/
theorem requests_spare_others (site : Http.Site) (steps : List Step) (w : World) (hw : w.db = replay site.settings steps)
    (r : Http.Request) :
    (∀ other, w.db.HasUser other → r.userId? ≠ some other →
      w.db.Spares (Http.respond site r w).2.db r.userId? (r.ArrivesAt .watchVideo) (r.ArrivesAt .deleteMe) other) ∧
    ∀ step, step ≠ "" → '/' ∉ step.toList → (Http.Target.ofText r.address).path = "/api/videos/" ++ step →
      r.method = "PUT" ∨ r.method = "DELETE" → ¬r.Owns w.db step → (Http.respond site r w).2 = w := by
  refine ⟨fun other hother hne => ?_, fun step hne hslash hpath hmethod hnot => ?_⟩
  · exact Http.respond_spares (hw ▸ keyed_replay site.settings steps) hother hne
  · exact Http.respond_videoPath_of_not_owner hne hslash hpath hmethod hnot

namespace TwoChannels

/-- Ann and Bob have a video each. Bob likes both, has watched Ann's, and has subscribed to her channel. -/
def steps : List Step :=
  [⟨{}, .register ⟨"ann", "Ann", none, none, none⟩⟩,
    ⟨{}, .register ⟨"bob", "Bob", none, none, none⟩⟩,
    ⟨{}, .createVideo none "ann" ⟨"Hills", none, "Travel", some "en", 60⟩ "thumbnail" "content"⟩,
    ⟨{}, .createVideo none "bob" ⟨"Chess", none, "Games", some "en", 60⟩ "thumbnail" "content"⟩,
    ⟨{ now := 25 * Duration.hour }, .watch 1 (some "bob")⟩,
    ⟨{}, .like "bob" 1⟩,
    ⟨{}, .like "bob" 2⟩,
    ⟨{}, .subscribe "bob" "ann"⟩]

def site : Http.Site := { settings := {} }

def world : World := { db := replay {} steps, now := 25 * Duration.hour }

def annWatchesChess : Http.Request := { method := "GET", address := "/api/videos/2/watch", headers := [("X-User-Id", "ann")] }

def annLeaves : Http.Request := { method := "DELETE", address := "/api/users/me", headers := [("X-User-Id", "ann")] }

def bobRemovesHills : Http.Request := { method := "DELETE", address := "/api/videos/1", headers := [("X-User-Id", "bob")] }

/-- Chess has a view more when Ann watches it. When she leaves, Bob's like and watch of the hills go with them, and his subscription
with her channel; his own video and his like of it stay. Bob cannot remove the hills. -/
theorem bob_is_spared :
    (world.db.Spares (Http.respond site annWatchesChess world).2.db (some "ann") (annWatchesChess.ArrivesAt .watchVideo)
        (annWatchesChess.ArrivesAt .deleteMe) "bob" ∧
      ((Http.respond site annWatchesChess world).2.db.shareOf "bob").videos =
        [⟨2, "bob", "Chess", none, "Games", "en", 60, 1, 0⟩]) ∧
    (world.db.Spares (Http.respond site annLeaves world).2.db (some "ann") (annLeaves.ArrivesAt .watchVideo)
        (annLeaves.ArrivesAt .deleteMe) "bob" ∧
      (Http.respond site annLeaves world).2.db.shareOf "bob" =
        { world.db.shareOf "bob" with likes := [⟨"bob", 2, 0⟩], watches := [], subscriptions := [] }) ∧
    (Http.respond site bobRemovesHills world).2 = world := by
  have hbob : world.db.HasUser "bob" := ⟨⟨"bob", "Bob", none, some "users/default.jpg", "ROLE_USER", 0⟩, by decide, rfl⟩
  have hnot : ¬bobRemovesHills.Owns world.db "1" := by
    rintro ⟨id, v, hid, hv, howner⟩
    have hone : Http.videoIdOf "1" = .ok 1 := rfl
    have hhills : world.db.video? 1 = some ⟨1, "ann", "Hills", none, "Travel", "en", 60, 1, 0⟩ := by decide
    rw [Except.ok.inj (hid.symm.trans hone), hhills] at hv
    rw [← Option.some.inj hv] at howner
    exact absurd howner (by decide)
  refine ⟨⟨?_, by decide +kernel⟩, ⟨?_, by decide +kernel⟩, ?_⟩
  · exact (requests_spare_others site steps world rfl annWatchesChess).1 "bob" hbob (by decide)
  · exact (requests_spare_others site steps world rfl annLeaves).1 "bob" hbob (by decide)
  · exact (requests_spare_others site steps world rfl bobRemovesHills).2 "1" (by decide) (by decide) (by decide)
      (Or.inr rfl) hnot

end TwoChannels

end VideoShare
