import VideoShare.Http.ImageEndpoints
import VideoShare.Http.Route
import VideoShare.Http.UserEndpoints
import VideoShare.Http.VideoEndpoints

/-!
# Responding

Every request is answered, whatever becomes of it. A browser that asks beforehand whether it may send a request is told so without
a route being looked for. A path that leads nowhere because of slashes at its end is tried without them, as a request of its own.
What a request leads to is run, and a failure becomes an answer; an answer to a request for the head alone has no content.
-/

namespace VideoShare.Http

/-- Serves a request at an endpoint, given what its path holds. -/
def serve (site : Site) (r : Request) (q : Query) (held : List String) : Endpoint → Service Answer
  | .root => pure (.ok (.obj [("ok", .bool true), ("service", .str "youtback")]))
  | .findVideos => findVideosEndpoint q
  | .searchTitles => searchTitlesEndpoint q
  | .showVideo => showVideoEndpoint (held.getD 0 "")
  | .watchVideo => watchVideoEndpoint site r (held.getD 0 "")
  | .playlist => playlistEndpoint site (held.getD 0 "")
  | .segment => segmentEndpoint site (held.getD 0 "") (held.getD 1 "")
  | .createVideo => createVideoEndpoint site r
  | .updateVideo => updateVideoEndpoint site r (held.getD 0 "")
  | .deleteVideo => deleteVideoEndpoint site r (held.getD 0 "")
  | .listUsers => listUsersEndpoint q
  | .registerUser => registerUserEndpoint site r
  | .showUser => showUserEndpoint (held.getD 0 "")
  | .updateMe => updateMeEndpoint r
  | .updateMyPicture => updateMyPictureEndpoint site r
  | .deleteMe => deleteMeEndpoint site r
  | .videosOfUser => videosOfUserEndpoint q (held.getD 0 "")
  | .likesOfUser => likesOfUserEndpoint (held.getD 0 "")
  | .channelsOfUser => channelsOfUserEndpoint (held.getD 0 "")
  | .watchHistory => watchHistoryEndpoint r
  | .searchHistory => searchHistoryEndpoint r
  | .addSearch => addSearchEndpoint site r q
  | .deleteSearch => deleteSearchEndpoint r q
  | .likeVideo => likeVideoEndpoint r (held.getD 0 "")
  | .hasLiked => hasLikedEndpoint r (held.getD 0 "")
  | .dislikeVideo => dislikeVideoEndpoint r (held.getD 0 "")
  | .notInterested => notInterestedEndpoint site r (held.getD 0 "")
  | .subscribe => subscribeEndpoint r (held.getD 0 "")
  | .unsubscribe => unsubscribeEndpoint r (held.getD 0 "")
  | .hasSubscribed => hasSubscribedEndpoint r (held.getD 0 "")
  | .recommend => recommendEndpoint site r q
  | .uploadPicture => uploadPictureEndpoint site r
  | .uploadThumbnail => uploadThumbnailEndpoint site r
  | .defaultPicture => defaultPictureEndpoint site
  | .showImage => showImageEndpoint (held.getD 0 "") (held.getD 1 "") (held.getD 2 "")
  | .deleteImage => deleteImageEndpoint site (held.getD 0 "") (held.getD 1 "") (held.getD 2 "")

/-- Runs an endpoint; a failure is answered too. -/
def answering (x : Service Answer) (w : World) : Answer × World :=
  match x w with
  | (.ok a, w') => (a, w')
  | (.error e, w') => (.ofFailure e, w')

/-! ## Asking beforehand -/

/-- The methods that a browser may ask for beforehand. -/
def allowedMethods : List String := ["DELETE", "GET", "HEAD", "OPTIONS", "PATCH", "POST", "PUT", "QUERY"]

/-- What a browser asks for that it may not: another method, and to be let into a private network. -/
def disallowed (r : Request) (method : String) : List String :=
  (if allowedMethods.contains method then [] else ["method"]) ++
    (if (r.header? "access-control-request-private-network").isSome then ["private-network"] else [])

/-- The answer to a browser that asks beforehand; none when a request does not ask that. -/
def preflight? (r : Request) : Option Answer :=
  match r.method, r.header? "origin", r.header? "access-control-request-method" with
  | "OPTIONS", some _, some method =>
    match disallowed r method with
    | [] => some (.plain 200 "OK")
    | parts => some (.plain 400 ("Disallowed CORS " ++ ", ".intercalate parts))
  | _, _, _ => none

/-! ## The response -/

/-- The path without the slashes at its end, if it has any and leads somewhere without them. -/
def redirect? (method path : String) : Option String :=
  let shorter := Text.trimEnd '/' path
  if path ≠ "/" ∧ Text.endsWith path "/" ∧ lead method shorter ≠ .nowhere then some shorter else none

/-- The answer to a request for a target, which may be redirected as often as the fuel allows. -/
def respondTo (site : Site) (r : Request) : Nat → Target → World → Answer × World
  | 0, _, w => (.serverError, w)
  | fuel + 1, target, w =>
    match lead r.method target.path with
    | .found endpoint held => answering (serve site r (readQuery target.query) held endpoint) w
    | .wrongMethod => (.detail 405 "Method Not Allowed", w)
    | .nowhere =>
      match redirect? r.method target.path with
      | some path => respondTo site r fuel (target.redirected path) w
      | none => (.detail 404 "Not Found", w)

/-- The answer to a request, and the world it leaves. -/
def respond (site : Site) (r : Request) (w : World) : Answer × World :=
  let (answer, w) := match preflight? r with
    | some a => (a, w)
    | none => respondTo site r 21 (Target.ofText r.address) w
  (if r.method = "HEAD" then answer.withoutContent else answer, w)

end VideoShare.Http
