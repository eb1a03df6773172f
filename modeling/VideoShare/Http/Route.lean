import VideoShare.Text.Pieces

/-!
# Routes

A route leads requests with one method and paths of one shape to an endpoint. A shape is a sequence of steps: some are
fixed, the others hold one step of the path each, whatever it is. The first route that fits both path and method is taken;
where the path fits and the method does not, the method is not allowed. A path that ends in a fixed step may have a line end
behind it.
-/

namespace VideoShare.Http

/-- Where a request can lead. -/
inductive Endpoint where
  | root
  | findVideos | searchTitles | showVideo | watchVideo | playlist | segment | createVideo | updateVideo | deleteVideo
  | listUsers | registerUser | showUser | updateMe | updateMyPicture | deleteMe
  | videosOfUser | likesOfUser | channelsOfUser
  | watchHistory | searchHistory | addSearch | deleteSearch
  | likeVideo | hasLiked | dislikeVideo | notInterested
  | subscribe | unsubscribe | hasSubscribed
  | recommend
  | uploadPicture | uploadThumbnail | defaultPicture | showImage | deleteImage
  deriving DecidableEq, Repr

/-- A step of the shape of a path. -/
inductive Step where
  | fixed (s : String)
  | any
  deriving DecidableEq, Repr

/-- A route. -/
structure Route where
  method : String
  shape : List Step
  endpoint : Endpoint
  deriving DecidableEq, Repr

/-- The shape written as a path, with a star for a step that holds anything. -/
def shapeOf (path : String) : List Step :=
  (Text.split '/' path).map fun s => if s = "*" then .any else .fixed s

/-- The route with a method and a shape. -/
def route (method path : String) (endpoint : Endpoint) : Route := ⟨method, shapeOf path, endpoint⟩

/-- The routes in the order in which they are tried. -/
def routes : List Route :=
  [route "GET" "/api/videos" .findVideos,
    route "GET" "/api/videos/search" .searchTitles,
    route "GET" "/api/videos/*" .showVideo,
    route "GET" "/api/videos/*/watch" .watchVideo,
    route "GET" "/api/videos/*/index.m3u8" .playlist,
    route "GET" "/api/videos/*/*" .segment,
    route "POST" "/api/videos" .createVideo,
    route "PUT" "/api/videos/*" .updateVideo,
    route "DELETE" "/api/videos/*" .deleteVideo,
    route "GET" "/api/users" .listUsers,
    route "POST" "/api/users" .registerUser,
    route "GET" "/api/users/*" .showUser,
    route "PUT" "/api/users/me" .updateMe,
    route "PUT" "/api/users/me/picture" .updateMyPicture,
    route "DELETE" "/api/users/me" .deleteMe,
    route "GET" "/api/users/*/videos" .videosOfUser,
    route "GET" "/api/users/*/likes" .likesOfUser,
    route "GET" "/api/users/*/subscribes" .channelsOfUser,
    route "GET" "/api/users/me/watch-history" .watchHistory,
    route "GET" "/api/users/me/search-history" .searchHistory,
    route "POST" "/api/users/me/search-history" .addSearch,
    route "DELETE" "/api/users/me/search-history" .deleteSearch,
    route "POST" "/api/users/me/likes/*" .likeVideo,
    route "GET" "/api/users/me/likes/*" .hasLiked,
    route "POST" "/api/users/me/dislikes/*" .dislikeVideo,
    route "POST" "/api/users/me/not-interested/*" .notInterested,
    route "POST" "/api/users/me/subscribes/*" .subscribe,
    route "DELETE" "/api/users/me/subscribes/*" .unsubscribe,
    route "GET" "/api/users/me/subscribes/*" .hasSubscribed,
    route "GET" "/api/recommend" .recommend,
    route "POST" "/api/image/user" .uploadPicture,
    route "POST" "/api/image/thumbnail" .uploadThumbnail,
    route "GET" "/api/image/user/default" .defaultPicture,
    route "GET" "/api/image/*/*/*" .showImage,
    route "DELETE" "/api/image/*/*/*" .deleteImage,
    route "GET" "/" .root]

/-- Whether a step of a path is the fixed one, or the last one with a line end behind it. -/
def isFixedStep (s step : String) (isLast : Bool) : Bool := step == s || (isLast && step == s ++ "\n")

/-- What the steps of a path hold where a shape holds anything; none when the path does not have the shape. -/
def Step.fit? : List Step → List String → Option (List String)
  | [], [] => some []
  | .fixed s :: shape, step :: steps =>
    if isFixedStep s step (steps.isEmpty) then Step.fit? shape steps else none
  | .any :: shape, step :: steps =>
    if step = "" then none else (Step.fit? shape steps).map (step :: ·)
  | _, _ => none

/-- Where a request leads. -/
inductive Lead where
  | found (endpoint : Endpoint) (held : List String)
  | wrongMethod
  | nowhere
  deriving DecidableEq, Repr

/-- Where a method and a path lead. -/
def lead (method path : String) : Lead :=
  let fitting := routes.filterMap fun r => (Step.fit? r.shape (Text.split '/' path)).map fun held => (r, held)
  match fitting.find? fun f => f.1.method == method with
  | some (r, held) => .found r.endpoint held
  | none => if fitting.isEmpty then .nowhere else .wrongMethod

end VideoShare.Http
