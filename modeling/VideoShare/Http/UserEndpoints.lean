import VideoShare.Http.Site
import VideoShare.Images
import VideoShare.Likes
import VideoShare.SearchHistory
import VideoShare.Subscriptions
import VideoShare.Users
import VideoShare.Watching

/-!
# Endpoints for users

Users are listed, shown and registered for everyone. What belongs to the user of a request, the account, the likes, the
subscriptions and the two histories, is served on behalf of that user only.
-/

namespace VideoShare.Http

open Service

/-- Lists all users, or finds users by options. -/
def listUsersEndpoint (q : Query) : Service Answer := do
  let options := q.all "option"
  let values := q.all "value"
  if options.isEmpty && values.isEmpty then pure (showUsers (← allUsers))
  else pure (showUsers (← findUsers options values))

/-- Registers a user. -/
def registerUserEndpoint (site : Site) (r : Request) : Service Answer :=
  withBody r fun body =>
    withBodyFields body NewUser.ofFields fun data => do
      pure (.created (← registerUser site.settings data).view.toJson)

/-- Shows a user. -/
def showUserEndpoint (id : String) : Service Answer := do
  pure (.ok (← findUser id).view.toJson)

/-- The videos of a user. -/
def videosOfUserEndpoint (q : Query) (id : String) : Service Answer :=
  withFields (q.integer? "sort") fun sort => do
    showVideos (← videosOfUser id (sort.bind VideoOrder.ofCode?))

/-- The videos a user likes. -/
def likesOfUserEndpoint (id : String) : Service Answer := do showVideos (← likedVideos id)

/-- The channels a user has subscribed to. -/
def channelsOfUserEndpoint (id : String) : Service Answer := do pure (showUsers (← subscribedChannels id))

/-! ## The user's account -/

/-- Changes the user's data. -/
def updateMeEndpoint (r : Request) : Service Answer :=
  withBody r fun body =>
    asUser r fun me =>
      withBodyFields body UserChanges.ofFields fun changes => do
        pure (.ok (← updateUser me changes).view.toJson)

/-- Gives the user another picture. -/
def updateMyPictureEndpoint (site : Site) (r : Request) : Service Answer :=
  withForm r fun form =>
    asUser r fun me =>
      withFields (sent form "image" formFile) fun image => do
        let _ ← findUser me
        let path ← uploadPicture site.settings (some me) image.name image.content
        pure (.ok (← updateUser me ({ picture := some path } : UserChanges)).view.toJson)

/-- Removes the user. -/
def deleteMeEndpoint (site : Site) (r : Request) : Service Answer :=
  asUser r fun me => do
    deleteUser site.settings me
    pure .done

/-! ## The user's histories -/

/-- The user's watch history. -/
def watchHistoryEndpoint (r : Request) : Service Answer :=
  asUser r fun me => do showVideos (← watchHistory me)

/-- An entry of a search history as an answer shows it. -/
def searchJson (s : Search) : Json := .obj [("search_option", .str s.option), ("date_added", .str s.dateAdded.toText)]

/-- The user's search history. -/
def searchHistoryEndpoint (r : Request) : Service Answer :=
  asUser r fun me => do pure (.ok (.arr ((← searchHistory me).map searchJson)))

/-- Adds an option to the user's search history. -/
def addSearchEndpoint (site : Site) (r : Request) (q : Query) : Service Answer :=
  asUser r fun me =>
    withFields (q.text "value") fun option => do
      addSearch site.settings me option
      pure .done

/-- Removes an option from the user's search history. -/
def deleteSearchEndpoint (r : Request) (q : Query) : Service Answer :=
  asUser r fun me =>
    withFields (q.text "value") fun option => do
      deleteSearch me option
      pure .done

/-! ## The user's likes -/

/-- Toggles the user's like of a video. -/
def likeVideoEndpoint (r : Request) (id : String) : Service Answer :=
  asUser r fun me =>
    withFields (videoIdOf id) fun id => do
      let (v, liked) ← likeVideo me id
      pure (.ok (.obj [("liked", .bool liked), ("video", ← showVideo v)]))

/-- Whether the user likes a video. -/
def hasLikedEndpoint (r : Request) (id : String) : Service Answer :=
  asUser r fun me =>
    withFields (videoIdOf id) fun id => do pure (showFlag (← hasLiked me id))

/-- Takes the user's like of a video back. -/
def dislikeVideoEndpoint (r : Request) (id : String) : Service Answer :=
  asUser r fun me =>
    withFields (videoIdOf id) fun id => do
      dislikeVideo me id
      pure .done

/-- Notes that the user is not interested in a video. -/
def notInterestedEndpoint (site : Site) (r : Request) (id : String) : Service Answer :=
  asUser r fun me =>
    withFields (videoIdOf id) fun id => do
      notInterested site.settings id me
      pure .done

/-! ## The user's subscriptions -/

/-- Subscribes the user to a channel. -/
def subscribeEndpoint (r : Request) (channel : String) : Service Answer :=
  asUser r fun me => do
    subscribe me channel
    pure .done

/-- Ends the user's subscription to a channel. -/
def unsubscribeEndpoint (r : Request) (channel : String) : Service Answer :=
  asUser r fun me => do
    unsubscribe me channel
    pure .done

/-- Whether the user has subscribed to a channel. -/
def hasSubscribedEndpoint (r : Request) (channel : String) : Service Answer :=
  asUser r fun me => do pure (showFlag (← hasSubscribed me channel))

end VideoShare.Http
