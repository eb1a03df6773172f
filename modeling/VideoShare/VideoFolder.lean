import VideoShare.Settings

/-!
# The folder of a video

Everything the object store keeps for a video lies in one folder, named by the id of the video. The name ends with a slash, so
that the folder of video 1 does not hold that of video 10.
-/

namespace VideoShare

/-- The folder of a video. -/
def Settings.videoFolder (s : Settings) (video : Int) : String := s.videoPath ++ toString video ++ "/"

/-- The folder of a user. -/
def Settings.userFolder (s : Settings) (user : String) : String := s.userPath ++ user ++ "/"

end VideoShare
