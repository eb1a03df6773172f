/-!
# Refusals

A refusal is an answer the caller can act on: what was asked for does not exist, exists already, is written wrongly, or could not
be served by the object store or the processing service. A refusal is named by its cause; its kind fixes the code and the status
that go with it, and its message is one function of the cause. The report of a refusal may carry a code and a status of its own
instead of those of its kind, where they are given and not empty.
-/

namespace VideoShare

/-- The kinds of refusal. -/
inductive RefusalKind where
  | general
  | notFound
  | alreadyExists
  | illegalArgument
  | processingFailed
  | storage
  deriving DecidableEq, Repr

namespace RefusalKind

/-- The name of a kind, which is also the message of a refusal without a message. -/
def name : RefusalKind → String
  | .general => "DomainError"
  | .notFound => "NotFoundError"
  | .alreadyExists => "AlreadyExistsError"
  | .illegalArgument => "IllegalArgumentError"
  | .processingFailed => "ProcessingFailedError"
  | .storage => "StorageError"

/-- The code of a kind. -/
def code : RefusalKind → String
  | .general => "domain_error"
  | .notFound => "not_found"
  | .alreadyExists => "already_exists"
  | .illegalArgument => "illegal_argument"
  | .processingFailed => "processing_failed"
  | .storage => "storage_error"

/-- The status of a kind. -/
def status : RefusalKind → Int
  | .general => 400
  | .notFound => 404
  | .alreadyExists => 409
  | .illegalArgument => 400
  | .processingFailed => 502
  | .storage => 503

/-- Every kind. -/
def all : List RefusalKind := [.general, .notFound, .alreadyExists, .illegalArgument, .processingFailed, .storage]

end RefusalKind

/-- What a caller is told of a refusal. -/
structure Report where
  kind : RefusalKind
  message : String
  code : String
  status : Int
  deriving DecidableEq, Repr

/-- The report of a kind with a message, and with a code and a status in place of those of the kind where they are given; an empty
message or code and a status of zero count as not given. -/
def Report.make (kind : RefusalKind) (message : String) (code : Option String) (status : Option Int) : Report where
  kind := kind
  message := if message = "" then kind.name else message
  code := match code with
    | some c => if c = "" then kind.code else c
    | none => kind.code
  status := match status with
    | some s => if s = 0 then kind.status else s
    | none => kind.status

/-- Why a request is refused. -/
inductive Refusal where
  /-- The user of a request is not registered. -/
  | noUser
  /-- No user has this id. -/
  | noUserWithId (id : String)
  /-- The user whose watch history is asked for is not registered. -/
  | noViewer (id : String)
  /-- The user whose recommendations are asked for is not registered. -/
  | noAudience (id : String)
  /-- Nobody is registered. -/
  | noUsers
  /-- The channel to subscribe to is not registered. -/
  | noChannel
  /-- No video has the id asked for. -/
  | noVideo
  /-- The search option is not in the history. -/
  | noSearchOption
  /-- The object store holds nothing at this path. -/
  | noObject (path : String)
  /-- A user with this id is registered already. -/
  | userExists (id : String)
  /-- There are not as many values as options. -/
  | unpairedOptions
  /-- The value of an option is not of the form that the option asks for. -/
  | illegalOption (option value : String)
  /-- There is no such option. -/
  | unknownOption (option : String)
  /-- Recommendations are asked for in no language. -/
  | noLanguage
  /-- The name of a segment leaves its folder. -/
  | illegalFilename (filename : String)
  /-- Images are not kept in this folder. -/
  | unknownImageFolder (folder : String)
  /-- A part of the path of an image is empty or leaves its folder. -/
  | illegalImagePart (part : String)
  /-- The processing service did not answer in time. -/
  | noReply (seconds : Int)
  /-- The processing service answered that it failed. -/
  | negativeReply
  /-- The object store failed. -/
  | storeFailed (text : String)
  /-- Somebody other than the owner wants to change a video. -/
  | notOwner
  deriving DecidableEq, Repr

namespace Refusal

/-- The kind of a refusal. -/
def kind : Refusal → RefusalKind
  | .noUser | .noUserWithId _ | .noViewer _ | .noAudience _ | .noUsers | .noChannel | .noVideo | .noSearchOption | .noObject _ =>
    .notFound
  | .userExists _ => .alreadyExists
  | .unpairedOptions | .illegalOption _ _ | .unknownOption _ | .noLanguage | .illegalFilename _ | .unknownImageFolder _
  | .illegalImagePart _ => .illegalArgument
  | .noReply _ | .negativeReply => .processingFailed
  | .storeFailed _ => .storage
  | .notOwner => .general

/-- What a refusal says. -/
def message : Refusal → String
  | .noUser => "User not found"
  | .noUserWithId id => s!"User with id {id} was not found"
  | .noViewer id => s!"User not found, id: {id}"
  | .noAudience id => s!"User with specified id [{id}] was not found"
  | .noUsers => "No users was found"
  | .noChannel => "Subscribed channel not found"
  | .noVideo => "Video not found"
  | .noSearchOption => "Search option not found"
  | .noObject path => s!"cannot retrieve target [{path}] file"
  | .userExists id => s!"User with this id [{id}] already exists"
  | .unpairedOptions => "Options and values must have the same length"
  | .illegalOption option value => s!"Illegal arguments option: [{option}] value [{value}]"
  | .unknownOption option => s!"Unknown option [{option}]"
  | .noLanguage => "Should be at least one language"
  | .illegalFilename filename => s!"Illegal filename [{filename}]"
  | .unknownImageFolder folder => s!"Unknown image folder [{folder}]"
  | .illegalImagePart part => s!"Illegal image path part [{part}]"
  | .noReply seconds => s!"No reply from processing service within {seconds}s"
  | .negativeReply => "Received false from processing microservice"
  | .storeFailed text => text
  | .notOwner => "Only the owner can modify this video"

/-- What the caller is told. Changing the video of somebody else has a code and a status of its own. -/
def report (r : Refusal) : Report :=
  match r with
  | .notOwner => Report.make r.kind r.message (some "forbidden") (some 403)
  | _ => Report.make r.kind r.message none none

end Refusal

end VideoShare
