import VideoShare.Failure
import VideoShare.Json.Writer

/-!
# The broker

Messages are pushed to named queues and stay in the order pushed. The processing service reads the queues of requests and pushes
its reply to the queue that a request names; here the replies to come are given in advance, each one a text or silence, and when
none are left the reply is affirmative.
-/

namespace VideoShare

/-- A reply of the processing service: a text, or silence until the time is over. -/
abbrev Reply : Type := Option String

/-- The queues, the replies to come, and the queues that take no message. -/
structure Broker where
  queues : List (String × List String) := []
  replies : List Reply := []
  down : List String := []
  deriving DecidableEq, Repr

/-- The queues with a message pushed to one of them. -/
def pushMessage (queue message : String) : List (String × List String) → List (String × List String)
  | [] => [(queue, [message])]
  | (name, messages) :: rest =>
    if name = queue then (name, messages ++ [message]) :: rest
    else (name, messages) :: pushMessage queue message rest

/-- The next reply, and the broker after it. -/
def Broker.nextReply (b : Broker) : Reply × Broker :=
  match b.replies with
  | [] => (some "true", b)
  | reply :: rest => (reply, { b with replies := rest })

/-- The messages in a queue. -/
def Broker.messages (b : Broker) (queue : String) : List String := (b.queues.lookup queue).getD []

/-- What the names of reply queues begin with. -/
def replyQueueStart : String := "youtback:processing:reply:"

/-- A request to the processing service, as it is pushed. -/
def processingRequest (path replyTo : String) : String :=
  (Json.obj [("path", .str path), ("reply_to", .str replyTo)]).spaced

end VideoShare
