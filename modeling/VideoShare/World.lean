import VideoShare.Broker
import VideoShare.Database
import VideoShare.ObjectStore
import VideoShare.Text.Blank
import VideoShare.Text.Case

/-!
# Service calls

A service call runs in a world: the database, the object store, the broker, the clock and the source of fresh identifiers. It
answers with a value or a failure, and in both cases leaves a world. A transaction that fails leaves the tables as they were and
nothing else: what was put into the object store or pushed to the broker stays.
-/

namespace VideoShare

/-- What a service call runs in. `serial` counts the identifiers drawn so far. `staleLikes` is the number of look-ups of a like
that do not see it although it is there, as happens when another call has just added it. -/
structure World where
  db : Database := {}
  store : ObjectStore := {}
  broker : Broker := {}
  serial : Nat := 0
  now : Instant := 0
  staleLikes : Nat := 0
  deriving DecidableEq, Repr

/-- A service call: what it answers in a world, and the world it leaves. -/
def Service (α : Type) : Type := World → Except Failure α × World

namespace Service

variable {α β : Type}

/-- Runs a call in a world. -/
def run (x : Service α) (w : World) : Except Failure α × World := x w

/-- The call that answers a value and changes nothing. -/
protected def pure (a : α) : Service α := fun w => (.ok a, w)

/-- A call and then another that depends on its value; a failure of the first is the failure of both. -/
protected def bind (x : Service α) (f : α → Service β) : Service β := fun w =>
  match x w with
  | (.ok a, w') => f a w'
  | (.error e, w') => (.error e, w')

instance : Monad Service where
  pure := Service.pure
  bind := Service.bind

/-- The call that fails. -/
def fail (e : Failure) : Service α := fun w => (.error e, w)

/-- The call that is refused. -/
def refuse (r : Refusal) : Service α := fail (.refused r)

/-- The call that answers what was computed, or fails as the computation did. -/
def lift (x : Except Failure α) : Service α := fun w => (x, w)

/-- The world. -/
def world : Service World := fun w => (.ok w, w)

/-- The tables. -/
def database : Service Database := fun w => (.ok w.db, w)

/-- The clock. -/
def now : Service Instant := fun w => (.ok w.now, w)

/-- Changes the tables. -/
def modifyDatabase (f : Database → Database) : Service Unit := fun w => (.ok (), { w with db := f w.db })

/-- Changes the tables, or fails and leaves them. -/
def updateDatabase (f : Database → Except Failure Database) : Service Unit := fun w =>
  match f w.db with
  | .ok db => (.ok (), { w with db := db })
  | .error e => (.error e, w)

/-- A call as a transaction: when it fails the tables are as before it. -/
def transaction (x : Service α) : Service α := fun w =>
  match x w with
  | (.ok a, w') => (.ok a, w')
  | (.error e, w') => (.error e, { w' with db := w.db })

/-- A call that is followed by a second one when it fails. The failure stays the first one, whatever becomes of the second. -/
def cleaningUp (x : Service α) (cleanup : Service Unit) : Service α := fun w =>
  match x w with
  | (.ok a, w') => (.ok a, w')
  | (.error e, w') => (.error e, (cleanup w').2)

/-- Runs a call for each item of a list. -/
def forEach (f : α → Service Unit) : List α → Service Unit
  | [] => pure ()
  | a :: rest => do
    f a
    forEach f rest

/-! ## Lookups that refuse -/

/-- The user with an id, or the refusal given. -/
def user (id : String) (refusal : Refusal) : Service User := fun w =>
  match w.db.user? id with
  | some u => (.ok u, w)
  | none => (.error (.refused refusal), w)

/-- The video with an id. An id too wide for a column fails before the table is read. -/
def video (id : Int) : Service Video := fun w =>
  if fitsColumn id then
    match w.db.video? id with
    | some v => (.ok v, w)
    | none => (.error (.refused .noVideo), w)
  else (.error .integerTooWide, w)

/-- Looks a user's like of a video up. While stale look-ups are left the like is not seen. -/
def like? (user : String) (video : Int) : Service (Option Like) := fun w =>
  match w.staleLikes with
  | 0 => (.ok (w.db.like? user video), w)
  | n + 1 => (.ok none, { w with staleLikes := n })

/-! ## Identifiers -/

/-- The identifier with a number: the number in twelve hexadecimal digits, and twenty zeros. -/
def identifier (n : Nat) : String := String.ofList (Text.hexDigits 12 n ++ List.replicate 20 '0')

/-- Draws a fresh identifier. -/
def freshIdentifier : Service String := fun w =>
  (.ok (identifier (w.serial + 1)), { w with serial := w.serial + 1 })

/-! ## The object store -/

/-- An operation on a key of the object store: a fault strikes it, or it has its effect. -/
def storeStep (operation : StoreOperation) (key : String) (effect : ObjectStore → Except Failure α × ObjectStore) :
    Service α := fun w =>
  match strike operation key w.store.rules with
  | (some fault, rules) => (.error (fault.failure operation key), { w with store := { w.store with rules := rules } })
  | (none, _) =>
    match effect w.store with
    | (answer, store) => (answer, { w with store := store })

/-- The content of an object. -/
def getObject (key : String) : Service String :=
  storeStep .get key fun s =>
    match s.content? key with
    | some content => (.ok content, s)
    | none => (.error (.refused (.noObject key)), s)

/-- Puts an object in the place of the one under its key. -/
def putObject (key content : String) : Service Unit := storeStep .put key fun s => (.ok (), s.insert key content)

/-- Removes an object; it is no failure when there is none. -/
def removeObject (key : String) : Service Unit := storeStep .remove key fun s => (.ok (), s.erase key)

/-- The keys that begin with a path, in order. -/
def listObjects (path : String) : Service (List String) := storeStep .list path fun s => (.ok (s.keysUnder path), s)

/-- Removes the objects whose keys begin with a path, one by one. -/
def removeFolder (path : String) : Service Unit := do
  let keys ← listObjects path
  forEach removeObject keys

/-! ## The broker and the processing service -/

/-- Pushes a message to a queue. -/
def push (queue message : String) : Service Unit := fun w =>
  if w.broker.down.contains queue then (.error .brokerDown, w)
  else (.ok (), { w with broker := { w.broker with queues := pushMessage queue message w.broker.queues } })

/-- Asks the processing service for the object under a key, and answers the queue for the reply. -/
def submit (queue path : String) : Service String := do
  let id ← freshIdentifier
  let replyTo := replyQueueStart ++ id
  push queue (processingRequest path replyTo)
  pure replyTo

/-- Whether a reply is affirmative. -/
def isAffirmative (reply : String) : Bool :=
  let word := Text.lower (Text.trim reply)
  word == "true" || word == "1"

/-- Waits for the reply to a request. -/
def awaitReply (seconds : Int) : Service Unit := fun w =>
  let (reply, broker) := w.broker.nextReply
  let w := { w with broker := broker }
  match reply with
  | none => (.error (.refused (.noReply seconds)), w)
  | some text => if isAffirmative text then (.ok (), w) else (.error (.refused .negativeReply), w)

/-- Asks the processing service for the object under a key and waits for the reply. -/
def process (queue path : String) (seconds : Int) : Service Unit := do
  let _ ← submit queue path
  awaitReply seconds

end Service

end VideoShare
