import VideoShare.Failure
import VideoShare.Text.Pieces

/-!
# The object store

Objects are texts under keys. Folders are no objects of their own: a folder is the set of the keys that begin with its path, and
it is removed by removing them one by one, in order. Every operation may be struck by a fault before it has an effect; the first
fault that matches strikes and is used up by one.
-/

namespace VideoShare

/-- The operations of the object store. -/
inductive StoreOperation where
  | get | put | remove | list
  deriving DecidableEq, Repr

/-- The name of an operation in the messages of the store. -/
def StoreOperation.name : StoreOperation → String
  | .get => "GetObject"
  | .put => "PutObject"
  | .remove => "DeleteObject"
  | .list => "ListObjectsV2"

/-- The ways in which the object store fails. -/
inductive StoreFault where
  /-- It refuses the operation with a code and a message. -/
  | answered (code message : String)
  /-- It refuses the operation without saying why. -/
  | unexplained
  /-- It cannot be reached. -/
  | unreachable
  /-- It breaks down. -/
  | broken (text : String)
  deriving DecidableEq, Repr

/-- A fault to come: it strikes an operation on keys that hold a text, as often as it has strikes left; without a number it has
them without end. -/
structure FaultRule where
  operation : StoreOperation
  part : String
  fault : StoreFault
  left : Option Nat
  deriving DecidableEq, Repr

/-- Whether a rule strikes an operation on a key. -/
def FaultRule.strikes (r : FaultRule) (operation : StoreOperation) (key : String) : Bool :=
  r.operation == operation && Text.contains key r.part && r.left != some 0

/-- A rule after a strike. -/
def FaultRule.used (r : FaultRule) : FaultRule := { r with left := r.left.map (· - 1) }

/-- The fault that strikes an operation on a key, and the rules after it. -/
def strike (operation : StoreOperation) (key : String) : List FaultRule → Option StoreFault × List FaultRule
  | [] => (none, [])
  | r :: rest =>
    if r.strikes operation key then (some r.fault, r.used :: rest)
    else
      let (fault, rest) := strike operation key rest
      (fault, r :: rest)

/-- What a caller sees of a fault. An object that the store says it does not have is a refusal of its own. -/
def StoreFault.failure (operation : StoreOperation) (key : String) : StoreFault → Failure
  | .answered code message =>
    if operation = .get ∧ (code = "NoSuchKey" ∨ code = "404") then .refused (.noObject key)
    else .refused (.storeFailed s!"An error occurred ({code}) when calling the {operation.name} operation: {message}")
  | .unexplained =>
    .refused (.storeFailed s!"An error occurred (Unknown) when calling the {operation.name} operation: Unknown")
  | .unreachable => .refused (.storeFailed "An unspecified error occurred")
  | .broken text => .storeBroke text

/-- The objects, and the faults to come. -/
structure ObjectStore where
  objects : List (String × String) := []
  rules : List FaultRule := []
  deriving DecidableEq, Repr

namespace ObjectStore

/-- The content of the object under a key. -/
def content? (s : ObjectStore) (key : String) : Option String := s.objects.lookup key

/-- The store with an object under a key. -/
def insert (s : ObjectStore) (key content : String) : ObjectStore :=
  { s with objects := s.objects.filter (·.1 != key) ++ [(key, content)] }

/-- The store without the object under a key. -/
def erase (s : ObjectStore) (key : String) : ObjectStore :=
  { s with objects := s.objects.filter (·.1 != key) }

/-- The keys that begin with a path, in order. -/
def keysUnder (s : ObjectStore) (path : String) : List String :=
  ((s.objects.map (·.1)).filter fun key => Text.startsWith key path).mergeSort fun a b => a ≤ b

end ObjectStore

end VideoShare
