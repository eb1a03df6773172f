import VideoShare.Refusal
import VideoShare.Instant
import VideoShare.Number.Quantity
import VideoShare.Text.Quoted

/-!
# Failures

What can go wrong in a call: a refusal, or a fault that the caller did not cause and cannot act on. Two rows with one key and
an integer too wide for a column are faults of the database; the object store and the broker have faults of their own. Each
fault has a message where its answer shows one.
-/

namespace VideoShare

/-- Why a call fails. -/
inductive Failure where
  /-- The call is refused. -/
  | refused (r : Refusal)
  /-- A row with this key exists already. -/
  | duplicateKey
  /-- An integer does not fit into the sixty-four bits of a column. -/
  | integerTooWide
  /-- A number that has to be whole is infinite, or is none. -/
  | notWhole (fault : Number.WholeFault)
  /-- A factor is beyond the largest double. -/
  | hugeFactor
  /-- An instant was shifted out of reach. -/
  | shift (fault : ShiftFault)
  /-- The broker does not take a message. -/
  | brokerDown
  /-- The object store broke down in a way that it does not report as its own. -/
  | storeBroke (text : String)
  /-- A path has no folder. -/
  | noFolder
  deriving DecidableEq, Repr

/-- What the answer to a failure says; nothing for two rows with one key. -/
def Failure.message : Failure → Option String
  | .refused r => some r.report.message
  | .duplicateKey => none
  | .integerTooWide => some "Python int too large to convert to SQLite INTEGER"
  | .notWhole fault => some fault.message
  | .hugeFactor => some "int too large to convert to float"
  | .shift (.hugeDays _) => some "Python int too large to convert to C int"
  | .shift (.manyDays days) => some s!"days={days}; must have magnitude <= 999999999"
  | .shift .outsideCalendar => some "date value out of range"
  | .brokerDown => some "redis is down"
  | .storeBroke text => some text
  | .noFolder => some "substring not found"

/-- The length of a quantity of units. -/
def lengthOf (q : Number.Quantity) (unit : Duration) : Except Failure Duration := (q.times unit.toNat).mapError .notWhole

/-- The instant a quantity of units before another. -/
def Instant.minus (t : Instant) (q : Number.Quantity) (unit : Duration) : Except Failure Instant :=
  (lengthOf q unit).bind fun d => (t.before d).mapError .shift

/-- The instant a quantity of units after another. -/
def Instant.plus (t : Instant) (q : Number.Quantity) (unit : Duration) : Except Failure Instant :=
  (lengthOf q unit).bind fun d => (t.after d).mapError .shift

/-- Whether an integer fits into a column. -/
def fitsColumn (n : Int) : Bool := -9223372036854775808 ≤ n && n ≤ 9223372036854775807

/-- Refuses a list of integers of which one does not fit into a column. -/
def checkColumns (ns : List Int) : Except Failure Unit :=
  if ns.all fitsColumn then .ok () else .error .integerTooWide

end VideoShare
