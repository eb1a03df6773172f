import VideoShare.Json

/-!
# Quantities

A quantity is a number that a setting gives: an integer, with which everything is computed exactly, or a double.
-/

namespace VideoShare.Number

/-- An integer or a double. -/
inductive Quantity where
  | whole (n : Int)
  | real (x : Binary64)
  deriving DecidableEq, Repr

/-- Why a double cannot be made an integer. -/
inductive WholeFault where
  | infinite
  | undefined
  deriving DecidableEq, Repr

/-- What is said of a double that cannot be made an integer. -/
def WholeFault.message : WholeFault → String
  | .infinite => "cannot convert float infinity to integer"
  | .undefined => "cannot convert float NaN to integer"

namespace Quantity

/-- A quantity as a value. -/
def toJson : Quantity → Json
  | .whole n => .int n
  | .real x => .real x

/-- How many of something a quantity of units is, when each unit holds an even number of them. The whole units of a double count
exactly; of the rest of a unit the share is the product of two doubles, rounded to an integer, a tie to the even one. -/
def times (q : Quantity) (unit : Nat) : Except WholeFault Int :=
  match q with
  | .whole n => .ok (n * unit)
  | .real .nan => .error .undefined
  | .real (.infinite _) => .error .infinite
  | .real (.finite negative m e) =>
    let den := shiftUp 1 (-e)
    let num := shiftUp m e
    let share := match (Binary64.ofRatio false (num % den * unit) den).ratio? with
      | some (a, b) => roundDiv a.natAbs b
      | none => 0
    let size : Int := num / den * unit + share
    .ok (if negative then -size else size)

end Quantity

end VideoShare.Number
