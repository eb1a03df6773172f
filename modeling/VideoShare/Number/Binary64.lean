/-!
# Double-precision numbers, exactly

A finite double is a signed integer times a power of two, and every operation here is the exact operation followed by one
rounding: to the nearest double, a tie to the even mantissa, and to infinity from half a unit beyond the largest double. All of
it is computed on natural numbers, so a product or a comparison is the one the standard prescribes on every machine.
-/

namespace VideoShare.Number

/-- A double: not a number, an infinity, or a finite value `± mantissa · 2 ^ exponent`. -/
inductive Binary64 where
  | nan
  | infinite (negative : Bool)
  | finite (negative : Bool) (mantissa : Nat) (exponent : Int)
  deriving DecidableEq, Repr

/-- The quotient rounded to the nearest integer, a tie to the even one. -/
def roundDiv (a b : Nat) : Nat :=
  let q := a / b
  let r := a % b
  if 2 * r < b then q else if b < 2 * r then q + 1 else if q % 2 = 0 then q else q + 1

/-- The quotient rounded to the nearest integer, a tie to the greater one. -/
def roundUpDiv (a b : Nat) : Nat := (2 * a + b) / (2 * b)

/-- A number times a power of two, where the power is not negative. -/
def shiftUp (n : Nat) (k : Int) : Nat := n * Nat.pow 2 k.toNat

/-- The exponent of the largest power of two that is at most the quotient of two positive numbers. -/
def floorLog2 (num den : Nat) : Int :=
  let k : Int := (Nat.log2 num : Int) - (Nat.log2 den : Int)
  if shiftUp num (-k) < shiftUp den k then k - 1 else k

namespace Binary64

/-- The double nearest to `± num / den`. -/
def ofRatio (negative : Bool) (num den : Nat) : Binary64 :=
  if num = 0 then .finite negative 0 0
  else
    let e := max (floorLog2 num den - 52) (-1074)
    let m := roundDiv (shiftUp num (-e)) (shiftUp den e)
    let (m, e) := if m = Nat.pow 2 53 then (Nat.pow 2 52, e + 1) else (m, e)
    if 971 < e then .infinite negative else .finite negative m e

/-- The double nearest to `± m · 2 ^ e`. -/
def ofDyadic (negative : Bool) (m : Nat) (e : Int) : Binary64 :=
  ofRatio negative (shiftUp m e) (shiftUp 1 (-e))

/-- The double nearest to an integer. -/
def ofInt (n : Int) : Binary64 := ofRatio (n < 0) n.natAbs 1

/-- The double nearest to the number with the given decimal digits times a power of ten. Beyond the range of the doubles the
power is not computed. -/
def ofDecimal (negative : Bool) (digits : List Nat) (power : Int) : Binary64 :=
  let ds := digits.dropWhile (· == 0)
  let n := ds.foldl (fun n d => 10 * n + d) 0
  let size : Int := ds.length + power
  if n = 0 || size < -330 then .finite negative 0 0
  else if 310 < size then .infinite negative
  else ofRatio negative (n * Nat.pow 10 power.toNat) (Nat.pow 10 (-power).toNat)

/-- The product, rounded. -/
def mul : Binary64 → Binary64 → Binary64
  | .nan, _ | _, .nan => .nan
  | .infinite s, .infinite t => .infinite (s != t)
  | .infinite s, .finite t m _ | .finite t m _, .infinite s => if m = 0 then .nan else .infinite (s != t)
  | .finite s m e, .finite t n f => ofDyadic (s != t) (m * n) (e + f)

/-- The mantissa with its sign, scaled to a smaller exponent. -/
def scaled (negative : Bool) (m : Nat) (e least : Int) : Int :=
  let n : Int := shiftUp m (e - least)
  if negative then -n else n

/-- Whether the first number is less than the second; never when one is not a number. -/
def lt : Binary64 → Binary64 → Bool
  | .nan, _ | _, .nan => false
  | .infinite s, .infinite t => s && !t
  | .infinite s, .finite _ _ _ => s
  | .finite _ _ _, .infinite t => !t
  | .finite s m e, .finite t n f => scaled s m e (min e f) < scaled t n f (min e f)

/-- Zero. -/
def zero : Binary64 := .finite false 0 0

/-- One. -/
def one : Binary64 := ofInt 1

/-- Whether a number is not a number. -/
def isNan : Binary64 → Bool
  | .nan => true
  | _ => false

/-- The largest integer that is at most `± m · 2 ^ e`. -/
def floorDyadic (negative : Bool) (m : Nat) (e : Int) : Int :=
  let n : Int := shiftUp m e
  Int.fdiv (if negative then -n else n) (shiftUp 1 (-e))

/-- Whether `m · 2 ^ e` is an integer. -/
def isWhole (m : Nat) (e : Int) : Bool := m % shiftUp 1 (-e) == 0

/-- The value of a double as a quotient of two integers; none when it is not finite. -/
def ratio? : Binary64 → Option (Int × Nat)
  | .finite negative m e => some (if negative then -(shiftUp m e : Int) else shiftUp m e, shiftUp 1 (-e))
  | _ => none

/-- The double nearest to a quotient. -/
def ofQuotient (num : Int) (den : Nat) : Binary64 := ofRatio (num < 0) num.natAbs den

/-- The value of a finite double as decimal digits times a power of ten that is not positive, which is exact. -/
def toDecimal (m : Nat) (e : Int) : Nat × Nat :=
  (shiftUp m e * Nat.pow 5 (-e).toNat, (-e).toNat)

end Binary64

end VideoShare.Number
