import Mathlib.Data.Rat.Cast.Order
import Mathlib.Algebra.Order.Field.Power
import Mathlib.Algebra.Order.Ring.Rat
import Mathlib.Order.WithBot
import VideoShare.Number.Binary64

/-!
# The order of doubles

A finite double stands for a rational number and the infinities for what lies below and above all of these. Two doubles are compared
as the numbers they stand for (`Binary64.lt_iff`); to compare their mantissas they are brought to the smaller one of their exponents.
-/

namespace VideoShare.Number.Binary64

/-- The rational number that a finite double stands for. -/
def rational (negative : Bool) (mantissa : Nat) (exponent : Int) : ℚ :=
  (if negative then -(mantissa : ℚ) else mantissa) * 2 ^ exponent

/-- The number that a double stands for. What is not a number is put below all numbers, where nothing asks for it. -/
def value : Binary64 → WithBot (WithTop ℚ)
  | .nan => ⊥
  | .infinite negative => if negative then ⊥ else ⊤
  | .finite negative mantissa exponent => ((rational negative mantissa exponent : WithTop ℚ) : WithBot (WithTop ℚ))

theorem value_zero : zero.value = 0 := by
  simp [zero, value, rational]

/-- A mantissa brought to a smaller exponent stands for the same number. -/
theorem scaled_mul {negative : Bool} {m : Nat} {e least : Int} (h : least ≤ e) :
    (scaled negative m e least : ℚ) * 2 ^ least = rational negative m e := by
  have hshift : ((shiftUp m (e - least) : Nat) : ℚ) = m * 2 ^ (e - least) := by
    have hpower : ((2 : ℚ) ^ (e - least)) = 2 ^ (e - least).toNat := by
      rw [← zpow_natCast, Int.toNat_of_nonneg (by omega)]
    rw [shiftUp, hpower, Nat.cast_mul, Nat.pow_eq, Nat.cast_pow, Nat.cast_ofNat]
  have hsum : (2 : ℚ) ^ (e - least) * 2 ^ least = 2 ^ e := by
    rw [← zpow_add₀ two_ne_zero, Int.sub_add_cancel]
  rw [scaled, rational]
  cases negative with
  | true => simp only [if_true, Int.cast_neg, Int.cast_natCast, hshift, neg_mul, mul_assoc, hsum]
  | false => simp only [Bool.false_eq_true, if_false, Int.cast_natCast, hshift, mul_assoc, hsum]

/-- Doubles that are numbers are compared as the numbers they stand for. -/
theorem lt_iff {a b : Binary64} (ha : a ≠ .nan) (hb : b ≠ .nan) : a.lt b = true ↔ a.value < b.value := by
  match a, b with
  | .nan, _ => exact absurd rfl ha
  | _, .nan => exact absurd rfl hb
  | .infinite s, .infinite t => cases s <;> cases t <;> simp [lt, value]
  | .infinite s, .finite t n f => cases s <;> simp [lt, value]
  | .finite s m e, .infinite true => simp [lt, value]
  | .finite s m e, .infinite false =>
    have htop : (finite s m e).value < (infinite false).value := WithBot.coe_lt_coe.mpr (WithTop.coe_lt_top _)
    simp [lt, htop]
  | .finite s m e, .finite t n f =>
    have hpos : (0 : ℚ) < 2 ^ min e f := by positivity
    rw [lt, value, value, decide_eq_true_eq, WithBot.coe_lt_coe, WithTop.coe_lt_coe,
      ← scaled_mul (Int.min_le_left e f), ← scaled_mul (Int.min_le_right e f), mul_lt_mul_iff_left₀ hpos, Int.cast_lt]

end VideoShare.Number.Binary64
