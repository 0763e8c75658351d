import Mathlib.Algebra.Order.Round
import Mathlib.Data.Rat.Floor
import Mathlib.Tactic.Linarith

namespace Foundations

/-!
# Floating point numbers of 64 bits

The bits of a finite number are a sign, an exponent and a fraction, and its
magnitude is a rational number.  It is whole or below `2 ^ 53`, so what is said
of its rounding to a finer unit needs no rounding of large numbers.
-/

/-- The nearest whole number, and of two the even one. -/
def roundHalfEven (number : Rat) : Int :=
  let low := ⌊number⌋
  if 2 * (number - low) < 1 ∨ (2 * (number - low) = 1 ∧ low % 2 = 0) then low else low + 1

theorem roundHalfEven_near (number : Rat) : |number - roundHalfEven number| ≤ 1 / 2 := by
  have below := Int.floor_le number
  have above := Int.lt_floor_add_one number
  unfold roundHalfEven
  dsimp only
  split
  case isTrue down =>
    rw [abs_of_nonneg (by linarith)]
    rcases down with less | ⟨tie, -⟩
    · linarith
    · linarith
  case isFalse up =>
    have more : 1 ≤ 2 * (number - ⌊number⌋) := le_of_not_gt (fun less => up (Or.inl less))
    push_cast
    rw [abs_of_nonpos (by linarith)]
    linarith

theorem roundHalfEven_whole (number : Int) : roundHalfEven number = number := by
  unfold roundHalfEven
  dsimp only
  rw [Int.floor_intCast, sub_self, mul_zero, if_pos (Or.inl one_pos)]

namespace Binary64

variable (bits : BitVec 64)

def negative : Bool := bits.msb

def exponent : Nat := (bits.extractLsb' 52 11).toNat

def fraction : Nat := (bits.extractLsb' 0 52).toNat

/-- The leading bit is there unless the number is subnormal. -/
def significand : Nat := if exponent bits = 0 then fraction bits else 2 ^ 52 + fraction bits

def magnitude : Rat := significand bits * 2 ^ ((max (exponent bits) 1 : Int) - 1075)

theorem significand_lt : significand bits < 2 ^ 53 := by
  have short : fraction bits < 2 ^ 52 := (bits.extractLsb' 0 52).isLt
  unfold significand
  split
  · omega
  · omega

theorem magnitude_nonneg : 0 ≤ magnitude bits := by
  exact mul_nonneg (Nat.cast_nonneg _) (zpow_nonneg zero_le_two _)

/-- A large number has no fractional part. -/
theorem magnitude_whole_or_small : (∃ whole : Nat, magnitude bits = whole) ∨ magnitude bits < 2 ^ 53 := by
  unfold magnitude
  rcases lt_or_ge ((max (exponent bits) 1 : Int) - 1075) 0 with small | large
  · right
    have short : (significand bits : Rat) < 2 ^ 53 := by exact_mod_cast significand_lt bits
    have shrinks : (2 : Rat) ^ ((max (exponent bits) 1 : Int) - 1075) ≤ 1 :=
      zpow_le_one_of_nonpos₀ one_le_two small.le
    calc (significand bits : Rat) * 2 ^ ((max (exponent bits) 1 : Int) - 1075)
        ≤ significand bits * 1 := mul_le_mul_of_nonneg_left shrinks (Nat.cast_nonneg _)
      _ < 2 ^ 53 := by rw [mul_one]; exact short
  · left
    rcases Int.eq_ofNat_of_zero_le large with ⟨power, same⟩
    refine ⟨significand bits * 2 ^ power, ?_⟩
    rw [same, zpow_natCast]
    push_cast
    rfl

end Binary64
end Foundations
