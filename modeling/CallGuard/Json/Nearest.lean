import CallGuard.Json

/-!
# Numbers to the nearest

The reader that takes a number to the nearest binary64 one. An integer of machine size is far below
the largest binary64 number, so nothing is refused.
-/
namespace CallGuard

namespace Binary64

theorem roundQuotient_le (num den : Nat) : roundQuotient num den ≤ num / den + 1 := by
  unfold roundQuotient
  dsimp only
  split <;> omega

/-- Rounding to 53 bits leaves at most as many, up to a carry. -/
theorem roundQuotient_powerOfTwo_le (units : Nat) :
    roundQuotient units (powerOfTwo (units.log2 - 52)) ≤ 2 * exponentUnit := by
  have rounded := roundQuotient_le units (powerOfTwo (units.log2 - 52))
  have below : units < 2 ^ (53 + (units.log2 - 52)) :=
    Nat.lt_of_lt_of_le Nat.lt_log2_self (Nat.pow_le_pow_right (by decide) (by omega))
  rw [Nat.pow_add] at below
  have quotient : units / powerOfTwo (units.log2 - 52) < 2 ^ 53 :=
    Nat.div_lt_of_lt_mul (Nat.mul_comm _ _ ▸ below)
  have size : 2 ^ 53 = 2 * exponentUnit := by decide
  omega

theorem log2_mul_powerOfTwo_le {n k : Nat} (small : n < powerOfTwo k) (e : Nat) :
    (n * powerOfTwo e).log2 ≤ k + e := by
  by_cases zero : n * powerOfTwo e = 0
  · simp [zero]
  · have product : n * powerOfTwo e < 2 ^ (k + e) := by
      rw [Nat.pow_add]
      exact Nat.mul_lt_mul_of_pos_right small (Nat.two_pow_pos e)
    exact Nat.le_of_lt ((Nat.log2_lt zero).mpr product)

theorem isFinite_ofQuotient_one (negative : Bool) {n : Nat} (small : n < powerOfTwo 64) :
    (ofQuotient negative n 1).isFinite := by
  have places : (n * oneUnits).log2 ≤ 64 + 1074 := log2_mul_powerOfTwo_le small 1074
  have rounded := roundQuotient_powerOfTwo_le (n * oneUnits)
  simp only [ofQuotient, Nat.div_one, Nat.one_mul]
  refine isFinite_ofMagnitude negative (Nat.lt_of_le_of_lt (Nat.min_le_left _ _) ?_)
  -- The exponent stays in the middle of its range.
  simp only [infinityMagnitude, topExponent, exponentUnit] at rounded ⊢
  omega

end Binary64

namespace Json

def Number.nearest : Number → Binary64
  | integer n _ => .ofInt n
  | float x _ => x

theorem Number.isFinite_nearest (n : Number) : n.nearest.isFinite := by
  cases n with
  | integer n word =>
    have words : Binary64.powerOfTwo 64 = 0x10000000000000000 := by decide
    exact Binary64.isFinite_ofQuotient_one _ (by omega)
  | float x finite => exact finite

def NumberReader.nearest : NumberReader where
  binary64? n := some n.nearest
  finite n := ⟨_, rfl, n.isFinite_nearest⟩

end Json

end CallGuard
