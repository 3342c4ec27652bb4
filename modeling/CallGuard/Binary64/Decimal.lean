import CallGuard.Binary64

/-!
# Decimal notation to binary64

A number written as `significand · 10 ^ exponent` is read with at most a few roundings: the
significand is rounded, and then multiplied or divided by the rounded power of ten. The result can
differ from the nearest number in its last place.
-/
namespace CallGuard.Binary64

/-- The largest power of ten that is applied in one step. -/
def stepExponent : Nat := 308

def powerOfTen (n : Nat) : Binary64 := ofNat (Nat.pow 10 n)

/-- Divides by `10 ^ n`, in steps; a magnitude that has become zero stays zero. -/
def scaleDown (x : Binary64) (n : Nat) : Binary64 :=
  if n ≤ stepExponent then x.divMagnitude (powerOfTen n)
  else if x.isZero then x
  else scaleDown (x.divMagnitude (powerOfTen stepExponent)) (n - stepExponent)
termination_by n
decreasing_by simp only [stepExponent] at *; omega

/-- Multiplies by `10 ^ n`; there is no result past the largest number. -/
def scaleUp? (x : Binary64) (n : Nat) : Option Binary64 :=
  if n ≤ stepExponent then
    let product := x.mulMagnitude (powerOfTen n)
    if product.isFinite then some product else none
  else if x.isZero then some x
  else none

/-- The magnitude of `significand · 10 ^ exponent`, or nothing if it is out of range. -/
def ofDecimal? (significand : Nat) (exponent : Int) : Option Binary64 :=
  match exponent with
  | .ofNat n => scaleUp? (ofNat significand) n
  | .negSucc n => some (scaleDown (ofNat significand) (n + 1))

end CallGuard.Binary64
