/-!
# Binary64 numbers

IEEE 754 binary64 as its bits. Arithmetic that the library needs goes through exact quotients of
naturals and one rounding, to nearest with ties to even. No operation here yields a NaN.
-/
namespace CallGuard

structure Binary64 where
  bits : UInt64
  deriving DecidableEq, Inhabited

namespace Binary64

def signUnit : Nat := 0x8000000000000000

/-- The lowest bit of the exponent field as a word: one more than the largest fraction. -/
def exponentUnit : Nat := 0x10000000000000

/-- The exponent field of infinities and NaNs. -/
def topExponent : Nat := 2047

def isNegative (x : Binary64) : Bool := signUnit ≤ x.bits.toNat

def magnitude (x : Binary64) : Nat := x.bits.toNat % signUnit

def exponentField (x : Binary64) : Nat := x.magnitude / exponentUnit

def fraction (x : Binary64) : Nat := x.magnitude % exponentUnit

def isNaN (x : Binary64) : Bool := x.exponentField == topExponent && x.fraction != 0

def isInfinite (x : Binary64) : Bool := x.exponentField == topExponent && x.fraction == 0

def isFinite (x : Binary64) : Bool := x.exponentField != topExponent

def isZero (x : Binary64) : Bool := x.magnitude == 0

/-- The NaN that stands for a missing number. -/
def nan : Binary64 := ⟨0x7FF8000000000000⟩

/-- Numeric equality: a NaN equals nothing, and the two zeros are equal. -/
def numEq (x y : Binary64) : Bool :=
  !x.isNaN && !y.isNaN && (x == y || (x.isZero && y.isZero))

def ofMagnitude (negative : Bool) (magnitude : Nat) : Binary64 :=
  ⟨UInt64.ofNat (if negative then signUnit + magnitude else magnitude)⟩

/-- The magnitude of the infinities, one past the largest finite one. -/
def infinityMagnitude : Nat := topExponent * exponentUnit

def neg (x : Binary64) : Binary64 := ofMagnitude (!x.isNegative) x.magnitude

def powerOfTwo (n : Nat) : Nat := Nat.pow 2 n

/-- The number one in multiples of the least positive number. -/
def oneUnits : Nat := powerOfTwo 1074

/-- The magnitude of a finite number in multiples of the least positive number. -/
def units (x : Binary64) : Nat :=
  if x.exponentField = 0 then x.fraction
  else (exponentUnit + x.fraction) * powerOfTwo (x.exponentField - 1)

/-- The integer nearest to a quotient, the even one if two are. -/
def roundQuotient (num den : Nat) : Nat :=
  let q := num / den
  match compare (2 * (num % den)) den with
  | .lt => q
  | .eq => q + q % 2
  | .gt => q + 1

/-- The number nearest to `num / den`, the one with even bits if two are, and infinity past the
largest. Consecutive magnitudes have consecutive words, so a carry out of the significand lands in
the exponent by itself. -/
def ofQuotient (negative : Bool) (num den : Nat) : Binary64 :=
  let units := num * oneUnits
  -- A quotient of at most 53 bits keeps its last place: that is the range of fixed spacing.
  let shift := (units / den).log2 - 52
  let word := shift * exponentUnit + roundQuotient units (den * powerOfTwo shift)
  ofMagnitude negative (min word infinityMagnitude)

def ofNat (n : Nat) : Binary64 := ofQuotient false n 1

def ofInt (n : Int) : Binary64 := ofQuotient (decide (n < 0)) n.natAbs 1

def mulMagnitude (x y : Binary64) : Binary64 :=
  ofQuotient false (x.units * y.units) (oneUnits * oneUnits)

def divMagnitude (x y : Binary64) : Binary64 := ofQuotient false x.units y.units

/-- A binary32 number, whose value binary64 holds exactly. -/
def ofBinary32 (word : UInt32) : Binary64 :=
  let negative := decide (0x80000000 ≤ word.toNat)
  let field := word.toNat / 0x800000 % 0x100
  let fraction := word.toNat % 0x800000
  let leastQuotient := powerOfTwo 149
  -- Infinities stay infinite, and NaNs keep their fraction.
  if field = 0xFF then ofMagnitude negative (infinityMagnitude + fraction * powerOfTwo 29)
  else if field = 0 then ofQuotient negative fraction leastQuotient
  else ofQuotient negative ((0x800000 + fraction) * powerOfTwo (field - 1)) leastQuotient

/-! ### Laws -/

theorem numEq_self (x : Binary64) : x.numEq x = !x.isNaN := by
  simp [numEq]

theorem numEq_comm (x y : Binary64) : x.numEq y = y.numEq x := by
  simp only [numEq, Bool.and_comm (!x.isNaN), Bool.and_comm x.isZero, BEq.comm (a := x)]

theorem magnitude_ofMagnitude (negative : Bool) {m : Nat} (bound : m < signUnit) :
    (ofMagnitude negative m).magnitude = m := by
  simp only [signUnit] at bound
  cases negative <;> simp [magnitude, ofMagnitude, signUnit] <;> omega

theorem isFinite_ofMagnitude (negative : Bool) {m : Nat} (bound : m < infinityMagnitude) :
    (ofMagnitude negative m).isFinite := by
  simp only [infinityMagnitude, topExponent, exponentUnit] at bound
  have same := magnitude_ofMagnitude negative (show m < signUnit by simp only [signUnit]; omega)
  simp only [isFinite, exponentField, same, topExponent, exponentUnit, bne_iff_ne]
  omega

theorem isNaN_eq_false_of_isFinite {x : Binary64} (finite : x.isFinite) : x.isNaN = false := by
  simp_all [isFinite, isNaN]

end Binary64

end CallGuard
