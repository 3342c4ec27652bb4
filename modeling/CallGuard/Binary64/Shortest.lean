import CallGuard.Binary64

/-!
# Shortest decimal text of binary64 numbers

The digits written are the fewest that read back as the number, and of those the nearest to it.
All comparisons are exact: magnitudes and their bounds are quarters of the least positive number.
-/
namespace CallGuard.Binary64

/-- The numbers between the two bounds round to one magnitude; the bounds do so too if `closed`. -/
structure Interval where
  low : Nat
  value : Nat
  high : Nat
  closed : Bool

/-- What rounds to a finite magnitude, in quarters of the least positive number. -/
def roundingInterval (x : Binary64) : Interval :=
  let gap := powerOfTwo (x.exponentField - 1)
  -- Below a power of two the numbers lie twice as dense.
  let below := if x.fraction = 0 ∧ 1 < x.exponentField then gap else 2 * gap
  { low := 4 * x.units - below
    value := 4 * x.units
    high := 4 * x.units + 2 * gap
    closed := x.fraction % 2 = 0 }

structure Decimal where
  digits : Nat
  exponent : Int
  deriving DecidableEq

/-- A decimal as a fraction of naturals, in quarters of the least positive number. -/
def Decimal.scaled (d : Decimal) : Nat × Nat :=
  (d.digits * Nat.pow 10 d.exponent.toNat * (4 * oneUnits), Nat.pow 10 (-d.exponent).toNat)

def Interval.contains (i : Interval) (d : Decimal) : Bool :=
  let (num, den) := d.scaled
  if i.closed then i.low * den ≤ num && num ≤ i.high * den
  else i.low * den < num && num < i.high * den

/-- Which neighbour stands for a value in the middle between them. -/
inductive Tie where
  | upper
  | even
  deriving DecidableEq

/-- The two neighbours of the value among the multiples of `10 ^ exponent`, nearer one first. -/
def Interval.neighbours (i : Interval) (tie : Tie) (exponent : Int) : List Decimal :=
  let (num, den) := Decimal.scaled ⟨1, exponent⟩
  let digits := i.value * den / num
  let lower : Decimal := ⟨digits, exponent⟩
  let upper : Decimal := ⟨digits + 1, exponent⟩
  match compare (2 * (i.value * den % num)) num with
  | .lt => [lower, upper]
  | .gt => [upper, lower]
  | .eq => if tie = .even ∧ digits % 2 = 0 then [lower, upper] else [upper, lower]

/-- Every positive magnitude has a digit at most this many places behind the point. -/
def leastDigitPlace : Nat := 324

/-- The power of ten of the leading digit of a positive magnitude. -/
def leadingExponent (x : Binary64) : Int :=
  (Nat.toDigits 10 (x.units * Nat.pow 10 leastDigitPlace / oneUnits)).length - 1 - leastDigitPlace

/-- Seventeen digits tell any two numbers apart, so a shortest decimal has no more. -/
def digitLimit : Nat := 17

def shortest (tie : Tie) (x : Binary64) : Decimal :=
  let interval := x.roundingInterval
  -- From coarse to fine: the first grid with a hit has the fewest digits.
  let found := (List.range digitLimit).findSome? fun (n : Nat) =>
    (interval.neighbours tie (x.leadingExponent - (n : Nat))).find? interval.contains
  found.getD ⟨0, 0⟩

structure Layout where
  /-- Leading exponents written without an exponent part. -/
  positional : Int → Bool
  tie : Tie
  /-- An exponent that is not negative has a plus sign. -/
  plusSign : Bool

def trimZeros (digits : List Char) : List Char :=
  (digits.reverse.dropWhile (· == '0')).reverse

/-- Digits around a point that stands after the digit of `10 ^ 0`. -/
def positionalText (digits : List Char) (leading : Int) : String :=
  if leading < 0 then
    "0." ++ String.ofList (List.replicate (-leading - 1).toNat '0' ++ digits)
  else
    let whole := leading.toNat + 1
    let fraction := digits.drop whole
    String.ofList ((digits.take whole).rightpad whole '0') ++ "." ++
      (if fraction.isEmpty then "0" else String.ofList fraction)

/-- One digit, a point and the others if there are more, and the exponent of the first. -/
def exponentText (plusSign : Bool) (digits : List Char) (leading : Int) : String :=
  String.ofList (digits.take 1) ++
    (if digits.length ≤ 1 then "" else "." ++ String.ofList (digits.drop 1)) ++
    (if plusSign && 0 ≤ leading then "e+" else "e") ++ toString leading

/-- The text of a number; the sign of a zero is kept, a NaN has none. -/
def render (layout : Layout) (x : Binary64) : String :=
  if x.isNaN then "NaN" else
  let sign := if x.isNegative then "-" else ""
  if x.isInfinite then sign ++ "inf" else
  if x.isZero then sign ++ "0.0" else
  let decimal := x.shortest layout.tie
  let digits := Nat.toDigits 10 decimal.digits
  -- A hit on a fine grid can end in zeros, which say nothing about the number.
  let leading := decimal.exponent + digits.length - 1
  let significant := trimZeros digits
  sign ++ if layout.positional leading then positionalText significant leading
    else exponentText layout.plusSign significant leading

end CallGuard.Binary64
