import CallGuard.Binary64.Decimal
import CallGuard.Json

/-!
# Number tokens

The grammar of a JSON number and the number that a token stands for. Integers of machine size stay
integers; every other token is read as a decimal whose significand holds as many leading digits as
fit a machine word.
-/
namespace CallGuard.Json

/-- The parts of a number token: digits are lists of values below ten. -/
structure Numeral where
  negative : Bool
  whole : List Nat
  fraction : Option (List Nat)
  exponent : Option Int

/-- What remains of a text when a token in it breaks off. -/
inductive Break where
  /-- The text ended where a digit was due. -/
  | ended
  /-- Another character stood there. -/
  | other
  deriving DecidableEq

/-- The digits at the front of a text, and the rest. -/
def digits (s : List Char) : List Nat × List Char :=
  ((s.takeWhile Char.isDigit).map fun c => c.toNat - '0'.toNat, s.dropWhile Char.isDigit)

/-- At least one digit. -/
def digits1 (s : List Char) : Except Break (List Nat × List Char) :=
  match digits s with
  | ([], []) => .error .ended
  | ([], _) => .error .other
  | found => .ok found

def ofDigits (ds : List Nat) : Nat := ds.foldl (fun n d => 10 * n + d) 0

/-- The part before the point: one zero, or digits that start with another. -/
def wholePart (s : List Char) : Except Break (List Nat × List Char) := do
  let (ds, rest) ← digits1 s
  if ds.head? = some 0 ∧ ds.length ≠ 1 then .error .other else .ok (ds, rest)

def fractionPart (s : List Char) : Except Break (Option (List Nat) × List Char) :=
  match s with
  | '.' :: rest => do
    let (ds, rest) ← digits1 rest
    .ok (some ds, rest)
  | _ => .ok (none, s)

def exponentDigits (negative : Bool) (s : List Char) : Except Break (Option Int × List Char) := do
  let (ds, rest) ← digits1 s
  let size : Int := ofDigits ds
  .ok (some (if negative then -size else size), rest)

def exponentPart (s : List Char) : Except Break (Option Int × List Char) :=
  match s with
  | e :: rest =>
    if e = 'e' ∨ e = 'E' then
      match rest with
      | '-' :: rest => exponentDigits true rest
      | '+' :: rest => exponentDigits false rest
      | rest => exponentDigits false rest
    else .ok (none, s)
  | [] => .ok (none, s)

def unsignedNumeral (negative : Bool) (s : List Char) : Except Break (Numeral × List Char) := do
  let (whole, rest) ← wholePart s
  let (fraction, rest) ← fractionPart rest
  let (exponent, rest) ← exponentPart rest
  .ok (⟨negative, whole, fraction, exponent⟩, rest)

/-- The number token at the front of a text, and the rest. -/
def numeral (s : List Char) : Except Break (Numeral × List Char) :=
  match s with
  | '-' :: rest => unsignedNumeral true rest
  | s => unsignedNumeral false s

/-- A significand under construction: digits are taken as long as the word does not overflow. -/
def takeDigit? (significand digit : Nat) : Option Nat :=
  let next := 10 * significand + digit
  if next < UInt64.size then some next else none

/-- The significand of the digits before the point, and how many of them it leaves out. -/
def wholeSignificand (significand : Nat) : List Nat → Nat × Nat
  | [] => (significand, 0)
  | d :: ds =>
    match takeDigit? significand d with
    | some next => wholeSignificand next ds
    | none => (significand, ds.length + 1)

/-- Goes on with the digits after the point, and counts those it takes. -/
def fractionSignificand (significand taken : Nat) : List Nat → Nat × Nat
  | [] => (significand, taken)
  | d :: ds =>
    match takeDigit? significand d with
    | some next => fractionSignificand next (taken + 1) ds
    | none => (significand, taken)

/-- The token as `significand · 10 ^ exponent`, digits that do not fit left out. -/
def Numeral.decimal (n : Numeral) : Nat × Int :=
  let (significand, dropped) := wholeSignificand 0 n.whole
  let (significand, taken) := fractionSignificand significand 0 (n.fraction.getD [])
  -- Each whole digit left out is a factor of ten, and each fraction digit taken one less.
  (significand, n.exponent.getD 0 + dropped - taken)

def floatNumber? (negative : Bool) (magnitude : Binary64) : Option Number :=
  let x := if negative then magnitude.neg else magnitude
  if finite : x.isFinite then some (.float x finite) else none

def Numeral.float? (n : Numeral) : Option Number := do
  let (significand, exponent) := n.decimal
  floatNumber? n.negative (← Binary64.ofDecimal? significand exponent)

/-- The integer that a token without point and exponent writes; a negative zero is none. -/
def Numeral.integer? (n : Numeral) : Option Int :=
  match n.fraction, n.exponent with
  | none, none =>
    let size := ofDigits n.whole
    -- Integers have one zero only.
    if n.negative then (if size = 0 then none else some (-size)) else some size
  | _, _ => none

/-- The number of a token, or nothing if it is past the largest one. -/
def Numeral.toNumber? (n : Numeral) : Option Number :=
  match n.integer? with
  | some i => if word : IsWord i then some (.integer i word) else n.float?
  | none => n.float?

end CallGuard.Json
