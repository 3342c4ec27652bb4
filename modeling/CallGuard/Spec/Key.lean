/-!
# Specification keys

Which strings name an entry of a specification: the word for the fallback, and the canonical
decimal texts of argument indexes. An index is a machine word.
-/
namespace CallGuard

/-- The index of a position, if the position has one. -/
def indexOf? (position : Nat) : Option UInt64 :=
  if h : position < UInt64.size then some (.ofNatLT position h) else none

namespace Spec

inductive Key where
  | index (i : UInt64)
  | fallback
  deriving DecidableEq

def fallbackWord : String := "default"

/-- Digits without a leading zero, or a single zero. -/
def isCanonicalDecimal (digits : List Char) : Bool :=
  !digits.isEmpty && digits.all Char.isDigit && (digits == ['0'] || digits.head? != some '0')

namespace Key

def text : Key → String
  | index i => toString i.toNat
  | fallback => fallbackWord

/-- The key that a string writes; any other string names no entry. -/
def parse? (s : String) : Option Key :=
  if s = fallbackWord then some fallback
  else if isCanonicalDecimal s.toList then
    (indexOf? (Nat.ofDigitChars 10 s.toList 0)).map index
  else none

/-- Indexes ascend, and the fallback comes last. -/
def le : Key → Key → Bool
  | index i, index j => i ≤ j
  | fallback, index _ => false
  | _, fallback => true

end Key

end Spec

theorem indexOf?_toNat (i : UInt64) : indexOf? i.toNat = some i := by
  simp [indexOf?, show i.toNat < UInt64.size from i.toNat_lt]

theorem indexOf?_eq_some_iff {position : Nat} {i : UInt64} :
    indexOf? position = some i ↔ i.toNat = position := by
  constructor
  · intro found
    simp only [indexOf?] at found
    split at found
    · cases found
      simp
    · cases found
  · rintro rfl
    exact indexOf?_toNat i

end CallGuard
