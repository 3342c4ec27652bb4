/-!
# Ranges of characters

A set of characters as ranges of code points, in the way in which Unicode lists a property.
-/
namespace CallGuard.Text

/-- Ranges of code points, both ends included. -/
abbrev CharRanges := List (Nat × Nat)

namespace CharRanges

def contains (ranges : CharRanges) (c : Char) : Bool :=
  ranges.any fun range => range.1 ≤ c.toNat && c.toNat ≤ range.2

end CharRanges

end CallGuard.Text
