/-!
# Reading faults

Why a text could not be read as what was asked for.
-/
namespace CallGuard.Json

inductive Fault where
  /-- The text breaks the grammar. -/
  | malformed
  /-- The text ends too early. -/
  | truncated
  /-- The text is fine but says something else than was asked for. -/
  | unsuited
  deriving DecidableEq

end CallGuard.Json
