import CallGuard.Binary64
import CallGuard.Dict

/-!
# JSON documents

A document keeps the members of its objects as written. Wherever an object is read as a map, the
last of equal keys counts and the keys are visited in ascending order.
-/
namespace CallGuard

namespace Json

/-- The integers that a signed or an unsigned machine word holds. -/
abbrev IsWord (n : Int) : Prop := -0x8000000000000000 ≤ n ∧ n < 0x10000000000000000

/-- A number that is written in range: an integer of machine size, or anything else as binary64. -/
inductive Number where
  | integer (n : Int) (word : IsWord n)
  | float (x : Binary64) (finite : x.isFinite)

/-- A reader of numbers as binary64. Its answer is optional, but there is one for all that is
written in range, and it is finite. -/
structure NumberReader where
  binary64? : Number → Option Binary64
  finite (n : Number) : ∃ x, binary64? n = some x ∧ x.isFinite

inductive Kind where
  | null
  | boolean
  | number
  | string
  | array
  | object
  deriving DecidableEq

def Kind.text : Kind → String
  | null => "null"
  | boolean => "boolean"
  | number => "number"
  | string => "string"
  | array => "array"
  | object => "object"

end Json

inductive Json where
  | null
  | boolean (b : Bool)
  | number (n : Json.Number)
  | string (s : String)
  | array (items : List Json)
  | object (members : List (String × Json))
  deriving Inhabited

namespace Json

def kind : Json → Kind
  | null => .null
  | boolean _ => .boolean
  | number _ => .number
  | string _ => .string
  | array _ => .array
  | object _ => .object

def fields (members : List (String × Json)) : Dict String Json := .ofList members

/-- The value of a field, if this is an object that has it. -/
def field? (j : Json) (key : String) : Option Json :=
  match j with
  | object members => (fields members).get? key
  | _ => none

end Json

end CallGuard
