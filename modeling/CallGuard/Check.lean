import CallGuard.Spec
import CallGuard.Value

/-!
# Checking one argument

Whether a value is of a described type. Null and undefined are of none.
-/
namespace CallGuard

/-- A value is of the described type. -/
def Descriptor.admits : Descriptor → Value → Bool
  | _, .undefined => false
  | _, .null => false
  | .object, _ => true
  | .number, .number _ => true
  | .string, .string _ => true
  | .boolean, .boolean _ => true
  | .ofClass c, .nominal i => i.isInstanceOf c
  | _, _ => false

/-- The argument at `position` is not of the type that its descriptor asks for. -/
structure Mismatch where
  position : Nat
  /-- The display name of the type asked for. -/
  expected : String
  found : Value.Kind
  origin : Spec.Origin
  deriving DecidableEq

def Mismatch.message (m : Mismatch) : String :=
  s!"invalid type for argument {m.position}: expected {m.expected}, found {m.found.text}"

def Mismatch.code : String := "argguard::call::argument_type"

namespace Descriptor

theorem admits_object_iff (v : Value) : object.admits v ↔ v.isNullish = false := by
  cases v <;> simp [admits, Value.isNullish]

theorem not_admits_nullish (d : Descriptor) {v : Value} (nullish : v.isNullish) :
    d.admits v = false := by
  cases v <;> simp_all [admits, Value.isNullish]

theorem admits_ofClass_iff (c : Class) (v : Value) :
    (ofClass c).admits v ↔ ∃ i, v = .nominal i ∧ c ∈ i.ofClass.ancestors := by
  cases v <;> simp [admits, Instance.isInstanceOf, Class.isSubclassOf_iff]

end Descriptor

end CallGuard
