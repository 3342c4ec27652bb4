import CallGuard.Class

/-!
# Type descriptors

What a specification asks of one argument: a built-in kind, or a class.
-/
namespace CallGuard

inductive Descriptor where
  | number
  | string
  | boolean
  /-- Anything that is there at all. -/
  | object
  /-- Instances of the class or of a class deriving from it. -/
  | ofClass (c : Class)
  deriving DecidableEq, Inhabited

namespace Descriptor

def name : Descriptor → String
  | number => "Number"
  | string => "String"
  | boolean => "Boolean"
  | object => "Object"
  | ofClass c => c.name

def builtins : List Descriptor := [number, string, boolean, object]

/-- The built-in descriptor of a name; classes are never found here. -/
def builtin? (name : String) : Option Descriptor :=
  builtins.find? (·.name = name)

def isPrimitive : Descriptor → Bool
  | number | string | boolean => true
  | object | ofClass _ => false

def class? : Descriptor → Option Class
  | ofClass c => some c
  | _ => none

theorem builtin?_name {d : Descriptor} (member : d ∈ builtins) : builtin? d.name = some d := by
  revert d
  decide

theorem name_eq_of_builtin? {name : String} {d : Descriptor} (found : builtin? name = some d) :
    d.name = name := by
  simpa using List.find?_some found

end Descriptor

end CallGuard
