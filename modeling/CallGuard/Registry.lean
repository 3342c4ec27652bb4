import CallGuard.Log

/-!
# Type registries

The names that JSON specifications may use, and what they stand for. A later registration under a
name takes the place of the earlier one and is reported.
-/
namespace CallGuard

structure Registry where
  types : Dict String Descriptor := .empty
  deriving DecidableEq

namespace Registry

def empty : Registry := {}

def resolve? (r : Registry) (name : String) : Option Descriptor := r.types.get? name

def contains (r : Registry) (name : String) : Bool := r.types.contains name

/-- The registered names, in ascending order. -/
def names (r : Registry) : List String := r.types.keys

def size (r : Registry) : Nat := r.types.size

def isEmpty (r : Registry) : Bool := r.types.isEmpty

def put (r : Registry) (name : String) (d : Descriptor) : Registry :=
  ⟨r.types.insert name d⟩

def register (r : Registry) (name : String) (d : Descriptor) : Logged Registry := do
  if let some previous := r.resolve? name then
    Logged.report (.registrationReplaced name previous.name)
  pure (r.put name d)

def registerClass (r : Registry) (c : Class) : Logged Registry :=
  r.register c.name (.ofClass c)

/-- Registers a class in a registry that is handed on. -/
def withClass (r : Registry) (c : Class) : Logged Registry := r.registerClass c

def standard : Registry :=
  Descriptor.builtins.foldl (fun r d => r.put d.name d) empty

@[simp] theorem value_register (r : Registry) (name : String) (d : Descriptor) :
    (r.register name d).value = r.put name d := by
  unfold register
  cases r.resolve? name <;> rfl

theorem records_register (r : Registry) (name : String) (d : Descriptor) :
    (r.register name d).records =
      match r.resolve? name with
      | some previous => [{ event := .registrationReplaced name previous.name }]
      | none => [] := by
  unfold register
  cases r.resolve? name <;> rfl

end Registry

end CallGuard
