/-!
# Nominal classes

A class is a root or derives from one parent that existed before it, so every ancestor chain ends.
The serial number is drawn at creation and tells classes of one name apart.
-/
namespace CallGuard

inductive Class where
  | root (serial : Nat) (name : String)
  | derived (serial : Nat) (name : String) (parent : Class)
  deriving DecidableEq, Inhabited

namespace Class

def serial : Class → Nat
  | root serial _ => serial
  | derived serial _ _ => serial

def name : Class → String
  | root _ name => name
  | derived _ name _ => name

def parent? : Class → Option Class
  | root _ _ => none
  | derived _ _ parent => some parent

/-- The class itself, then its parent and so on up to the root. -/
def ancestors : Class → List Class
  | root serial name => [root serial name]
  | derived serial name parent => derived serial name parent :: parent.ancestors

/-- The number of classes above this one. -/
def depth (c : Class) : Nat := c.ancestors.length - 1

/-- The class is `other` or derives from it. -/
def isSubclassOf (c other : Class) : Bool := other ∈ c.ancestors

theorem ancestors_eq_cons (c : Class) :
    c.ancestors = c :: (c.parent?.map ancestors).getD [] := by
  cases c <;> rfl

theorem self_mem_ancestors (c : Class) : c ∈ c.ancestors := by
  rw [ancestors_eq_cons]
  exact List.mem_cons_self

theorem length_ancestors (c : Class) : c.ancestors.length = c.depth + 1 := by
  rw [depth, ancestors_eq_cons]
  rfl

theorem depth_derived (serial : Nat) (name : String) (parent : Class) :
    (derived serial name parent).depth = parent.depth + 1 := parent.length_ancestors

theorem isSubclassOf_iff (c other : Class) : c.isSubclassOf other ↔ other ∈ c.ancestors := by
  simp [isSubclassOf]

end Class

end CallGuard
