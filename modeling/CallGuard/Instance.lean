import CallGuard.Class

/-!
# Instances

A value of a nominal type: its class, and a payload that only the wrapped function looks into. The
ticket names the creation, so copies of an instance are equal and two creations never are.
-/
namespace CallGuard

inductive Payload where
  | unit
  | integer (n : Int)
  | text (s : String)
  | point (x y : Int)
  deriving DecidableEq

structure Instance where
  ofClass : Class
  payload : Payload
  ticket : Nat

namespace Instance

/-- Same class and same creation; the payload is not looked at. -/
def same (i j : Instance) : Bool := i.ofClass == j.ofClass && i.ticket == j.ticket

instance : BEq Instance := ⟨same⟩

/-- The class of the instance is `c` or derives from it. -/
def isInstanceOf (i : Instance) (c : Class) : Bool := i.ofClass.isSubclassOf c

theorem beq_iff (i j : Instance) :
    (i == j) = true ↔ i.ofClass = j.ofClass ∧ i.ticket = j.ticket := by
  simp [BEq.beq, same]

end Instance

/-- The instances created so far, newest first; a ticket is the number of instances before. -/
structure Pool where
  made : List Instance := []

namespace Pool

def create (p : Pool) (c : Class) (payload : Payload) : Instance × Pool :=
  let i : Instance := ⟨c, payload, p.made.length⟩
  (i, ⟨i :: p.made⟩)

instance : Membership Instance Pool := ⟨fun p i => i ∈ p.made⟩

/-- Pools that creations from the empty pool lead to. -/
inductive Grown : Pool → Prop where
  | empty : Grown {}
  | create {p : Pool} (c : Class) (payload : Payload) : Grown p → Grown (p.create c payload).2

end Pool

end CallGuard
