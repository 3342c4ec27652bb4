import CallGuard.Class

/-!
# Class forests

The classes created so far. A new class draws the next serial number, so within a forest classes
are equal exactly when their serial numbers are, whatever they are called.
-/
namespace CallGuard

/-- Created classes, newest first; a serial number is the number of classes created before. -/
structure Forest where
  classes : List Class := []

namespace Forest

def nextSerial (f : Forest) : Nat := f.classes.length

def newRoot (f : Forest) (name : String) : Class × Forest :=
  let made := Class.root f.nextSerial name
  (made, ⟨made :: f.classes⟩)

def newDerived (f : Forest) (name : String) (parent : Class) : Class × Forest :=
  let made := Class.derived f.nextSerial name parent
  (made, ⟨made :: f.classes⟩)

def create (f : Forest) (name : String) (parent : Option Class) : Class × Forest :=
  match parent with
  | none => f.newRoot name
  | some parent => f.newDerived name parent

instance : Membership Class Forest := ⟨fun f c => c ∈ f.classes⟩

/-- Forests that creations from the empty forest lead to; a parent is a class of the forest. -/
inductive Grown : Forest → Prop where
  | empty : Grown {}
  | newRoot {f : Forest} (name : String) : Grown f → Grown (f.newRoot name).2
  | newDerived {f : Forest} (name : String) {parent : Class} :
      Grown f → parent ∈ f → Grown (f.newDerived name parent).2

theorem mem_iff {f : Forest} {c : Class} : c ∈ f ↔ c ∈ f.classes := Iff.rfl

theorem serial_lt_of_mem {f : Forest} (grown : Grown f) {c : Class} (member : c ∈ f) :
    c.serial < f.nextSerial := by
  induction grown with
  | empty => simp [mem_iff] at member
  | newRoot name _ ih =>
    rcases List.mem_cons.mp member with rfl | old
    · simp [Class.serial, nextSerial, newRoot]
    · exact Nat.lt_succ_of_lt (ih old)
  | newDerived name _ _ ih =>
    rcases List.mem_cons.mp member with rfl | old
    · simp [Class.serial, nextSerial, newDerived]
    · exact Nat.lt_succ_of_lt (ih old)

/-- Serial numbers identify the classes of a forest. -/
theorem eq_of_serial_eq {f : Forest} (grown : Grown f) {a b : Class} (ha : a ∈ f) (hb : b ∈ f)
    (same : a.serial = b.serial) : a = b := by
  induction grown with
  | empty => simp [mem_iff] at ha
  | newRoot name older ih =>
    rcases List.mem_cons.mp ha with rfl | ha <;> rcases List.mem_cons.mp hb with rfl | hb
    · rfl
    -- The new serial number is above all that were drawn before.
    · exact absurd same (Nat.ne_of_gt (serial_lt_of_mem older hb))
    · exact absurd same (Nat.ne_of_lt (serial_lt_of_mem older ha))
    · exact ih ha hb
  | newDerived name older _ ih =>
    rcases List.mem_cons.mp ha with rfl | ha <;> rcases List.mem_cons.mp hb with rfl | hb
    · rfl
    · exact absurd same (Nat.ne_of_gt (serial_lt_of_mem older hb))
    · exact absurd same (Nat.ne_of_lt (serial_lt_of_mem older ha))
    · exact ih ha hb

end Forest

end CallGuard
