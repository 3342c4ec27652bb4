import CallGuard.Value

/-!
# Parts of values

What a value contains at any depth. A value is equal to itself exactly if none of the numbers in it
is a NaN.
-/
namespace CallGuard.Value

/-- The first value is the second one, or stands somewhere inside it. -/
inductive Occurs (part : Value) : Value → Prop
  | self : Occurs part part
  | item {items : List Value} {v : Value} (member : v ∈ items) (inside : Occurs part v) :
      Occurs part (.array items)
  | member {members : Members none} {key : String} {v : Value}
      (member : (key, v) ∈ members.toList) (inside : Occurs part v) :
      Occurs part (.object members)

/-- Induction on what arrays and objects hold. -/
@[elab_as_elim]
theorem inductionOnParts {motive : Value → Prop} (undefined : motive .undefined)
    (null : motive .null) (number : ∀ x, motive (.number x)) (string : ∀ s, motive (.string s))
    (boolean : ∀ b, motive (.boolean b))
    (array : ∀ items, (∀ v ∈ items, motive v) → motive (.array items))
    (object : ∀ members, (∀ m ∈ members.toList, motive m.2) → motive (.object members))
    (nominal : ∀ i, motive (.nominal i)) : ∀ v, motive v
  | .undefined => undefined
  | .null => null
  | .number x => number x
  | .string s => string s
  | .boolean b => boolean b
  | .array items => array items fun v _member =>
    inductionOnParts undefined null number string boolean array object nominal v
  | .object members => object members fun m _member =>
    inductionOnParts undefined null number string boolean array object nominal m.2
  | .nominal i => nominal i
termination_by v => sizeOf v
decreasing_by
  · have smaller := List.sizeOf_lt_of_mem _member
    simp
    omega
  · have smaller := Members.sizeOf_lt_of_mem _member
    simp
    omega

variable {v part : Value}

theorem equalItems_self_iff {items : List Value} :
    equalItems items items ↔ ∀ v ∈ items, equal v v := by
  induction items with
  | nil => simp [equalItems]
  | cons v rest ih => simp [equalItems, ih]

theorem equalMembers_self_iff {floor : Option String} {members : Members floor} :
    equalMembers members members ↔ ∀ m ∈ members.toList, equal m.2 m.2 := by
  induction members with
  | nil => simp [equalMembers, Members.toList]
  | cons key v above rest ih => simp [equalMembers, Members.toList, ih]

/-- What is equal to itself has no part that is not. -/
theorem equal_self_of_occurs (occurs : Occurs part v) (same : equal v v) : equal part part := by
  induction occurs with
  | self => exact same
  | item member _ ih =>
    rw [equal, equalItems_self_iff] at same
    exact ih (same _ member)
  | member member _ ih =>
    rw [equal, equalMembers_self_iff] at same
    exact ih (same _ member)

theorem equal_self_of_noNaN (clean : ∀ x, Occurs (.number x) v → x.isNaN = false) :
    equal v v := by
  -- Only a number can fail to be equal to itself, and it does not by assumption.
  induction v using inductionOnParts with
  | number x => simp [equal, Binary64.numEq_self, clean x .self]
  | array items ih =>
    rw [equal, equalItems_self_iff]
    intro v member
    exact ih v member fun x inside => clean x (.item member inside)
  | object members ih =>
    rw [equal, equalMembers_self_iff]
    intro m member
    exact ih m member fun x inside => clean x (.member member inside)
  | nominal i => simp [equal, Instance.beq_iff]
  | _ => simp [equal]

theorem beq_self_iff (v : Value) :
    (v == v) = true ↔ ∀ x, Occurs (.number x) v → x.isNaN = false := by
  constructor
  · intro same x occurs
    have reflexive := equal_self_of_occurs occurs same
    simpa [equal, Binary64.numEq_self] using reflexive
  · exact equal_self_of_noNaN

end CallGuard.Value
