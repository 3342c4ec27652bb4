import CallGuard.Proofs.Subtyping
import Mathlib.Data.List.Chain

/-!
# Ancestry in grown forests

A parent is created before its children, so in a grown forest serial numbers fall along every chain
of ancestors. Main statement: walks from class to parent through the forest visit just the
ancestors, derivation is an order of serial numbers in which the classes above one class form a
chain, and later creations leave all this as it is for the classes that are there.
-/
namespace CallGuard.Forest

/-- The class with a serial number. -/
def get? (f : Forest) (serial : Nat) : Option Class := f.classes.find? (·.serial = serial)

/-- The serial numbers that a walk visits. At each stop the forest is asked for the class with that
number, and the walk goes on to the number of its parent; it ends at a class that has none. -/
inductive Walk (f : Forest) : Nat → List Nat → Prop where
  | root {serial : Nat} {c : Class} (here : f.get? serial = some c) (top : c.parent? = none) :
      Walk f serial [serial]
  | step {serial : Nat} {c parent : Class} {above : List Nat} (here : f.get? serial = some c)
      (link : c.parent? = some parent) (onward : Walk f parent.serial above) :
      Walk f serial (serial :: above)

/-- Creations that lead from one forest to a later one; a parent is a class that exists by then. -/
inductive GrowsInto (f : Forest) : Forest → Prop where
  | refl : GrowsInto f f
  | newRoot {g : Forest} (name : String) : GrowsInto f g → GrowsInto f (g.newRoot name).2
  | newDerived {g : Forest} (name : String) {parent : Class} :
      GrowsInto f g → parent ∈ g → GrowsInto f (g.newDerived name parent).2

/-- The ancestors of a class in its forest: from the class along parent links up to a root, each
visited once. -/
structure Ancestry (f : Forest) (c : Class) : Prop where
  first : c.ancestors.head? = some c
  linked : c.ancestors.IsChain fun lower upper => lower.parent? = some upper
  root : ∃ r, c.ancestors.getLast? = some r ∧ r.parent? = none
  within : ∀ a ∈ c.ancestors, a ∈ f
  distinct : (c.ancestors.map Class.serial).Nodup
  walk : ∀ visited, f.Walk c.serial visited ↔ visited = c.ancestors.map Class.serial
  length : c.ancestors.length = c.depth + 1
  child : ∀ parent, c.parent? = some parent → c.depth = parent.depth + 1

/-- Derivation as an order of the classes of a forest, which their serial numbers tell apart. -/
structure Ordered (f : Forest) : Prop where
  ancestry : ∀ c ∈ f, f.Ancestry c
  identity : ∀ a ∈ f, ∀ b ∈ f, a.serial = b.serial → a = b
  sub_iff : ∀ a ∈ f, ∀ b ∈ f, a.isSubclassOf b ↔ b.serial ∈ a.ancestors.map Class.serial
  refl : ∀ a ∈ f, a.isSubclassOf a
  trans : ∀ a ∈ f, ∀ b ∈ f, ∀ c ∈ f, a.isSubclassOf b → b.isSubclassOf c → a.isSubclassOf c
  antisymm : ∀ a ∈ f, ∀ b ∈ f, a.isSubclassOf b → b.isSubclassOf a → a.serial = b.serial
  total : ∀ a ∈ f, ∀ b ∈ f, ∀ c ∈ f, c.isSubclassOf a → c.isSubclassOf b →
    a.isSubclassOf b ∨ b.isSubclassOf a
  deeper : ∀ a ∈ f, ∀ b ∈ f, a.isSubclassOf b → a.serial ≠ b.serial → b.depth < a.depth

variable {f g : Forest} {a b c parent : Class} {serial : Nat} {visited : List Nat}

/-! ### Serial numbers along the chain of ancestors -/

/-- The parent of a class is in the forest, and it is older. -/
theorem parent_of_mem (grown : f.Grown) (member : c ∈ f) (link : c.parent? = some parent) :
    parent ∈ f ∧ parent.serial < c.serial := by
  induction grown with
  | empty => cases member
  | newRoot name older ih =>
    rcases List.mem_cons.mp member with rfl | old
    · cases link
    · obtain ⟨inside, below⟩ := ih old
      exact ⟨List.mem_cons_of_mem _ inside, below⟩
  | newDerived name older parentIn ih =>
    rcases List.mem_cons.mp member with rfl | old
    · -- The new class has the next number, which is above that of its parent.
      cases link
      exact ⟨List.mem_cons_of_mem _ parentIn, serial_lt_of_mem older parentIn⟩
    · obtain ⟨inside, below⟩ := ih old
      exact ⟨List.mem_cons_of_mem _ inside, below⟩

theorem mem_of_mem_ancestors (grown : f.Grown) (member : c ∈ f) (above : a ∈ c.ancestors) :
    a ∈ f := by
  induction c with
  | root serial name => exact List.mem_singleton.mp above ▸ member
  | derived serial name parent ih =>
    rcases List.mem_cons.mp above with rfl | above
    · exact member
    · exact ih (parent_of_mem grown member rfl).1 above

theorem linked_ancestors (c : Class) :
    c.ancestors.IsChain fun lower upper => lower.parent? = some upper := by
  induction c with
  | root serial name => exact .singleton _
  | derived serial name parent ih =>
    rw [Class.ancestors, parent.ancestors_eq_cons]
    exact .cons_cons rfl (parent.ancestors_eq_cons ▸ ih)

/-- Every ancestor is older than the classes before it. -/
theorem descending_ancestors (grown : f.Grown) (member : c ∈ f) :
    (c.ancestors.map Class.serial).Pairwise (· > ·) := by
  rw [← List.isChain_iff_pairwise, List.isChain_map]
  refine List.IsChain.imp_of_mem_imp (fun lower upper here _ link => ?_) (linked_ancestors c)
  exact (parent_of_mem grown (mem_of_mem_ancestors grown member here) link).2

theorem nodup_serials_ancestors (grown : f.Grown) (member : c ∈ f) :
    (c.ancestors.map Class.serial).Nodup :=
  (descending_ancestors grown member).imp fun older => Nat.ne_of_gt older

theorem exists_root_ancestors (c : Class) :
    ∃ r, c.ancestors.getLast? = some r ∧ r.parent? = none := by
  induction c with
  | root serial name => exact ⟨_, rfl, rfl⟩
  | derived serial name parent ih =>
    obtain ⟨r, last, top⟩ := ih
    refine ⟨r, ?_, top⟩
    rw [Class.ancestors, List.getLast?_cons, last]
    rfl

/-! ### Walks through the forest -/

theorem get?_eq_some_iff (grown : f.Grown) :
    f.get? serial = some c ↔ c ∈ f ∧ c.serial = serial := by
  constructor
  · intro found
    exact ⟨List.mem_of_find?_eq_some found, by simpa using List.find?_some found⟩
  · rintro ⟨member, rfl⟩
    have issued : (f.get? c.serial).isSome := List.find?_isSome.mpr ⟨c, member, by simp⟩
    obtain ⟨d, found⟩ := Option.isSome_iff_exists.mp issued
    have same : d.serial = c.serial := by simpa using List.find?_some found
    -- The number is that of one class only.
    rw [found, eq_of_serial_eq grown (List.mem_of_find?_eq_some found) member same]

/-- A walk is the chain of ancestors, read off the forest one link at a time. -/
theorem walk_iff (grown : f.Grown) (member : c ∈ f) :
    f.Walk c.serial visited ↔ visited = c.ancestors.map Class.serial := by
  induction c generalizing visited with
  | root serial name =>
    have here := (get?_eq_some_iff grown).mpr ⟨member, rfl⟩
    constructor
    · intro walk
      -- The number leads back to this class, so a walk can only stop.
      cases walk with
      | root _ _ => rfl
      | step found link _ =>
        cases here.symm.trans found
        cases link
    · rintro rfl
      exact .root here rfl
  | derived serial name parent ih =>
    have here := (get?_eq_some_iff grown).mpr ⟨member, rfl⟩
    have above := (parent_of_mem grown member rfl).1
    constructor
    · intro walk
      cases walk with
      | root found top =>
        cases here.symm.trans found
        cases top
      | step found link rest =>
        cases here.symm.trans found
        cases link
        rw [(ih above).mp rest]
        rfl
    · rintro rfl
      exact .step here rfl ((ih above).mpr rfl)

/-! ### Later creations -/

theorem GrowsInto.grown (growth : f.GrowsInto g) (grown : f.Grown) : g.Grown := by
  induction growth with
  | refl => exact grown
  | newRoot name _ ih => exact .newRoot name ih
  | newDerived name _ parentIn ih => exact .newDerived name ih parentIn

theorem GrowsInto.mem (growth : f.GrowsInto g) (member : c ∈ f) : c ∈ g := by
  induction growth with
  | refl => exact member
  | newRoot name _ ih => exact List.mem_cons_of_mem _ ih
  | newDerived name _ _ ih => exact List.mem_cons_of_mem _ ih

/-! ### Main result -/

theorem ancestry_of_mem (grown : f.Grown) (member : c ∈ f) : f.Ancestry c where
  first := by rw [c.ancestors_eq_cons, List.head?_cons]
  linked := linked_ancestors c
  root := exists_root_ancestors c
  within _ above := mem_of_mem_ancestors grown member above
  distinct := nodup_serials_ancestors grown member
  walk _ := walk_iff grown member
  length := c.length_ancestors
  child parent link := by
    cases c with
    | root serial name => cases link
    | derived serial name above =>
      cases link
      exact Class.depth_derived serial name parent

/-- A class is compared by its serial number, even though its name may be that of others. -/
theorem isSubclassOf_iff_serial_mem (grown : f.Grown) (ha : a ∈ f) (hb : b ∈ f) :
    a.isSubclassOf b ↔ b.serial ∈ a.ancestors.map Class.serial := by
  rw [Class.isSubclassOf_iff, List.mem_map]
  constructor
  · intro above
    exact ⟨b, above, rfl⟩
  · rintro ⟨c, above, same⟩
    have inside := mem_of_mem_ancestors grown ha above
    exact eq_of_serial_eq grown inside hb same ▸ above

theorem ordered_of_grown (grown : f.Grown) : f.Ordered where
  ancestry _ member := ancestry_of_mem grown member
  identity _ ha _ hb same := eq_of_serial_eq grown ha hb same
  sub_iff _ ha _ hb := isSubclassOf_iff_serial_mem grown ha hb
  refl a _ := (a.isSubclassOf_iff a).mpr a.self_mem_ancestors
  trans a _ b _ c _ lower upper := by
    rw [Class.isSubclassOf_iff] at lower upper ⊢
    exact Class.mem_ancestors_trans upper lower
  antisymm a _ b _ up down := by
    rw [Class.isSubclassOf_iff] at up down
    rw [Class.mem_ancestors_antisymm up down]
  total a _ b _ c _ left right := by
    rw [Class.isSubclassOf_iff] at left right ⊢
    rw [Class.isSubclassOf_iff]
    exact (Class.mem_ancestors_total left right).symm
  deeper a _ b _ sub apart := by
    rw [Class.isSubclassOf_iff] at sub
    rcases Class.eq_or_depth_lt_of_mem_ancestors sub with rfl | nearer
    · exact absurd rfl apart
    · exact nearer

/-- In every forest that creations lead to, derivation is a forest order on serial numbers and the
ancestors of a class are those that a walk visits. Further creations lead to another such forest, in
which the classes of the first one have the same numbers and the same walks. -/
theorem ordered_and_kept (grown : f.Grown) :
    f.Ordered ∧
    ∀ later, f.GrowsInto later → later.Ordered ∧
      ∀ c ∈ f, c ∈ later ∧ f.get? c.serial = some c ∧ later.get? c.serial = some c ∧
        ∀ visited, later.Walk c.serial visited ↔ f.Walk c.serial visited := by
  refine ⟨ordered_of_grown grown, fun later growth => ?_⟩
  have laterGrown := growth.grown grown
  refine ⟨ordered_of_grown laterGrown, fun c member => ?_⟩
  have kept := growth.mem member
  refine ⟨kept, (get?_eq_some_iff grown).mpr ⟨member, rfl⟩,
    (get?_eq_some_iff laterGrown).mpr ⟨kept, rfl⟩, fun visited => ?_⟩
  rw [walk_iff laterGrown kept, walk_iff grown member]

/-- A third class of the same name is created: the two that were there keep their walk and order. -/
theorem ordered_and_kept_namesakes :
    namesakes.Grown ∧ namesakes.GrowsInto (namesakes.newRoot "Widget").2 ∧
    (namesakes.newRoot "Widget").2.Walk 1 [1, 0] ∧
    junior.isSubclassOf elder ∧ elder.depth < junior.depth := by
  have growth : namesakes.GrowsInto (namesakes.newRoot "Widget").2 := .newRoot "Widget" .refl
  obtain ⟨ordered, kept⟩ := ordered_and_kept grown_namesakes
  have walk := ((ordered.ancestry junior junior_mem).walk [1, 0]).mpr rfl
  have sub : junior.isSubclassOf elder :=
    (ordered.sub_iff junior junior_mem elder elder_mem).mpr (by decide)
  refine ⟨grown_namesakes, growth, ?_, sub, ?_⟩
  · exact (((kept _ growth).2 junior junior_mem).2.2.2 [1, 0]).mpr walk
  · exact ordered.deeper junior junior_mem elder elder_mem sub (by decide)

end CallGuard.Forest
