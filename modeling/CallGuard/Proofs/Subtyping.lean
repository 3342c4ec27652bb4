import CallGuard.Check
import CallGuard.Proofs.Ancestry

/-!
# Subtyping of descriptors

The order of descriptors is read off their form: the object descriptor is above all others, and
classes are ordered by derivation. The main result says that it is the order of the sets of values
they admit, and that two of these sets are nested or disjoint. Classes of a forest that has grown by
creations are equal only if they are of one creation (`Forest.eq_of_serial_eq`).

Each descriptor has a sample value, which a descriptor admits exactly if it is above that one. So
one value decides every inclusion.
-/
namespace CallGuard

/-- All classes in the value, at any depth, were created in the forest. -/
inductive Value.MadeIn (f : Forest) : Value → Prop where
  | undefined : MadeIn f .undefined
  | null : MadeIn f .null
  | number (x : Binary64) : MadeIn f (.number x)
  | string (s : String) : MadeIn f (.string s)
  | boolean (b : Bool) : MadeIn f (.boolean b)
  | array {items : List Value} (inside : ∀ v ∈ items, MadeIn f v) : MadeIn f (.array items)
  | object {members : Members none} (inside : ∀ m ∈ members.toList, MadeIn f m.2) :
      MadeIn f (.object members)
  | nominal {i : Instance} (created : i.ofClass ∈ f) : MadeIn f (.nominal i)

namespace Forest

def elder : Class := .root 0 "Widget"

def junior : Class := .derived 1 "Widget" elder

/-- Two classes of one name, the second derived from the first. -/
def namesakes : Forest := ⟨[junior, elder]⟩

theorem grown_namesakes : namesakes.Grown :=
  .newDerived "Widget" (.newRoot "Widget" .empty) (List.mem_singleton.mpr rfl)

theorem elder_mem : elder ∈ namesakes := List.mem_cons_of_mem _ List.mem_cons_self

theorem junior_mem : junior ∈ namesakes := List.mem_cons_self

end Forest

namespace Descriptor

/-- The class that the descriptor names, if any, was created in the forest. -/
def MadeIn (f : Forest) (d : Descriptor) : Prop := ∀ c, d.class? = some c → c ∈ f

/-- The lower descriptor asks for no less than the upper one. -/
inductive Below : Descriptor → Descriptor → Prop where
  | refl (d : Descriptor) : Below d d
  | object (d : Descriptor) : Below d object
  | derived {a b : Class} (sub : a.isSubclassOf b) : Below (ofClass a) (ofClass b)

/-- A value of the described type; of no other, unless that one is above. -/
def sample : Descriptor → Value
  | number => .number default
  | string => .string ""
  | boolean => .boolean false
  -- Values that only the object descriptor admits are arrays and plain objects.
  | object => .array []
  | ofClass c => .nominal ⟨c, .unit, 0⟩

variable {d e g : Descriptor} {v : Value}

/-! ### The order and the values -/

theorem isNullish_of_admits (admitted : d.admits v) : v.isNullish = false := by
  cases nullish : v.isNullish with
  | false => rfl
  | true => simp [not_admits_nullish d nullish] at admitted

theorem admits_of_below (below : d.Below e) (admitted : d.admits v) : e.admits v := by
  cases below with
  | refl => exact admitted
  | object => exact (admits_object_iff v).mpr (isNullish_of_admits admitted)
  | derived sub =>
    obtain ⟨i, rfl, member⟩ := (admits_ofClass_iff _ v).mp admitted
    have upper := (Class.isSubclassOf_iff _ _).mp sub
    exact (admits_ofClass_iff _ _).mpr ⟨i, rfl, Class.mem_ancestors_trans upper member⟩

/-- The descriptors above `d` are those that admit its sample. -/
theorem admits_sample_iff (d e : Descriptor) : e.admits d.sample ↔ d.Below e := by
  constructor
  · intro admitted
    cases e with
    | object => exact .object d
    | ofClass b =>
      cases d with
      -- The sample of a class is an instance of just that class.
      | ofClass a => exact .derived admitted
      | _ => simp [sample, admits] at admitted
    | _ =>
      cases d with
      | ofClass a => simp [sample, admits] at admitted
      | _ => first | exact .refl _ | simp [sample, admits] at admitted
  · intro below
    refine admits_of_below below ?_
    cases d with
    | ofClass c => exact (admits_ofClass_iff c _).mpr ⟨_, rfl, c.self_mem_ancestors⟩
    | _ => rfl

theorem admits_sample (d : Descriptor) : d.admits d.sample := (admits_sample_iff d d).mpr (.refl d)

theorem madeIn_ofClass {f : Forest} {c : Class} (created : c ∈ f) : (ofClass c).MadeIn f := by
  rintro _ ⟨⟩
  exact created

theorem sample_madeIn {f : Forest} (made : d.MadeIn f) : d.sample.MadeIn f := by
  cases d with
  | number => exact .number _
  | string => exact .string _
  | boolean => exact .boolean _
  | object => exact .array (by simp)
  | ofClass c => exact .nominal (made c rfl)

/-- Single inheritance: descriptors with a common value are comparable. -/
theorem below_or_below_of_admits (left : d.admits v) (right : e.admits v) :
    d.Below e ∨ e.Below d := by
  cases d with
  | object => exact .inr (.object e)
  | ofClass a =>
    cases e with
    | object => exact .inl (.object _)
    | ofClass b =>
      -- Both classes are ancestors of the class of one instance.
      obtain ⟨i, rfl, ha⟩ := (admits_ofClass_iff a v).mp left
      have hb : b ∈ i.ofClass.ancestors := (Class.isSubclassOf_iff _ _).mp right
      rcases Class.mem_ancestors_total ha hb with up | down
      · exact .inr (.derived ((Class.isSubclassOf_iff _ _).mpr up))
      · exact .inl (.derived ((Class.isSubclassOf_iff _ _).mpr down))
    | _ => cases v <;> simp [admits] at left right
  | _ =>
    cases e with
    | object => exact .inl (.object _)
    | _ => first | exact .inl (.refl _) | (cases v <;> simp [admits] at left right)

/-! ### The order laws -/

theorem Below.antisymm (up : d.Below e) (down : e.Below d) : d = e := by
  cases up with
  | refl => rfl
  | object => cases down <;> rfl
  | derived sub =>
    cases down with
    | refl => rfl
    | derived back =>
      have equal := Class.mem_ancestors_antisymm ((Class.isSubclassOf_iff _ _).mp back)
        ((Class.isSubclassOf_iff _ _).mp sub)
      rw [equal]

/-! ### Main result -/

/-- Inclusion of descriptors over a forest, tested by the values of that forest, is their order; and
two descriptors have a value in common exactly if they are comparable. So the sets of values that
any two descriptors admit are nested or disjoint. -/
theorem inclusion_and_overlap_iff {f : Forest} {d e : Descriptor} (dMade : d.MadeIn f)
    (eMade : e.MadeIn f) :
    ((∀ v : Value, v.MadeIn f → d.admits v → e.admits v) ↔ d.Below e) ∧
    ((∃ v : Value, v.MadeIn f ∧ d.admits v ∧ e.admits v) ↔ d.Below e ∨ e.Below d) ∧
    ((∀ v, d.admits v → e.admits v) ∨ (∀ v, e.admits v → d.admits v) ∨
      ∀ v, ¬(d.admits v ∧ e.admits v)) := by
  refine ⟨⟨?_, ?_⟩, ⟨?_, ?_⟩, ?_⟩
  · intro included
    exact (admits_sample_iff d e).mp (included d.sample (sample_madeIn dMade) d.admits_sample)
  · intro below v _ admitted
    exact admits_of_below below admitted
  · rintro ⟨v, _, left, right⟩
    exact below_or_below_of_admits left right
  · rintro (below | above)
    -- The sample of the lower one is common to both.
    · exact ⟨d.sample, sample_madeIn dMade, d.admits_sample, (admits_sample_iff d e).mpr below⟩
    · exact ⟨e.sample, sample_madeIn eMade, (admits_sample_iff e d).mpr above, e.admits_sample⟩
  · by_cases common : ∃ v, d.admits v ∧ e.admits v
    · obtain ⟨v, left, right⟩ := common
      rcases below_or_below_of_admits left right with below | above
      · exact .inl fun _ => admits_of_below below
      · exact .inr (.inl fun _ => admits_of_below above)
    · exact .inr (.inr fun v both => common ⟨v, both⟩)

/-- The derived class is included in the other of the same name, and not the other way round. -/
theorem inclusion_and_overlap_namesakes :
    Forest.namesakes.Grown ∧
    (∀ v : Value, v.MadeIn .namesakes →
      (ofClass Forest.junior).admits v → (ofClass Forest.elder).admits v) ∧
    ¬∀ v : Value, v.MadeIn .namesakes →
      (ofClass Forest.elder).admits v → (ofClass Forest.junior).admits v := by
  have junior := madeIn_ofClass Forest.junior_mem
  have elder := madeIn_ofClass Forest.elder_mem
  refine ⟨Forest.grown_namesakes, ?_, ?_⟩
  · exact (inclusion_and_overlap_iff junior elder).1.mpr (.derived (by decide))
  · intro included
    have below := (inclusion_and_overlap_iff elder junior).1.mp included
    cases below with
    | derived sub => exact absurd sub (by decide)

end Descriptor

end CallGuard
