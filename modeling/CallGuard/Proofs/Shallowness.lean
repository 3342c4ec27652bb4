import CallGuard.Proofs.Lockstep

/-!
# Shallow checks

A check looks at the kind of an argument and, if it is an instance, at its class; what numbers,
texts, items, members and payloads there are makes no difference, and an argument at an unchecked
position makes none at all. Main statement: checks of lists that agree in this are the same, result
and log, under every configuration. Nothing less would do (`alike_iff_validate_eq`).
-/
namespace CallGuard

/-- The values are of one kind, and if they are instances, of one class. -/
structure Value.Alike (v w : Value) : Prop where
  kind : v.kind = w.kind
  ofClass : ∀ i j, v = .nominal i → w = .nominal j → i.ofClass = j.ofClass

/-- At each position that the specification checks, the lists have values that are alike. -/
structure Spec.AlikeWhereChecked (s : Spec) (xs ys : List Value) : Prop where
  length : ys.length = xs.length
  alike : ∀ i v w d origin, xs[i]? = some v → ys[i]? = some w → s.Applies i d origin → v.Alike w

variable {s : Spec} {position : Nat} {d : Descriptor} {v w : Value} {xs ys : List Value}

/-! ### One argument -/

theorem Descriptor.admits_eq_of_alike (d : Descriptor) (alike : v.Alike w) :
    d.admits v = d.admits w := by
  obtain ⟨kind, ofClass⟩ := alike
  cases v with
  | nominal i =>
    cases w with
    | nominal j =>
      cases d with
      | ofClass c =>
        change i.isInstanceOf c = j.isInstanceOf c
        rw [Instance.isInstanceOf, Instance.isInstanceOf, ofClass i j rfl rfl]
      | _ => rfl
    | _ => cases kind
  | _ =>
    -- Two values of another kind differ in their contents only.
    cases w <;> cases kind
    cases d <;> rfl

namespace Spec

theorem mismatchAt?_eq_of_alike
    (alike : ∀ d origin, s.Applies position d origin → v.Alike w) :
    s.mismatchAt? position w = s.mismatchAt? position v := by
  rw [mismatchAt?, mismatchAt?]
  cases found : s.applicable? position with
  | none => rfl
  | some pair =>
    obtain ⟨d, origin⟩ := pair
    have same := alike d origin (applies_iff.mpr found)
    simp only [d.admits_eq_of_alike same, same.kind]

/-! ### Lists of arguments -/

theorem validate_eq_of_alike (alike : s.AlikeWhereChecked xs ys) : s.validate ys = s.validate xs :=
  validate_congr alike.length
    (fun i v w left right => mismatchAt?_eq_of_alike fun d origin =>
      alike.alike i v w d origin left right)
    fun _ _ => rfl

/-! ### All that is looked at -/

theorem value_validate_fallback (d : Descriptor) (v : Value) :
    ((empty.withFallback d).validate [v]).value =
      if d.admits v then .ok () else .error ⟨0, d.name, v.kind, .fallback⟩ := by
  have applies : (empty.withFallback d).applicable? 0 = some (d, .fallback) := rfl
  rw [validate, value_validateFrom_cons, mismatchAt?, applies]
  cases admitted : d.admits v <;> simp [admitted, validateFrom]

/-- Values that are not alike are told apart by some specification. -/
theorem alike_iff_validate_eq :
    v.Alike w ↔ ∀ s : Spec, s.validate [v] = s.validate [w] := by
  constructor
  · intro alike s
    have checked : s.AlikeWhereChecked [v] [w] := by
      refine ⟨rfl, ?_⟩
      rintro (_ | i) x y d origin left right -
      · cases left
        cases right
        exact alike
      · cases left
    exact (validate_eq_of_alike checked).symm
  · intro same
    have judged (d : Descriptor) :
        d.admits v = d.admits w ∧ (d.admits v = false → v.kind = w.kind) := by
      have result := congrArg Logged.value (same (empty.withFallback d))
      rw [value_validate_fallback, value_validate_fallback] at result
      cases left : d.admits v <;> cases right : d.admits w <;> simp_all
    have kind : v.kind = w.kind := by
      -- A number is no string, so one of the two descriptors refuses the value.
      cases number : Descriptor.number.admits v with
      | false => exact (judged .number).2 number
      | true => exact (judged .string).2 (by cases v <;> first | rfl | cases number)
    refine ⟨kind, ?_⟩
    rintro i j rfl rfl
    have admitted (c : Class) : c ∈ i.ofClass.ancestors ↔ c ∈ j.ofClass.ancestors := by
      rw [← Class.isSubclassOf_iff, ← Class.isSubclassOf_iff]
      exact iff_of_eq (congrArg (· = true) (judged (.ofClass c)).1)
    -- Each class is an ancestor of the other one.
    exact Class.mem_ancestors_antisymm
      ((admitted _).mp i.ofClass.self_mem_ancestors) ((admitted _).mpr j.ofClass.self_mem_ancestors)

end Spec

namespace Guard

variable {F : Type}

/-! ### Main result -/

/-- Two lists of arguments of one length whose values agree in kind and class wherever the
specification has a descriptor for the position are checked alike: under every configuration the
result is the same, with the same mismatch if there is one, and so are all records. -/
theorem check_eq_of_alike (g : Guard F) (alike : g.spec.AlikeWhereChecked xs ys) :
    g.check ys = g.check xs := by
  rw [check, check, Spec.validate_eq_of_alike alike]

/-- The lists differ in contents at both positions that are checked, and in kind at the position
between them, which is not. -/
theorem check_eq_of_alike_contents :
    let spec := (Spec.empty.withEntry 0 .object).withEntry 2 (.ofClass Forest.junior)
    let xs : List Value := [.array [.null], .undefined, .nominal ⟨Forest.elder, .unit, 0⟩]
    let ys : List Value := [.array [], .boolean true, .nominal ⟨Forest.elder, .text "x", 1⟩]
    let m : Mismatch := ⟨2, "Widget", .nominal, .positional⟩
    spec.AlikeWhereChecked xs ys ∧
    (Guard.mk spec {} ()).check ys = (Guard.mk spec {} ()).check xs ∧
    (Guard.mk spec {} ()).check xs =
      ⟨.error m, [{ event := .accepted 0 "Object" .positional }, { event := .rejected m }]⟩ := by
  intro spec xs ys m
  have alike : spec.AlikeWhereChecked xs ys := by
    refine ⟨rfl, ?_⟩
    rintro (_ | _ | _ | i) v w d origin left right applies
    · cases left
      cases right
      exact ⟨rfl, nofun⟩
    · cases Spec.applies_iff.mp applies
    · cases left
      cases right
      refine ⟨rfl, ?_⟩
      rintro _ _ ⟨⟩ ⟨⟩
      rfl
    · cases left
  exact ⟨alike, check_eq_of_alike (Guard.mk spec {} ()) alike, rfl⟩

end Guard

end CallGuard
