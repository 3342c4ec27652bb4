import CallGuard.Dict.Lemmas
import CallGuard.Proofs.Verdicts

/-!
# Widening

A specification that asks for less at every position, and arguments that are replaced by instances
of derived classes: neither turns an accepted call into a rejected one, nor moves a rejection
towards the front. Both are said position by position, of the descriptors that apply, since an
entry that is taken out leaves the position to the fallback.
-/
namespace CallGuard

/-- The value can take the place of the other: it is the same, or both are instances and its class
derives from that of the other. -/
inductive Value.Substitutes : Value → Value → Prop
  | same (v : Value) : Substitutes v v
  | derived {i j : Instance} (sub : i.ofClass.isSubclassOf j.ofClass) :
      Substitutes (.nominal i) (.nominal j)

/-- The second specification leaves the position unchecked, or the first one checks it and the
descriptor of the second is above that of the first. -/
def Spec.WidenedAt (s t : Spec) (position : Nat) : Prop :=
  ∀ e origin, t.Applies position e origin →
    ∃ d own, s.Applies position d own ∧ Descriptor.Below d e

/-- What a call is checked for is widened, and its arguments are replaced. -/
structure Widening (s : Spec) (xs : List Value) (t : Spec) (ys : List Value) : Prop where
  length : ys.length = xs.length
  descriptors : ∀ position < xs.length, s.WidenedAt t position
  arguments : ∀ (i : Nat) (v w : Value), xs[i]? = some v → ys[i]? = some w → w.Substitutes v

namespace Widening

variable {s t : Spec} {xs ys : List Value} {position : Nat} {v w : Value} {m n : Mismatch}

/-! ### One position -/

theorem admits_of_substitutes {d : Descriptor} (substitutes : w.Substitutes v)
    (admitted : d.admits v) : d.admits w := by
  cases substitutes with
  | same => exact admitted
  | @derived i j sub =>
    cases d with
    | object => rfl
    | ofClass c =>
      rw [Class.isSubclassOf_iff] at sub
      have above : c ∈ j.ofClass.ancestors := (Class.isSubclassOf_iff _ _).mp admitted
      exact (Class.isSubclassOf_iff _ _).mpr (Class.mem_ancestors_trans above sub)
    | _ => cases admitted

theorem passes_of_widenedAt (widened : s.WidenedAt t position) (substitutes : w.Substitutes v)
    (passes : s.Passes position v) : t.Passes position w := by
  intro e origin applies
  obtain ⟨d, own, asked, below⟩ := widened e origin applies
  have admitted : d.admits v := Descriptor.admits_iff_matches.mpr (passes d own asked)
  rw [← Descriptor.admits_iff_matches]
  exact Descriptor.admits_of_below below (admits_of_substitutes substitutes admitted)

/-! ### Two calls -/

/-- An argument of the second call passes wherever that of the first call does. -/
theorem passes (widening : Widening s xs t ys) (found : ys[position]? = some w)
    (passed : ∀ v, xs[position]? = some v → s.Passes position v) : t.Passes position w := by
  have inside : position < xs.length :=
    widening.length ▸ (List.getElem?_eq_some_iff.mp found).1
  have original : xs[position]? = some xs[position] := List.getElem?_eq_getElem inside
  exact passes_of_widenedAt (widening.descriptors position inside)
    (widening.arguments _ _ _ original found) (passed _ original)

theorem validate_ok (widening : Widening s xs t ys) (accepted : (s.validate xs).value = .ok ()) :
    (t.validate ys).value = .ok () := by
  rw [Spec.value_validate_eq_iff, Spec.verdict_ok_iff] at accepted ⊢
  intro i w found
  exact widening.passes found fun v original => accepted i v original

theorem position_le (widening : Widening s xs t ys) (left : (s.validate xs).value = .error m)
    (right : (t.validate ys).value = .error n) : m.position ≤ n.position := by
  rw [Spec.value_validate_eq_iff, Spec.verdict_error_iff] at left right
  obtain ⟨_, _, _, before⟩ := left
  obtain ⟨w, found, mismatch, _⟩ := right
  rw [← Nat.not_lt]
  intro earlier
  -- In front of the first mismatch everything passes, so it still does after widening.
  have passed := widening.passes found fun v original => before n.position v earlier original
  rw [← Spec.mismatchAt?_eq_none_iff_passes, mismatch] at passed
  cases passed

/-! ### Main result -/

/-- If at every position of a call the descriptor that applies is dropped or replaced by one above
it, and the argument stays or is replaced by an instance of a derived class, then an accepted call
is still accepted, and of two rejected ones the second is rejected no further to the front. -/
theorem accepted_and_position_le (widening : Widening s xs t ys) :
    ((s.validate xs).value = .ok () → (t.validate ys).value = .ok ()) ∧
    ∀ m n, (s.validate xs).value = .error m → (t.validate ys).value = .error n →
      m.position ≤ n.position :=
  ⟨widening.validate_ok, fun _ _ => widening.position_le⟩

/-- Numbers first, then instances of the derived class. -/
def strict : Spec := (Spec.empty.withEntry 0 .number).withFallback (.ofClass Forest.junior)

/-- Anything first, then instances of the class of the same name above it. -/
def wide : Spec := (Spec.empty.withEntry 0 .object).withFallback (.ofClass Forest.elder)

theorem widenedAt_strict_wide (position : Nat) : strict.WidenedAt wide position := by
  intro e origin applies
  cases applies with
  | @entry i _ here found =>
    have first : i = 0 ∧ .object = e := by
      simpa [wide, Spec.get?, Spec.withEntry, Spec.withFallback, Dict.get?_insert, Spec.empty]
        using found
    obtain ⟨rfl, rfl⟩ := first
    exact ⟨.number, .positional, .entry here rfl, .object _⟩
  | fallback noEntry found =>
    cases found
    -- Both have an entry for the same index only.
    refine ⟨_, .fallback, .fallback (fun i here => ?_) rfl, .derived (by decide)⟩
    have absent := noEntry i here
    simp_all [strict, wide, Spec.get?, Spec.withEntry, Spec.withFallback, Dict.get?_insert,
      Spec.empty]

/-- Both reject a null at the end, but the first one stops before it, at an instance that the second
call replaces. -/
theorem accepted_and_position_le_namesakes :
    let xs : List Value := [.number default, .nominal ⟨Forest.elder, .unit, 0⟩, .null]
    let ys : List Value := [.number default, .nominal ⟨Forest.junior, .unit, 1⟩, .null]
    Widening strict xs wide ys ∧
    (strict.validate xs).value = .error ⟨1, "Widget", .nominal, .fallback⟩ ∧
    (wide.validate ys).value = .error ⟨2, "Widget", .null, .fallback⟩ ∧ 1 ≤ 2 ∧
    (strict.validate (xs.take 1)).value = .ok () ∧ (wide.validate (ys.take 1)).value = .ok () := by
  intro xs ys
  have widening : Widening strict xs wide ys :=
    { length := rfl
      descriptors := fun position _ => widenedAt_strict_wide position
      arguments := by
        rintro (_ | _ | _ | i) v w original found <;> cases original <;> cases found
        · exact .same _
        · exact .derived (by decide)
        · exact .same _ }
  have first : Widening strict (xs.take 1) wide (ys.take 1) :=
    { length := rfl
      descriptors := fun position _ => widenedAt_strict_wide position
      arguments := by
        rintro (_ | i) v w original found
        · cases original
          cases found
          exact .same _
        · cases original }
  have left : (strict.validate xs).value = .error ⟨1, "Widget", .nominal, .fallback⟩ := rfl
  have right : (wide.validate ys).value = .error ⟨2, "Widget", .null, .fallback⟩ := rfl
  have accepted : (strict.validate (xs.take 1)).value = .ok () := rfl
  exact ⟨widening, left, right, (accepted_and_position_le widening).2 _ _ left right, accepted,
    (accepted_and_position_le first).1 accepted⟩

end Widening

end CallGuard
