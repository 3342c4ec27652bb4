import CallGuard.Proofs.FirstMismatch
import CallGuard.Proofs.ForestOrder
import Mathlib.Logic.Relation

/-!
# Verdicts

What validation has to answer, said without a scan: which descriptor applies to a position, which
values it matches, and the least position where the applicable descriptor does not match. Main
statement: validation gives just this answer.
-/
namespace CallGuard

/-- The class is the upper one, or parent links lead from it to that. -/
def Class.Inherits (c upper : Class) : Prop :=
  Relation.ReflTransGen (fun lower parent => lower.parent? = some parent) c upper

/-- The table of matches. Undefined and null have no place in it. -/
inductive Descriptor.Matches : Descriptor → Value → Prop
  | number (x : Binary64) : Matches .number (.number x)
  | string (s : String) : Matches .string (.string s)
  | boolean (b : Bool) : Matches .boolean (.boolean b)
  | object {v : Value} (defined : v.kind ≠ .undefined) (notNull : v.kind ≠ .null) :
      Matches .object v
  | ofClass {c : Class} {i : Instance} (inherits : i.ofClass.Inherits c) :
      Matches (.ofClass c) (.nominal i)

namespace Spec

/-- The descriptor of a position: that of its own entry, or else the fallback. -/
inductive Applies (s : Spec) (position : Nat) : Descriptor → Origin → Prop
  | entry {i : UInt64} {d : Descriptor} (here : i.toNat = position) (found : s.get? i = some d) :
      Applies s position d .positional
  | fallback {d : Descriptor} (noEntry : ∀ i : UInt64, i.toNat = position → s.get? i = none)
      (found : s.fallback = some d) : Applies s position d .fallback

/-- The value may stand at the position: no descriptor applies there, or the one that does
matches. -/
def Passes (s : Spec) (position : Nat) (v : Value) : Prop :=
  ∀ d origin, s.Applies position d origin → d.Matches v

/-- The answer to a list of arguments. -/
inductive Verdict (s : Spec) (args : List Value) : Except Mismatch Unit → Prop
  | accepted (all : ∀ i v, args[i]? = some v → s.Passes i v) : Verdict s args (.ok ())
  | rejected {i : Nat} {v : Value} {d : Descriptor} {origin : Origin} (there : args[i]? = some v)
      (applies : s.Applies i d origin) (refused : ¬d.Matches v)
      (before : ∀ j w, j < i → args[j]? = some w → s.Passes j w) :
      Verdict s args (.error ⟨i, d.name, v.kind, origin⟩)

end Spec

/-! ### The table -/

theorem Class.inherits_iff {c upper : Class} : c.Inherits upper ↔ upper ∈ c.ancestors := by
  constructor
  · intro inherits
    induction inherits with
    | refl => exact c.self_mem_ancestors
    | @tail middle upper _ link ih =>
      have above : upper ∈ middle.ancestors := by
        rw [middle.ancestors_eq_cons, link]
        exact List.mem_cons_of_mem _ upper.self_mem_ancestors
      exact mem_ancestors_trans above ih
  · intro above
    induction c with
    | root serial name => exact List.mem_singleton.mp above ▸ .refl
    | derived serial name parent ih =>
      rcases List.mem_cons.mp above with rfl | above
      · exact .refl
      · exact .head rfl (ih above)

theorem Value.isNullish_eq_false_iff {v : Value} :
    v.isNullish = false ↔ v.kind ≠ .undefined ∧ v.kind ≠ .null := by
  rw [Bool.eq_false_iff, ne_eq, isNullish_iff, not_or, and_comm]

theorem Descriptor.admits_iff_matches {d : Descriptor} {v : Value} : d.admits v ↔ d.Matches v := by
  constructor
  · intro admitted
    cases d with
    | object =>
      rw [admits_object_iff, Value.isNullish_eq_false_iff] at admitted
      obtain ⟨defined, notNull⟩ := admitted
      exact .object defined notNull
    | ofClass c =>
      obtain ⟨i, rfl, above⟩ := (admits_ofClass_iff c v).mp admitted
      exact .ofClass (Class.inherits_iff.mpr above)
    | _ => cases v <;> first | constructor | cases admitted
  · intro fits
    cases fits with
    | object defined notNull =>
      exact (admits_object_iff _).mpr (Value.isNullish_eq_false_iff.mpr ⟨defined, notNull⟩)
    | ofClass inherits =>
      exact (admits_ofClass_iff _ _).mpr ⟨_, rfl, Class.inherits_iff.mp inherits⟩
    | _ => rfl

/-- In a grown forest classes are told apart by serial numbers, and one walk decides a match. -/
theorem Descriptor.admits_nominal_iff_walk {f : Forest} (grown : f.Grown) {i : Instance} {c : Class}
    (made : i.ofClass ∈ f) (created : c ∈ f) :
    (ofClass c).admits (.nominal i) ↔
      ∃ visited, f.Walk i.ofClass.serial visited ∧ c.serial ∈ visited := by
  have sub : (ofClass c).admits (.nominal i) ↔ i.ofClass.isSubclassOf c := Iff.rfl
  rw [sub, Forest.isSubclassOf_iff_serial_mem grown made created]
  simp only [Forest.walk_iff grown made, exists_eq_left]

namespace Spec

variable {s : Spec} {position : Nat} {d : Descriptor} {origin : Origin} {v : Value}

/-! ### Positions -/

theorem entryAt?_eq_some_iff :
    s.entryAt? position = some d ↔ ∃ i : UInt64, i.toNat = position ∧ s.get? i = some d := by
  rw [entryAt?, Option.bind_eq_some_iff]
  simp only [indexOf?_eq_some_iff]

theorem entryAt?_eq_none_iff :
    s.entryAt? position = none ↔ ∀ i : UInt64, i.toNat = position → s.get? i = none := by
  rw [entryAt?, Option.bind_eq_none_iff]
  simp only [indexOf?_eq_some_iff]

theorem applies_iff : s.Applies position d origin ↔ s.applicable? position = some (d, origin) := by
  constructor
  · intro applies
    cases applies with
    | entry here found => exact applicable?_of_entry (entryAt?_eq_some_iff.mpr ⟨_, here, found⟩)
    | fallback noEntry found =>
      rw [applicable?_of_no_entry (entryAt?_eq_none_iff.mpr noEntry), found]
      rfl
  · intro found
    cases own : s.entryAt? position with
    | some e =>
      cases (applicable?_of_entry own).symm.trans found
      obtain ⟨i, here, entry⟩ := entryAt?_eq_some_iff.mp own
      exact .entry here entry
    | none =>
      rw [applicable?_of_no_entry own] at found
      obtain ⟨e, fallback, same⟩ := Option.map_eq_some_iff.mp found
      cases same
      exact .fallback (entryAt?_eq_none_iff.mp own) fallback

/-- The origin of a descriptor tells whether the position has an entry of its own. -/
theorem Applies.positional_iff (applies : s.Applies position d origin) :
    origin = .positional ↔ ∃ i : UInt64, i.toNat = position ∧ (s.get? i).isSome := by
  cases applies with
  | entry here found => exact ⟨fun _ => ⟨_, here, by rw [found]; rfl⟩, fun _ => rfl⟩
  | fallback noEntry _ =>
    constructor
    · rintro ⟨⟩
    · rintro ⟨i, here, own⟩
      rw [noEntry i here] at own
      cases own

theorem mismatchAt?_eq_none_iff_passes : s.mismatchAt? position v = none ↔ s.Passes position v := by
  simp only [mismatchAt?_eq_none_iff, Passes, applies_iff, Descriptor.admits_iff_matches]

theorem mismatchAt?_eq_some_iff_refused {m : Mismatch} :
    s.mismatchAt? position v = some m ↔
      ∃ d origin, s.Applies position d origin ∧ ¬d.Matches v ∧
        m = ⟨position, d.name, v.kind, origin⟩ := by
  simp only [mismatchAt?_eq_some_iff, applies_iff, ← Descriptor.admits_iff_matches,
    Bool.not_eq_true]

/-! ### Lists of arguments -/

variable {args : List Value}

theorem verdict_ok_iff : s.Verdict args (.ok ()) ↔ ∀ i v, args[i]? = some v → s.Passes i v := by
  constructor
  · rintro ⟨all⟩
    exact all
  · exact .accepted

theorem verdict_error_iff {m : Mismatch} :
    s.Verdict args (.error m) ↔
      ∃ v, args[m.position]? = some v ∧ s.mismatchAt? m.position v = some m ∧
        ∀ i w, i < m.position → args[i]? = some w → s.Passes i w := by
  constructor
  · intro rejected
    cases rejected with
    | rejected there applies refused before =>
      exact ⟨_, there, mismatchAt?_eq_some_iff_refused.mpr ⟨_, _, applies, refused, rfl⟩, before⟩
  · rintro ⟨v, there, mismatch, before⟩
    obtain ⟨d, origin, applies, refused, same⟩ := mismatchAt?_eq_some_iff_refused.mp mismatch
    rw [same]
    exact .rejected there applies refused before

theorem value_validate_eq_iff {result : Except Mismatch Unit} :
    (s.validate args).value = result ↔ s.Verdict args result := by
  cases result with
  | ok =>
    rw [validate_ok_iff, verdict_ok_iff]
    simp only [mismatchAt?_eq_none_iff_passes]
  | error m =>
    rw [validate_error_iff, verdict_error_iff]
    simp only [mismatchAt?_eq_none_iff_passes]

/-! ### Main result -/

/-- Validation accepts just the lists in which every argument passes at its position, and otherwise
returns the mismatch of the least position where one does not: the name of the descriptor that
applies there, the kind of the argument, and whether the position has an entry of its own. What a
descriptor admits is given by the table; between a class and an instance a walk through the forest
of their creation decides. -/
theorem validate_iff_verdict (s : Spec) (args : List Value) :
    (∀ result, (s.validate args).value = result ↔ s.Verdict args result) ∧
    (∀ m, (s.validate args).value = .error m →
      (m.origin = .positional ↔ ∃ i : UInt64, i.toNat = m.position ∧ (s.get? i).isSome)) ∧
    (∀ (d : Descriptor) (v : Value), d.admits v ↔ d.Matches v) ∧
    ∀ f : Forest, f.Grown → ∀ (c : Class) (i : Instance), c ∈ f → i.ofClass ∈ f →
      ((Descriptor.ofClass c).admits (.nominal i) ↔
        ∃ visited, f.Walk i.ofClass.serial visited ∧ c.serial ∈ visited) := by
  refine ⟨fun _ => value_validate_eq_iff, ?_, fun _ _ => Descriptor.admits_iff_matches, ?_⟩
  · intro m rejected
    cases value_validate_eq_iff.mp rejected with
    | rejected _ applies _ _ => exact applies.positional_iff
  · intro f grown c i created made
    exact Descriptor.admits_nominal_iff_walk grown made created

/-- The second argument is an instance of the wrong one of two classes of the same name. It is
reported although a null comes after it, and the first argument passes by the fallback. -/
theorem validate_iff_verdict_namesakes :
    let s := (empty.withEntry 1 (.ofClass Forest.junior)).withFallback .number
    let args : List Value := [.number default, .nominal ⟨Forest.elder, .unit, 0⟩, .null]
    s.Verdict args (.error ⟨1, "Widget", .nominal, .positional⟩) ∧
    (∃ i : UInt64, i.toNat = 1 ∧ (s.get? i).isSome) ∧
    ¬∃ visited, Forest.namesakes.Walk 0 visited ∧ 1 ∈ visited := by
  intro s args
  obtain ⟨verdict, origin, -, walk⟩ := validate_iff_verdict s args
  have rejected : (s.validate args).value = .error ⟨1, "Widget", .nominal, .positional⟩ := rfl
  have elder := walk .namesakes Forest.grown_namesakes Forest.junior ⟨Forest.elder, .unit, 0⟩
    Forest.junior_mem Forest.elder_mem
  refine ⟨(verdict _).mp rejected, (origin _ rejected).mp rfl, fun visits => ?_⟩
  exact absurd (elder.mpr visits) (by decide)

end Spec

end CallGuard
