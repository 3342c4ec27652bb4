import Mathlib.Data.List.Forall2
import CallGuard.Proofs.Copies
import CallGuard.Proofs.Occurrences
import CallGuard.Proofs.Shallowness
import CallGuard.Proofs.Slots

/-!
# Equality of values

Equality goes through arrays and objects down to numbers and instances. It is symmetric and
transitive, but not reflexive: a NaN is not equal to itself, and neither is anything that contains
one. Main statement: these laws, that equal values are of the same described types, that objects are
compared as maps, and that instances are compared by creation.
-/
namespace CallGuard

/-! ### Numbers -/

theorem Binary64.numEq_trans {x y z : Binary64} (left : x.numEq y) (right : y.numEq z) :
    x.numEq z := by
  simp only [numEq, Bool.and_eq_true, Bool.or_eq_true, beq_iff_eq] at left right ⊢
  obtain ⟨⟨hx, -⟩, hxy⟩ := left
  obtain ⟨⟨-, hz⟩, hyz⟩ := right
  refine ⟨⟨hx, hz⟩, ?_⟩
  rcases hxy with rfl | ⟨zero, middle⟩
  · exact hyz
  · rcases hyz with rfl | ⟨-, last⟩
    · exact .inr ⟨zero, middle⟩
    -- Both ends are zeros, whatever their signs.
    · exact .inr ⟨zero, last⟩

namespace Value

variable {u v w : Value}

/-! ### What equals a value -/

theorem equal_undefined_iff : equal .undefined w ↔ w = .undefined := by
  cases w <;> simp [equal]

theorem equal_null_iff : equal .null w ↔ w = .null := by
  cases w <;> simp [equal]

theorem equal_number_iff {x : Binary64} :
    equal (.number x) w ↔ ∃ y, w = .number y ∧ x.numEq y := by
  cases w <;> simp [equal]

theorem equal_string_iff {s : String} : equal (.string s) w ↔ w = .string s := by
  cases w <;> simp [equal, @eq_comm _ s]

theorem equal_boolean_iff {b : Bool} : equal (.boolean b) w ↔ w = .boolean b := by
  cases w <;> simp [equal, @eq_comm _ b]

theorem equal_array_iff {items : List Value} :
    equal (.array items) w ↔ ∃ others, w = .array others ∧ equalItems items others := by
  cases w <;> simp [equal]

theorem equal_object_iff {members : Members none} :
    equal (.object members) w ↔ ∃ others, w = .object others ∧ equalMembers members others := by
  cases w <;> simp [equal]

theorem equal_nominal_iff {i : Instance} :
    equal (.nominal i) w ↔ ∃ j, w = .nominal j ∧ (i == j) = true := by
  cases w <;> simp [equal]

/-! ### Lists of parts -/

/-- Two members have one key and equal values. -/
def SameMember (m n : String × Value) : Prop := m.1 = n.1 ∧ equal m.2 n.2

theorem equalItems_iff {items others : List Value} :
    equalItems items others ↔ List.Forall₂ (fun v w => equal v w) items others := by
  induction items generalizing others with
  | nil => cases others <;> simp [equalItems]
  | cons v rest ih => cases others <;> simp [equalItems, ih]

theorem equalMembers_iff {low high : Option String} {members : Members low}
    {others : Members high} :
    equalMembers members others ↔ List.Forall₂ SameMember members.toList others.toList := by
  induction members generalizing high with
  | nil => cases others <;> simp [equalMembers, Members.toList]
  | cons key v above rest ih =>
    cases others <;> simp [equalMembers, Members.toList, SameMember, ih]

variable {α : Type} {R : α → α → Prop} {xs ys zs : List α}

-- The relation need only be symmetric, and transitive, where it starts from members of the first
-- list: this is what an induction on values gives.
theorem forall₂_symm (each : ∀ a ∈ xs, ∀ b, R a b → R b a) (related : List.Forall₂ R xs ys) :
    List.Forall₂ R ys xs := by
  induction related with
  | nil => exact .nil
  | cons head _ ih =>
    obtain ⟨first, rest⟩ := List.forall_mem_cons.mp each
    exact .cons (first _ head) (ih rest)

theorem forall₂_trans (each : ∀ a ∈ xs, ∀ b c, R a b → R b c → R a c)
    (left : List.Forall₂ R xs ys) (right : List.Forall₂ R ys zs) : List.Forall₂ R xs zs := by
  induction left generalizing zs with
  | nil => exact right
  | cons head _ ih =>
    obtain ⟨first, rest⟩ := List.forall_mem_cons.mp each
    cases right with
    | cons head' tail => exact .cons (first _ _ head head') (ih rest tail)

/-! ### Symmetry and transitivity -/

theorem equal_symm (same : equal v w) : equal w v := by
  -- The induction is on one side alone: what the other side is follows from the equality.
  induction v using inductionOnParts generalizing w with
  | undefined =>
    obtain rfl := equal_undefined_iff.mp same
    exact same
  | null =>
    obtain rfl := equal_null_iff.mp same
    exact same
  | number x =>
    obtain ⟨y, rfl, numbers⟩ := equal_number_iff.mp same
    exact equal_number_iff.mpr ⟨x, rfl, Binary64.numEq_comm x y ▸ numbers⟩
  | string s =>
    obtain rfl := equal_string_iff.mp same
    exact same
  | boolean b =>
    obtain rfl := equal_boolean_iff.mp same
    exact same
  | array items ih =>
    obtain ⟨others, rfl, parts⟩ := equal_array_iff.mp same
    have back := forall₂_symm (fun v member w => ih v member) (equalItems_iff.mp parts)
    exact equal_array_iff.mpr ⟨items, rfl, equalItems_iff.mpr back⟩
  | object members ih =>
    obtain ⟨others, rfl, parts⟩ := equal_object_iff.mp same
    have turned : ∀ m ∈ members.toList, ∀ n, SameMember m n → SameMember n m :=
      fun m member n parts => ⟨parts.1.symm, ih m member parts.2⟩
    have back := forall₂_symm turned (equalMembers_iff.mp parts)
    exact equal_object_iff.mpr ⟨members, rfl, equalMembers_iff.mpr back⟩
  | nominal i =>
    obtain ⟨j, rfl, copies⟩ := equal_nominal_iff.mp same
    rw [Instance.beq_iff] at copies
    exact equal_nominal_iff.mpr
      ⟨i, rfl, (Instance.beq_iff j i).mpr ⟨copies.1.symm, copies.2.symm⟩⟩

theorem equal_trans (left : equal u v) (right : equal v w) : equal u w := by
  induction u using inductionOnParts generalizing v w with
  | undefined =>
    obtain rfl := equal_undefined_iff.mp left
    exact right
  | null =>
    obtain rfl := equal_null_iff.mp left
    exact right
  | number x =>
    obtain ⟨y, rfl, lower⟩ := equal_number_iff.mp left
    obtain ⟨z, rfl, upper⟩ := equal_number_iff.mp right
    exact equal_number_iff.mpr ⟨z, rfl, Binary64.numEq_trans lower upper⟩
  | string s =>
    obtain rfl := equal_string_iff.mp left
    exact right
  | boolean b =>
    obtain rfl := equal_boolean_iff.mp left
    exact right
  | array items ih =>
    obtain ⟨others, rfl, lower⟩ := equal_array_iff.mp left
    obtain ⟨more, rfl, upper⟩ := equal_array_iff.mp right
    have through := forall₂_trans (fun u member v w => ih u member) (equalItems_iff.mp lower)
      (equalItems_iff.mp upper)
    exact equal_array_iff.mpr ⟨more, rfl, equalItems_iff.mpr through⟩
  | object members ih =>
    obtain ⟨others, rfl, lower⟩ := equal_object_iff.mp left
    obtain ⟨more, rfl, upper⟩ := equal_object_iff.mp right
    have joined : ∀ m ∈ members.toList, ∀ n o,
        SameMember m n → SameMember n o → SameMember m o :=
      fun m member n o left right => ⟨left.1.trans right.1, ih m member left.2 right.2⟩
    have through := forall₂_trans joined (equalMembers_iff.mp lower) (equalMembers_iff.mp upper)
    exact equal_object_iff.mpr ⟨more, rfl, equalMembers_iff.mpr through⟩
  | nominal i =>
    obtain ⟨j, rfl, lower⟩ := equal_nominal_iff.mp left
    obtain ⟨k, rfl, upper⟩ := equal_nominal_iff.mp right
    rw [Instance.beq_iff] at lower upper
    exact equal_nominal_iff.mpr
      ⟨k, rfl, (Instance.beq_iff i k).mpr ⟨lower.1.trans upper.1, lower.2.trans upper.2⟩⟩

/-! ### Described types -/

theorem alike_of_equal (same : equal v w) : v.Alike w where
  kind := by cases v <;> cases w <;> first | rfl | simp [equal] at same
  ofClass := by
    rintro i j rfl rfl
    exact ((Instance.beq_iff i j).mp same).1

/-! ### Objects -/

theorem valueOf?_beq_of_forall₂ {entries others : List (String × Value)}
    (same : List.Forall₂ SameMember entries others) (key : String) :
    (Dict.valueOf? key entries == Dict.valueOf? key others) = true := by
  induction same with
  | nil => rfl
  | cons first _ ih =>
    obtain ⟨keys, here⟩ := first
    simp only [Dict.valueOf?, keys]
    split
    · exact here
    · exact ih

theorem not_lt_of_isSome {first : String × Value} {rest : List (String × Value)} {key : String}
    (sorted : Ascending (first :: rest)) (present : (Dict.valueOf? key (first :: rest)).isSome) :
    compare key first.1 ≠ .lt := by
  intro below
  have low := (List.pairwise_cons.mp sorted).1
  have missing : Dict.valueOf? key (first :: rest) = none :=
    Dict.valueOf?_eq_none_of_below (List.forall_mem_cons.mpr
      ⟨below, fun m member => Std.TransCmp.lt_trans below (low m member)⟩)
  simp [missing] at present

theorem isSome_eq_of_beq {found found' : Option Value} (same : (found == found') = true) :
    found.isSome = found'.isSome := by
  cases found <;> cases found' <;> simp_all

theorem forall₂_of_valueOf?_beq {entries others : List (String × Value)}
    (sorted : Ascending entries) (sorted' : Ascending others)
    (agree : ∀ key, (Dict.valueOf? key entries == Dict.valueOf? key others) = true) :
    List.Forall₂ SameMember entries others := by
  induction entries generalizing others with
  | nil =>
    cases others with
    | nil => exact .nil
    | cons n more => simpa [Dict.valueOf?] using agree n.1
  | cons m rest ih =>
    cases others with
    | nil => simpa [Dict.valueOf?] using agree m.1
    | cons n more =>
      obtain ⟨low, tail⟩ := List.pairwise_cons.mp sorted
      obtain ⟨low', tail'⟩ := List.pairwise_cons.mp sorted'
      -- The lesser of two first keys would be missing on the other side.
      have keys : m.1 = n.1 := by
        cases order : compare m.1 n.1 with
        | eq => exact Std.LawfulEqCmp.eq_of_compare order
        | lt =>
          have present : (Dict.valueOf? m.1 (n :: more)).isSome := by
            rw [← isSome_eq_of_beq (agree m.1)]
            simp [Dict.valueOf?]
          exact absurd order (not_lt_of_isSome sorted' present)
        | gt =>
          have present : (Dict.valueOf? n.1 (m :: rest)).isSome := by
            rw [isSome_eq_of_beq (agree n.1)]
            simp [Dict.valueOf?]
          exact absurd (Std.OrientedCmp.gt_iff_lt.mp order) (not_lt_of_isSome sorted present)
      have here : (m.2 == n.2) = true := by simpa [Dict.valueOf?, keys] using agree m.1
      refine .cons ⟨keys, here⟩ (ih tail tail' fun key => ?_)
      by_cases first : key = m.1
      · -- The first key stands on neither side again.
        rw [first, Dict.valueOf?_eq_none_of_below low, keys, Dict.valueOf?_eq_none_of_below low']
        rfl
      · simpa [Dict.valueOf?, first, ← keys] using agree key

/-- Objects are equal exactly if they have equal values under every key. -/
theorem equal_object_iff_get? {members others : Members none} :
    equal (.object members) (.object others) ↔
      ∀ key, (members.toDict.get? key == others.toDict.get? key) = true := by
  rw [equal, equalMembers_iff]
  exact ⟨valueOf?_beq_of_forall₂, forall₂_of_valueOf?_beq members.ascending others.ascending⟩

theorem equal_ofMembers_iff {members others : List (String × Value)} :
    equal (ofMembers members) (ofMembers others) ↔
      ∀ key, (lastUnder? key members == lastUnder? key others) = true := by
  rw [ofMembers, ofMembers, equal_object_iff_get?]
  simp only [Members.toDict_ofDict, Dict.get?_ofList]

/-! ### Main result -/

/-- Equality is symmetric and transitive, and a value is equal to itself, and so to a copy of it,
exactly if it contains no NaN. Equal values are of one kind and of the same described types. Objects
are equal exactly if they have equal values under every key. After any creations and copies,
instances that share a payload are of one class, and they are equal exactly if they are copies of
one original. -/
theorem equality_by_contents_and_creation (u v w : Value) :
    (v == w) = (w == v) ∧
    ((u == v) = true → (v == w) = true → (u == w) = true) ∧
    ((v == v) = true ↔ ∀ x, Occurs (.number x) v → x.isNaN = false) ∧
    ((v == w) = true → v.kind = w.kind ∧ ∀ d : Descriptor, d.admits v = d.admits w) ∧
    (∀ members others : List (String × Value), (ofMembers members == ofMembers others) = true ↔
      ∀ key, (lastUnder? key members == lastUnder? key others) = true) ∧
    ∀ (ops : List Holdings.Operation) (a b : Nat) (i j : Instance),
      (Holdings.run {} ops).held[a]? = some i → (Holdings.run {} ops).held[b]? = some j →
      (i.ticket = j.ticket → i.ofClass = j.ofClass) ∧
      ((nominal i == nominal j) = true ↔
        (Holdings.originalsAfter ops)[a]? = (Holdings.originalsAfter ops)[b]?) := by
  refine ⟨?_, equal_trans, beq_self_iff v, ?_, ?_, ?_⟩
  · exact Bool.eq_iff_iff.mpr ⟨equal_symm, equal_symm⟩
  · intro same
    -- Descriptors look no deeper than the kind and the class.
    have alike := alike_of_equal same
    exact ⟨alike.kind, fun d => d.admits_eq_of_alike alike⟩
  · exact fun members others => equal_ofMembers_iff
  · intro ops a b i j left right
    constructor
    · exact fun same => congrArg Instance.ofClass (Holdings.eq_of_ticket_eq left right same)
    · exact Holdings.beq_iff_original_eq left right

/-- Members in another order, one of them a zero of the other sign; a NaN in a list in an object;
and two creations of one class with one payload, the second of which is copied and the copy
copied. -/
theorem equality_by_contents_and_creation_twins :
    let zeros : Value := ofMembers [("a", .number ⟨0⟩), ("b", .boolean true)]
    let others : Value := ofMembers [("b", .boolean true), ("a", .number (Binary64.neg ⟨0⟩))]
    let nan : Binary64 := ⟨0x7FF8000000000000⟩
    let ops : List Holdings.Operation :=
      [.create Forest.elder .unit, .create Forest.elder .unit, .clone 1, .clone 2]
    (zeros == others) = true ∧ (others == zeros) = true ∧ (zeros == zeros) = true ∧
    (ofMembers [("k", .array [.number nan])] == ofMembers [("k", .array [.number nan])]) = false ∧
    ∃ first second copy, (Holdings.run {} ops).held[0]? = some first ∧
      (Holdings.run {} ops).held[1]? = some second ∧ (Holdings.run {} ops).held[3]? = some copy ∧
      (nominal second == nominal copy) = true ∧ (nominal first == nominal copy) = false := by
  intro zeros others nan ops
  obtain ⟨symmetric, transitive, -, -, objects, instances⟩ :=
    equality_by_contents_and_creation zeros others zeros
  obtain ⟨-, -, reflexive, -⟩ :=
    equality_by_contents_and_creation .null (ofMembers [("k", .array [.number nan])]) .null
  have same : (zeros == others) = true := by
    refine (objects _ _).mpr fun key => ?_
    by_cases a : key = "a"
    · subst a
      decide +kernel
    · by_cases b : key = "b"
      · subst b
        decide +kernel
      · simp [lastUnder?, Ne.symm a, Ne.symm b]
  have back : (others == zeros) = true := symmetric ▸ same
  refine ⟨same, back, transitive same back, ?_, ⟨Forest.elder, .unit, 0⟩, ⟨Forest.elder, .unit, 1⟩,
    ⟨Forest.elder, .unit, 1⟩, rfl, rfl, rfl, ?_, ?_⟩
  · rw [← Bool.not_eq_true, reflexive]
    intro clean
    exact absurd (clean nan (.member List.mem_cons_self (.item List.mem_cons_self .self)))
      (by decide)
  · exact (instances ops 1 3 _ _ rfl rfl).2.mpr rfl
  · rw [← Bool.not_eq_true]
    intro equal
    exact absurd ((instances ops 0 3 _ _ rfl rfl).2.mp equal) (by decide)

end Value

end CallGuard
