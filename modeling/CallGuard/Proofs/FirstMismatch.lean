import CallGuard.Spec.Validation

/-!
# The first mismatch

Validation accepts a list of arguments exactly if none of them is a mismatch, and otherwise returns
the mismatch that stands furthest to the left.
-/
namespace CallGuard.Spec

/-- The mismatch of an argument at a position, judged without regard to the other arguments. -/
def mismatchAt? (s : Spec) (position : Nat) (v : Value) : Option Mismatch :=
  match s.applicable? position with
  | none => none
  | some (d, origin) => if d.admits v then none else some ⟨position, d.name, v.kind, origin⟩

variable {s : Spec} {position : Nat} {v : Value} {m : Mismatch}

/-! ### One argument -/

theorem mismatchAt?_eq_none_iff :
    s.mismatchAt? position v = none ↔
      ∀ d origin, s.applicable? position = some (d, origin) → d.admits v := by
  unfold mismatchAt?
  cases applies : s.applicable? position with
  | none => simp
  | some pair =>
    obtain ⟨d, origin⟩ := pair
    simp

theorem mismatchAt?_eq_some_iff :
    s.mismatchAt? position v = some m ↔
      ∃ d origin, s.applicable? position = some (d, origin) ∧ d.admits v = false ∧
        m = ⟨position, d.name, v.kind, origin⟩ := by
  unfold mismatchAt?
  cases applies : s.applicable? position with
  | none => simp
  | some pair =>
    obtain ⟨d, origin⟩ := pair
    constructor
    · intro found
      cases admitted : d.admits v with
      | true => simp [admitted] at found
      | false => exact ⟨d, origin, rfl, admitted, by simpa [admitted] using found.symm⟩
    · rintro ⟨_, _, ⟨⟩, refused, rfl⟩
      simp [refused]

theorem position_of_mismatchAt? (found : s.mismatchAt? position v = some m) :
    m.position = position := by
  obtain ⟨d, origin, _, _, rfl⟩ := mismatchAt?_eq_some_iff.mp found
  rfl

/-! ### A list of arguments -/

/-- One step: the first argument decides unless it is no mismatch. -/
theorem value_validateFrom_cons (s : Spec) (position : Nat) (v : Value) (rest : List Value) :
    (s.validateFrom position (v :: rest)).value =
      match s.mismatchAt? position v with
      | none => (s.validateFrom (position + 1) rest).value
      | some m => .error m := by
  rw [validateFrom, mismatchAt?]
  cases applies : s.applicable? position with
  | none => rfl
  | some pair =>
    obtain ⟨d, origin⟩ := pair
    cases admitted : d.admits v <;> simp [admitted]

theorem validateFrom_ok_iff (s : Spec) (position : Nat) (args : List Value) :
    (s.validateFrom position args).value = .ok () ↔
      ∀ i v, args[i]? = some v → s.mismatchAt? (position + i) v = none := by
  induction args generalizing position with
  | nil => simp [validateFrom]
  | cons v rest ih =>
    rw [value_validateFrom_cons]
    cases first : s.mismatchAt? position v with
    | some m =>
      simp only [reduceCtorEq, false_iff]
      intro all
      have passed := all 0 v rfl
      simp [first] at passed
    | none =>
      have shift (i : Nat) : position + 1 + i = position + (i + 1) := by omega
      simp only [ih, shift]
      constructor
      · intro all i w found
        cases i with
        | zero =>
          cases found
          exact first
        | succ i => exact all i w found
      · intro all i w found
        exact all (i + 1) w found

theorem validateFrom_error_iff (s : Spec) (position : Nat) (args : List Value) (m : Mismatch) :
    (s.validateFrom position args).value = .error m ↔
      ∃ i v, args[i]? = some v ∧ s.mismatchAt? (position + i) v = some m ∧
        ∀ j w, j < i → args[j]? = some w → s.mismatchAt? (position + j) w = none := by
  induction args generalizing position with
  | nil => simp [validateFrom]
  | cons v rest ih =>
    rw [value_validateFrom_cons]
    cases first : s.mismatchAt? position v with
    | some m' =>
      simp only [Except.error.injEq]
      constructor
      · rintro rfl
        exact ⟨0, v, rfl, first, by simp⟩
      · rintro ⟨i, w, found, mismatch, before⟩
        -- Nothing stands before the first argument, and it is no exception.
        cases i with
        | zero =>
          cases found
          exact Option.some.inj (first.symm.trans mismatch)
        | succ i =>
          have passed := before 0 v (Nat.zero_lt_succ i) rfl
          simp [first] at passed
    | none =>
      have shift (i : Nat) : position + 1 + i = position + (i + 1) := by omega
      simp only [ih, shift]
      constructor
      · rintro ⟨i, w, found, mismatch, before⟩
        refine ⟨i + 1, w, found, mismatch, ?_⟩
        intro j x below here
        cases j with
        | zero =>
          cases here
          exact first
        | succ j => exact before j x (Nat.lt_of_succ_lt_succ below) here
      · rintro ⟨i, w, found, mismatch, before⟩
        cases i with
        | zero =>
          cases found
          simp [first] at mismatch
        | succ i =>
          refine ⟨i, w, found, mismatch, ?_⟩
          intro j x below here
          exact before (j + 1) x (Nat.succ_lt_succ below) here

theorem validate_ok_iff (s : Spec) (args : List Value) :
    (s.validate args).value = .ok () ↔ ∀ i v, args[i]? = some v → s.mismatchAt? i v = none := by
  rw [validate, validateFrom_ok_iff]
  simp only [Nat.zero_add]

/-- The mismatch that validation returns is that of its position, and no earlier one exists. -/
theorem validate_error_iff (s : Spec) (args : List Value) (m : Mismatch) :
    (s.validate args).value = .error m ↔
      ∃ v, args[m.position]? = some v ∧ s.mismatchAt? m.position v = some m ∧
        ∀ i w, i < m.position → args[i]? = some w → s.mismatchAt? i w = none := by
  rw [validate, validateFrom_error_iff]
  simp only [Nat.zero_add]
  constructor
  · rintro ⟨i, v, found, mismatch, before⟩
    cases position_of_mismatchAt? mismatch
    exact ⟨v, found, mismatch, before⟩
  · rintro ⟨v, found, mismatch, before⟩
    exact ⟨m.position, v, found, mismatch, before⟩

/-! ### Concatenation -/

/-- Arguments behind others are looked at only if those pass, and then from their own position. -/
theorem validateFrom_append (s : Spec) (position : Nat) (xs ys : List Value) :
    s.validateFrom position (xs ++ ys) = (do
      match ← s.validateFrom position xs with
      | .ok () => s.validateFrom (position + xs.length) ys
      | .error m => pure (.error m)) := by
  induction xs generalizing position with
  | nil => simp [validateFrom]
  | cons v rest ih =>
    have shift : position + (v :: rest).length = position + 1 + rest.length := by
      rw [List.length_cons]
      omega
    rw [List.cons_append, validateFrom, validateFrom, ih, shift]
    cases s.applicable? position with
    | none => rfl
    | some pair =>
      obtain ⟨d, origin⟩ := pair
      cases admitted : d.admits v <;> simp [admitted]

end CallGuard.Spec
