import CallGuard.Proofs.CheckReports

/-!
# Scans in step

Two scans are in step if, place by place, they find the same mismatch and have the same report to
make, up to translations of both. Then their results and logs are the same up to these translations.
-/
namespace CallGuard.Spec

/-- The scan of `ys` under `t` from `q` finds and reports at each place what the scan of `xs` under
`s` from `p` does there, translated. -/
structure InStep (mismatch : Mismatch → Mismatch) (report : Record → Record) (s : Spec) (p : Nat)
    (xs : List Value) (t : Spec) (q : Nat) (ys : List Value) : Prop where
  length : ys.length = xs.length
  mismatches : ∀ i v w, xs[i]? = some v → ys[i]? = some w →
    t.mismatchAt? (q + i) w = (s.mismatchAt? (p + i) v).map mismatch
  reports : ∀ i < xs.length, t.acceptance? (q + i) = (s.acceptance? (p + i)).map report

variable {mismatch : Mismatch → Mismatch} {report : Record → Record} {s t : Spec} {p q : Nat}
  {v w : Value} {xs ys : List Value}

theorem InStep.tail (inStep : InStep mismatch report s p (v :: xs) t q (w :: ys)) :
    InStep mismatch report s (p + 1) xs t (q + 1) ys where
  length := Nat.succ.inj inStep.length
  mismatches i x y left right := by
    rw [Nat.add_right_comm, Nat.add_right_comm p]
    exact inStep.mismatches (i + 1) x y left right
  reports i inside := by
    rw [Nat.add_right_comm, Nat.add_right_comm p]
    exact inStep.reports (i + 1) (Nat.succ_lt_succ inside)

/-- Scans in step stay so up to their end. -/
theorem InStep.validateFrom (inStep : InStep mismatch report s p xs t q ys) :
    t.validateFrom q ys =
      ⟨(s.validateFrom p xs).value.mapError mismatch,
        (s.validateFrom p xs).records.map report⟩ := by
  induction xs generalizing p q ys with
  | nil =>
    cases ys with
    | nil => rfl
    | cons w more => cases inStep.length
  | cons v rest ih =>
    cases ys with
    | nil => cases inStep.length
    | cons w more =>
      have others := ih inStep.tail
      have found : t.mismatchAt? q w = (s.mismatchAt? p v).map mismatch :=
        inStep.mismatches 0 v w rfl rfl
      have reported : t.acceptance? q = (s.acceptance? p).map report :=
        inStep.reports 0 (Nat.succ_pos _)
      ext1
      · rw [value_validateFrom_cons, value_validateFrom_cons, found, others]
        cases s.mismatchAt? p v <;> rfl
      · rw [records_validateFrom_cons, records_validateFrom_cons, found, reported, others]
        cases s.mismatchAt? p v with
        | none => cases s.acceptance? p <;> rfl
        -- Both scans end here, and neither reports.
        | some m => rfl

/-- Where nothing has to be translated, both validations are the same. -/
theorem validate_congr (length : ys.length = xs.length)
    (mismatches : ∀ i v w, xs[i]? = some v → ys[i]? = some w →
      t.mismatchAt? i w = s.mismatchAt? i v)
    (reports : ∀ i < xs.length, t.acceptance? i = s.acceptance? i) :
    t.validate ys = s.validate xs := by
  have inStep : InStep id id s 0 xs t 0 ys :=
    { length
      mismatches := by simpa using mismatches
      reports := by simpa using reports }
  rw [validate, inStep.validateFrom, validate]
  ext1
  · cases (s.validateFrom 0 xs).value <;> rfl
  · exact List.map_id _

end CallGuard.Spec
