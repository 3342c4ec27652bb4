import CallGuard.Dict.Lemmas
import CallGuard.Proofs.Lockstep

/-!
# Concatenated arguments

Arguments behind others are checked as if they came first, under the specification shifted by the
number of those in front, and only if all of these pass. Main statement: result and log of a
concatenation, put together from those of its parts; so nothing behind the first mismatch and no
entry past the last argument is looked at.
-/
namespace CallGuard

/-- The mismatch, with its position moved up. -/
def Mismatch.raised (n : Nat) (m : Mismatch) : Mismatch := { m with position := m.position + n }

/-- The event, with the position that it speaks of moved up. -/
def Event.raised (n : Nat) : Event → Event
  | accepted position expected origin => accepted (position + n) expected origin
  | rejected m => rejected (m.raised n)
  | mismatchIgnored m => mismatchIgnored (m.raised n)
  | e => e

def Record.raised (n : Nat) (r : Record) : Record := { r with event := r.event.raised n }

namespace Spec

/-- The entries from index `n` on, each moved down by `n`. -/
def shiftedEntries (n : Nat) (entries : List (UInt64 × Descriptor)) : List (UInt64 × Descriptor) :=
  (entries.filter fun e => n ≤ e.1.toNat).map fun e => (.ofNat (e.1.toNat - n), e.2)

variable {s t : Spec} {n position : Nat} {xs ys : List Value} {m : Mismatch}

theorem toNat_ofNat_sub (i : UInt64) (n : Nat) : (UInt64.ofNat (i.toNat - n)).toNat = i.toNat - n :=
  UInt64.toNat_ofNat_of_lt' (Nat.lt_of_le_of_lt (Nat.sub_le _ _) i.toNat_lt)

theorem ascending_shiftedEntries (n : Nat) {entries : List (UInt64 × Descriptor)}
    (sorted : Ascending entries) : Ascending (shiftedEntries n entries) := by
  rw [shiftedEntries, Ascending, List.pairwise_map]
  refine List.Pairwise.imp_of_mem ?_ (sorted.filter _)
  intro a b inside _ less
  have above : n ≤ a.1.toNat := by simpa using (List.mem_filter.mp inside).2
  rw [Std.compare_eq_lt, UInt64.lt_iff_toNat_lt] at less ⊢
  rw [toNat_ofNat_sub, toNat_ofNat_sub]
  omega

/-- The specification of the arguments behind the first `n`. -/
def shifted (s : Spec) (n : Nat) : Spec where
  entries := ⟨shiftedEntries n s.toList, ascending_shiftedEntries n s.entries.ascending⟩
  fallback := s.fallback

/-! ### The shifted specification -/

theorem get?_shifted_eq_some_iff {i : UInt64} {d : Descriptor} :
    (s.shifted n).get? i = some d ↔ ∃ j : UInt64, j.toNat = i.toNat + n ∧ s.get? j = some d := by
  have listed : (s.shifted n).get? i = some d ↔ (i, d) ∈ shiftedEntries n s.toList :=
    (Dict.mem_toList_iff (s.shifted n).entries i d).symm
  rw [listed, shiftedEntries, List.mem_map]
  constructor
  · rintro ⟨⟨j, e⟩, member, same⟩
    obtain ⟨inside, above⟩ := List.mem_filter.mp member
    cases same
    refine ⟨j, ?_, (Dict.mem_toList_iff s.entries j e).mp inside⟩
    rw [toNat_ofNat_sub]
    exact (Nat.sub_add_cancel (by simpa using above)).symm
  · rintro ⟨j, above, found⟩
    refine ⟨(j, d), List.mem_filter.mpr ⟨(Dict.mem_toList_iff s.entries j d).mpr found, ?_⟩, ?_⟩
    · simp [above]
    · rw [above, Nat.add_sub_cancel, UInt64.ofNat_toNat]

theorem entryAt?_shifted (s : Spec) (n position : Nat) :
    (s.shifted n).entryAt? position = s.entryAt? (position + n) := by
  ext d
  simp only [entryAt?_eq_some_iff, get?_shifted_eq_some_iff]
  constructor
  · rintro ⟨_, rfl, found⟩
    exact found
  · rintro ⟨j, above, found⟩
    -- Below an index there are only indexes.
    have inRange : position < UInt64.size :=
      Nat.lt_of_le_of_lt (above ▸ Nat.le_add_right _ _) j.toNat_lt
    exact ⟨.ofNatLT position inRange, UInt64.toNat_ofNatLT, j,
      by rw [UInt64.toNat_ofNatLT]; exact above, found⟩

theorem applicable?_shifted (s : Spec) (n position : Nat) :
    (s.shifted n).applicable? position = s.applicable? (position + n) := by
  rw [applicable?, applicable?, entryAt?_shifted]
  rfl

/-- A scan from a position on is in step with one of the shifted specification from the start. -/
theorem inStep_shifted (s : Spec) (n : Nat) (args : List Value) :
    InStep (Mismatch.raised n) (Record.raised n) (s.shifted n) 0 args s n args where
  length := rfl
  mismatches i v w left right := by
    cases left.symm.trans right
    rw [Nat.zero_add, Nat.add_comm, mismatchAt?, mismatchAt?, applicable?_shifted]
    cases s.applicable? (i + n) with
    | none => rfl
    | some pair =>
      obtain ⟨d, origin⟩ := pair
      cases admitted : d.admits v <;> simp [admitted, Mismatch.raised]
  reports i _ := by
    rw [Nat.zero_add, Nat.add_comm, acceptance?, acceptance?, applicable?_shifted, Option.map_map]
    rfl

/-! ### Two parts -/

theorem validate_append_of_error (rejected : (s.validate xs).value = .error m) (ys : List Value) :
    s.validate (xs ++ ys) = s.validate xs := by
  rw [validate] at rejected
  rw [validate, validate, validateFrom_append]
  ext1 <;> simp [rejected]

theorem validate_append_of_ok (accepted : (s.validate xs).value = .ok ()) (ys : List Value) :
    s.validate (xs ++ ys) =
      ⟨((s.shifted xs.length).validate ys).value.mapError (Mismatch.raised xs.length),
        (s.validate xs).records ++
          ((s.shifted xs.length).validate ys).records.map (Record.raised xs.length)⟩ := by
  have behind := (inStep_shifted s xs.length ys).validateFrom
  rw [validate] at accepted
  rw [validate, validateFrom_append, Nat.zero_add, behind]
  ext1 <;> simp [accepted, validate]

/-! ### What is not looked at -/

theorem validate_of_common_front (rejected : (s.validate xs).value = .error m)
    (same : ∀ i ≤ m.position, ys[i]? = xs[i]?) : s.validate ys = s.validate xs := by
  -- The front up to the mismatch is rejected on its own.
  have front : (s.validate (xs.take (m.position + 1))).value = .error m := by
    rw [validate_error_iff] at rejected ⊢
    obtain ⟨v, found, mismatch, before⟩ := rejected
    refine ⟨v, by rw [List.getElem?_take_of_lt (Nat.lt_succ_self _), found], mismatch, ?_⟩
    intro i w below there
    exact before i w below (by rwa [List.getElem?_take_of_lt (Nat.lt_succ_of_lt below)] at there)
  have common : ys.take (m.position + 1) = xs.take (m.position + 1) := by
    apply List.ext_getElem?
    intro i
    rw [List.getElem?_take, List.getElem?_take]
    split
    next inside => exact same i (Nat.le_of_lt_succ inside)
    · rfl
  rw [← List.take_append_drop (m.position + 1) ys, common, validate_append_of_error front,
    ← validate_append_of_error front (xs.drop (m.position + 1)), List.take_append_drop]

theorem validate_of_common_entries (fallback : t.fallback = s.fallback)
    (entries : ∀ i : UInt64, i.toNat < xs.length → t.get? i = s.get? i) :
    t.validate xs = s.validate xs := by
  have applies (i : Nat) (inside : i < xs.length) : t.applicable? i = s.applicable? i := by
    have entry : t.entryAt? i = s.entryAt? i := by
      rw [entryAt?, entryAt?]
      refine Option.bind_congr fun j found => entries j ?_
      rwa [indexOf?_eq_some_iff.mp found]
    rw [applicable?, applicable?, entry, fallback]
  refine validate_congr rfl (fun i v w left right => ?_) fun i inside => ?_
  · cases left.symm.trans right
    rw [mismatchAt?, mismatchAt?, applies i (List.getElem?_eq_some_iff.mp left).1]
  · rw [acceptance?, acceptance?, applies i inside]

/-! ### Main result -/

/-- The first part of a concatenation decides if it is rejected. If it is accepted, its reports come
first, and then result and reports are those of the second part under the specification shifted by
the length of the first, with all positions moved up by that length. So whatever stands behind the
first mismatch is of no account, and neither are entries past the last argument. -/
theorem validate_concatenation (s : Spec) (xs ys : List Value) :
    let shifted := s.shifted xs.length
    (∀ m, (s.validate xs).value = .error m → s.validate (xs ++ ys) = s.validate xs) ∧
    ((s.validate xs).value = .ok () → s.validate (xs ++ ys) =
      ⟨(shifted.validate ys).value.mapError (Mismatch.raised xs.length),
        (s.validate xs).records ++ (shifted.validate ys).records.map (Record.raised xs.length)⟩) ∧
    (∀ i d, shifted.get? i = some d ↔
      ∃ j : UInt64, j.toNat = i.toNat + xs.length ∧ s.get? j = some d) ∧
    shifted.fallback = s.fallback ∧
    (∀ m zs, (s.validate xs).value = .error m → (∀ i ≤ m.position, zs[i]? = xs[i]?) →
      s.validate zs = s.validate xs) ∧
    ∀ t : Spec, t.fallback = s.fallback →
      (∀ i : UInt64, i.toNat < xs.length → t.get? i = s.get? i) →
      t.validate xs = s.validate xs := by
  intro shifted
  refine ⟨fun m rejected => validate_append_of_error rejected ys,
    fun accepted => validate_append_of_ok accepted ys, fun i d => get?_shifted_eq_some_iff, rfl,
    fun m zs => validate_of_common_front, fun t => validate_of_common_entries⟩

/-- The second part starts at an entry, and the fallback rejects its end. Neither a third part nor
the entry for the tenth argument makes a difference. -/
theorem validate_concatenation_seam :
    let t := ((empty.withEntry 0 .number).withEntry 2 (.ofClass Forest.junior)).withFallback .object
    let s := t.withEntry 9 .string
    let xs : List Value := [.number default, .string "a"]
    let ys : List Value := [.nominal ⟨Forest.junior, .unit, 0⟩, .null]
    let whole : Logged (Except Mismatch Unit) :=
      ⟨.error ⟨3, "Object", .null, .fallback⟩,
        [{ event := .accepted 0 "Number" .positional }, { event := .accepted 1 "Object" .fallback },
          { event := .accepted 2 "Widget" .positional }]⟩
    (s.validate xs).value = .ok () ∧
    ((s.shifted 2).validate ys).value = .error ⟨1, "Object", .null, .fallback⟩ ∧
    s.validate (xs ++ ys) = whole ∧ s.validate (xs ++ ys ++ xs) = whole ∧
    s.validate (xs ++ ys ++ [.undefined]) = whole ∧ t.validate (xs ++ ys) = whole := by
  intro t s xs ys whole
  have accepted : (s.validate xs).value = .ok () := rfl
  have joined : s.validate (xs ++ ys) = whole :=
    (validate_concatenation s xs ys).2.1 accepted
  have rejected : (s.validate (xs ++ ys)).value = .error ⟨3, "Object", .null, .fallback⟩ :=
    congrArg Logged.value joined
  obtain ⟨behind, -, -, -, front, entries⟩ := validate_concatenation s (xs ++ ys) xs
  refine ⟨accepted, rfl, joined, (behind _ rejected).trans joined,
    (front _ _ rejected ?_).trans joined, (entries t rfl ?_).trans joined⟩
  · intro i inside
    exact List.getElem?_append_left (Nat.lt_succ_of_le inside)
  · intro i inside
    have apart : i ≠ 9 := by
      rintro rfl
      exact absurd inside (by decide)
    exact (Dict.get?_insert_of_ne t.entries .string apart).symm

end Spec

end CallGuard
