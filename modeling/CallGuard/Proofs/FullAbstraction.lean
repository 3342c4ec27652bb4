import CallGuard.Proofs.FirstMismatch
import CallGuard.Proofs.Slots
import CallGuard.Proofs.Subtyping
import Mathlib.Tactic.ByContra

/-!
# Full abstraction of specifications

Specifications that validate every list of arguments alike are equal, if an index is left without an
entry. Two that differ do so at a least position: fillers that both accept lead up to it, and there
either a null or the sample of a descriptor is judged differently.
-/
namespace CallGuard.Spec

/-- All classes that the specification names were created in the forest. -/
structure MadeIn (f : Forest) (s : Spec) : Prop where
  entries : ∀ i d, s.get? i = some d → d.MadeIn f
  fallback : ∀ d, s.fallback = some d → d.MadeIn f

theorem madeIn_empty (f : Forest) : empty.MadeIn f := by
  constructor <;> intros <;> contradiction

theorem MadeIn.withEntry {f : Forest} {s : Spec} (made : s.MadeIn f) (i : UInt64) {d : Descriptor}
    (dMade : d.MadeIn f) : (s.withEntry i d).MadeIn f where
  entries j e found := by
    rw [get?, Spec.withEntry, Dict.get?_insert] at found
    split at found
    · cases found
      exact dMade
    · exact made.entries j e found
  fallback := made.fallback

/-- A value that passes at the position. -/
def filler (s : Spec) (position : Nat) : Value :=
  match s.applicable? position with
  | none => .null
  | some (d, _) => d.sample

variable {f : Forest} {s t : Spec} {position : Nat}

/-! ### The descriptors that apply -/

theorem applicable?_toNat (s : Spec) (i : UInt64) :
    s.applicable? i.toNat =
      match s.get? i with
      | some d => some (d, .positional)
      | none => s.fallback.map (·, .fallback) := by
  rw [applicable?, entryAt?, indexOf?_toNat]
  rfl

/-- The origin tells an entry from a fallback that is equal to it. -/
theorem get?_eq_some_iff_applicable? (s : Spec) (i : UInt64) (d : Descriptor) :
    s.get? i = some d ↔ s.applicable? i.toNat = some (d, .positional) := by
  rw [applicable?_toNat]
  cases s.get? i with
  | some e => simp
  | none => cases s.fallback <;> simp

theorem madeIn_of_applicable? (made : s.MadeIn f) {d : Descriptor} {origin : Origin}
    (applies : s.applicable? position = some (d, origin)) : d.MadeIn f := by
  unfold applicable? at applies
  cases entry : s.entryAt? position with
  | some e =>
    obtain ⟨i, _, found⟩ := Option.bind_eq_some_iff.mp entry
    have same : e = d ∧ .positional = origin := by simpa [entry] using applies
    exact same.1 ▸ made.entries i e found
  | none =>
    obtain ⟨e, found, same⟩ := Option.map_eq_some_iff.mp (by simpa only [entry] using applies)
    cases same
    exact made.fallback d found

/-- A specification with an index left free is known from the descriptors that apply. -/
theorem eq_of_applicable?_eq (free : ∃ i, s.get? i = none)
    (agree : ∀ i : UInt64, s.applicable? i.toNat = t.applicable? i.toNat) : s = t := by
  have lookups (i : UInt64) : s.get? i = t.get? i := by
    ext d
    rw [get?_eq_some_iff_applicable?, get?_eq_some_iff_applicable?, agree i]
  apply ext_slot
  intro k
  cases k with
  | index i => exact lookups i
  | fallback =>
    -- Where neither has an entry, the fallback shows.
    obtain ⟨i, missing⟩ := free
    have shown := agree i
    rw [applicable?_toNat, applicable?_toNat, ← lookups i, missing] at shown
    exact Option.map_injective (fun _ _ same => congrArg Prod.fst same) shown

/-- The indexes alone show that nothing is checked. -/
theorem isEmpty_of_unchecked (unchecked : ∀ i : UInt64, s.applicable? i.toNat = none) :
    s.isEmpty := by
  have absent (i : UInt64) : s.get? i = none := by
    rw [Option.eq_none_iff_forall_ne_some]
    intro d found
    rw [get?_eq_some_iff_applicable?, unchecked] at found
    cases found
  have noFallback : s.fallback = none := by
    have first := unchecked 0
    rw [applicable?_toNat, absent] at first
    exact Option.map_eq_none_iff.mp first
  rw [isEmpty, hasFallback, noFallback, Dict.isEmpty_iff.mpr absent]
  rfl

theorem isEmpty_iff_applicable? (s : Spec) :
    s.isEmpty ↔ ∀ position, s.applicable? position = none := by
  constructor
  · intro nothing
    rw [isEmpty, Bool.and_eq_true, Dict.isEmpty_iff, hasFallback, Bool.not_eq_true',
      Option.isSome_eq_false_iff, Option.isNone_iff_eq_none] at nothing
    obtain ⟨absent, noFallback⟩ := nothing
    intro position
    have noEntry : s.entryAt? position = none := by
      rw [entryAt?, Option.bind_eq_none_iff]
      exact fun i _ => absent i
    rw [applicable?_of_no_entry noEntry, noFallback]
    rfl
  · intro unchecked
    exact isEmpty_of_unchecked fun i => unchecked i.toNat

/-! ### Telling positions apart -/

theorem mismatchAt?_congr (same : s.applicable? position = t.applicable? position) (v : Value) :
    s.mismatchAt? position v = t.mismatchAt? position v := by
  rw [mismatchAt?, mismatchAt?, same]

theorem mismatchAt?_filler (s : Spec) (position : Nat) :
    s.mismatchAt? position (s.filler position) = none := by
  rw [mismatchAt?_eq_none_iff]
  intro d origin applies
  rw [filler, applies]
  exact d.admits_sample

theorem filler_madeIn (made : s.MadeIn f) (position : Nat) : (s.filler position).MadeIn f := by
  unfold filler
  cases applies : s.applicable? position with
  | none => exact .null
  | some pair => exact Descriptor.sample_madeIn (madeIn_of_applicable? made applies)

theorem mismatchAt?_null {d : Descriptor} {origin : Origin}
    (applies : s.applicable? position = some (d, origin)) :
    s.mismatchAt? position .null = some ⟨position, d.name, .null, origin⟩ :=
  mismatchAt?_eq_some_iff.mpr ⟨d, origin, applies, d.not_admits_nullish rfl, rfl⟩

/-- Where `d` applies and a descriptor that is not above it does, the sample of `d` is judged
differently. -/
theorem mismatchAt?_sample_ne {d e : Descriptor} {left right : Origin}
    (hs : s.applicable? position = some (d, left)) (ht : t.applicable? position = some (e, right))
    (notBelow : ¬d.Below e) :
    s.mismatchAt? position d.sample ≠ t.mismatchAt? position d.sample := by
  have passes : s.mismatchAt? position d.sample = none := by
    simp [mismatchAt?, hs, d.admits_sample]
  rw [passes]
  intro alike
  have admitted := mismatchAt?_eq_none_iff.mp alike.symm e right ht
  exact notBelow ((Descriptor.admits_sample_iff d e).mp admitted)

/-- Where different descriptors apply, or one of different origin, some value shows it: a null shows
presence and origin, a sample the descriptor. -/
theorem exists_mismatchAt?_ne (sMade : s.MadeIn f) (tMade : t.MadeIn f)
    (apart : s.applicable? position ≠ t.applicable? position) :
    ∃ v : Value, v.MadeIn f ∧ s.mismatchAt? position v ≠ t.mismatchAt? position v := by
  cases hs : s.applicable? position with
  | none =>
    cases ht : t.applicable? position with
    | none => exact absurd (hs.trans ht.symm) apart
    | some pair =>
      refine ⟨.null, .null, ?_⟩
      rw [mismatchAt?_null ht]
      simp [mismatchAt?, hs]
  | some pair =>
    obtain ⟨d, left⟩ := pair
    cases ht : t.applicable? position with
    | none =>
      refine ⟨.null, .null, ?_⟩
      rw [mismatchAt?_null hs]
      simp [mismatchAt?, ht]
    | some pair =>
      obtain ⟨e, right⟩ := pair
      -- With one origin the descriptors differ, and the sample of one that is not below tells them.
      by_cases origins : left = right
      · have descriptors : d ≠ e := by
          rintro rfl
          exact apart (by rw [hs, ht, origins])
        by_cases below : d.Below e
        · have notAbove : ¬e.Below d := fun above => descriptors (below.antisymm above)
          exact ⟨e.sample, Descriptor.sample_madeIn (madeIn_of_applicable? tMade ht),
            (mismatchAt?_sample_ne ht hs notAbove).symm⟩
        · exact ⟨d.sample, Descriptor.sample_madeIn (madeIn_of_applicable? sMade hs),
            mismatchAt?_sample_ne hs ht below⟩
      · refine ⟨.null, .null, ?_⟩
        rw [mismatchAt?_null hs, mismatchAt?_null ht]
        simp [origins]

/-! ### Telling specifications apart -/

/-- Fillers up to a position, and a value there. -/
def probe (s : Spec) (position : Nat) (v : Value) : List Value :=
  (List.range position).map s.filler ++ [v]

theorem length_probe (s : Spec) (position : Nat) (v : Value) :
    (s.probe position v).length = position + 1 := by
  simp [probe]

theorem probe_madeIn (made : s.MadeIn f) {v : Value} (vMade : v.MadeIn f) :
    ∀ w ∈ s.probe position v, w.MadeIn f := by
  intro w member
  rcases List.mem_append.mp member with earlier | last
  · obtain ⟨i, _, rfl⟩ := List.mem_map.mp earlier
    exact filler_madeIn made i
  · exact List.mem_singleton.mp last ▸ vMade

/-- The fillers of a specification pass in every one that agrees with it so far, so only the last
value of the probe is at stake. -/
theorem value_validate_probe (v : Value)
    (agree : ∀ i, i < position → s.applicable? i = t.applicable? i) :
    (t.validate (s.probe position v)).value =
      match t.mismatchAt? position v with
      | none => .ok ()
      | some m => .error m := by
  have fillers : (t.validateFrom 0 ((List.range position).map s.filler)).value = .ok () := by
    rw [validateFrom_ok_iff]
    intro i w found
    rw [List.getElem?_map, Option.map_eq_some_iff] at found
    obtain ⟨j, listed, rfl⟩ := found
    obtain ⟨below, rfl⟩ := List.getElem?_eq_some_iff.mp listed
    rw [List.length_range] at below
    rw [List.getElem_range, Nat.zero_add, ← mismatchAt?_congr (agree i below)]
    exact s.mismatchAt?_filler i
  rw [validate, probe, validateFrom_append, Logged.value_bind, fillers, value_validateFrom_cons]
  simp only [List.length_map, List.length_range, Nat.zero_add]
  rfl

/-- Where all shorter probes are judged alike, the same descriptors apply: by induction on the
position, since the fillers of earlier positions suit both specifications. -/
theorem applicable?_eq_of_validate_eq (sMade : s.MadeIn f) (tMade : t.MadeIn f) {bound : Nat}
    (alike : ∀ args : List Value, args.length ≤ bound → (∀ v ∈ args, v.MadeIn f) →
      (s.validate args).value = (t.validate args).value)
    (position : Nat) (below : position < bound) :
    s.applicable? position = t.applicable? position := by
  induction position using Nat.strongRecOn with
  | ind position ih =>
    have agree (i : Nat) (earlier : i < position) : s.applicable? i = t.applicable? i :=
      ih i earlier (Nat.lt_trans earlier below)
    by_contra apart
    -- A probe up to here, with a value that is judged differently at its end.
    obtain ⟨v, vMade, differs⟩ := exists_mismatchAt?_ne sMade tMade apart
    have same := alike (s.probe position v) (by rw [length_probe]; exact below)
      (probe_madeIn sMade vMade)
    rw [value_validate_probe v (fun _ _ => rfl), value_validate_probe v agree] at same
    refine differs ?_
    cases left : s.mismatchAt? position v <;> cases right : t.mismatchAt? position v <;>
      simp_all

/-- A call of at most as many arguments as there are indexes tells two specifications apart. -/
theorem exists_validate_ne (sMade : s.MadeIn f) (tMade : t.MadeIn f)
    (free : ∃ i, s.get? i = none) (apart : s ≠ t) :
    ∃ args : List Value, args.length ≤ UInt64.size ∧ (∀ v ∈ args, v.MadeIn f) ∧
      (s.validate args).value ≠ (t.validate args).value := by
  by_contra none
  refine apart (eq_of_applicable?_eq free fun i => ?_)
  refine applicable?_eq_of_validate_eq sMade tMade (fun args short made => ?_) i.toNat i.toNat_lt
  by_contra differs
  exact none ⟨args, short, made, differs⟩

theorem validate_ok_of_isEmpty (empty : s.isEmpty) (args : List Value) :
    (s.validate args).value = .ok () := by
  rw [validate_ok_iff]
  intro i v _
  simp [mismatchAt?, (isEmpty_iff_applicable? s).mp empty i]

/-- A checked position is noticed by a list of nulls that reaches it. -/
theorem isEmpty_of_validate_ok
    (accepted : ∀ n, (s.validate (List.replicate n .null)).value = .ok ()) : s.isEmpty := by
  rw [isEmpty_iff_applicable?]
  intro position
  cases applies : s.applicable? position with
  | none => rfl
  | some pair =>
    have passes := (validate_ok_iff s _).mp (accepted (position + 1)) position .null (by simp)
    rw [mismatchAt?_null applies] at passes
    cases passes

/-! ### Main result -/

/-- Full abstraction: specifications over the classes of a forest, of which one leaves an index
free, are equal exactly if they return the same result for every list of arguments over that forest.
A list that tells them apart need not be longer than there are indexes. The empty specification is
the one that accepts every list. -/
theorem eq_iff_validate_eq {f : Forest} {s t : Spec} (sMade : s.MadeIn f) (tMade : t.MadeIn f)
    (free : ∃ i, s.get? i = none) :
    (s = t ↔ ∀ args : List Value, (∀ v ∈ args, v.MadeIn f) →
      (s.validate args).value = (t.validate args).value) ∧
    (s ≠ t → ∃ args : List Value, args.length ≤ UInt64.size ∧ (∀ v ∈ args, v.MadeIn f) ∧
      (s.validate args).value ≠ (t.validate args).value) ∧
    ∀ r : Spec, (r.isEmpty ↔ ∀ args : List Value, (∀ v ∈ args, v.MadeIn f) →
      (r.validate args).value = .ok ()) := by
  have tell := exists_validate_ne sMade tMade free
  refine ⟨⟨?_, ?_⟩, tell, fun r => ⟨?_, ?_⟩⟩
  · rintro rfl args _
    rfl
  · intro alike
    by_contra apart
    obtain ⟨args, _, made, differs⟩ := tell apart
    exact differs (alike args made)
  · intro empty args _
    exact validate_ok_of_isEmpty empty args
  · intro accepted
    refine isEmpty_of_validate_ok fun n => accepted _ ?_
    intro v member
    exact (List.eq_of_mem_replicate member) ▸ .null

/-- Two specifications with the same texts in all messages differ on some list of arguments. -/
theorem eq_iff_validate_eq_namesakes :
    Forest.namesakes.Grown ∧
    ¬∀ args : List Value, (∀ v ∈ args, v.MadeIn .namesakes) →
      ((empty.withEntry 1 (.ofClass Forest.elder)).validate args).value =
        ((empty.withEntry 1 (.ofClass Forest.junior)).validate args).value := by
  refine ⟨Forest.grown_namesakes, fun alike => ?_⟩
  have elder := (madeIn_empty .namesakes).withEntry 1 (Descriptor.madeIn_ofClass Forest.elder_mem)
  have junior := (madeIn_empty .namesakes).withEntry 1 (Descriptor.madeIn_ofClass Forest.junior_mem)
  have equal := (eq_iff_validate_eq elder junior ⟨0, rfl⟩).1.mpr alike
  exact absurd equal (by decide)

end CallGuard.Spec
