import CallGuard.Dict

/-!
# Laws of finite maps

A lookup after a write, membership against lookup, and extensionality.
-/
namespace CallGuard.Dict

variable {κ α : Type} [Ord κ]

/-- A key below all others is missing. -/
theorem valueOf?_eq_none_of_below {key : κ} {entries : List (κ × α)}
    (below : ∀ e ∈ entries, compare key e.1 = .lt) : valueOf? key entries = none := by
  induction entries with
  | nil => rfl
  | cons first rest ih =>
    obtain ⟨here, later⟩ := List.forall_mem_cons.mp below
    simp [valueOf?, here, ih later]

section Membership

variable [Std.LawfulEqOrd κ]

theorem mem_iff_valueOf? {entries : List (κ × α)} (sorted : Ascending entries)
    (key : κ) (value : α) : (key, value) ∈ entries ↔ valueOf? key entries = some value := by
  induction entries with
  | nil => simp [valueOf?]
  | cons first rest ih =>
    obtain ⟨below, tail⟩ := List.pairwise_cons.mp sorted
    simp only [List.mem_cons, valueOf?]
    by_cases same : compare key first.1 = .eq
    · have equal := Std.LawfulEqCmp.eq_of_compare same
      subst equal
      -- Keys behind the first are greater, so none of them is this one.
      have absent : ∀ v, (first.1, v) ∉ rest := by
        intro v member
        have less := below _ member
        rw [Std.compare_self] at less
        cases less
      simp only [same, ite_true, Option.some.injEq]
      constructor
      · rintro (equal | member)
        · rw [← equal]
        · exact absurd member (absent value)
      · rintro rfl
        exact .inl rfl
    · simp only [same, ite_false, ← ih tail]
      constructor
      · rintro (equal | member)
        · exact absurd (by rw [← equal]; exact Std.compare_self) same
        · exact member
      · exact .inr

theorem mem_toList_iff (d : Dict κ α) (key : κ) (value : α) :
    (key, value) ∈ d.toList ↔ d.get? key = some value :=
  mem_iff_valueOf? d.ascending key value

/-- Keys that ascend are distinct. -/
theorem nodup_keys {entries : List (κ × α)} (sorted : Ascending entries) :
    (entries.map Prod.fst).Nodup := by
  rw [List.Nodup, List.pairwise_map]
  refine sorted.imp fun less same => ?_
  rw [same, Std.compare_self] at less
  cases less

end Membership

variable [Std.TransOrd κ] [Std.LawfulEqOrd κ]

theorem valueOf?_putEntry (key other : κ) (value : α) (entries : List (κ × α)) :
    valueOf? other (putEntry key value entries) =
      if compare other key = .eq then some value else valueOf? other entries := by
  induction entries with
  | nil => simp [putEntry, valueOf?]
  | cons first rest ih =>
    simp only [putEntry]
    split
    next less => simp [valueOf?]
    next same =>
      have equal := Std.LawfulEqCmp.eq_of_compare same
      simp only [valueOf?, ← equal]
      split <;> rfl
    next greater =>
      simp only [valueOf?, ih]
      by_cases here : compare other first.1 = .eq
      · have apart : compare other key ≠ .eq := by
          rw [Std.LawfulEqCmp.eq_of_compare here, Std.OrientedCmp.gt_iff_lt.mp greater]
          decide
        simp [here, apart]
      · simp [here]

theorem get?_insert [DecidableEq κ] (d : Dict κ α) (key other : κ) (value : α) :
    (d.insert key value).get? other = if other = key then some value else d.get? other := by
  rw [get?, insert, valueOf?_putEntry]
  by_cases same : other = key <;> simp [same, get?]

@[simp] theorem get?_insert_self (d : Dict κ α) (key : κ) (value : α) :
    (d.insert key value).get? key = some value := by
  simp [get?, insert, valueOf?_putEntry]

theorem get?_insert_of_ne (d : Dict κ α) {key other : κ} (value : α) (apart : other ≠ key) :
    (d.insert key value).get? other = d.get? other := by
  simp [get?, insert, valueOf?_putEntry, apart]

/-- A new key makes the map larger by one entry. -/
theorem size_insert_of_absent (d : Dict κ α) {key : κ} (value : α) (absent : d.get? key = none) :
    (d.insert key value).size = d.size + 1 := by
  suffices ∀ entries : List (κ × α), valueOf? key entries = none →
      (putEntry key value entries).length = entries.length + 1 from this d.entries absent
  intro entries missing
  induction entries with
  | nil => rfl
  | cons first rest ih =>
    simp only [valueOf?] at missing
    split at missing
    next same => cases missing
    next apart =>
      simp only [putEntry]
      split
      · rfl
      next same => exact absurd same apart
      · simp [ih missing]

theorem entries_ext {xs ys : List (κ × α)} (hx : Ascending xs) (hy : Ascending ys)
    (agree : ∀ e, e ∈ xs ↔ e ∈ ys) : xs = ys := by
  induction xs generalizing ys with
  | nil =>
    cases ys with
    | nil => rfl
    | cons y ys => exact absurd ((agree y).mpr (by simp)) (by simp)
  | cons x xs ih =>
    cases ys with
    | nil => exact absurd ((agree x).mp (by simp)) (by simp)
    | cons y ys =>
      obtain ⟨xlow, xtail⟩ := List.pairwise_cons.mp hx
      obtain ⟨ylow, ytail⟩ := List.pairwise_cons.mp hy
      -- If the heads differed, each would be below the other.
      have heads : x = y := by
        rcases List.mem_cons.mp ((agree x).mp (by simp)) with equal | xin
        · exact equal
        · rcases List.mem_cons.mp ((agree y).mpr (by simp)) with equal | yin
          · exact equal.symm
          · have loop := Std.TransCmp.lt_trans (xlow y yin) (ylow x xin)
            rw [Std.compare_self] at loop
            cases loop
      subst heads
      congr 1
      refine ih xtail ytail fun e => ?_
      -- The common head is in neither tail, so the tails agree too.
      have apart : ∀ zs : List (κ × α), (∀ z ∈ zs, compare x.1 z.1 = .lt) → x ∉ zs := by
        intro zs low member
        have less := low x member
        rw [Std.compare_self] at less
        cases less
      constructor
      · intro member
        have whole := (agree e).mp (List.mem_cons_of_mem _ member)
        rcases List.mem_cons.mp whole with equal | inside
        · exact absurd (equal ▸ member) (apart xs xlow)
        · exact inside
      · intro member
        have whole := (agree e).mpr (List.mem_cons_of_mem _ member)
        rcases List.mem_cons.mp whole with equal | inside
        · exact absurd (equal ▸ member) (apart ys ylow)
        · exact inside

/-- Two maps with the same lookups are the same map. -/
theorem ext {d e : Dict κ α} (agree : ∀ key, d.get? key = e.get? key) : d = e := by
  have entries : d.entries = e.entries := entries_ext d.ascending e.ascending fun pair => by
    rw [show pair = (pair.1, pair.2) from rfl, mem_iff_valueOf? d.ascending,
      mem_iff_valueOf? e.ascending]
    exact iff_of_eq (congrArg (· = some pair.2) (agree pair.1))
  cases d
  cases e
  cases entries
  rfl

theorem isEmpty_iff {d : Dict κ α} : d.isEmpty ↔ ∀ key, d.get? key = none := by
  constructor
  · intro none key
    rw [get?, List.isEmpty_iff.mp none, valueOf?]
  · intro absent
    rw [show d = empty from ext absent]
    rfl

end CallGuard.Dict
