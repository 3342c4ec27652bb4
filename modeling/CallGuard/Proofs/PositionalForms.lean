import CallGuard.Proofs.DistinctKeys

/-!
# Forms of one declaration by position

Descriptors that are declared by position can be handed over as a list, under the decimal texts of
their positions, entry by entry, or as a document of names. Main statement: each form, in whatever
order it comes, is normalized to the specification of the list.
-/
namespace CallGuard

/-- The names stand for the descriptors, one by one. -/
abbrev Registry.ResolvesAll (r : Registry) (names : List String) (ds : List Descriptor) : Prop :=
  List.Forall₂ (fun name d => r.resolve? name = some d) names ds

namespace Spec

/-- The writes, from the first on. -/
def withEntries (s : Spec) (writes : List (UInt64 × Descriptor)) : Spec :=
  writes.foldl (fun s w => s.withEntry w.1 w.2) s

/-- The forms in which descriptors are declared by position. -/
inductive Declares (ds : List Descriptor) : Source → Prop where
  | listed : Declares ds (.positional ds)
  /-- Under the texts of the positions, in any order. -/
  | keyed {entries : List (String × Descriptor)} (perm : entries.Perm (byPosition 0 ds)) :
      Declares ds (.keyed entries)
  /-- As a map, which is visited in the order of its keys. -/
  | sorted : Declares ds (.keyed (Dict.ofList (byPosition 0 ds)).toList)
  /-- Entry by entry, in any order. -/
  | written {writes : List (UInt64 × Descriptor)}
      (perm : (writes.map fun w => (w.2, w.1.toNat)).Perm ds.zipIdx) :
      Declares ds (.spec (empty.withEntries writes))
  /-- As a document that lists names of the descriptors. -/
  | array {r : Registry} {names : List String} (resolved : r.ResolvesAll names ds) :
      Declares ds (.json (.array (names.map .string)) r)
  /-- As a document that holds the names under the texts of the positions, in any order. -/
  | object {r : Registry} {names : List String} {members : List (String × Json)}
      (resolved : r.ResolvesAll names ds)
      (perm : members.Perm (byPosition 0 (names.map .string))) :
      Declares ds (.json (.object members) r)

variable {ds : List Descriptor} {r : Registry} {names : List String}

/-! ### The specification of a list -/

theorem positional_eq_keyed (ds : List Descriptor) :
    positional ds = (keyed (byPosition 0 ds)).value :=
  withEntriesFrom_eq_insertKeyed 0 empty ds

theorem slot_positional_iff {k : Key} {d : Descriptor} :
    (positional ds).slot k = some d ↔ ∃ i : Nat, ds[i]? = some d ∧ k.text = toString i := by
  rw [positional_eq_keyed, slot_keyed_iff (nodup_keys_byPosition 0 ds), mem_byPosition_iff]

theorem get?_positional (ds : List Descriptor) (i : UInt64) :
    (positional ds).get? i = ds[i.toNat]? := by
  ext d
  have slot : (positional ds).slot (.index i) = some d ↔ _ := slot_positional_iff
  refine slot.trans ⟨?_, fun found => ⟨i.toNat, found, rfl⟩⟩
  rintro ⟨j, found, same⟩
  exact toString_injective same ▸ found

theorem fallback_positional (ds : List Descriptor) : (positional ds).fallback = none := by
  rw [Option.eq_none_iff_forall_ne_some]
  intro d fallback
  have slot : (positional ds).slot .fallback = some d := fallback
  obtain ⟨i, _, same⟩ := slot_positional_iff.mp slot
  exact toString_ne_fallbackWord i same.symm

/-! ### Entries in any order -/

theorem keyed_of_perm_byPosition {entries : List (String × Descriptor)}
    (perm : entries.Perm (byPosition 0 ds)) : (keyed entries).value = positional ds := by
  have distinct := (perm.map Prod.fst).nodup_iff.mpr (nodup_keys_byPosition 0 ds)
  rw [keyed_perm distinct perm, positional_eq_keyed]

/-- Writing by index and writing under the texts of the indexes come to the same. -/
theorem withEntries_eq_insertKeyed (s : Spec) (writes : List (UInt64 × Descriptor)) :
    s.withEntries writes =
      (s.insertKeyed (writes.map fun w => (toString w.1.toNat, w.2))).value := by
  induction writes generalizing s with
  | nil => rfl
  | cons w rest ih =>
    have parsed : Key.parse? (toString w.1.toNat) = some (.index w.1) :=
      Key.parse?_text (.index w.1)
    rw [List.map_cons, value_insertKeyed_cons, parsed]
    exact ih (s.withEntry w.1 w.2)

theorem withEntries_of_perm {writes : List (UInt64 × Descriptor)}
    (perm : (writes.map fun w => (w.2, w.1.toNat)).Perm ds.zipIdx) :
    empty.withEntries writes = positional ds := by
  have texts := perm.map fun e => (toString e.2, e.1)
  rw [List.map_map] at texts
  rw [withEntries_eq_insertKeyed]
  exact keyed_of_perm_byPosition texts

/-! ### Documents of names -/

theorem descriptorsFrom_names (resolved : r.ResolvesAll names ds) (start : Nat) :
    descriptorsFrom r start (names.map .string) = .ok ds := by
  induction resolved generalizing start with
  | nil => rfl
  | cons found _ ih =>
    have named : descriptorNamed r (toString start) (.string _) = .ok _ :=
      descriptorNamed_ok_iff.mpr ⟨_, rfl, found⟩
    rw [List.map_cons, descriptorsFrom, descriptorAt_eq, named, ih]
    rfl

theorem value_ofJson_array (resolved : r.ResolvesAll names ds) :
    (ofJson r (.array (names.map .string))).value = .ok (positional ds) := by
  rw [ofJson, Logged.value_pure, descriptorsFrom_names resolved]
  rfl

/-- The names stand at the positions of the descriptors that they are resolved to. -/
theorem getElem?_of_resolved (resolved : r.ResolvesAll names ds) (i : Nat) :
    (∀ name, names[i]? = some name → ∃ d, ds[i]? = some d ∧ r.resolve? name = some d) ∧
    ∀ d, ds[i]? = some d → ∃ name, names[i]? = some name := by
  induction resolved generalizing i with
  | nil => simp
  | @cons name d _ _ found _ ih =>
    cases i with
    | zero => simp [found]
    | succ i => exact ih i

theorem value_ofJson_object (resolved : r.ResolvesAll names ds)
    {members : List (String × Json)} (perm : members.Perm (byPosition 0 (names.map .string))) :
    (ofJson r (.object members)).value = .ok (positional ds) := by
  have distinct := (perm.map Prod.fst).nodup_iff.mpr (nodup_keys_byPosition 0 _)
  refine value_ofJson_object_of_slots distinct (fun k item member => ?_) fun k d slot => ?_
  · -- A member stands under the text of a position, where the list has its descriptor.
    obtain ⟨i, listed, text⟩ := mem_byPosition_iff.mp (perm.mem_iff.mp member)
    rw [List.getElem?_map, Option.map_eq_some_iff] at listed
    obtain ⟨name, found, rfl⟩ := listed
    obtain ⟨d, stands, names⟩ := (getElem?_of_resolved resolved i).1 name found
    exact ⟨d, slot_positional_iff.mpr ⟨i, stands, text⟩, name, rfl, names⟩
  · obtain ⟨i, stands, text⟩ := slot_positional_iff.mp slot
    obtain ⟨name, found⟩ := (getElem?_of_resolved resolved i).2 d stands
    refine ⟨.string name, perm.mem_iff.mpr (mem_byPosition_iff.mpr ⟨i, ?_, text⟩)⟩
    rw [List.getElem?_map, found]
    rfl

/-! ### Main result -/

/-- Every form in which descriptors are declared by position is normalized to one specification: it
has the descriptor at place `i` of the list under index `i`, and nothing else. -/
theorem normalize_of_declares {source : Source} (declares : Declares ds source) :
    source.normalize.value = .ok (positional ds) ∧
    (∀ i, (positional ds).get? i = ds[i.toNat]?) ∧ (positional ds).fallback = none := by
  refine ⟨?_, get?_positional ds, fallback_positional ds⟩
  cases declares with
  | listed => rfl
  | keyed perm => exact congrArg Except.ok (keyed_of_perm_byPosition perm)
  | sorted =>
    have perm := Dict.perm_toList_ofList (nodup_keys_byPosition 0 ds)
    exact congrArg Except.ok (keyed_of_perm_byPosition perm)
  | written perm => exact congrArg Except.ok (withEntries_of_perm perm)
  | array resolved => exact value_ofJson_array resolved
  | object resolved perm => exact value_ofJson_object resolved perm

/-- Of eleven names the last, under "10", is visited before the third, and here written first. -/
theorem normalize_of_declares_reversed :
    let ds : List Descriptor := List.replicate 10 .number ++ [.object]
    let members := (byPosition 0 ((ds.map Descriptor.name).map Json.string)).reverse
    Registry.standard.ResolvesAll (ds.map Descriptor.name) ds ∧
    (Source.json (.object members) .standard).normalize.value = .ok (positional ds) ∧
    (positional ds).get? 10 = some .object := by
  intro ds members
  have resolved : Registry.standard.ResolvesAll (ds.map Descriptor.name) ds := by
    rw [Registry.ResolvesAll, List.forall₂_map_left_iff, List.forall₂_same]
    decide
  have normalized := normalize_of_declares (.object resolved (List.reverse_perm _))
  exact ⟨resolved, normalized.1, normalized.2.1 10⟩

end Spec

end CallGuard
