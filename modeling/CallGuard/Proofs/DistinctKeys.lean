import CallGuard.Proofs.Normalization
import Mathlib.Data.List.Nodup

/-!
# Entries under distinct keys

Entries that stand under distinct keys write one specification in whatever order they come. So the
order of members in a document is of no account either (`value_ofJson_object_of_slots`).
-/
namespace CallGuard

/-- A map of entries under distinct keys lists just these. -/
theorem Dict.perm_toList_ofList {κ α : Type} [DecidableEq κ] [Ord κ] [Std.TransOrd κ]
    [Std.LawfulEqOrd κ] {entries : List (κ × α)} (distinct : (entries.map Prod.fst).Nodup) :
    (ofList entries).toList.Perm entries := by
  have listed : ((ofList entries).toList.map Prod.fst).Nodup :=
    nodup_keys (ofList entries).ascending
  rw [List.perm_ext_iff_of_nodup (.of_map _ listed) (.of_map _ distinct)]
  rintro ⟨key, value⟩
  rw [mem_toList_iff, ofList, get?_foldl_insert, get?_empty, Option.or_none,
    lastUnder?_eq_some_iff distinct]

theorem Dict.isSome_get?_ofList_iff {κ α : Type} [DecidableEq κ] [Ord κ] [Std.TransOrd κ]
    [Std.LawfulEqOrd κ] {entries : List (κ × α)} {key : κ} :
    ((ofList entries).get? key).isSome ↔ key ∈ entries.map Prod.fst := by
  rw [ofList, get?_foldl_insert, get?_empty, Option.or_none, Option.isSome_iff_ne_none, ne_eq,
    lastUnder?_eq_none_iff, List.mem_map]
  simp

namespace Spec

variable {r : Registry} {s : Spec}

/-! ### Keyed entries -/

theorem keyed_perm {xs ys : List (String × Descriptor)} (distinct : (xs.map Prod.fst).Nodup)
    (perm : xs.Perm ys) : (keyed xs).value = (keyed ys).value := by
  apply ext_slot
  intro k
  ext d
  rw [slot_keyed_iff distinct, slot_keyed_iff ((perm.map Prod.fst).nodup distinct),
    perm.mem_iff]

/-! ### Documents -/

theorem mem_argumentEntries_object {members : List (String × Json)}
    (distinct : (members.map Prod.fst).Nodup) {key : String} {item : Json} :
    (key, item) ∈ (Json.fields members).toList.filter isArgumentEntry ↔
      (key, item) ∈ members ∧ ∃ k : Key, key = k.text := by
  rw [List.mem_filter, Json.fields, (Dict.perm_toList_ofList distinct).mem_iff, isArgumentEntry,
    Option.isSome_iff_exists]
  simp only [Key.parse?_eq_some_iff]

/-- A document is read as the specification whose slots are those that its members name. -/
theorem value_ofJson_object_of_slots {members : List (String × Json)}
    (distinct : (members.map Prod.fst).Nodup)
    (named : ∀ (k : Key) (item : Json), (k.text, item) ∈ members →
      ∃ d, s.slot k = some d ∧ r.Names item d)
    (covered : ∀ (k : Key) (d : Descriptor), s.slot k = some d →
      ∃ item, (k.text, item) ∈ members) :
    (ofJson r (.object members)).value = .ok s := by
  have read : argumentEntries? (.object members) =
    some ((Json.fields members).toList.filter isArgumentEntry) := rfl
  have all : ∀ e ∈ (Json.fields members).toList.filter isArgumentEntry,
      ∃ d, r.Names e.2 d := by
    rintro ⟨key, item⟩ member
    obtain ⟨written, k, rfl⟩ := (mem_argumentEntries_object distinct).mp member
    obtain ⟨d, _, names⟩ := named k item written
    exact ⟨d, names⟩
  obtain ⟨resolved, outcome⟩ := exists_resolveAll_ok_iff.mpr all
  have apart : (resolved.map Prod.fst).Nodup :=
    keys_of_resolveAll outcome ▸ nodup_keys_argumentEntries read
  rw [value_ofJson_of_ok read outcome, Except.ok.injEq]
  apply ext_slot
  intro k
  ext d
  rw [slot_keyed_iff apart, mem_of_resolveAll outcome]
  constructor
  · rintro ⟨item, member, names⟩
    -- The item names one descriptor only, and that is in the slot.
    obtain ⟨e, slot, other⟩ := named k item ((mem_argumentEntries_object distinct).mp member).1
    exact names_unique names other ▸ slot
  · intro slot
    obtain ⟨item, written⟩ := covered k d slot
    obtain ⟨e, other, names⟩ := named k item written
    cases slot.symm.trans other
    exact ⟨item, (mem_argumentEntries_object distinct).mpr ⟨written, k, rfl⟩, names⟩

end Spec

end CallGuard
