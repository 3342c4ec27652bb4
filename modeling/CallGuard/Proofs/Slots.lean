import CallGuard.Dict.Lemmas
import CallGuard.Proofs.KeyText
import CallGuard.Spec.Source

/-!
# Slots of specifications

A specification has one slot for each key, and its slots determine it. After a list of entries has
been written, a slot holds what the last entry under its key wrote, or else what it held before.
-/
namespace CallGuard

section LastUnder

variable {κ α : Type} [DecidableEq κ]

/-- The value of the last entry under a key. -/
def lastUnder? (key : κ) : List (κ × α) → Option α
  | [] => none
  | e :: rest => (lastUnder? key rest).or (if e.1 = key then some e.2 else none)

variable {key : κ} {value : α} {entries : List (κ × α)}

theorem mem_of_lastUnder? (last : lastUnder? key entries = some value) :
    (key, value) ∈ entries := by
  induction entries with
  | nil => cases last
  | cons e rest ih =>
    rcases Option.or_eq_some_iff.mp last with later | ⟨_, here⟩
    · exact List.mem_cons_of_mem _ (ih later)
    · split at here
      next same =>
        cases here
        rw [← same]
        exact List.mem_cons_self
      · cases here

theorem lastUnder?_eq_none_iff : lastUnder? key entries = none ↔ ∀ e ∈ entries, e.1 ≠ key := by
  induction entries with
  | nil => simp [lastUnder?]
  | cons e rest ih =>
    rw [lastUnder?, Option.or_eq_none_iff, ih, List.forall_mem_cons]
    by_cases same : e.1 = key <;> simp [same]

/-- Under distinct keys each entry is the last under its own. -/
theorem lastUnder?_eq_some_iff (distinct : (entries.map Prod.fst).Nodup) :
    lastUnder? key entries = some value ↔ (key, value) ∈ entries := by
  constructor
  · exact mem_of_lastUnder?
  · intro member
    induction entries with
    | nil => cases member
    | cons e rest ih =>
      obtain ⟨apart, tail⟩ := List.nodup_cons.mp distinct
      rcases List.mem_cons.mp member with rfl | later
      · have noneLater : lastUnder? key rest = none := by
          rw [lastUnder?_eq_none_iff]
          intro e member same
          exact apart (List.mem_map.mpr ⟨e, member, same⟩)
        simp [lastUnder?, noneLater]
      · rw [lastUnder?, ih tail later, Option.some_or]

/-- After a run of writes a key has what it was last given, or else what it had before. -/
theorem Dict.get?_foldl_insert [Ord κ] [Std.TransOrd κ] [Std.LawfulEqOrd κ] (d : Dict κ α)
    (writes : List (κ × α)) (key : κ) :
    (writes.foldl (fun d w => d.insert w.1 w.2) d).get? key =
      (lastUnder? key writes).or (d.get? key) := by
  induction writes generalizing d with
  | nil => rfl
  | cons w rest ih =>
    rw [List.foldl_cons, ih, Dict.get?_insert, lastUnder?, Option.or_assoc]
    by_cases same : key = w.1
    · simp [same]
    · simp [same, Ne.symm same]

theorem Dict.get?_ofList [Ord κ] [Std.TransOrd κ] [Std.LawfulEqOrd κ] (entries : List (κ × α))
    (key : κ) : (ofList entries).get? key = lastUnder? key entries := by
  rw [ofList, get?_foldl_insert, get?_empty, Option.or_none]

end LastUnder

namespace Spec

/-- What stands under a key. -/
def slot (s : Spec) : Key → Option Descriptor
  | .index i => s.get? i
  | .fallback => s.fallback

variable {s t : Spec}

theorem ext_slot (agree : ∀ k, s.slot k = t.slot k) : s = t := by
  have entries : s.entries = t.entries := Dict.ext fun i => agree (.index i)
  have fallback : s.fallback = t.fallback := agree .fallback
  cases s
  cases t
  cases entries
  cases fallback
  rfl

/-! ### Writes -/

@[simp] theorem slot_empty (k : Key) : empty.slot k = none := by
  cases k <;> rfl

theorem slot_insert (s : Spec) (k other : Key) (d : Descriptor) :
    (s.insert k d).slot other = if other = k then some d else s.slot other := by
  cases k with
  | index i =>
    cases other with
    | index j => simp [insert, slot, get?, withEntry, Dict.get?_insert]
    | fallback => simp [insert, slot, withEntry]
  | fallback =>
    cases other with
    | index j => simp [insert, slot, get?, withFallback]
    | fallback => simp [insert, slot, withFallback]

theorem value_insertKeyed_cons (s : Spec) (e : String × Descriptor)
    (rest : List (String × Descriptor)) :
    (s.insertKeyed (e :: rest)).value =
      match Key.parse? e.1 with
      | some k => ((s.insert k e.2).insertKeyed rest).value
      | none => (s.insertKeyed rest).value := by
  rw [insertKeyed]
  cases Key.parse? e.1 <;> rfl

theorem slot_insertKeyed (s : Spec) (entries : List (String × Descriptor)) (k : Key) :
    (s.insertKeyed entries).value.slot k = (lastUnder? k.text entries).or (s.slot k) := by
  induction entries generalizing s with
  | nil => simp [insertKeyed, lastUnder?]
  | cons e rest ih =>
    rw [value_insertKeyed_cons, lastUnder?, Option.or_assoc]
    cases read : Key.parse? e.1 with
    | none =>
      -- No key has the text of an ignored entry.
      have apart : e.1 ≠ k.text := by
        intro same
        rw [same, Key.parse?_text] at read
        cases read
      simp [ih, apart]
    | some l =>
      have same : e.1 = k.text ↔ k = l := by
        rw [← Key.text_of_parse? read]
        exact ⟨fun texts => (Key.text_injective texts).symm, fun keys => keys ▸ rfl⟩
      simp only [ih, slot_insert, same]
      by_cases keys : k = l <;> simp [keys]

theorem slot_keyed (entries : List (String × Descriptor)) (k : Key) :
    (keyed entries).value.slot k = lastUnder? k.text entries := by
  rw [keyed, slot_insertKeyed, slot_empty, Option.or_none]

/-- Entries under distinct keys fill just the slots that they are for. -/
theorem slot_keyed_iff {entries : List (String × Descriptor)}
    (distinct : (entries.map Prod.fst).Nodup) {k : Key} {d : Descriptor} :
    (keyed entries).value.slot k = some d ↔ (k.text, d) ∈ entries := by
  rw [slot_keyed, lastUnder?_eq_some_iff distinct]

/-! ### The number of entries -/

/-- The entry is for an index. -/
def isIndexEntry {α : Type} (e : String × α) : Bool :=
  match Key.parse? e.1 with
  | some (.index _) => true
  | _ => false

/-- Entries under distinct keys that were free make as many entries as they have indexes. -/
theorem entryCount_insertKeyed (s : Spec) {entries : List (String × Descriptor)}
    (distinct : (entries.map Prod.fst).Nodup)
    (free : ∀ e ∈ entries, ∀ i, e.1 = (Key.index i).text → s.get? i = none) :
    (s.insertKeyed entries).value.entryCount = s.entryCount + entries.countP isIndexEntry := by
  induction entries generalizing s with
  | nil => simp [insertKeyed]
  | cons e rest ih =>
    obtain ⟨apart, tail⟩ := List.nodup_cons.mp distinct
    obtain ⟨here, later⟩ := List.forall_mem_cons.mp free
    rw [value_insertKeyed_cons, List.countP_cons, isIndexEntry]
    cases read : Key.parse? e.1 with
    | none => simpa using ih s tail later
    | some k =>
      cases k with
      | fallback =>
        have same : (s.withFallback e.2).entryCount = s.entryCount := rfl
        simpa [insert_fallback, same] using ih (s.withFallback e.2) tail later
      | index i =>
        have text := (Key.text_of_parse? read).symm
        have larger : (s.withEntry i e.2).entryCount = s.entryCount + 1 :=
          Dict.size_insert_of_absent s.entries e.2 (here i text)
        -- Later entries have other keys, so their slots are still free.
        have stillFree (x) (member : x ∈ rest) (j) (same : x.1 = (Key.index j).text) :
            (s.withEntry i e.2).get? j = none := by
          have other : j ≠ i := by
            rintro rfl
            exact apart (List.mem_map.mpr ⟨x, member, same.trans text.symm⟩)
          rw [get?, withEntry, Dict.get?_insert_of_ne _ _ other]
          exact later x member j same
        have counted := ih (s.withEntry i e.2) tail stillFree
        simp only [insert_index, counted, larger, if_true]
        omega

end Spec

end CallGuard
