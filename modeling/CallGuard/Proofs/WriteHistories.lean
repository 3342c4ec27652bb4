import CallGuard.Proofs.FullAbstraction
import CallGuard.Proofs.LastEntries
import CallGuard.Proofs.PositionalForms

/-!
# Histories of specifications

A specification is made from a source and written to, slot by slot. Main statement: all that it
shows is what was last written to each slot, so histories that end in the same slots end in the same
specification.
-/
namespace CallGuard.Spec

/-! ### Histories -/

/-- The ways to write to a specification. -/
inductive Write where
  | entry (i : UInt64) (d : Descriptor)
  | fallback (d : Descriptor)
  | insert (key : Key) (d : Descriptor)

namespace Write

def key : Write → Key
  | entry i _ => .index i
  | fallback _ => .fallback
  | insert key _ => key

def descriptor : Write → Descriptor
  | entry _ d | fallback d | insert _ d => d

def apply (s : Spec) : Write → Spec
  | entry i d => s.withEntry i d
  | fallback d => s.withFallback d
  | insert key d => s.insert key d

end Write

/-- The specification after the writes, the first of which comes first. -/
def afterWrites (s : Spec) (writes : List Write) : Spec := writes.foldl Write.apply s

/-- What a source gives to a slot. A specification that is handed over gives what stands in it, and
so an empty one gives nothing. -/
inductive Source.Gives : Source → Key → Descriptor → Prop
  | entry {s : Spec} {i : UInt64} {d : Descriptor} (stands : s.get? i = some d) :
      Gives (.spec s) (.index i) d
  | fallback {s : Spec} {d : Descriptor} (stands : s.fallback = some d) :
      Gives (.spec s) .fallback d
  | position {ds : List Descriptor} {i : UInt64} {d : Descriptor}
      (stands : ds[i.toNat]? = some d) : Gives (.positional ds) (.index i) d
  | last {entries : List (String × Descriptor)} {k : Key} {d : Descriptor}
      (stands : LastUnder entries k.text d) : Gives (.keyed entries) k d
  | element {items : List Json} {r : Registry} {i : UInt64} {item : Json} {d : Descriptor}
      (stands : items[i.toNat]? = some item) (names : r.Names item d) :
      Gives (.json (.array items) r) (.index i) d
  | member {members : List (String × Json)} {r : Registry} {k : Key} {item : Json}
      {d : Descriptor} (stands : (Json.object members).field? k.text = some item)
      (names : r.Names item d) : Gives (.json (.object members) r) k d

/-- The descriptor was the last to be written to the slot; or none was, and the source gave it. -/
def WrittenLast (source : Source) (writes : List Write) (k : Key) (d : Descriptor) : Prop :=
  LastUnder (writes.map fun w => (w.key, w.descriptor)) k d ∨
    (∀ w ∈ writes, w.key ≠ k) ∧ source.Gives k d

/-- The specification shows, in every way, what was last written to its slots. -/
structure Shows (s : Spec) (last : Key → Descriptor → Prop) : Prop where
  entry (i : UInt64) (d : Descriptor) : s.get? i = some d ↔ last (.index i) d
  fallback (d : Descriptor) : s.fallback = some d ↔ last .fallback d
  ascending : s.toList.Pairwise fun a b => a.1 < b.1
  listed (i : UInt64) (d : Descriptor) : (i, d) ∈ s.toList ↔ s.get? i = some d
  count : s.entryCount = s.toList.length
  ofEntry (i : UInt64) (d : Descriptor) (stands : s.get? i = some d) :
    s.applicable? i.toNat = some (d, .positional)
  ofFallback (i : UInt64) (absent : s.get? i = none) :
    s.applicable? i.toNat = s.fallback.map (·, .fallback)
  unchecked : s.isEmpty ↔ ∀ i : UInt64, s.applicable? i.toNat = none

variable {source : Source} {s t start : Spec} {k : Key} {d : Descriptor} {v w : Write}

/-! ### Sources -/

theorem gives_spec_iff : (Source.spec s).Gives k d ↔ s.slot k = some d := by
  constructor
  · intro gives
    cases gives <;> assumption
  · intro stands
    cases k with
    | index i => exact .entry stands
    | fallback => exact .fallback stands

theorem gives_positional_iff {ds : List Descriptor} :
    (Source.positional ds).Gives k d ↔ (positional ds).slot k = some d := by
  cases k with
  | index i =>
    rw [slot, get?_positional]
    constructor
    · intro gives
      cases gives with
      | position stands => exact stands
    · exact .position
  | fallback =>
    rw [slot, fallback_positional]
    constructor <;> intro nothing <;> cases nothing

theorem gives_keyed_iff {entries : List (String × Descriptor)} :
    (Source.keyed entries).Gives k d ↔ LastUnder entries k.text d := by
  constructor
  · intro gives
    cases gives with
    | last stands => exact stands
  · exact .last

theorem gives_array_iff {items : List Json} {r : Registry} :
    (Source.json (.array items) r).Gives k d ↔
      ∃ item, (k.text, item) ∈ byPosition 0 items ∧ r.Names item d := by
  simp only [mem_byPosition_iff]
  constructor
  · intro gives
    cases gives with
    | element stands names => exact ⟨_, ⟨_, stands, rfl⟩, names⟩
  · rintro ⟨item, ⟨i, stands, text⟩, names⟩
    cases k with
    | index j =>
      cases toString_injective text
      exact .element stands names
    | fallback => exact absurd text.symm (toString_ne_fallbackWord i)

theorem gives_object_iff {members : List (String × Json)} {r : Registry} :
    (Source.json (.object members) r).Gives k d ↔
      ∃ item, (k.text, item) ∈ (Json.fields members).toList.filter isArgumentEntry ∧
        r.Names item d := by
  have argument (item : Json) : isArgumentEntry (k.text, item) = true := by
    simp [isArgumentEntry, Key.parse?_text]
  simp only [List.mem_filter, Dict.mem_toList_iff, argument, and_true]
  constructor
  · intro gives
    cases gives with
    | member stands names => exact ⟨_, stands, names⟩
  · rintro ⟨item, stands, names⟩
    exact .member stands names

theorem slot_eq_some_iff_gives (read : source.normalize.value = .ok start) :
    start.slot k = some d ↔ source.Gives k d := by
  cases source with
  | spec s =>
    cases read
    exact gives_spec_iff.symm
  | positional ds =>
    cases read
    exact gives_positional_iff.symm
  | keyed entries =>
    cases read
    rw [slot_keyed, lastUnder?_eq_some_iff_lastUnder, gives_keyed_iff]
  | json document r =>
    have normalizes := normalizes_ofJson r document
    rw [show (ofJson r document).value = .ok start from read] at normalizes
    cases normalizes with
    | spec listed _ holds =>
      rw [holds.slot]
      -- Only containers list entries.
      cases document with
      | array items =>
        cases listed
        exact gives_array_iff.symm
      | object members =>
        cases listed
        exact gives_object_iff.symm
      | _ => cases listed

/-! ### Writes -/

theorem Write.apply_eq_insert (s : Spec) (w : Write) : w.apply s = s.insert w.key w.descriptor := by
  cases w <;> rfl

theorem slot_apply (s : Spec) (w : Write) (k : Key) :
    (w.apply s).slot k = if k = w.key then some w.descriptor else s.slot k := by
  rw [Write.apply_eq_insert, slot_insert]

theorem slot_afterWrites (s : Spec) (writes : List Write) (k : Key) :
    (s.afterWrites writes).slot k =
      (lastUnder? k (writes.map fun w => (w.key, w.descriptor))).or (s.slot k) := by
  induction writes generalizing s with
  | nil => rfl
  | cons w rest ih =>
    have first : s.afterWrites (w :: rest) = (w.apply s).afterWrites rest := rfl
    rw [first, ih, slot_apply, List.map_cons, lastUnder?, Option.or_assoc]
    by_cases same : k = w.key
    · simp [same]
    · simp [same, Ne.symm same]

theorem apply_comm (s : Spec) (apart : v.key ≠ w.key) :
    w.apply (v.apply s) = v.apply (w.apply s) := by
  apply ext_slot
  intro k
  simp only [slot_apply]
  by_cases here : k = w.key
  · simp [here, apart.symm]
  · simp [here]

theorem apply_of_key_eq (s : Spec) (same : v.key = w.key) :
    w.apply (v.apply s) = w.apply s := by
  apply ext_slot
  intro k
  simp only [slot_apply, same]
  by_cases here : k = w.key <;> simp [here]

/-! ### What a specification shows -/

theorem eq_iff_get?_eq : s = t ↔ (∀ i, s.get? i = t.get? i) ∧ s.fallback = t.fallback := by
  constructor
  · rintro rfl
    exact ⟨fun _ => rfl, rfl⟩
  · rintro ⟨entries, fallback⟩
    apply ext_slot
    intro k
    cases k with
    | index i => exact entries i
    | fallback => exact fallback

theorem shows_of_slot {last : Key → Descriptor → Prop}
    (slots : ∀ k d, s.slot k = some d ↔ last k d) : s.Shows last where
  entry i := slots (.index i)
  fallback := slots .fallback
  ascending := s.entries.ascending.imp Std.compare_eq_lt.mp
  listed := Dict.mem_toList_iff s.entries
  count := rfl
  ofEntry i d stands := (get?_eq_some_iff_applicable? s i d).mp stands
  ofFallback i absent := by rw [applicable?_toNat, absent]
  unchecked := by
    constructor
    · intro nothing i
      exact (isEmpty_iff_applicable? s).mp nothing i.toNat
    · exact isEmpty_of_unchecked

theorem slot_eq_some_iff_writtenLast (read : source.normalize.value = .ok start)
    (writes : List Write) :
    (start.afterWrites writes).slot k = some d ↔ WrittenLast source writes k d := by
  rw [slot_afterWrites, lastUnder?_or_eq_some_iff, slot_eq_some_iff_gives read, WrittenLast,
    List.forall_mem_map]

/-! ### Main result -/

/-- A specification shows what was last written to its slots, whichever source it was made from. It
is equal to any other with the same entries and the same fallback. So writes to different slots may
change places, and of two writes to one slot the second is enough. -/
theorem shows_last_writes {source : Source} {start : Spec}
    (read : source.normalize.value = .ok start) (writes : List Write) :
    (start.afterWrites writes).Shows (WrittenLast source writes) ∧
    (∀ t : Spec, start.afterWrites writes = t ↔
      (∀ i, (start.afterWrites writes).get? i = t.get? i) ∧
        (start.afterWrites writes).fallback = t.fallback) ∧
    (∀ v w : Write, v.key ≠ w.key →
      start.afterWrites (writes ++ [v, w]) = start.afterWrites (writes ++ [w, v])) ∧
    ∀ v w : Write, v.key = w.key →
      start.afterWrites (writes ++ [v, w]) = start.afterWrites (writes ++ [w]) := by
  have further (others : List Write) :
      start.afterWrites (writes ++ others) = (start.afterWrites writes).afterWrites others :=
    List.foldl_append
  refine ⟨shows_of_slot fun k d => slot_eq_some_iff_writtenLast read writes, ?_, ?_, ?_⟩
  · intro t
    exact eq_iff_get?_eq
  · intro v w apart
    rw [further, further]
    exact apply_comm _ apart
  · intro v w same
    rw [further, further]
    exact apply_of_key_eq _ same

/-- The entry of the document is written over twice and its fallback never; the greatest index is
written once. -/
theorem shows_last_writes_overwritten :
    let document : Json := .object [("default", .string "String"), ("1", .string "Number")]
    let start : Spec := (empty.withEntry 1 .number).withFallback .string
    let writes : List Write :=
      [.entry 18446744073709551615 .object, .insert (.index 1) .boolean,
        .entry 1 (.ofClass Forest.junior)]
    let s := start.afterWrites writes
    (Source.json document .standard).normalize.value = .ok start ∧
    s.get? 1 = some (.ofClass Forest.junior) ∧ s.fallback = some .string ∧
    s.applicable? (0 : UInt64).toNat = some (.string, .fallback) ∧
    (18446744073709551615, .object) ∈ s.toList ∧
    start.afterWrites (writes ++ [.fallback .number, .entry 1 .string]) =
      start.afterWrites (writes ++ [.entry 1 .string, .fallback .number]) ∧
    start.afterWrites (writes ++ [.insert .fallback .number, .fallback .string]) =
      start.afterWrites (writes ++ [.fallback .string]) := by
  intro document start writes s
  have read : (Source.json document .standard).normalize.value = .ok start := rfl
  obtain ⟨shows, -, swapped, overwritten⟩ := shows_last_writes read writes
  have given : (Source.json document .standard).Gives .fallback .string :=
    .member rfl ⟨"String", rfl, rfl⟩
  have fallback : s.fallback = some .string :=
    (shows.fallback _).mpr (.inr ⟨by simp [writes, Write.key], given⟩)
  have greatest : s.get? 18446744073709551615 = some .object :=
    (shows.entry _ _).mpr (.inl ⟨[], _, rfl, by decide⟩)
  refine ⟨read, ?_, fallback, ?_, (shows.listed _ _).mpr greatest, swapped _ _ ?_,
    overwritten _ _ rfl⟩
  · have last : LastUnder (writes.map fun w => (w.key, w.descriptor)) (.index 1)
        (.ofClass Forest.junior) :=
      ⟨[(.index 18446744073709551615, .object), (.index 1, .boolean)], [], rfl, by simp⟩
    exact (shows.entry _ _).mpr (.inl last)
  · rw [shows.ofFallback 0 rfl, fallback]
    rfl
  · simp [Write.key]

end CallGuard.Spec
