import CallGuard.Proofs.ArgumentEntries
import Mathlib.Data.List.Forall2

/-!
# Exactness of normalization

The outcome of reading a document, as a judgment on its argument entries: they all name descriptors
and the specification holds just these, or the first one that names none is blamed.
-/
namespace CallGuard

/-- The document is a string that the registry knows for the descriptor. -/
def Registry.Names (r : Registry) (item : Json) (d : Descriptor) : Prop :=
  ∃ name, item = .string name ∧ r.resolve? name = some d

namespace Spec

/-- Why an entry names no descriptor. -/
inductive Blames (r : Registry) : String × Json → Error → Prop
  | notAString {key : String} {item : Json} (other : ∀ name, item ≠ .string name) :
      Blames r (key, item) (.invalidDescriptor key item.kind.text)
  | unknown {key name : String} (unresolved : r.resolve? name = none) :
      Blames r (key, .string name) (.unknownType key name)

/-- The specification holds what the entries name, and nothing else. -/
structure Holds (r : Registry) (entries : List (String × Json)) (s : Spec) : Prop where
  entry (i : UInt64) (d : Descriptor) :
    s.get? i = some d ↔ ∃ item, (toString i.toNat, item) ∈ entries ∧ r.Names item d
  fallback (d : Descriptor) :
    s.fallback = some d ↔ ∃ item, (fallbackWord, item) ∈ entries ∧ r.Names item d
  entryCount : s.entryCount = entries.countP isIndexEntry

/-- The outcome of reading a document. -/
inductive Normalizes (r : Registry) (document : Json) : Except Error Spec → Prop
  | spec {entries : List (String × Json)} {s : Spec}
      (read : argumentEntries? document = some entries)
      (named : ∀ e ∈ entries, ∃ d, r.Names e.2 d) (holds : Holds r entries s) :
      Normalizes r document (.ok s)
  | badEntry {before after : List (String × Json)} {entry : String × Json} {e : Error}
      (read : argumentEntries? document = some (before ++ entry :: after))
      (named : ∀ b ∈ before, ∃ d, r.Names b.2 d) (blamed : Blames r entry e) :
      Normalizes r document (.error e)
  | noContainer (scalar : argumentEntries? document = none) :
      Normalizes r document (.error (.notASpec document.kind.text))

variable {r : Registry} {entries : List (String × Json)}

/-! ### One entry -/

theorem Holds.slot {s : Spec} (holds : Holds r entries s) (k : Key) (d : Descriptor) :
    s.slot k = some d ↔ ∃ item, (k.text, item) ∈ entries ∧ r.Names item d := by
  cases k with
  | index i => exact holds.entry i d
  | fallback => exact holds.fallback d

/-- At most one specification holds what given entries name. -/
theorem Holds.unique {s t : Spec} (left : Holds r entries s) (right : Holds r entries t) :
    s = t := by
  apply ext_slot
  intro k
  ext d
  rw [left.slot, right.slot]

theorem names_unique {item : Json} {d e : Descriptor} (left : r.Names item d)
    (right : r.Names item e) : d = e := by
  obtain ⟨name, rfl, found⟩ := left
  obtain ⟨_, ⟨⟩, again⟩ := right
  exact Option.some.inj (found.symm.trans again)

theorem descriptorNamed_ok_iff {key : String} {item : Json} {d : Descriptor} :
    descriptorNamed r key item = .ok d ↔ r.Names item d := by
  constructor
  · intro named
    cases item with
    | string name =>
      cases found : r.resolve? name with
      | none => simp [descriptorNamed, found] at named
      | some e =>
        have same : e = d := by simpa [descriptorNamed, found] using named
        exact ⟨name, rfl, same ▸ found⟩
    | _ => cases named
  · rintro ⟨name, rfl, found⟩
    simp [descriptorNamed, found]

theorem descriptorNamed_error_iff {key : String} {item : Json} {e : Error} :
    descriptorNamed r key item = .error e ↔ Blames r (key, item) e := by
  constructor
  · intro refused
    cases item with
    | string name =>
      cases found : r.resolve? name with
      | none =>
        have same : .unknownType key name = e := by simpa [descriptorNamed, found] using refused
        exact same ▸ .unknown found
      | some d => simp [descriptorNamed, found] at refused
    | _ =>
      cases refused
      exact .notAString (by simp)
  · intro blamed
    cases blamed with
    | notAString other =>
      cases item with
      | string name => exact absurd rfl (other name)
      | _ => rfl
    | unknown unresolved => simp [descriptorNamed, unresolved]

/-! ### All entries -/

/-- Reading goes through exactly if it does entry by entry. -/
theorem resolveAll_ok_iff {named : List (String × Descriptor)} :
    resolveAll r entries = .ok named ↔
      List.Forall₂ (fun e n => e.1 = n.1 ∧ r.Names e.2 n.2) entries named := by
  induction entries generalizing named with
  | nil => cases named <;> simp [resolveAll]
  | cons e rest ih =>
    obtain ⟨key, item⟩ := e
    rw [resolveAll]
    cases first : descriptorNamed r key item with
    | error fault =>
      -- What is refused has no name, so there is no pair for the first entry.
      have unnamed (d : Descriptor) : ¬r.Names item d := by
        intro names
        rw [descriptorNamed_ok_iff.mpr names] at first
        cases first
      cases named <;> simp [bind, Except.bind, unnamed]
    | ok d =>
      have names := descriptorNamed_ok_iff.mp first
      cases others : resolveAll r rest with
      | error fault =>
        cases named <;> simp [bind, Except.bind, ← ih, others]
      | ok tail =>
        cases named with
        | nil => simp [bind, Except.bind]
        | cons n ns =>
          simp only [bind, Except.bind, Except.ok.injEq, List.cons.injEq, List.forall₂_cons, ← ih,
            others]
          constructor
          · rintro ⟨rfl, rfl⟩
            exact ⟨⟨rfl, names⟩, rfl⟩
          · rintro ⟨⟨same, again⟩, tails⟩
            -- An item names one descriptor at most, so the pair is the one that was read.
            exact ⟨Prod.ext same (names_unique names again), tails⟩

/-- Reading ends at the first entry that names nothing. -/
theorem resolveAll_error_iff {e : Error} :
    resolveAll r entries = .error e ↔
      ∃ before entry after, entries = before ++ entry :: after ∧
        (∀ b ∈ before, ∃ d, r.Names b.2 d) ∧ Blames r entry e := by
  induction entries with
  | nil => simp [resolveAll]
  | cons first rest ih =>
    obtain ⟨key, item⟩ := first
    rw [resolveAll]
    cases read : descriptorNamed r key item with
    | error fault =>
      have blamed := descriptorNamed_error_iff.mp read
      constructor
      · intro same
        cases same
        exact ⟨[], _, rest, rfl, by simp, blamed⟩
      · rintro ⟨before, entry, after, shape, named, other⟩
        cases before with
        | nil =>
          cases shape
          have again := descriptorNamed_error_iff.mpr other
          rw [read] at again
          cases again
          rfl
        | cons b before =>
          -- The first entry names nothing, so none comes before it.
          cases shape
          obtain ⟨d, names⟩ := named _ List.mem_cons_self
          rw [descriptorNamed_ok_iff.mpr names] at read
          cases read
    | ok d =>
      have names := descriptorNamed_ok_iff.mp read
      -- The first entry is named, so the fault is one of the others.
      have step : (do let named ← resolveAll r rest; .ok ((key, d) :: named)) =
          (Except.error e : Except Error (List (String × Descriptor))) ↔
            resolveAll r rest = .error e := by
        cases resolveAll r rest <;> simp [bind, Except.bind]
      refine step.trans (ih.trans ⟨?_, ?_⟩)
      · rintro ⟨before, entry, after, rfl, named, blamed⟩
        exact ⟨(key, item) :: before, entry, after, rfl,
          List.forall_mem_cons.mpr ⟨⟨d, names⟩, named⟩, blamed⟩
      · rintro ⟨before, entry, after, shape, named, blamed⟩
        cases before with
        | nil =>
          cases shape
          rw [descriptorNamed_error_iff.mpr blamed] at read
          cases read
        | cons b before =>
          cases shape
          exact ⟨before, entry, after, rfl, (List.forall_mem_cons.mp named).2, blamed⟩

theorem exists_resolveAll_ok_iff :
    (∃ named, resolveAll r entries = .ok named) ↔ ∀ e ∈ entries, ∃ d, r.Names e.2 d := by
  simp only [resolveAll_ok_iff]
  induction entries with
  | nil => simp
  | cons e rest ih =>
    rw [List.forall_mem_cons, ← ih]
    constructor
    · rintro ⟨_, pairs⟩
      cases pairs with
      | cons head tails => exact ⟨⟨_, head.2⟩, _, tails⟩
    · rintro ⟨⟨d, names⟩, tail, tails⟩
      exact ⟨(e.1, d) :: tail, .cons ⟨rfl, names⟩ tails⟩

variable {named : List (String × Descriptor)}

theorem keys_of_resolveAll (resolved : resolveAll r entries = .ok named) :
    named.map Prod.fst = entries.map Prod.fst := by
  have pairs := resolveAll_ok_iff.mp resolved
  clear resolved
  induction pairs with
  | nil => rfl
  | cons head _ ih => rw [List.map_cons, List.map_cons, head.1, ih]

theorem mem_of_resolveAll (resolved : resolveAll r entries = .ok named) {key : String}
    {d : Descriptor} :
    (key, d) ∈ named ↔ ∃ item, (key, item) ∈ entries ∧ r.Names item d := by
  have pairs := resolveAll_ok_iff.mp resolved
  clear resolved
  induction pairs with
  | nil => simp
  | @cons e n _ _ head _ ih =>
    obtain ⟨keys, names⟩ := head
    simp only [List.mem_cons, ih]
    constructor
    · rintro (rfl | ⟨item, member, other⟩)
      · exact ⟨e.2, .inl (Prod.ext keys.symm rfl), names⟩
      · exact ⟨item, .inr member, other⟩
    · rintro ⟨item, rfl | member, other⟩
      · exact .inl (Prod.ext keys (names_unique other names))
      · exact .inr ⟨item, member, other⟩

theorem countP_isIndexEntry_congr {α β : Type} {xs : List (String × α)} {ys : List (String × β)}
    (keys : xs.map Prod.fst = ys.map Prod.fst) :
    xs.countP isIndexEntry = ys.countP isIndexEntry := by
  have byKey {γ : Type} (zs : List (String × γ)) :
      zs.countP isIndexEntry = (zs.map Prod.fst).countP fun key => isIndexEntry (key, ()) := by
    rw [List.countP_map]
    rfl
  rw [byKey xs, byKey ys, keys]

/-- What entries under distinct keys name is held by the specification made of it. -/
theorem holds_keyed (distinct : (entries.map Prod.fst).Nodup)
    (resolved : resolveAll r entries = .ok named) : Holds r entries (keyed named).value := by
  have keys := keys_of_resolveAll resolved
  have apart : (named.map Prod.fst).Nodup := keys ▸ distinct
  have slots (k : Key) (d : Descriptor) : (keyed named).value.slot k = some d ↔
      ∃ item, (k.text, item) ∈ entries ∧ r.Names item d := by
    rw [slot_keyed_iff apart, mem_of_resolveAll resolved]
  refine ⟨fun i => slots (.index i), slots .fallback, ?_⟩
  rw [← countP_isIndexEntry_congr keys, keyed, entryCount_insertKeyed empty apart]
  · exact Nat.zero_add _
  · exact fun _ _ _ _ => rfl

/-! ### Main result -/

theorem normalizes_ofJson (r : Registry) (document : Json) :
    Normalizes r document (ofJson r document).value := by
  cases read : argumentEntries? document with
  | none =>
    rw [value_ofJson_of_none read]
    exact .noContainer read
  | some entries =>
    cases resolved : resolveAll r entries with
    | ok named =>
      rw [value_ofJson_of_ok read resolved]
      exact .spec read (exists_resolveAll_ok_iff.mp ⟨named, resolved⟩)
        (holds_keyed (nodup_keys_argumentEntries read) resolved)
    | error e =>
      rw [value_ofJson_of_error read resolved]
      obtain ⟨before, entry, after, rfl, all, blamed⟩ := resolveAll_error_iff.mp resolved
      exact .badEntry read all blamed

theorem value_ofJson_of_normalizes {document : Json} {result : Except Error Spec}
    (outcome : Normalizes r document result) : (ofJson r document).value = result := by
  cases outcome with
  | spec read all holds =>
    obtain ⟨named, resolved⟩ := exists_resolveAll_ok_iff.mpr all
    -- What the entries name leaves one specification only.
    have held := holds_keyed (nodup_keys_argumentEntries read) resolved
    rw [value_ofJson_of_ok read resolved, held.unique holds]
  | badEntry read all blamed =>
    exact value_ofJson_of_error read (resolveAll_error_iff.mpr ⟨_, _, _, rfl, all, blamed⟩)
  | noContainer scalar => exact value_ofJson_of_none scalar

theorem exists_ofJson_ok_iff {document : Json} :
    (∃ s, (ofJson r document).value = .ok s) ↔
      ∃ entries, argumentEntries? document = some entries ∧ ∀ e ∈ entries, ∃ d, r.Names e.2 d := by
  constructor
  · rintro ⟨s, read⟩
    cases read ▸ normalizes_ofJson r document with
    | spec listed all _ => exact ⟨_, listed, all⟩
  · rintro ⟨entries, listed, all⟩
    obtain ⟨named, resolved⟩ := exists_resolveAll_ok_iff.mpr all
    exact ⟨_, value_ofJson_of_ok listed resolved⟩

/-- Reading a document succeeds exactly if it is a container all of whose argument entries name
descriptors, and its result is that of the judgment. Members of an object that are no argument
entries have no influence. -/
theorem ofJson_iff_normalizes (r : Registry) (document : Json) :
    ((∃ s, (ofJson r document).value = .ok s) ↔
      ∃ entries, argumentEntries? document = some entries ∧
        ∀ e ∈ entries, ∃ d, r.Names e.2 d) ∧
    (∀ result, (ofJson r document).value = result ↔ Normalizes r document result) ∧
    ∀ members others : List (String × Json),
      (∀ key, (Key.parse? key).isSome →
        (Json.object members).field? key = (Json.object others).field? key) →
      (ofJson r (.object members)).value = (ofJson r (.object others)).value := by
  refine ⟨exists_ofJson_ok_iff, fun result => ⟨?_, value_ofJson_of_normalizes⟩, ?_⟩
  · rintro rfl
    exact normalizes_ofJson r document
  · intro members others agree
    have same := argumentEntries?_object_congr agree
    rw [value_ofJson, value_ofJson, same]
    rfl

/-- A key with a leading zero is passed over, even if no descriptor stands there. -/
theorem ofJson_ignores_leadingZero :
    (ofJson .standard (.object [("00", .null), ("0", .string "Number")])).value =
      (ofJson .standard (.object [("0", .string "Number")])).value := by
  apply (ofJson_iff_normalizes .standard .null).2.2
  intro key argument
  have apart : key ≠ "00" := by
    rintro rfl
    exact absurd argument (by decide)
  simp [Json.field?, Json.fields, Dict.ofList, Dict.get?_insert, apart]

end Spec

end CallGuard
