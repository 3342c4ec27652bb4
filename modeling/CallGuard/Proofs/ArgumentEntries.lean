import CallGuard.Proofs.Slots

/-!
# Argument entries of documents

Arrays and objects are read alike: each has a list of argument entries under distinct keys, all of
which have to name descriptors, and what they name is written under the same keys. The readings of
the two shapes come down to this one (`value_ofJson`).
-/
namespace CallGuard.Spec

/-- The elements of a list under the decimal texts of their positions. -/
def byPosition {α : Type} (start : Nat) (xs : List α) : List (String × α) :=
  (xs.zipIdx start).map fun e => (toString e.2, e.1)

def isArgumentEntry {α : Type} (e : String × α) : Bool := (Key.parse? e.1).isSome

/-- The argument entries in visiting order; scalars have none. Members of objects are visited in the
order of code points in their keys, which is that of the bytes. -/
def argumentEntries? : Json → Option (List (String × Json))
  | .array items => some (byPosition 0 items)
  | .object members => some ((Json.fields members).toList.filter isArgumentEntry)
  | _ => none

/-- The descriptors that entries name, under the keys of the entries; the first bad one rejects. -/
def resolveAll (r : Registry) : List (String × Json) → Except Error (List (String × Descriptor))
  | [] => .ok []
  | (key, item) :: rest => do
    let d ← descriptorNamed r key item
    let named ← resolveAll r rest
    .ok ((key, d) :: named)

variable {r : Registry} {document : Json} {entries : List (String × Json)}

/-! ### Keys of argument entries -/

theorem byPosition_cons {α : Type} (start : Nat) (x : α) (xs : List α) :
    byPosition start (x :: xs) = (toString start, x) :: byPosition (start + 1) xs := by
  rw [byPosition, List.zipIdx_cons, List.map_cons]
  rfl

theorem mem_byPosition_iff {α : Type} {xs : List α} {key : String} {x : α} :
    (key, x) ∈ byPosition 0 xs ↔ ∃ i : Nat, xs[i]? = some x ∧ key = toString i := by
  simp only [byPosition, List.mem_map, Prod.mk.injEq, Prod.exists, List.mk_mem_zipIdx_iff_getElem?]
  constructor
  · rintro ⟨y, i, found, text, rfl⟩
    exact ⟨i, found, text.symm⟩
  · rintro ⟨i, found, text⟩
    exact ⟨x, i, found, text.symm, rfl⟩

theorem keys_byPosition {α : Type} (start : Nat) (xs : List α) :
    (byPosition start xs).map Prod.fst = (List.range' start xs.length).map toString := by
  rw [← List.zipIdx_map_snd start xs, byPosition, List.map_map, List.map_map]
  rfl

theorem nodup_keys_byPosition {α : Type} (start : Nat) (xs : List α) :
    ((byPosition start xs).map Prod.fst).Nodup := by
  rw [keys_byPosition]
  refine List.Pairwise.map toString ?_ List.nodup_range'
  intro i j apart same
  exact apart (toString_injective same)

theorem nodup_keys_argumentEntries (read : argumentEntries? document = some entries) :
    (entries.map Prod.fst).Nodup := by
  cases document with
  | array items =>
    cases read
    exact nodup_keys_byPosition 0 items
  | object members =>
    cases read
    exact Dict.nodup_keys ((Json.fields members).ascending.filter _)
  | _ => cases read

/-- Members that are no argument entries have no part in the argument entries. -/
theorem argumentEntries?_object_congr {members others : List (String × Json)}
    (agree : ∀ key, (Key.parse? key).isSome →
      (Json.fields members).get? key = (Json.fields others).get? key) :
    argumentEntries? (.object members) = argumentEntries? (.object others) := by
  rw [argumentEntries?, argumentEntries?, Option.some.injEq]
  apply Dict.entries_ext
  · exact (Json.fields members).ascending.filter _
  · exact (Json.fields others).ascending.filter _
  · rintro ⟨key, item⟩
    rw [List.mem_filter, List.mem_filter, Dict.mem_toList_iff, Dict.mem_toList_iff]
    constructor
    · rintro ⟨found, argument⟩
      exact ⟨agree key argument ▸ found, argument⟩
    · rintro ⟨found, argument⟩
      exact ⟨(agree key argument).symm ▸ found, argument⟩

/-! ### The common reading -/

theorem resolveAll_byPosition (r : Registry) (start : Nat) (items : List Json) :
    resolveAll r (byPosition start items) =
      (descriptorsFrom r start items).map (byPosition start) := by
  induction items generalizing start with
  | nil => rfl
  | cons item rest ih =>
    rw [byPosition_cons, resolveAll, descriptorsFrom, descriptorAt_eq, ih]
    cases descriptorNamed r (toString start) item with
    | error e => rfl
    | ok d =>
      cases descriptorsFrom r (start + 1) rest with
      | error e => rfl
      | ok ds =>
        change Except.ok _ = Except.ok (byPosition start (d :: ds))
        rw [byPosition_cons]

theorem withEntriesFrom_eq_insertKeyed (start : Nat) (s : Spec) (ds : List Descriptor) :
    withEntriesFrom start s ds = (s.insertKeyed (byPosition start ds)).value := by
  induction ds generalizing start s with
  | nil => rfl
  | cons d rest ih =>
    -- A position without an index has no key either, and both sides pass over it.
    rw [byPosition_cons, value_insertKeyed_cons, Key.parse?_toString, withEntriesFrom]
    cases indexOf? start <;> exact ih (start + 1) _

/-- The key of an entry is rendered as it is written. -/
theorem descriptorOf_eq_of_parse? {key : String} {k : Key} (read : Key.parse? key = some k)
    (r : Registry) (item : Json) : descriptorOf r k item = descriptorNamed r key item := by
  rw [descriptorOf, Key.text_of_parse? read]

theorem value_insertMembers (r : Registry) (s : Spec) (members : List (String × Json)) :
    (s.insertMembers r members).value =
      (resolveAll r (members.filter isArgumentEntry)).map fun named =>
        (s.insertKeyed named).value := by
  induction members generalizing s with
  | nil => rfl
  | cons m rest ih =>
    obtain ⟨key, item⟩ := m
    rw [insertMembers]
    cases read : Key.parse? key with
    | none =>
      -- An ignored member is filtered out.
      rw [List.filter_cons_of_neg (by simp [isArgumentEntry, read])]
      exact ih s
    | some k =>
      rw [List.filter_cons_of_pos (by simp [isArgumentEntry, read]), resolveAll,
        ← descriptorOf_eq_of_parse? read]
      dsimp only
      cases descriptorOf r k item with
      | error e => rfl
      | ok d =>
        -- What follows is written onto the entry of this member.
        change ((s.insert k d).insertMembers r rest).value = _
        rw [ih]
        cases resolveAll r (rest.filter isArgumentEntry) with
        | error e => rfl
        | ok named =>
          change Except.ok _ = Except.ok (s.insertKeyed ((key, d) :: named)).value
          rw [value_insertKeyed_cons, read]

/-- Documents of both shapes are read by their argument entries. -/
theorem value_ofJson (r : Registry) (document : Json) :
    (ofJson r document).value =
      match argumentEntries? document with
      | none => .error (.notASpec document.kind.text)
      | some entries => (resolveAll r entries).map fun named => (keyed named).value := by
  cases document with
  | array items =>
    simp only [ofJson, argumentEntries?, resolveAll_byPosition, Logged.value_pure]
    cases descriptorsFrom r 0 items with
    | error e => rfl
    | ok ds => exact congrArg Except.ok (withEntriesFrom_eq_insertKeyed 0 empty ds)
  | object members => exact value_insertMembers r empty (Json.fields members).toList
  | _ => rfl

theorem value_ofJson_of_ok (read : argumentEntries? document = some entries)
    {named : List (String × Descriptor)} (resolved : resolveAll r entries = .ok named) :
    (ofJson r document).value = .ok (keyed named).value := by
  rw [value_ofJson, read]
  simp only [resolved]
  rfl

theorem value_ofJson_of_error (read : argumentEntries? document = some entries) {e : Error}
    (refused : resolveAll r entries = .error e) : (ofJson r document).value = .error e := by
  rw [value_ofJson, read]
  simp only [refused]
  rfl

theorem value_ofJson_of_none (scalar : argumentEntries? document = none) :
    (ofJson r document).value = .error (.notASpec document.kind.text) := by
  rw [value_ofJson, scalar]

end CallGuard.Spec
