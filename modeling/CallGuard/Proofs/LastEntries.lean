import CallGuard.Proofs.DistinctKeys

/-!
# Last entries

Of several entries for one slot the last counts, and entries for different slots do not meet. Main
statement: string-keyed entries make the specification that holds, under each key, what the last
entry with the text of that key gives. So order is of account between entries of one key only, and a
map may be visited in any order.
-/
namespace CallGuard

section LastUnder

variable {κ α : Type}

/-- The last entry under the key has the value. -/
def LastUnder (entries : List (κ × α)) (key : κ) (value : α) : Prop :=
  ∃ front back, entries = front ++ (key, value) :: back ∧ ∀ e ∈ back, e.1 ≠ key

variable [DecidableEq κ] {key : κ} {value : α} {entries : List (κ × α)}

theorem lastUnder?_eq_some_iff_lastUnder :
    lastUnder? key entries = some value ↔ LastUnder entries key value := by
  induction entries with
  | nil =>
    constructor
    · rintro ⟨⟩
    · rintro ⟨front, back, shape, _⟩
      simp at shape
  | cons e rest ih =>
    -- The first entry is the last one under the key only if no other is under it.
    rw [lastUnder?, Option.or_eq_some_iff, ih]
    constructor
    · rintro (⟨front, back, rfl, apart⟩ | ⟨noneLater, here⟩)
      · exact ⟨e :: front, back, rfl, apart⟩
      · split at here
        next same =>
          cases here
          exact ⟨[], rest, by rw [← same]; rfl, lastUnder?_eq_none_iff.mp noneLater⟩
        · cases here
    · rintro ⟨front, back, shape, apart⟩
      cases front with
      | nil =>
        cases shape
        exact .inr ⟨lastUnder?_eq_none_iff.mpr apart, if_pos rfl⟩
      | cons first front =>
        cases shape
        exact .inl ⟨front, back, rfl, apart⟩

/-- What a key was last given, or else what it had to begin with. -/
theorem lastUnder?_or_eq_some_iff {before : Option α} :
    (lastUnder? key entries).or before = some value ↔
      LastUnder entries key value ∨ (∀ e ∈ entries, e.1 ≠ key) ∧ before = some value := by
  rw [Option.or_eq_some_iff, lastUnder?_eq_some_iff_lastUnder, lastUnder?_eq_none_iff]

theorem lastUnder?_append (key : κ) (xs ys : List (κ × α)) :
    lastUnder? key (xs ++ ys) = (lastUnder? key ys).or (lastUnder? key xs) := by
  induction xs with
  | nil => rw [List.nil_append, lastUnder?, Option.or_none]
  | cons x rest ih => rw [List.cons_append, lastUnder?, ih, lastUnder?, Option.or_assoc]

end LastUnder

namespace Spec

/-- The specification holds what the last entries under the texts of its keys give, and nothing
else. -/
structure FilledBy (entries : List (String × Descriptor)) (s : Spec) : Prop where
  entry (i : UInt64) (d : Descriptor) :
    s.get? i = some d ↔ LastUnder entries (toString i.toNat) d
  fallback (d : Descriptor) : s.fallback = some d ↔ LastUnder entries fallbackWord d

/-- The argument entries of an object, each with the descriptor that it names. -/
def NamedEntries (r : Registry) (members : List (String × Json))
    (named : List (String × Descriptor)) : Prop :=
  List.Forall₂ (fun m n => m.1 = n.1 ∧ r.Names m.2 n.2)
    ((Json.fields members).toList.filter isArgumentEntry) named

variable {r : Registry} {s t : Spec} {entries : List (String × Descriptor)}
  {members : List (String × Json)}

/-! ### Entries of one key -/

theorem FilledBy.slot (filled : s.FilledBy entries) (k : Key) (d : Descriptor) :
    s.slot k = some d ↔ LastUnder entries k.text d := by
  cases k with
  | index i => exact filled.entry i d
  | fallback => exact filled.fallback d

theorem FilledBy.unique (left : s.FilledBy entries) (right : t.FilledBy entries) : s = t := by
  apply ext_slot
  intro k
  ext d
  rw [left.slot, right.slot]

theorem filledBy_keyed (entries : List (String × Descriptor)) :
    (keyed entries).value.FilledBy entries := by
  have slots (k : Key) (d : Descriptor) :
      (keyed entries).value.slot k = some d ↔ LastUnder entries k.text d := by
    rw [slot_keyed, lastUnder?_eq_some_iff_lastUnder]
  exact ⟨fun i => slots (.index i), slots .fallback⟩

theorem value_keyed_eq_iff : (keyed entries).value = s ↔ s.FilledBy entries := by
  constructor
  · rintro rfl
    exact filledBy_keyed entries
  · exact (filledBy_keyed entries).unique

/-! ### Entries of other keys -/

/-- An entry whose key is the text of no slot may be left out. -/
theorem keyed_append_cons_of_ne {front back : List (String × Descriptor)} {key : String}
    {d : Descriptor} (apart : ∀ k : Key, key ≠ k.text) :
    (keyed (front ++ (key, d) :: back)).value = (keyed (front ++ back)).value := by
  apply ext_slot
  intro k
  simp only [slot_keyed, lastUnder?_append, lastUnder?, if_neg (apart k), Option.or_none]

/-! ### Maps and documents -/

theorem keyed_of_perm_toList (map : Dict String Descriptor)
    {visited : List (String × Descriptor)} (perm : visited.Perm map.toList) :
    (keyed visited).value = (keyed map.toList).value := by
  have distinct : (map.toList.map Prod.fst).Nodup := Dict.nodup_keys map.ascending
  exact keyed_perm ((perm.map Prod.fst).nodup_iff.mpr distinct) perm

theorem value_ofJson_object_ok_iff :
    (ofJson r (.object members)).value = .ok s ↔
      ∃ named, NamedEntries r members named ∧ (keyed named).value = s := by
  have read : argumentEntries? (.object members) =
    some ((Json.fields members).toList.filter isArgumentEntry) := rfl
  constructor
  · intro accepted
    cases outcome : resolveAll r ((Json.fields members).toList.filter isArgumentEntry) with
    | ok named =>
      rw [value_ofJson_of_ok read outcome] at accepted
      exact ⟨named, resolveAll_ok_iff.mp outcome, Except.ok.inj accepted⟩
    | error e =>
      rw [value_ofJson_of_error read outcome] at accepted
      cases accepted
  · rintro ⟨named, pairs, rfl⟩
    exact value_ofJson_of_ok read (resolveAll_ok_iff.mpr pairs)

/-! ### Main result -/

/-- String-keyed entries make the one specification that their last entries fill; an entry that is
neither under the word for the fallback nor under the decimal text of an index is of no account.
Under distinct keys every order makes the same specification, so a map makes it in whatever order it
is visited. An object is read as the specification that its argument entries make under the names
that the registry resolves. -/
theorem keyed_by_last_entries (entries : List (String × Descriptor)) :
    (∀ s, (keyed entries).value = s ↔ s.FilledBy entries) ∧
    (∀ front back key d, entries = front ++ (key, d) :: back → key ≠ fallbackWord →
      (∀ i : UInt64, key ≠ toString i.toNat) →
      (keyed entries).value = (keyed (front ++ back)).value) ∧
    ((entries.map Prod.fst).Nodup → ∀ visited, visited.Perm entries →
      (keyed visited).value = (keyed entries).value) ∧
    (∀ (map : Dict String Descriptor) (visited : List (String × Descriptor)),
      visited.Perm map.toList →
      (Source.keyed visited).normalize.value = (Source.keyed map.toList).normalize.value) ∧
    ∀ (r : Registry) (members : List (String × Json)) (s : Spec),
      (ofJson r (.object members)).value = .ok s ↔
        ∃ named, NamedEntries r members named ∧ (keyed named).value = s := by
  refine ⟨fun s => value_keyed_eq_iff, ?_, ?_, ?_, fun _ _ _ => value_ofJson_object_ok_iff⟩
  · rintro front back key d rfl notFallback notIndex
    refine keyed_append_cons_of_ne fun k => ?_
    cases k with
    | index i => exact notIndex i
    | fallback => exact notFallback
  · intro distinct visited perm
    exact keyed_perm ((perm.map Prod.fst).nodup_iff.mpr distinct) perm
  · intro map visited perm
    exact congrArg Except.ok (keyed_of_perm_toList map perm)

/-- A key is given twice, and between its entries stands one with a leading zero. -/
theorem keyed_by_last_entries_repeated :
    let entries : List (String × Descriptor) :=
      [("1", .number), ("default", .string), ("01", .boolean), ("1", .object)]
    let map : Dict String Descriptor :=
      .ofList [("2", .number), ("10", .string), ("default", .object)]
    LastUnder entries "1" .object ∧ ¬LastUnder entries "1" .number ∧
    (keyed entries).value =
      (keyed [("1", .number), ("default", .string), ("1", .object)]).value ∧
    (keyed map.toList.reverse).value = (keyed map.toList).value ∧
    (Source.keyed map.toList.reverse).normalize.value =
      (Source.keyed map.toList).normalize.value ∧
    ∃ named, NamedEntries .standard [("01", .null), ("1", .string "Object")] named ∧
      (keyed named).value = empty.withEntry 1 .object := by
  intro entries map
  obtain ⟨filled, dropped, -, visits, -⟩ := keyed_by_last_entries entries
  have slots := (filled _).mp rfl
  have notIndex (i : UInt64) : "01" ≠ toString i.toNat := by
    intro same
    have read : Key.parse? "01" = some (.index i) := same ▸ Key.parse?_text (.index i)
    rw [show Key.parse? "01" = none by decide] at read
    cases read
  refine ⟨(slots.entry 1 .object).mp rfl, fun last => ?_, ?_, ?_, ?_, ?_⟩
  · exact absurd ((slots.entry 1 .number).mpr last) (by decide)
  · exact dropped [("1", .number), ("default", .string)] [("1", .object)] "01" .boolean rfl
      (by decide) notIndex
  · exact (keyed_by_last_entries map.toList).2.2.1 (by decide) _ (List.reverse_perm _)
  · exact visits map _ (List.reverse_perm _)
  · exact ((keyed_by_last_entries entries).2.2.2.2 .standard _ _).mp rfl

end Spec

end CallGuard
