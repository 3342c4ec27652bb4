import CallGuard.Proofs.DecimalOrder
import CallGuard.Proofs.DistinctKeys

/-!
# First faults

A list of items and the object that holds them under the decimal texts of their positions are
rejected together. Each blames the first bad item that it visits: the list in the order of numbers,
the object in that of the bytes of their texts. So they blame the same item exactly if the least bad
position has the least text.
-/
namespace CallGuard.Spec

/-- The key of the entry that is blamed. -/
def Error.key? : Error → Option String
  | .notASpec _ => none
  | .invalidDescriptor key _ => some key
  | .unknownType key _ => some key

/-- The item at the position names no descriptor, for the reason given. -/
def Faulty (r : Registry) (items : List Json) (position : Nat) (e : Error) : Prop :=
  ∃ item, items[position]? = some item ∧ Blames r (toString position, item) e

/-- The item at the position is bad, and no other bad item comes before it. -/
structure FirstFault (before : Nat → Nat → Prop) (r : Registry) (items : List Json)
    (position : Nat) (e : Error) : Prop where
  faulty : Faulty r items position e
  first : ∀ other reason, Faulty r items other reason → other = position ∨ before position other

/-- The bytes of the text of one number come before those of the other. -/
def TextBefore (i j : Nat) : Prop := decimalBytes i < decimalBytes j

variable {r : Registry} {items : List Json} {entries : List (String × Json)} {e e' : Error}
  {before after : Nat → Nat → Prop} {i j : Nat}

/-! ### One bad item -/

theorem key?_of_blames {entry : String × Json} (blamed : Blames r entry e) :
    e.key? = some entry.1 := by
  cases blamed <;> rfl

theorem blames_unique {entry : String × Json} (left : Blames r entry e)
    (right : Blames r entry e') : e = e' := by
  have first := descriptorNamed_error_iff.mpr left
  rw [descriptorNamed_error_iff.mpr right] at first
  exact (Except.error.inj first).symm

/-- An entry names a descriptor or is blamed, and not both. -/
theorem exists_blames_iff (r : Registry) (entry : String × Json) :
    (∃ e, Blames r entry e) ↔ ¬∃ d, r.Names entry.2 d := by
  obtain ⟨key, item⟩ := entry
  simp only [← descriptorNamed_error_iff, ← @descriptorNamed_ok_iff r key]
  cases descriptorNamed r key item <;> simp

theorem faulty_position_unique (left : Faulty r items i e) (right : Faulty r items j e) :
    i = j := by
  obtain ⟨_, _, here⟩ := left
  obtain ⟨_, _, there⟩ := right
  have keys := (key?_of_blames here).symm.trans (key?_of_blames there)
  exact toString_injective (Option.some.inj keys)

theorem faulty_reason_unique (left : Faulty r items i e) (right : Faulty r items i e') :
    e = e' := by
  obtain ⟨item, found, here⟩ := left
  obtain ⟨other, again, there⟩ := right
  cases found.symm.trans again
  exact blames_unique here there

/-! ### Visits in order -/

section Visits

variable (listed : ∀ entry, entry ∈ entries ↔ entry ∈ byPosition 0 items)

include listed

/-- The reading fails exactly if an item is bad, wherever it stands. -/
theorem exists_resolveAll_error_iff_faulty :
    (∃ e, resolveAll r entries = .error e) ↔ ∃ i e, Faulty r items i e := by
  have fails : (∃ e, resolveAll r entries = .error e) ↔
      ¬∃ named, resolveAll r entries = .ok named := by
    cases resolveAll r entries <;> simp
  rw [fails, exists_resolveAll_ok_iff]
  simp only [not_forall, exists_prop, ← exists_blames_iff, listed]
  constructor
  · rintro ⟨⟨_, item⟩, member, e, blamed⟩
    obtain ⟨i, found, rfl⟩ := mem_byPosition_iff.mp member
    exact ⟨i, e, item, found, blamed⟩
  · rintro ⟨i, e, item, found, blamed⟩
    exact ⟨_, mem_byPosition_iff.mpr ⟨i, found, rfl⟩, e, blamed⟩

/-- Items that are visited in the order of their positions blame the first bad one. -/
theorem resolveAll_error_iff_firstFault (asymm : ∀ i j, before i j → ¬before j i)
    (sorted : (entries.map Prod.fst).Pairwise fun a b =>
      ∀ i j : Nat, a = toString i → b = toString j → before i j) :
    resolveAll r entries = .error e ↔ ∃ i, FirstFault before r items i e := by
  rw [List.pairwise_map] at sorted
  rw [resolveAll_error_iff]
  constructor
  · rintro ⟨front, ⟨_, item⟩, back, rfl, named, blamed⟩
    have visited := (listed _).mp (List.mem_append_right _ List.mem_cons_self)
    obtain ⟨i, found, rfl⟩ := mem_byPosition_iff.mp visited
    refine ⟨i, ⟨item, found, blamed⟩, ?_⟩
    rintro j reason ⟨other, there, otherBlamed⟩
    have member := (listed _).mpr (mem_byPosition_iff.mpr ⟨j, there, rfl⟩)
    rcases List.mem_append.mp member with earlier | rest
    · -- Items in front have names, so the bad one is not among them.
      exact absurd (named _ earlier) ((exists_blames_iff r _).mp ⟨reason, otherBlamed⟩)
    · rcases List.mem_cons.mp rest with same | later
      · exact .inl (toString_injective (congrArg Prod.fst same))
      · have behind := (List.pairwise_append.mp sorted).2.1
        exact .inr ((List.pairwise_cons.mp behind).1 _ later i j rfl rfl)
  · rintro ⟨i, ⟨item, found, blamed⟩, first⟩
    have member := (listed _).mpr (mem_byPosition_iff.mpr ⟨i, found, rfl⟩)
    obtain ⟨front, back, rfl⟩ := List.append_of_mem member
    refine ⟨front, _, back, rfl, fun entry earlier => ?_, blamed⟩
    by_contra unnamed
    obtain ⟨reason, otherBlamed⟩ := (exists_blames_iff r entry).mpr unnamed
    obtain ⟨key, other⟩ := entry
    obtain ⟨j, there, rfl⟩ :=
      mem_byPosition_iff.mp ((listed _).mp (List.mem_append_left _ earlier))
    -- A bad item in front would come before the first bad one.
    have inFront : before j i :=
      (List.pairwise_append.mp sorted).2.2 _ earlier _ List.mem_cons_self j i rfl rfl
    rcases first j reason ⟨other, there, otherBlamed⟩ with rfl | behind
    · exact asymm _ _ inFront inFront
    · exact asymm _ _ inFront behind

end Visits

/-! ### The two shapes -/

theorem sorted_keys_byPosition (items : List Json) :
    ((byPosition 0 items).map Prod.fst).Pairwise fun a b =>
      ∀ i j : Nat, a = toString i → b = toString j → i < j := by
  rw [keys_byPosition, List.pairwise_map]
  refine (List.pairwise_lt_range' 1).imp fun less i j left right => ?_
  rw [← toString_injective left, ← toString_injective right]
  exact less

theorem sorted_keys_fields (members : List (String × Json)) :
    (((Json.fields members).toList.filter isArgumentEntry).map Prod.fst).Pairwise fun a b =>
      ∀ i j : Nat, a = toString i → b = toString j → TextBefore i j := by
  rw [List.pairwise_map]
  refine List.Pairwise.imp (fun less i j left right => ?_)
    ((Json.fields members).ascending.filter isArgumentEntry)
  rw [left, right] at less
  exact (compare_toString_iff i j).mp less

/-- All members that stand under texts of positions are argument entries, if the positions are
indexes. -/
theorem mem_argumentEntries_byPosition {members : List (String × Json)}
    (inRange : items.length ≤ UInt64.size) (perm : members.Perm (byPosition 0 items))
    (entry : String × Json) :
    entry ∈ (Json.fields members).toList.filter isArgumentEntry ↔ entry ∈ byPosition 0 items := by
  obtain ⟨key, item⟩ := entry
  have distinct := (perm.map Prod.fst).nodup_iff.mpr (nodup_keys_byPosition 0 items)
  rw [mem_argumentEntries_object distinct, perm.mem_iff]
  refine ⟨And.left, fun member => ⟨member, ?_⟩⟩
  obtain ⟨i, found, rfl⟩ := mem_byPosition_iff.mp member
  have below : i < UInt64.size :=
    Nat.lt_of_lt_of_le (List.getElem?_eq_some_iff.mp found).1 inRange
  exact ⟨.index (.ofNatLT i below), by rw [Key.text, UInt64.toNat_ofNatLT]⟩

theorem value_ofJson_error_iff {document : Json} (read : argumentEntries? document = some entries) :
    (ofJson r document).value = .error e ↔ resolveAll r entries = .error e := by
  cases outcome : resolveAll r entries with
  | ok named => simp [value_ofJson_of_ok read outcome]
  | error reason => simp [value_ofJson_of_error read outcome]

theorem exists_ofJson_error_iff {document : Json}
    (read : argumentEntries? document = some entries)
    (listed : ∀ entry, entry ∈ entries ↔ entry ∈ byPosition 0 items) :
    (∃ e, (ofJson r document).value = .error e) ↔ ∃ i e, Faulty r items i e := by
  simp only [value_ofJson_error_iff read]
  exact exists_resolveAll_error_iff_faulty listed

theorem array_error_iff :
    (ofJson r (.array items)).value = .error e ↔ ∃ i, FirstFault (· < ·) r items i e := by
  rw [value_ofJson_error_iff rfl]
  exact resolveAll_error_iff_firstFault (fun _ => Iff.rfl) (fun _ _ => Nat.lt_asymm)
    (sorted_keys_byPosition items)

theorem object_error_iff {members : List (String × Json)}
    (inRange : items.length ≤ UInt64.size) (perm : members.Perm (byPosition 0 items)) :
    (ofJson r (.object members)).value = .error e ↔ ∃ i, FirstFault TextBefore r items i e := by
  rw [value_ofJson_error_iff rfl]
  exact resolveAll_error_iff_firstFault (mem_argumentEntries_byPosition inRange perm)
    (fun _ _ => decimalBytes_asymm) (sorted_keys_fields members)

/-- An item is bad exactly if the document that holds it alone is rejected, for the same reason. -/
theorem faulty_iff_alone (inRange : items.length ≤ UInt64.size) :
    Faulty r items i e ↔ ∃ item, items[i]? = some item ∧
      (ofJson r (.object [(toString i, item)])).value = .error e := by
  refine exists_congr fun item => and_congr_right fun found => ?_
  have below : i < UInt64.size :=
    Nat.lt_of_lt_of_le (List.getElem?_eq_some_iff.mp found).1 inRange
  have argument : isArgumentEntry (toString i, item) :=
    Key.isSome_parse?_iff.mpr (.inr ⟨i, below, rfl⟩)
  have read : argumentEntries? (.object [(toString i, item)]) = some [(toString i, item)] :=
    congrArg some (List.filter_cons_of_pos argument)
  rw [value_ofJson_error_iff read, resolveAll, ← descriptorNamed_error_iff]
  cases descriptorNamed r (toString i) item <;> simp [bind, Except.bind, resolveAll]

/-! ### Equal reports -/

theorem firstFault_congr
    (agree : ∀ i j e e', Faulty r items i e → Faulty r items j e' → (before i j ↔ after i j)) :
    FirstFault before r items i e ↔ FirstFault after r items i e := by
  constructor
  · rintro ⟨faulty, first⟩
    refine ⟨faulty, fun other reason bad => (first other reason bad).imp_right ?_⟩
    exact (agree i other e reason faulty bad).mp
  · rintro ⟨faulty, first⟩
    refine ⟨faulty, fun other reason bad => (first other reason bad).imp_right ?_⟩
    exact (agree i other e reason faulty bad).mpr

/-- Where the texts of all bad positions are equally long, both orders have the same first fault. -/
theorem firstFault_iff_of_length_eq
    (long : ∀ i j e e', Faulty r items i e → Faulty r items j e' →
      (decimalBytes i).length = (decimalBytes j).length) :
    FirstFault (· < ·) r items i e ↔ FirstFault TextBefore r items i e :=
  firstFault_congr fun _ _ _ _ left right => (decimalBytes_lt_iff (long _ _ _ _ left right)).symm

theorem eq_iff_position_eq (left : FirstFault before r items i e)
    (right : FirstFault after r items j e') : e = e' ↔ i = j := by
  constructor
  · rintro rfl
    exact faulty_position_unique left.faulty right.faulty
  · rintro rfl
    exact faulty_reason_unique left.faulty right.faulty

theorem firstFault_position_unique (asymm : ∀ i j, before i j → ¬before j i)
    (left : FirstFault before r items i e) (right : FirstFault before r items j e') : i = j := by
  rcases left.first j e' right.faulty with same | ahead
  · exact same.symm
  · rcases right.first i e left.faulty with same | behind
    · exact same
    · exact absurd behind (asymm _ _ ahead)

/-- The two reports are equal exactly if one position is first in both orders. -/
theorem eq_iff_common_position (numeric : FirstFault (· < ·) r items i e)
    (textual : FirstFault TextBefore r items j e') :
    e = e' ↔ ∃ k, (∃ e, FirstFault (· < ·) r items k e) ∧
      ∃ e, FirstFault TextBefore r items k e := by
  rw [eq_iff_position_eq numeric textual]
  constructor
  · rintro rfl
    exact ⟨i, ⟨e, numeric⟩, e', textual⟩
  · rintro ⟨k, ⟨_, least⟩, _, leastText⟩
    have left := firstFault_position_unique (fun _ _ => Nat.lt_asymm) numeric least
    have right := firstFault_position_unique (fun _ _ => decimalBytes_asymm) textual leastText
    exact left.trans right.symm

/-- The text of a position among at most ten has one digit. -/
theorem length_decimalBytes_of_faulty (short : items.length ≤ 10) (bad : Faulty r items i e) :
    (decimalBytes i).length = 1 := by
  obtain ⟨item, found, _⟩ := bad
  have inside := (List.getElem?_eq_some_iff.mp found).1
  exact length_decimalBytes_of_lt_ten (Nat.lt_of_lt_of_le inside short)

/-! ### Main result -/

/-- A list and the object with its items under the texts of their positions are rejected together.
The list reports the least bad position and the object the one with the least text, each for the
reason that the item alone would be rejected for. The reports are equal exactly if this is the same
position; so they are for at most ten items, and if one item only is bad. A list in memory has no
more items than there are indexes. -/
theorem shapes_rejected_together (r : Registry) {items : List Json} {members : List (String × Json)}
    (inRange : items.length ≤ UInt64.size) (perm : members.Perm (byPosition 0 items)) :
    ((∃ e, (ofJson r (.array items)).value = .error e) ↔
      ∃ e, (ofJson r (.object members)).value = .error e) ∧
    (∀ e, (ofJson r (.array items)).value = .error e ↔
      ∃ i, FirstFault (· < ·) r items i e) ∧
    (∀ e, (ofJson r (.object members)).value = .error e ↔
      ∃ i, FirstFault TextBefore r items i e) ∧
    (∀ i e, Faulty r items i e ↔ ∃ item, items[i]? = some item ∧
      (ofJson r (.object [(toString i, item)])).value = .error e) ∧
    (∀ e e', (ofJson r (.array items)).value = .error e →
      (ofJson r (.object members)).value = .error e' →
      (e = e' ↔ ∃ i, (∃ e, FirstFault (· < ·) r items i e) ∧
        ∃ e, FirstFault TextBefore r items i e)) ∧
    (items.length ≤ 10 ∨ (∀ i j e e', Faulty r items i e → Faulty r items j e' → i = j) →
      ∀ e, (ofJson r (.array items)).value = .error e ↔
        (ofJson r (.object members)).value = .error e) := by
  have array (e : Error) := @array_error_iff r items e
  have object (e : Error) := @object_error_iff r items e members inRange perm
  refine ⟨?_, array, object, fun i e => faulty_iff_alone inRange, ?_, ?_⟩
  · rw [exists_ofJson_error_iff rfl fun _ => Iff.rfl,
      exists_ofJson_error_iff rfl (mem_argumentEntries_byPosition inRange perm)]
  · intro e e' rejected alsoRejected
    obtain ⟨i, numeric⟩ := (array e).mp rejected
    obtain ⟨j, textual⟩ := (object e').mp alsoRejected
    exact eq_iff_common_position numeric textual
  · intro few e
    rw [array, object]
    refine exists_congr fun i => firstFault_iff_of_length_eq fun i j _ _ left right => ?_
    rcases few with short | alone
    · rw [length_decimalBytes_of_faulty short left, length_decimalBytes_of_faulty short right]
    · rw [alone i j _ _ left right]

/-- Eleven items, of which the third and the last are bad. -/
def elevenItems : List Json :=
  [.string "Number", .string "Number", .null, .string "Number", .string "Number", .string "Number",
    .string "Number", .string "Number", .string "Number", .string "Number", .string "Widget"]

/-- The list blames the third of eleven items, and the object the last, whose text is less. -/
theorem shapes_rejected_together_eleven :
    elevenItems.length ≤ UInt64.size ∧
    (ofJson .standard (.array elevenItems)).value = .error (.invalidDescriptor "2" "null") ∧
    (ofJson .standard (.object (byPosition 0 elevenItems))).value =
      .error (.unknownType "10" "Widget") ∧
    ¬∃ i, (∃ e, FirstFault (· < ·) .standard elevenItems i e) ∧
      ∃ e, FirstFault TextBefore .standard elevenItems i e := by
  have inRange : elevenItems.length ≤ UInt64.size := by decide
  have array : (ofJson .standard (.array elevenItems)).value =
    .error (.invalidDescriptor "2" "null") := by rfl
  have object : (ofJson .standard (.object (byPosition 0 elevenItems))).value =
    .error (.unknownType "10" "Widget") := by rfl
  have reports := shapes_rejected_together .standard inRange (.refl _)
  have equal := reports.2.2.2.2.1 _ _ array object
  exact ⟨inRange, array, object, fun least => absurd (equal.mpr least) (by decide)⟩

end CallGuard.Spec
