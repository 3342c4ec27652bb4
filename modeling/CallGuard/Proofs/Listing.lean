import CallGuard.Proofs.DistinctKeys
import CallGuard.Proofs.Subtyping

/-!
# Listings of specifications

A specification lists its entries under the texts of their keys. Main statement: the listing is read
back, be it as string-keyed entries or as a document of display names, and a document that is read
is listed under those of its keys that name entries.
-/
namespace CallGuard.Spec

/-- The entries by index under decimal texts, and the fallback under its word. -/
def listing (s : Spec) : List (String × Descriptor) :=
  s.toList.map (fun e => (toString e.1.toNat, e.2)) ++ s.fallback.toList.map (fallbackWord, ·)

variable {r : Registry} {s : Spec}

/-! ### Entries of a listing -/

theorem mem_listing_iff {key : String} {d : Descriptor} :
    (key, d) ∈ s.listing ↔ ∃ k : Key, key = k.text ∧ s.slot k = some d := by
  rw [listing, List.mem_append, List.mem_map, List.mem_map]
  constructor
  · rintro (⟨⟨i, e⟩, member, ⟨⟩⟩ | ⟨e, member, ⟨⟩⟩)
    · exact ⟨.index i, rfl, (Dict.mem_toList_iff s.entries i e).mp member⟩
    · exact ⟨.fallback, rfl, Option.mem_toList.mp member⟩
  · rintro ⟨k, rfl, slot⟩
    cases k with
    | index i => exact .inl ⟨(i, d), (Dict.mem_toList_iff s.entries i d).mpr slot, rfl⟩
    | fallback => exact .inr ⟨d, Option.mem_toList.mpr slot, rfl⟩

theorem text_mem_listing_iff {k : Key} {d : Descriptor} :
    (k.text, d) ∈ s.listing ↔ s.slot k = some d := by
  rw [mem_listing_iff]
  constructor
  · rintro ⟨l, same, slot⟩
    exact Key.text_injective same ▸ slot
  · intro slot
    exact ⟨k, rfl, slot⟩

theorem nodup_keys_listing (s : Spec) : (s.listing.map Prod.fst).Nodup := by
  have indexes : (s.toList.map fun e => toString e.1.toNat).Nodup := by
    have distinct : (s.toList.map Prod.fst).Nodup := Dict.nodup_keys s.entries.ascending
    have texts := distinct.map (f := fun i : UInt64 => toString i.toNat) fun i j same =>
      UInt64.toNat_inj.mp (toString_injective same)
    rwa [List.map_map] at texts
  rw [listing, List.map_append, List.map_map, List.map_map, List.nodup_append]
  refine ⟨indexes, ?_, ?_⟩
  · cases s.fallback <;> simp
  · -- The word for the fallback is no decimal text.
    intro text listed word fallback same
    obtain ⟨e, _, rfl⟩ := List.mem_map.mp listed
    obtain ⟨d, _, rfl⟩ := List.mem_map.mp fallback
    exact toString_ne_fallbackWord _ same

/-! ### Reading listings -/

theorem keyed_listing (s : Spec) : (keyed s.listing).value = s := by
  apply ext_slot
  intro k
  ext d
  rw [slot_keyed_iff s.nodup_keys_listing, text_mem_listing_iff]

/-- The listing with display names in place of descriptors, as members of a document. -/
def nameListing (s : Spec) : List (String × Json) :=
  s.listing.map fun e => (e.1, .string e.2.name)

theorem keys_nameListing (s : Spec) : s.nameListing.map Prod.fst = s.listing.map Prod.fst := by
  rw [nameListing, List.map_map]
  rfl

/-- Display names are read back if they stand for the descriptors that they are taken from. -/
theorem value_ofJson_nameListing {members : List (String × Json)}
    (named : ∀ k d, s.slot k = some d → r.resolve? d.name = some d)
    (perm : members.Perm s.nameListing) : (ofJson r (.object members)).value = .ok s := by
  have distinct : (members.map Prod.fst).Nodup := by
    rw [(perm.map Prod.fst).nodup_iff, keys_nameListing]
    exact s.nodup_keys_listing
  refine value_ofJson_object_of_slots distinct (fun k item member => ?_) fun k d slot => ?_
  · obtain ⟨⟨key, d⟩, listed, same⟩ := List.mem_map.mp (perm.mem_iff.mp member)
    cases same
    have slot := text_mem_listing_iff.mp listed
    exact ⟨d, slot, d.name, rfl, named k d slot⟩
  · have listed := List.mem_map_of_mem (f := fun e : String × Descriptor =>
      (e.1, Json.string e.2.name)) (text_mem_listing_iff.mpr slot)
    exact ⟨.string d.name, perm.mem_iff.mpr listed⟩

/-! ### Keys of a document that is read -/

/-- What is read has an entry under each key that names one, and under no other. -/
theorem mem_keys_listing_iff {members : List (String × Json)}
    (read : (ofJson r (.object members)).value = .ok s) (key : String) :
    key ∈ s.listing.map Prod.fst ↔
      key ∈ members.map Prod.fst ∧ (Key.parse? key).isSome := by
  cases read ▸ normalizes_ofJson r (.object members) with
  | spec listed named holds =>
    cases listed
    have present : key ∈ members.map Prod.fst ↔
        ∃ item, (Json.fields members).get? key = some item := by
      rw [← Option.isSome_iff_exists, Json.fields, Dict.isSome_get?_ofList_iff]
    rw [present, Option.isSome_iff_exists]
    constructor
    · intro member
      obtain ⟨⟨_, d⟩, entry, rfl⟩ := List.mem_map.mp member
      obtain ⟨k, rfl, slot⟩ := mem_listing_iff.mp entry
      obtain ⟨item, argument, _⟩ := (holds.slot k d).mp slot
      have written := (List.mem_filter.mp argument).1
      exact ⟨⟨item, (Dict.mem_toList_iff _ _ _).mp written⟩, k, Key.parse?_text k⟩
    · rintro ⟨⟨item, written⟩, k, parsed⟩
      cases Key.parse?_eq_some_iff.mp parsed
      have argument : (k.text, item) ∈ (Json.fields members).toList.filter isArgumentEntry := by
        refine List.mem_filter.mpr ⟨(Dict.mem_toList_iff _ _ _).mpr written, ?_⟩
        rw [isArgumentEntry, parsed]
        rfl
      obtain ⟨d, names⟩ := named _ argument
      have entry := text_mem_listing_iff.mpr ((holds.slot k d).mpr ⟨item, argument, names⟩)
      exact List.mem_map_of_mem entry

/-! ### Main result -/

/-- A listing in any order is read back as the specification that it lists, and so is a document of
its display names over a registry that knows each of them for the descriptor itself. Conversely what
a document is read as lists, each once, those keys of the document that name entries. -/
theorem listing_round_trip (s : Spec) (r : Registry) :
    (∀ entries, entries.Perm s.listing → (keyed entries).value = s) ∧
    ((∀ e ∈ s.listing, r.resolve? e.2.name = some e.2) →
      ∀ members, members.Perm s.nameListing → (ofJson r (.object members)).value = .ok s) ∧
    ∀ members, (ofJson r (.object members)).value = .ok s →
      (s.listing.map Prod.fst).Nodup ∧
      ∀ key, key ∈ s.listing.map Prod.fst ↔
        key ∈ members.map Prod.fst ∧ (Key.parse? key).isSome := by
  refine ⟨fun entries perm => ?_, fun named members perm => ?_, fun members read => ?_⟩
  · have distinct := (perm.map Prod.fst).nodup_iff.mpr s.nodup_keys_listing
    rw [keyed_perm distinct perm, keyed_listing]
  · refine value_ofJson_nameListing (fun k d slot => ?_) perm
    exact named (k.text, d) (text_mem_listing_iff.mpr slot)
  · exact ⟨s.nodup_keys_listing, mem_keys_listing_iff read⟩

/-- Sparse indexes up to the greatest, with a class whose name is that of an older one. -/
def sparse : Spec :=
  (((empty.withEntry 10 .number).withEntry 18446744073709551615 .string).withEntry 2
    (.ofClass Forest.junior)).withFallback .object

/-- The listing is read back from its far end, and what is read has the keys that were listed. -/
theorem listing_round_trip_sparse :
    sparse.nameListing.reverse.map Prod.fst = ["default", "18446744073709551615", "10", "2"] ∧
    (ofJson (Registry.standard.put "Widget" (.ofClass Forest.junior))
      (.object sparse.nameListing.reverse)).value = .ok sparse ∧
    (sparse.listing.map Prod.fst).Nodup := by
  obtain ⟨-, back, again⟩ :=
    listing_round_trip sparse (Registry.standard.put "Widget" (.ofClass Forest.junior))
  have read := back (by decide) _ (List.reverse_perm _)
  exact ⟨by decide, read, (again _ read).1⟩

end CallGuard.Spec
