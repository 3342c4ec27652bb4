import CallGuard.Proofs.BuildReports
import CallGuard.Proofs.Registrations

/-!
# Names that documents use

A registry has a say in the reading of a document only through the names in its argument entries.
Main statement: registries that resolve these names alike read the document alike. One more name
leaves an accepted document as it is read, and changes the outcome of a rejected one exactly if that
name was the one reported as unknown.
-/
namespace CallGuard

/-- The other registry resolves what this one resolves, and to the same descriptors. -/
def Registry.ExtendedBy (r other : Registry) : Prop :=
  ∀ name d, r.resolve? name = some d → other.resolve? name = some d

namespace Spec

/-- The name stands for a descriptor in the document: as an element of a list, or under a key that
names an entry. -/
inductive Uses : Json → String → Prop
  | element {items : List Json} {name : String} (member : .string name ∈ items) :
      Uses (.array items) name
  | member {members : List (String × Json)} {key name : String}
      (argument : (Key.parse? key).isSome)
      (found : (Json.object members).field? key = some (.string name)) :
      Uses (.object members) name

variable {r other : Registry} {document : Json} {entries : List (String × Json)} {name : String}

/-! ### Uses are argument entries -/

theorem uses_iff_mem_argumentEntries (read : argumentEntries? document = some entries) :
    Uses document name ↔ ∃ key, (key, .string name) ∈ entries := by
  cases document with
  | array items =>
    cases read
    simp only [mem_byPosition_iff]
    constructor
    · rintro ⟨member⟩
      obtain ⟨i, found⟩ := List.mem_iff_getElem?.mp member
      exact ⟨_, i, found, rfl⟩
    · rintro ⟨_, i, found, rfl⟩
      exact .element (List.mem_of_getElem? found)
  | object members =>
    cases read
    simp only [List.mem_filter, Dict.mem_toList_iff]
    constructor
    · intro used
      cases used with
      | member argument found => exact ⟨_, found, argument⟩
    · rintro ⟨key, found, argument⟩
      exact .member argument found
  | _ => cases read

/-! ### Registries that agree -/

theorem descriptorNamed_congr {item : Json}
    (agree : ∀ name, item = .string name → r.resolve? name = other.resolve? name) (key : String) :
    descriptorNamed r key item = descriptorNamed other key item := by
  cases item with
  | string name => simp only [descriptorNamed, agree name rfl]
  | _ => rfl

theorem resolveAll_congr
    (agree : ∀ name key, (key, .string name) ∈ entries → r.resolve? name = other.resolve? name) :
    resolveAll r entries = resolveAll other entries := by
  induction entries with
  | nil => rfl
  | cons entry rest ih =>
    obtain ⟨key, item⟩ := entry
    have here : descriptorNamed r key item = descriptorNamed other key item := by
      apply descriptorNamed_congr
      rintro name rfl
      exact agree name key List.mem_cons_self
    have later := ih fun name key member => agree name key (List.mem_cons_of_mem _ member)
    rw [resolveAll, resolveAll, here, later]

theorem value_ofJson_congr
    (agree : ∀ name, Uses document name → r.resolve? name = other.resolve? name) :
    (ofJson r document).value = (ofJson other document).value := by
  rw [value_ofJson, value_ofJson]
  cases read : argumentEntries? document with
  | none => rfl
  | some entries =>
    have same : resolveAll r entries = resolveAll other entries := by
      apply resolveAll_congr
      intro name key member
      exact agree name ((uses_iff_mem_argumentEntries read).mpr ⟨key, member⟩)
    simp only [same]

/-- What is reported on the way depends on the registry only through the outcome. -/
theorem ofJson_eq_of_value_eq (same : (ofJson r document).value = (ofJson other document).value) :
    ofJson r document = ofJson other document := by
  obtain ⟨keys, passed, records⟩ := exists_scan_ofJson r document
  obtain ⟨others, passedOther, recordsOther⟩ := exists_scan_ofJson other document
  apply Logged.ext same
  rw [records, recordsOther, passed.unique (same ▸ passedOther)]

/-! ### Registries that know more -/

theorem resolve?_of_uses {s : Spec} (accepted : (ofJson r document).value = .ok s)
    (used : Uses document name) : ∃ d, r.resolve? name = some d := by
  obtain ⟨entries, read, named⟩ := exists_ofJson_ok_iff.mp ⟨s, accepted⟩
  obtain ⟨key, member⟩ := (uses_iff_mem_argumentEntries read).mp used
  obtain ⟨d, _, ⟨⟩, found⟩ := named _ member
  exact ⟨d, found⟩

/-- All that an accepted document uses is resolved already, so further names are of no account. -/
theorem value_ofJson_of_extendedBy (extended : r.ExtendedBy other) {s : Spec}
    (accepted : (ofJson r document).value = .ok s) : (ofJson other document).value = .ok s := by
  rw [← accepted]
  apply Eq.symm
  apply value_ofJson_congr
  intro name used
  obtain ⟨d, found⟩ := resolve?_of_uses accepted used
  rw [found, extended name d found]

theorem resolve?_of_unknownType {key : String}
    (rejected : (ofJson r document).value = .error (.unknownType key name)) :
    r.resolve? name = none := by
  cases rejected ▸ normalizes_ofJson r document with
  | badEntry _ _ blamed =>
    cases blamed with
    | unknown unresolved => exact unresolved

/-- A rejected document stays rejected for the same reason, unless a name that was unknown is known
now. -/
theorem value_ofJson_error_iff_of_extendedBy (extended : r.ExtendedBy other) {e : Error}
    (rejected : (ofJson r document).value = .error e) :
    (ofJson other document).value = .error e ↔
      ∀ key name, e = .unknownType key name → other.resolve? name = none := by
  constructor
  · rintro again key name rfl
    exact resolve?_of_unknownType again
  · intro stillUnknown
    apply value_ofJson_of_normalizes
    cases rejected ▸ normalizes_ofJson r document with
    | noContainer scalar => exact .noContainer scalar
    | badEntry read named blamed =>
      -- Entries in front keep their descriptors, and the first bad one stays bad.
      refine .badEntry read (fun entry member => ?_) ?_
      · obtain ⟨d, name, string, found⟩ := named entry member
        exact ⟨d, name, string, extended name d found⟩
      · cases blamed with
        | notAString noString => exact .notAString noString
        | unknown _ => exact .unknown (stillUnknown _ _ rfl)

theorem extendedBy_put (absent : r.resolve? name = none) (d : Descriptor) :
    r.ExtendedBy (r.put name d) := by
  intro used e found
  have apart : used ≠ name := by
    rintro rfl
    simp [absent] at found
  simp [Registry.resolve?_put, apart, found]

/-- One more name matters to a rejected document exactly if it was the unknown one. -/
theorem value_ofJson_put_ne_iff (absent : r.resolve? name = none) (d : Descriptor) {e : Error}
    (rejected : (ofJson r document).value = .error e) :
    (ofJson (r.put name d) document).value ≠ .error e ↔ ∃ key, e = .unknownType key name := by
  rw [ne_eq, value_ofJson_error_iff_of_extendedBy (extendedBy_put absent d) rejected]
  constructor
  · intro nowKnown
    by_contra other
    apply nowKnown
    rintro key unknown rfl
    -- Any other name that was unknown still is.
    have apart : unknown ≠ name := by
      rintro rfl
      exact other ⟨key, rfl⟩
    simp [Registry.resolve?_put, apart, resolve?_of_unknownType rejected]
  · rintro ⟨key, rfl⟩ stillUnknown
    have missing := stillUnknown key name rfl
    simp [Registry.resolve?_put] at missing

/-! ### Main result -/

/-- Registries that resolve alike the names that a document uses read it alike. Registering a name
that the registry lacked leaves what it accepted as it was, whatever the descriptor, and changes the
outcome of what it rejected exactly if just that name was reported as unknown. -/
theorem ofJson_by_used_names (r : Registry) (document : Json) :
    (∀ other : Registry, (∀ name, Uses document name → r.resolve? name = other.resolve? name) →
      ofJson r document = ofJson other document) ∧
    ∀ (name : String) (d : Descriptor), r.contains name = false →
      (∀ s, (ofJson r document).value = .ok s →
        ofJson (r.register name d).value document = ofJson r document) ∧
      ∀ e, (ofJson r document).value = .error e →
        ((ofJson (r.register name d).value document).value ≠ .error e ↔
          ∃ key, e = .unknownType key name) := by
  refine ⟨fun other agree => ofJson_eq_of_value_eq (value_ofJson_congr agree), ?_⟩
  intro name d lacking
  have absent : r.resolve? name = none := by
    simpa [Registry.contains, Dict.contains, Registry.resolve?] using lacking
  rw [Registry.value_register]
  constructor
  · intro s accepted
    apply ofJson_eq_of_value_eq
    rw [value_ofJson_of_extendedBy (extendedBy_put absent d) accepted, accepted]
  · exact fun e rejected => value_ofJson_put_ne_iff absent d rejected

/-- The second element is unknown and the third is no name: a registry that knows the second blames
the third, while another name, or one that only an ignored key uses, changes nothing. -/
theorem ofJson_by_used_names_unknown :
    let document : Json := .array [.string "Number", .string "Widget", .null]
    let object : Json := .object [("0", .string "Number"), ("00", .string "Widget")]
    let widget : Descriptor := .ofClass (.root 0 "Widget")
    (ofJson .standard document).value = .error (.unknownType "1" "Widget") ∧
    (ofJson (Registry.standard.register "Widget" widget).value document).value ≠
      .error (.unknownType "1" "Widget") ∧
    (ofJson (Registry.standard.register "Gadget" widget).value document).value =
      .error (.unknownType "1" "Widget") ∧
    ofJson (Registry.standard.register "Widget" widget).value object =
      ofJson .standard object ∧
    ofJson .standard object = ofJson (Registry.empty.put "Number" .number) object := by
  intro document object widget
  have unknown : (ofJson .standard document).value = .error (.unknownType "1" "Widget") := rfl
  obtain ⟨-, added⟩ := ofJson_by_used_names .standard document
  obtain ⟨byNames, kept⟩ := ofJson_by_used_names .standard object
  refine ⟨unknown, ?_, ?_, ?_, byNames _ ?_⟩
  · exact ((added "Widget" widget (by decide)).2 _ unknown).mpr ⟨"1", rfl⟩
  · by_contra changed
    obtain ⟨key, same⟩ := ((added "Gadget" widget (by decide)).2 _ unknown).mp changed
    simp at same
  · exact (kept "Widget" widget (by decide)).1 (empty.withEntry 0 .number) rfl
  · intro name used
    have read : argumentEntries? object = some [("0", .string "Number")] := rfl
    obtain ⟨key, member⟩ := (uses_iff_mem_argumentEntries read).mp used
    have only : (key, Json.string name) = ("0", .string "Number") := List.mem_singleton.mp member
    cases only
    rfl

end Spec

end CallGuard
