import CallGuard.Proofs.FirstFault
import CallGuard.Proofs.WorkshopRuns
import CallGuard.Telemetry.Event
import Mathlib.Data.List.Sort

/-!
# Reports of builds

What a build leaves in the log. A source is scanned up to its first bad argument entry, the keys
that are passed over on the way are reported, and one record of the outcome closes the log. Main
statement: result and log are those of the scan, whatever the configuration, and no callable runs.
-/
namespace CallGuard

namespace Spec

/-- The keys of the entries that are no argument entries. -/
def ignoredKeys {α : Type} (entries : List (String × α)) : List String :=
  (entries.filter fun e => !isArgumentEntry e).map Prod.fst

/-- The keys of a document that name no argument entry, in the order of their bytes: all of them, or
those in front of a given key. -/
structure PassedOver (document : Json) (bound : Option String) (keys : List String) : Prop where
  ascending : keys.Pairwise fun a b => Text.bytes a < Text.bytes b
  listed : ∀ key, key ∈ keys ↔ (document.field? key).isSome ∧ Key.parse? key = none ∧
    ∀ stop, bound = some stop → Text.bytes key < Text.bytes stop

/-- The key of the entry that a result blames. -/
def blamedKey? : Except Error Spec → Option String
  | .ok _ => none
  | .error e => e.key?

/-- What a source comes to, and what is reported on the way. Only documents can be bad, and they are
looked at up to the entry that is blamed. -/
inductive Source.Scan : Source → Except Error Spec → List Event → Prop
  | spec (s : Spec) : Scan (.spec s) (.ok s) []
  | positional (ds : List Descriptor) : Scan (.positional ds) (.ok (Spec.positional ds)) []
  | keyed (entries : List (String × Descriptor)) :
      Scan (.keyed entries) (.ok (Spec.keyed entries).value)
        ((ignoredKeys entries).map (.keyIgnored · true))
  | json {document : Json} {r : Registry} {result : Except Error Spec} {keys : List String}
      (normal : Normalizes r document result)
      (passed : PassedOver document (blamedKey? result) keys) :
      Scan (.json document r) result (keys.map (.keyIgnored · false))

variable {r : Registry} {s : Spec}

/-! ### Ignored keys -/

theorem mem_ignoredKeys_iff {α : Type} {entries : List (String × α)} {key : String} :
    key ∈ ignoredKeys entries ↔ Key.parse? key = none ∧ ∃ item, (key, item) ∈ entries := by
  simp [ignoredKeys, isArgumentEntry, and_comm]

theorem ignoredKeys_cons {α : Type} (entry : String × α) (rest : List (String × α)) :
    ignoredKeys (entry :: rest) =
      match Key.parse? entry.1 with
      | none => entry.1 :: ignoredKeys rest
      | some _ => ignoredKeys rest := by
  cases read : Key.parse? entry.1 <;> simp [ignoredKeys, isArgumentEntry, read]

theorem nodup_ignoredKeys {α : Type} {entries : List (String × α)}
    (distinct : (entries.map Prod.fst).Nodup) : (ignoredKeys entries).Nodup :=
  distinct.sublist (List.filter_sublist.map Prod.fst)

/-! ### Scans of entries -/

theorem records_insertKeyed (s : Spec) (entries : List (String × Descriptor)) :
    (s.insertKeyed entries).records =
      (ignoredKeys entries).map fun key => { event := .keyIgnored key true } := by
  induction entries generalizing s with
  | nil => rfl
  | cons entry rest ih =>
    obtain ⟨key, d⟩ := entry
    rw [insertKeyed, ignoredKeys_cons]
    cases Key.parse? key with
    | none => exact congrArg (_ :: ·) (ih s)
    | some k => exact ih (s.insert k d)

/-- The scan goes through the front of the members, up to the entry that is blamed if there is one,
and what stands behind is not looked at. -/
theorem exists_front (r : Registry) (s : Spec) (members : List (String × Json)) :
    ∃ front back, members = front ++ back ∧
      blamedKey? (s.insertMembers r members).value = back.head?.map Prod.fst ∧
      (s.insertMembers r members).records =
        (ignoredKeys front).map fun key => { event := .keyIgnored key false } := by
  induction members generalizing s with
  | nil => exact ⟨[], [], rfl, rfl, rfl⟩
  | cons member rest ih =>
    obtain ⟨key, item⟩ := member
    rw [insertMembers]
    cases read : Key.parse? key with
    | none =>
      obtain ⟨front, back, shape, blamed, records⟩ := ih s
      refine ⟨(key, item) :: front, back, congrArg (_ :: ·) shape, blamed, ?_⟩
      rw [ignoredKeys_cons, read]
      exact congrArg (_ :: ·) records
    | some k =>
      dsimp only
      cases first : descriptorOf r k item with
      | error reason =>
        -- The scan ends here, so the entry stands first in what is not passed over.
        rw [descriptorOf_eq_of_parse? read] at first
        exact ⟨[], (key, item) :: rest, rfl, key?_of_blames (descriptorNamed_error_iff.mp first),
          rfl⟩
      | ok d =>
        obtain ⟨front, back, shape, blamed, records⟩ := ih (s.insert k d)
        refine ⟨(key, item) :: front, back, congrArg (_ :: ·) shape, blamed, ?_⟩
        rw [ignoredKeys_cons, read]
        exact records

/-! ### Documents -/

theorem isSome_field?_object {members : List (String × Json)} {key : String} :
    ((Json.object members).field? key).isSome ↔
      ∃ item, (key, item) ∈ (Json.fields members).toList := by
  rw [Json.field?, Option.isSome_iff_exists]
  simp only [Dict.mem_toList_iff]

theorem ascending_ignoredKeys {entries : List (String × Json)} (sorted : Ascending entries) :
    (ignoredKeys entries).Pairwise fun a b => Text.bytes a < Text.bytes b := by
  rw [ignoredKeys, List.pairwise_map]
  exact (List.Pairwise.filter _ sorted).imp fun less => (Text.compare_eq_lt_iff _ _).mp less

/-- In front of an entry stand those with keys that are less. -/
theorem mem_front_iff {front back : List (String × Json)} {x : String × Json}
    (sorted : Ascending (front ++ back)) :
    x ∈ front ↔ x ∈ front ++ back ∧
      ∀ stop, back.head?.map Prod.fst = some stop → Text.bytes x.1 < Text.bytes stop := by
  obtain ⟨-, behind, across⟩ := List.pairwise_append.mp sorted
  constructor
  · intro member
    refine ⟨List.mem_append_left _ member, fun stop first => ?_⟩
    obtain ⟨entry, head, rfl⟩ := Option.map_eq_some_iff.mp first
    exact (Text.compare_eq_lt_iff _ _).mp (across x member entry (List.mem_of_head? head))
  · rintro ⟨member, less⟩
    refine (List.mem_append.mp member).resolve_right fun later => ?_
    cases back with
    | nil => cases later
    | cons entry rest =>
      have before := less entry.1 rfl
      -- What stands behind the entry has a greater key.
      rcases List.mem_cons.mp later with rfl | later
      · exact List.lt_irrefl _ before
      · have greater := (Text.compare_eq_lt_iff _ _).mp ((List.pairwise_cons.mp behind).1 x later)
        exact List.lt_asymm greater before

theorem passedOver_front {members front back : List (String × Json)}
    (shape : (Json.fields members).toList = front ++ back) :
    PassedOver (.object members) (back.head?.map Prod.fst) (ignoredKeys front) := by
  have sorted : Ascending (front ++ back) := shape ▸ (Json.fields members).ascending
  refine ⟨ascending_ignoredKeys (List.pairwise_append.mp sorted).1, fun key => ?_⟩
  rw [mem_ignoredKeys_iff, isSome_field?_object, shape]
  simp only [mem_front_iff sorted, exists_and_right]
  tauto

theorem passedOver_nil {document : Json} (scalar : ∀ key, document.field? key = none)
    (bound : Option String) : PassedOver document bound [] where
  ascending := .nil
  listed key := by simp [scalar]

theorem PassedOver.unique {document : Json} {bound : Option String} {xs ys : List String}
    (left : PassedOver document bound xs) (right : PassedOver document bound ys) : xs = ys := by
  have asymm : Std.Asymm fun a b : String => Text.bytes a < Text.bytes b :=
    ⟨fun _ _ => List.lt_asymm⟩
  -- An ascending list is fixed by its members.
  exact left.ascending.eq_of_mem_iff right.ascending fun key =>
    (left.listed key).trans (right.listed key).symm

/-! ### Sources -/

theorem exists_scan_ofJson (r : Registry) (document : Json) :
    ∃ keys, PassedOver document (blamedKey? (ofJson r document).value) keys ∧
      (ofJson r document).records =
        keys.map fun key => { event := .keyIgnored key false } := by
  cases document with
  | object members =>
    obtain ⟨front, back, shape, blamed, records⟩ :=
      exists_front r empty (Json.fields members).toList
    exact ⟨_, blamed ▸ passedOver_front shape, records⟩
  -- Other documents have no members to pass over.
  | _ => exact ⟨[], passedOver_nil (fun _ => rfl) _, rfl⟩

theorem exists_scan_normalize (source : Source) :
    ∃ ignored, source.Scan source.normalize.value ignored ∧
      source.normalize.records = ignored.map fun event => { event } := by
  cases source with
  | spec s => exact ⟨_, .spec s, rfl⟩
  | positional ds => exact ⟨_, .positional ds, rfl⟩
  | keyed entries =>
    refine ⟨_, .keyed entries, ?_⟩
    rw [Source.normalize, Logged.records_map, keyed, records_insertKeyed, List.map_map]
    rfl
  | json document r =>
    obtain ⟨keys, passed, records⟩ := exists_scan_ofJson r document
    refine ⟨_, .json (normalizes_ofJson r document) passed, ?_⟩
    rw [Source.normalize, records, List.map_map]
    rfl

theorem Source.Scan.unique {source : Source} {left right : Except Error Spec}
    {before after : List Event} (one : source.Scan left before) (other : source.Scan right after) :
    left = right ∧ before = after := by
  cases one with
  | json normal passed =>
    cases other with
    | json again alsoPassed =>
      have same := (value_ofJson_of_normalizes normal).symm.trans (value_ofJson_of_normalizes again)
      subst same
      rw [passed.unique alsoPassed]
      exact ⟨rfl, rfl⟩
  | _ =>
    cases other
    exact ⟨rfl, rfl⟩

/-- Keys that are distinct are reported once each; those of a document always are. -/
theorem Source.Scan.nodup {source : Source} {result : Except Error Spec} {ignored : List Event}
    (scan : source.Scan result ignored)
    (distinct : ∀ entries, source = .keyed entries → (entries.map Prod.fst).Nodup) :
    ignored.Nodup := by
  have injective (quoted : Bool) : Function.Injective fun key => Event.keyIgnored key quoted := by
    rintro _ _ ⟨⟩
    rfl
  cases scan with
  | spec | positional => exact .nil
  | keyed entries => exact (nodup_ignoredKeys (distinct entries rfl)).map (injective true)
  | json _ passed =>
    have apart := passed.ascending.imp fun {a b} less (same : a = b) =>
      List.lt_irrefl _ (same ▸ less)
    exact List.Nodup.map (injective false) apart

end Spec

namespace Guard

variable {F : Type}

/-- The record that closes the log of a build. -/
def closing (config : Config) : Except Spec.Error Spec → Event
  | .ok spec => .guardBuilt spec.entryCount spec.hasFallback config
  | .error e => .buildFailed e

/-! ### The build -/

theorem records_build (source : Spec.Source) (target : F) (config : Config) :
    (build source target config).records =
      (source.normalize.records.map fun r => { r with inBuild := true }) ++
        [⟨closing config source.normalize.value, true⟩] := by
  simp only [build, Logged.withinBuild, Logged.records_bind, List.map_append]
  cases source.normalize.value <;> rfl

/-- Counters are moved by runs, and a build runs nothing: it adds the counter of the new guard. -/
theorem counters_step_build {C R : Type} (w : Workshop C R) (source : Spec.Source)
    (target : Callable C R) (config : Config) :
    (w.step (.build (.source source) target config)).2.counters =
      w.counters ++ match source.normalize.value with
        | .ok _ => [0]
        | .error _ => [] := by
  simp only [Workshop.step, Workshop.Supply.source?, Workshop.build, Logged.value_bind, value_build]
  cases source.normalize.value with
  | ok spec => rfl
  | error e => exact (List.append_nil _).symm

/-! ### Main result -/

/-- A source comes to one result with one list of reports, which its scan fixes. Whatever the target
and the configuration, a build returns the guard with the specification that results, or the error;
it logs the reports of the scan in order and then one record of the outcome, all within the build.
Only documents are refused, and keys that are distinct are reported once each. The target does not
run: callables that count their runs have counted none. -/
theorem build_reports_outcome (source : Spec.Source) :
    ∃ result ignored,
      (∀ other events, source.Scan other events ↔ other = result ∧ events = ignored) ∧
      (∀ e, result = .error e → ∃ document registry, source = .json document registry) ∧
      ((∀ entries, source = .keyed entries → (entries.map Prod.fst).Nodup) → ignored.Nodup) ∧
      (∀ (F : Type) (target : F) (config : Config),
        build source target config =
          ⟨result.map fun spec => ({ spec, config, target } : Guard F),
            (ignored ++ [closing config result]).map fun event => (⟨event, true⟩ : Record)⟩) ∧
      (∀ (C R : Type) (w : Workshop C R) (target : Callable C R) (config : Config),
        (w.step (.build (.source source) target config)).2.counters =
          w.counters ++ match result with
            | .ok _ => [0]
            | .error _ => []) ∧
      (∀ key quoted, Record.publication { event := .keyIgnored key quoted, inBuild := true } =
        ⟨.trace, some "build_with_config", some "ignoring non-argument key",
          [("key", if quoted then .quotedText key else .text key)]⟩) ∧
      (∀ (spec : Spec) (config : Config),
        Record.publication { event := closing config (.ok spec), inBuild := true } =
          ⟨.debug, some "build_with_config", some "guard built",
            [("positional", .number spec.entryCount), ("has_default", .boolean spec.hasFallback),
              ("enabled", .boolean config.enabled), ("fail_mode", .text config.failMode.name)]⟩) ∧
      ∀ (e : Spec.Error) (config : Config),
        Record.publication { event := closing config (.error e), inBuild := true } =
          ⟨.error, some "build_with_config", none, [("error", .text e.message)]⟩ := by
  obtain ⟨ignored, scan, records⟩ := Spec.exists_scan_normalize source
  refine ⟨source.normalize.value, ignored, ?_, ?_, ?_, ?_, ?_, fun _ _ => rfl, fun _ _ => rfl,
    fun _ _ => rfl⟩
  · intro other events
    constructor
    · intro another
      exact another.unique scan
    · rintro ⟨rfl, rfl⟩
      exact scan
  · intro e failed
    rw [failed] at scan
    cases scan with
    | json => exact ⟨_, _, rfl⟩
  · intro distinct
    exact scan.nodup distinct
  · intro F target config
    ext1
    · exact value_build source target config
    · rw [records_build, records, List.map_append, List.map_map]
      rfl
  · intro C R w target config
    exact counters_step_build w source target config

/-- An enabled and a disabled build stop at the same entry. The key behind it is ignored as well,
but it is not reported. -/
theorem build_reports_outcome_up_to_refusal :
    let members := [("a", .null), ("1", .null), ("0", .string "Number"), ("-1", .null)]
    let source := Spec.Source.json (.object members) .standard
    let e := Spec.Error.invalidDescriptor "1" "null"
    let ignored := [Event.keyIgnored "-1" false]
    source.Scan (.error e) ignored ∧ ignored.Nodup ∧
    build source () {} =
      ⟨.error e, [⟨.keyIgnored "-1" false, true⟩, ⟨.buildFailed e, true⟩]⟩ ∧
    build source () { enabled := false, failMode := .logOnly } =
      ⟨.error e, [⟨.keyIgnored "-1" false, true⟩, ⟨.buildFailed e, true⟩]⟩ := by
  intro members source e ignored
  have refused : (Spec.ofJson .standard (.object members)).value = .error e := rfl
  have shape : (Json.fields members).toList =
      [("-1", .null), ("0", .string "Number")] ++ ("1", .null) :: [("a", .null)] := rfl
  have scanned : source.Scan (.error e) ignored :=
    .json (refused ▸ Spec.normalizes_ofJson _ _) (Spec.passedOver_front shape)
  obtain ⟨result, events, scan, -, distinct, built, -⟩ := build_reports_outcome source
  obtain ⟨rfl, rfl⟩ := (scan _ _).mp scanned
  exact ⟨scanned, distinct nofun, built Unit () _, built Unit () _⟩

end Guard

end CallGuard
