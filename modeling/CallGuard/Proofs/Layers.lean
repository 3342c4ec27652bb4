import CallGuard.Config.Resolution
import CallGuard.Config.SettingsFile
import CallGuard.Proofs.Slots

/-!
# Layers of a configuration

A build reads the environment layer, if it is consulted, and then the overrides. Main statement: the
first malformed binding in this order rejects the build; if there is none, each field comes from the
highest layer that binds its variable, or else from the base. All this holds with any reader of
settings files.
-/
namespace CallGuard

/-! ### The environment layer -/

namespace Environment

theorem lookup?_setIfUnset (e : Environment) (key value other : String) :
    (e.setIfUnset key value).lookup? other =
      (e.lookup? other).or (if other = key then some value else none) := by
  unfold setIfUnset
  split
  next set =>
    by_cases same : other = key
    · obtain ⟨text, found⟩ := Option.isSome_iff_exists.mp set
      rw [same, found, Option.some_or]
    · rw [if_neg same, Option.or_none]
  next unset =>
    by_cases same : other = key
    · have absent : e.lookup? key = none := by simpa using unset
      rw [same, absent, if_pos rfl, Option.none_or, lookup?, Dict.get?_insert_self]
      rfl
    · rw [if_neg same, Option.or_none, lookup?, Dict.get?_insert_of_ne _ _ same, lookup?]

theorem lookup?_load (e : Environment) (assignments : List (String × String)) (key : String) :
    (e.load assignments).lookup? key = (e.lookup? key).or (assignments.lookup key) := by
  induction assignments generalizing e with
  | nil => simp [load]
  | cons a rest ih =>
    -- An assignment is taken over only where nothing is set, so the first one of a key counts.
    have step : e.load (a :: rest) = (e.setIfUnset a.1 a.2).load rest := rfl
    rw [step, ih, lookup?_setIfUnset, Option.or_assoc, List.lookup_cons]
    by_cases same : key = a.1
    · simp [same]
    · rw [if_neg same, Option.none_or, beq_false_of_ne same]

end Environment

/-- In any environment the same variables go without an assignment. -/
theorem SettingsReader.lookup_assignments_eq_none_iff {Files : Type} (reader : SettingsReader Files)
    (e other : Environment) (files : Files) (key : String) :
    (reader.assignments e files).lookup key = none ↔
      (reader.assignments other files).lookup key = none := by
  have assigned (e : Environment) : (reader.assignments e files).lookup key = none ↔
      key ∉ (reader.assignments e files).map Prod.fst := by
    simp only [List.lookup_eq_none_iff, List.mem_map, not_exists, not_and, bne_iff_ne, ne_eq,
      @eq_comm _ key]
  rw [assigned, assigned, reader.keys_eq e other]

namespace Config

variable {Files : Type} (reader : SettingsReader Files)

namespace Surroundings

/-- The text of the process, or else that of the first assignment in the settings files. -/
def text? (s : Surroundings Files) (key : String) : Option String :=
  (s.environment.lookup? key).or ((reader.assignments s.environment s.files).lookup key)

/-- What a build leaves behind: the assignments stay in the environment of the process. -/
def afterLoad (s : Surroundings Files) : Surroundings Files :=
  { s with environment := s.loaded reader }

theorem lookup?_loaded (s : Surroundings Files) (key : String) :
    (s.loaded reader).lookup? key = s.text? reader key :=
  s.environment.lookup?_load _ key

/-- Loading the files once more changes nothing, even where values refer to variables that have
been set in the meantime. -/
theorem text?_afterLoad (s : Surroundings Files) (key : String) :
    (s.afterLoad reader).text? reader key = s.text? reader key := by
  have loaded : (s.afterLoad reader).environment.lookup? key = s.text? reader key :=
    s.lookup?_loaded reader key
  rw [text?, loaded]
  cases found : s.text? reader key with
  | some text => rfl
  | none =>
    obtain ⟨-, unassigned⟩ := Option.or_eq_none_iff.mp found
    rw [Option.none_or]
    exact (reader.lookup_assignments_eq_none_iff _ _ s.files key).mp unassigned

end Surroundings

/-- The environment as a layer, which binds nothing unless it is consulted. -/
def environmentLayer (surroundings : Option (Surroundings Files)) : Layer :=
  fun key => surroundings.bind fun s => s.text? reader key

/-- What the process sets itself counts, whatever the files hold. -/
theorem environmentLayer_of_set {e : Environment} {key raw : String}
    (own : e.lookup? key = some raw) (files : Files) :
    environmentLayer reader (some ⟨e, files⟩) key = some raw := by
  rw [environmentLayer, Option.bind_some, Surroundings.text?, own, Option.some_or]

theorem environmentLayer_afterLoad (surroundings : Option (Surroundings Files)) :
    environmentLayer reader (surroundings.map (Surroundings.afterLoad reader)) =
      environmentLayer reader surroundings := by
  funext key
  cases surroundings with
  | none => rfl
  | some s => exact s.text?_afterLoad reader key

/-! ### Overrides -/

/-- Overrides as a layer: the last one of a variable counts. -/
def overrideLayer (vars : List (String × String)) : Layer := fun key => lastUnder? key vars

/-- The request for a build, with overrides in the order in which they are made. -/
def Request.of (base : Config) (surroundings : Option (Surroundings Files))
    (vars : List (String × String)) : Request Files :=
  let request : Request Files := { base }
  vars.foldl (fun r v => r.withVariable v.1 v.2) (surroundings.elim request request.withEnvironment)

theorem foldl_withVariable (r : Request Files) (vars : List (String × String)) :
    vars.foldl (fun r v => r.withVariable v.1 v.2) r =
      { r with overrides := vars.foldl (fun d v => d.insert v.1 v.2) r.overrides } := by
  induction vars generalizing r with
  | nil => rfl
  | cons v rest ih => exact ih (r.withVariable v.1 v.2)

theorem request_of_eq (base : Config) (surroundings : Option (Surroundings Files))
    (vars : List (String × String)) :
    Request.of base surroundings vars =
      { base, surroundings, overrides := vars.foldl (fun d v => d.insert v.1 v.2) .empty } := by
  rw [Request.of, foldl_withVariable]
  cases surroundings <;> rfl

theorem get?_overrides (vars : List (String × String)) :
    (vars.foldl (fun d v => d.insert v.1 v.2) Dict.empty).get? = overrideLayer vars := by
  funext key
  rw [Dict.get?_foldl_insert, Dict.get?_empty, Option.or_none]
  rfl

/-! ### Bindings -/

/-- The text is none that the variable takes. -/
def Error.arisesFrom : Error → String → Bool
  | badEnabled, raw => (parseEnabled? raw).isNone
  | badFailMode, raw => (FailMode.parse? raw).isNone

/-- The bindings that are read in a layer, in order, each with the error that it raises if it is
malformed. -/
def Layer.bindings (layer : Layer) : List (Error × String) :=
  [Error.badEnabled, Error.badFailMode].filterMap fun e => (layer e.key).map (e, ·)

/-- The error of the first malformed binding. -/
def fault? (bindings : List (Error × String)) : Option Error :=
  (bindings.find? fun b => b.1.arisesFrom b.2).map Prod.fst

theorem fault?_append (xs ys : List (Error × String)) :
    fault? (xs ++ ys) = (fault? xs).or (fault? ys) := by
  rw [fault?, List.find?_append, Option.map_or]
  rfl

theorem fault?_append_eq_none_iff (xs ys : List (Error × String)) :
    fault? (xs ++ ys) = none ↔ fault? xs = none ∧ fault? ys = none := by
  rw [fault?_append, Option.or_eq_none_iff]

theorem fault?_eq_none_iff (bindings : List (Error × String)) :
    fault? bindings = none ↔ ∀ b ∈ bindings, b.1.arisesFrom b.2 = false := by
  simp [fault?]

def barring (c : Config) (fault : Option Error) : Except Error Config :=
  match fault with
  | none => .ok c
  | some e => .error e

@[simp] theorem barring_none (c : Config) : c.barring none = .ok c := rfl

@[simp] theorem barring_some (c : Config) (e : Error) : c.barring (some e) = .error e := rfl

theorem barring_eq_ok_iff {c d : Config} {fault : Option Error} :
    c.barring fault = .ok d ↔ fault = none ∧ c = d := by
  cases fault <;> simp

theorem barring_eq_error_iff {c : Config} {fault : Option Error} {e : Error} :
    c.barring fault = .error e ↔ fault = some e := by
  cases fault <;> simp

theorem barring_inj (c : Config) (fault other : Option Error) :
    c.barring fault = c.barring other ↔ fault = other := by
  cases fault <;> cases other <;> simp

/-! ### One layer -/

/-- The fields that a layer binds are replaced by what it binds them to. -/
def overlaid (c : Config) (layer : Layer) : Config where
  enabled := ((layer enabledVariable).bind parseEnabled?).getD c.enabled
  failMode := ((layer failModeVariable).bind FailMode.parse?).getD c.failMode

/-- The first malformed binding rejects a layer; else all that it binds is taken over. -/
theorem apply_eq (c : Config) (layer : Layer) :
    c.apply layer = (c.overlaid layer).barring (fault? layer.bindings) := by
  unfold apply fault? Layer.bindings overlaid
  simp only [List.filterMap_cons, List.filterMap_nil, Error.key]
  cases layer enabledVariable with
  | none =>
    cases layer failModeVariable with
    | none => rfl
    | some raw => cases parsed : FailMode.parse? raw <;> simp [Error.arisesFrom, parsed] <;> rfl
  | some raw =>
    cases enabled : parseEnabled? raw with
    -- The second variable is not read once the first one is malformed.
    | none => simp [Error.arisesFrom, enabled]; rfl
    | some _ =>
      cases layer failModeVariable with
      | none => simp [Error.arisesFrom, enabled]; rfl
      | some raw =>
        cases parsed : FailMode.parse? raw <;> simp [Error.arisesFrom, enabled, parsed] <;> rfl

theorem not_arisesFrom_of_no_fault {layer : Layer} (sound : fault? layer.bindings = none)
    (e : Error) {raw : String} (bound : layer e.key = some raw) : e.arisesFrom raw = false := by
  have member : (e, raw) ∈ layer.bindings :=
    List.mem_filterMap.mpr ⟨e, by cases e <;> simp, by rw [bound, Option.map_some]⟩
  exact (fault?_eq_none_iff _).mp sound _ member

theorem exists_parse_of_no_fault {layer : Layer} (sound : fault? layer.bindings = none) :
    (∀ raw, layer enabledVariable = some raw → ∃ enabled, parseEnabled? raw = some enabled) ∧
    (∀ raw, layer failModeVariable = some raw → ∃ mode, FailMode.parse? raw = some mode) := by
  constructor
  · intro raw bound
    have taken := not_arisesFrom_of_no_fault sound .badEnabled bound
    exact Option.isSome_iff_exists.mp (Option.isNone_eq_false_iff.mp taken)
  · intro raw bound
    have taken := not_arisesFrom_of_no_fault sound .badFailMode bound
    exact Option.isSome_iff_exists.mp (Option.isNone_eq_false_iff.mp taken)

theorem apply_congr (c : Config) {layer other : Layer}
    (agree : ∀ e : Error, layer e.key = other e.key) : c.apply layer = c.apply other := by
  have enabled : layer enabledVariable = other enabledVariable := agree .badEnabled
  have failMode : layer failModeVariable = other failModeVariable := agree .badFailMode
  unfold apply
  rw [enabled, failMode]

/-! ### All layers -/

theorem settle_of (base : Config) (surroundings : Option (Surroundings Files))
    (vars : List (String × String)) :
    (Request.of base surroundings vars).settle reader =
      (base.apply (environmentLayer reader surroundings)).bind (·.apply (overrideLayer vars)) := by
  rw [request_of_eq, Request.settle, get?_overrides]
  cases surroundings with
  | none => rfl
  | some s =>
    have layer : (s.loaded reader).lookup? = environmentLayer reader (some s) :=
      funext fun key => s.lookup?_loaded reader key
    simp only [layer]
    rfl

/-- The first malformed binding in the order of reading rejects the build. -/
theorem settle_of_eq (base : Config) (surroundings : Option (Surroundings Files))
    (vars : List (String × String)) :
    (Request.of base surroundings vars).settle reader =
      ((base.overlaid (environmentLayer reader surroundings)).overlaid
        (overrideLayer vars)).barring
        (fault? ((environmentLayer reader surroundings).bindings ++
          (overrideLayer vars).bindings)) := by
  rw [settle_of, apply_eq, fault?_append]
  cases fault? (environmentLayer reader surroundings).bindings with
  -- A fault of the environment is final: the overrides are not looked at.
  | some e => rfl
  | none =>
    rw [Option.none_or]
    exact apply_eq _ _

/-- Where a field comes from: the override if there is one, else the environment layer if it binds
the variable, else the base. -/
def field? {α : Type} (parse? : String → Option α) (override environment : Option String)
    (base : α) : Option α :=
  match override, environment with
  | some raw, _ => parse? raw
  | none, some raw => parse? raw
  | none, none => some base

theorem field?_eq {α : Type} {parse? : String → Option α} {override environment : Option String}
    (base : α) (high : ∀ raw, override = some raw → ∃ a, parse? raw = some a)
    (low : ∀ raw, environment = some raw → ∃ a, parse? raw = some a) :
    field? parse? override environment base =
      some ((override.bind parse?).getD ((environment.bind parse?).getD base)) := by
  cases override with
  | some raw =>
    obtain ⟨a, parsed⟩ := high raw rfl
    simp [field?, parsed]
  | none =>
    cases environment with
    | some raw =>
      obtain ⟨a, parsed⟩ := low raw rfl
      simp [field?, parsed]
    | none => rfl

/-- Without a fault, both fields of the settled configuration come from where they should. -/
theorem fields_overlaid {low high : Layer} (sound : fault? (low.bindings ++ high.bindings) = none)
    (base : Config) :
    let settled := (base.overlaid low).overlaid high
    field? parseEnabled? (high enabledVariable) (low enabledVariable) base.enabled =
      some settled.enabled ∧
    field? FailMode.parse? (high failModeVariable) (low failModeVariable) base.failMode =
      some settled.failMode := by
  -- Neither layer has a fault, so all texts that they hold have values.
  obtain ⟨lowSound, highSound⟩ := (fault?_append_eq_none_iff _ _).mp sound
  obtain ⟨lowEnabled, lowFailMode⟩ := exists_parse_of_no_fault lowSound
  obtain ⟨highEnabled, highFailMode⟩ := exists_parse_of_no_fault highSound
  exact ⟨field?_eq base.enabled highEnabled lowEnabled,
    field?_eq base.failMode highFailMode lowFailMode⟩

theorem overlaid_again (c : Config) (low high : Layer) :
    let settled := (c.overlaid low).overlaid high
    (settled.overlaid low).overlaid high = settled := by
  simp only [overlaid]
  cases (high enabledVariable).bind parseEnabled? <;>
    cases (low enabledVariable).bind parseEnabled? <;>
    cases (high failModeVariable).bind FailMode.parse? <;>
    cases (low failModeVariable).bind FailMode.parse? <;> rfl

theorem value_resolve (r : Request Files) : (r.resolve reader).value = r.settle reader := by
  unfold Request.resolve
  cases r.settle reader <;> rfl

theorem records_resolve (r : Request Files) :
    (r.resolve reader).records =
      match r.settle reader with
      | .ok c => [{ event := .configResolved c }]
      | .error _ => [] := by
  unfold Request.resolve
  cases r.settle reader <;> rfl

theorem resolve_congr {r other : Request Files} (same : r.settle reader = other.settle reader) :
    r.resolve reader = other.resolve reader := by
  unfold Request.resolve
  rw [same]

/-- Without a base and overrides, the environment layer decides over the compiled defaults. -/
theorem value_fromEnvironment (s : Surroundings Files) :
    (fromEnvironment s reader).value =
      (({} : Config).overlaid (environmentLayer reader (some s))).barring
        (fault? (environmentLayer reader (some s)).bindings) := by
  have alone : fromEnvironment s reader = (Request.of {} (some s) []).resolve reader := rfl
  have unbound : (overrideLayer []).bindings = [] := rfl
  rw [alone, value_resolve, settle_of_eq, unbound, List.append_nil]
  rfl

/-! ### Resolution -/

/-- A build succeeds exactly if every binding that it reads is well-formed. Then each field comes
from the highest layer that binds its variable, and a second build from the result changes nothing;
otherwise the first malformed binding is the error. Success is reported once, failure is not. -/
theorem resolve_by_layers (base : Config) (surroundings : Option (Surroundings Files))
    (vars : List (String × String)) :
    let low := environmentLayer reader surroundings
    let high := overrideLayer vars
    let bindings := low.bindings ++ high.bindings
    let outcome := (Request.of base surroundings vars).resolve reader
    ((∃ c, outcome.value = .ok c) ↔ ∀ b ∈ bindings, b.1.arisesFrom b.2 = false) ∧
    (∀ c, outcome.value = .ok c →
      field? parseEnabled? (high enabledVariable) (low enabledVariable) base.enabled =
        some c.enabled ∧
      field? FailMode.parse? (high failModeVariable) (low failModeVariable) base.failMode =
        some c.failMode ∧
      (Request.of c surroundings vars).resolve reader = outcome ∧
      (Request.of c (surroundings.map (Surroundings.afterLoad reader)) vars).resolve reader =
        outcome) ∧
    (∀ e, outcome.value = .error e ↔ fault? bindings = some e) ∧
    outcome.records =
      (match outcome.value with
        | .ok c => [{ event := .configResolved c }]
        | .error _ => []) ∧
    (∀ surroundings' vars',
      (∀ e : Error, environmentLayer reader surroundings' e.key = low e.key ∧
        overrideLayer vars' e.key = high e.key) →
      (Request.of base surroundings' vars').resolve reader = outcome) := by
  intro low high bindings outcome
  have value : outcome.value = ((base.overlaid low).overlaid high).barring (fault? bindings) := by
    rw [value_resolve, settle_of_eq]
  have records := records_resolve reader (Request.of base surroundings vars)
  rw [← value_resolve] at records
  refine ⟨?_, ?_, ?_, records, ?_⟩
  · simp only [value, ← fault?_eq_none_iff, barring_eq_ok_iff, exists_and_left, exists_eq',
      and_true]
  · intro c succeeded
    obtain ⟨sound, rfl⟩ := barring_eq_ok_iff.mp (value.symm.trans succeeded)
    obtain ⟨enabled, failMode⟩ := fields_overlaid sound base
    have again : (Request.of ((base.overlaid low).overlaid high) surroundings vars).resolve reader =
        outcome := by
      apply resolve_congr
      rw [settle_of_eq, settle_of_eq, overlaid_again]
    refine ⟨enabled, failMode, again, ?_⟩
    -- The files change nothing where they have been loaded before.
    rw [← again]
    apply resolve_congr
    rw [settle_of, settle_of, environmentLayer_afterLoad]
  · intro e
    rw [value, barring_eq_error_iff]
  · intro surroundings' vars' agree
    apply resolve_congr
    rw [settle_of, settle_of, apply_congr base fun e => (agree e).1]
    congr 1
    funext c
    exact apply_congr c fun e => (agree e).2

/-- The last override counts, the file stands in for bytes that are no text, and other keys are
passed over. -/
theorem resolve_by_layers_undecodable :
    (Request.of {}
        (some {
          environment := ⟨Dict.ofList [("ARGGUARD_FAIL_MODE", .undecodable)]⟩
          files := ["ARGGUARD_FAIL_MODE=log_only\n"] })
        [("ARGGUARD_ENABLED", "maybe"), ("OTHER", "1"), ("ARGGUARD_ENABLED", "false")]).resolve
      SettingsFile.reader =
      { value := .ok { enabled := false, failMode := .logOnly }
        records := [{ event := .configResolved { enabled := false, failMode := .logOnly } }] } := by
  obtain ⟨succeeds, fields, -, records, -⟩ := resolve_by_layers SettingsFile.reader {}
    (some {
      environment := ⟨Dict.ofList [("ARGGUARD_FAIL_MODE", .undecodable)]⟩
      files := ["ARGGUARD_FAIL_MODE=log_only\n"] })
    [("ARGGUARD_ENABLED", "maybe"), ("OTHER", "1"), ("ARGGUARD_ENABLED", "false")]
  obtain ⟨c, succeeded⟩ := succeeds.mpr (by decide +kernel)
  obtain ⟨enabled, failMode, -, -⟩ := fields c succeeded
  have settled : c = { enabled := false, failMode := .logOnly } := by
    have fromOverride : c.enabled = false :=
      Option.some.inj (enabled.symm.trans (by decide +kernel))
    have fromFile : c.failMode = .logOnly :=
      Option.some.inj (failMode.symm.trans (by decide +kernel))
    cases c
    cases fromOverride
    cases fromFile
    rfl
  rw [succeeded, settled] at records
  exact Logged.ext (settled ▸ succeeded) records

/-! ### Overridden variables -/

theorem overlaid_of_overridden {high : Layer} (overridden : ∀ e : Error, (high e.key).isSome)
    (sound : fault? high.bindings = none) (c d : Config) : c.overlaid high = d.overlaid high := by
  obtain ⟨enabledParses, failModeParses⟩ := exists_parse_of_no_fault sound
  obtain ⟨rawEnabled, enabled⟩ := Option.isSome_iff_exists.mp (overridden .badEnabled)
  obtain ⟨rawFailMode, failMode⟩ := Option.isSome_iff_exists.mp (overridden .badFailMode)
  obtain ⟨_, parsedEnabled⟩ := enabledParses rawEnabled enabled
  obtain ⟨_, parsedFailMode⟩ := failModeParses rawFailMode failMode
  simp only [Error.key] at enabled failMode
  simp [overlaid, enabled, failMode, parsedEnabled, parsedFailMode]

theorem settle_of_overridden (base : Config) (surroundings : Option (Surroundings Files))
    {vars : List (String × String)}
    (overridden : ∀ e : Error, (overrideLayer vars e.key).isSome) :
    (Request.of base surroundings vars).settle reader =
      (base.overlaid (overrideLayer vars)).barring
        (fault? ((environmentLayer reader surroundings).bindings ++
          (overrideLayer vars).bindings)) := by
  rw [settle_of_eq]
  cases fault : fault? ((environmentLayer reader surroundings).bindings ++
      (overrideLayer vars).bindings) with
  | some e => rfl
  | none =>
    -- Nothing below the overrides shows through, so the environment was read in vain.
    have high := ((fault?_append_eq_none_iff _ _).mp fault).2
    rw [overlaid_of_overridden overridden high _ base]

/-- Two builds that override both variables end alike exactly if they read the same malformed
binding first, or none. So overrides shield from an environment whose bindings are well-formed. -/
theorem resolve_eq_iff_fault_eq (base : Config) (vars : List (String × String))
    (overridden : ∀ e : Error, (overrideLayer vars e.key).isSome) (s t : Surroundings Files) :
    ((Request.of base (some s) vars).resolve reader =
        (Request.of base (some t) vars).resolve reader ↔
      fault? ((environmentLayer reader (some s)).bindings ++ (overrideLayer vars).bindings) =
        fault? ((environmentLayer reader (some t)).bindings ++ (overrideLayer vars).bindings)) ∧
    ((∀ b ∈ (environmentLayer reader (some s)).bindings, b.1.arisesFrom b.2 = false) →
      (Request.of base (some s) vars).resolve reader =
        (Request.of base none vars).resolve reader) := by
  have settled (surroundings : Option (Surroundings Files)) :=
    settle_of_overridden reader base surroundings overridden
  refine ⟨⟨fun same => ?_, fun same => ?_⟩, fun sound => ?_⟩
  · have values := congrArg Logged.value same
    rw [value_resolve, value_resolve, settled, settled] at values
    exact (barring_inj _ _ _).mp values
  · apply resolve_congr
    rw [settled, settled, same]
  · -- Without an environment there is nothing to read below the overrides.
    have unread : fault? (environmentLayer reader none).bindings = none := rfl
    apply resolve_congr
    rw [settled, settled, fault?_append, fault?_append, (fault?_eq_none_iff _).mpr sound, unread]

/-- Overrides of both variables shield from environments that set them otherwise. -/
theorem resolve_under_overrides :
    let disabled : Surroundings (List String) :=
      { environment := ⟨Dict.ofList [("ARGGUARD_ENABLED", .text "false")]⟩, files := [] }
    let logging : Surroundings (List String) := { files := ["ARGGUARD_FAIL_MODE=log_only"] }
    let vars := [("ARGGUARD_ENABLED", "true"), ("ARGGUARD_FAIL_MODE", "closed")]
    let resolve surroundings := (Request.of {} surroundings vars).resolve SettingsFile.reader
    (∀ e : Error, (overrideLayer vars e.key).isSome) ∧
    resolve (some disabled) = resolve (some logging) ∧ resolve (some disabled) = resolve none := by
  intro disabled logging vars resolve
  have overridden : ∀ e : Error, (overrideLayer vars e.key).isSome := by
    intro e
    cases e <;> rfl
  have shielded :=
    resolve_eq_iff_fault_eq SettingsFile.reader {} vars overridden disabled logging
  exact ⟨overridden, shielded.1.mpr (by decide +kernel), shielded.2 (by decide +kernel)⟩

/-- Whatever reads the settings files, a malformed binding in the environment is an error even under
overrides of both variables. -/
theorem not_shielded_from_malformed :
    ¬ ∃ (Files : Type) (reader : SettingsReader Files), Nonempty Files ∧
      ∀ (base : Config) (vars : List (String × String)) (s t : Surroundings Files),
        (∀ e : Error, (overrideLayer vars e.key).isSome) →
          ((Request.of base (some s) vars).resolve reader).value =
            ((Request.of base (some t) vars).resolve reader).value := by
  rintro ⟨Files, reader, ⟨files⟩, shielded⟩
  let malformed : Environment := ⟨Dict.ofList [("ARGGUARD_ENABLED", .text "maybe")]⟩
  let sound : Environment :=
    ⟨Dict.ofList [("ARGGUARD_ENABLED", .text "true"), ("ARGGUARD_FAIL_MODE", .text "closed")]⟩
  have bad : environmentLayer reader (some ⟨malformed, files⟩) enabledVariable = some "maybe" :=
    environmentLayer_of_set reader (by decide +kernel) files
  have enabled : environmentLayer reader (some ⟨sound, files⟩) enabledVariable = some "true" :=
    environmentLayer_of_set reader (by decide +kernel) files
  have failMode : environmentLayer reader (some ⟨sound, files⟩) failModeVariable = some "closed" :=
    environmentLayer_of_set reader (by decide +kernel) files
  have rejected : apply {} (environmentLayer reader (some ⟨malformed, files⟩)) =
      .error .badEnabled := by
    rw [apply, bad]
    rfl
  have accepted : apply {} (environmentLayer reader (some ⟨sound, files⟩)) = .ok {} := by
    have yes : parseEnabled? "true" = some true := by decide
    have closed : FailMode.parse? "closed" = some .closed := by decide +kernel
    simp only [apply, enabled, failMode, yes, closed]
    rfl
  have same := shielded {} [("ARGGUARD_ENABLED", "true"), ("ARGGUARD_FAIL_MODE", "closed")]
    ⟨malformed, files⟩ ⟨sound, files⟩ (by intro e; cases e <;> rfl)
  rw [value_resolve, value_resolve, settle_of, settle_of, rejected, accepted] at same
  -- Configurations can be compared, results of builds cannot.
  exact absurd (congrArg Except.toOption same) (by decide +kernel)

end Config

end CallGuard
