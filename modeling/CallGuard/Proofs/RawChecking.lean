import CallGuard.Json.Nearest
import CallGuard.Proofs.FirstMismatch
import CallGuard.Proofs.GuardOutcomes
import CallGuard.Proofs.Normalization
import CallGuard.Proofs.Registrations
import CallGuard.Value.Conversion
import Mathlib.Algebra.Group.Nat.Defs

/-!
# Checking by raw documents

A reference checker that knows no specifications, descriptors or values: it looks up the name that
a document declares for a position and compares it with the kind of the argument, a document too.
A guard built from the document over the standard registry agrees with it.
-/
namespace CallGuard.Reference

/-- The names that a document may declare. -/
def typeNames : List String := ["Number", "String", "Boolean", "Object"]

def IsTypeName (item : Json) : Prop := ∃ name ∈ typeNames, item = .string name

/-- The document declares nothing but type names. Members of an object that stand under other keys
declare nothing. -/
def IsSpecification : Json → Prop
  | .array items => ∀ item ∈ items, IsTypeName item
  | .object members => ∀ key item, (Json.object members).field? key = some item →
      (key = "default" ∨ ∃ n < 2 ^ 64, key = toString n) → IsTypeName item
  | _ => False

/-- What the document declares for one position. Positions are machine words; a list in memory has
no others. -/
def declaredAt? (document : Json) (position : Nat) : Option Json :=
  if position < 2 ^ 64 then
    match document with
    | .array items => items[position]?
    | _ => document.field? (toString position)
  else none

/-- What the document declares for a position, be it for this one or by default. -/
def declared? (document : Json) (position : Nat) : Option Json :=
  (declaredAt? document position).or (document.field? "default")

def originAt (document : Json) (position : Nat) : Spec.Origin :=
  if (declaredAt? document position).isSome then .positional else .fallback

/-- Null suits no name; anything else suits the name of its kind and the most general name. -/
def Suits (name : String) (arg : Json) : Prop :=
  arg.kind ≠ .null ∧ (name = "Object" ∨ arg.kind.text = name.toLower)

def Passes (document : Json) (position : Nat) (arg : Json) : Prop :=
  ∀ name, declared? document position = some (.string name) → Suits name arg

/-- The outcome of calling a function that counts its arguments. -/
inductive Judged (document : Json) (args : List Json) : Except Mismatch Nat → Prop
  | accepted (all : ∀ i arg, args[i]? = some arg → Passes document i arg) :
      Judged document args (.ok args.length)
  | rejected {m : Mismatch} {arg : Json} (here : args[m.position]? = some arg)
      (before : ∀ i other, i < m.position → args[i]? = some other → Passes document i other)
      (expected : declared? document m.position = some (.string m.expected))
      (unsuitable : ¬Suits m.expected arg) (found : m.found.text = arg.kind.text)
      (origin : m.origin = originAt document m.position) :
      Judged document args (.error m)

variable {reader : Json.NumberReader} {document item arg : Json} {entries : List (String × Json)}
  {position : Nat} {d : Descriptor} {s : Spec} {m : Mismatch}

/-! ### Names -/

theorem names_standard_iff :
    Registry.standard.Names item d ↔ d ∈ Descriptor.builtins ∧ item = .string d.name := by
  constructor
  · rintro ⟨name, rfl, found⟩
    obtain ⟨builtin, rfl⟩ := Registry.resolve?_standard_eq_some_iff.mp found
    exact ⟨builtin, rfl⟩
  · rintro ⟨builtin, rfl⟩
    exact ⟨d.name, rfl, Registry.resolve?_standard_eq_some_iff.mpr ⟨builtin, rfl⟩⟩

theorem isTypeName_iff : IsTypeName item ↔ ∃ d, Registry.standard.Names item d := by
  have names : typeNames = Descriptor.builtins.map Descriptor.name := rfl
  simp only [IsTypeName, names_standard_iff, names, List.mem_map]
  constructor
  · rintro ⟨_, ⟨d, builtin, rfl⟩, same⟩
    exact ⟨d, builtin, same⟩
  · rintro ⟨d, builtin, same⟩
    exact ⟨_, ⟨d, builtin, rfl⟩, same⟩

/-- A built-in descriptor admits the values of the documents that suit its name. -/
theorem admits_ofJson_iff (builtin : d ∈ Descriptor.builtins) :
    d.admits (Value.ofJson reader arg) ↔ Suits d.name arg := by
  have number : "Number".toLower = "number" := by decide +kernel
  have string : "String".toLower = "string" := by decide +kernel
  have boolean : "Boolean".toLower = "boolean" := by decide +kernel
  cases d <;> cases arg <;>
    simp_all [Descriptor.builtins, Descriptor.admits, Descriptor.name, Value.ofJson,
      Value.ofMembers, Suits, Json.kind, Json.Kind.text]

theorem kind_text_injective {k l : Value.Kind} (same : k.text = l.text) : k = l := by
  cases k <;> cases l <;> first | rfl | exact absurd same (by decide)

theorem kind_ofJson_iff (reader : Json.NumberReader) {k : Value.Kind} :
    k = (Value.ofJson reader arg).kind ↔ k.text = arg.kind.text := by
  rw [← Value.kind_text_ofJson reader]
  exact ⟨fun same => same ▸ rfl, kind_text_injective⟩

/-! ### Declarations -/

theorem isSpecification_iff :
    IsSpecification document ↔
      ∃ entries, Spec.argumentEntries? document = some entries ∧
        ∀ e ∈ entries, ∃ d, Registry.standard.Names e.2 d := by
  simp only [← isTypeName_iff]
  cases document with
  | array items =>
    simp only [IsSpecification, Spec.argumentEntries?, Option.some.injEq, exists_eq_left']
    constructor
    · rintro all ⟨key, item⟩ member
      obtain ⟨i, found, _⟩ := Spec.mem_byPosition_iff.mp member
      exact all item (List.mem_of_getElem? found)
    · intro all item member
      obtain ⟨i, found⟩ := List.mem_iff_getElem?.mp member
      exact all (toString i, item) (Spec.mem_byPosition_iff.mpr ⟨i, found, rfl⟩)
  | object members =>
    -- The keys that declare something are those that are parsed.
    simp only [IsSpecification, Spec.argumentEntries?, Option.some.injEq, exists_eq_left']
    constructor
    · rintro all ⟨key, item⟩ member
      obtain ⟨found, argument⟩ := List.mem_filter.mp member
      exact all key item ((Dict.mem_toList_iff _ _ _).mp found)
        (Spec.Key.isSome_parse?_iff.mp argument)
    · intro all key item found argument
      have listed := (Dict.mem_toList_iff _ _ _).mpr found
      exact all (key, item)
        (List.mem_filter.mpr ⟨listed, Spec.Key.isSome_parse?_iff.mpr argument⟩)
  | _ => simp [IsSpecification, Spec.argumentEntries?]

theorem mem_argumentEntries_position (read : Spec.argumentEntries? document = some entries)
    (inRange : position < 2 ^ 64) :
    (toString position, item) ∈ entries ↔ declaredAt? document position = some item := by
  cases document with
  | array items =>
    cases read
    rw [Spec.mem_byPosition_iff, declaredAt?, if_pos inRange]
    constructor
    · rintro ⟨i, found, same⟩
      rw [Spec.toString_injective same]
      exact found
    · intro found
      exact ⟨position, found, rfl⟩
  | object members =>
    cases read
    have argument : Spec.isArgumentEntry (toString position, item) :=
      Spec.Key.isSome_parse?_iff.mpr (.inr ⟨position, inRange, rfl⟩)
    rw [List.mem_filter, Dict.mem_toList_iff, and_iff_left argument]
    simp only [declaredAt?, if_pos inRange]
    rfl
  | _ => cases read

theorem mem_argumentEntries_default (read : Spec.argumentEntries? document = some entries) :
    (Spec.fallbackWord, item) ∈ entries ↔ document.field? "default" = some item := by
  cases document with
  | array items =>
    cases read
    rw [Spec.mem_byPosition_iff]
    constructor
    · rintro ⟨i, _, same⟩
      exact absurd same.symm (Spec.toString_ne_fallbackWord i)
    · intro found
      cases found
  | object members =>
    cases read
    have argument : Spec.isArgumentEntry (Spec.fallbackWord, item) := rfl
    rw [List.mem_filter, Dict.mem_toList_iff, and_iff_left argument]
    rfl
  | _ => cases read

theorem lt_of_declaredAt? (found : declaredAt? document position = some item) :
    position < 2 ^ 64 := by
  unfold declaredAt? at found
  split at found
  next inRange => exact inRange
  · cases found

/-! ### Positions -/

section Positions

variable (read : Spec.argumentEntries? document = some entries)
  (named : ∀ e ∈ entries, ∃ d, Registry.standard.Names e.2 d)
  (holds : Spec.Holds Registry.standard entries s)

include read holds

theorem entryAt?_eq_some_iff :
    s.entryAt? position = some d ↔
      ∃ item, declaredAt? document position = some item ∧ Registry.standard.Names item d := by
  rw [Spec.entryAt?, Option.bind_eq_some_iff]
  constructor
  · rintro ⟨i, index, found⟩
    cases indexOf?_eq_some_iff.mp index
    obtain ⟨item, member, names⟩ := (holds.entry i d).mp found
    exact ⟨item, (mem_argumentEntries_position read i.toNat_lt).mp member, names⟩
  · rintro ⟨item, found, names⟩
    have inRange := lt_of_declaredAt? found
    have member := (mem_argumentEntries_position read inRange).mpr found
    have index : indexOf? position = some (.ofNatLT position inRange) := dif_pos inRange
    refine ⟨_, index, (holds.entry _ d).mpr ⟨item, ?_, names⟩⟩
    rw [UInt64.toNat_ofNatLT]
    exact member

theorem fallback_eq_some_iff :
    s.fallback = some d ↔
      ∃ item, document.field? "default" = some item ∧ Registry.standard.Names item d := by
  simp only [holds.fallback, mem_argumentEntries_default read]

include named

/-- A position is unchecked, or a built-in descriptor applies to it whose name is declared. -/
theorem applicable?_cases (position : Nat) :
    (declared? document position = none ∧ s.applicable? position = none) ∨
      ∃ d ∈ Descriptor.builtins, declared? document position = some (.string d.name) ∧
        s.applicable? position = some (d, originAt document position) := by
  cases own : declaredAt? document position with
  | some item =>
    -- The position has an entry, which goes before the fallback.
    have member := (mem_argumentEntries_position read (lt_of_declaredAt? own)).mpr own
    obtain ⟨d, names⟩ := named _ member
    obtain ⟨builtin, rfl⟩ := names_standard_iff.mp names
    have entry := (entryAt?_eq_some_iff read holds).mpr ⟨_, own, names⟩
    refine .inr ⟨d, builtin, ?_, ?_⟩
    · rw [declared?, own, Option.some_or]
    · rw [Spec.applicable?_of_entry entry, originAt, own]
      rfl
  | none =>
    have noEntry : s.entryAt? position = none := by
      rw [Option.eq_none_iff_forall_ne_some]
      intro d entry
      obtain ⟨item, found, _⟩ := (entryAt?_eq_some_iff read holds).mp entry
      simp [own] at found
    have origin : originAt document position = .fallback := by simp [originAt, own]
    rw [Spec.applicable?_of_no_entry noEntry, origin, declared?, own, Option.none_or]
    -- Only the fallback is left; it stands for what is declared by default.
    cases general : document.field? "default" with
    | some item =>
      obtain ⟨d, names⟩ := named _ ((mem_argumentEntries_default read).mpr general)
      obtain ⟨builtin, rfl⟩ := names_standard_iff.mp names
      have fallback := (fallback_eq_some_iff read holds).mpr ⟨_, general, names⟩
      exact .inr ⟨d, builtin, rfl, by rw [fallback]; rfl⟩
    | none =>
      have noFallback : s.fallback = none := by
        rw [Option.eq_none_iff_forall_ne_some]
        intro d fallback
        obtain ⟨item, found, _⟩ := (fallback_eq_some_iff read holds).mp fallback
        simp [general] at found
      exact .inl ⟨rfl, by rw [noFallback]; rfl⟩

theorem mismatchAt?_ofJson_eq_none_iff :
    s.mismatchAt? position (Value.ofJson reader arg) = none ↔ Passes document position arg := by
  rw [Spec.mismatchAt?_eq_none_iff, Passes]
  rcases applicable?_cases read named holds position with ⟨undeclared, unchecked⟩ |
    ⟨d, builtin, declared, applies⟩
  · simp [undeclared, unchecked]
  · simp [declared, applies, admits_ofJson_iff builtin]

theorem mismatchAt?_ofJson_eq_some_iff :
    s.mismatchAt? position (Value.ofJson reader arg) = some m ↔
      m.position = position ∧ declared? document position = some (.string m.expected) ∧
        ¬Suits m.expected arg ∧ m.found.text = arg.kind.text ∧
        m.origin = originAt document position := by
  rw [Spec.mismatchAt?_eq_some_iff, ← kind_ofJson_iff reader]
  rcases applicable?_cases read named holds position with ⟨undeclared, unchecked⟩ |
    ⟨d, builtin, declared, applies⟩
  · simp [undeclared, unchecked]
  · constructor
    · rintro ⟨e, origin, other, refused, rfl⟩
      cases applies.symm.trans other
      refine ⟨rfl, declared, ?_, rfl, rfl⟩
      rw [← admits_ofJson_iff builtin, refused]
      decide
    · rintro ⟨rfl, name, unsuitable, found, origin⟩
      -- The declared name is that of the descriptor, so both judge the argument alike.
      have same : d.name = m.expected := by simpa using declared.symm.trans name
      rw [← same, ← admits_ofJson_iff builtin, Bool.not_eq_true] at unsuitable
      refine ⟨d, _, applies, unsuitable, ?_⟩
      rw [same, ← found, ← origin]

/-! ### Lists of arguments -/

theorem validate_map_ofJson_ok_iff (args : List Json) :
    (s.validate (args.map (Value.ofJson reader))).value = .ok () ↔
      ∀ i arg, args[i]? = some arg → Passes document i arg := by
  simp only [Spec.validate_ok_iff, List.getElem?_map, Option.map_eq_some_iff]
  constructor
  · intro all i arg found
    exact (mismatchAt?_ofJson_eq_none_iff read named holds).mp (all i _ ⟨arg, found, rfl⟩)
  · rintro all i _ ⟨arg, found, rfl⟩
    exact (mismatchAt?_ofJson_eq_none_iff read named holds).mpr (all i arg found)

theorem validate_map_ofJson_error_iff (args : List Json) :
    (s.validate (args.map (Value.ofJson reader))).value = .error m ↔
      Judged document args (.error m) := by
  simp only [Spec.validate_error_iff, List.getElem?_map, Option.map_eq_some_iff]
  constructor
  · rintro ⟨_, ⟨arg, here, rfl⟩, mismatch, before⟩
    obtain ⟨_, expected, unsuitable, found, origin⟩ :=
      (mismatchAt?_ofJson_eq_some_iff read named holds).mp mismatch
    refine .rejected here (fun i other below listed => ?_) expected unsuitable found origin
    exact (mismatchAt?_ofJson_eq_none_iff read named holds).mp
      (before i _ below ⟨other, listed, rfl⟩)
  · intro judged
    cases judged with
    | rejected here before expected unsuitable found origin =>
      refine ⟨_, ⟨_, here, rfl⟩, ?_, ?_⟩
      · exact (mismatchAt?_ofJson_eq_some_iff read named holds).mpr
          ⟨rfl, expected, unsuitable, found, origin⟩
      · rintro i _ below ⟨other, listed, rfl⟩
        exact (mismatchAt?_ofJson_eq_none_iff read named holds).mpr (before i other below listed)

theorem map_validate_eq_iff_judged (args : List Json) (outcome : Except Mismatch Nat) :
    ((s.validate (args.map (Value.ofJson reader))).value.map fun _ => args.length) = outcome ↔
      Judged document args outcome := by
  constructor
  · rintro rfl
    cases validated : (s.validate (args.map (Value.ofJson reader))).value with
    | ok _ => exact .accepted ((validate_map_ofJson_ok_iff read named holds args).mp validated)
    | error m => exact (validate_map_ofJson_error_iff read named holds args).mp validated
  · intro judged
    cases outcome with
    | ok n =>
      cases judged with
      | accepted all =>
        rw [(validate_map_ofJson_ok_iff read named holds args).mpr all]
        rfl
    | error m =>
      rw [(validate_map_ofJson_error_iff read named holds args).mpr judged]
      rfl

end Positions

/-! ### Main result -/

/-- Over the standard registry and with the default configuration, a document builds a guard exactly
if it is a specification, and a call with the values of documents has the outcome that the reference
checker judges. -/
theorem build_and_call_iff (reader : Json.NumberReader) (document : Json) (args : List Json) :
    ((∃ g,
        (Guard.build (.json document .standard) (List.length : List Value → Nat)).value = .ok g) ↔
      IsSpecification document) ∧
    ∀ g, (Guard.build (.json document .standard) (List.length : List Value → Nat)).value = .ok g →
      ∀ outcome, (g.call (args.map (Value.ofJson reader))).value = outcome ↔
        Judged document args outcome := by
  simp only [Guard.value_build, Spec.Source.normalize]
  constructor
  · rw [isSpecification_iff, ← Spec.exists_ofJson_ok_iff]
    cases (Spec.ofJson .standard document).value <;> simp [Except.map]
  · intro g built outcome
    cases read : (Spec.ofJson .standard document).value with
    | error e =>
      rw [read] at built
      cases built
    | ok s =>
      rw [read] at built
      cases built
      -- The guard has the specification that the document is read as.
      cases read ▸ Spec.normalizes_ofJson .standard document with
      | spec listed named holds =>
        rw [Guard.value_call, Guard.value_check_of_closed rfl rfl]
        simp only [List.length_map]
        exact map_validate_eq_iff_judged listed named holds args outcome

/-- The most general name does not let a null through. -/
theorem build_and_call_null_under_object :
    ∃ g, (Guard.build (.json (.array [.string "Object", .string "Object"]) .standard)
        (List.length : List Value → Nat)).value = .ok g ∧
      (g.call ([.array [], .null].map (Value.ofJson .nearest))).value =
        .error ⟨1, "Object", .null, .positional⟩ := by
  have agreement := build_and_call_iff .nearest (.array [.string "Object", .string "Object"])
    [.array [], .null]
  have specified : IsSpecification (.array [.string "Object", .string "Object"]) := by
    intro item member
    exact ⟨"Object", by decide, by simpa using member⟩
  obtain ⟨g, built⟩ := agreement.1.mpr specified
  refine ⟨g, built, (agreement.2 g built _).mpr ?_⟩
  refine .rejected rfl ?_ rfl (fun suits => suits.1 rfl) rfl rfl
  intro i other below listed name declared
  cases Nat.lt_one_iff.mp below
  cases listed
  cases declared
  exact ⟨by decide, .inl rfl⟩

end CallGuard.Reference
