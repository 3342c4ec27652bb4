import CallGuard.Proofs.LastEntries
import CallGuard.Proofs.Registrations
import CallGuard.Proofs.Subtyping

/-!
# Runs of registries

Registries are made, copied and registered in, in any order. Main statement: what a copy resolves is
told by its own past, that is what it started from and what was registered in it or in the registry
it was copied from before that. The log tells just the registrations that took the place of another.
-/
namespace CallGuard

/-! ### Operations -/

/-- The ways to register in a registry. -/
inductive Registration where
  | register (name : String) (d : Descriptor)
  | registerClass (c : Class)
  | withClass (c : Class)

namespace Registration

def enter (r : Registry) : Registration → Logged Registry
  | register name d => r.register name d
  | registerClass c => r.registerClass c
  | withClass c => r.withClass c

/-- What is registered, under which name. A class is registered under its own. -/
def write : Registration → String × Descriptor
  | register name d => (name, d)
  | registerClass c | withClass c => (c.name, .ofClass c)

end Registration

/-- What a registry is made with. -/
inductive Stock where
  | nothing
  | builtins

namespace Stock

def make : Stock → Logged Registry
  | nothing => pure .empty
  | builtins => Descriptor.builtins.foldlM (fun r d => r.register d.name d) .empty

def resolve? : Stock → String → Option Descriptor
  | nothing, _ => none
  | builtins, name => Descriptor.builtin? name

end Stock

/-- Registries by handle. -/
abbrev Shelf := List Registry

namespace Shelf

inductive Operation where
  | new (stock : Stock)
  | clone (registry : Nat)
  | register (registry : Nat) (entry : Registration)

/-- A handle that names nothing leaves everything as it is. -/
def step (shelf : Shelf) : Operation → Logged Shelf
  | .new stock => do
    let r ← stock.make
    pure (shelf ++ [r])
  | .clone registry => pure (shelf ++ shelf[registry]?.toList)
  | .register registry entry =>
    match shelf[registry]? with
    | none => pure shelf
    | some r => do
      let r ← entry.enter r
      pure (shelf.set registry r)

def run (shelf : Shelf) (ops : List Operation) : Logged Shelf := ops.foldlM step shelf

/-! ### Pasts -/

/-- What a registry was made with, and what was registered since, oldest first. -/
structure Past where
  stock : Stock
  writes : List (String × Descriptor) := []

/-- A copy takes the past over; from then on each has its own. -/
def extend (pasts : List Past) : Operation → List Past
  | .new stock => pasts ++ [{ stock }]
  | .clone registry => pasts ++ pasts[registry]?.toList
  | .register registry entry =>
    match pasts[registry]? with
    | none => pasts
    | some past => pasts.set registry { past with writes := past.writes ++ [entry.write] }

def pastsAfter (ops : List Operation) : List Past := ops.foldl extend []

namespace Past

/-- The descriptor was the last to be registered under the name; or none was, and the registry was
made with it. -/
def Holds (past : Past) (name : String) (d : Descriptor) : Prop :=
  LastUnder past.writes name d ∨
    (∀ w ∈ past.writes, w.1 ≠ name) ∧ past.stock.resolve? name = some d

/-- The registry shows what the past holds, each name once. -/
structure ShownBy (past : Past) (r : Registry) : Prop where
  resolve? (name : String) (d : Descriptor) : r.resolve? name = some d ↔ past.Holds name d
  contains (name : String) : r.contains name ↔ (r.resolve? name).isSome
  names (name : String) : name ∈ r.names ↔ (r.resolve? name).isSome
  distinct : r.names.Nodup
  size : r.size = r.names.length
  isEmpty : r.isEmpty ↔ ∀ name, r.resolve? name = none

end Past

/-- The operation registers under a name that its registry holds already. -/
inductive Replaces (pasts : List Past) : Operation → String → Descriptor → Prop
  | intro {registry : Nat} {entry : Registration} {past : Past} {previous : Descriptor}
      (known : pasts[registry]? = some past) (held : past.Holds entry.write.1 previous) :
      Replaces pasts (.register registry entry) entry.write.1 previous

end Shelf

/-! ### One registry -/

theorem Registration.enter_eq (r : Registry) (entry : Registration) :
    entry.enter r = r.register entry.write.1 entry.write.2 := by
  cases entry <;> rfl

/-- Registering the built-in descriptors one by one takes the place of nothing. -/
theorem Stock.make_builtins : builtins.make = pure Registry.standard := rfl

theorem Descriptor.builtin?_eq_some_iff {name : String} {d : Descriptor} :
    builtin? name = some d ↔ d ∈ builtins ∧ d.name = name := by
  constructor
  · intro found
    exact ⟨List.mem_of_find?_eq_some found, name_eq_of_builtin? found⟩
  · rintro ⟨member, rfl⟩
    exact builtin?_name member

namespace Shelf

variable {pasts : List Past} {past : Past} {name : String} {d : Descriptor}

/-- The registry that a past leads to. -/
def Past.registry (past : Past) : Registry :=
  past.writes.foldl (fun r w => r.put w.1 w.2) past.stock.make.value

theorem resolve?_make (stock : Stock) (name : String) :
    stock.make.value.resolve? name = stock.resolve? name := by
  cases stock with
  | nothing => rfl
  | builtins =>
    ext d
    rw [Stock.make_builtins, Logged.value_pure, Registry.resolve?_standard_eq_some_iff,
      Stock.resolve?, Descriptor.builtin?_eq_some_iff]

theorem Past.resolve?_registry_eq_some_iff :
    past.registry.resolve? name = some d ↔ past.Holds name d := by
  rw [registry, Registry.resolve?_foldl_put, resolve?_make, lastUnder?_or_eq_some_iff, Holds]

theorem Past.shownBy_registry (past : Past) : past.ShownBy past.registry where
  resolve? _ _ := resolve?_registry_eq_some_iff
  contains _ := Iff.rfl
  names name := by
    rw [Registry.resolve?, Option.isSome_iff_exists]
    simp only [← Dict.mem_toList_iff]
    simp [Registry.names, Dict.keys, Dict.toList]
  distinct := Dict.nodup_keys past.registry.types.ascending
  size := by simp [Registry.size, Registry.names, Dict.size, Dict.keys]
  isEmpty := Dict.isEmpty_iff

/-! ### Steps -/

/-- An operation does to the registries what it does to their pasts. -/
theorem value_step (pasts : List Past) (op : Operation) :
    (step (pasts.map Past.registry) op).value = (extend pasts op).map Past.registry := by
  cases op with
  | new stock => simp [step, extend, Past.registry]
  | clone registry =>
    simp only [step, extend, List.getElem?_map, List.map_append, Logged.value_pure]
    cases pasts[registry]? <;> simp
  | register registry entry =>
    simp only [step, extend, List.getElem?_map]
    cases pasts[registry]? with
    | none => rfl
    | some past => simp [List.map_set, Registration.enter_eq, Past.registry]

theorem records_make (stock : Stock) : stock.make.records = [] := by
  cases stock <;> rfl

theorem records_step_of_replaces {op : Operation} (replaces : Replaces pasts op name d) :
    (step (pasts.map Past.registry) op).records =
      [{ event := .registrationReplaced name d.name }] := by
  cases replaces with
  | @intro registry entry past _ known held =>
    have stands := Past.resolve?_registry_eq_some_iff.mpr held
    simp [step, known, Registration.enter_eq, Registry.records_register, stands]

theorem records_step_of_not_replaces {op : Operation}
    (fresh : ∀ name d, ¬Replaces pasts op name d) :
    (step (pasts.map Past.registry) op).records = [] := by
  cases op with
  | new stock => simp [step, records_make]
  | clone registry => rfl
  | register registry entry =>
    cases known : pasts[registry]? with
    | none => simp [step, known]
    | some past =>
      have unknown : past.registry.resolve? entry.write.1 = none := by
        rw [Option.eq_none_iff_forall_ne_some]
        intro d stands
        exact fresh _ d (.intro known (Past.resolve?_registry_eq_some_iff.mp stands))
      simp [step, known, Registration.enter_eq, Registry.records_register, unknown]

/-! ### Runs -/

theorem value_run (pasts : List Past) (ops : List Operation) :
    (run (pasts.map Past.registry) ops).value = (ops.foldl extend pasts).map Past.registry := by
  induction ops generalizing pasts with
  | nil => rfl
  | cons op rest ih =>
    -- What the first operation reports does not reach the rest.
    have stepped : (run (pasts.map Past.registry) (op :: rest)).value =
        (run (step (pasts.map Past.registry) op).value rest).value := rfl
    rw [stepped, value_step, ih, List.foldl_cons]

theorem records_run_append (shelf : Shelf) (ops : List Operation) (op : Operation) :
    (run shelf (ops ++ [op])).records =
      (run shelf ops).records ++ (step (run shelf ops).value op).records := by
  simp [run]

/-! ### Main result -/

/-- After any operations each registry shows what its own past holds. The next operation is reported
exactly if it registers under a name that the registry holds, with the name of the descriptor that
it replaces. -/
theorem shows_own_past (ops : List Operation) :
    (run [] ops).value.length = (pastsAfter ops).length ∧
    (∀ (registry : Nat) (r : Registry) (past : Past), (run [] ops).value[registry]? = some r →
      (pastsAfter ops)[registry]? = some past → past.ShownBy r) ∧
    (∀ op name previous, Replaces (pastsAfter ops) op name previous →
      (run [] (ops ++ [op])).records =
        (run [] ops).records ++ [{ event := .registrationReplaced name previous.name }]) ∧
    ∀ op, (∀ name previous, ¬Replaces (pastsAfter ops) op name previous) →
      (run [] (ops ++ [op])).records = (run [] ops).records := by
  have shelf : (run [] ops).value = (pastsAfter ops).map Past.registry := value_run [] ops
  refine ⟨?_, ?_, ?_, ?_⟩
  · rw [shelf, List.length_map]
  · intro registry r past stands known
    rw [shelf, List.getElem?_map, known] at stands
    cases stands
    exact past.shownBy_registry
  · intro op name previous replaces
    rw [records_run_append, shelf, records_step_of_replaces replaces]
  · intro op fresh
    rw [records_run_append, shelf, records_step_of_not_replaces fresh, List.append_nil]

/-- A class is registered in a copy only, and a built-in name is given away in the original only. In
the copy a class of the same name takes the place of the first; in the original it would be new. -/
theorem shows_own_past_branches :
    let ops : List Operation :=
      [.new .builtins, .clone 0, .register 1 (.withClass Forest.elder),
        .register 0 (.register "Number" .string)]
    (∃ r, (run [] ops).value[0]? = some r ∧ r.resolve? "Number" = some .string ∧
      "Widget" ∉ r.names) ∧
    (∃ r, (run [] ops).value[1]? = some r ∧ r.resolve? "Number" = some .number ∧
      r.resolve? "Widget" = some (.ofClass Forest.elder)) ∧
    (run [] (ops ++ [.register 1 (.registerClass Forest.junior)])).records =
      (run [] ops).records ++ [{ event := .registrationReplaced "Widget" "Widget" }] ∧
    (run [] (ops ++ [.register 0 (.registerClass Forest.junior)])).records =
      (run [] ops).records := by
  intro ops
  obtain ⟨-, shown, reported, unreported⟩ := shows_own_past ops
  let original : Past := ⟨.builtins, [("Number", .string)]⟩
  let copy : Past := ⟨.builtins, [("Widget", .ofClass Forest.elder)]⟩
  have string : original.Holds "Number" .string := .inl ⟨[], [], rfl, by simp⟩
  have number : copy.Holds "Number" .number := .inr ⟨by simp [copy], rfl⟩
  have elder : copy.Holds "Widget" (.ofClass Forest.elder) := .inl ⟨[], [], rfl, by simp⟩
  have noWidget : original.registry.resolve? "Widget" = none := rfl
  refine ⟨⟨_, rfl, ?_⟩, ⟨_, rfl, ?_⟩, ?_, ?_⟩
  · have first := shown 0 _ original rfl rfl
    refine ⟨(first.resolve? _ _).mpr string, fun listed => ?_⟩
    cases (first.names "Widget").mp listed
  · have second := shown 1 _ copy rfl rfl
    exact ⟨(second.resolve? _ _).mpr number, (second.resolve? _ _).mpr elder⟩
  · have replaces : Replaces (pastsAfter ops) (.register 1 (.registerClass Forest.junior)) "Widget"
        (.ofClass Forest.elder) := .intro rfl elder
    exact reported _ _ _ replaces
  · apply unreported
    rintro name previous ⟨known, held⟩
    cases known
    have stands := Past.resolve?_registry_eq_some_iff.mpr held
    cases noWidget.symm.trans stands

end Shelf

end CallGuard
