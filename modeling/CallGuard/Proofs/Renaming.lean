import CallGuard.Proofs.FullAbstraction
import CallGuard.Proofs.Verdicts

/-!
# Renamed classes

Classes of a forest are told apart by their serial numbers, so each may be given any other name, be
it that of another class or of a built-in descriptor. Main statement: validation after a renaming,
done throughout the specification and the arguments, is validation before it, but for the name that
a mismatch with a class shows.
-/
namespace CallGuard

/-! ### Renaming -/

/-- The class and all its ancestors under the names that go with their serial numbers. -/
def Class.renamed (names : Nat → String) : Class → Class
  | root serial _ => root serial (names serial)
  | derived serial _ parent => derived serial (names serial) (parent.renamed names)

def Forest.renamed (names : Nat → String) (f : Forest) : Forest :=
  ⟨f.classes.map (Class.renamed names)⟩

def Descriptor.renamed (names : Nat → String) : Descriptor → Descriptor
  | ofClass c => ofClass (c.renamed names)
  | d => d

def Instance.renamed (names : Nat → String) (i : Instance) : Instance :=
  { i with ofClass := i.ofClass.renamed names }

namespace Value

mutual

/-- The value with the classes of all instances in it renamed. -/
def renamed (names : Nat → String) : Value → Value
  | array items => array (renamedItems names items)
  | object members => object (renamedMembers names members)
  | nominal i => nominal (i.renamed names)
  | v => v

def renamedItems (names : Nat → String) : List Value → List Value
  | [] => []
  | v :: rest => v.renamed names :: renamedItems names rest

def renamedMembers (names : Nat → String) {floor : Option String} :
    Members floor → Members floor
  | .nil => .nil
  | .cons key v above rest => .cons key (v.renamed names) above (renamedMembers names rest)

end

end Value

def Spec.renamed (names : Nat → String) (s : Spec) : Spec where
  entries := s.entries.map (Descriptor.renamed names)
  fallback := s.fallback.map (Descriptor.renamed names)

variable {f : Forest} {names : Nat → String}

/-! ### Classes -/

namespace Class

variable {a b c : Class}

@[simp] theorem serial_renamed (names : Nat → String) (c : Class) :
    (c.renamed names).serial = c.serial := by
  cases c <;> rfl

@[simp] theorem name_renamed (names : Nat → String) (c : Class) :
    (c.renamed names).name = names c.serial := by
  cases c <;> rfl

theorem ancestors_renamed (names : Nat → String) (c : Class) :
    (c.renamed names).ancestors = c.ancestors.map (renamed names) := by
  induction c with
  | root serial name => rfl
  | derived serial name parent ih => exact congrArg (_ :: ·) ih

theorem depth_renamed (names : Nat → String) (c : Class) : (c.renamed names).depth = c.depth := by
  rw [depth, depth, ancestors_renamed, List.length_map]

/-- Classes of a forest stay different, even under one name. -/
theorem renamed_inj (grown : f.Grown) (ha : a ∈ f) (hb : b ∈ f) :
    a.renamed names = b.renamed names ↔ a = b := by
  constructor
  · intro same
    have serials := congrArg serial same
    rw [serial_renamed, serial_renamed] at serials
    exact Forest.eq_of_serial_eq grown ha hb serials
  · rintro rfl
    rfl

theorem isSubclassOf_renamed (grown : f.Grown) (ha : a ∈ f) (hb : b ∈ f) :
    (a.renamed names).isSubclassOf (b.renamed names) = a.isSubclassOf b := by
  rw [Bool.eq_iff_iff, isSubclassOf_iff, isSubclassOf_iff, ancestors_renamed, List.mem_map]
  constructor
  · rintro ⟨c, above, same⟩
    have inside := Forest.mem_of_mem_ancestors grown ha above
    exact (renamed_inj grown inside hb).mp same ▸ above
  · intro above
    exact ⟨b, above, rfl⟩

end Class

/-! ### The renamed forest -/

namespace Forest

theorem mem_renamed {c : Class} (created : c ∈ f) : c.renamed names ∈ f.renamed names :=
  List.mem_map_of_mem created

/-- The renamed classes can be created as such, in the same order. -/
theorem grown_renamed (grown : f.Grown) : (f.renamed names).Grown := by
  have sameSerial (f : Forest) : (f.renamed names).nextSerial = f.nextSerial := List.length_map _
  -- The number of classes decides the next serial number, and renaming keeps it.
  induction grown with
  | empty => exact .empty
  | @newRoot f name _ ih =>
    have step : (f.newRoot name).2.renamed names =
        ((f.renamed names).newRoot (names f.nextSerial)).2 := by
      rw [newRoot, newRoot, sameSerial]
      rfl
    exact step ▸ .newRoot _ ih
  | @newDerived f name parent _ parentIn ih =>
    have step : (f.newDerived name parent).2.renamed names =
        ((f.renamed names).newDerived (names f.nextSerial) (parent.renamed names)).2 := by
      rw [newDerived, newDerived, sameSerial]
      rfl
    exact step ▸ .newDerived _ ih (mem_renamed parentIn)

end Forest

/-! ### Descriptors and values -/

variable {d e : Descriptor} {v : Value} {s : Spec} {position : Nat} {origin : Spec.Origin}
  {args : List Value}

theorem Descriptor.name_renamed (names : Nat → String) (d : Descriptor) :
    (d.renamed names).name =
      match d.class? with
      | some c => names c.serial
      | none => d.name := by
  cases d with
  | ofClass c => exact c.name_renamed names
  | _ => rfl

theorem Descriptor.MadeIn.renamed (made : d.MadeIn f) :
    (d.renamed names).MadeIn (f.renamed names) := by
  cases d with
  | ofClass c => exact madeIn_ofClass (Forest.mem_renamed (made c rfl))
  | _ => exact nofun

namespace Value

@[simp] theorem kind_renamed (names : Nat → String) (v : Value) :
    (v.renamed names).kind = v.kind := by
  cases v <;> simp [renamed, kind]

theorem renamedItems_eq_map (names : Nat → String) (items : List Value) :
    renamedItems names items = items.map (renamed names) := by
  induction items with
  | nil => rfl
  | cons v rest ih => simp [renamedItems, ih]

theorem toList_renamedMembers (names : Nat → String) {floor : Option String}
    (members : Members floor) :
    (renamedMembers names members).toList =
      members.toList.map fun m => (m.1, m.2.renamed names) := by
  induction members with
  | nil => simp [renamedMembers, Members.toList]
  | cons key v above rest ih => simp [renamedMembers, Members.toList, ih]

theorem MadeIn.renamed (made : v.MadeIn f) : (v.renamed names).MadeIn (f.renamed names) := by
  induction made with
  | undefined => exact .undefined
  | null => exact .null
  | number x => exact .number x
  | string s => exact .string s
  | boolean b => exact .boolean b
  | array _ ih =>
    rw [Value.renamed, renamedItems_eq_map]
    exact .array (List.forall_mem_map.mpr ih)
  | object _ ih =>
    rw [Value.renamed]
    refine .object ?_
    rw [toList_renamedMembers]
    exact List.forall_mem_map.mpr ih
  | nominal created => exact .nominal (Forest.mem_renamed created)

end Value

theorem Descriptor.admits_renamed (grown : f.Grown) (dMade : d.MadeIn f) (vMade : v.MadeIn f) :
    (d.renamed names).admits (v.renamed names) = d.admits v := by
  cases d with
  | ofClass c =>
    cases vMade with
    | nominal created => exact Class.isSubclassOf_renamed grown created (dMade c rfl)
    | _ => rfl
  -- A built-in descriptor asks for the kind alone.
  | _ => cases v <;> rfl

/-! ### Validation -/

namespace Spec

theorem applicable?_renamed (names : Nat → String) (s : Spec) (position : Nat) :
    (s.renamed names).applicable? position =
      (s.applicable? position).map fun x => (x.1.renamed names, x.2) := by
  have entry : (s.renamed names).entryAt? position =
      (s.entryAt? position).map (Descriptor.renamed names) := by
    rw [entryAt?, entryAt?, Option.map_bind]
    exact Option.bind_congr fun i _ => Dict.get?_map _ _ _
  rw [applicable?, applicable?, entry]
  cases s.entryAt? position with
  | some d => rfl
  | none =>
    simp only [Option.map_none, Spec.renamed, Option.map_map]
    rfl

theorem applies_renamed_iff :
    (s.renamed names).Applies position e origin ↔
      ∃ d, s.Applies position d origin ∧ e = d.renamed names := by
  rw [applies_iff, applicable?_renamed, Option.map_eq_some_iff]
  constructor
  · rintro ⟨⟨d, origin⟩, found, ⟨⟩⟩
    exact ⟨d, applies_iff.mpr found, rfl⟩
  · rintro ⟨d, applies, rfl⟩
    exact ⟨(d, origin), applies_iff.mp applies, rfl⟩

theorem MadeIn.renamed (made : s.MadeIn f) : (s.renamed names).MadeIn (f.renamed names) where
  entries i d found := by
    rw [get?, Spec.renamed, Dict.get?_map] at found
    obtain ⟨e, entry, rfl⟩ := Option.map_eq_some_iff.mp found
    exact (made.entries i e entry).renamed
  fallback d found := by
    obtain ⟨e, own, rfl⟩ := Option.map_eq_some_iff.mp found
    exact (made.fallback e own).renamed

theorem MadeIn.of_applies (made : s.MadeIn f) (applies : s.Applies position d origin) :
    d.MadeIn f := madeIn_of_applicable? made (applies_iff.mp applies)

theorem matches_renamed_iff (grown : f.Grown) (dMade : d.MadeIn f) (vMade : v.MadeIn f) :
    (d.renamed names).Matches (v.renamed names) ↔ d.Matches v := by
  rw [← Descriptor.admits_iff_matches, ← Descriptor.admits_iff_matches,
    Descriptor.admits_renamed grown dMade vMade]

theorem passes_renamed_iff (grown : f.Grown) (made : s.MadeIn f) (vMade : v.MadeIn f) :
    (s.renamed names).Passes position (v.renamed names) ↔ s.Passes position v := by
  constructor
  · intro passes d origin applies
    have fits := passes _ origin (applies_renamed_iff.mpr ⟨d, applies, rfl⟩)
    exact (matches_renamed_iff grown (made.of_applies applies) vMade).mp fits
  · intro passes e origin applies
    obtain ⟨d, own, rfl⟩ := applies_renamed_iff.mp applies
    exact (matches_renamed_iff grown (made.of_applies own) vMade).mpr (passes d origin own)

theorem passes_at_renamed_iff (names : Nat → String) (grown : f.Grown) (made : s.MadeIn f)
    (argsMade : ∀ v ∈ args, v.MadeIn f) (i : Nat) :
    (∀ w, (args.map (Value.renamed names))[i]? = some w → (s.renamed names).Passes i w) ↔
      ∀ v, args[i]? = some v → s.Passes i v := by
  simp only [List.getElem?_map, Option.map_eq_some_iff, forall_exists_index, and_imp,
    forall_apply_eq_imp_iff₂]
  refine forall_congr' fun v => forall_congr' fun there => ?_
  exact passes_renamed_iff grown made (argsMade v (List.mem_of_getElem? there))

theorem validate_renamed_ok_iff (grown : f.Grown) (made : s.MadeIn f)
    (argsMade : ∀ v ∈ args, v.MadeIn f) :
    ((s.renamed names).validate (args.map (Value.renamed names))).value = .ok () ↔
      (s.validate args).value = .ok () := by
  rw [value_validate_eq_iff, value_validate_eq_iff, verdict_ok_iff, verdict_ok_iff]
  exact forall_congr' fun i => passes_at_renamed_iff names grown made argsMade i

/-- A mismatch stays where it is, and shows the new name of its descriptor. -/
theorem validate_renamed_error (grown : f.Grown) (made : s.MadeIn f)
    (argsMade : ∀ v ∈ args, v.MadeIn f) {m : Mismatch}
    (rejected : (s.validate args).value = .error m) :
    ∃ d, s.Applies m.position d m.origin ∧ m.expected = d.name ∧
      ((s.renamed names).validate (args.map (Value.renamed names))).value =
        .error { m with expected := (d.renamed names).name } := by
  cases value_validate_eq_iff.mp rejected with
  | @rejected i v d origin there applies refused before =>
    refine ⟨d, applies, rfl, value_validate_eq_iff.mpr ?_⟩
    have vMade := argsMade v (List.mem_of_getElem? there)
    have renamedThere : (args.map (Value.renamed names))[i]? = some (v.renamed names) := by
      rw [List.getElem?_map, there]
      rfl
    have stillRefused : ¬(d.renamed names).Matches (v.renamed names) := by
      rwa [matches_renamed_iff grown (made.of_applies applies) vMade]
    rw [← v.kind_renamed names]
    refine .rejected renamedThere (applies_renamed_iff.mpr ⟨d, applies, rfl⟩) stillRefused ?_
    intro j w below found
    -- What stands in front passed before the renaming, so it still does.
    have front := passes_at_renamed_iff names grown made argsMade j
    exact front.mpr (fun u earlier => before j u below earlier) w found

/-! ### Main result -/

/-- The classes of a forest may be given any names: they can be created under these in the same
order, each keeps its serial number, its depth and the classes that it derives from, and no two
become one. If this is done throughout a specification and its arguments, the same calls are
accepted, and a mismatch keeps its position, kind and origin; it shows the new name of the class
that is asked for, or the old name of a built-in descriptor. -/
theorem validate_renamed (grown : f.Grown) (names : Nat → String) (made : s.MadeIn f)
    (argsMade : ∀ v ∈ args, v.MadeIn f) :
    let before := (s.validate args).value
    let after := ((s.renamed names).validate (args.map (Value.renamed names))).value
    (f.renamed names).Grown ∧ (s.renamed names).MadeIn (f.renamed names) ∧
    (∀ v ∈ args, (v.renamed names).MadeIn (f.renamed names)) ∧
    (after = .ok () ↔ before = .ok ()) ∧
    (∀ m, before = .error m → ∃ d, s.Applies m.position d m.origin ∧ m.expected = d.name ∧
      after = .error { m with expected := match d.class? with
        | some c => names c.serial
        | none => m.expected }) ∧
    ∀ a ∈ f, a.renamed names ∈ f.renamed names ∧ (a.renamed names).name = names a.serial ∧
      (a.renamed names).depth = a.depth ∧
      ∀ b ∈ f, (a.renamed names = b.renamed names ↔ a.serial = b.serial) ∧
        (a.renamed names).isSubclassOf (b.renamed names) = a.isSubclassOf b := by
  intro before after
  refine ⟨Forest.grown_renamed grown, made.renamed, fun v member => (argsMade v member).renamed,
    validate_renamed_ok_iff grown made argsMade, ?_, ?_⟩
  · intro m rejected
    obtain ⟨d, applies, shown, again⟩ := validate_renamed_error grown made argsMade rejected
    refine ⟨d, applies, shown, ?_⟩
    rw [d.name_renamed, ← shown] at again
    exact again
  · intro a ha
    refine ⟨Forest.mem_renamed ha, a.name_renamed names, a.depth_renamed names, fun b hb => ?_⟩
    refine ⟨?_, Class.isSubclassOf_renamed grown ha hb⟩
    rw [Class.renamed_inj grown ha hb]
    exact ⟨congrArg Class.serial, Forest.eq_of_serial_eq grown ha hb⟩

/-- Two classes of one name, now both called like a built-in descriptor. -/
theorem validate_renamed_like_builtin :
    let names : Nat → String := fun _ => "Number"
    let s := (empty.withEntry 1 (.ofClass Forest.junior)).withFallback .number
    let args : List Value := [.number default, .nominal ⟨Forest.elder, .unit, 0⟩,
      .array [.nominal ⟨Forest.junior, .unit, 1⟩]]
    Forest.namesakes.Grown ∧ s.MadeIn .namesakes ∧ (∀ v ∈ args, v.MadeIn .namesakes) ∧
    (s.validate args).value = .error ⟨1, "Widget", .nominal, .positional⟩ ∧
    ((s.renamed names).validate (args.map (Value.renamed names))).value =
      .error ⟨1, "Number", .nominal, .positional⟩ ∧
    Forest.junior.renamed names ≠ Forest.elder.renamed names ∧
    (Forest.junior.renamed names).isSubclassOf (Forest.elder.renamed names) := by
  intro names s args
  have made : s.MadeIn .namesakes := by
    have junior := Descriptor.madeIn_ofClass Forest.junior_mem
    refine ⟨((madeIn_empty .namesakes).withEntry 1 junior).entries, ?_⟩
    rintro d ⟨⟩
    exact nofun
  have argsMade : ∀ v ∈ args, v.MadeIn .namesakes := by
    simp only [args, List.forall_mem_cons]
    refine ⟨.number _, .nominal Forest.elder_mem, .array ?_, by simp⟩
    simpa using .nominal Forest.junior_mem
  have rejected : (s.validate args).value = .error ⟨1, "Widget", .nominal, .positional⟩ := rfl
  obtain ⟨-, -, -, -, error, classes⟩ :=
    validate_renamed Forest.grown_namesakes names made argsMade
  obtain ⟨-, -, -, apart⟩ := classes Forest.junior Forest.junior_mem
  obtain ⟨identity, sub⟩ := apart Forest.elder Forest.elder_mem
  obtain ⟨d, applies, -, again⟩ := error _ rejected
  cases Spec.applies_iff.mp applies
  refine ⟨Forest.grown_namesakes, made, argsMade, rejected, again, ?_, by rw [sub]; decide⟩
  exact fun same => absurd (identity.mp same) (by decide)

end Spec

end CallGuard
