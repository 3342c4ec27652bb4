import CallGuard.Proofs.Slots
import CallGuard.Registry

/-!
# Registered names

A name stands for the descriptor of its last registration. In the standard registry these are the
built-in descriptors under their display names.
-/
namespace CallGuard.Registry

theorem resolve?_put (r : Registry) (name other : String) (d : Descriptor) :
    (r.put name d).resolve? other = if other = name then some d else r.resolve? other :=
  Dict.get?_insert r.types name other d

/-- After a run of registrations a name stands for what it was last given, or else for what it stood
for before. -/
theorem resolve?_foldl_put (r : Registry) (writes : List (String × Descriptor)) (name : String) :
    (writes.foldl (fun r w => r.put w.1 w.2) r).resolve? name =
      (lastUnder? name writes).or (r.resolve? name) := by
  have types : (writes.foldl (fun r w => r.put w.1 w.2) r).types =
      writes.foldl (fun types w => types.insert w.1 w.2) r.types :=
    (List.foldl_hom Registry.types fun _ _ => rfl).symm
  rw [resolve?, types, Dict.get?_foldl_insert, resolve?]

theorem resolve?_standard_eq_some_iff {name : String} {d : Descriptor} :
    standard.resolve? name = some d ↔ d ∈ Descriptor.builtins ∧ d.name = name := by
  have writes : standard =
      (Descriptor.builtins.map fun d => (d.name, d)).foldl (fun r w => r.put w.1 w.2) empty := by
    rw [List.foldl_map, standard]
  have unregistered : empty.resolve? name = none := rfl
  rw [writes, resolve?_foldl_put, unregistered, Option.or_none,
    lastUnder?_eq_some_iff (by decide), List.mem_map]
  constructor
  · rintro ⟨_, builtin, ⟨⟩⟩
    exact ⟨builtin, rfl⟩
  · rintro ⟨builtin, rfl⟩
    exact ⟨d, builtin, rfl⟩

end CallGuard.Registry
