/-!
# Finite maps

A map is its list of entries in strictly ascending key order. The order is part of the type, so
two maps are equal exactly when every lookup agrees, whatever the writes that made them.
-/
namespace CallGuard

/-- Keys stand in strictly ascending order. -/
abbrev Ascending {κ α : Type} [Ord κ] (entries : List (κ × α)) : Prop :=
  entries.Pairwise fun a b => compare a.1 b.1 = .lt

structure Dict (κ α : Type) [Ord κ] where
  entries : List (κ × α)
  ascending : Ascending entries
  deriving DecidableEq

namespace Dict

section Operations

variable {κ α β : Type} [Ord κ]

/-- Writes one entry into an ascending list; an entry under the same key is replaced. -/
def putEntry (key : κ) (value : α) : List (κ × α) → List (κ × α)
  | [] => [(key, value)]
  | first :: rest =>
    match compare key first.1 with
    | .lt => (key, value) :: first :: rest
    | .eq => (key, value) :: rest
    | .gt => first :: putEntry key value rest

/-- The value under a key, looked for from the least key upwards. -/
def valueOf? (key : κ) : List (κ × α) → Option α
  | [] => none
  | first :: rest => if compare key first.1 = .eq then some first.2 else valueOf? key rest

def empty : Dict κ α := ⟨[], .nil⟩

instance : Inhabited (Dict κ α) := ⟨empty⟩

def get? (d : Dict κ α) (key : κ) : Option α := valueOf? key d.entries

def contains (d : Dict κ α) (key : κ) : Bool := (d.get? key).isSome

def toList (d : Dict κ α) : List (κ × α) := d.entries

def keys (d : Dict κ α) : List κ := d.entries.map (·.1)

def size (d : Dict κ α) : Nat := d.entries.length

def isEmpty (d : Dict κ α) : Bool := d.entries.isEmpty

def map (f : α → β) (d : Dict κ α) : Dict κ β where
  entries := d.entries.map fun e => (e.1, f e.2)
  ascending := d.ascending.map _ fun _ _ h => h

end Operations

section Lookup

variable {κ α β : Type} [Ord κ]

@[simp] theorem get?_empty (key : κ) : (empty : Dict κ α).get? key = none := rfl

@[simp] theorem toList_empty : (empty : Dict κ α).toList = [] := rfl

@[simp] theorem keys_map (f : α → β) (d : Dict κ α) : (d.map f).keys = d.keys := by
  simp [keys, map]

@[simp] theorem size_map (f : α → β) (d : Dict κ α) : (d.map f).size = d.size := by
  simp [size, map]

theorem get?_map (f : α → β) (d : Dict κ α) (key : κ) :
    (d.map f).get? key = (d.get? key).map f := by
  suffices ∀ entries : List (κ × α),
      valueOf? key (entries.map fun e => (e.1, f e.2)) = (valueOf? key entries).map f from
    this d.entries
  intro entries
  induction entries with
  | nil => rfl
  | cons first rest ih =>
    simp only [List.map_cons, valueOf?]
    split <;> simp [ih]

end Lookup

section Writing

variable {κ α : Type} [Ord κ]

theorem mem_putEntry {key : κ} {value : α} {entries : List (κ × α)} {e : κ × α}
    (member : e ∈ putEntry key value entries) : e = (key, value) ∨ e ∈ entries := by
  induction entries with
  | nil => simpa [putEntry] using member
  | cons first rest ih =>
    simp only [putEntry] at member
    split at member
    · simpa using member
    · rcases List.mem_cons.mp member with equal | old
      · exact .inl equal
      · exact .inr (List.mem_cons_of_mem _ old)
    · rcases List.mem_cons.mp member with equal | old
      · exact .inr (by simp [equal])
      · rcases ih old with equal | old
        · exact .inl equal
        · exact .inr (List.mem_cons_of_mem _ old)

variable [Std.TransOrd κ] [Std.LawfulEqOrd κ]

theorem ascending_putEntry (key : κ) (value : α) {entries : List (κ × α)}
    (sorted : Ascending entries) : Ascending (putEntry key value entries) := by
  induction entries with
  | nil => simp [putEntry]
  | cons first rest ih =>
    obtain ⟨below, tail⟩ := List.pairwise_cons.mp sorted
    simp only [putEntry]
    split
    next less =>
      -- The new entry goes in front of greater keys.
      refine List.pairwise_cons.mpr ⟨fun e member => ?_, sorted⟩
      rcases List.mem_cons.mp member with rfl | member
      · exact less
      · exact Std.TransCmp.lt_trans less (below e member)
    next same =>
      -- The key stays, so the order does.
      have equal := Std.LawfulEqCmp.eq_of_compare same
      subst equal
      exact List.pairwise_cons.mpr ⟨below, tail⟩
    next greater =>
      -- The first entry stays in front: the new key is greater.
      refine List.pairwise_cons.mpr ⟨fun e member => ?_, ih tail⟩
      rcases mem_putEntry member with rfl | member
      · exact Std.OrientedCmp.gt_iff_lt.mp greater
      · exact below e member

/-- Writes one entry; an entry under the same key is replaced. -/
def insert (d : Dict κ α) (key : κ) (value : α) : Dict κ α :=
  ⟨putEntry key value d.entries, ascending_putEntry key value d.ascending⟩

/-- Writes the entries in order, so the last of equal keys stays. -/
def ofList (entries : List (κ × α)) : Dict κ α :=
  entries.foldl (fun d e => d.insert e.1 e.2) empty

end Writing

end Dict

end CallGuard
