import CallGuard.Descriptor
import CallGuard.Dict
import CallGuard.Spec.Key

/-!
# Specifications

Which descriptor applies to which argument: entries by index, and a fallback for positions without
an entry. A position with neither is unchecked.
-/
namespace CallGuard

structure Spec where
  entries : Dict UInt64 Descriptor := .empty
  fallback : Option Descriptor := none
  deriving DecidableEq

namespace Spec

/-- What supplied the descriptor of an argument. -/
inductive Origin where
  | positional
  | fallback
  deriving DecidableEq

def Origin.text : Origin → String
  | positional => "positional"
  | fallback => "default"

def Origin.all : List Origin := [.positional, .fallback]

def empty : Spec := {}

def withEntry (s : Spec) (i : UInt64) (d : Descriptor) : Spec :=
  { s with entries := s.entries.insert i d }

def withFallback (s : Spec) (d : Descriptor) : Spec :=
  { s with fallback := some d }

def insert (s : Spec) (key : Key) (d : Descriptor) : Spec :=
  match key with
  | .index i => s.withEntry i d
  | .fallback => s.withFallback d

/-- Entries at consecutive positions; positions past the last index have none. -/
def withEntriesFrom (start : Nat) (s : Spec) : List Descriptor → Spec
  | [] => s
  | d :: ds =>
    let s := match indexOf? start with
      | some i => s.withEntry i d
      | none => s
    withEntriesFrom (start + 1) s ds

/-- The descriptor at place `i` of the list applies to argument `i`. -/
def positional (ds : List Descriptor) : Spec := withEntriesFrom 0 empty ds

/-- The entry of an index, without regard to the fallback. -/
def get? (s : Spec) (i : UInt64) : Option Descriptor := s.entries.get? i

def entryAt? (s : Spec) (position : Nat) : Option Descriptor :=
  (indexOf? position).bind s.get?

/-- The descriptor that applies to a position and what supplied it; the entry goes first. -/
def applicable? (s : Spec) (position : Nat) : Option (Descriptor × Origin) :=
  match s.entryAt? position with
  | some d => some (d, .positional)
  | none => s.fallback.map (·, .fallback)

def entryCount (s : Spec) : Nat := s.entries.size

def hasFallback (s : Spec) : Bool := s.fallback.isSome

def isEmpty (s : Spec) : Bool := s.entries.isEmpty && !s.hasFallback

/-- The entries by index, in ascending order. -/
def toList (s : Spec) : List (UInt64 × Descriptor) := s.entries.toList

theorem insert_index (s : Spec) (i : UInt64) (d : Descriptor) :
    s.insert (.index i) d = s.withEntry i d := rfl

theorem insert_fallback (s : Spec) (d : Descriptor) :
    s.insert .fallback d = s.withFallback d := rfl

theorem applicable?_of_entry {s : Spec} {position : Nat} {d : Descriptor}
    (entry : s.entryAt? position = some d) : s.applicable? position = some (d, .positional) := by
  simp [applicable?, entry]

theorem applicable?_of_no_entry {s : Spec} {position : Nat} (none : s.entryAt? position = none) :
    s.applicable? position = s.fallback.map (·, .fallback) := by
  simp [applicable?, none]

end Spec

end CallGuard
