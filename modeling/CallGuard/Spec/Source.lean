import CallGuard.Json
import CallGuard.Registry

/-!
# Specification sources

The forms in which a specification can be handed over, and how each becomes one. Only a JSON
document can be rejected; string keys that name no entry are ignored and reported.
-/
namespace CallGuard.Spec

def insertKeyed (s : Spec) : List (String × Descriptor) → Logged Spec
  | [] => pure s
  | (key, d) :: rest =>
    match Key.parse? key with
    | some k => (s.insert k d).insertKeyed rest
    | none => do
      Logged.report (.keyIgnored key true)
      s.insertKeyed rest

def keyed (entries : List (String × Descriptor)) : Logged Spec := empty.insertKeyed entries

/-- The descriptor that an item of a document names; an error shows the text of its key. -/
def descriptorNamed (r : Registry) (keyText : String) : Json → Except Error Descriptor
  | .string name =>
    match r.resolve? name with
    | some d => .ok d
    | none => .error (.unknownType keyText name)
  | item => .error (.invalidDescriptor keyText item.kind.text)

def descriptorOf (r : Registry) (key : Key) (item : Json) : Except Error Descriptor :=
  descriptorNamed r key.text item

/-- The descriptor that an array element names. -/
def descriptorAt (r : Registry) (position : Nat) (item : Json) : Except Error Descriptor :=
  match indexOf? position with
  | some i => descriptorOf r (.index i) item
  -- No array in memory has such a position.
  | none => descriptorNamed r (toString position) item

/-- The descriptors that array elements name, from a position on; the first bad one rejects. -/
def descriptorsFrom (r : Registry) (position : Nat) : List Json → Except Error (List Descriptor)
  | [] => .ok []
  | item :: rest => do
    let d ← descriptorAt r position item
    let ds ← descriptorsFrom r (position + 1) rest
    .ok (d :: ds)

/-- Writes the entries that object members name; the first bad one rejects. -/
def insertMembers (r : Registry) (s : Spec) :
    List (String × Json) → Logged (Except Error Spec)
  | [] => pure (.ok s)
  | (key, item) :: rest =>
    match Key.parse? key with
    | none => do
      Logged.report (.keyIgnored key false)
      s.insertMembers r rest
    | some k =>
      match descriptorOf r k item with
      | .ok d => (s.insert k d).insertMembers r rest
      | .error e => pure (.error e)

/-- A specification from a document: arrays list the descriptors by position, objects hold them by
key and are visited in ascending key order. -/
def ofJson (r : Registry) : Json → Logged (Except Error Spec)
  | .array items => pure ((descriptorsFrom r 0 items).map positional)
  | .object members => empty.insertMembers r (Json.fields members).toList
  | document => pure (.error (.notASpec document.kind.text))

theorem descriptorAt_eq (r : Registry) (position : Nat) (item : Json) :
    descriptorAt r position item = descriptorNamed r (toString position) item := by
  unfold descriptorAt
  split
  next i found =>
    rw [descriptorOf, Key.text, indexOf?_eq_some_iff.mp found]
  · rfl

inductive Source where
  | spec (s : Spec)
  | positional (ds : List Descriptor)
  /-- String-keyed entries in the order in which they are visited. -/
  | keyed (entries : List (String × Descriptor))
  | json (document : Json) (registry : Registry)

def Source.normalize : Source → Logged (Except Error Spec)
  | spec s => pure (.ok s)
  | positional ds => pure (.ok (Spec.positional ds))
  | keyed entries => .ok <$> Spec.keyed entries
  | json document registry => ofJson registry document

end CallGuard.Spec
