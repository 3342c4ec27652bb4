import CallGuard.Binary64.Shortest
import CallGuard.Json
import CallGuard.Text.Quoted
import CallGuard.Wire.Vocabulary

/-!
# Reading from documents

Configurations and wire words as they are read from a JSON document, with the reason where that
fails. Object members are visited in ascending key order, and the first bad one counts.
-/
namespace CallGuard.Wire

inductive Refusal where
  /-- A part of the document is of another type. -/
  | wrongType (found expected : String)
  | unknownWord (word : String) (words : List String)
  /-- An array has more items than there are settings. -/
  | tooLong (length : Nat)
  /-- An object stands for a word but has not exactly one key. -/
  | notOneKey

namespace Refusal

def backticked (s : String) : String := "`" ++ s ++ "`"

/-- The known words as messages list them. -/
def listing : List String → String
  | [a, b] => s!"expected {backticked a} or {backticked b}"
  | words => "expected one of " ++ ", ".intercalate (words.map backticked)

def message : Refusal → String
  | wrongType found expected => s!"invalid type: {found}, expected {expected}"
  | unknownWord word words => s!"unknown variant {backticked word}, {listing words}"
  | tooLong length => s!"invalid length {length}, expected fewer elements in array"
  | notOneKey => "invalid value: map, expected map with a single key"

/-- Numbers in messages have an exponent, with its sign, from `10 ^ 16` on and below `10 ^ (-5)`; a
tie goes to the even digit. -/
def numberLayout : Binary64.Layout where
  positional leading := -5 ≤ leading && leading ≤ 15
  tie := .even
  plusSign := true

def describe : Json → String
  | .null => "null"
  | .boolean b => "boolean " ++ backticked (toString b)
  | .number (.integer n _) => "integer " ++ backticked (toString n)
  | .number (.float x _) => "floating point " ++ backticked (x.render numberLayout)
  | .string s => "string " ++ Text.quoted s
  | .array _ => "sequence"
  | .object _ => "map"

end Refusal

def mistyped {α : Type} (j : Json) (expected : String) : Except Refusal α :=
  .error (.wrongType (Refusal.describe j) expected)

def meaningOf {α : Type} (v : Vocabulary α) (word : String) : Except Refusal α :=
  match v.meaning? word with
  | some a => .ok a
  | none => .error (.unknownWord word v.words)

def booleanOf : Json → Except Refusal Bool
  | .boolean b => .ok b
  | j => mistyped j "a boolean"

/-- A word, or an object with the word as its only key and null under it. -/
def wordOf {α : Type} (v : Vocabulary α) : Json → Except Refusal α
  | .string word => meaningOf v word
  | .object members =>
    match (Json.fields members).toList with
    | [(word, content)] => do
      let a ← meaningOf v word
      match content with
      | .null => .ok a
      | j => mistyped j "unit"
    | _ => .error .notOneKey
  | j => mistyped j "string or map"

def setField (c : Config) (field : Field) (j : Json) : Except Refusal Config :=
  match field with
  | .enabled => c.withEnabled <$> booleanOf j
  | .failMode => c.withFailMode <$> wordOf failModes j

/-- Reads the settings among object members; others are skipped. -/
def setMembers (c : Config) : List (String × Json) → Except Refusal Config
  | [] => .ok c
  | (key, j) :: rest =>
    match fields.meaning? key with
    | none => setMembers c rest
    | some field => do setMembers (← setField c field j) rest

/-- Reads settings from array items, in listing order. -/
def setItems (c : Config) : List Field → List Json → Except Refusal Config
  | field :: fields, j :: rest => do setItems (← setField c field j) fields rest
  | _, _ => .ok c

/-- Settings that a document does not hold are the defaults. -/
def configOf : Json → Except Refusal Config
  | .object members => setMembers {} (Json.fields members).toList
  | .array items => do
    -- A bad item counts before the length does.
    let c ← setItems {} (fields.map (·.2)) items
    if items.length ≤ fields.length then .ok c else .error (.tooLong items.length)
  | j => mistyped j "struct GuardConfig"

end CallGuard.Wire
