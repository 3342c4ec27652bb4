import CallGuard.Json.Nearest
import CallGuard.Proofs.Occurrences
import CallGuard.Proofs.Slots
import CallGuard.Value.Conversion

/-!
# Paths into documents

A path leads down through the elements of arrays and the fields of objects. Main statement: the
value of a document has the paths that the document has, and on each of them the value of what the
document has there. So nothing in it is undefined, an instance or a NaN, and it is equal to itself.
-/
namespace CallGuard

/-! ### Paths -/

inductive PathStep where
  | item (i : Nat)
  | field (key : String)

abbrev Path := List PathStep

namespace Json

def child? : Json → PathStep → Option Json
  | array items, .item i => items[i]?
  | object members, .field key => (fields members).get? key
  | _, _ => none

/-- What stands at the end of the path, if the document has it. -/
def at? (j : Json) (path : Path) : Option Json := path.foldlM child? j

def length? : Json → Option Nat
  | array items => some items.length
  | _ => none

/-- The keys of an object, in ascending order. -/
def keys? : Json → Option (List String)
  | object members => some (fields members).keys
  | _ => none

end Json

namespace Value

def child? : Value → PathStep → Option Value
  | array items, .item i => items[i]?
  | object members, .field key => members.toDict.get? key
  | _, _ => none

/-- What stands at the end of the path, if the value has it. -/
def at? (v : Value) (path : Path) : Option Value := path.foldlM child? v

def length? : Value → Option Nat
  | array items => some items.length
  | _ => none

def keys? : Value → Option (List String)
  | object members => some members.toDict.keys
  | _ => none

end Value

/-! ### Objects -/

theorem lastUnder?_map {κ α β : Type} [DecidableEq κ] (f : α → β) (key : κ)
    (entries : List (κ × α)) :
    lastUnder? key (entries.map fun e => (e.1, f e.2)) = (lastUnder? key entries).map f := by
  induction entries with
  | nil => rfl
  | cons e rest ih =>
    rw [List.map_cons, lastUnder?, lastUnder?, ih, Option.map_or]
    by_cases same : e.1 = key <;> simp [same]

theorem Dict.ofList_map {κ α β : Type} [DecidableEq κ] [Ord κ] [Std.TransOrd κ]
    [Std.LawfulEqOrd κ] (f : α → β) (entries : List (κ × α)) :
    ofList (entries.map fun e => (e.1, f e.2)) = (ofList entries).map f := by
  apply Dict.ext
  intro key
  simp [ofList, get?_map, get?_foldl_insert, lastUnder?_map]

namespace Value

variable (reader : Json.NumberReader)

theorem ofJson_array (items : List Json) :
    ofJson reader (.array items) = .array (items.map (ofJson reader)) := by
  rw [ofJson, ofItems_eq_map]

/-- The value of an object has the fields of the object as a map. -/
theorem ofJson_object (members : List (String × Json)) :
    ofJson reader (.object members) =
      .object (.ofDict ((Json.fields members).map (ofJson reader))) := by
  rw [ofJson, ofFields_eq_map, ofMembers, Dict.ofList_map, Json.fields]

/-! ### The value on a path -/

theorem child?_ofJson (j : Json) (step : PathStep) :
    (ofJson reader j).child? step = (j.child? step).map (ofJson reader) := by
  cases j with
  | array items => cases step <;> simp [ofJson_array, child?, Json.child?]
  | object members =>
    cases step with
    | item i => simp [ofJson_object, child?, Json.child?]
    | field key => simp [ofJson_object, child?, Json.child?, Dict.get?_map]
  | _ => cases step <;> rfl

theorem at?_ofJson (j : Json) (path : Path) :
    (ofJson reader j).at? path = (j.at? path).map (ofJson reader) := by
  unfold at? Json.at?
  -- Each step leads to another document.
  induction path generalizing j with
  | nil => rfl
  | cons step rest ih =>
    rw [List.foldlM_cons, List.foldlM_cons, child?_ofJson]
    cases j.child? step with
    | none => rfl
    | some child => exact ih child

theorem length?_ofJson (j : Json) : (ofJson reader j).length? = j.length? := by
  cases j with
  | array items => simp [ofJson_array, length?, Json.length?]
  | _ => rfl

theorem keys?_ofJson (j : Json) : (ofJson reader j).keys? = j.keys? := by
  cases j with
  | object members => simp [ofJson_object, keys?, Json.keys?]
  | _ => rfl

/-! ### What documents do not hold -/

variable {reader}

theorem isNaN_of_ofJson {j : Json} {x : Binary64} (number : ofJson reader j = .number x) :
    x.isNaN = false := by
  cases j with
  | number n =>
    obtain ⟨y, -, finite, found⟩ := exists_ofJson_number reader n
    cases found.symm.trans number
    exact Binary64.isNaN_eq_false_of_isFinite finite
  | array items => simp [ofJson_array] at number
  | object members => simp [ofJson_object] at number
  | _ => simp [ofJson] at number

theorem kind_ofJson_ne (j : Json) :
    (ofJson reader j).kind ≠ .undefined ∧ (ofJson reader j).kind ≠ .nominal := by
  cases j <;> simp [ofJson, ofMembers, kind]

theorem exists_ofJson_of_mem_array {j : Json} {items : List Value} {v : Value}
    (same : .array items = ofJson reader j) (member : v ∈ items) :
    ∃ inner, v = ofJson reader inner := by
  cases j with
  | array nodes =>
    rw [ofJson_array] at same
    cases same
    obtain ⟨inner, -, rfl⟩ := List.mem_map.mp member
    exact ⟨inner, rfl⟩
  | object members => simp [ofJson_object] at same
  | _ => simp [ofJson] at same

theorem exists_ofJson_of_mem_object {j : Json} {members : Members none} {key : String} {v : Value}
    (same : .object members = ofJson reader j) (member : (key, v) ∈ members.toList) :
    ∃ inner, v = ofJson reader inner := by
  cases j with
  | object nodes =>
    rw [ofJson_object] at same
    cases same
    rw [Members.toList_ofDict] at member
    obtain ⟨inner, -, same⟩ := List.mem_map.mp member
    cases same
    exact ⟨inner.2, rfl⟩
  | array nodes => simp [ofJson_array] at same
  | _ => simp [ofJson] at same

/-- All parts of the value of a document are values of documents. -/
theorem exists_ofJson_of_occurs {part v : Value} (occurs : Occurs part v) :
    ∀ j, v = ofJson reader j → ∃ inner, part = ofJson reader inner := by
  induction occurs with
  | self => exact fun j same => ⟨j, same⟩
  | item member _ ih =>
    intro j same
    obtain ⟨inner, rfl⟩ := exists_ofJson_of_mem_array same member
    exact ih inner rfl
  | member member _ ih =>
    intro j same
    obtain ⟨inner, rfl⟩ := exists_ofJson_of_mem_object same member
    exact ih inner rfl

/-! ### Main result -/

/-- The value of a document has just the paths of the document. At the end of each it is the value
of what the document has there, described by the same word, as long and under the same keys. Nothing
in it is undefined, an instance or a NaN, and it is equal to itself. -/
theorem ofJson_embeds (reader : Json.NumberReader) (j : Json) (path : Path) :
    (ofJson reader j).at? path = (j.at? path).map (ofJson reader) ∧
    ((ofJson reader j).at? path).map (fun v => (v.kind.text, v.length?, v.keys?)) =
      (j.at? path).map (fun node => (node.kind.text, node.length?, node.keys?)) ∧
    (∀ v, (ofJson reader j).at? path = some v →
      v.kind ≠ .undefined ∧ v.kind ≠ .nominal ∧ ∀ x, v = .number x → x.isNaN = false) ∧
    (ofJson reader j == ofJson reader j) = true := by
  refine ⟨at?_ofJson reader j path, ?_, ?_, ?_⟩
  · rw [at?_ofJson, Option.map_map]
    congr 1
    funext node
    simp [kind_text_ofJson, length?_ofJson, keys?_ofJson]
  · intro v stands
    rw [at?_ofJson] at stands
    obtain ⟨node, -, rfl⟩ := Option.map_eq_some_iff.mp stands
    obtain ⟨present, plain⟩ := kind_ofJson_ne node
    exact ⟨present, plain, fun x number => isNaN_of_ofJson number⟩
  · rw [beq_self_iff]
    intro x occurs
    obtain ⟨inner, number⟩ := exists_ofJson_of_occurs occurs j rfl
    exact isNaN_of_ofJson number.symm

/-- A number inside a list inside an object, one of whose keys is written twice. -/
theorem ofJson_embeds_nested :
    let large : Json := .number (.integer 9007199254740993 (by decide))
    let j : Json :=
      .object [("k", .boolean true), ("xs", .array [.null, large]), ("k", .string "last")]
    let path : Path := [.field "xs", .item 1]
    (∃ x, (ofJson .nearest j).at? path = some (.number x) ∧ x.isNaN = false) ∧
    (ofJson .nearest j).at? (path ++ [.item 0]) = none ∧
    ((ofJson .nearest j).at? []).map keys? = some (some ["k", "xs"]) ∧
    (ofJson .nearest j).at? [.field "k"] = some (.string "last") ∧
    (ofJson .nearest j == ofJson .nearest j) = true := by
  intro large j path
  have embeds (path : Path) : (ofJson .nearest j).at? path = (j.at? path).map (ofJson .nearest) :=
    (ofJson_embeds .nearest j path).1
  obtain ⟨-, -, proper, same⟩ := ofJson_embeds .nearest j path
  -- Keys are compared by evaluation, so nothing may be left open in the document.
  have here : j.at? path = some large := by
    simp only [j, path, large]
    rfl
  have below : j.at? (path ++ [.item 0]) = none := by
    simp only [j, path, large]
    rfl
  have last : j.at? [.field "k"] = some (.string "last") := by
    simp only [j, large]
    rfl
  have keys : j.keys? = some ["k", "xs"] := by
    simp only [j, large]
    rfl
  have number : (ofJson .nearest j).at? path = some (ofJson .nearest large) := by
    rw [embeds, here, Option.map_some]
  refine ⟨⟨_, number, (proper _ number).2.2 _ rfl⟩, ?_, ?_, ?_, same⟩
  · rw [embeds, below, Option.map_none]
  · rw [embeds, Json.at?, List.foldlM_nil, Option.pure_def, Option.map_some, Option.map_some,
      keys?_ofJson, keys]
  · rw [embeds, last, Option.map_some, ofJson]

end Value

end CallGuard
