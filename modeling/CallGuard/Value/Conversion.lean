import CallGuard.Json
import CallGuard.Value

/-!
# Values of documents

Every JSON document is a value of the same shape; none of its parts is undefined or an instance.
What reads its numbers is not fixed here, and a number that it refuses would be a NaN.
-/
namespace CallGuard.Value

variable (reader : Json.NumberReader)

mutual

def ofJson : Json → Value
  | .null => null
  | .boolean b => boolean b
  | .number n => number ((reader.binary64? n).getD .nan)
  | .string s => string s
  | .array items => array (ofItems items)
  | .object members => ofMembers (ofFields members)

def ofItems : List Json → List Value
  | [] => []
  | item :: rest => ofJson item :: ofItems rest

def ofFields : List (String × Json) → List (String × Value)
  | [] => []
  | (key, item) :: rest => (key, ofJson item) :: ofFields rest

end

theorem ofItems_eq_map (items : List Json) :
    ofItems reader items = items.map (ofJson reader) := by
  induction items with
  | nil => rfl
  | cons item rest ih => simp [ofItems, ih]

theorem ofFields_eq_map (members : List (String × Json)) :
    ofFields reader members = members.map fun m => (m.1, ofJson reader m.2) := by
  induction members with
  | nil => rfl
  | cons m rest ih => simp [ofFields, ih]

/-- A value of a document is described by the same word as the document. -/
theorem kind_text_ofJson (j : Json) : (ofJson reader j).kind.text = j.kind.text := by
  cases j <;> simp [ofJson, ofMembers, kind, Kind.text, Json.kind, Json.Kind.text]

/-- No number is refused, so the value is what the reader finds. -/
theorem exists_ofJson_number (n : Json.Number) :
    ∃ x, reader.binary64? n = some x ∧ x.isFinite ∧ ofJson reader (.number n) = number x := by
  obtain ⟨x, found, finite⟩ := reader.finite n
  exact ⟨x, found, finite, by rw [ofJson, found, Option.getD_some]⟩

end CallGuard.Value
