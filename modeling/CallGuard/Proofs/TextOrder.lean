import Mathlib.Tactic.ByContra
import Mathlib.Tactic.SplitIfs

/-!
# The order of texts

Maps are visited in the order of code points in their keys. Main statement: this is the order of the
bytes of the keys in UTF-8, in which the bytes of one character are never the start of another's.
-/
namespace CallGuard.Text

/-- The bytes of a text in UTF-8. -/
def bytes (s : String) : List UInt8 := s.toUTF8.data.toList

theorem bytes_eq (s : String) : bytes s = s.toList.flatMap String.utf8EncodeChar := by
  rw [bytes, String.toUTF8_eq_toByteArray, ← String.utf8Encode_toList, List.utf8Encode,
    List.data_toByteArray]

/-- The bytes of two characters differ before either ends, whatever follows. -/
theorem utf8_lt_of_lt {c d : Char} (less : c < d) (xs ys : List UInt8) :
    String.utf8EncodeChar c ++ xs < String.utf8EncodeChar d ++ ys := by
  have order : c.val.toNat < d.val.toNat := less
  have bound : d.val.toNat < 0x110000 :=
    d.valid.elim (fun low => Nat.lt_trans low (by decide)) (·.2)
  -- Each byte behind the first holds one digit to base 64.
  have second (v : Nat) : v / 4096 = v / 64 / 64 := by omega
  have third (v : Nat) : v / 262144 = v / 64 / 64 / 64 := by omega
  simp only [String.utf8EncodeChar]
  split_ifs <;>
    simp only [List.cons_append, List.nil_append, List.cons_lt_cons_iff, UInt8.lt_iff_toNat_lt,
      ← UInt8.toNat_inj, UInt8.toNat_ofNat', second, third] <;>
    omega

theorem utf8_flatMap_lt_of_lt {xs ys : List Char} (less : xs < ys) :
    xs.flatMap String.utf8EncodeChar < ys.flatMap String.utf8EncodeChar := by
  induction xs generalizing ys with
  | nil =>
    cases ys with
    | nil => exact absurd less (List.not_lt_nil _)
    | cons d ys =>
      obtain ⟨byte, rest, shape⟩ := List.exists_cons_of_ne_nil (@String.utf8EncodeChar_ne_nil d)
      rw [List.flatMap_cons, shape]
      exact List.nil_lt_cons _ _
  | cons c xs ih =>
    cases ys with
    | nil => exact absurd less (List.not_lt_nil _)
    | cons d ys =>
      rw [List.flatMap_cons, List.flatMap_cons]
      rcases List.cons_lt_cons_iff.mp less with first | ⟨rfl, tails⟩
      · exact utf8_lt_of_lt first _ _
      · exact List.append_left_lt (ih tails)

theorem utf8_flatMap_lt_iff {xs ys : List Char} :
    xs.flatMap String.utf8EncodeChar < ys.flatMap String.utf8EncodeChar ↔ xs < ys := by
  refine ⟨fun less => ?_, utf8_flatMap_lt_of_lt⟩
  -- Otherwise the lists would be equal or in the other order, and so would their bytes.
  by_contra notLess
  by_cases greater : ys < xs
  · exact List.lt_asymm less (utf8_flatMap_lt_of_lt greater)
  · rw [List.le_antisymm greater notLess] at less
    exact List.lt_irrefl _ less

/-- The order in which maps visit their keys is that of the bytes. -/
theorem compare_eq_lt_iff (s t : String) : Ord.compare s t = .lt ↔ bytes s < bytes t := by
  have order : Ord.compare s t = .lt ↔ s.toList < t.toList := compareOfLessAndEq_eq_lt
  rw [order, bytes_eq, bytes_eq, utf8_flatMap_lt_iff]

end CallGuard.Text
