import CallGuard.Proofs.KeyGrammar
import CallGuard.Proofs.TextOrder
import Mathlib.Algebra.Group.Nat.Defs

/-!
# The order of decimal texts

Maps visit decimal texts in the order of their bytes, which puts "10" before "2". It is the order of
the numbers as long as the texts are equally long.
-/
namespace CallGuard.Spec

/-- The bytes of the decimal text of a number. -/
def decimalBytes (n : Nat) : List UInt8 := (toString n).toUTF8.data.toList

/-! ### Lists of digits -/

theorem isDigit_of_mem_decimal {n : Nat} : ∀ c ∈ Nat.toDigits 10 n, c.isDigit := fun _ member =>
  Nat.isDigit_of_mem_toDigits (by decide) (by decide) member

theorem utf8_of_digits {digits : List Char} (all : ∀ c ∈ digits, c.isDigit) :
    digits.flatMap String.utf8EncodeChar = digits.map Char.toUInt8 := by
  induction digits with
  | nil => rfl
  | cons c rest ih =>
    obtain ⟨digit, others⟩ := List.forall_mem_cons.mp all
    have single : c.utf8Size = 1 := by
      have bounds : 48 ≤ c.val.toNat ∧ c.val.toNat ≤ 57 := by
        simpa [Char.isDigit, UInt32.le_iff_toNat_le] using digit
      rw [Char.utf8Size_eq_one_iff, UInt32.le_iff_toNat_le]
      exact Nat.le_trans bounds.2 (by decide)
    rw [List.flatMap_cons, String.utf8EncodeChar_eq_singleton single, ih others]
    rfl

theorem decimalBytes_eq (n : Nat) : decimalBytes n = (Nat.toDigits 10 n).map Char.toUInt8 := by
  have encoded : decimalBytes n = (toString n).toList.flatMap String.utf8EncodeChar :=
    Text.bytes_eq _
  rw [encoded, Nat.toString_eq_repr, Nat.toList_repr]
  exact utf8_of_digits isDigit_of_mem_decimal

/-- Digits are ordered alike as characters, as bytes and by their values. -/
theorem digitChar_order : ∀ m < 10, ∀ n < 10,
    (m.digitChar < n.digitChar ↔ m < n) ∧ (m.digitChar = n.digitChar ↔ m = n) ∧
    (m.digitChar.toUInt8 < n.digitChar.toUInt8 ↔ m < n) ∧
    (m.digitChar.toUInt8 = n.digitChar.toUInt8 ↔ m = n) := by
  decide

theorem map_toUInt8_lt_iff {xs ys : List Char} (left : ∀ c ∈ xs, c.isDigit)
    (right : ∀ c ∈ ys, c.isDigit) : xs.map Char.toUInt8 < ys.map Char.toUInt8 ↔ xs < ys := by
  induction xs generalizing ys with
  | nil => cases ys <;> simp
  | cons x xs ih =>
    cases ys with
    | nil => simp
    | cons y ys =>
      obtain ⟨xDigit, xsDigits⟩ := List.forall_mem_cons.mp left
      obtain ⟨yDigit, ysDigits⟩ := List.forall_mem_cons.mp right
      obtain ⟨m, mSmall, rfl⟩ := exists_digitChar xDigit
      obtain ⟨n, nSmall, rfl⟩ := exists_digitChar yDigit
      obtain ⟨less, same, byteLess, byteSame⟩ := digitChar_order m mSmall n nSmall
      rw [List.map_cons, List.map_cons, List.cons_lt_cons_iff, List.cons_lt_cons_iff, less, same,
        byteLess, byteSame, ih xsDigits ysDigits]

/-! ### Equally long lists -/

theorem placeValue_cons_digitChar {n : Nat} (small : n < 10) (rest : List Char) :
    placeValue (n.digitChar :: rest) = n * 10 ^ rest.length + placeValue rest := by
  have value : n.digitChar.toNat - '0'.toNat = n := by
    rw [Nat.toNat_digitChar_of_lt_ten small]
    exact Nat.add_sub_cancel_left 48 n
  rw [placeValue, value, Nat.pow_eq]

theorem placeValue_lt {digits : List Char} (all : ∀ c ∈ digits, c.isDigit) :
    placeValue digits < 10 ^ digits.length := by
  induction digits with
  | nil => exact Nat.one_pos
  | cons c rest ih =>
    obtain ⟨digit, others⟩ := List.forall_mem_cons.mp all
    obtain ⟨n, small, rfl⟩ := exists_digitChar digit
    have bound : n * 10 ^ rest.length ≤ 9 * 10 ^ rest.length :=
      Nat.mul_le_mul_right _ (Nat.le_of_lt_succ small)
    have tail := ih others
    rw [placeValue_cons_digitChar small, List.length_cons, Nat.pow_succ]
    omega

/-- Of equally long lists of digits the first difference decides, and it outweighs what follows. -/
theorem lt_iff_placeValue_lt {xs ys : List Char} (left : ∀ c ∈ xs, c.isDigit)
    (right : ∀ c ∈ ys, c.isDigit) (long : xs.length = ys.length) :
    xs < ys ↔ placeValue xs < placeValue ys := by
  induction xs generalizing ys with
  | nil =>
    cases ys with
    | nil => simp
    | cons y ys => cases long
  | cons x xs ih =>
    cases ys with
    | nil => cases long
    | cons y ys =>
      obtain ⟨xDigit, xsDigits⟩ := List.forall_mem_cons.mp left
      obtain ⟨yDigit, ysDigits⟩ := List.forall_mem_cons.mp right
      obtain ⟨m, mSmall, rfl⟩ := exists_digitChar xDigit
      obtain ⟨n, nSmall, rfl⟩ := exists_digitChar yDigit
      obtain ⟨less, same, -, -⟩ := digitChar_order m mSmall n nSmall
      have tails : xs.length = ys.length := Nat.succ.inj long
      have xsBound := placeValue_lt xsDigits
      have ysBound := placeValue_lt ysDigits
      rw [List.cons_lt_cons_iff, less, same, ih xsDigits ysDigits tails,
        placeValue_cons_digitChar mSmall, placeValue_cons_digitChar nSmall]
      rw [tails] at xsBound ⊢
      -- What follows a digit is worth less than one unit of its place.
      rcases Nat.lt_trichotomy m n with lower | rfl | higher
      · have step : (m + 1) * 10 ^ ys.length ≤ n * 10 ^ ys.length := Nat.mul_le_mul_right _ lower
        rw [Nat.succ_mul] at step
        omega
      · omega
      · have step : (n + 1) * 10 ^ ys.length ≤ m * 10 ^ ys.length := Nat.mul_le_mul_right _ higher
        rw [Nat.succ_mul] at step
        omega

/-! ### Numbers -/

theorem placeValue_toDigits (n : Nat) : placeValue (Nat.toDigits 10 n) = n := by
  rw [← ofDigitChars_eq_placeValue, Nat.ofDigitChars_ten_toDigits]

/-- The order in which maps visit decimal texts. -/
theorem compare_toString_iff (m n : Nat) :
    compare (toString m) (toString n) = .lt ↔ decimalBytes m < decimalBytes n :=
  Text.compare_eq_lt_iff (toString m) (toString n)

theorem decimalBytes_asymm {m n : Nat} (less : decimalBytes m < decimalBytes n) :
    ¬decimalBytes n < decimalBytes m := by
  rw [← compare_toString_iff] at less ⊢
  rw [Std.OrientedOrd.eq_swap, less]
  decide

/-- The bytes of equally long texts are ordered as the numbers are. -/
theorem decimalBytes_lt_iff {m n : Nat}
    (long : (decimalBytes m).length = (decimalBytes n).length) :
    decimalBytes m < decimalBytes n ↔ m < n := by
  rw [decimalBytes_eq, decimalBytes_eq, List.length_map, List.length_map] at long
  rw [decimalBytes_eq, decimalBytes_eq,
    map_toUInt8_lt_iff isDigit_of_mem_decimal isDigit_of_mem_decimal,
    lt_iff_placeValue_lt isDigit_of_mem_decimal isDigit_of_mem_decimal long, placeValue_toDigits,
    placeValue_toDigits]

theorem length_decimalBytes_of_lt_ten {n : Nat} (small : n < 10) :
    (decimalBytes n).length = 1 := by
  rw [decimalBytes_eq, List.length_map, Nat.toDigits_of_lt_base small, List.length_singleton]

end CallGuard.Spec
