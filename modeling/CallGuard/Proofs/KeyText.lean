import CallGuard.Spec.Key

/-!
# Texts of specification keys

A key is read from exactly one string, its own text. Behind this stands the round trip of canonical
decimals: digits without a leading zero are the digits of the number that they write.
-/
namespace CallGuard.Spec

/-! ### Canonical decimals -/

theorem exists_digitChar {c : Char} (digit : c.isDigit) : ∃ n < 10, c = n.digitChar := by
  have bounds : 48 ≤ c.toNat ∧ c.toNat ≤ 57 := by
    simpa [Char.isDigit, UInt32.le_iff_toNat_le] using digit
  refine ⟨c.toNat - 48, by omega, ?_⟩
  apply Char.toNat_inj.mp
  rw [Nat.toNat_digitChar_of_lt_ten (by omega)]
  omega

/-- Digits behind a positive number are appended to its own. -/
theorem toDigits_ofDigitChars_of_pos {n : Nat} (positive : 0 < n) {digits : List Char}
    (all : ∀ c ∈ digits, c.isDigit) :
    Nat.toDigits 10 (Nat.ofDigitChars 10 digits n) = Nat.toDigits 10 n ++ digits := by
  induction digits generalizing n with
  | nil => simp
  | cons c rest ih =>
    -- The first digit joins the number, which is still positive.
    obtain ⟨m, small, rfl⟩ := exists_digitChar (all c List.mem_cons_self)
    rw [Nat.ofDigitChars_cons_digitChar_of_lt_ten small,
      ih (by omega) fun d member => all d (List.mem_cons_of_mem _ member),
      ← Nat.toDigits_append_toDigits (by omega) positive small, Nat.toDigits_of_lt_base small]
    simp

/-- A canonical decimal is the text of its number. -/
theorem toDigits_ofDigitChars {digits : List Char} (canonical : isCanonicalDecimal digits) :
    Nat.toDigits 10 (Nat.ofDigitChars 10 digits 0) = digits := by
  simp only [isCanonicalDecimal, Bool.and_eq_true, Bool.or_eq_true, List.all_eq_true,
    beq_iff_eq, bne_iff_ne, ne_eq, Bool.not_eq_true', List.isEmpty_eq_false_iff] at canonical
  obtain ⟨⟨nonempty, all⟩, leading⟩ := canonical
  cases digits with
  | nil => exact absurd rfl nonempty
  | cons c rest =>
    obtain ⟨n, small, rfl⟩ := exists_digitChar (all c List.mem_cons_self)
    rw [Nat.ofDigitChars_cons_digitChar_of_lt_ten small, Nat.mul_zero, Nat.zero_add]
    cases n with
    | zero =>
      -- A leading zero stands alone.
      have alone : rest = [] := by simpa using leading
      rw [alone]
      rfl
    | succ n =>
      rw [toDigits_ofDigitChars_of_pos (Nat.succ_pos n)
        fun d member => all d (List.mem_cons_of_mem _ member), Nat.toDigits_of_lt_base small]
      rfl

theorem head?_toDigits_ne {n : Nat} (positive : 0 < n) :
    (Nat.toDigits 10 n).head? ≠ some '0' := by
  induction n using Nat.strongRecOn with
  | ind n ih =>
    by_cases small : n < 10
    · rw [Nat.toDigits_of_lt_base small]
      simp
      omega
    · have shorter := ih (n / 10) (by omega) (by omega)
      rw [Nat.toDigits_of_base_le (by omega) (by omega), List.head?_append]
      cases head : (Nat.toDigits 10 (n / 10)).head? with
      | none => exact absurd (List.head?_eq_none_iff.mp head) Nat.toDigits_ne_nil
      | some c => simpa [head] using shorter

theorem isCanonicalDecimal_toDigits (n : Nat) : isCanonicalDecimal (Nat.toDigits 10 n) := by
  have nonempty : (Nat.toDigits 10 n).isEmpty = false := by simp [Nat.toDigits_ne_nil]
  have all : (Nat.toDigits 10 n).all Char.isDigit = true :=
    List.all_eq_true.mpr fun _ member =>
      Nat.isDigit_of_mem_toDigits (by decide) (by decide) member
  cases n with
  | zero => rfl
  | succ n =>
    have leading := head?_toDigits_ne (Nat.succ_pos n)
    simp [isCanonicalDecimal, nonempty, all, leading]

/-! ### Keys -/

theorem toString_injective {m n : Nat} (same : toString m = toString n) : m = n := by
  have digits : Nat.toDigits 10 m = Nat.toDigits 10 n := by
    simpa using congrArg String.toList same
  rw [← Nat.ofDigitChars_ten_toDigits (n := m), digits, Nat.ofDigitChars_ten_toDigits]

theorem toString_ne_fallbackWord (n : Nat) : toString n ≠ fallbackWord := by
  intro same
  -- The word has letters.
  have member : 'd' ∈ Nat.toDigits 10 n := by
    rw [← Nat.toList_repr, ← Nat.toString_eq_repr, same]
    decide
  have digit := Nat.isDigit_of_mem_toDigits (by decide) (by decide) member
  exact absurd digit (by decide)

namespace Key

/-- The text of a number is a key exactly if the number is an index. -/
theorem parse?_toString (n : Nat) : parse? (toString n) = (indexOf? n).map index := by
  rw [parse?, if_neg (toString_ne_fallbackWord n), Nat.toString_eq_repr, Nat.toList_repr,
    if_pos (isCanonicalDecimal_toDigits n), Nat.ofDigitChars_ten_toDigits]

theorem parse?_text (k : Key) : parse? k.text = some k := by
  cases k with
  | index i => rw [text, parse?_toString, indexOf?_toNat, Option.map_some]
  | fallback => rfl

theorem text_injective {k l : Key} (same : k.text = l.text) : k = l := by
  have read := parse?_text k
  rw [same, parse?_text] at read
  exact (Option.some.inj read).symm

theorem text_of_parse? {s : String} {k : Key} (read : parse? s = some k) : k.text = s := by
  unfold parse? at read
  split at read
  next word =>
    cases read
    exact word.symm
  · split at read
    next canonical =>
      obtain ⟨i, found, rfl⟩ := Option.map_eq_some_iff.mp read
      have number := indexOf?_eq_some_iff.mp found
      apply String.toList_inj.mp
      rw [text, number, Nat.toString_eq_repr, Nat.toList_repr, toDigits_ofDigitChars canonical]
    · cases read

theorem isSome_parse?_iff {s : String} :
    (parse? s).isSome ↔ s = fallbackWord ∨ ∃ n < UInt64.size, s = toString n := by
  constructor
  · intro read
    obtain ⟨k, found⟩ := Option.isSome_iff_exists.mp read
    have same := (text_of_parse? found).symm
    cases k with
    | index i => exact .inr ⟨i.toNat, i.toNat_lt, same⟩
    | fallback => exact .inl same
  · rintro (rfl | ⟨n, inRange, rfl⟩)
    · rfl
    · rw [parse?_toString, indexOf?, dif_pos inRange]
      rfl

/-- A key is read from its own text and from no other string. -/
theorem parse?_eq_some_iff {s : String} {k : Key} : parse? s = some k ↔ s = k.text :=
  ⟨fun read => (text_of_parse? read).symm, fun same => same ▸ parse?_text k⟩

end Key

end CallGuard.Spec
