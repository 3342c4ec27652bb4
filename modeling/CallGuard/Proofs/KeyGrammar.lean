import CallGuard.Proofs.KeyText

/-!
# The grammar of specification keys

Besides the word for the fallback, the keys are the numerals of the numbers below `2 ^ 64`. Main
statement: reading accepts exactly these strings, and it is inverse to the texts of keys.
-/
namespace CallGuard.Spec

/-- ASCII digits, of which the first is no zero unless it is the only one. -/
structure IsNumeral (digits : List Char) : Prop where
  nonempty : digits ≠ []
  digit : ∀ c ∈ digits, '0' ≤ c ∧ c ≤ '9'
  leading : digits.head? = some '0' → digits = ['0']

/-- The sum of the digits, each at its place. -/
def placeValue : List Char → Nat
  | [] => 0
  | c :: rest => (c.toNat - '0'.toNat) * Nat.pow 10 rest.length + placeValue rest

/-! ### Numerals -/

theorem isDigit_iff (c : Char) : c.isDigit ↔ '0' ≤ c ∧ c ≤ '9' := by
  simp [Char.isDigit, Char.le_def]

theorem isCanonicalDecimal_iff (digits : List Char) :
    isCanonicalDecimal digits ↔ IsNumeral digits := by
  simp only [isCanonicalDecimal, Bool.and_eq_true, Bool.or_eq_true, List.all_eq_true,
    isDigit_iff, beq_iff_eq, bne_iff_ne, Bool.not_eq_true', List.isEmpty_eq_false_iff]
  constructor
  · rintro ⟨⟨nonempty, digit⟩, alone | leading⟩
    · exact ⟨nonempty, digit, fun _ => alone⟩
    · exact ⟨nonempty, digit, fun zero => absurd zero leading⟩
  · rintro ⟨nonempty, digit, leading⟩
    refine ⟨⟨nonempty, digit⟩, ?_⟩
    by_cases zero : digits.head? = some '0'
    · exact .inl (leading zero)
    · exact .inr zero

theorem ofDigitChars_eq_placeValue (digits : List Char) :
    Nat.ofDigitChars 10 digits 0 = placeValue digits := by
  induction digits with
  | nil => rfl
  | cons c rest ih =>
    -- The value read so far moves up by one place for each digit that follows.
    rw [Nat.ofDigitChars_cons, Nat.ofDigitChars_eq_ofDigitChars_zero, ih, placeValue, Nat.pow_eq,
      Nat.mul_zero, Nat.zero_add, Nat.mul_comm]

namespace Key

/-! ### Reading -/

theorem parse?_eq_fallback_iff (s : String) : parse? s = some fallback ↔ s = "default" :=
  parse?_eq_some_iff

theorem parse?_eq_index_iff (s : String) (i : UInt64) :
    parse? s = some (index i) ↔ IsNumeral s.toList ∧ placeValue s.toList = i.toNat := by
  rw [parse?_eq_some_iff, ← isCanonicalDecimal_iff, ← ofDigitChars_eq_placeValue]
  constructor
  · rintro rfl
    have digits : (index i).text.toList = Nat.toDigits 10 i.toNat := by
      rw [text, Nat.toString_eq_repr, Nat.toList_repr]
    rw [digits]
    exact ⟨isCanonicalDecimal_toDigits i.toNat, Nat.ofDigitChars_ten_toDigits⟩
  · rintro ⟨canonical, number⟩
    -- A canonical decimal is spelled by its number alone.
    apply String.toList_inj.mp
    rw [text, Nat.toString_eq_repr, Nat.toList_repr, ← number, toDigits_ofDigitChars canonical]

theorem parse?_eq_none_iff (s : String) :
    parse? s = none ↔
      s ≠ "default" ∧ ¬ (IsNumeral s.toList ∧ placeValue s.toList < UInt64.size) := by
  rw [Option.eq_none_iff_forall_ne_some]
  constructor
  · intro unread
    refine ⟨fun word => unread fallback ((parse?_eq_fallback_iff s).mpr word), ?_⟩
    rintro ⟨numeral, inRange⟩
    -- A numeral in range has an index, whose text it is.
    have number : (UInt64.ofNatLT (placeValue s.toList) inRange).toNat = placeValue s.toList :=
      UInt64.toNat_ofNatLT
    exact unread _ ((parse?_eq_index_iff s _).mpr ⟨numeral, number.symm⟩)
  · rintro ⟨noWord, noIndex⟩ k read
    cases k with
    | fallback => exact noWord ((parse?_eq_fallback_iff s).mp read)
    | index i =>
      obtain ⟨numeral, number⟩ := (parse?_eq_index_iff s i).mp read
      exact noIndex ⟨numeral, number ▸ i.toNat_lt⟩

/-- Reading accepts the word for the fallback and the numerals below `2 ^ 64`, nothing else; texts
of keys are read back, and what is read is the text of its key. -/
theorem parse?_accepts_and_inverts :
    (∀ s, (parse? s = some fallback ↔ s = "default") ∧
      (∀ i, parse? s = some (index i) ↔ IsNumeral s.toList ∧ placeValue s.toList = i.toNat) ∧
      (parse? s = none ↔
        s ≠ "default" ∧ ¬ (IsNumeral s.toList ∧ placeValue s.toList < UInt64.size))) ∧
    (∀ k, parse? k.text = some k) ∧
    (∀ s k, parse? s = some k → k.text = s) ∧
    (∀ s t k, parse? s = some k → parse? t = some k → s = t) := by
  refine ⟨fun s => ⟨parse?_eq_fallback_iff s, parse?_eq_index_iff s, parse?_eq_none_iff s⟩,
    parse?_text, fun s k => text_of_parse?, ?_⟩
  intro s t k first second
  rw [← text_of_parse? first, text_of_parse? second]

/-- The greatest index is read back from its text, and the next number names no entry. -/
theorem parse?_greatest_index :
    parse? "18446744073709551615" = some (index 18446744073709551615) ∧
    parse? "18446744073709551616" = none ∧
    (index 18446744073709551615).text = "18446744073709551615" := by
  obtain ⟨grammar, -, spelled, -⟩ := parse?_accepts_and_inverts
  have greatest : parse? "18446744073709551615" = some (index 18446744073709551615) :=
    ((grammar _).2.1 _).mpr ⟨(isCanonicalDecimal_iff _).mp (by decide), by decide⟩
  refine ⟨greatest, (grammar _).2.2.mpr ⟨by decide, fun numeral => ?_⟩, spelled _ _ greatest⟩
  exact absurd numeral.2 (by decide)

end Key

end CallGuard.Spec
