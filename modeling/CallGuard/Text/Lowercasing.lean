/-!
# Lower case

Unicode makes small letters of many characters, and of two outside ASCII it makes letters of ASCII.
Main statement: a word without these two letters is found by folding ASCII alone wherever it is
found by lower case as Unicode has it (`Lowercasing.lookup_lower`).
-/
namespace CallGuard.Text

/-! ### Letters of ASCII -/

theorem isUpper_iff (c : Char) : c.isUpper ↔ 65 ≤ c.toNat ∧ c.toNat ≤ 90 :=
  decide_eq_true_iff

theorem toNat_toLower (c : Char) :
    c.toLower.toNat = if c.isUpper then c.toNat + 32 else c.toNat := by
  unfold Char.toLower
  split
  next upper =>
    have range : c.val.toNat ≤ 90 := upper.2
    rw [if_pos ((isUpper_iff c).mpr upper)]
    change (c.val + 32).toNat = c.val.toNat + 32
    rw [UInt32.toNat_add]
    change (c.val.toNat + 32) % 2 ^ 32 = c.val.toNat + 32
    omega
  next other => rw [if_neg fun upper => other ((isUpper_iff c).mp upper)]

theorem toLower_of_foreign {c : Char} (foreign : 128 ≤ c.toNat) : c.toLower = c := by
  rw [← Char.toNat_inj, toNat_toLower, if_neg]
  rw [isUpper_iff]
  omega

/-- A character of ASCII that is no capital, and neither of the letters that characters outside
ASCII become. -/
def isPlain (c : Char) : Bool := c.toNat < 128 && !c.isUpper && c != 'i' && c != 'k'

/-- Folding brings nothing from outside ASCII into a plain word. -/
theorem ascii_of_map_toLower {text word : List Char} (plain : word.all isPlain)
    (same : text.map Char.toLower = word) {c : Char} (member : c ∈ text) : c.toNat < 128 := by
  refine Nat.lt_of_not_le fun foreign => ?_
  have kept : c ∈ word := same ▸ List.mem_map.mpr ⟨c, member, toLower_of_foreign foreign⟩
  have small := List.all_eq_true.mp plain c kept
  simp only [isPlain, Bool.and_eq_true, decide_eq_true_eq] at small
  omega

/-! ### Lower case in all of Unicode -/

/-- The capital I with a dot; its small letter is an i and a dot above. -/
def dottedCapital : Char := Char.ofNat 0x130

/-- The sign of the unit of temperature; its small letter is the k. -/
def kelvinSign : Char := Char.ofNat 0x212A

/-- Lower case as Unicode has it. What a character becomes may depend on what stands around it, as
with a sigma at the end of a word, but of characters outside ASCII only two become anything in
ASCII. -/
structure Lowercasing where
  /-- What a character becomes between what stands before and behind it. -/
  image (before : List Char) (c : Char) (behind : List Char) : List Char
  ascii {before : List Char} {c : Char} {behind : List Char} :
    c.toNat < 128 → image before c behind = [c.toLower]
  dotted {before behind : List Char} : image before dottedCapital behind = ['i', Char.ofNat 0x307]
  kelvin {before behind : List Char} : image before kelvinSign behind = ['k']
  other {before : List Char} {c : Char} {behind : List Char} :
    128 ≤ c.toNat → c ≠ dottedCapital → c ≠ kelvinSign →
      image before c behind ≠ [] ∧ ∀ d ∈ image before c behind, 128 ≤ d.toNat

namespace Lowercasing

/-- The least there is: outside ASCII only the two exceptions are changed. -/
def ofAscii : Lowercasing where
  image _ c _ :=
    if c = dottedCapital then ['i', Char.ofNat 0x307]
    else if c = kelvinSign then ['k']
    else [c.toLower]
  ascii {_ c _} small := by
    have notDotted : c ≠ dottedCapital := by
      rintro rfl
      exact absurd small (by decide)
    have notKelvin : c ≠ kelvinSign := by
      rintro rfl
      exact absurd small (by decide)
    rw [if_neg notDotted, if_neg notKelvin]
  dotted := rfl
  kelvin := rfl
  other {_ c _} foreign notDotted notKelvin := by
    rw [if_neg notDotted, if_neg notKelvin, toLower_of_foreign foreign]
    simpa using foreign

def lowerFrom (L : Lowercasing) (before : List Char) : List Char → List Char
  | [] => []
  | c :: behind => L.image before c behind ++ L.lowerFrom (before ++ [c]) behind

def lower (L : Lowercasing) (s : String) : String := String.ofList (L.lowerFrom [] s.toList)

variable {before behind : List Char} {c : Char}

/-- Whatever a character outside ASCII becomes, it is not plain throughout. -/
theorem exists_not_plain (L : Lowercasing) (foreign : 128 ≤ c.toNat) :
    ∃ d ∈ L.image before c behind, isPlain d = false := by
  by_cases dotted : c = dottedCapital
  · rw [dotted, L.dotted]
    exact ⟨'i', List.mem_cons_self, by decide⟩
  · by_cases kelvin : c = kelvinSign
    · rw [kelvin, L.kelvin]
      exact ⟨'k', List.mem_cons_self, by decide⟩
    · obtain ⟨nonempty, outside⟩ := L.other foreign dotted kelvin
      obtain ⟨d, member⟩ := List.exists_mem_of_ne_nil _ nonempty
      have large := outside d member
      exact ⟨d, member, by simp [isPlain]; omega⟩

theorem lowerFrom_eq_iff (L : Lowercasing) {text word : List Char} (plain : word.all isPlain) :
    L.lowerFrom before text = word ↔ text.map Char.toLower = word := by
  -- In general over what stands before, since an image may depend on it.
  induction text generalizing before word with
  | nil => rfl
  | cons c rest ih =>
    rw [lowerFrom]
    by_cases foreign : 128 ≤ c.toNat
    · -- Then neither side can be the word: on both there is a character that is not plain.
      constructor
      · rintro rfl
        obtain ⟨d, member, notPlain⟩ : ∃ d ∈ L.image before c rest, isPlain d = false :=
          L.exists_not_plain foreign
        have contra := List.all_eq_true.mp plain d (List.mem_append_left _ member)
        simp [notPlain] at contra
      · intro same
        have small := ascii_of_map_toLower plain same List.mem_cons_self
        omega
    · rw [L.ascii (by omega), List.map_cons]
      cases word with
      | nil => simp
      | cons d more =>
        simp only [List.all_cons, Bool.and_eq_true] at plain
        simp only [List.singleton_append, List.cons.injEq, ih plain.2]

/-- Folding ASCII alone finds a plain word wherever lower case does. -/
theorem lower_eq_iff (L : Lowercasing) {text word : String} (plain : word.toList.all isPlain) :
    L.lower text = word ↔ text.toLower = word := by
  have left : L.lower text = word ↔ L.lowerFrom [] text.toList = word.toList := by
    rw [← String.toList_inj, lower, String.toList_ofList]
  rw [left, L.lowerFrom_eq_iff plain, ← String.toList_map, String.toList_inj]
  rfl

theorem lookup_lower {α : Type} (L : Lowercasing) (text : String) {words : List (String × α)}
    (plain : ∀ w ∈ words, w.1.toList.all isPlain) :
    words.lookup (L.lower text) = words.lookup text.toLower := by
  induction words with
  | nil => rfl
  | cons w rest ih =>
    obtain ⟨here, later⟩ := List.forall_mem_cons.mp plain
    have same : (L.lower text == w.1) = (text.toLower == w.1) := by
      rw [Bool.eq_iff_iff, beq_iff_eq, beq_iff_eq, L.lower_eq_iff here]
    rw [List.lookup_cons, List.lookup_cons, same, ih later]

end Lowercasing

end CallGuard.Text
