import CallGuard.Text.Blank
import CallGuard.Text.Lowercasing
import Mathlib.Data.List.DropRight
import Mathlib.Data.List.Forall2

/-!
# Words in any letter case

A text is compared with a word after the blanks at its ends have been cut off and its letters have
been made small. Main statements: what trimming leaves (`trim_eq_iff`), and which texts become a
word of ASCII (`toLower_eq_iff_spelledAs`).
-/
namespace CallGuard.Text

/-! ### Trimming -/

/-- The core is the text without the blanks at either end. -/
structure Trims (raw core : String) : Prop where
  framed : ∃ front back : List Char, raw.toList = front ++ (core.toList ++ back) ∧
    (∀ c ∈ front, isBlank c) ∧ ∀ c ∈ back, isBlank c
  first : ∀ c, core.toList.head? = some c → isBlank c = false
  last : ∀ c, core.toList.getLast? = some c → isBlank c = false

theorem dropWhile_append_of_head {p : Char → Bool} {core back : List Char}
    (first : ∀ c, core.head? = some c → p c = false) (behind : ∀ c ∈ back, p c) :
    (core ++ back).dropWhile p = if core = [] then [] else core ++ back := by
  cases core with
  | nil => simpa using behind
  | cons c rest => simp [first c rfl]

theorem trimChars_append {front core back : List Char} (before : ∀ c ∈ front, isBlank c)
    (behind : ∀ c ∈ back, isBlank c) (first : ∀ c, core.head? = some c → isBlank c = false)
    (last : ∀ c, core.getLast? = some c → isBlank c = false) :
    trimChars (front ++ (core ++ back)) = core := by
  rw [trimChars, List.dropWhile_append_of_pos before, dropWhile_append_of_head first behind]
  by_cases empty : core = []
  · simp [empty]
  · -- From behind, the core stands first in the same way.
    have turned : ∀ c, core.reverse.head? = some c → isBlank c = false := by
      simpa only [List.head?_reverse] using last
    have kept : core.reverse.dropWhile isBlank = core.reverse := by
      have alone := dropWhile_append_of_head turned (List.forall_mem_nil _)
      rwa [List.append_nil, if_neg (by simpa using empty)] at alone
    rw [if_neg empty, List.reverse_append,
      List.dropWhile_append_of_pos fun c member => behind c (List.mem_reverse.mp member), kept,
      List.reverse_reverse]

theorem trims_trim (raw : String) : Trims raw (trim raw) := by
  let inner := raw.toList.dropWhile isBlank
  have core : (trim raw).toList = inner.rdropWhile isBlank := String.toList_ofList
  refine ⟨⟨raw.toList.takeWhile isBlank, inner.rtakeWhile isBlank, ?_, ?_, ?_⟩, ?_, ?_⟩
  · rw [core, List.rdropWhile_append_rtakeWhile, List.takeWhile_append_dropWhile]
  · exact fun c member => List.mem_takeWhile_imp member
  · exact fun c member => List.mem_rtakeWhile_imp member
  · intro c head
    -- What is cut off behind does not change what stands in front.
    obtain ⟨cut, whole⟩ := List.rdropWhile_prefix isBlank inner
    have front : inner.head? = some c := by
      rw [← whole, List.head?_append, ← core, head, Option.some_or]
    have kept := List.head?_dropWhile_not isBlank raw.toList
    rw [show raw.toList.dropWhile isBlank = inner from rfl, front] at kept
    exact kept
  · intro c tail
    rw [core] at tail
    by_cases empty : inner.rdropWhile isBlank = []
    · simp [empty] at tail
    · have kept := List.rdropWhile_last_not isBlank inner empty
      rw [List.getLast?_eq_some_getLast empty, Option.some.injEq] at tail
      simpa [tail] using kept

theorem trim_eq_iff {raw core : String} : trim raw = core ↔ Trims raw core := by
  constructor
  · rintro rfl
    exact trims_trim raw
  · rintro ⟨⟨front, back, framed, before, behind⟩, first, last⟩
    rw [trim, framed, trimChars_append before behind first last, String.ofList_toList]

theorem Trims.unique {raw core other : String} (left : Trims raw core) (right : Trims raw other) :
    core = other :=
  (trim_eq_iff.mpr left).symm.trans (trim_eq_iff.mpr right)

/-! ### Letters of ASCII -/

/-- The character is the letter or its capital. -/
def Spells (c letter : Char) : Prop := c = letter ∨ c.isUpper ∧ letter.toNat = c.toNat + 32

/-- The text is the word, but for the case of letters of ASCII. -/
def SpelledAs (text word : String) : Prop := List.Forall₂ Spells text.toList word.toList

theorem toLower_eq_iff {c d : Char} (plain : isPlain d) : c.toLower = d ↔ Spells c d := by
  have small : ¬d.isUpper := by
    simp only [isPlain, Bool.and_eq_true, Bool.not_eq_true'] at plain
    simp [plain.1.1.2]
  rw [← Char.toNat_inj, toNat_toLower, Spells, ← Char.toNat_inj]
  split
  next upper =>
    constructor
    · exact fun same => .inr ⟨upper, same.symm⟩
    · rintro (same | ⟨-, same⟩)
      · exact absurd (Char.toNat_inj.mp same ▸ upper) small
      · exact same.symm
  next other => simp [other]

theorem map_toLower_eq_iff {text word : List Char} (plain : word.all isPlain) :
    text.map Char.toLower = word ↔ List.Forall₂ Spells text word := by
  induction text generalizing word with
  | nil => cases word <;> simp
  | cons c rest ih =>
    cases word with
    | nil => simp
    | cons d more =>
      simp only [List.all_cons, Bool.and_eq_true] at plain
      simp only [List.map_cons, List.cons.injEq, List.forall₂_cons, toLower_eq_iff plain.1,
        ih plain.2]

theorem toLower_eq_iff_spelledAs {text word : String} (plain : word.toList.all isPlain) :
    text.toLower = word ↔ SpelledAs text word := by
  rw [SpelledAs, ← map_toLower_eq_iff plain, ← String.toList_map, String.toList_inj]
  rfl

end CallGuard.Text
