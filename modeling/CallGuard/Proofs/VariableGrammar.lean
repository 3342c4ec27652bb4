import CallGuard.Proofs.Layers
import CallGuard.Proofs.Spelling

/-!
# What the configuration variables take

Each variable takes a few words, with blanks around them. The one for the fail mode takes its words
in any letter case, the one for `enabled` only as they are. Main statement: what a build makes of a
single binding of either variable, for every text it may hold.
-/
namespace CallGuard

/-! ### The fail mode -/

namespace FailMode

/-- The words for a fail mode, in small letters. -/
inductive Writes : FailMode → String → Prop
  | closed : Writes closed "closed"
  | underscored : Writes logOnly "log_only"
  | joined : Writes logOnly "logonly"
  | hyphenated : Writes logOnly "log-only"

/-- Without the blanks at either end, the text is a word for the mode in any letter case of
ASCII. -/
def WrittenBy (mode : FailMode) (raw : String) : Prop :=
  ∃ core word, Text.Trims raw core ∧ mode.Writes word ∧ Text.SpelledAs core word

variable {mode : FailMode} {raw word : String}

theorem Writes.plain (writes : mode.Writes word) : word.toList.all Text.isPlain := by
  cases writes <;> decide

theorem lookup_spellings_iff : spellings.lookup word = some mode ↔ mode.Writes word := by
  constructor
  · intro found
    obtain ⟨front, back, split, -⟩ := List.lookup_eq_some_iff.mp found
    have member : (word, mode) ∈ spellings := by simp [split]
    simp only [spellings, List.mem_cons, Prod.mk.injEq, List.not_mem_nil, or_false] at member
    rcases member with ⟨rfl, rfl⟩ | ⟨rfl, rfl⟩ | ⟨rfl, rfl⟩ | ⟨rfl, rfl⟩
    · exact .closed
    · exact .underscored
    · exact .joined
    · exact .hyphenated
  · intro writes
    cases writes <;> decide

theorem parse?_eq_some_iff_writtenBy : parse? raw = some mode ↔ mode.WrittenBy raw := by
  rw [parse?, lookup_spellings_iff]
  constructor
  · intro writes
    exact ⟨_, _, Text.trims_trim raw, writes,
      (Text.toLower_eq_iff_spelledAs writes.plain).mp rfl⟩
  · rintro ⟨core, word, trims, writes, spelled⟩
    rw [Text.trim_eq_iff.mpr trims, (Text.toLower_eq_iff_spelledAs writes.plain).mpr spelled]
    exact writes

/-- Nothing outside ASCII is read as a letter. -/
theorem ascii_of_writtenBy (written : mode.WrittenBy raw) {core : String}
    (trims : Text.Trims raw core) {c : Char} (member : c ∈ core.toList) : c.toNat < 128 := by
  obtain ⟨core', word, trims', writes, spelled⟩ := written
  obtain rfl := trims'.unique trims
  exact Text.ascii_of_map_toLower writes.plain
    ((Text.map_toLower_eq_iff writes.plain).mpr spelled) member

end FailMode

namespace Config

variable {Files : Type} (reader : SettingsReader Files) {base c : Config} {raw : String}
  {e : Error} {layer : Layer}

/-! ### Enabled or not -/

def enabledWord : Bool → String
  | true => "true"
  | false => "false"

theorem parseEnabled?_eq_some_iff {enabled : Bool} :
    parseEnabled? raw = some enabled ↔ Text.Trims raw (enabledWord enabled) := by
  rw [← Text.trim_eq_iff, parseEnabled?]
  split
  next yes => cases enabled <;> simp [yes, enabledWord]
  next no => cases enabled <;> simp [no, enabledWord]
  next notYes notNo =>
    cases enabled with
    | true => simpa [enabledWord] using notYes
    | false => simpa [enabledWord] using notNo

/-! ### A single binding -/

/-- The configuration with the field set that the variable is for, if it takes the text. -/
def set? (c : Config) : Error → String → Option Config
  | .badEnabled, raw => (parseEnabled? raw).map c.withEnabled
  | .badFailMode, raw => (FailMode.parse? raw).map c.withFailMode

theorem bindings_eq (layer : Layer) :
    layer.bindings =
      ((layer enabledVariable).map (Error.badEnabled, ·)).toList ++
        ((layer failModeVariable).map (Error.badFailMode, ·)).toList := by
  rw [Layer.bindings]
  cases enabled : layer enabledVariable <;> cases failMode : layer failModeVariable <;>
    simp [Error.key, enabled, failMode]

theorem set?_failMode_eq_some_iff :
    base.set? .badFailMode raw = some c ↔
      ∃ mode : FailMode, mode.WrittenBy raw ∧ c = base.withFailMode mode := by
  simp only [set?, Option.map_eq_some_iff, FailMode.parse?_eq_some_iff_writtenBy, @eq_comm _ c]

theorem set?_failMode_eq_none_iff :
    base.set? .badFailMode raw = none ↔ ∀ mode : FailMode, ¬mode.WrittenBy raw := by
  rw [set?, Option.map_eq_none_iff, Option.eq_none_iff_forall_ne_some]
  simp only [ne_eq, FailMode.parse?_eq_some_iff_writtenBy]

theorem set?_enabled_eq_some_iff :
    base.set? .badEnabled raw = some c ↔
      ∃ enabled, Text.Trims raw (enabledWord enabled) ∧ c = base.withEnabled enabled := by
  simp only [set?, Option.map_eq_some_iff, parseEnabled?_eq_some_iff, @eq_comm _ c]

theorem set?_enabled_eq_none_iff :
    base.set? .badEnabled raw = none ↔ ∀ enabled, ¬Text.Trims raw (enabledWord enabled) := by
  rw [set?, Option.map_eq_none_iff, Option.eq_none_iff_forall_ne_some]
  simp only [ne_eq, parseEnabled?_eq_some_iff]

theorem apply_of_unbound (unbound : layer.bindings = []) (c : Config) : c.apply layer = .ok c := by
  rw [bindings_eq] at unbound
  cases enabled : layer enabledVariable with
  | some raw => simp [enabled] at unbound
  | none =>
    cases failMode : layer failModeVariable with
    | some raw => simp [failMode] at unbound
    | none => simp [apply, enabled, failMode]; rfl

theorem apply_of_sole (sole : layer.bindings = [(e, raw)]) (c : Config) :
    c.apply layer = (c.set? e raw).elim (.error e) .ok := by
  rw [bindings_eq] at sole
  cases enabled : layer enabledVariable with
  | some text =>
    cases failMode : layer failModeVariable with
    | some text' => simp [enabled, failMode] at sole
    | none =>
      obtain ⟨rfl, rfl⟩ : Error.badEnabled = e ∧ text = raw := by
        simpa [enabled, failMode] using sole
      cases parsed : parseEnabled? text <;> simp [apply, set?, enabled, failMode, parsed] <;> rfl
  | none =>
    cases failMode : layer failModeVariable with
    | none => simp [enabled, failMode] at sole
    | some text =>
      obtain ⟨rfl, rfl⟩ : Error.badFailMode = e ∧ text = raw := by
        simpa [enabled, failMode] using sole
      cases parsed : FailMode.parse? text <;> simp [apply, set?, enabled, failMode, parsed] <;> rfl

theorem settle_of_sole {surroundings : Option (Surroundings Files)}
    {vars : List (String × String)}
    (sole : (environmentLayer reader surroundings).bindings ++ (overrideLayer vars).bindings =
      [(e, raw)]) (base : Config) :
    (Request.of base surroundings vars).settle reader =
      (base.set? e raw).elim (.error e) .ok := by
  rw [settle_of]
  rcases List.append_eq_singleton_iff.mp sole with ⟨low, high⟩ | ⟨low, high⟩
  · rw [apply_of_unbound low]
    exact apply_of_sole high base
  · rw [apply_of_sole low]
    -- The overrides bind nothing, so they leave what the environment has set.
    cases base.set? e raw with
    | none => rfl
    | some c => exact apply_of_unbound high c

theorem value_resolve_of_sole {surroundings : Option (Surroundings Files)}
    {vars : List (String × String)}
    (sole : (environmentLayer reader surroundings).bindings ++ (overrideLayer vars).bindings =
      [(e, raw)]) (base : Config) :
    let outcome := ((Request.of base surroundings vars).resolve reader).value
    (∀ c, outcome = .ok c ↔ base.set? e raw = some c) ∧
    (outcome = .error e ↔ base.set? e raw = none) := by
  rw [value_resolve, settle_of_sole reader sole]
  cases base.set? e raw <;> simp

theorem sole_override (e : Error) (raw : String) :
    (environmentLayer reader none).bindings ++ (overrideLayer [(e.key, raw)]).bindings =
      [(e, raw)] := by
  rw [bindings_eq, bindings_eq]
  cases e <;> rfl

/-! ### Main result -/

/-- A build whose single binding is of the fail mode succeeds exactly if the text is a word for a
mode, in any letter case of ASCII and with blanks around it; folding letter case in all of Unicode
makes no difference. A build whose single binding is of `enabled` succeeds exactly if the text is
one of two words as they are, with blanks around it. The other field is that of the base; any other
text is an error of the variable. -/
theorem resolve_sole_binding (base : Config) (surroundings : Option (Surroundings Files))
    (vars : List (String × String)) (raw : String) :
    let bindings :=
      (environmentLayer reader surroundings).bindings ++ (overrideLayer vars).bindings
    let outcome := ((Request.of base surroundings vars).resolve reader).value
    (bindings = [(.badFailMode, raw)] →
      (∀ c, outcome = .ok c ↔
        ∃ mode : FailMode, mode.WrittenBy raw ∧ c = base.withFailMode mode) ∧
      (outcome = .error .badFailMode ↔ ∀ mode : FailMode, ¬mode.WrittenBy raw) ∧
      ∀ core, Text.Trims raw core → (∃ c ∈ core.toList, 128 ≤ c.toNat) →
        outcome = .error .badFailMode) ∧
    (∀ L : Text.Lowercasing,
      FailMode.spellings.lookup (L.lower (Text.trim raw)) = FailMode.parse? raw) ∧
    (bindings = [(.badEnabled, raw)] →
      (∀ c, outcome = .ok c ↔
        ∃ enabled, Text.Trims raw (enabledWord enabled) ∧ c = base.withEnabled enabled) ∧
      (outcome = .error .badEnabled ↔ ∀ enabled, ¬Text.Trims raw (enabledWord enabled))) := by
  refine ⟨fun sole => ?_, fun L => FailMode.lookup_lower L raw, fun sole => ?_⟩
  · obtain ⟨accepted, rejected⟩ := value_resolve_of_sole reader sole base
    have refused := rejected.trans set?_failMode_eq_none_iff
    refine ⟨fun c => (accepted c).trans set?_failMode_eq_some_iff, refused, ?_⟩
    rintro core trims ⟨c, member, foreign⟩
    refine refused.mpr fun mode written => ?_
    have ascii := FailMode.ascii_of_writtenBy written trims member
    omega
  · obtain ⟨accepted, rejected⟩ := value_resolve_of_sole reader sole base
    exact ⟨fun c => (accepted c).trans set?_enabled_eq_some_iff,
      rejected.trans set?_enabled_eq_none_iff⟩

/-- Letter case and blanks outside ASCII do not matter for the fail mode, but a letter outside ASCII
does, however much it looks like one of the word; and for `enabled` letter case matters. -/
theorem resolve_sole_binding_lookalikes :
    let build (base : Config) (key raw : String) :=
      ((Request.of base none [(key, raw)]).resolve SettingsFile.reader).value
    build { enabled := false } "ARGGUARD_FAIL_MODE" "\u3000LoG-Only\u0085" =
      .ok { enabled := false, failMode := .logOnly } ∧
    build {} "ARGGUARD_FAIL_MODE" " clo\u017Fed" = .error .badFailMode ∧
    FailMode.spellings.lookup (Text.Lowercasing.ofAscii.lower (Text.trim " clo\u017Fed")) = none ∧
    build { failMode := .logOnly } "ARGGUARD_ENABLED" "\tfalse\n" =
      .ok { enabled := false, failMode := .logOnly } ∧
    build {} "ARGGUARD_ENABLED" "True" = .error .badEnabled := by
  intro build
  have written : FailMode.logOnly.WrittenBy "\u3000LoG-Only\u0085" :=
    ⟨"LoG-Only", "log-only", Text.trim_eq_iff.mp (by decide), .hyphenated,
      (Text.toLower_eq_iff_spelledAs (by decide)).mp (by decide +kernel)⟩
  have lookalike : Text.Trims " clo\u017Fed" "clo\u017Fed" := Text.trim_eq_iff.mp (by decide)
  have no : Text.Trims "\tfalse\n" (enabledWord false) := Text.trim_eq_iff.mp (by decide)
  have capital : Text.Trims "True" "True" := Text.trim_eq_iff.mp (by decide)
  have sole (e : Error) (raw : String) := sole_override SettingsFile.reader e raw
  obtain ⟨modes, -, -⟩ := resolve_sole_binding SettingsFile.reader { enabled := false } none
    [("ARGGUARD_FAIL_MODE", "\u3000LoG-Only\u0085")] "\u3000LoG-Only\u0085"
  obtain ⟨modes', folded, -⟩ := resolve_sole_binding SettingsFile.reader {} none
    [("ARGGUARD_FAIL_MODE", " clo\u017Fed")] " clo\u017Fed"
  obtain ⟨-, -, words⟩ := resolve_sole_binding SettingsFile.reader { failMode := .logOnly } none
    [("ARGGUARD_ENABLED", "\tfalse\n")] "\tfalse\n"
  obtain ⟨-, -, words'⟩ := resolve_sole_binding SettingsFile.reader {} none
    [("ARGGUARD_ENABLED", "True")] "True"
  refine ⟨?_, ?_, ?_, ?_, ?_⟩
  · exact ((modes (sole .badFailMode _)).1 _).mpr ⟨.logOnly, written, rfl⟩
  · exact (modes' (sole .badFailMode _)).2.2 _ lookalike ⟨'\u017F', by decide, by decide⟩
  · rw [folded]
    decide +kernel
  · exact ((words (sole .badEnabled _)).1 _).mpr ⟨false, no, rfl⟩
  · refine (words' (sole .badEnabled _)).2.mpr fun enabled trims => ?_
    cases enabled <;> exact absurd (capital.unique trims) (by decide)

end Config

end CallGuard
