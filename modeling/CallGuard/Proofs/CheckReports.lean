import CallGuard.Guard
import CallGuard.Proofs.Verdicts
import CallGuard.Telemetry.Event

/-!
# Reports of checks

What a check leaves in the log, record by record. A scan reports the checked arguments in front of
the place where it stops, and the guard adds one record of a mismatch, whose kind is all that the
fail modes differ in. Main statement: the complete log and result of a check under every
configuration.
-/
namespace CallGuard

namespace Spec

/-- The report on an argument that passes, if it is checked at all. -/
def acceptance? (s : Spec) (position : Nat) : Option Record :=
  (s.applicable? position).map fun (d, origin) => { event := .accepted position d.name origin }

/-- The reports on the arguments in front of a position, all of which pass. -/
def acceptances (s : Spec) (stop : Nat) : List Record :=
  (List.range stop).filterMap s.acceptance?

variable {s : Spec} {position : Nat} {args : List Value} {m : Mismatch}

/-! ### The scan -/

/-- One step: the first argument is reported if it is checked and passes. -/
theorem records_validateFrom_cons (s : Spec) (position : Nat) (v : Value) (rest : List Value) :
    (s.validateFrom position (v :: rest)).records =
      match s.mismatchAt? position v with
      | none => (s.acceptance? position).toList ++ (s.validateFrom (position + 1) rest).records
      | some _ => [] := by
  rw [validateFrom, mismatchAt?, acceptance?]
  cases s.applicable? position with
  | none => rfl
  | some pair =>
    obtain ⟨d, origin⟩ := pair
    cases admitted : d.admits v <;> simp [admitted]

/-- A scan that stops after `n` arguments has reported just these. -/
theorem records_validateFrom {n : Nat} (inside : n ≤ args.length)
    (before : ∀ j w, j < n → args[j]? = some w → s.mismatchAt? (position + j) w = none)
    (stop : ∀ w, args[n]? = some w → s.mismatchAt? (position + n) w ≠ none) :
    (s.validateFrom position args).records =
      (List.range' position n).filterMap s.acceptance? := by
  induction n generalizing position args with
  | zero =>
    -- The arguments are used up, or the first one that is left does not match.
    cases args with
    | nil => rfl
    | cons v rest =>
      obtain ⟨m, mismatch⟩ := Option.ne_none_iff_exists'.mp (stop v rfl)
      rw [records_validateFrom_cons, show s.mismatchAt? position v = some m from mismatch]
      rfl
  | succ n ih =>
    cases args with
    | nil => cases inside
    | cons v rest =>
      have shift (j : Nat) : position + 1 + j = position + (j + 1) := by omega
      have passes : s.mismatchAt? position v = none := before 0 v (Nat.succ_pos n) rfl
      have others := @ih (position + 1) rest (Nat.le_of_succ_le_succ inside)
        (fun j w below found => shift j ▸ before (j + 1) w (Nat.succ_lt_succ below) found)
        (fun w found => shift n ▸ stop w found)
      rw [records_validateFrom_cons, passes, others, List.range'_succ, List.filterMap_cons]
      cases s.acceptance? position <;> rfl

theorem records_validate_of_ok (accepted : s.Verdict args (.ok ())) :
    (s.validate args).records = s.acceptances args.length := by
  rw [acceptances, List.range_eq_range']
  refine records_validateFrom (Nat.le_refl _) (fun j w _ found => ?_) (fun w found => ?_)
  · rw [Nat.zero_add, mismatchAt?_eq_none_iff_passes]
    exact verdict_ok_iff.mp accepted j w found
  · -- Behind the last argument there is none.
    simp at found

theorem records_validate_of_error (rejected : s.Verdict args (.error m)) :
    (s.validate args).records = s.acceptances m.position := by
  obtain ⟨v, there, mismatch, before⟩ := verdict_error_iff.mp rejected
  rw [acceptances, List.range_eq_range']
  refine records_validateFrom ?_ (fun j w below found => ?_) (fun w found => ?_)
  · exact Nat.le_of_lt (List.getElem?_eq_some_iff.mp there).1
  · rw [Nat.zero_add, mismatchAt?_eq_none_iff_passes]
    exact before j w below found
  · cases there.symm.trans found
    simp [mismatch]

/-! ### The reports -/

theorem mem_acceptances_iff {stop : Nat} {r : Record} :
    r ∈ s.acceptances stop ↔ ∃ i < stop, ∃ d origin, s.Applies i d origin ∧
      r = { event := .accepted i d.name origin } := by
  simp only [acceptances, acceptance?, List.mem_filterMap, List.mem_range, Option.map_eq_some_iff,
    applies_iff]
  refine exists_congr fun i => and_congr_right fun _ => ?_
  constructor
  · rintro ⟨⟨d, origin⟩, applies, rfl⟩
    exact ⟨d, origin, applies, rfl⟩
  · rintro ⟨d, origin, applies, rfl⟩
    exact ⟨(d, origin), applies, rfl⟩

theorem level_of_mem_acceptances {stop : Nat} {r : Record} (member : r ∈ s.acceptances stop) :
    r.event.level = .trace := by
  obtain ⟨_, _, _, _, _, rfl⟩ := mem_acceptances_iff.mp member
  rfl

end Spec

namespace Guard

variable {F R : Type} {g : Guard F} {args : List Value} {m : Mismatch}

/-! ### The check -/

theorem check_of_disabled (disabled : g.config.enabled = false) : g.check args = pure (.ok ()) := by
  simp [check, disabled]

theorem check_of_ok (enabled : g.config.enabled) (accepted : g.spec.Verdict args (.ok ())) :
    g.check args = ⟨.ok (), g.spec.acceptances args.length⟩ := by
  have value := Spec.value_validate_eq_iff.mpr accepted
  ext1 <;> simp [check, enabled, value, Spec.records_validate_of_ok accepted]

theorem check_of_error_closed (enabled : g.config.enabled) (closed : g.config.failMode = .closed)
    (rejected : g.spec.Verdict args (.error m)) :
    g.check args =
      ⟨.error m, g.spec.acceptances m.position ++ [{ event := .rejected m }]⟩ := by
  have value := Spec.value_validate_eq_iff.mpr rejected
  ext1 <;> simp [check, enabled, closed, value, Spec.records_validate_of_error rejected]

theorem check_of_error_logOnly (enabled : g.config.enabled) (lenient : g.config.failMode = .logOnly)
    (rejected : g.spec.Verdict args (.error m)) :
    g.check args =
      ⟨.ok (), g.spec.acceptances m.position ++ [{ event := .mismatchIgnored m }]⟩ := by
  have value := Spec.value_validate_eq_iff.mpr rejected
  ext1 <;> simp [check, enabled, lenient, value, Spec.records_validate_of_error rejected]

theorem records_delegate (g : Guard F) (args : List Value) (run : F → R) :
    (g.delegate args run).records = (g.check args).records := by
  rw [delegate, Logged.records_bind]
  cases (g.check args).value <;> exact List.append_nil _

/-- A mismatch is all that a lenient guard warns of. -/
theorem warns_iff_rejects {lenient closed : Guard F} (same : lenient.spec = closed.spec)
    (lenientOn : lenient.config = ⟨true, .logOnly⟩) (closedOn : closed.config = ⟨true, .closed⟩) :
    (∃ r ∈ (lenient.check args).records, r.event.level = .warn) ↔
      ∃ m, (closed.check args).value = .error m := by
  have verdict := Spec.value_validate_eq_iff.mp (Eq.refl (closed.spec.validate args).value)
  cases result : (closed.spec.validate args).value with
  | ok =>
    rw [result] at verdict
    rw [check_of_ok (by rw [lenientOn]) (same ▸ verdict), check_of_ok (by rw [closedOn]) verdict]
    constructor
    · rintro ⟨r, member, warning⟩
      rw [Spec.level_of_mem_acceptances member] at warning
      cases warning
    · rintro ⟨m, ⟨⟩⟩
  | error m =>
    rw [result] at verdict
    rw [check_of_error_logOnly (by rw [lenientOn]) (by rw [lenientOn]) (same ▸ verdict),
      check_of_error_closed (by rw [closedOn]) (by rw [closedOn]) verdict]
    exact ⟨fun _ => ⟨m, rfl⟩, fun _ => ⟨_, List.mem_append_right _ List.mem_cons_self, rfl⟩⟩

/-! ### Main result -/

/-- The complete result and log of a check. An enabled guard reports each checked argument in front
of the first mismatch, or all of them, in ascending order of position; then a closed one reports
that it rejects the mismatch which it returns, and a lenient one warns of the same mismatch and
accepts. So one warns exactly if the other rejects. A disabled guard accepts and reports nothing,
and calls report what their check does. -/
theorem check_reports (spec : Spec) (args : List Value) (target : F) :
    let guard (enabled : Bool) (failMode : FailMode) : Guard F :=
      { spec, config := { enabled, failMode }, target }
    let fields (m : Mismatch) : List (String × FieldValue) :=
      [("position", .number m.position), ("expected", .text m.expected),
        ("found", .text m.found.text), ("origin", .text m.origin.text)]
    (∃ result, spec.Verdict args result) ∧
    (spec.Verdict args (.ok ()) → ∀ mode,
      (guard true mode).check args = ⟨.ok (), spec.acceptances args.length⟩) ∧
    (∀ m, spec.Verdict args (.error m) →
      (guard true .closed).check args =
        ⟨.error m, spec.acceptances m.position ++ [{ event := .rejected m }]⟩ ∧
      (guard true .logOnly).check args =
        ⟨.ok (), spec.acceptances m.position ++ [{ event := .mismatchIgnored m }]⟩) ∧
    ((∃ r ∈ ((guard true .logOnly).check args).records, r.event.level = .warn) ↔
      ∃ m, ((guard true .closed).check args).value = .error m) ∧
    (∀ mode, (guard false mode).check args = ⟨.ok (), []⟩) ∧
    (∀ (R : Type) (g : Guard (List Value → R)), (g.call args).records = (g.check args).records) ∧
    (∀ (C R : Type) (g : Guard (C → List Value → R)) (receiver : C),
      (g.callOn receiver args).records = (g.check args).records) ∧
    (∀ stop r, r ∈ spec.acceptances stop ↔ ∃ i < stop, ∃ d origin, spec.Applies i d origin ∧
      r = { event := .accepted i d.name origin }) ∧
    (∀ position expected origin,
      Record.publication { event := .accepted position expected origin } =
        ⟨.trace, none, some "argument accepted", [("position", .number position),
          ("expected", .text expected), ("origin", .text origin.text)]⟩) ∧
    ∀ m, Record.publication { event := .rejected m } =
        ⟨.debug, none, some "argument rejected", fields m⟩ ∧
      Record.publication { event := .mismatchIgnored m } =
        ⟨.warn, none, some "argument type mismatch ignored", fields m⟩ := by
  intro guard fields
  refine ⟨⟨_, Spec.value_validate_eq_iff.mp rfl⟩, ?_, ?_, warns_iff_rejects rfl rfl rfl, ?_, ?_, ?_,
    fun _ _ => Spec.mem_acceptances_iff, fun _ _ _ => rfl, fun _ => ⟨rfl, rfl⟩⟩
  · intro accepted mode
    exact check_of_ok rfl accepted
  · intro m rejected
    exact ⟨check_of_error_closed rfl rfl rejected, check_of_error_logOnly rfl rfl rejected⟩
  · intro mode
    exact check_of_disabled rfl
  · intro R g
    exact g.records_delegate args _
  · intro C R g receiver
    exact g.records_delegate args _

/-- A position without a descriptor leaves a gap in the log, in front of an instance of the wrong
one of two classes of the same name. -/
theorem check_reports_gap :
    let spec := (Spec.empty.withEntry 0 .number).withEntry 2 (.ofClass Forest.junior)
    let args : List Value := [.number default, .null, .nominal ⟨Forest.elder, .unit, 0⟩, .null]
    let m : Mismatch := ⟨2, "Widget", .nominal, .positional⟩
    spec.Verdict args (.error m) ∧
    (Guard.mk spec { failMode := .closed } ()).check args =
      ⟨.error m, [{ event := .accepted 0 "Number" .positional }, { event := .rejected m }]⟩ ∧
    (Guard.mk spec { failMode := .logOnly } ()).check args =
      ⟨.ok (), [{ event := .accepted 0 "Number" .positional }, { event := .mismatchIgnored m }]⟩ ∧
    spec.Verdict (args.take 2) (.ok ()) ∧
    (Guard.mk spec {} ()).check (args.take 2) =
      ⟨.ok (), [{ event := .accepted 0 "Number" .positional }]⟩ := by
  intro spec args m
  have rejected : spec.Verdict args (.error m) := Spec.value_validate_eq_iff.mp rfl
  have accepted : spec.Verdict (args.take 2) (.ok ()) := Spec.value_validate_eq_iff.mp rfl
  obtain ⟨closed, lenient⟩ := (check_reports spec args ()).2.2.1 m rejected
  exact ⟨rejected, closed, lenient, accepted,
    (check_reports spec (args.take 2) ()).2.1 accepted .closed⟩

end Guard

end CallGuard
