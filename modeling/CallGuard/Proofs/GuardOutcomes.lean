import CallGuard.Guard

/-!
# Outcomes of guards

What a build and a call return, apart from what they report: a build succeeds with the specification
that the source is normalized to, and a call that passes its check returns what the callable does.
-/
namespace CallGuard.Guard

variable {F R S : Type}

/-- The source alone decides whether there is a guard. -/
theorem value_build (source : Spec.Source) (target : F) (config : Config) :
    (build source target config).value =
      source.normalize.value.map fun spec => { spec, config, target } := by
  simp only [build, Logged.withinBuild, Logged.value_bind]
  cases source.normalize.value <;> rfl

theorem value_check_of_closed {g : Guard F} (enabled : g.config.enabled)
    (closed : g.config.failMode = .closed) (args : List Value) :
    (g.check args).value = (g.spec.validate args).value := by
  rw [check, if_pos enabled, Logged.value_bind]
  cases (g.spec.validate args).value with
  | ok => rfl
  | error m =>
    simp only [closed]
    rfl

theorem value_delegate (g : Guard F) (args : List Value) (run : F → R) :
    (g.delegate args run).value = (g.check args).value.map fun _ => run g.target := by
  rw [delegate, Logged.value_bind]
  cases (g.check args).value <;> rfl

theorem map_delegate (g : Guard F) (args : List Value) (run : F → R) (f : R → S) :
    Except.map f <$> g.delegate args run = g.delegate args fun target => f (run target) := by
  rw [delegate, delegate, map_bind]
  congr 1
  funext outcome
  cases outcome <;> rfl

theorem value_call (g : Guard (List Value → R)) (args : List Value) :
    (g.call args).value = (g.check args).value.map fun _ => g.target args :=
  value_delegate g args fun target => target args

end CallGuard.Guard
