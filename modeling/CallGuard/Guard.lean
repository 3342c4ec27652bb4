import CallGuard.Spec.Source
import CallGuard.Spec.Validation

/-!
# Guards

A guard is a callable with a specification and a configuration, all fixed when it is built. A call
validates its arguments before the callable runs; what the callable returns comes back untouched.
-/
namespace CallGuard

structure Guard (F : Type) where
  spec : Spec
  config : Config
  target : F

namespace Guard

variable {F R C : Type}

/-- Builds a guard, or reports why the source is no specification. -/
def build (source : Spec.Source) (target : F) (config : Config := {}) :
    Logged (Except Spec.Error (Guard F)) :=
  Logged.withinBuild do
    match ← source.normalize with
    | .ok spec =>
      Logged.report (.guardBuilt spec.entryCount spec.hasFallback config)
      pure (.ok { spec, config, target })
    | .error e =>
      Logged.report (.buildFailed e)
      pure (.error e)

/-- The guard with another callable in place of its own. -/
def withTarget {G : Type} (g : Guard F) (target : G) : Guard G :=
  { spec := g.spec, config := g.config, target }

/-- Validation alone, under the configuration. -/
def check (g : Guard F) (args : List Value) : Logged (Except Mismatch Unit) :=
  if g.config.enabled then do
    match ← g.spec.validate args with
    | .ok () => pure (.ok ())
    | .error m =>
      match g.config.failMode with
      | .closed =>
        Logged.report (.rejected m)
        pure (.error m)
      | .logOnly =>
        Logged.report (.mismatchIgnored m)
        pure (.ok ())
  else pure (.ok ())

/-- Checks the arguments; if they pass, the result of `run` on the callable. -/
def delegate (g : Guard F) (args : List Value) (run : F → R) : Logged (Except Mismatch R) := do
  match ← g.check args with
  | .ok () => pure (.ok (run g.target))
  | .error m => pure (.error m)

def call (g : Guard (List Value → R)) (args : List Value) : Logged (Except Mismatch R) :=
  g.delegate args fun target => target args

def callOn (g : Guard (C → List Value → R)) (receiver : C) (args : List Value) :
    Logged (Except Mismatch R) :=
  g.delegate args fun target => target receiver args

end Guard

inductive Failure where
  | invalidSpec (e : Spec.Error)
  | argument (m : Mismatch)
  deriving DecidableEq

namespace Failure

def message : Failure → String
  | invalidSpec e => e.message
  | argument m => m.message

def code : Failure → String
  | invalidSpec e => e.code
  | argument _ => Mismatch.code

def help? : Failure → Option String
  | invalidSpec e => some e.help
  | argument _ => none

end Failure

/-- Builds a guard with the default configuration and calls it once. -/
def Guard.buildAndCall {R : Type} (source : Spec.Source) (target : List Value → R)
    (args : List Value) : Logged (Except Failure R) := do
  match ← Guard.build source target with
  | .error e => pure (.error (.invalidSpec e))
  | .ok g => do
    match ← g.call args with
    | .error m => pure (.error (.argument m))
    | .ok result => pure (.ok result)

end CallGuard
