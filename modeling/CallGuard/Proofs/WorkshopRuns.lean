import CallGuard.Proofs.GuardOutcomes
import CallGuard.Workshop

/-!
# Runs of workshops

Everything that is done in a workshop, one operation after the other, with a record of what came of
it. A record alone tells what each build fixed, which build a guard goes back to through clones, and
which callables ran.
-/
namespace CallGuard.Workshop

variable {C R : Type}

/-! ### Operations -/

/-- Where a build takes its specification from. Handles stand for what is under them then. -/
inductive Supply where
  | source (s : Spec.Source)
  | spec (handle : Nat)
  | json (document : Json) (registry : Nat)

def Supply.source? (w : Workshop C R) : Supply → Option Spec.Source
  | source s => some s
  | spec handle => (w.spec? handle).map .spec
  | json document registry => (w.registry? registry).map (.json document ·)

inductive Operation (C R : Type) where
  | addRegistry (r : Registry)
  | register (registry : Nat) (name : String) (d : Descriptor)
  | addSpec (s : Spec)
  | insertEntry (spec : Nat) (key : Spec.Key) (d : Descriptor)
  | build (supply : Supply) (target : Callable C R) (config : Config)
  | clone (guard : Nat)
  /-- A call through a guard, with a receiver if the callable wants one. -/
  | call (guard : Nat) (receiver : Option C) (args : List Value)
  | check (guard : Nat) (args : List Value)
  /-- The callable is taken out and runs once. -/
  | unwrap (guard : Nat) (receiver : Option C) (args : List Value)

inductive Outcome (R : Type) where
  | done
  /-- A handle names nothing. -/
  | absent
  /-- The callable wants to be called in the other way. -/
  | misused
  /-- The handle of a new guard, and the source that its specification was made from. -/
  | built (guard : Nat) (source : Spec.Source)
  | refused (e : Spec.Error)
  | cloned (guard : Nat)
  | checked (result : Except Mismatch Unit)
  | called (result : Except Mismatch R)
  | ran (result : R)

def step (w : Workshop C R) : Operation C R → Outcome R × Workshop C R
  | .addRegistry r => (.done, (w.addRegistry r).2)
  | .register registry name d => (.done, (w.register registry name d).value)
  | .addSpec s => (.done, (w.addSpec s).2)
  | .insertEntry spec key d => (.done, w.insertEntry spec key d)
  | .build supply target config =>
    match supply.source? w with
    | none => (.absent, w)
    | some source =>
      match (w.build source target config).value with
      | .ok (guard, next) => (.built guard source, next)
      | .error e => (.refused e, w)
  | .clone guard =>
    match w.clone guard with
    | none => (.absent, w)
    | some (copy, next) => (.cloned copy, next)
  | .call guard receiver args =>
    match w.call guard receiver args with
    | none => (.absent, w)
    | some effect =>
      match effect.value with
      | (.ok (some result), next) => (.called (.ok result), next)
      | (.ok none, next) => (.misused, next)
      | (.error m, next) => (.called (.error m), next)
  | .check guard args =>
    match w.check guard args with
    | none => (.absent, w)
    | some effect => (.checked effect.value, w)
  | .unwrap guard receiver args =>
    match w.unwrap guard receiver args with
    | none => (.absent, w)
    | some (some result, next) => (.ran result, next)
    | some (none, next) => (.misused, next)

/-! ### Records -/

structure Entry (C R : Type) where
  operation : Operation C R
  outcome : Outcome R

/-- The record of operations, oldest first, and the workshop after them. -/
def run (w : Workshop C R) : List (Operation C R) → List (Entry C R) × Workshop C R
  | [] => ([], w)
  | op :: rest =>
    let (outcome, next) := w.step op
    let (entries, last) := next.run rest
    (⟨op, outcome⟩ :: entries, last)

/-- One run of a callable. -/
structure Execution (C R : Type) where
  guard : Nat
  receiver : Option C
  args : List Value
  result : R

/-- A callable runs in an accepted call, and when it is taken out of its guard. -/
def Entry.execution? : Entry C R → Option (Execution C R)
  | ⟨.call guard receiver args, .called (.ok result)⟩ => some { guard, receiver, args, result }
  | ⟨.unwrap guard receiver args, .ran result⟩ => some { guard, receiver, args, result }
  | _ => none

def executions (record : List (Entry C R)) : List (Execution C R) :=
  record.filterMap Entry.execution?

structure Plan (C R : Type) where
  source : Spec.Source
  config : Config
  target : Callable C R

/-- The plans of the builds, and for each handle of a guard the number of the build that it goes
back to. -/
structure Ledger (C R : Type) where
  plans : List (Plan C R) := []
  origin : Nat → Option Nat := fun _ => none

namespace Ledger

/-- A build starts a family of guards, which a clone joins. -/
def enter (l : Ledger C R) (e : Entry C R) : Ledger C R :=
  match e.operation, e.outcome with
  | .build _ target config, .built guard source =>
    { plans := l.plans ++ [{ source, config, target }]
      origin := fun h => if h = guard then some l.plans.length else l.origin h }
  | .clone guard, .cloned copy =>
    { l with origin := fun h => if h = copy then l.origin guard else l.origin h }
  | _, _ => l

/-- The executions that go back to a build. -/
def tally (l : Ledger C R) (xs : List (Execution C R)) (build : Nat) : Nat :=
  xs.countP fun x => l.origin x.guard == some build

end Ledger

def ledger (record : List (Entry C R)) : Ledger C R := record.foldl Ledger.enter {}

/-- Nothing was built and no callable ran. -/
def Outcome.isIdle : Outcome R → Bool
  | built _ _ | called (.ok _) | ran _ => false
  | _ => true

end CallGuard.Workshop
