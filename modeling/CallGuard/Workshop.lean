import CallGuard.Guard

/-!
# Workshops

Registries, specifications and guards in use, each under the handle it was issued. Every built guard
has a counter of the runs of its callable, which its clones share. A callable counts its own runs.
-/
namespace CallGuard

abbrev Counters := List Nat

/-- A result that comes with an effect on the counters. -/
abbrev Counted (R : Type) := StateM Counters R

/-- A function that takes arguments, or a receiver and arguments. -/
inductive Callable (C R : Type) where
  | plain (f : List Value → R)
  | receiving (f : C → List Value → R)

namespace Callable

variable {C R : Type}

/-- A run of a callable, if it is called as it wants to be called. -/
def run? (receiver : Option C) (args : List Value) : Callable C R → Option R
  | plain f => match receiver with
    | none => some (f args)
    | some _ => none
  | receiving f => receiver.map fun c => f c args

def tick (counter : Nat) (result : R) : Counted R := do
  modify fun counters => counters.modify counter (· + 1)
  pure result

def counted (counter : Nat) : Callable C R → Callable C (Counted R)
  | plain f => .plain fun args => tick counter (f args)
  | receiving f => .receiving fun c args => tick counter (f c args)

end Callable

structure Held (C R : Type) where
  guard : Guard (Callable C (Counted R))
  counter : Nat

structure Workshop (C R : Type) where
  registries : List Registry := []
  specs : List Spec := []
  /-- Guards by handle; one whose callable was taken out is gone. -/
  guards : List (Option (Held C R)) := []
  counters : Counters := []

namespace Workshop

variable {C R : Type}

/-! ### Registries and specifications -/

def registry? (w : Workshop C R) (handle : Nat) : Option Registry := w.registries[handle]?

def addRegistry (w : Workshop C R) (r : Registry) : Nat × Workshop C R :=
  (w.registries.length, { w with registries := w.registries ++ [r] })

def register (w : Workshop C R) (handle : Nat) (name : String) (d : Descriptor) :
    Logged (Workshop C R) :=
  match w.registry? handle with
  | none => pure w
  | some r => do
    let r ← r.register name d
    pure { w with registries := w.registries.set handle r }

def spec? (w : Workshop C R) (handle : Nat) : Option Spec := w.specs[handle]?

def addSpec (w : Workshop C R) (s : Spec) : Nat × Workshop C R :=
  (w.specs.length, { w with specs := w.specs ++ [s] })

def insertEntry (w : Workshop C R) (handle : Nat) (key : Spec.Key) (d : Descriptor) :
    Workshop C R :=
  { w with specs := w.specs.modify handle (·.insert key d) }

/-! ### Guards -/

def held? (w : Workshop C R) (handle : Nat) : Option (Held C R) := (w.guards[handle]?).join

/-- The runs of the callable of a guard and its clones. -/
def runs (w : Workshop C R) (h : Held C R) : Nat := (w.counters[h.counter]?).getD 0

def addHeld (w : Workshop C R) (h : Held C R) : Nat × Workshop C R :=
  (w.guards.length, { w with guards := w.guards ++ [some h] })

/-- Builds a guard with a counter of its own; a failed build leaves everything as it was. -/
def build (w : Workshop C R) (source : Spec.Source) (target : Callable C R) (config : Config) :
    Logged (Except Spec.Error (Nat × Workshop C R)) := do
  let counter := w.counters.length
  match ← Guard.build source (target.counted counter) config with
  | .error e => pure (.error e)
  | .ok guard => pure (.ok (addHeld { w with counters := w.counters ++ [0] } { guard, counter }))

/-- A clone shares the specification, the configuration and the counter. -/
def clone (w : Workshop C R) (handle : Nat) : Option (Nat × Workshop C R) :=
  (w.held? handle).map w.addHeld

def check (w : Workshop C R) (handle : Nat) (args : List Value) :
    Option (Logged (Except Mismatch Unit)) :=
  (w.held? handle).map fun h => h.guard.check args

/-- The result of an effect on the counters, and the workshop after it. -/
def perform (w : Workshop C R) (effect : Counted (Option R)) : Option R × Workshop C R :=
  let (result, counters) := effect.run w.counters
  (result, { w with counters })

/-- The effect of a run, or none if the callable is not called as it wants to be called. -/
def effectOf (receiver : Option C) (args : List Value) (target : Callable C (Counted R)) :
    Counted (Option R) :=
  match target.run? receiver args with
  | some effect => some <$> effect
  | none => pure none

/-- A call of a guard with or without a receiver, for the effect of its callable. -/
def invoke (g : Guard (Callable C (Counted R))) (receiver : Option C) (args : List Value) :
    Logged (Except Mismatch (Counted (Option R))) :=
  match g.target, receiver with
  | .plain f, none => Except.map (some <$> ·) <$> (g.withTarget f).call args
  | .receiving f, some c => Except.map (some <$> ·) <$> (g.withTarget f).callOn c args
  -- The callable wants to be called in the other way.
  | _, _ => g.delegate args fun _ => pure none

/-- Calls through a guard: the callable runs only if the arguments pass. -/
def call (w : Workshop C R) (handle : Nat) (receiver : Option C) (args : List Value) :
    Option (Logged (Except Mismatch (Option R) × Workshop C R)) :=
  (w.held? handle).map fun h => do
    match ← invoke h.guard receiver args with
    -- A rejected call has no effect to perform.
    | .error m => pure (.error m, w)
    | .ok effect =>
      let (result, w) := w.perform effect
      pure (.ok result, w)

/-- Takes the callable out of a guard and runs it unchecked; the handle is gone. -/
def unwrap (w : Workshop C R) (handle : Nat) (receiver : Option C) (args : List Value) :
    Option (Option R × Workshop C R) :=
  -- Clones keep the callable, and the counter goes on for them.
  (w.held? handle).map fun h =>
    perform { w with guards := w.guards.set handle none } (effectOf receiver args h.guard.target)

end Workshop

end CallGuard
