import CallGuard.Check
import CallGuard.Config
import CallGuard.Spec.Error

/-!
# The event log

What the library reports while it works. A computation that reports is a result with the records of
its events, oldest first.
-/
namespace CallGuard

inductive Event where
  | buildFailed (e : Spec.Error)
  /-- A guard was built; `positional` counts the entries by index. -/
  | guardBuilt (positional : Nat) (hasFallback : Bool) (config : Config)
  | rejected (m : Mismatch)
  | mismatchIgnored (m : Mismatch)
  /-- An argument is of the type that its descriptor asks for. -/
  | accepted (position : Nat) (expected : String) (origin : Spec.Origin)
  /-- A key names no entry of a specification; `quoted` says how lines show it. -/
  | keyIgnored (key : String) (quoted : Bool)
  /-- A registration took the place of another. -/
  | registrationReplaced (name previous : String)
  | configResolved (config : Config)
  deriving DecidableEq

/-- An event, and whether it happened while a guard was built. -/
structure Record where
  event : Event
  inBuild : Bool := false
  deriving DecidableEq

structure Logged (α : Type) where
  value : α
  records : List Record := []

namespace Logged

variable {α β : Type}

instance : Monad Logged where
  pure a := { value := a }
  bind x f := { value := (f x.value).value, records := x.records ++ (f x.value).records }

def report (e : Event) : Logged Unit := { value := (), records := [{ event := e }] }

/-- Marks everything that a computation reports as part of a build. -/
def withinBuild (x : Logged α) : Logged α :=
  { x with records := x.records.map fun r => { r with inBuild := true } }

def events (x : Logged α) : List Event := x.records.map (·.event)

@[ext] theorem ext {x y : Logged α} (value : x.value = y.value) (records : x.records = y.records) :
    x = y := by
  cases x
  cases y
  simp_all

@[simp] theorem value_pure (a : α) : (pure a : Logged α).value = a := rfl

@[simp] theorem records_pure (a : α) : (pure a : Logged α).records = [] := rfl

@[simp] theorem value_bind (x : Logged α) (f : α → Logged β) :
    (x >>= f).value = (f x.value).value := rfl

@[simp] theorem records_bind (x : Logged α) (f : α → Logged β) :
    (x >>= f).records = x.records ++ (f x.value).records := rfl

@[simp] theorem value_map (f : α → β) (x : Logged α) : (f <$> x).value = f x.value := rfl

@[simp] theorem records_map (f : α → β) (x : Logged α) : (f <$> x).records = x.records :=
  List.append_nil _

@[simp] theorem value_report (e : Event) : (report e).value = () := rfl

@[simp] theorem records_report (e : Event) : (report e).records = [{ event := e }] := rfl

instance : LawfulMonad Logged := LawfulMonad.mk' Logged
  (fun _ => by ext1 <;> simp [Functor.map])
  (fun _ _ => by ext1 <;> simp)
  (fun _ _ _ => by ext1 <;> simp)

end Logged

end CallGuard
