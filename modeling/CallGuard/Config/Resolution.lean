import CallGuard.Config.Environment
import CallGuard.Log

/-!
# Resolving a configuration

A configuration is resolved from layers: a base, then the environment if it is consulted, then
explicit overrides. Each layer is read in full before the next, `enabled` first, so a bad variable
in a lower layer is an error even where a higher layer overrides it.
-/
namespace CallGuard.Config

abbrev Layer := String → Option String

def apply (c : Config) (layer : Layer) : Except Error Config := do
  let c ← match layer enabledVariable with
    | none => .ok c
    | some raw =>
      match parseEnabled? raw with
      | some enabled => .ok (c.withEnabled enabled)
      | none => .error .badEnabled
  match layer failModeVariable with
  | none => .ok c
  | some raw =>
    match FailMode.parse? raw with
    | some failMode => .ok (c.withFailMode failMode)
    | none => .error .badFailMode

/-- The surroundings of a process: its environment, and what settings files are found in. -/
structure Surroundings (Files : Type) where
  environment : Environment := {}
  files : Files

variable {Files : Type}

/-- The environment with the settings files loaded. -/
def Surroundings.loaded (s : Surroundings Files) (reader : SettingsReader Files) : Environment :=
  s.environment.load (reader.assignments s.environment s.files)

structure Request (Files : Type) where
  base : Config := {}
  /-- What to read the environment from; none if it is not consulted. -/
  surroundings : Option (Surroundings Files) := none
  overrides : Dict String String := .empty

namespace Request

def withEnvironment (r : Request Files) (s : Surroundings Files) : Request Files :=
  { r with surroundings := some s }

def withVariable (r : Request Files) (key value : String) : Request Files :=
  { r with overrides := r.overrides.insert key value }

/-- The configuration that the layers give. -/
def settle (r : Request Files) (reader : SettingsReader Files) : Except Error Config := do
  let c ← match r.surroundings with
    | none => .ok r.base
    | some s => r.base.apply (s.loaded reader).lookup?
  c.apply r.overrides.get?

def resolve (r : Request Files) (reader : SettingsReader Files) :
    Logged (Except Error Config) :=
  match r.settle reader with
  | .ok c => do
    Logged.report (.configResolved c)
    pure (.ok c)
  | .error e => pure (.error e)

end Request

def fromEnvironment (s : Surroundings Files) (reader : SettingsReader Files) :
    Logged (Except Error Config) :=
  (Request.withEnvironment {} s).resolve reader

end CallGuard.Config
