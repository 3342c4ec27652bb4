import CallGuard.Config
import CallGuard.Spec
import CallGuard.Value

/-!
# Wire words

The words by which fail modes, value kinds and origins are written in JSON, and the written forms.
-/
namespace CallGuard.Wire

/-- A fixed set of words and what they stand for, in listing order. -/
abbrev Vocabulary (α : Type) := List (String × α)

def failModes : Vocabulary FailMode := [("closed", .closed), ("log_only", .logOnly)]

def kinds : Vocabulary Value.Kind := Value.Kind.all.map fun k => (k.text, k)

def origins : Vocabulary Spec.Origin := Spec.Origin.all.map fun o => (o.text, o)

namespace Vocabulary

def words {α : Type} (v : Vocabulary α) : List String := v.map (·.1)

def meaning? {α : Type} (v : Vocabulary α) (word : String) : Option α := v.lookup word

def wordFor {α : Type} [DecidableEq α] (v : Vocabulary α) (a : α) : String :=
  ((v.find? (·.2 = a)).map (·.1)).getD ""

end Vocabulary

/-- The settings that a written configuration can hold. -/
inductive Field where
  | enabled
  | failMode
  deriving DecidableEq

def fields : Vocabulary Field := [("enabled", .enabled), ("fail_mode", .failMode)]

def writeWord (word : String) : String := "\"" ++ word ++ "\""

def writeConfig (c : Config) : String :=
  "\x7b\"enabled\":" ++ toString c.enabled ++ ",\"fail_mode\":" ++
    writeWord (failModes.wordFor c.failMode) ++ "\x7d"

end CallGuard.Wire
