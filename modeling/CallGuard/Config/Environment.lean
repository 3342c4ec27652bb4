import CallGuard.Dict

/-!
# Environments

The variables of a process, with those of settings files added. A variable that holds no text
counts as unset, and a variable that is set keeps its value when the files are loaded. What reads
the files is not fixed here.
-/
namespace CallGuard

/-- What a variable holds: text, or bytes that are no text. -/
inductive Setting where
  | text (s : String)
  | undecodable
  deriving DecidableEq

def Setting.text? : Setting → Option String
  | text s => some s
  | undecodable => none

structure Environment where
  settings : Dict String Setting := .empty

namespace Environment

def lookup? (e : Environment) (key : String) : Option String :=
  (e.settings.get? key).bind Setting.text?

/-- Sets a variable unless it holds text already. -/
def setIfUnset (e : Environment) (key value : String) : Environment :=
  if (e.lookup? key).isSome then e else ⟨e.settings.insert key (.text value)⟩

def load (e : Environment) (assignments : List (String × String)) : Environment :=
  assignments.foldl (fun e a => e.setIfUnset a.1 a.2) e

end Environment

/-- A reader of settings files, wherever it finds them. -/
structure SettingsReader (Files : Type) where
  /-- The assignments in the order in which they are read, up to where reading stops. -/
  assignments (e : Environment) (files : Files) : List (String × String)
  /-- A value may refer to variables, and one that is unset stands for no text. So what is set makes
  a difference to the values, but none to the keys. -/
  keys_eq (e other : Environment) (files : Files) :
    (assignments e files).map Prod.fst = (assignments other files).map Prod.fst

end CallGuard
