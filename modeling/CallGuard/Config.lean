import CallGuard.Text.Blank
import CallGuard.Text.Lowercasing

/-!
# Guard configuration

Whether a guard checks at all, and what a mismatch does. The two configuration variables are read
here, one at a time.
-/
namespace CallGuard

/-- What a guard does about a mismatch. -/
inductive FailMode where
  /-- The call is rejected and the wrapped function does not run. -/
  | closed
  /-- The mismatch is logged and the call goes on. -/
  | logOnly
  deriving DecidableEq

namespace FailMode

def name : FailMode → String
  | closed => "Closed"
  | logOnly => "LogOnly"

def all : List FailMode := [closed, logOnly]

/-- The spellings that the variable takes, in any mix of letter case. -/
def spellings : List (String × FailMode) :=
  [("closed", closed), ("log_only", logOnly), ("logonly", logOnly), ("log-only", logOnly)]

/-- Letter case is folded in ASCII alone, which makes no difference (`lookup_lower`). -/
def parse? (raw : String) : Option FailMode :=
  spellings.lookup (Text.trim raw).toLower

/-- Lower case in all of Unicode reads the same: the spellings hold no letter that a character
outside ASCII becomes. -/
theorem lookup_lower (L : Text.Lowercasing) (raw : String) :
    spellings.lookup (L.lower (Text.trim raw)) = parse? raw :=
  L.lookup_lower (Text.trim raw) (by decide)

end FailMode

structure Config where
  enabled : Bool := true
  failMode : FailMode := .closed
  deriving DecidableEq

namespace Config

def withEnabled (c : Config) (enabled : Bool) : Config := { c with enabled }

def withFailMode (c : Config) (failMode : FailMode) : Config := { c with failMode }

def enabledVariable : String := "ARGGUARD_ENABLED"

def failModeVariable : String := "ARGGUARD_FAIL_MODE"

/-- The variable for `enabled` is one of two words, in lower case. -/
def parseEnabled? (raw : String) : Option Bool :=
  match Text.trim raw with
  | "true" => some true
  | "false" => some false
  | _ => none

/-- A variable holds a text that its setting does not take. -/
inductive Error where
  | badEnabled
  | badFailMode
  deriving DecidableEq

namespace Error

def key : Error → String
  | badEnabled => enabledVariable
  | badFailMode => failModeVariable

/-- What the variable takes. -/
def detail : Error → String
  | badEnabled => "must be 'true' or 'false'"
  | badFailMode => "must be 'closed' or 'log_only'"

def message (e : Error) : String := s!"failed to parse {e.key}: {e.detail}"

def code : String := "argguard::config::env_parse"

end Error

end Config

end CallGuard
