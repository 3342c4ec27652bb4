import CallGuard.Log

/-!
# Events as they are published

The severity, origin, message and fields under which each event is published, and the span around
the events of a build.
-/
namespace CallGuard

inductive Level where
  | error
  | warn
  | info
  | debug
  | trace
  deriving DecidableEq

namespace Level

def name : Level → String
  | error => "ERROR"
  | warn => "WARN"
  | info => "INFO"
  | debug => "DEBUG"
  | trace => "TRACE"

/-- How much is let through: a level lets through itself and those with a lower number. -/
def verbosity : Level → Nat
  | error => 1
  | warn => 2
  | info => 3
  | debug => 4
  | trace => 5

end Level

inductive FieldValue where
  | number (n : Nat)
  | boolean (b : Bool)
  | text (s : String)
  /-- A text that lines show in quotes. -/
  | quotedText (s : String)
  deriving DecidableEq

namespace Event

def level : Event → Level
  | buildFailed _ => .error
  | mismatchIgnored _ => .warn
  | guardBuilt _ _ _ | rejected _ | registrationReplaced _ _ | configResolved _ => .debug
  | accepted _ _ _ | keyIgnored _ _ => .trace

/-- The part of the library that publishes the event. -/
def target : Event → String
  | buildFailed _ | mismatchIgnored _ | guardBuilt _ _ _ | rejected _ => "argguard::guard"
  | accepted _ _ _ => "argguard::check"
  | keyIgnored _ _ => "argguard::spec"
  | registrationReplaced _ _ => "argguard::registry"
  | configResolved _ => "argguard::config"

def message? : Event → Option String
  | buildFailed _ => none
  | guardBuilt _ _ _ => some "guard built"
  | rejected _ => some "argument rejected"
  | mismatchIgnored _ => some "argument type mismatch ignored"
  | accepted _ _ _ => some "argument accepted"
  | keyIgnored _ _ => some "ignoring non-argument key"
  | registrationReplaced _ _ => some "type registration replaced"
  | configResolved _ => some "guard config resolved"

def mismatchFields (m : Mismatch) : List (String × FieldValue) :=
  [("position", .number m.position), ("expected", .text m.expected),
    ("found", .text m.found.text), ("origin", .text m.origin.text)]

def configFields (c : Config) : List (String × FieldValue) :=
  [("enabled", .boolean c.enabled), ("fail_mode", .text c.failMode.name)]

def fields : Event → List (String × FieldValue)
  | buildFailed e => [("error", .text e.message)]
  | guardBuilt positional hasFallback config =>
    [("positional", .number positional), ("has_default", .boolean hasFallback)] ++
      configFields config
  | rejected m | mismatchIgnored m => mismatchFields m
  | accepted position expected origin =>
    [("position", .number position), ("expected", .text expected), ("origin", .text origin.text)]
  | keyIgnored key isQuoted => [("key", if isQuoted then .quotedText key else .text key)]
  | registrationReplaced name previous => [("name", .text name), ("previous", .text previous)]
  | configResolved config => configFields config

/-- The names of the fields; a message is a field too. -/
def fieldNames (e : Event) : List String :=
  (e.message?.map fun _ => "message").toList ++ e.fields.map (·.1)

end Event

def buildSpanName : String := "build_with_config"

def Record.span? (r : Record) : Option String := if r.inBuild then some buildSpanName else none

/-- A record as it reaches whoever listens. -/
structure Publication where
  level : Level
  span : Option String
  message : Option String
  fields : List (String × FieldValue)
  deriving DecidableEq

def Record.publication (r : Record) : Publication :=
  ⟨r.event.level, r.span?, r.event.message?, r.event.fields⟩

inductive Site where
  | event (e : Event)
  | buildSpan
  deriving DecidableEq

namespace Site

def target : Site → String
  | event e => e.target
  | buildSpan => "argguard::guard"

def level : Site → Level
  | event e => e.level
  | buildSpan => .info

end Site

end CallGuard
