import CallGuard.Telemetry.Event
import CallGuard.Telemetry.FieldRequest
import CallGuard.Text.Alphanumeric
import CallGuard.Text.Blank

/-!
# Directives of filters

A directive is a limit on the levels that are let through, for the targets that start with its own
target. In brackets it can ask for a span around the events and, in braces, for a field.
-/
namespace CallGuard.Telemetry

/-- The most verbose level let through; none lets nothing through. -/
abbrev Limit := Option Level

namespace Limit

def verbosity : Limit → Nat
  | none => 0
  | some level => level.verbosity

def lets (limit : Limit) (level : Level) : Bool := level.verbosity ≤ limit.verbosity

def names : List (String × Limit) :=
  [("off", none), ("error", some .error), ("warn", some .warn), ("info", some .info),
    ("debug", some .debug), ("trace", some .trace)]

/-- A number in decimal digits, with or without a plus sign. -/
def number? (s : List Char) : Option Nat :=
  let digits := if s.head? = some '+' then s.drop 1 else s
  if !digits.isEmpty && digits.all Char.isDigit then some (Nat.ofDigitChars 10 digits 0) else none

/-- A limit by its number, which is its verbosity, or by its name in any mix of letter case. -/
def parse? (s : String) : Option Limit :=
  match number? s.toList with
  | some n => (names.map (·.2))[n]?
  | none => names.lookup s.toLower

end Limit

structure Directive where
  /-- What targets have to start with. -/
  target : String
  /-- The name of a span around the events. -/
  span : Option String := none
  field : Option FieldRequest := none
  limit : Limit
  deriving DecidableEq

/-- What stands in brackets: a name, and in braces a field. -/
structure Bracketed where
  name : List Char
  field : Option (List Char)
  /-- What stands behind the closing bracket. -/
  behind : List Char

/-- Reads behind an opening bracket. Braces are not empty, and only the closing bracket can follow
them. -/
def Bracketed.parse? (s : List Char) : Option Bracketed :=
  let name := s.takeWhile fun c => c != ']' && c != '{'
  match s.drop name.length with
  | ']' :: behind => some { name, field := none, behind }
  | '{' :: inside =>
    let field := inside.takeWhile (· != '}')
    match inside.drop field.length with
    | '}' :: ']' :: behind =>
      if field.isEmpty then none else some { name, field := some field, behind }
    | _ => none
  | _ => none

namespace Directive

/-- What a target or the name of a limit can start with. -/
def isTargetStart (c : Char) : Bool :=
  Text.isAlphanumeric c || c == '-' || c == ':' || c == '_'

/-- Drops so many bytes of a text, if they end with a character. -/
def dropBytes? : Nat → List Char → Option (List Char)
  | 0, s => some s
  | _ + 1, [] => none
  | n + 1, c :: rest =>
    if c.utf8Size ≤ n + 1 then dropBytes? (n + 1 - c.utf8Size) rest else none

/-- Takes so many bytes of a text, if they end with a character. -/
def takeBytes? : Nat → List Char → Option (List Char)
  | 0, _ => some []
  | _ + 1, [] => none
  | n + 1, c :: rest =>
    if c.utf8Size ≤ n + 1 then (takeBytes? (n + 1 - c.utf8Size) rest).map (c :: ·) else none

def cut? (s : List Char) (start length : Nat) : Option (List Char) :=
  (dropBytes? start s).bind (takeBytes? length)

def byteSize (s : List Char) : Nat := (String.ofList s).utf8ByteSize

/-- A directive with brackets. Their places, counted in bytes, are found in the text without the
blanks around it, but looked up in the text with the blanks in front. -/
def ofBracketed? (s target : List Char) (b : Bracketed) (limit : Limit) : Option Directive := do
  let nameStart := byteSize target + 1
  let fieldStart := nameStart + byteSize b.name + 1
  let target ← cut? s 0 (byteSize target)
  let name ← cut? s nameStart (byteSize b.name)
  let field ← b.field.mapM fun field =>
    (cut? s fieldStart (byteSize field)).bind FieldRequest.parse?
  some
    { target := String.ofList target
      span := if name.isEmpty && field.isSome then none else some (String.ofList name)
      field, limit }

/-- The limit behind an equals sign: with none, everything is let through. -/
def limitBehind? (s : List Char) : Option Limit :=
  if s.isEmpty then some (some .trace) else Limit.parse? (String.ofList s)

/-- A directive is a limit, or a target, brackets or both with or without a limit. Without one it
lets everything through. Blanks at an end are an error if a limit follows an equals sign; else they
are part of a target without brackets. -/
def parse? (part : String) : Option Directive := do
  let s := part.toList
  let core := Text.trimChars s
  let target := core.takeWhile fun c => c != '=' && c != '['
  if !target.head?.all isTargetStart then none
  else match core.drop target.length with
  | [] =>
    if target.isEmpty then none
    else match Limit.parse? part with
    | some limit => some { target := "", limit }
    | none => some { target := part, limit := some .trace }
  | '[' :: inside =>
    let b ← Bracketed.parse? inside
    match b.behind with
    | [] => ofBracketed? s target b (some .trace)
    | '=' :: behind => if s = core then ofBracketed? s target b (← limitBehind? behind) else none
    | _ => none
  | _ :: behind =>
    if target.isEmpty || s ≠ core then none
    else some { target := String.ofList target, limit := ← limitBehind? behind }

/-- A directive that asks for no span and no value decides on events and spans by what they are. -/
def isStatic (d : Directive) : Bool := d.span.isNone && !d.field.any (·.hasValue)

/-- Fields are asked of events only. -/
def covers (d : Directive) (site : Site) : Bool :=
  d.target.toList.isPrefixOf site.target.toList &&
    match site with
    | .event e => d.field.all fun field => e.fieldNames.contains field.name
    | .buildSpan => true

/-- Of directives that cover one site the second is as specific as the first, or more. The longer
target is more specific, then a field is more specific than none, and the greater name than the
lesser. -/
def yieldsTo (a b : Directive) : Bool :=
  a.target.length < b.target.length ||
    (a.target.length = b.target.length &&
      match a.field, b.field with
      | none, _ => true
      | some _, none => false
      | some x, some y => x.name ≤ y.name)

/-- A directive for the span of builds. That span has no fields. -/
def asksForBuildSpan (d : Directive) : Bool :=
  d.span = some buildSpanName && d.field.isNone && d.covers .buildSpan

end Directive

end CallGuard.Telemetry
