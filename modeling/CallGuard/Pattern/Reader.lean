import CallGuard.Pattern.ClassReader
import CallGuard.Text.Alphanumeric

/-!
# Reading patterns

Groups that are open form a stack; an item is added to the innermost. Braces for counts are not part
of these patterns.
-/
namespace CallGuard.Pattern

def flag? : Char → Option Flag
  | 'i' => some .caseInsensitive
  | 'm' => some .multiLine
  | 's' => some .dotMatchesBreaks
  | 'U' => some .swapGreed
  | 'u' => some .unicode
  | 'R' => some .carriageReturns
  | 'x' => some .ignoreBlanks
  | _ => none

/-- Letters of flags; behind a hyphen, of which there is at most one, they are switched off. No flag
is named twice. -/
def switches? (seen : Switches) (on : Bool) : List Char → Option Switches
  | [] => some seen
  | '-' :: rest => if on && !rest.isEmpty then switches? seen false rest else none
  | c :: rest =>
    (flag? c).bind fun flag =>
      if (seen.lookup flag).isSome then none else switches? (seen ++ [(flag, on)]) on rest

/-- The name of a group starts with a letter or an underscore. -/
def isGroupName : List Char → Bool
  | [] => false
  | c :: rest =>
    (c == '_' || Text.isAlphabetic c) &&
      rest.all fun c => Text.isAlphanumeric c || ['_', '.', '[', ']'].contains c

/-- A group that is open, or the whole pattern. -/
structure OpenGroup where
  switches : Switches := []
  /-- Blanks were ignored in front of the group. -/
  ignoredBlanks : Bool := false
  /-- Alternatives that are complete, the last first. -/
  branches : List Pattern := []
  /-- The items of the alternative that is read, the last first. -/
  items : List Pattern := []

namespace OpenGroup

def push (g : OpenGroup) (p : Pattern) : OpenGroup := { g with items := p :: g.items }

def branch (g : OpenGroup) : Pattern :=
  match g.items with
  | [] => .empty
  | [p] => p
  | items => .sequence items.reverse

def alternate (g : OpenGroup) : OpenGroup :=
  { g with branches := g.branch :: g.branches, items := [] }

def contents (g : OpenGroup) : Pattern :=
  if g.branches.isEmpty then g.branch else .alternatives (g.branch :: g.branches).reverse

end OpenGroup

structure Reading where
  inner : OpenGroup := {}
  /-- The groups around the innermost. -/
  outer : List OpenGroup := []
  ignoresBlanks : Bool := false
  /-- The names of groups; no two groups have one name. -/
  names : List (List Char) := []

namespace Reading

def push (r : Reading) (p : Pattern) : Reading := { r with inner := r.inner.push p }

def openGroup (r : Reading) (switches : Switches) : Reading :=
  { r with
    inner := { switches, ignoredBlanks := r.ignoresBlanks }
    outer := r.inner :: r.outer
    ignoresBlanks := (switches.lookup .ignoreBlanks).getD r.ignoresBlanks }

def closeGroup? (r : Reading) : Option Reading :=
  match r.outer with
  | [] => none
  | g :: outer =>
    some { r with
      inner := g.push (.group r.inner.switches r.inner.contents)
      outer
      ignoresBlanks := r.inner.ignoredBlanks }

/-- Repeats the last item. Switches cannot be repeated. -/
def repeat? (r : Reading) : Option Reading :=
  match r.inner.items with
  | [] | .switches _ :: _ => none
  | p :: items => some { r with inner := { r.inner with items := .repetition p :: items } }

def openNamed (r : Reading) (s : List Char) : Option (Reading × List Char) :=
  let name := s.takeWhile (· != '>')
  match s.drop name.length with
  | _ :: rest =>
    if isGroupName name && !r.names.contains name then
      some ({ r.openGroup [] with names := name :: r.names }, rest)
    else none
  | [] => none

/-- Reads switches, which stand alone or open a group. -/
def readSwitches (r : Reading) (s : List Char) : Option (Reading × List Char) := do
  let text := s.takeWhile fun c => c != ':' && c != ')'
  let switches ← switches? [] true text
  match s.drop text.length with
  | ':' :: rest => some (r.openGroup switches, rest)
  | _ :: rest =>
    if text.isEmpty then none
    else
      let ignoresBlanks := (switches.lookup .ignoreBlanks).getD r.ignoresBlanks
      some ({ r.push (.switches switches) with ignoresBlanks }, rest)
  | [] => none

def readOpening (r : Reading) (s : List Char) : Option (Reading × List Char) :=
  match dropIgnored r.ignoresBlanks s with
  | '?' :: 'P' :: '<' :: rest | '?' :: '<' :: rest => r.openNamed rest
  | '?' :: rest => r.readSwitches rest
  | rest => some (r.openGroup [], rest)

/-- Reads one item. A question mark right behind a repetition belongs to it. -/
def step (r : Reading) : List Char → Option (Reading × List Char)
  | '(' :: rest => r.readOpening rest
  | ')' :: rest => r.closeGroup?.map (·, rest)
  | '|' :: rest => some ({ r with inner := r.inner.alternate }, rest)
  | '[' :: rest =>
    (readClass r.ignoresBlanks rest).map fun (c, rest) => (r.push (.charClass c), rest)
  | '\\' :: rest => (readEscape r.ignoresBlanks rest).map fun (p, rest) => (r.push p, rest)
  | '*' :: '?' :: rest | '+' :: '?' :: rest | '?' :: '?' :: rest => r.repeat?.map (·, rest)
  | '*' :: rest | '+' :: rest | '?' :: rest => r.repeat?.map (·, rest)
  | '{' :: _ => none
  | '.' :: rest => some (r.push .dot, rest)
  | '^' :: rest | '$' :: rest => some (r.push .anchor, rest)
  | c :: rest => some (r.push (.literal { char := c }), rest)
  | [] => none

def readAll (r : Reading) (s : List Char) : Option Reading :=
  match dropIgnored r.ignoresBlanks s with
  | [] => some r
  | shown =>
    match r.step shown with
    | some (r, rest) => if rest.length < s.length then readAll r rest else none
    | none => none
termination_by s.length

end Reading

def parse? (s : List Char) : Option Pattern := do
  let r ← Reading.readAll {} s
  if r.outer.isEmpty then some r.inner.contents else none

end CallGuard.Pattern
