import CallGuard.Pattern.Escape

/-!
# Reading classes of patterns

The sets of characters that patterns write in brackets. Brackets nest, and operators between sets
bind from left to right.
-/
namespace CallGuard.Pattern

/-- The names that can stand between colons. -/
def classNames : List String :=
  ["alnum", "alpha", "ascii", "blank", "cntrl", "digit", "graph", "lower", "print", "punct",
    "space", "upper", "word", "xdigit"]

def readNamed (s : List Char) : Option (CharClass × List Char) :=
  let named (negated : Bool) (s : List Char) :=
    let name := s.takeWhile (· != ':')
    match s.drop name.length with
    | ':' :: ']' :: rest =>
      if classNames.contains (String.ofList name) then some (.named negated, rest) else none
    | _ => none
  match s with
  | ':' :: '^' :: rest => named true rest
  | ':' :: rest => named false rest
  | _ => none

namespace CharClass

/-- What stands for a set of its own. -/
def ofPattern? : Pattern → Option CharClass
  | .literal l => some (.literal l)
  | .charClass c => some c
  | _ => none

def range? : Pattern → Pattern → Option CharClass
  | .literal first, .literal last =>
    if first.char ≤ last.char then some (.range first last) else none
  | _, _ => none

def ofParts : List CharClass → CharClass
  | [] => .empty
  | [c] => c
  | parts => .union parts

end CharClass

def readClassItem (ignoresBlanks : Bool) : List Char → Option (Pattern × List Char)
  | '\\' :: rest => readEscape ignoresBlanks rest
  | c :: rest => some (.literal { char := c }, rest)
  | [] => none

/-- The next character that is no blank; of a comment, the first that is none. -/
def peek? (ignoresBlanks : Bool) (s : List Char) : Option Char :=
  if !ignoresBlanks then s.head?
  else match s.dropWhile Text.isBlank with
    | [] => s.head?
    | '#' :: comment => (comment.dropWhile Text.isBlank).head?.or s.head?
    | c :: _ => some c

/-- Reads a range, or an item that starts none. In front of a closing bracket or of another hyphen a
hyphen is no sign of a range. -/
def readRange (ignoresBlanks : Bool) (s : List Char) : Option (CharClass × List Char) := do
  let (first, rest) ← readClassItem ignoresBlanks s
  let alone := (CharClass.ofPattern? first).map fun c => (c, rest)
  match dropIgnored ignoresBlanks rest with
  | '-' :: behind =>
    match peek? ignoresBlanks behind with
    | some ']' | some '-' => alone
    | _ =>
      let (last, rest) ← readClassItem ignoresBlanks (dropIgnored ignoresBlanks behind)
      (CharClass.range? first last).map fun c => (c, rest)
  | _ => alone

/-- A bracket that is open. -/
structure OpenClass where
  negated : Bool
  /-- What stands in front of the last operator. -/
  left : Option CharClass := none
  /-- The sets behind it, the last first. -/
  parts : List CharClass := []
  /-- Nothing but hyphens was read. -/
  atStart : Bool := true

namespace OpenClass

def push (o : OpenClass) (c : CharClass) : OpenClass :=
  { o with parts := c :: o.parts, atStart := false }

def contents (o : OpenClass) : CharClass :=
  let right := CharClass.ofParts o.parts.reverse
  match o.left with
  | some left => .operation left right
  | none => right

def operate (o : OpenClass) : OpenClass :=
  { o with left := some o.contents, parts := [], atStart := false }

def close (o : OpenClass) : CharClass := .bracketed o.negated o.contents

/-- Hyphens at the start stand for themselves, and so does a closing bracket if it is the first
character. -/
def pushAtStart (o : OpenClass) : Char → Option OpenClass
  | '-' => some { o with parts := .literal { char := '-' } :: o.parts }
  | ']' => if o.parts.isEmpty then some (o.push (.literal { char := ']' })) else none
  | _ => none

end OpenClass

def openClass (ignoresBlanks : Bool) (s : List Char) : OpenClass × List Char :=
  match dropIgnored ignoresBlanks s with
  | '^' :: rest => ({ negated := true }, rest)
  | rest => ({ negated := false }, rest)

/-- Brackets that are open, the innermost apart. -/
structure ClassReading where
  inner : OpenClass
  outer : List OpenClass := []

def ClassReading.step (ignoresBlanks : Bool) (r : ClassReading) (s : List Char) :
    Option (ClassReading × List Char) :=
  match s with
  | '[' :: rest =>
    match readNamed rest with
    | some (c, rest) => some ({ r with inner := r.inner.push c }, rest)
    | none =>
      let (inner, rest) := openClass ignoresBlanks rest
      some ({ inner, outer := r.inner :: r.outer }, rest)
  | '&' :: '&' :: rest | '-' :: '-' :: rest | '~' :: '~' :: rest =>
    some ({ r with inner := r.inner.operate }, rest)
  | _ => (readRange ignoresBlanks s).map fun (c, rest) => ({ r with inner := r.inner.push c }, rest)

/-- Reads to the bracket that closes the outermost set. -/
def readClassFrom (ignoresBlanks : Bool) (r : ClassReading) (s : List Char) :
    Option (CharClass × List Char) :=
  match dropIgnored ignoresBlanks s with
  | [] => none
  | c :: rest =>
    let atStart := if r.inner.atStart then r.inner.pushAtStart c else none
    match atStart with
    | some inner =>
      if rest.length < s.length then readClassFrom ignoresBlanks { r with inner } rest else none
    | none =>
      match c, r.outer with
      | ']', [] => some (r.inner.close, rest)
      | ']', o :: outer =>
        if rest.length < s.length then
          readClassFrom ignoresBlanks { inner := o.push r.inner.close, outer } rest
        else none
      | _, _ =>
        match r.step ignoresBlanks (c :: rest) with
        | some (r, rest) =>
          if rest.length < s.length then readClassFrom ignoresBlanks r rest else none
        | none => none
termination_by s.length

def readClass (ignoresBlanks : Bool) (s : List Char) : Option (CharClass × List Char) :=
  let (inner, rest) := openClass ignoresBlanks s
  readClassFrom ignoresBlanks { inner } rest

end CallGuard.Pattern
