/-!
# Patterns

Regular expressions as trees, and which of them are supported. Characters are those of Unicode
unless a pattern switches that off; then its classes are sets of bytes. The classes of Unicode and
its letter cases are no part of these patterns, so what would need them is not supported.
-/
namespace CallGuard

namespace Pattern

structure Literal where
  char : Char
  /-- It is written as a byte, in two hexadecimal digits. -/
  isByte : Bool := false
  deriving DecidableEq

inductive CharClass where
  | empty
  | literal (l : Literal)
  | range (first last : Literal)
  /-- A set by its name between colons. -/
  | named (negated : Bool)
  /-- Digits, blanks or word characters, by a letter behind a backslash. -/
  | letter (negated : Bool)
  | union (parts : List CharClass)
  /-- What an operator makes of two sets. -/
  | operation (left right : CharClass)
  | bracketed (negated : Bool) (inner : CharClass)

inductive Flag where
  | caseInsensitive
  /-- Anchors hold at the ends of lines. -/
  | multiLine
  | dotMatchesBreaks
  /-- Repetitions match as little as they can unless they are marked. -/
  | swapGreed
  | unicode
  /-- A carriage return ends a line too. -/
  | carriageReturns
  /-- Blanks and comments are no part of the pattern. -/
  | ignoreBlanks
  deriving DecidableEq

abbrev Switches := List (Flag × Bool)

end Pattern

open Pattern in
inductive Pattern where
  | empty
  /-- Switches for what follows in the same group. -/
  | switches (s : Switches)
  | literal (l : Literal)
  | dot
  /-- The start or the end of a line or of the text. -/
  | anchor
  | wordBoundary
  | charClass (c : CharClass)
  | repetition (p : Pattern)
  /-- A group, with the switches for what is in it. -/
  | group (s : Switches) (p : Pattern)
  | sequence (parts : List Pattern)
  | alternatives (parts : List Pattern)

namespace Pattern

mutual

/-- How deep brackets, unions and operators are nested. -/
def CharClass.depth : CharClass → Nat
  | .empty | .literal _ | .range _ _ | .named _ | .letter _ => 0
  | .union parts => CharClass.depthOfAll parts + 1
  | .operation left right => max left.depth right.depth + 1
  | .bracketed _ inner => inner.depth + 1

def CharClass.depthOfAll : List CharClass → Nat
  | [] => 0
  | c :: rest => max c.depth (CharClass.depthOfAll rest)

end

mutual

def depth : Pattern → Nat
  | .empty | .switches _ | .literal _ | .dot | .anchor | .wordBoundary => 0
  | .charClass c => c.depth
  | .repetition p | .group _ p => p.depth + 1
  | .sequence parts | .alternatives parts => depthOfAll parts + 1

def depthOfAll : List Pattern → Nat
  | [] => 0
  | p :: rest => max p.depth (depthOfAll rest)

end

/-- The flags that matter for what is supported. -/
structure Modes where
  caseInsensitive : Bool := false
  unicode : Bool := true
  deriving DecidableEq

namespace Modes

def set (m : Modes) : Flag × Bool → Modes
  | (.caseInsensitive, on) => { m with caseInsensitive := on }
  | (.unicode, on) => { m with unicode := on }
  | _ => m

def switch (m : Modes) (s : Switches) : Modes := s.foldl set m

/-- The cases of letters are known for ASCII only. -/
def knowsCase (m : Modes) : Bool := !(m.unicode && m.caseInsensitive)

end Modes

def Literal.isAscii (l : Literal) : Bool := l.char.toNat < 128

/-- A byte that is no character is not supported. -/
def Literal.isSupported (l : Literal) (m : Modes) : Bool :=
  m.knowsCase && (m.unicode || !l.isByte || l.isAscii)

/-- A set of bytes holds ASCII alone. -/
def Literal.isSupportedInClass (l : Literal) (m : Modes) : Bool :=
  m.knowsCase && (m.unicode || l.isAscii)

mutual

/-- The complement of a set of bytes is not supported: it would match parts of characters. -/
def CharClass.isSupported (m : Modes) : CharClass → Bool
  | .empty => true
  | .literal l => l.isSupportedInClass m
  | .range first last => first.isSupportedInClass m && last.isSupportedInClass m
  | .named negated => m.knowsCase && (m.unicode || !negated)
  | .letter negated => !m.unicode && !negated
  | .union parts => CharClass.areSupported m parts
  | .operation left right => left.isSupported m && right.isSupported m
  | .bracketed negated inner => (m.unicode || !negated) && inner.isSupported m

def CharClass.areSupported (m : Modes) : List CharClass → Bool
  | [] => true
  | c :: rest => c.isSupported m && CharClass.areSupported m rest

end

mutual

/-- The modes behind a pattern that is supported. Switches hold to the end of their group, through
alternatives that follow. -/
def modesBehind? (m : Modes) : Pattern → Option Modes
  | .empty | .anchor => some m
  | .switches s => some (m.switch s)
  | .literal l => if l.isSupported m then some m else none
  | .dot => if m.unicode then some m else none
  | .wordBoundary => if m.unicode then none else some m
  | .charClass c => if c.isSupported m then some m else none
  | .repetition p => modesBehind? m p
  | .group s p => (modesBehind? (m.switch s) p).map fun _ => m
  | .sequence parts | .alternatives parts => modesBehindAll? m parts

def modesBehindAll? (m : Modes) : List Pattern → Option Modes
  | [] => some m
  | p :: rest => (modesBehind? m p).bind fun m => modesBehindAll? m rest

end

def depthLimit : Nat := 250

def isSupported (p : Pattern) : Bool := p.depth ≤ depthLimit && (modesBehind? {} p).isSome

end Pattern

end CallGuard
