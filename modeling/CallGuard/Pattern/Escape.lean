import CallGuard.Pattern
import CallGuard.Text.Blank

/-!
# Escapes of patterns

What a backslash with the characters behind it stands for, and the blanks and comments that a
pattern can leave out of account.
-/
namespace CallGuard.Pattern

/-- Drops blanks and comments. A comment ends with its line. -/
def dropComments (inComment : Bool) : List Char → List Char
  | [] => []
  | c :: rest =>
    if inComment then dropComments (c != '\n') rest
    else if Text.isBlank c then dropComments false rest
    else if c = '#' then dropComments true rest
    else c :: rest

/-- Drops what is ignored, if blanks are. -/
def dropIgnored (ignoresBlanks : Bool) (s : List Char) : List Char :=
  if ignoresBlanks then dropComments false s else s

def hexDigit? (c : Char) : Option Nat :=
  if c.isDigit then some (c.toNat - '0'.toNat)
  else if 'a' ≤ c ∧ c ≤ 'f' then some (c.toNat - 'a'.toNat + 10)
  else if 'A' ≤ c ∧ c ≤ 'F' then some (c.toNat - 'A'.toNat + 10)
  else none

/-- A number in so many hexadecimal digits behind those of `high`. -/
def readHex (ignoresBlanks : Bool) (high : Nat) : Nat → List Char → Option (Nat × List Char)
  | 0, s => some (high, s)
  | count + 1, s =>
    match dropIgnored ignoresBlanks s with
    | [] => none
    | c :: rest => (hexDigit? c).bind fun d => readHex ignoresBlanks (high * 16 + d) count rest

def readCodePoint (ignoresBlanks : Bool) (count : Nat) (s : List Char) :
    Option (Pattern × List Char) := do
  let (code, rest) ← readHex ignoresBlanks 0 count s
  if code.isValidChar then some (.literal { char := Char.ofNat code, isByte := count == 2 }, rest)
  else none

/-- What a single character behind a backslash stands for. -/
def escaped? : Char → Option Pattern
  | 'd' | 's' | 'w' => some (.charClass (.letter false))
  | 'D' | 'S' | 'W' => some (.charClass (.letter true))
  | 'A' | 'z' => some .anchor
  | 'b' | 'B' | '<' | '>' => some .wordBoundary
  | 'a' => some (.literal { char := '\x07' })
  | 't' => some (.literal { char := '\t' })
  | 'n' => some (.literal { char := '\n' })
  | 'v' => some (.literal { char := '\x0b' })
  | 'f' => some (.literal { char := '\x0c' })
  | 'r' => some (.literal { char := '\r' })
  | c => if c.toNat < 128 && !c.isAlphanum then some (.literal { char := c }) else none

def readEscape (ignoresBlanks : Bool) : List Char → Option (Pattern × List Char)
  | 'x' :: rest => readCodePoint ignoresBlanks 2 rest
  | 'u' :: rest => readCodePoint ignoresBlanks 4 rest
  | 'U' :: rest => readCodePoint ignoresBlanks 8 rest
  | c :: rest => (escaped? c).map fun p => (p, rest)
  | [] => none

end CallGuard.Pattern
