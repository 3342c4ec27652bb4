import CallGuard.Json.Fault

/-!
# String contents

The content of a JSON string is a sequence of characters and escaped code units. Units of a
surrogate pair stand for one character; a unit of a pair that stands alone has no text.
-/
namespace CallGuard.Json

inductive Piece where
  | char (c : Char)
  | unit (code : Nat)

/-- A code unit that opens a pair. -/
def isLeading (code : Nat) : Bool := 0xD800 ≤ code && code < 0xDC00

/-- A code unit that closes a pair. -/
def isTrailing (code : Nat) : Bool := 0xDC00 ≤ code && code < 0xE000

def pairedChar (lead trail : Nat) : Char :=
  Char.ofNat (0x10000 + (lead - 0xD800) * 0x400 + (trail - 0xDC00))

/-- The text of the pieces, or nothing if half of a pair stands alone. -/
def text? : List Piece → Option (List Char)
  | [] => some []
  | .char c :: rest => (text? rest).map (c :: ·)
  | .unit lead :: .unit trail :: rest =>
    -- Only a trailing unit right behind completes a pair.
    if isLeading lead then
      if isTrailing trail then (text? rest).map (pairedChar lead trail :: ·) else none
    else if isTrailing lead then none
    else (text? (.unit trail :: rest)).map (Char.ofNat lead :: ·)
  | .unit code :: rest =>
    if isLeading code || isTrailing code then none
    else (text? rest).map (Char.ofNat code :: ·)

/-- The pieces with a leading unit at their end left out. -/
def dropOpenPair (pieces : List Piece) : List Piece :=
  match pieces.getLast? with
  | some (.unit code) => if isLeading code then pieces.dropLast else pieces
  | _ => pieces

/-- A half pair stands alone, whatever may follow the pieces. -/
def hasLoneHalf (pieces : List Piece) : Bool := (text? (dropOpenPair pieces)).isNone

def hexValue? (c : Char) : Option Nat :=
  if c.isDigit then some (c.toNat - '0'.toNat)
  else if 'a' ≤ c ∧ c ≤ 'f' then some (c.toNat - 'a'.toNat + 10)
  else if 'A' ≤ c ∧ c ≤ 'F' then some (c.toNat - 'A'.toNat + 10)
  else none

/-- The code unit of four hexadecimal digits. -/
def codeUnit? (a b c d : Char) : Option Nat := do
  let high := 16 * (← hexValue? a) + (← hexValue? b)
  let low := 16 * (← hexValue? c) + (← hexValue? d)
  some (256 * high + low)

/-- The character of a short escape. -/
def shortEscape? : Char → Option Char
  | '"' => some '"'
  | '\\' => some '\\'
  | '/' => some '/'
  | 'b' => some '\x08'
  | 'f' => some '\x0c'
  | 'n' => some '\n'
  | 'r' => some '\r'
  | 't' => some '\t'
  | _ => none

/-- The fault of an escape without four digits: the text ends if it has fewer than four bytes. -/
def unitFault (rest : List Char) : Fault :=
  if (String.ofList rest).utf8ByteSize < 4 then .truncated else .malformed

/-- Reads string content behind the opening quote, up to the closing one: the pieces, and the rest
of the text or the fault that ends them. -/
def scanContent : List Char → List Piece × Except Fault (List Char)
  | [] => ([], .error .truncated)
  | '"' :: rest => ([], .ok rest)
  | ['\\'] => ([], .error .truncated)
  | '\\' :: 'u' :: a :: b :: c :: d :: rest =>
    match codeUnit? a b c d with
    | some code =>
      let (pieces, ending) := scanContent rest
      (.unit code :: pieces, ending)
    | none => ([], .error (unitFault [a, b, c, d]))
  | '\\' :: 'u' :: rest => ([], .error (unitFault rest))
  | '\\' :: e :: rest =>
    match shortEscape? e with
    | some c =>
      let (pieces, ending) := scanContent rest
      (.char c :: pieces, ending)
    | none => ([], .error .malformed)
  | c :: rest =>
    if c.toNat < 0x20 then ([], .error .malformed) else
    let (pieces, ending) := scanContent rest
    (.char c :: pieces, ending)

end CallGuard.Json
