import CallGuard.Json.Token
import CallGuard.Wire.Vocabulary

/-!
# Reading from texts

Configurations and wire words as they are read from JSON text. Reading follows the text from left
to right and stops at the first fault, so a text that is unsuited early on may be malformed later.
-/
namespace CallGuard.Wire

open CallGuard.Json (Fault Token)

/-- The fault of a token that starts no value of the type asked for. -/
def valueFault : Token → Fault
  | .null | .boolean _ | .number (some _) | .string (some _) => .unsuited
  | .openBrace | .openBracket => .unsuited
  | .broken _ reading _ => reading
  | _ => .malformed

/-- Passes over one token of a given form. -/
def expect (accepts : Token → Bool) : List Token → Except Fault (List Token)
  | [] => .error .truncated
  | t :: rest => if accepts t then .ok rest else .error .malformed

def expectColon : List Token → Except Fault (List Token) :=
  expect fun t => t matches .colon

def expectCloseBrace : List Token → Except Fault (List Token) :=
  expect fun t => t matches .closeBrace

def expectCloseBracket : List Token → Except Fault (List Token) :=
  expect fun t => t matches .closeBracket

def readBoolean : List Token → Except Fault (Bool × List Token)
  | [] => .error .truncated
  | .boolean b :: rest => .ok (b, rest)
  | t :: _ => .error (valueFault t)

def readNull : List Token → Except Fault (List Token)
  | [] => .error .truncated
  | .null :: rest => .ok rest
  | t :: _ => .error (valueFault t)

/-- The meaning of a string that has been read. -/
def meaningIn {α : Type} (v : Vocabulary α) : Option String → Except Fault α
  | none => .error .malformed
  | some word =>
    match v.meaning? word with
    | some a => .ok a
    | none => .error .unsuited

/-- A word, or an object with the word as its only key and null under it. -/
def readWord {α : Type} (v : Vocabulary α) : List Token → Except Fault (α × List Token)
  | [] => .error .truncated
  | .string s :: rest => do .ok (← meaningIn v s, rest)
  | .openBrace :: rest =>
    match rest with
    | [] => .error .truncated
    | .string s :: rest => do
      let a ← meaningIn v s
      let rest ← readNull (← expectColon rest)
      .ok (a, ← expectCloseBrace rest)
    -- Only strings are keys, so nothing else is read as one.
    | .broken true reading _ :: _ => .error reading
    | _ => .error .malformed
  | .broken true reading _ :: _ => .error reading
  | _ => .error .malformed

/-- An array or an object that skipping is inside of. -/
inductive Opened where
  | array
  | object

/-- Where skipping stands. -/
inductive Skipping where
  | value
  /-- A value is due, or the end of the array. -/
  | firstItem
  | key
  /-- A key is due, or the end of the object. -/
  | firstKey
  | colon
  /-- A value has ended inside an array or object. -/
  | separator

/-- Where skipping goes on after the end of a value, unless it is the last one. -/
def afterValue (stack : List Opened) (rest : List Token)
    (resume : Unit → Except Fault (List Token)) : Except Fault (List Token) :=
  if stack.isEmpty then .ok rest else resume ()

/-- Skips one value without a look at what strings and numbers hold. -/
def skip (stack : List Opened) (state : Skipping) : List Token → Except Fault (List Token)
  | [] => .error .truncated
  | t :: rest =>
    match state, stack, t with
    -- One token is the whole value.
    | .value, _, .null | .value, _, .boolean _ | .value, _, .number _ | .value, _, .string _
    | .firstItem, _, .null | .firstItem, _, .boolean _ | .firstItem, _, .number _
    | .firstItem, _, .string _ => afterValue stack rest fun _ => skip stack .separator rest
    -- An array or object begins.
    | .value, _, .openBracket | .firstItem, _, .openBracket =>
      skip (.array :: stack) .firstItem rest
    | .value, _, .openBrace | .firstItem, _, .openBrace => skip (.object :: stack) .firstKey rest
    | .value, _, .broken _ _ skipping | .firstItem, _, .broken _ _ skipping => .error skipping
    -- The innermost array or object ends, and is a value of the one around it.
    | .firstItem, .array :: outer, .closeBracket
    | .separator, .array :: outer, .closeBracket
    | .firstKey, .object :: outer, .closeBrace
    | .separator, .object :: outer, .closeBrace =>
      afterValue outer rest fun _ => skip outer .separator rest
    -- Inside of an object keys and colons come before values.
    | .separator, .array :: _, .comma => skip stack .value rest
    | .separator, .object :: _, .comma => skip stack .key rest
    | .key, _, .string _ | .firstKey, _, .string _ => skip stack .colon rest
    | .key, _, .broken true _ skipping | .firstKey, _, .broken true _ skipping => .error skipping
    | .colon, _, .colon => skip stack .value rest
    | _, _, _ => .error .malformed

def readField (c : Config) (field : Field) (tokens : List Token) :
    Except Fault (Config × List Token) :=
  match field with
  | .enabled => do
    let (enabled, rest) ← readBoolean tokens
    .ok (c.withEnabled enabled, rest)
  | .failMode => do
    let (failMode, rest) ← readWord failModes tokens
    .ok (c.withFailMode failMode, rest)

/-- A key that has been read: a setting is read once, and another key is skipped with its value. -/
def readMember (c : Config) (seen : List Field) (key : Option String) (rest : List Token) :
    Except Fault (Config × List Field × List Token) :=
  match key with
  | none => .error .malformed
  | some key =>
    match fields.meaning? key with
    | none => do .ok (c, seen, ← skip [] .value (← expectColon rest))
    | some field =>
      if field ∈ seen then .error .unsuited
      else do
        let (c, rest) ← readField c field (← expectColon rest)
        .ok (c, field :: seen, rest)

/-- Reads the members of an object up to its end. Each round reads a token at least, so the number
of tokens bounds the rounds. -/
def readMembers (c : Config) (seen : List Field) (first : Bool) :
    Nat → List Token → Except Fault (Config × List Token)
  | 0, _ => .error .truncated
  | rounds + 1, tokens => do
    match first, tokens with
    | _, [] => .error .truncated
    | _, .closeBrace :: rest => .ok (c, rest)
    | true, .string key :: rest | false, .comma :: .string key :: rest =>
      let (c, seen, rest) ← readMember c seen key rest
      readMembers c seen false rounds rest
    -- A key has begun but cannot be read.
    | true, .broken true reading _ :: _ | false, .comma :: .broken true reading _ :: _ =>
      .error reading
    | false, [.comma] => .error .truncated
    | _, _ => .error .malformed

/-- Reads settings from the items of an array up to its end. -/
def readItems (c : Config) (first : Bool) :
    List Field → List Token → Except Fault (Config × List Token)
  | [], tokens => do .ok (c, ← expectCloseBracket tokens)
  | field :: fields, tokens =>
    match first, tokens with
    | _, [] => .error .truncated
    | _, .closeBracket :: rest => .ok (c, rest)
    | true, tokens => do
      let (c, rest) ← readField c field tokens
      readItems c false fields rest
    -- A comma promises another item.
    | false, .comma :: .closeBracket :: _ => .error .malformed
    | false, .comma :: tokens => do
      let (c, rest) ← readField c field tokens
      readItems c false fields rest
    | false, _ => .error .malformed

/-- Settings that the text does not hold are the defaults. -/
def readConfig : List Token → Except Fault (Config × List Token)
  | [] => .error .truncated
  | .openBracket :: rest => readItems {} true (fields.map (·.2)) rest
  | .openBrace :: rest => readMembers {} [] true (rest.length + 1) rest
  | t :: _ => .error (valueFault t)

def readAll {α : Type} (read : List Token → Except Fault (α × List Token)) (s : String) :
    Except Fault α := do
  let (a, rest) ← read (Token.scan s)
  if rest.isEmpty then .ok a else .error .malformed

end CallGuard.Wire
