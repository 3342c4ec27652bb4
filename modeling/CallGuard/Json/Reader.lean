import CallGuard.Json.Token

/-!
# Reading documents

One document is built from the tokens of a text by a machine with a stack of the arrays and objects
that are still open.
-/
namespace CallGuard.Json

/-- An open array or object: its finished parts, the last one first. -/
inductive Frame where
  | array (done : List Json)
  | object (done : List (String × Json)) (key : String)

/-- Whether another array or object may be opened inside of `depth` open ones. -/
def admits (limit : Option Nat) (depth : Nat) : Bool :=
  match limit with
  | none => true
  | some limit => depth < limit

mutual

/-- Goes on where a value is due. -/
def readValue (limit : Option Nat) (stack : List Frame) : List Token → Option Json
  | .null :: rest => finish limit stack .null rest
  | .boolean b :: rest => finish limit stack (.boolean b) rest
  | .number (some n) :: rest => finish limit stack (.number n) rest
  | .string (some s) :: rest => finish limit stack (.string s) rest
  | .openBracket :: rest =>
    if admits limit stack.length then
      match rest with
      | .closeBracket :: rest => finish limit stack (.array []) rest
      | rest => readValue limit (.array [] :: stack) rest
    else none
  | .openBrace :: rest =>
    if admits limit stack.length then
      match rest with
      | .closeBrace :: rest => finish limit stack (.object []) rest
      | .string (some key) :: .colon :: rest => readValue limit (.object [] key :: stack) rest
      | _ => none
    else none
  | _ => none

/-- Goes on where a value has just been read. -/
def finish (limit : Option Nat) (stack : List Frame) (value : Json) : List Token → Option Json
  | [] => if stack.isEmpty then some value else none
  | token :: rest =>
    match stack, token with
    | .array done :: outer, .comma => readValue limit (.array (value :: done) :: outer) rest
    | .array done :: outer, .closeBracket =>
      finish limit outer (.array (value :: done).reverse) rest
    | .object done key :: outer, .comma =>
      match rest with
      | .string (some next) :: .colon :: rest =>
        readValue limit (.object ((key, value) :: done) next :: outer) rest
      | _ => none
    | .object done key :: outer, .closeBrace =>
      finish limit outer (.object ((key, value) :: done).reverse) rest
    | _, _ => none

end

/-- The document that a text writes; `limit` bounds how deep arrays and objects are nested. -/
def read? (limit : Option Nat) (s : String) : Option Json :=
  readValue limit [] (Token.scan s)

end CallGuard.Json
