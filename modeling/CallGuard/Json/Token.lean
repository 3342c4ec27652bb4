import CallGuard.Json.Content
import CallGuard.Json.Numeral

/-!
# Tokens

A text as the tokens in it. The first place that holds no token ends the list, with the fault that
a reader meets there: readers that need the contents and readers that only skip them can see
different faults at one place.
-/
namespace CallGuard.Json

inductive Token where
  | openBrace
  | closeBrace
  | openBracket
  | closeBracket
  | colon
  | comma
  | null
  | boolean (b : Bool)
  /-- A number; none if it is past the largest one. -/
  | number (n : Option Number)
  /-- A string; none if it holds half a surrogate pair. -/
  | string (s : Option String)
  /-- No token: whether a string began here, and the faults of reading and of skipping it. -/
  | broken (quoted : Bool) (reading skipping : Fault)

namespace Token

def isSpace (c : Char) : Bool := c == ' ' || c == '\t' || c == '\n' || c == '\r'

/-- The text behind a word that it starts with. -/
def dropWord : List Char → List Char → Except Fault (List Char)
  | [], s => .ok s
  | _ :: _, [] => .error .truncated
  | w :: word, c :: rest => if w = c then dropWord word rest else .error .malformed

/-- A fixed word at the front of a text. -/
def wordToken (token : Token) (word : String) (s : List Char) : Token × List Char :=
  match dropWord word.toList s with
  | .ok rest => (token, rest)
  | .error fault => (.broken false fault fault, [])

def stringToken (s : List Char) : Token × List Char :=
  match scanContent s with
  | (pieces, .ok rest) => (.string ((text? pieces).map String.ofList), rest)
  | (pieces, .error fault) =>
    (.broken true (if hasLoneHalf pieces then .malformed else fault) fault, [])

def numberToken (s : List Char) : Token × List Char :=
  match numeral s with
  | .ok (n, rest) => (.number n.toNumber?, rest)
  | .error .ended => (.broken false .truncated .malformed, [])
  | .error .other => (.broken false .malformed .malformed, [])

/-- The token at the front of a text that starts with none of the spaces. -/
def next (c : Char) (rest : List Char) : Token × List Char :=
  match c with
  | '{' => (.openBrace, rest)
  | '}' => (.closeBrace, rest)
  | '[' => (.openBracket, rest)
  | ']' => (.closeBracket, rest)
  | ':' => (.colon, rest)
  | ',' => (.comma, rest)
  | 'n' => wordToken .null "null" (c :: rest)
  | 't' => wordToken (.boolean true) "true" (c :: rest)
  | 'f' => wordToken (.boolean false) "false" (c :: rest)
  | '"' => stringToken rest
  | c =>
    if c = '-' ∨ c.isDigit then numberToken (c :: rest)
    else (.broken false .malformed .malformed, [])

/-- Every token uses up at least one character, so the length of a text bounds their number. -/
def scanWithin : Nat → List Char → List Token
  | 0, _ => []
  | limit + 1, s =>
    match s.dropWhile isSpace with
    | [] => []
    | c :: rest =>
      let (token, rest) := next c rest
      token :: scanWithin limit rest

def scan (s : String) : List Token := scanWithin s.length s.toList

end Token

end CallGuard.Json
