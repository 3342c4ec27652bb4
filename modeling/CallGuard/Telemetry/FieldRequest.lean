import CallGuard.Pattern.Reader

/-!
# Fields that filters ask for

A field by its name, with or without a value. No span has fields, and only spans are asked for
values; so of a request for a value all that counts is that it is well formed.
-/
namespace CallGuard.Telemetry

/-- An exponent behind its letter: digits, with or without a sign. -/
def isExponent (s : List Char) : Bool :=
  let digits := match s with
    | '+' :: rest | '-' :: rest => rest
    | _ => s
  !digits.isEmpty && digits.all Char.isDigit

/-- Digits with or without a point, then an exponent or none. -/
def isDecimal (s : List Char) : Bool :=
  let whole := s.takeWhile Char.isDigit
  let behind := s.drop whole.length
  let behindPoint := if behind.head? = some '.' then behind.drop 1 else behind
  let fraction := if behind.head? = some '.' then behindPoint.takeWhile Char.isDigit else []
  !(whole.isEmpty && fraction.isEmpty) &&
    match behindPoint.drop fraction.length with
    | [] => true
    | 'e' :: exponent | 'E' :: exponent => isExponent exponent
    | _ => false

/-- A number, an infinity or no number, with or without a sign. -/
def isNumber (s : List Char) : Bool :=
  let unsigned := match s with
    | '+' :: rest | '-' :: rest => rest
    | _ => s
  isDecimal unsigned || ["inf", "infinity", "nan"].contains (String.ofList unsigned).toLower

/-- A field that a directive asks for. -/
structure FieldRequest where
  name : String
  /-- The field has to have some value. -/
  hasValue : Bool
  deriving DecidableEq

/-- A value is a number or a pattern. A second equals sign ends it. -/
def FieldRequest.parse? (s : List Char) : Option FieldRequest :=
  let name := s.takeWhile (· != '=')
  match s.drop name.length with
  | [] => some { name := String.ofList name, hasValue := false }
  | _ :: behind =>
    let value := behind.takeWhile (· != '=')
    if isNumber value || (Pattern.parse? value).any (·.isSupported) then
      some { name := String.ofList name, hasValue := true }
    else none

end CallGuard.Telemetry
