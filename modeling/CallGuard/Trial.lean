import CallGuard.Guard
import CallGuard.Json.Nearest
import CallGuard.Json.Reader
import CallGuard.Value.Conversion

/-!
# Trials

A text that holds a JSON specification in its first line and JSON arguments behind it is tried on a
callable that counts its arguments.
-/
namespace CallGuard.Trial

/-- How deep arrays and objects are nested at most. -/
def depthLimit : Nat := 127

/-- The form in which arguments were found. -/
inductive Form where
  /-- An array of the arguments. -/
  | array
  /-- Any other document is the only argument. -/
  | single
  /-- No document, so no arguments. -/
  | notJson
  deriving DecidableEq

inductive Outcome where
  | specNotJson
  | buildFailed (e : Spec.Error)
  | called (form : Form) (args : List Value) (result : Except Mismatch Nat)

/-- The first line of a text and what follows it; a text of one line is followed by no arguments. -/
def split (s : String) : String × String :=
  match s.toList.dropWhile (· != '\n') with
  | [] => (s, "[]")
  | _ :: rest => (String.ofList (s.toList.takeWhile (· != '\n')), String.ofList rest)

def arguments (s : String) : Form × List Value :=
  match Json.read? (some depthLimit) s with
  | some (.array items) => (.array, items.map (Value.ofJson .nearest))
  | some document => (.single, [Value.ofJson .nearest document])
  -- A text that is no document brings no arguments.
  | none => (.notJson, [])

def run (s : String) : Logged Outcome :=
  let (spec, args) := split s
  match Json.read? (some depthLimit) spec with
  | none => pure .specNotJson
  | some document => do
    match ← Guard.build (.json document .standard) (fun (args : List Value) => args.length) with
    | .error e => pure (.buildFailed e)
    | .ok g => do
      let (form, args) := arguments args
      pure (.called form args (← g.call args))

end CallGuard.Trial
