import CallGuard.Log

/-!
# Validating argument lists

Arguments are checked from left to right up to the first mismatch. Each accepted argument that had
a descriptor is reported.
-/
namespace CallGuard.Spec

/-- Checks arguments whose first stands at `position`. -/
def validateFrom (s : Spec) (position : Nat) : List Value → Logged (Except Mismatch Unit)
  | [] => pure (.ok ())
  | v :: rest =>
    match s.applicable? position with
    | none => s.validateFrom (position + 1) rest
    | some (d, origin) =>
      if d.admits v then do
        Logged.report (.accepted position d.name origin)
        s.validateFrom (position + 1) rest
      else pure (.error ⟨position, d.name, v.kind, origin⟩)

def validate (s : Spec) (args : List Value) : Logged (Except Mismatch Unit) :=
  s.validateFrom 0 args

end CallGuard.Spec
