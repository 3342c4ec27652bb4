/-!
# Specification errors

Why a JSON specification is rejected, with the texts that reports carry. The key is the text of the
entry's own key.
-/
namespace CallGuard.Spec

inductive Error where
  /-- The document is neither an array nor an object. -/
  | notASpec (found : String)
  /-- An entry is not the name of a type. -/
  | invalidDescriptor (key found : String)
  /-- An entry names a type that is not registered. -/
  | unknownType (key name : String)
  deriving DecidableEq

namespace Error

def message : Error → String
  | notASpec found => s!"type specification must be an array or an object, found {found}"
  | invalidDescriptor key found =>
    s!"specification entry '{key}' is not a type descriptor (found {found})"
  | unknownType key name => s!"specification entry '{key}' names unknown type '{name}'"

/-- The identifier of the cause in reports. -/
def code : Error → String
  | notASpec _ => "argguard::spec::not_a_spec"
  | invalidDescriptor _ _ => "argguard::spec::invalid_descriptor"
  | unknownType _ _ => "argguard::spec::unknown_type"

def help : Error → String
  | notASpec _ =>
    "Pass an array of type names or an object keyed by argument index and \"default\"."
  | invalidDescriptor _ _ =>
    "Descriptors are type names such as \"Number\", \"String\", \"Boolean\", \"Object\" " ++
      "or a registered class."
  | unknownType _ _ =>
    "Register the class with TypeRegistry::register_class before resolving the specification."

end Error

end CallGuard.Spec
