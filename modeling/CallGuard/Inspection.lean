import CallGuard.Binary64.Shortest
import CallGuard.Guard
import CallGuard.Text.Quoted

/-!
# Inspection texts

How classes, values, specifications and guards are shown to somebody who looks for a mistake.
-/
namespace CallGuard

def inParens (head body : String) : String := head ++ "(" ++ body ++ ")"

def inBraces (body : String) : String := "\x7b" ++ body ++ "\x7d"

/-- A record with its fields in order. -/
def inspectRecord (head : String) (fields : List (String × String)) : String :=
  head ++ " " ++ inBraces (" " ++ ", ".intercalate (fields.map fun f => f.1 ++ ": " ++ f.2) ++ " ")

def Class.inspect (c : Class) : String :=
  inParens "Class" (Text.quoted (" : ".intercalate (c.ancestors.map Class.name)))

def Descriptor.inspect : Descriptor → String
  | .ofClass c => inParens "Class" c.inspect
  | d => d.name

def Instance.inspect (i : Instance) : String :=
  inParens "Instance" (Text.quoted i.ofClass.name)

namespace Value

/-- Numbers have an exponent from `10 ^ 16` on and below `10 ^ (-4)`; a tie goes up. -/
def numberLayout : Binary64.Layout where
  positional leading := -4 ≤ leading && leading ≤ 15
  tie := .upper
  plusSign := false

mutual

def inspect : Value → String
  | undefined => "Undefined"
  | null => "Null"
  | number x => inParens "Number" (x.render numberLayout)
  | string s => inParens "String" (Text.quoted s)
  | boolean b => inParens "Boolean" (toString b)
  | array items => inParens "Array" ("[" ++ ", ".intercalate (inspectItems items) ++ "]")
  | object members => inParens "Object" (inBraces (", ".intercalate (inspectMembers members)))
  | nominal i => inParens "Instance" i.inspect

def inspectItems : List Value → List String
  | [] => []
  | v :: rest => inspect v :: inspectItems rest

def inspectMembers {floor : Option String} : Members floor → List String
  | .nil => []
  | .cons key v _ rest => (Text.quoted key ++ ": " ++ inspect v) :: inspectMembers rest

end

end Value

def inspectOption (text : Option String) : String :=
  match text with
  | some s => inParens "Some" s
  | none => "None"

def Spec.inspect (s : Spec) : String :=
  let entries := s.toList.map fun e => toString e.1.toNat ++ ": " ++ e.2.inspect
  inspectRecord "TypeSpec"
    [("positional", inBraces (", ".intercalate entries)),
      ("default", inspectOption (s.fallback.map Descriptor.inspect))]

def Config.inspect (c : Config) : String :=
  inspectRecord "GuardConfig"
    [("enabled", toString c.enabled), ("fail_mode", c.failMode.name)]

/-- A guard; its callable is shown by a name. -/
def Guard.inspect {F : Type} (g : Guard F) (targetName : String) : String :=
  inspectRecord "GuardedFn"
    [("spec", g.spec.inspect), ("config", g.config.inspect), ("target", Text.quoted targetName)]

end CallGuard
