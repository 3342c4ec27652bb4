import CallGuard.Binary64
import CallGuard.Dict
import CallGuard.Instance

/-!
# Argument values

The values that a guarded call passes on. An absent argument and an explicit null are different
values. Equality compares contents at every depth, numbers as numbers and instances by creation.
-/
namespace CallGuard

mutual

inductive Value where
  | undefined
  | null
  | number (x : Binary64)
  | string (s : String)
  | boolean (b : Bool)
  | array (items : List Value)
  | object (members : Value.Members none)
  | nominal (i : Instance)

/-- The members of a plain object. Their keys ascend, from above the floor if there is one. -/
inductive Value.Members : Option String → Type where
  | nil {floor : Option String} : Value.Members floor
  | cons {floor : Option String} (key : String) (v : Value)
      (above : ∀ low ∈ floor, compare low key = .lt) (rest : Value.Members (some key)) :
      Value.Members floor

end

namespace Value

/-! ### Members -/

namespace Members

variable {floor : Option String}

@[elab_as_elim, induction_eliminator]
theorem inductionOn {motive : ∀ {floor}, Members floor → Prop}
    (nil : ∀ {floor}, motive (.nil : Members floor))
    (cons : ∀ {floor : Option String} (key : String) (v : Value)
      (above : ∀ low ∈ floor, compare low key = .lt) (rest : Members (some key)),
      motive rest → motive (.cons key v above rest)) :
    ∀ {floor} (ms : Members floor), motive ms
  | _, .nil => nil
  | _, .cons key v above rest => cons key v above rest (inductionOn nil cons rest)

def toList : {floor : Option String} → Members floor → List (String × Value)
  | _, nil => []
  | _, cons key v _ rest => (key, v) :: rest.toList

theorem above_of_mem {ms : Members floor} {m : String × Value} (member : m ∈ ms.toList) :
    ∀ low ∈ floor, compare low m.1 = .lt := by
  induction ms with
  | nil => cases member
  | cons key v above rest ih =>
    rcases List.mem_cons.mp member with rfl | later
    · exact above
    · -- The key of the rest's floor stands in between.
      exact fun low given => Std.TransCmp.lt_trans (above low given) (ih later key rfl)

theorem ascending (ms : Members floor) : Ascending ms.toList := by
  induction ms with
  | nil => exact .nil
  | cons key v above rest ih => exact .cons (fun m member => above_of_mem member key rfl) ih

theorem sizeOf_lt_of_mem {ms : Members floor} {m : String × Value} (member : m ∈ ms.toList) :
    sizeOf m.2 < sizeOf ms := by
  induction ms with
  | nil => cases member
  | cons key v above rest ih =>
    rcases List.mem_cons.mp member with rfl | later
    · simp only [cons.sizeOf_spec]
      omega
    · have smaller := ih later
      simp only [cons.sizeOf_spec]
      omega

/-- The members as a map. -/
def toDict (ms : Members none) : Dict String Value := ⟨ms.toList, ms.ascending⟩

def ofAscending (floor : Option String) : (entries : List (String × Value)) →
    Ascending entries → (∀ low ∈ floor, ∀ e ∈ entries, compare low e.1 = .lt) → Members floor
  | [], _, _ => nil
  | e :: rest, sorted, above =>
    cons e.1 e.2 (fun low given => above low given e List.mem_cons_self)
      (ofAscending (some e.1) rest sorted.of_cons fun _ same _ later =>
        Option.some.inj same ▸ List.rel_of_pairwise_cons sorted later)

theorem toList_ofAscending {entries : List (String × Value)} (sorted : Ascending entries)
    (above : ∀ low ∈ floor, ∀ e ∈ entries, compare low e.1 = .lt) :
    (ofAscending floor entries sorted above).toList = entries := by
  induction entries generalizing floor with
  | nil => rfl
  | cons e rest ih => rw [ofAscending, toList, ih]

def ofDict (d : Dict String Value) : Members none :=
  ofAscending none d.entries d.ascending nofun

@[simp] theorem toList_ofDict (d : Dict String Value) : (ofDict d).toList = d.entries :=
  toList_ofAscending d.ascending _

@[simp] theorem toDict_ofDict (d : Dict String Value) : (ofDict d).toDict = d := by
  simp only [toDict, toList_ofDict]

end Members

/-! ### Kinds -/

inductive Kind where
  | undefined
  | null
  | number
  | string
  | boolean
  | array
  | object
  | nominal
  deriving DecidableEq

def Kind.text : Kind → String
  | undefined => "undefined"
  | null => "null"
  | number => "number"
  | string => "string"
  | boolean => "boolean"
  | array => "array"
  | object => "object"
  | nominal => "instance"

def Kind.all : List Kind :=
  [.undefined, .null, .number, .string, .boolean, .array, .object, .nominal]

def kind : Value → Kind
  | undefined => .undefined
  | null => .null
  | number _ => .number
  | string _ => .string
  | boolean _ => .boolean
  | array _ => .array
  | object _ => .object
  | nominal _ => .nominal

/-! ### Contents -/

def isNullish : Value → Bool
  | undefined | null => true
  | _ => false

def number? : Value → Option Binary64
  | number x => some x
  | _ => none

def string? : Value → Option String
  | string s => some s
  | _ => none

def boolean? : Value → Option Bool
  | boolean b => some b
  | _ => none

def instance? : Value → Option Instance
  | nominal i => some i
  | _ => none

/-- An absent value is undefined. -/
instance : Inhabited Value := ⟨undefined⟩

def ofOption (v : Option Value) : Value := v.getD undefined

/-- A plain object; the last of equal keys counts. -/
def ofMembers (members : List (String × Value)) : Value :=
  object (.ofDict (Dict.ofList members))

/-! ### Equality -/

mutual

def equal : Value → Value → Bool
  | undefined, undefined => true
  | null, null => true
  | number x, number y => x.numEq y
  | string s, string t => s == t
  | boolean a, boolean b => a == b
  | array xs, array ys => equalItems xs ys
  | object xs, object ys => equalMembers xs ys
  | nominal i, nominal j => i == j
  | _, _ => false

def equalItems : List Value → List Value → Bool
  | [], [] => true
  | x :: xs, y :: ys => equal x y && equalItems xs ys
  | _, _ => false

def equalMembers {low high : Option String} : Members low → Members high → Bool
  | .nil, .nil => true
  | .cons k x _ xs, .cons l y _ ys => k == l && equal x y && equalMembers xs ys
  | _, _ => false

end

instance : BEq Value := ⟨equal⟩

theorem isNullish_iff (v : Value) : v.isNullish ↔ v.kind = .null ∨ v.kind = .undefined := by
  cases v <;> simp [isNullish, kind]

end Value

end CallGuard
