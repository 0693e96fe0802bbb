import Linewise.Error
import Linewise.Evaluator
import Linewise.Text.Case

/-!
Variables. The type of a variable is a text, since a declaration with an expression in braces
takes any word for a type.
-/

namespace Linewise

/-- The types that values can be read and drawn for. -/
inductive DataType
  | integer
  | text
  | character
  | truth
  | float
deriving DecidableEq, Repr

namespace DataType

def name : DataType → Text
  | integer => "INT".toList
  | text => "STR".toList
  | character => "CHAR".toList
  | truth => "BOOL".toList
  | float => "FLOAT".toList

def all : List DataType := [integer, text, character, truth, float]

def ofName? (name : Text) : Option DataType := all.find? fun type => type.name = name

theorem ofName?_name (type : DataType) : ofName? type.name = some type := by
  cases type <;> decide

theorem eq_name_of_ofName? {name : Text} {type : DataType} (known : ofName? name = some type) :
    name = type.name := by
  have named := List.find?_some known
  exact (of_decide_eq_true named).symm

theorem name_injective {type other : DataType} (same : type.name = other.name) : type = other := by
  have known := ofName?_name type
  rw [same, ofName?_name] at known
  exact (Option.some.inj known).symm

/-- The type with this name in any letter case. -/
def supported (name : Text) : Except Error DataType :=
  match ofName? (Text.upper name) with
  | some type => .ok type
  | none => .error (.unsupportedType (Text.upper name))

theorem supported_of_upper {name : Text} {type : DataType} (named : Text.upper name = type.name) :
    supported name = .ok type := by
  rw [supported, named, ofName?_name]

theorem supported_of_unnamed {name : Text}
    (unnamed : ∀ type : DataType, Text.upper name ≠ type.name) :
    supported name = .error (.unsupportedType (Text.upper name)) := by
  cases known : ofName? (Text.upper name) with
  | none => rw [supported, known]
  | some type => exact absurd (eq_name_of_ofName? known) (unnamed type)

/-- The values that variables of a type are for. -/
def admits : DataType → Value → Bool
  | integer, .integer _ => true
  | text, .text _ => true
  | character, .text [_] => true
  | truth, .boolean _ => true
  | truth, .null => true
  | float, .float _ => true
  | _, _ => false

theorem isImmutable_of_admits {type : DataType} {value : Value}
    (admitted : type.admits value = true) : value.isImmutable = true := by
  cases value with
  | tuple | set | dictionary => cases type <;> cases admitted
  | _ => rfl

end DataType

structure Variable where
  type : Text
  value : Value
  constant : Bool
deriving Repr

namespace Variable

def hasType (stored : Variable) (type : DataType) : Bool := stored.type = type.name

def isNumeric (stored : Variable) : Bool :=
  stored.hasType .integer || stored.hasType .float

/-- The text that stands for the variable's value where it is mentioned. -/
def mention (stored : Variable) : Except Fault Text :=
  if stored.hasType .truth then
    match stored.value with
    | .null => .ok "null".toList
    | value => .ok (if value.isTrue then "true".toList else "false".toList)
  else if stored.isNumeric then do
    (← stored.value.simplified Value.resultPlaces).written
  else
    match stored.value with
    | .null => .ok "null".toList
    | value => value.written

def revised (revision : Revision) (stored : Variable) : Variable :=
  { stored with value := stored.value.revised revision }

@[simp] theorem revised_nil (stored : Variable) : stored.revised [] = stored := rfl

end Variable

/-- The variables that names stand for. -/
abbrev Bindings := Text → Option Variable

def Bindings.meaning (bindings : Bindings) (name : Text) : Option Value :=
  (bindings name).map Variable.value

end Linewise
