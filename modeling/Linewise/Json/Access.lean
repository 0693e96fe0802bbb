import Linewise.Json.Reader
import Linewise.Value

/-!
Looking into JSON values that may not have the shape that is hoped for.
-/

namespace Linewise.Json

def typeName : Json → Text
  | null => "NoneType".toList
  | boolean _ => "bool".toList
  | integer _ => "int".toList
  | float _ => "float".toList
  | text _ => "str".toList
  | array _ => "list".toList
  | object _ => "dict".toList

/-- Nothing, zero and empty values count as absent. -/
def isPresent : Json → Bool
  | null => false
  | boolean truth => truth
  | integer number => number ≠ 0
  | float number => number != 0
  | text content => !content.isEmpty
  | array items => !items.isEmpty
  | object members => !members.isEmpty

def presentMember? (json : Json) (name : Text) : Option Json :=
  (json.member? name).filter isPresent

def toValue : Json → Value
  | null => .null
  | boolean truth => .boolean truth
  | integer number => .integer number
  | float number => .float number
  | text content => .text content
  | array _ => .tuple []
  | object _ => .dictionary (.fresh 0) []

end Linewise.Json
