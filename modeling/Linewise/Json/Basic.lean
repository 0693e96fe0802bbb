import Linewise.Text.Basic

/-!
JSON values. Whole numbers and numbers with a point or an exponent are told apart, and the members
of an object keep their order.
-/

namespace Linewise

inductive Json
  | null
  | boolean (truth : Bool)
  | integer (number : Int)
  | float (number : Float)
  | text (content : Text)
  | array (items : List Json)
  | object (members : List (Text × Json))
deriving Repr, Inhabited

namespace Json

def member? : Json → Text → Option Json
  | object members, name => members.lookup name
  | _, _ => none

def items? : Json → Option (List Json)
  | array items => some items
  | _ => none

def members? : Json → Option (List (Text × Json))
  | object members => some members
  | _ => none

def text? : Json → Option Text
  | text content => some content
  | _ => none

def integer? : Json → Option Int
  | integer number => some number
  | _ => none

/-- Add a member at the end, or replace the member with this name in its place. -/
def setMember (members : List (Text × Json)) (name : Text) (value : Json) : List (Text × Json) :=
  if members.any (·.1 = name) then
    members.map fun entry => if entry.1 = name then (name, value) else entry
  else members ++ [(name, value)]

end Json

end Linewise
