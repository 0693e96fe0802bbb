import Linewise.Json.Basic
import Linewise.Number.Shortest
import Linewise.Text.Quoted

/-!
Writing JSON, on one line and without spaces.
-/

namespace Linewise.Json

private def escape (char : Char) : Text :=
  match char with
  | '"' => ['\\', '"']
  | '\\' => ['\\', '\\']
  | '\n' => ['\\', 'n']
  | '\r' => ['\\', 'r']
  | '\t' => ['\\', 't']
  | char =>
      if char.toNat < 0x20 ∨ char.toNat = 0x7F then '\\' :: 'u' :: Text.hex 4 char.toNat
      else [char]

def writeText (content : Text) : Text := '"' :: content.flatMap escape ++ ['"']

mutual

def write : Json → Text
  | null => "null".toList
  | boolean true => "true".toList
  | boolean false => "false".toList
  | integer number => Text.ofInt number
  | float number => Number.text number
  | text content => writeText content
  | array items => '[' :: Text.join [','] (writeItems items) ++ [']']
  | object members => '\x7b' :: Text.join [','] (writeMembers members) ++ ['\x7d']

private def writeItems : List Json → List Text
  | [] => []
  | item :: items => write item :: writeItems items

private def writeMembers : List (Text × Json) → List Text
  | [] => []
  | (name, value) :: members => (writeText name ++ ':' :: write value) :: writeMembers members

end

end Linewise.Json
