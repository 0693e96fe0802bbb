import Linewise.Error
import Linewise.Expression.Evaluation
import Linewise.Expression.Keyword

/-!
Calculations: expressions in the language's own spelling, whose results are what the language
shows. A truth value becomes the word for it, and a number loses superfluous decimals.
-/

namespace Linewise.Expression

variable [Evaluator]

def truthWord (truth : Bool) : Text := if truth then "true".toList else "false".toList

def evaluation (source : Text) (meaning : Meaning) : Evaluation :=
  Evaluator.evaluate (respell source) meaning

def resultFor : Value → Except Fault Value
  | .boolean truth => return .text (truthWord truth)
  | .float number => (Value.float number).simplified Value.resultPlaces
  | value => return value

def calculate (source : Text) (meaning : Meaning) : Except Error Value :=
  match (evaluation source meaning).result with
  | none => .error .unfinished
  | some result => (result >>= resultFor).mapError .calculation

/-- A result to be shown, where nothing is a word of its own. -/
def shownResult (source : Text) (meaning : Meaning) : Except Error Value := do
  match ← calculate source meaning with
  | .null => return .text "null".toList
  | value => return value

def effects (source : Text) (meaning : Meaning) : Effects := (evaluation source meaning).effects

end Linewise.Expression
