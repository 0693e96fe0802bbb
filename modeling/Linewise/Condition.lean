import Linewise.Expression.Calculation
import Linewise.Substitution

/-!
Conditions of branches and loops. References are replaced first; the result of the calculation
then decides, where words for truth values count as such and other texts by not being blank.
-/

namespace Linewise.Condition

def decides : Value → Bool
  | .text content =>
      let word := Text.lower content
      if word = "true".toList then true
      else if word = "false".toList then false
      else !(Text.strip content).isEmpty
  | value => value.isTrue

variable [Evaluator]

def holds (bindings : Bindings) (condition : Text) : Except Error Bool := do
  let condition ← substitute bindings condition
  match Expression.shownResult condition bindings.meaning with
  | .ok value => return decides value
  | .error cause => throw (cause.causing (.condition condition))

def effects (bindings : Bindings) (condition : Text) : Effects :=
  match substitute bindings condition with
  | .ok condition => Expression.effects condition bindings.meaning
  | .error _ => .none

end Linewise.Condition
