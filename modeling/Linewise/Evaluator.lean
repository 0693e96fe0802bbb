import Linewise.Revision

/-!
What evaluates expressions. An evaluation gives a value or a fault, or does not come to an end; it
may change containers that variables hold, and write warnings. Which expressions there are, and
what they mean, is left to the evaluator.
-/

namespace Linewise

/-- The values of names. -/
abbrev Meaning := Text → Option Value

def Meaning.revised (revision : Revision) (meaning : Meaning) : Meaning :=
  fun name => (meaning name).map (Value.revised revision)

/-- What is left behind, besides a value. -/
structure Effects where
  revision : Revision
  warnings : List Text

namespace Effects

def none : Effects := ⟨[], []⟩

instance (effects : Effects) : Decidable (effects = none) :=
  decidable_of_iff (effects.revision.isEmpty ∧ effects.warnings.isEmpty) (by
    cases effects
    simp [none])

def andThen (first second : Effects) : Effects :=
  ⟨first.revision ++ second.revision, first.warnings ++ second.warnings⟩

end Effects

structure Evaluation where
  /-- Nothing if there is no end. -/
  result : Option (Except Fault Value)
  effects : Effects

class Evaluator where
  evaluate : Text → Meaning → Evaluation
  /-- How many replacements in a message, beyond one for each of its own expressions, are waited
  for. -/
  patience : Nat

def Evaluator.IsTotal [Evaluator] : Prop :=
  ∀ source meaning, (Evaluator.evaluate source meaning).result ≠ none

theorem Meaning.revised_nil (meaning : Meaning) : meaning.revised [] = meaning := by
  funext name
  rw [Meaning.revised]
  cases meaning name <;> rfl

end Linewise
