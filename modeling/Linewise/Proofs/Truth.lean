import Linewise.Condition

/-!
Which values make a condition hold. The value of the expression goes through words on its way to a
truth value, and comes out as what it counts for, save for nothing: its word is not one of those
that count as a truth value, so that a condition that comes to nothing holds.
-/

namespace Linewise.Condition

open Expression

/-! ## Words -/

private theorem decides_truthWord (truth : Bool) : decides (.text (truthWord truth)) = truth := by
  cases truth <;> decide +kernel

private theorem decides_nullWord : decides (.text "null".toList) = true := by decide +kernel

/-! ## Values -/

private def shownTruth : Value → Bool
  | .null => true
  | value => decides value

def resultTruth (value : Value) : Except Fault Bool :=
  match value with
  | .boolean truth => .ok truth
  | .float number => ((Value.float number).simplified Value.resultPlaces).map shownTruth
  | value => .ok (shownTruth value)

section Evaluated

variable [Evaluator]

private theorem map_shownResult {source : Text} {meaning : Meaning}
    {result : Except Fault Value} (came : (evaluation source meaning).result = some result) :
    (shownResult source meaning).map decides =
      (result >>= resultTruth).mapError .calculation := by
  unfold shownResult calculate
  rw [came]
  cases result with
  | error cause => rfl
  | ok value =>
      cases value with
      | null => exact congrArg Except.ok decides_nullWord
      | boolean truth => exact congrArg Except.ok (decides_truthWord truth)
      | float number =>
          simp only [bind, Except.bind, resultFor, resultTruth]
          cases (Value.float number).simplified Value.resultPlaces with
          | error cause => rfl
          | ok result =>
              cases result with
              | null => exact congrArg Except.ok decides_nullWord
              | _ => rfl
      | _ => rfl

/-- The truth of a condition whose expression has an end is that of its value, and what fails there
is reported for the condition. -/
theorem holds_eq {bindings : Bindings} {condition source : Text} {result : Except Fault Value}
    (substituted : substitute bindings condition = .ok source)
    (came : (evaluation source bindings.meaning).result = some result) :
    holds bindings condition =
      (result >>= resultTruth).mapError fun cause => .condition source (.calculation cause) := by
  have lifted : (liftM (substitute bindings condition) : Except Error Text) = .ok source :=
    lifted_eq_ok.mpr substituted
  have shown := map_shownResult came
  have passed : holds bindings condition = ((shownResult source bindings.meaning).map
      decides).mapError (Error.causing (.condition source)) := by
    unfold holds
    rw [lifted]
    simp only [bind, Except.bind]
    cases shownResult source bindings.meaning <;> rfl
  rw [passed, shown]
  cases result >>= resultTruth <;> rfl

/-- A condition whose expression comes to neither a floating-point number nor a text is decided by
what the value counts for, just if the value is not nothing. -/
theorem holds_eq_isTrue_iff {bindings : Bindings} {condition source : Text} {value : Value}
    (substituted : substitute bindings condition = .ok source)
    (evaluated : (evaluation source bindings.meaning).result = some (.ok value))
    (discrete : value.kind ≠ .float ∧ value.kind ≠ .text) :
    ∃ truth, holds bindings condition = .ok truth ∧ (truth = value.isTrue ↔ value ≠ .null) := by
  rw [holds_eq substituted evaluated]
  cases value with
  | null => exact ⟨true, rfl, by simp [Value.isTrue]⟩
  | float number => exact absurd rfl discrete.1
  | text content => exact absurd rfl discrete.2
  | _ => exact ⟨_, rfl, fun _ => nofun, fun _ => rfl⟩

end Evaluated

/-- A condition that is nothing holds. -/
theorem holds_eq_isTrue_iff_null :
    let bindings : Bindings := fun _ => none
    substitute bindings "null".toList = .ok "null".toList ∧
      (evaluation "null".toList bindings.meaning).result = some (.ok .null) ∧
      ∃ truth, holds bindings "null".toList = .ok truth ∧
        (truth = Value.null.isTrue ↔ Value.null ≠ .null) := by
  have substituted : substitute (fun _ => none) "null".toList = .ok "null".toList := by
    rfl
  have kind : ((evaluation "null".toList (Bindings.meaning fun _ => none)).result.bind fun result =>
      result.toOption.map Value.kind) = some .null := by
    decide +kernel
  have evaluated : (evaluation "null".toList (Bindings.meaning fun _ => none)).result =
      some (.ok .null) := by
    rcases came : (evaluation "null".toList (Bindings.meaning fun _ => none)).result with
      _ | cause | value
    · rw [came] at kind
      cases kind
    · rw [came] at kind
      cases kind
    · rw [came] at kind
      cases value with
      | null => rfl
      | _ => cases kind
  exact ⟨substituted, evaluated,
    holds_eq_isTrue_iff substituted evaluated ⟨by decide, by decide⟩⟩

end Linewise.Condition
