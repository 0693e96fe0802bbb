import Linewise.Proofs.Subjects
import Linewise.Proofs.Typing

/-!
Values of declarations. A literal and a missing value are checked against the declared type, and so
is the result of an expression in braces for a text, a character or a truth value. A result that is
no number is taken as it is for a number, and any result is for a word that is no type; these are
the declarations that leave a variable without a value of its type.
-/

namespace Linewise

namespace Plan

variable [Evaluator] {bindings : Bindings} {type expression : Text} {values : List Text}
  {value : Value}

/-- A variable of the type takes the result of an expression in braces as it is, though it is no
value of the type. -/
def TakesAsIs (type : Text) (result : Value) : Prop :=
  DataType.ofName? type = none ∨
    (DataType.ofName? type = some .integer ∨ DataType.ofName? type = some .float) ∧
      result.numeric? = none

theorem expressionValue_cases (computed : expressionValue bindings type expression = .ok value) :
    (∃ dataType, DataType.ofName? type = some dataType ∧ dataType.admits value = true) ∨
      (Expression.shownResult expression bindings.meaning = .ok value ∧ TakesAsIs type value) := by
  obtain ⟨result, shown, computed⟩ := bind_eq_ok.mp computed
  unfold TakesAsIs
  generalize DataType.ofName? type = known at computed
  split at computed
  · simp only [bind_eq_ok, pure_eq_ok] at computed
    obtain ⟨whole, _, rfl⟩ := computed
    exact .inl ⟨.integer, rfl, rfl⟩
  · simp only [bind_eq_ok, pure_eq_ok] at computed
    obtain ⟨number, _, rfl⟩ := computed
    exact .inl ⟨.float, rfl, rfl⟩
  · simp only [bind_eq_ok, pure_eq_ok] at computed
    obtain ⟨written, _, rfl⟩ := computed
    exact .inl ⟨.text, rfl, rfl⟩
  · exact .inl ⟨.truth, rfl, admits_checkedTruth computed⟩
  · cases computed
    exact .inl ⟨.truth, rfl, rfl⟩
  · cases computed
    exact .inl ⟨.character, rfl, rfl⟩
  · obtain ⟨code, _, computed⟩ := bind_eq_ok.mp computed
    split at computed <;> cases computed
    exact .inl ⟨.character, rfl, rfl⟩
  · cases computed
  · next known _ _ _ _ noText noTruth _ _ noInteger noFloat noNumber noOther =>
      cases computed
      refine .inr ⟨shown, ?_⟩
      cases known with
      | none => exact .inl rfl
      | some dataType =>
          right
          cases dataType with
          | integer =>
              exact ⟨.inl rfl, Option.eq_none_iff_forall_ne_some.mpr fun number =>
                noInteger number rfl⟩
          | float =>
              exact ⟨.inr rfl, Option.eq_none_iff_forall_ne_some.mpr fun number =>
                noFloat number rfl⟩
          | text => exact absurd rfl noText
          | truth => exact absurd rfl noTruth
          | character =>
              exact absurd (Option.eq_none_iff_forall_ne_some.mpr fun number =>
                noNumber number rfl) (noOther rfl)

/-- The value of a declaration is the result of an expression in braces, taken as it is. -/
def Unchecked (bindings : Bindings) (type : Text) (values : List Text) (value : Value) : Prop :=
  ∃ expression, braced? (Text.join [' '] values) = some expression ∧
    Expression.shownResult expression bindings.meaning = .ok value ∧ TakesAsIs type value

omit [Evaluator] in
theorem not_wellTyped_of_takesAsIs (taken : TakesAsIs type value) (constant : Bool) :
    ¬Variable.WellTyped ⟨type, value, constant⟩ := by
  rintro ⟨dataType, rfl, admitted⟩
  change dataType.admits value = true at admitted
  rw [TakesAsIs, DataType.ofName?_name] at taken
  rcases taken with none | ⟨known | known, noNumber⟩
  · cases none
  · cases known
    cases value <;> cases admitted
    cases noNumber
  · cases known
    cases value <;> cases admitted
    cases noNumber

/-- A declaration leaves a value of its type just if the value is not one that it takes without a
check. -/
theorem wellTyped_declared_iff {word : Text}
    (computed : declaredValue bindings (Text.upper word) values = .ok value) (constant : Bool) :
    Variable.WellTyped ⟨Text.upper word, value, constant⟩ ↔
      ¬Unchecked bindings (Text.upper word) values value := by
  constructor
  · rintro typed ⟨expression, _, _, taken⟩
    exact not_wellTyped_of_takesAsIs taken constant typed
  · intro checked
    by_cases nothing : values = []
    · exact (fits_declaredValue (absurd nothing) computed).wellTyped
    · cases braced : braced? (Text.join [' '] values) with
      | none =>
          simp only [declaredValue, List.isEmpty_eq_false_iff.mpr nothing, braced,
            Bool.false_eq_true, if_false] at computed
          exact (Value.Fits.literalValue computed).wellTyped
      | some expression =>
          simp only [declaredValue, List.isEmpty_eq_false_iff.mpr nothing, braced,
            Bool.false_eq_true, if_false, mapError_eq_ok] at computed
          rcases expressionValue_cases computed with ⟨dataType, known, admitted⟩ | ⟨shown, taken⟩
          · exact ⟨dataType, DataType.eq_name_of_ofName? known, admitted⟩
          · exact absurd ⟨expression, braced, shown, taken⟩ checked

end Plan

/-- A line that declares a variable and is done has made a variable of the name and the type that it
says, and this has a value of its type just if the value was checked. The values that are not
checked are the results of expressions in braces for a word that is none of the five types, and
those that are no numbers for a number. -/
theorem Line.created_wellTyped_iff [Evaluator] {World : Type} (host : Host World) (line : Text)
    (machine : Machine) (world : World) {arguments : List Text}
    (known : command? line = some (.create, arguments))
    (outside : machine.current.inComment = false)
    (done : (execute host line machine world).1 = .done) :
    ∃ constant type name values value,
      Plan.constancy arguments = .ok (constant, type :: name :: values) ∧
      Plan.declaredValue machine.bindings (Text.upper type) values = .ok value ∧
      (execute host line machine world).2.1.find? (Text.lower name) =
        some ⟨Text.upper type, (machineAfter line machine).keep value, constant⟩ ∧
      ((∃ dataType : DataType, Text.upper type = dataType.name ∧
          dataType.admits ((machineAfter line machine).keep value) = true) ↔
        ¬Plan.Unchecked machine.bindings (Text.upper type) values value) := by
  obtain ⟨action, planned, performed⟩ :=
    performed_of_done host line machine world known outside done
  have resumes : resumed host line machine world = machineAfter line machine :=
    resumed_eq_machineAfter host world known (by decide) outside done
  rw [resumes] at performed
  generalize (execute host line machine world).2.1 = after at performed
  cases planned with
  | @create _ values type name constant value read _ _ initial =>
      cases performed
      simp only [Machine.admits_keep]
      refine ⟨constant, type, name, values, value, read, initial, ?_, ?_⟩
      · rw [Machine.find?_declare, if_pos rfl, Machine.kept]
      · exact Plan.wellTyped_declared_iff initial constant

def Line.mislabelled : Text := "Create Foo N \x7b1\x7d".toList

theorem Line.created_wellTyped_iff_mislabelled :
    command? mislabelled = some (.create, ["Foo".toList, "N".toList, "\x7b1\x7d".toList]) ∧
      (execute Console.host mislabelled .empty (Console.start [] [])).1 = .done ∧
      ∃ stored, (execute Console.host mislabelled .empty (Console.start [] [])).2.1.find?
          "n".toList = some stored ∧
        stored.type = "FOO".toList ∧ ¬stored.WellTyped := by
  have known : command? mislabelled =
      some (.create, ["Foo".toList, "N".toList, "\x7b1\x7d".toList]) := by decide
  have done : (execute Console.host mislabelled .empty (Console.start [] [])).1 = .done := by
    decide +kernel
  have none : DataType.ofName? (Text.upper "Foo".toList) = none := by decide
  obtain ⟨constant, type, name, values, value, read, initial, found, law⟩ :=
    created_wellTyped_iff Console.host mislabelled .empty (Console.start [] []) known rfl done
  cases read
  refine ⟨known, done, _, found, show Text.upper "Foo".toList = _ by decide, fun typed => ?_⟩
  refine law.mp typed ⟨"1".toList, by decide, ?_, .inl none⟩
  rcases Plan.expressionValue_cases (mapError_eq_ok.mp initial) with ⟨_, some, _⟩ | ⟨shown, _⟩
  · rw [none] at some
    cases some
  · exact shown

end Linewise
