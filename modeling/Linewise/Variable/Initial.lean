import Linewise.Expression.Evaluation
import Linewise.Expression.Shape
import Linewise.Variable.Basic

/-!
Values for variables from what a user wrote: the value of a type, read from a literal or, for
numbers, from an arithmetic expression without names.
-/

namespace Linewise

namespace DataType

def default : DataType → Value
  | integer => .integer 0
  | float => .float 0
  | truth => .null
  | character => .text ['\x00']
  | text => .text []

end DataType

namespace Literal

/-- An expression in braces is for the interpreter of lines. -/
def isBraced (literal : Text) : Bool :=
  Text.startsWith literal ['\x7b'] && Text.endsWith literal ['\x7d']

private def asInteger (value : Value) : Except Fault Value := do return .integer (← value.toInteger)

private def asFloat (value : Value) : Except Fault Value := do return .float (← value.toFloat)

private def truthValue (literal : Text) : Value :=
  let word := Text.lower literal
  if word = "null".toList then .null else .boolean (word = "true".toList)

/-- A character is given by its code, between single quotes, or as itself. -/
private def character (literal type : Text) : Except Error Value :=
  if !literal.isEmpty && literal.all Text.isDigit then
    match Number.readInt literal with
    | .error cause => .error (.unreadable literal type cause)
    | .ok code =>
        if 0 ≤ code ∧ code ≤ 127 then .ok (.text [Char.ofNat code.toNat])
        else .error .characterCodeRange
  else
    match literal with
    | [char] => .ok (.text [char])
    | [first, char, last] =>
        if first = '\'' ∧ last = '\'' then .ok (.text [char]) else .error .invalidCharacter
    | _ => .error .invalidCharacter

private def isQuote (char : Char) : Bool := char = '"' || char = '\''

private theorem admits_asInteger {source value : Value} (converted : asInteger source = .ok value) :
    DataType.integer.admits value = true := by
  obtain ⟨number, _, converted⟩ := bind_eq_ok.mp converted
  cases converted
  rfl

private theorem admits_asFloat {source value : Value} (converted : asFloat source = .ok value) :
    DataType.float.admits value = true := by
  obtain ⟨number, _, converted⟩ := bind_eq_ok.mp converted
  cases converted
  rfl

private theorem admits_character {literal type : Text} {value : Value}
    (read : character literal type = .ok value) : DataType.character.admits value = true := by
  unfold character at read
  split at read
  · split at read
    · cases read
    · split at read
      · cases read
        rfl
      · cases read
  · split at read
    · cases read
      rfl
    · split at read
      · cases read
        rfl
      · cases read
    · cases read

def isEvaluated (type : DataType) (literal : Text) : Bool :=
  !isBraced literal && (type = .integer || type = .float) && Expression.looksArithmetic literal

variable [Evaluator]

def evaluation (literal : Text) : Evaluation := Evaluator.evaluate literal fun _ => none

/-- The value of an arithmetic literal; none if it has no value of the wanted kind. -/
private def arithmetic? (literal : Text) (convert : Value → Except Fault Value) :
    Except Error (Option Value) :=
  if Expression.looksArithmetic literal then
    match (evaluation literal).result with
    | none => .error .unfinished
    | some result => .ok (result >>= convert).toOption
  else .ok none

private def number (literal type : Text) (convert : Value → Except Fault Value) :
    Except Error Value := do
  match ← arithmetic? literal convert with
  | some value => return value
  | none => (convert (.text literal)).mapError (.unreadable literal type)

def valueOf (type : DataType) (literal : Text) : Except Error Value :=
  if isBraced literal then .error .braceExpression
  else
    match type with
    | .integer => number literal type.name asInteger
    | .float => number literal type.name asFloat
    | .truth => .ok (truthValue literal)
    | .character => character literal type.name
    | .text => .ok (.text (Text.trim isQuote literal))

def IsEndless (type : DataType) (literal : Text) : Prop :=
  isEvaluated type literal = true ∧ (evaluation literal).result = none

private theorem number_error {literal type : Text} {convert : Value → Except Fault Value}
    {error : Error} (failed : number literal type convert = .error error) :
    error = .unfinished ∧ Expression.looksArithmetic literal = true ∧
        (evaluation literal).result = none ∨
      ∃ cause, error = .unreadable literal type cause := by
  rcases bind_eq_error.mp failed with unfinished | ⟨found, -, failed⟩
  · unfold arithmetic? at unfinished
    split at unfinished
    · next arithmetic =>
        split at unfinished
        · next endless =>
            cases unfinished
            exact .inl ⟨rfl, arithmetic, endless⟩
        · cases unfinished
    · cases unfinished
  · cases found with
    | some value => cases failed
    | none =>
        cases converted : convert (.text literal) with
        | ok value =>
            simp only [converted] at failed
            cases failed
        | error cause =>
            simp only [converted] at failed
            cases failed
            exact .inr ⟨cause, rfl⟩

theorem valueOf_error {type : DataType} {literal : Text} {error : Error}
    (failed : valueOf type literal = .error error) :
    error ∈ [.braceExpression, .characterCodeRange, .invalidCharacter] ∨
      (∃ cause, error = .unreadable literal type.name cause) ∨
      error = .unfinished ∧ IsEndless type literal := by
  simp only [valueOf] at failed
  split at failed
  · cases failed
    simp
  · next plain =>
      cases type with
      | integer | float =>
          rcases number_error failed with ⟨rfl, arithmetic, endless⟩ | unreadable
          · refine .inr (.inr ⟨rfl, ?_, endless⟩)
            simp [isEvaluated, plain, arithmetic]
          · exact .inr (.inl unreadable)
      | truth | text => cases failed
      | character =>
          simp only [character] at failed
          repeat' split at failed
          all_goals cases failed
          all_goals simp

theorem IsEndless.valueOf_eq {type : DataType} {literal : Text} (endless : IsEndless type literal) :
    valueOf type literal = .error .unfinished := by
  obtain ⟨evaluated, unending⟩ := endless
  simp only [isEvaluated, Bool.and_eq_true, Bool.not_eq_true', Bool.or_eq_true,
    decide_eq_true_eq] at evaluated
  obtain ⟨⟨plain, numeric⟩, arithmetic⟩ := evaluated
  have unfinished (convert : Value → Except Fault Value) (name : Text) :
      number literal name convert = .error .unfinished := by
    refine bind_eq_error.mpr (.inl ?_)
    rw [arithmetic?, if_pos arithmetic, unending]
  simp only [valueOf, plain, Bool.false_eq_true, if_false]
  rcases numeric with rfl | rfl
  · exact unfinished _ _
  · exact unfinished _ _

private theorem number_cases {literal type : Text} {convert : Value → Except Fault Value}
    {value : Value} (read : number literal type convert = .ok value) :
    (∃ source, (evaluation literal).result = some (.ok source) ∧ convert source = .ok value) ∨
      convert (.text literal) = .ok value := by
  obtain ⟨found, evaluated, read⟩ := bind_eq_ok.mp read
  cases found with
  | none => exact .inr (mapError_eq_ok.mp read)
  | some result =>
      cases read
      unfold arithmetic? at evaluated
      split at evaluated
      · split at evaluated
        · cases evaluated
        · next evaluation came =>
            cases converted : evaluation >>= convert with
            | error cause =>
                rw [converted] at evaluated
                cases evaluated
            | ok value =>
                rw [converted] at evaluated
                cases evaluated
                obtain ⟨source, rfl, converted⟩ := bind_eq_ok.mp converted
                exact .inl ⟨source, came, converted⟩
      · cases evaluated

theorem valueOf_integer {literal : Text} {number : Int} (plain : isBraced literal = false)
    (read : Number.readInt literal = .ok number) (ends : (evaluation literal).result ≠ none)
    (evaluated : ∀ value, (evaluation literal).result = some (.ok value) →
      value = .integer number) :
    valueOf .integer literal = .ok (.integer number) := by
  have itself : asInteger (.text literal) = .ok (.integer number) :=
    bind_eq_ok.mpr ⟨number, read, rfl⟩
  have same : ∀ value, Literal.number literal DataType.integer.name asInteger = .ok value →
      value = .integer number := by
    intro value found
    rcases number_cases found with ⟨source, came, converted⟩ | converted
    · cases evaluated source came
      cases converted
      rfl
    · rw [itself] at converted
      cases converted
      rfl
  simp only [valueOf, plain, Bool.false_eq_true, if_false]
  cases found : Literal.number literal DataType.integer.name asInteger with
  | ok value => rw [same value found]
  | error error =>
      rcases bind_eq_error.mp found with unfinished | ⟨result, -, failed⟩
      · unfold arithmetic? at unfinished
        split at unfinished
        · split at unfinished
          · next none => exact absurd none ends
          · cases unfinished
        · cases unfinished
      · cases result with
        | some value => cases failed
        | none =>
            simp only [itself] at failed
            cases failed

private theorem exists_of_number {literal type : Text} {convert : Value → Except Fault Value}
    {value : Value} (read : number literal type convert = .ok value) :
    ∃ source, convert source = .ok value := by
  rcases number_cases read with ⟨source, -, converted⟩ | converted
  · exact ⟨source, converted⟩
  · exact ⟨_, converted⟩

/-- What is read from a literal is a value of the type that it is read for. -/
theorem admits_valueOf {type : DataType} {literal : Text} {value : Value}
    (read : valueOf type literal = .ok value) : type.admits value = true := by
  simp only [valueOf] at read
  split at read
  · cases read
  · cases type with
    | integer =>
        obtain ⟨source, converted⟩ := exists_of_number read
        exact admits_asInteger converted
    | float =>
        obtain ⟨source, converted⟩ := exists_of_number read
        exact admits_asFloat converted
    | character => exact admits_character read
    | text =>
        cases read
        rfl
    | truth =>
        cases read
        unfold truthValue
        simp only
        split <;> rfl

end Literal

section Evaluated

variable [Evaluator]

def initialValue (type : Text) (literal : Option Text) : Except Error Value := do
  let type ← DataType.supported type
  match literal with
  | none => return type.default
  | some literal => Literal.valueOf type (Text.strip literal)

/-- The warnings of the evaluation of a literal, if it is evaluated for a value of the type. What
variables hold is out of its reach. -/
def initialWarnings (type literal : Text) : List Text :=
  match DataType.supported type with
  | .error _ => []
  | .ok type =>
      let literal := Text.strip literal
      if Literal.isEvaluated type literal then (Literal.evaluation literal).effects.warnings else []

end Evaluated

/-- The truth values that declarations and changes accept; nothing counts as false there. -/
def checkedTruth (literal : Text) : Except Error Value :=
  let word := Text.strip (Text.lower literal)
  if word = "true".toList then .ok (.boolean true)
  else if word = "false".toList ∨ word = "null".toList then .ok (.boolean false)
  else .error (.notATruthValue literal)

end Linewise
