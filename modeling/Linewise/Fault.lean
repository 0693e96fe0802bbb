import Linewise.Text.Quoted

/-!
Causes for which the evaluation of an expression, or the reading or writing of a value, fails, and
the wording of each.
-/

namespace Linewise

/-- The kinds of values. -/
inductive Kind
  | null
  | boolean
  | integer
  | float
  | text
  | tuple
  | set
  | dictionary
deriving DecidableEq, Repr

def Kind.name : Kind → Text
  | .null => "NoneType".toList
  | .boolean => "bool".toList
  | .integer => "int".toList
  | .float => "float".toList
  | .text => "str".toList
  | .tuple => "tuple".toList
  | .set => "set".toList
  | .dictionary => "dict".toList

inductive Fault
  | invalidSyntax
  | undefinedName (name : Text)
  | divisionByZero
  | floorDivisionByZero
  | remainderByZero
  | floatDivisionByZero
  | floatFloorDivisionByZero
  | floatRemainderByZero
  | negativePowerOfZero
  | powerOutOfRange
  | integerTooLarge
  | quotientTooLarge
  | roundingTooLarge
  | negativeShift
  | countTooLarge
  | unsupportedOperands (operator : Text) (left right : Kind)
  | unsupportedOperand (operator : Text) (operand : Kind)
  | notConcatenable (sequence other : Kind)
  | notRepeatable (count : Kind)
  | superfluousArguments
  | notOrdered (operator : Text) (left right : Kind)
  | notContained (item : Kind)
  | notIterable (container : Kind)
  | notSubscriptable (sequence : Kind)
  | textIndexOutOfRange
  | tupleIndexOutOfRange
  | textIndexKind (index : Kind)
  | tupleIndexKind (index : Kind)
  | sliceIndexKind
  | sliceStepZero
  | missingKey (key : Text)
  | notHashable (key : Kind)
  | notCallable (callee : Kind)
  | noAttribute (owner : Kind) (name : Text)
  /-- A method of sets takes no arguments, or exactly one. -/
  | argumentCount (method : Text) (alone : Bool) (given : Nat)
  | emptySet
  | notAnInteger (literal : Text)
  | notANumber (literal : Text)
  | notConvertibleToInteger (source : Kind)
  | notConvertibleToFloat (source : Kind)
  | infiniteToInteger
  | undefinedToInteger
  | notRoundable (source : Kind)
  | notOneCharacter (length : Nat)
  | notACharacter (source : Kind)
  | notInterpretableAsInteger (source : Kind)
  | noLength (source : Kind)
  | tooLongToWrite
  | tooLongToRead (digits : Nat)
  | endOfInput
deriving DecidableEq, Repr

namespace Fault

/-- Integers of more decimal digits are neither written nor read. -/
def mostDigits : Nat := 4300

private def lit (literal : String) : Text := literal.toList

def message : Fault → Text
  | invalidSyntax => lit "invalid syntax"
  | undefinedName name => lit "name '" ++ name ++ lit "' is not defined"
  | divisionByZero => lit "division by zero"
  | floorDivisionByZero => lit "integer division or modulo by zero"
  | remainderByZero => lit "integer modulo by zero"
  | floatDivisionByZero => lit "float division by zero"
  | floatFloorDivisionByZero => lit "float floor division by zero"
  | floatRemainderByZero => lit "float modulo"
  | negativePowerOfZero => lit "0.0 cannot be raised to a negative power"
  | powerOutOfRange => lit "(34, 'Numerical result out of range')"
  | integerTooLarge => lit "int too large to convert to float"
  | quotientTooLarge => lit "integer division result too large for a float"
  | roundingTooLarge => lit "rounded value too large to represent"
  | negativeShift => lit "negative shift count"
  | countTooLarge => lit "cannot fit 'int' into an index-sized integer"
  | unsupportedOperands operator left right =>
      lit "unsupported operand type(s) for " ++ operator ++ lit ": '" ++ left.name
        ++ lit "' and '" ++ right.name ++ lit "'"
  | unsupportedOperand operator operand =>
      lit "bad operand type for unary " ++ operator ++ lit ": '" ++ operand.name ++ lit "'"
  | notConcatenable sequence other =>
      lit "can only concatenate " ++ sequence.name ++ lit " (not \"" ++ other.name
        ++ lit "\") to " ++ sequence.name
  | notRepeatable count =>
      lit "can't multiply sequence by non-int of type '" ++ count.name ++ lit "'"
  | superfluousArguments => lit "not all arguments converted during string formatting"
  | notOrdered operator left right =>
      lit "'" ++ operator ++ lit "' not supported between instances of '" ++ left.name
        ++ lit "' and '" ++ right.name ++ lit "'"
  | notContained item =>
      lit "'in <string>' requires string as left operand, not " ++ item.name
  | notIterable container =>
      lit "argument of type '" ++ container.name ++ lit "' is not iterable"
  | notSubscriptable sequence =>
      lit "'" ++ sequence.name ++ lit "' object is not subscriptable"
  | textIndexOutOfRange => lit "string index out of range"
  | tupleIndexOutOfRange => lit "tuple index out of range"
  | textIndexKind index =>
      lit "string indices must be integers, not '" ++ index.name ++ lit "'"
  | tupleIndexKind index =>
      lit "tuple indices must be integers or slices, not " ++ index.name
  | sliceIndexKind =>
      lit "slice indices must be integers or None or have an __index__ method"
  | sliceStepZero => lit "slice step cannot be zero"
  | missingKey key => key
  | notHashable key => lit "unhashable type: '" ++ key.name ++ lit "'"
  | notCallable callee => lit "'" ++ callee.name ++ lit "' object is not callable"
  | noAttribute owner name =>
      lit "'" ++ owner.name ++ lit "' object has no attribute '" ++ name ++ lit "'"
  | argumentCount method alone given =>
      lit "set." ++ method ++ lit "() takes "
        ++ (if alone then lit "no arguments" else lit "exactly one argument")
        ++ lit " (" ++ Text.ofNat given ++ lit " given)"
  | emptySet => lit "'pop from an empty set'"
  | notAnInteger literal =>
      lit "invalid literal for int() with base 10: " ++ (Text.quoted literal).take 200
  | notANumber literal => lit "could not convert string to float: " ++ Text.quoted literal
  | notConvertibleToInteger source =>
      lit "int() argument must be a string, a bytes-like object or a real number, not '"
        ++ source.name ++ lit "'"
  | notConvertibleToFloat source =>
      lit "float() argument must be a string or a real number, not '" ++ source.name ++ lit "'"
  | infiniteToInteger => lit "cannot convert float infinity to integer"
  | undefinedToInteger => lit "cannot convert float NaN to integer"
  | notRoundable source =>
      lit "type " ++ source.name ++ lit " doesn't define __round__ method"
  | notOneCharacter length =>
      lit "ord() expected a character, but string of length " ++ Text.ofNat length
        ++ lit " found"
  | notACharacter source =>
      lit "ord() expected string of length 1, but " ++ source.name ++ lit " found"
  | notInterpretableAsInteger source =>
      lit "'" ++ source.name ++ lit "' object cannot be interpreted as an integer"
  | noLength source => lit "object of type '" ++ source.name ++ lit "' has no len()"
  | tooLongToWrite =>
      lit "Exceeds the limit (" ++ Text.ofNat mostDigits
        ++ lit " digits) for integer string conversion; use sys.set_int_max_str_digits() "
        ++ lit "to increase the limit"
  | tooLongToRead digits =>
      lit "Exceeds the limit (" ++ Text.ofNat mostDigits
        ++ lit " digits) for integer string conversion: value has " ++ Text.ofNat digits
        ++ lit " digits; use sys.set_int_max_str_digits() to increase the limit"
  | endOfInput => lit "EOF when reading a line"

end Fault

/-! ## Results that are no errors -/

section Results

variable {ε α β : Type}

theorem bind_eq_ok {first : Except ε α} {next : α → Except ε β} {result : β} :
    (first >>= next) = .ok result ↔ ∃ value, first = .ok value ∧ next value = .ok result := by
  cases first <;> simp [bind, Except.bind]

theorem bind_eq_error {first : Except ε α} {next : α → Except ε β} {error : ε} :
    (first >>= next) = .error error ↔
      first = .error error ∨ ∃ value, first = .ok value ∧ next value = .error error := by
  cases first <;> simp [bind, Except.bind]

theorem pure_eq_ok {value result : α} :
    (pure value : Except ε α) = .ok result ↔ value = result := by
  simp [pure, Except.pure]

theorem mapError_eq_ok {ε' : Type} {first : Except ε α} {report : ε → ε'} {result : α} :
    first.mapError report = .ok result ↔ first = .ok result := by
  cases first with
  | ok value =>
      have mapped : (Except.ok value).mapError report = .ok value := rfl
      rw [mapped, Except.ok.injEq, Except.ok.injEq]
  | error fault =>
      have mapped : (Except.error fault : Except ε α).mapError report = .error (report fault) := rfl
      rw [mapped]
      exact iff_of_false nofun nofun

theorem guarded_eq_ok {refused : Prop} [Decidable refused] {error : ε}
    {next : PUnit → Except ε α} {result : α} :
    (if refused then throw error >>= next else next ()) = .ok result ↔
      ¬refused ∧ next () = .ok result := by
  by_cases holds : refused <;>
    simp [holds, throw, throwThe, MonadExceptOf.throw, bind, Except.bind]

end Results

end Linewise
