import Linewise.Expression.Tree

/-!
What the operators do with values. Integers are unbounded, a truth value counts as one or zero,
and an operation with a floating-point operand is one of floating-point numbers.
-/

namespace Linewise

/-! ## Bits of integers

Negative integers are taken with infinitely many leading ones. -/

namespace IntegerBits

/-- The bits of `left` where `right` has none. -/
private def without (left right : Nat) : Nat := left ^^^ (left &&& right)

def both : Int → Int → Int
  | .ofNat left, .ofNat right => .ofNat (left &&& right)
  | .ofNat left, .negSucc right => .ofNat (without left right)
  | .negSucc left, .ofNat right => .ofNat (without right left)
  | .negSucc left, .negSucc right => .negSucc (left ||| right)

def either : Int → Int → Int
  | .ofNat left, .ofNat right => .ofNat (left ||| right)
  | .ofNat left, .negSucc right => .negSucc (without right left)
  | .negSucc left, .ofNat right => .negSucc (without left right)
  | .negSucc left, .negSucc right => .negSucc (left &&& right)

def exactlyOne : Int → Int → Int
  | .ofNat left, .ofNat right => .ofNat (left ^^^ right)
  | .ofNat left, .negSucc right => .negSucc (left ^^^ right)
  | .negSucc left, .ofNat right => .negSucc (left ^^^ right)
  | .negSucc left, .negSucc right => .ofNat (left ^^^ right)

end IntegerBits

/-- Integers, texts and tuples do not grow beyond this many bits or items. -/
def greatestSize : Nat := Nat.pow 2 40

namespace Numeric

def toFloat : Numeric → Except Fault Float
  | integer number => (Value.integer number).toFloat
  | float number => .ok number

end Numeric

namespace BinaryOperator

def symbol : BinaryOperator → Text
  | add => "+".toList
  | subtract => "-".toList
  | multiply => "*".toList
  | divide => "/".toList
  | floorDivide => "//".toList
  | remainder => "%".toList
  | power => "** or pow()".toList
  | matrixMultiply => "@".toList
  | bitAnd => "&".toList
  | bitOr => "|".toList
  | bitXor => "^".toList
  | shiftLeft => "<<".toList
  | shiftRight => ">>".toList

/-! ## Numbers -/

def dividedBy (left right : Int) : Except Fault Float :=
  if right = 0 then .error .divisionByZero
  else
    match Number.nearest? ((left < 0) != (right < 0)) ⟨left.natAbs, right.natAbs⟩ with
    | some quotient => .ok quotient
    | none => .error .quotientTooLarge

private def floatPower (left right : Float) : Except Fault Float :=
  if left == 0 && right < 0 && right.isFinite then .error .negativePowerOfZero
  else
    let result := left.pow right
    if result.isInf && left.isFinite && right.isFinite then .error .powerOutOfRange
    else .ok result

def integerPower (left right : Int) : Except Fault Value :=
  if right < 0 then do
    return .float (← floatPower (← (Value.integer left).toFloat) (← (Value.integer right).toFloat))
  else if greatestSize < left.natAbs.log2 * right.toNat then .error .countTooLarge
  else .ok (.integer (Int.pow left right.toNat))

def shift (left right : Int) (toLeft : Bool) : Except Fault Value :=
  if right < 0 then .error .negativeShift
  else if toLeft then
    if left = 0 then .ok (.integer 0)
    else if greatestSize < right.toNat then .error .countTooLarge
    else .ok (.integer (left * Int.pow 2 right.toNat))
  else if left.natAbs.log2 < right.toNat then .ok (.integer (if left < 0 then -1 else 0))
  else .ok (.integer (left.fdiv (Int.pow 2 right.toNat)))

def integers (operator : BinaryOperator) (left right : Int) :
    Option (Except Fault Value) :=
  match operator with
  | add => some (.ok (.integer (left + right)))
  | subtract => some (.ok (.integer (left - right)))
  | multiply => some (.ok (.integer (left * right)))
  | divide => some ((dividedBy left right).map .float)
  | floorDivide =>
      some (if right = 0 then .error .floorDivisionByZero else .ok (.integer (left.fdiv right)))
  | remainder =>
      some (if right = 0 then .error .remainderByZero else .ok (.integer (left.fmod right)))
  | power => some (integerPower left right)
  | bitAnd => some (.ok (.integer (IntegerBits.both left right)))
  | bitOr => some (.ok (.integer (IntegerBits.either left right)))
  | bitXor => some (.ok (.integer (IntegerBits.exactlyOne left right)))
  | shiftLeft => some (shift left right true)
  | shiftRight => some (shift left right false)
  | matrixMultiply => none

def floats (operator : BinaryOperator) (left right : Numeric) :
    Option (Except Fault Value) :=
  let operation (result : Float → Float → Except Fault Float) : Except Fault Value := do
    let left ← left.toFloat
    let right ← right.toFloat
    return .float (← result left right)
  match operator with
  | add => some (operation fun left right => .ok (left + right))
  | subtract => some (operation fun left right => .ok (left - right))
  | multiply => some (operation fun left right => .ok (left * right))
  | divide => some (operation fun left right =>
      if right == 0 then .error .floatDivisionByZero else .ok (left / right))
  | floorDivide => some (operation fun left right =>
      if right == 0 then .error .floatFloorDivisionByZero
      else .ok (Number.floorQuotient left right))
  | remainder => some (operation fun left right =>
      if right == 0 then .error .floatRemainderByZero else .ok (Number.remainder left right))
  | power => some (operation floatPower)
  | _ => none

def numbers (operator : BinaryOperator) (left right : Numeric) :
    Option (Except Fault Value) :=
  match left, right with
  | .integer left, .integer right => integers operator left right
  | left, right => floats operator left right

def truthValues (operator : BinaryOperator) (left right : Bool) : Option Value :=
  match operator with
  | bitAnd => some (.boolean (left && right))
  | bitOr => some (.boolean (left || right))
  | bitXor => some (.boolean (left != right))
  | _ => none

/-! ## Sequences -/

def repeated (items : List α) (count : Int) : Except Fault (List α) :=
  if Int.pow 2 63 ≤ count || greatestSize < items.length * count.toNat then .error .countTooLarge
  else .ok (List.replicate count.toNat items).flatten

def copies (sequence count : Value) : Option (Except Fault Value) :=
  match sequence with
  | .text content => some (match count.index? with
      | some count => (repeated content count).map .text
      | none => .error (.notRepeatable count.kind))
  | .tuple items => some (match count.index? with
      | some count => (repeated items count).map .tuple
      | none => .error (.notRepeatable count.kind))
  | _ => none

def repetition (left right : Value) : Option (Except Fault Value) :=
  (copies left right).or (copies right left)

def concatenation (left right : Value) : Option (Except Fault Value) :=
  match left, right with
  | .text left, .text right => some (.ok (.text (left ++ right)))
  | .tuple left, .tuple right => some (.ok (.tuple (left ++ right)))
  | .text _, other => some (.error (.notConcatenable .text other.kind))
  | .tuple _, other => some (.error (.notConcatenable .tuple other.kind))
  | _, _ => none

/-- A text has no places to fill in, so that only nothing can be filled in. -/
def filledIn (left right : Value) : Option (Except Fault Value) :=
  match left, right with
  | .text content, .tuple [] => some (.ok (.text content))
  | .text content, .dictionary .. => some (.ok (.text content))
  | .text _, _ => some (.error .superfluousArguments)
  | _, _ => none

def sequences (operator : BinaryOperator) (left right : Value) :
    Option (Except Fault Value) :=
  match operator with
  | add => concatenation left right
  | multiply => repetition left right
  | remainder => filledIn left right
  | _ => none

/-! ## Any values -/

/-- `shown` is the operator as the message of a failure names it. -/
def applyAs (operator : BinaryOperator) (shown : Text) (left right : Value) :
    Except Fault Value :=
  let truths :=
    match left, right with
    | .boolean left, .boolean right => (truthValues operator left right).map Except.ok
    | _, _ => none
  let numeric :=
    match left.numeric?, right.numeric? with
    | some left, some right => numbers operator left right
    | _, _ => none
  ((truths.or numeric).or (sequences operator left right)).getD
    (.error (.unsupportedOperands shown left.kind right.kind))

def apply (operator : BinaryOperator) (left right : Value) : Except Fault Value :=
  operator.applyAs operator.symbol left right

theorem exists_float_of_floats {operator : BinaryOperator} {left right : Numeric}
    {value : Value} (applied : floats operator left right = some (.ok value)) :
    ∃ number, value = .float number := by
  have operated : ∀ result : Float → Float → Except Fault Float,
      (do
        let left ← left.toFloat
        let right ← right.toFloat
        return .float (← result left right) : Except Fault Value) = .ok value →
      ∃ number, value = .float number := by
    intro result operated
    obtain ⟨left, _, operated⟩ := bind_eq_ok.mp operated
    obtain ⟨right, _, operated⟩ := bind_eq_ok.mp operated
    obtain ⟨number, _, operated⟩ := bind_eq_ok.mp operated
    exact ⟨number, (pure_eq_ok.mp operated).symm⟩
  cases operator with
  | add | subtract | multiply | divide | floorDivide | remainder | power =>
      exact operated _ (Option.some.inj applied)
  | matrixMultiply | bitAnd | bitOr | bitXor | shiftLeft | shiftRight => cases applied

def staysInteger : BinaryOperator → Bool
  | add | subtract | multiply => true
  | _ => false

private theorem numbers_of_applyAs {operator : BinaryOperator}
    (stays : operator.staysInteger = true) {shown : Text} {left right value : Value}
    {first second : Numeric} (isFirst : left.numeric? = some first)
    (isSecond : right.numeric? = some second)
    (applied : operator.applyAs shown left right = .ok value) :
    numbers operator first second = some (.ok value) := by
  have untrue : ∀ left right, truthValues operator left right = none := by
    cases operator <;> cases stays <;> exact fun _ _ => rfl
  have defined : ∃ result, numbers operator first second = some result := by
    cases operator <;> cases stays <;> cases first <;> cases second <;> exact ⟨_, rfl⟩
  obtain ⟨result, defined⟩ := defined
  rw [defined]
  unfold applyAs at applied
  simp only [isFirst, isSecond, defined, untrue] at applied
  split at applied <;> exact congrArg some applied

theorem exists_integer_of_applyAs {operator : BinaryOperator}
    (stays : operator.staysInteger = true) {shown : Text} {left right : Int} {value : Value}
    (applied : operator.applyAs shown (.integer left) (.integer right) = .ok value) :
    ∃ number, value = .integer number := by
  have integer := numbers_of_applyAs stays rfl rfl applied
  cases operator <;> cases stays <;> cases integer <;> exact ⟨_, rfl⟩

theorem exists_float_of_applyAs {operator : BinaryOperator}
    (stays : operator.staysInteger = true) {shown : Text} {whole : Int} {number : Float}
    {left right value : Value}
    (mixed : left = .float number ∧ right = .integer whole ∨
      left = .integer whole ∧ right = .float number)
    (applied : operator.applyAs shown left right = .ok value) :
    ∃ result, value = .float result := by
  rcases mixed with ⟨rfl, rfl⟩ | ⟨rfl, rfl⟩
  · have mixed : numbers operator (.float number) (.integer whole) = some (.ok value) :=
      numbers_of_applyAs stays rfl rfl applied
    exact exists_float_of_floats mixed
  · have mixed : numbers operator (.integer whole) (.float number) = some (.ok value) :=
      numbers_of_applyAs stays rfl rfl applied
    exact exists_float_of_floats mixed

end BinaryOperator

namespace UnaryOperator

def symbol : UnaryOperator → Text
  | minus => "-".toList
  | plus => "+".toList
  | complement => "~".toList

def apply (operator : UnaryOperator) (operand : Value) : Except Fault Value :=
  match operator, operand.numeric? with
  | minus, some (.integer number) => .ok (.integer (-number))
  | minus, some (.float number) => .ok (.float (-number))
  | plus, some (.integer number) => .ok (.integer number)
  | plus, some (.float number) => .ok (.float number)
  | complement, some (.integer number) => .ok (.integer (-number - 1))
  | _, _ => .error (.unsupportedOperand operator.symbol operand.kind)

end UnaryOperator

namespace Comparison

def symbol : Comparison → Text
  | less => "<".toList
  | greater => ">".toList
  | lessOrEqual => "<=".toList
  | greaterOrEqual => ">=".toList
  | equal => "==".toList
  | notEqual => "!=".toList
  | within => "in".toList
  | notWithin => "not in".toList
  | identical => "is".toList
  | notIdentical => "is not".toList

private def accepts : Comparison → Ordering → Bool
  | less, order => order = .lt
  | greater, order => order = .gt
  | lessOrEqual, order => order != .gt
  | greaterOrEqual, order => order != .lt
  | _, _ => false

private def compareTexts (left right : Text) : Ordering :=
  if left = right then .eq else if Text.precedes left right then .lt else .gt

private def compareSets (comparison : Comparison) (left right : List Value) : Bool :=
  let inRight := left.all (·.isAmong right)
  let inLeft := right.all (·.isAmong left)
  match comparison with
  | less => inRight && !inLeft
  | greater => inLeft && !inRight
  | lessOrEqual => inRight
  | greaterOrEqual => inLeft
  | _ => false

mutual

private def ordered (comparison : Comparison) : Value → Value → Except Fault Bool
  | .text left, .text right => .ok (comparison.accepts (compareTexts left right))
  | .tuple left, .tuple right => orderedItems comparison left right
  | .set _ left, .set _ right => .ok (comparison.compareSets left right)
  | left, right =>
      match left.numeric?, right.numeric? with
      | some left, some right =>
          .ok (match left.compare? right with
            | some order => comparison.accepts order
            | none => false)
      | _, _ => .error (.notOrdered comparison.symbol left.kind right.kind)

private def orderedItems (comparison : Comparison) :
    List Value → List Value → Except Fault Bool
  | [], [] => .ok (comparison.accepts .eq)
  | [], _ :: _ => .ok (comparison.accepts .lt)
  | _ :: _, [] => .ok (comparison.accepts .gt)
  | left :: lefts, right :: rights =>
      if left.isAmong [right] then orderedItems comparison lefts rights
      else ordered comparison left right

end

private def contains (item container : Value) : Except Fault Bool :=
  match container with
  | .text content =>
      match item with
      | .text part => .ok (Text.hasPart part content)
      | _ => .error (.notContained item.kind)
  | .tuple items => .ok (item.isAmong items)
  | .set _ items => .ok (item.isAmong items)
  | .dictionary _ entries => .ok (item.isAmong (entries.map Prod.fst))
  | _ => .error (.notIterable container.kind)

def holds (comparison : Comparison) (left right : Value) : Except Fault Bool :=
  match comparison with
  | equal => .ok (left.equals right)
  | notEqual => .ok (!left.equals right)
  | identical => .ok (left.isIdentical right)
  | notIdentical => .ok (!left.isIdentical right)
  | within => contains left right
  | notWithin => (contains left right).map (!·)
  | _ => ordered comparison left right

end Comparison

end Linewise
