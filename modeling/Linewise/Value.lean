import Linewise.Number.Reading
import Linewise.Number.Rounding
import Linewise.Number.Shortest

/-!
Values of expressions and variables: what they are, when they are equal, how they are written and
how they turn into one another.
-/

namespace Linewise

/-- What tells one set or dictionary from another that holds the same. One that variables hold keeps
its number; the others are numbered within the expression that makes them. -/
inductive Identity
  | stored (number : Nat)
  | fresh (number : Nat)
deriving DecidableEq, Repr

inductive Value
  | null
  | boolean (truth : Bool)
  | integer (number : Int)
  | float (number : Float)
  | text (content : Text)
  | tuple (items : List Value)
  | set (identity : Identity) (items : List Value)
  | dictionary (identity : Identity) (entries : List (Value × Value))
deriving Repr, Inhabited

/-- Integers and floating-point numbers are compared and combined with one another. -/
inductive Numeric
  | integer (number : Int)
  | float (number : Float)

namespace Value

def kind : Value → Kind
  | null => .null
  | boolean _ => .boolean
  | integer _ => .integer
  | float _ => .float
  | text _ => .text
  | tuple _ => .tuple
  | set .. => .set
  | dictionary .. => .dictionary

def isTrue : Value → Bool
  | null => false
  | boolean truth => truth
  | integer number => number != 0
  | float number => number != 0
  | text content => !content.isEmpty
  | tuple items => !items.isEmpty
  | set _ items => !items.isEmpty
  | dictionary _ entries => !entries.isEmpty

/-- A truth value counts as one or zero. -/
def ofTruth (truth : Bool) : Int := if truth then 1 else 0

def numeric? : Value → Option Numeric
  | boolean truth => some (.integer (ofTruth truth))
  | integer number => some (.integer number)
  | float number => some (.float number)
  | _ => none

def index? : Value → Option Int
  | boolean truth => some (ofTruth truth)
  | integer number => some number
  | _ => none

end Value

namespace Numeric

private def compareWithFloat (left : Int) (right : Float) : Option Ordering :=
  match Number.magnitude right with
  | .notANumber => none
  | .infinite => some (if Number.isNegative right then .gt else .lt)
  | .finite .. => Number.compareInt? left right

def compare? : Numeric → Numeric → Option Ordering
  | integer left, integer right => some (compare left right)
  | integer left, float right => compareWithFloat left right
  | float left, integer right => (compareWithFloat right left).map Ordering.swap
  | float left, float right =>
      if left < right then some .lt
      else if left == right then some .eq
      else if right < left then some .gt
      else none

end Numeric

namespace Value

/-! ## Equality -/

mutual

/-- Numbers are equal by value, whatever their kind; other kinds only among themselves. -/
def equals : Value → Value → Bool
  | null, null => true
  | text left, text right => left = right
  | tuple left, tuple right => itemsEqual left right
  | set _ left, set _ right => left.length = right.length && allIn left right
  | dictionary _ left, dictionary _ right => left.length = right.length && entriesIn left right
  | left, right =>
      match left.numeric?, right.numeric? with
      | some left, some right => left.compare? right = some .eq
      | _, _ => false

private def itemsEqual : List Value → List Value → Bool
  | [], [] => true
  | left :: lefts, right :: rights => same left right && itemsEqual lefts rights
  | _, _ => false

private def allIn : List Value → List Value → Bool
  | [], _ => true
  | left :: lefts, rights => rights.any (fun right => same left right) && allIn lefts rights

private def entriesIn : List (Value × Value) → List (Value × Value) → Bool
  | [], _ => true
  | (key, item) :: lefts, rights =>
      rights.any (fun right => same key right.1 && same item right.2) && entriesIn lefts rights

/-- Equality of two items of containers, where an undefined number equals itself. -/
private def same : Value → Value → Bool
  | float left, float right => left == right || (left.isNaN && right.isNaN)
  | left, right => equals left right

end

def isAmong (item : Value) (items : List Value) : Bool := items.any (same item)

/-- Two mentions of one and the same value: equal, and of one kind. -/
def isIdentical : Value → Value → Bool
  | set left _, set right _ => left = right
  | dictionary left _, dictionary right _ => left = right
  | left, right => left.kind = right.kind && same left right

/-! ## Writing -/

def writeInteger (number : Int) : Except Fault Text :=
  let digits := Text.ofNat number.natAbs
  if Fault.mostDigits < digits.length then .error .tooLongToWrite
  else .ok (if number < 0 then '-' :: digits else digits)

private def comma : Text := ", ".toList

mutual

/-- The form of a value inside a container, where a text is quoted. -/
def shown : Value → Except Fault Text
  | null => .ok "None".toList
  | boolean true => .ok "True".toList
  | boolean false => .ok "False".toList
  | integer number => writeInteger number
  | float number => .ok (Number.text number)
  | text content => .ok (Text.quoted content)
  | tuple [item] => do return '(' :: (← shown item) ++ ",)".toList
  | tuple items => do return '(' :: Text.join comma (← shownItems items) ++ [')']
  | set _ items => do return '\x7b' :: Text.join comma (← shownItems items) ++ ['\x7d']
  | dictionary _ entries => do
      return '\x7b' :: Text.join comma (← shownEntries entries) ++ ['\x7d']

private def shownItems : List Value → Except Fault (List Text)
  | [] => .ok []
  | item :: items => do return (← shown item) :: (← shownItems items)

private def shownEntries : List (Value × Value) → Except Fault (List Text)
  | [] => .ok []
  | (key, item) :: entries => do
      let first := (← shown key) ++ ": ".toList ++ (← shown item)
      return first :: (← shownEntries entries)

end

/-- The form of a value by itself: a text stands for itself. -/
def written : Value → Except Fault Text
  | text content => .ok content
  | value => value.shown

private theorem writeInteger_error {number : Int} {fault : Fault}
    (failed : writeInteger number = .error fault) : fault = .tooLongToWrite := by
  unfold writeInteger at failed
  simp only at failed
  split at failed <;> cases failed
  rfl

mutual

/-- A value that cannot be written is an integer that is too long, or holds one. -/
theorem shown_error : ∀ (value : Value) {fault : Fault}, shown value = .error fault →
    fault = .tooLongToWrite
  | null, _, failed | boolean true, _, failed | boolean false, _, failed | float _, _, failed
  | text _, _, failed => by cases failed
  | integer number, _, failed => writeInteger_error failed
  | tuple [], _, failed => by
      rw [shown] at failed
      · cases failed
      · nofun
  | tuple [item], _, failed => by
      rw [shown] at failed
      rcases bind_eq_error.mp failed with failed | ⟨_, -, failed⟩
      · exact shown_error item failed
      · cases failed
  | tuple (first :: second :: others), _, failed => by
      rw [shown] at failed
      · rcases bind_eq_error.mp failed with failed | ⟨_, -, failed⟩
        · exact shownItems_error (first :: second :: others) failed
        · cases failed
      · nofun
  | set _ items, _, failed => by
      rw [shown] at failed
      rcases bind_eq_error.mp failed with failed | ⟨_, -, failed⟩
      · exact shownItems_error items failed
      · cases failed
  | dictionary _ entries, _, failed => by
      rw [shown] at failed
      rcases bind_eq_error.mp failed with failed | ⟨_, -, failed⟩
      · exact shownEntries_error entries failed
      · cases failed

private theorem shownItems_error : ∀ (items : List Value) {fault : Fault},
    shownItems items = .error fault → fault = .tooLongToWrite
  | [], _, failed => by cases failed
  | item :: items, _, failed => by
      rw [shownItems] at failed
      rcases bind_eq_error.mp failed with failed | ⟨_, -, failed⟩
      · exact shown_error item failed
      · rcases bind_eq_error.mp failed with failed | ⟨_, -, failed⟩
        · exact shownItems_error items failed
        · cases failed

private theorem shownEntries_error : ∀ (entries : List (Value × Value)) {fault : Fault},
    shownEntries entries = .error fault → fault = .tooLongToWrite
  | [], _, failed => by cases failed
  | (key, item) :: entries, _, failed => by
      rw [shownEntries] at failed
      rcases bind_eq_error.mp failed with failed | ⟨_, -, failed⟩
      · exact shown_error key failed
      · rcases bind_eq_error.mp failed with failed | ⟨_, -, failed⟩
        · exact shown_error item failed
        · rcases bind_eq_error.mp failed with failed | ⟨_, -, failed⟩
          · exact shownEntries_error entries failed
          · cases failed

end

theorem written_error {value : Value} {fault : Fault} (failed : value.written = .error fault) :
    fault = .tooLongToWrite := by
  unfold written at failed
  split at failed
  · cases failed
  · exact shown_error value failed

/-! ## Turning into numbers -/

def toInteger : Value → Except Fault Int
  | boolean truth => .ok (ofTruth truth)
  | integer number => .ok number
  | float number =>
      match Number.truncate? number with
      | some whole => .ok whole
      | none => .error (if number.isNaN then .undefinedToInteger else .infiniteToInteger)
  | text content => Number.readInt content
  | value => .error (.notConvertibleToInteger value.kind)

private def integerToFloat (number : Int) : Except Fault Float :=
  match Number.ofInt? number with
  | some result => .ok result
  | none => .error .integerTooLarge

def toFloat : Value → Except Fault Float
  | boolean truth => integerToFloat (ofTruth truth)
  | integer number => integerToFloat number
  | float number => .ok number
  | text content => Number.readFloat content
  | value => .error (.notConvertibleToFloat value.kind)

/-- The number rounded to decimal places. Whole numbers of their own kind stay as they are for
places that are not negative, and are rounded to a power of ten for others. -/
def roundTo (value : Value) (places : Int) : Except Fault Value :=
  match value with
  | float number =>
      match Number.roundTo? number places with
      | some result => .ok (float result)
      | none => .error .roundingTooLarge
  | value =>
      match value.index? with
      | none => .error (.notRoundable value.kind)
      | some number =>
          if 0 ≤ places then .ok (integer number)
          else
            let unit := Nat.pow 10 (-places).toNat
            let rounded : Int := Number.roundedQuotient number.natAbs unit * unit
            .ok (integer (if number < 0 then -rounded else rounded))

/-- A number without superfluous decimals: whole numbers become integers, other numbers keep the
fewest decimal places that agree with `places` of them. -/
def simplified (value : Value) (places : Int) : Except Fault Value := do
  match value with
  | boolean truth => return integer (ofTruth truth)
  | integer number => return integer number
  | value =>
      let whole ← value.toInteger
      if value.equals (integer whole) then return integer whole
      else
        match value with
        | float number =>
            value.roundTo ((Number.sufficientPlaces? number places).getD places)
        | value => value.roundTo places

/-- Results and substituted numbers keep up to ten decimal places. -/
def resultPlaces : Int := 10

/-! ## Text operations -/

def length : Value → Except Fault Nat
  | text content => .ok content.length
  | tuple items => .ok items.length
  | set _ items => .ok items.length
  | dictionary _ entries => .ok entries.length
  | value => .error (.noLength value.kind)

def characterCode : Value → Except Fault Nat
  | text [char] => .ok char.toNat
  | text content => .error (.notOneCharacter content.length)
  | value => .error (.notACharacter value.kind)

end Value

end Linewise
