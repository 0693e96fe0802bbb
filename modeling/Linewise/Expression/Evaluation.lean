import Linewise.Evaluator
import Linewise.Expression.Arithmetic
import Linewise.Expression.Reader

/-!
The value of an expression, given the values of names. Operands are evaluated from the left, and
those that cannot matter are not evaluated. The methods of sets change them in place.
-/

namespace Linewise

/-! ## Parts of sequences -/

namespace Slice

private def position (length bound least greatest : Int) : Int :=
  let fromStart := if bound < 0 then bound + length else bound
  max least (min greatest fromStart)

def positions (length : Nat) (lower upper step : Option Int) : List Nat :=
  let step := step.getD 1
  let length : Int := length
  if 0 < step then
    let first := (lower.map (position length · 0 length)).getD 0
    let last := (upper.map (position length · 0 length)).getD length
    let count := if first < last then ((last - first - 1) / step + 1).toNat else 0
    (List.range count).map fun (turn : Nat) => (first + (turn : Int) * step).toNat
  else
    let first := (lower.map (position length · (-1) (length - 1))).getD (length - 1)
    let last := (upper.map (position length · (-1) (length - 1))).getD (-1)
    let count := if last < first then ((first - last - 1) / (-step) + 1).toNat else 0
    (List.range count).map fun (turn : Nat) => (first + (turn : Int) * step).toNat

def select (items : List α) (lower upper step : Option Int) : List α :=
  let array := items.toArray
  (positions items.length lower upper step).filterMap (array[·]?)

end Slice

namespace Value

def itemAt? (items : List α) (position : Int) : Option α :=
  let fromStart := if position < 0 then position + items.length else position
  if fromStart < 0 then none else items[fromStart.toNat]?

def item (sequence index : Value) : Except Fault Value :=
  match sequence with
  | text content =>
      match index.index? with
      | none => .error (.textIndexKind index.kind)
      | some position =>
          match itemAt? content position with
          | some char => .ok (text [char])
          | none => .error .textIndexOutOfRange
  | tuple items =>
      match index.index? with
      | none => .error (.tupleIndexKind index.kind)
      | some position =>
          match itemAt? items position with
          | some item => .ok item
          | none => .error .tupleIndexOutOfRange
  | dictionary _ entries =>
      match entries.find? fun entry => index.isAmong [entry.1] with
      | some entry => .ok entry.2
      | none => do .error (.missingKey (← index.shown))
  | sequence => .error (.notSubscriptable sequence.kind)

def bound (value : Value) : Except Fault (Option Int) :=
  match value with
  | null => .ok none
  | value =>
      match value.index? with
      | some number => .ok (some number)
      | none => .error .sliceIndexKind

def selected (lower upper step : Value) (items : List α) : Except Fault (List α) := do
  let step ← step.bound
  if step = some 0 then throw .sliceStepZero
  return Slice.select items (← lower.bound) (← upper.bound) step

def part (sequence lower upper step : Value) : Except Fault Value :=
  match sequence with
  | text content => (selected lower upper step content).map text
  | tuple items => (selected lower upper step items).map tuple
  | sequence => .error (.notSubscriptable sequence.kind)

/-! ## Sets and dictionaries -/

mutual

/-- The part of a value because of which it cannot stand in a set. -/
private def unhashable? : Value → Option Kind
  | set .. => some .set
  | dictionary .. => some .dictionary
  | tuple items => firstUnhashable? items
  | _ => none

private def firstUnhashable? : List Value → Option Kind
  | [] => none
  | item :: items => (unhashable? item).or (firstUnhashable? items)

end

def distinctItems (items : List Value) : Except Fault (List Value) :=
  match items.findSome? unhashable? with
  | some kind => .error (.notHashable kind)
  | none => .ok (items.foldl (fun found item =>
      if item.isAmong found then found else found ++ [item]) [])

def distinctEntries (entries : List (Value × Value)) : Except Fault (List (Value × Value)) :=
  match entries.findSome? fun entry => unhashable? entry.1 with
  | some kind => .error (.notHashable kind)
  | none => .ok (entries.foldl (fun found entry =>
      if entry.1.isAmong (found.map Prod.fst) then
        found.map fun other => if entry.1.isAmong [other.1] then (other.1, entry.2) else other
      else found ++ [entry]) [])

end Value

inductive SetMethod
  | add
  | discard
  | remove
  | pop
  | clear
deriving DecidableEq, Repr

namespace SetMethod

def name : SetMethod → Text
  | add => "add".toList
  | discard => "discard".toList
  | remove => "remove".toList
  | pop => "pop".toList
  | clear => "clear".toList

def ofName? (name : Text) : Option SetMethod :=
  [add, discard, remove, pop, clear].find? fun method => method.name = name

/-- The item as one to look for. A set is none, but may be looked for. -/
private def sought (item : Value) : Except Fault Value :=
  match item with
  | .set .. => .ok item
  | item =>
      match Value.unhashable? item with
      | some kind => .error (.notHashable kind)
      | none => .ok item

private def without (item : Value) (items : List Value) : List Value :=
  items.filter fun other => !item.isAmong [other]

def apply (method : SetMethod) (items arguments : List Value) : Except Fault (Value × List Value) :=
  match method, arguments with
  | add, [item] => do
      let _ ← Value.distinctItems [item]
      return (.null, if item.isAmong items then items else items ++ [item])
  | discard, [item] => do return (.null, without (← sought item) items)
  | remove, [item] => do
      let item ← sought item
      if item.isAmong items then return (.null, without item items)
      else throw (.missingKey (← item.shown))
  | pop, [] =>
      match items with
      | [] => .error .emptySet
      | first :: rest => .ok (first, rest)
  | clear, [] => .ok (.null, [])
  | method, arguments =>
      .error (.argumentCount method.name (method = pop || method = clear) arguments.length)

end SetMethod

/-! ## Evaluation -/

/-- The containers that an expression has changed and made so far. -/
structure Memory where
  revision : Revision
  made : Nat

abbrev Evaluating := ExceptT Fault (StateM Memory)

namespace Evaluating

/-- A value that was found earlier, as it is now. -/
def current (value : Value) : Evaluating Value := do return value.revised (← get).revision

def newIdentity : Evaluating Identity := do
  let memory ← get
  set { memory with made := memory.made + 1 }
  return .fresh memory.made

def note (change : Change) : Evaluating Unit :=
  modify fun memory => { memory with revision := memory.revision ++ [change] }

end Evaluating

namespace Expr

open Evaluating

def method? (owner : Value) (word : Text) : Except Fault SetMethod :=
  match owner, SetMethod.ofName? word with
  | .set .., some method => .ok method
  | _, _ => .error (.noAttribute owner.kind word)

def callMethod (method : SetMethod) (owner : Value) (arguments : List Value) : Evaluating Value :=
  match owner with
  | .set identity items => do
      let (result, items) ← method.apply items arguments
      note (.set identity items)
      return result
  | owner => throw (.noAttribute owner.kind method.name)

mutual

@[simp] def evaluate (meaning : Meaning) : Expr → Evaluating Value
  | literal value => return value
  | name word =>
      match meaning word with
      | some value => current value
      | none => throw (.undefinedName word)
  | tuple items => do return .tuple (← evaluateAll meaning items)
  | set items => do
      let items ← Value.distinctItems (← evaluateAll meaning items)
      return .set (← newIdentity) items
  | dictionary entries => do
      let entries ← Value.distinctEntries (← evaluateEntries meaning entries)
      return .dictionary (← newIdentity) entries
  | negation operand => do return .boolean (!(← evaluate meaning operand).isTrue)
  | both left right => do
      let value ← evaluate meaning left
      if value.isTrue then evaluate meaning right else return value
  | either left right => do
      let value ← evaluate meaning left
      if value.isTrue then return value else evaluate meaning right
  | unary operator operand => do operator.apply (← evaluate meaning operand)
  | binary operator left right => do
      let left ← evaluate meaning left
      let right ← evaluate meaning right
      operator.apply (← current left) right
  | comparison first rest => do
      return .boolean (← allHold meaning (← evaluate meaning first) rest)
  | choice condition consequence alternative => do
      if (← evaluate meaning condition).isTrue then evaluate meaning consequence
      else evaluate meaning alternative
  | subscript sequence index => do
      let sequence ← evaluate meaning sequence
      selectIndex meaning sequence index
  | multipleSubscript sequence indices => do
      let sequence ← evaluate meaning sequence
      evaluateIndices meaning indices
      sequence.item (.tuple [])
  | call (.member owner word) arguments => do
      let owner ← evaluate meaning owner
      let method ← method? owner word
      let arguments ← evaluateAll meaning arguments
      callMethod method (← current owner) arguments
  | call callee arguments => do
      let callee ← evaluate meaning callee
      let _ ← evaluateAll meaning arguments
      throw (.notCallable callee.kind)
  | member owner word => do
      let owner ← evaluate meaning owner
      throw (.noAttribute owner.kind word)

def evaluateAll (meaning : Meaning) : List Expr → Evaluating (List Value)
  | [] => return []
  | item :: items => do
      let value ← evaluate meaning item
      let values ← evaluateAll meaning items
      return (← current value) :: values

def evaluateEntries (meaning : Meaning) : List (Expr × Expr) → Evaluating (List (Value × Value))
  | [] => return []
  | (key, item) :: entries => do
      let key ← evaluate meaning key
      let item ← evaluate meaning item
      let entries ← evaluateEntries meaning entries
      return (key, ← current item) :: entries

/-- A chain of comparisons ends at the first that does not hold. -/
def allHold (meaning : Meaning) (left : Value) : List (Comparison × Expr) → Evaluating Bool
  | [] => return true
  | (relation, operand) :: rest => do
      let right ← evaluate meaning operand
      if ← relation.holds (← current left) right then allHold meaning right rest else return false

def evaluateBound (meaning : Meaning) : Option Expr → Evaluating Value
  | none => return .null
  | some bound => evaluate meaning bound

def selectIndex (meaning : Meaning) (sequence : Value) : Index → Evaluating Value
  | .position position => do
      let position ← evaluate meaning position
      (← current sequence).item position
  | .slice lower upper step => do
      let lower ← evaluateBound meaning lower
      let upper ← evaluateBound meaning upper
      let step ← evaluateBound meaning step
      (← current sequence).part lower upper step

/-- Subscripts with a comma are evaluated, but select nothing. -/
def evaluateIndices (meaning : Meaning) : List Index → Evaluating Unit
  | [] => return
  | .position position :: indices => do
      let _ ← evaluate meaning position
      evaluateIndices meaning indices
  | .slice lower upper step :: indices => do
      let _ ← evaluateBound meaning lower
      let _ ← evaluateBound meaning upper
      let _ ← evaluateBound meaning step
      evaluateIndices meaning indices

end

end Expr

def Expr.evaluation (meaning : Meaning) (expression : Expr) : Evaluation :=
  let (result, memory) := (expression.evaluate meaning).run.run ⟨[], 0⟩
  ⟨some result, ⟨memory.revision, []⟩⟩

def Expression.evaluatePlain (source : Text) (meaning : Meaning) : Evaluation :=
  match read? source with
  | some expression => expression.evaluation meaning
  | none => ⟨some (.error .invalidSyntax), .none⟩

instance Evaluator.standard : Evaluator where
  evaluate := Expression.evaluatePlain
  patience := 100000

theorem Evaluator.isTotal_standard : Evaluator.IsTotal := by
  intro source meaning
  change (Expression.evaluatePlain source meaning).result ≠ none
  unfold Expression.evaluatePlain
  split <;> nofun

end Linewise
