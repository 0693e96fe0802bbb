import Linewise.Expression.Arithmetic
import Linewise.Variable.Basic

/-!
Conversion of a value from one type to another. The value need not fit its old type; the
conversion then fails, or goes as far as the value allows.
-/

namespace Linewise

namespace Conversion

private def characterFor (value : Value) : Except Fault Value := do
  let least ← Comparison.lessOrEqual.holds (.integer 0) value
  let fits ← if least then Comparison.lessOrEqual.holds value (.integer 127) else pure false
  if fits then
    match value.index? with
    | some code => return .text [Char.ofNat code.toNat]
    | none => throw (.notInterpretableAsInteger value.kind)
  else return .null

private def isBlankCode (code : Nat) : Bool := code = 0 || code = 32 || code = 9 || code = 48

private def textTruth (value : Value) : Except Fault Value :=
  match value with
  | .text content => .ok (.boolean !(Text.strip content).isEmpty)
  | value => .error (.noAttribute value.kind "strip".toList)

private def onlyCharacter (value : Value) : Except Fault Value := do
  if (← value.length) = 1 then
    match value with
    | .text content => return .text content
    | .tuple [item] => return item
    | value => throw (.notSubscriptable value.kind)
  else return .null

/-- The converted value, null if the value has no counterpart, or `none` if there is no conversion
between the types. -/
def between (old new : DataType) (value : Value) : Option (Except Fault Value) :=
  match old, new with
  | .integer, .float => some (do return .float (← value.toFloat))
  | .integer, .character => some (characterFor value)
  | .integer, .text => some (do return .text (← value.written))
  | .integer, .truth => some (.ok (.boolean !(value.equals (.integer 0))))
  | .float, .integer => some (do return .integer (← value.toInteger))
  | .float, .character => some (do characterFor (.integer (← value.toInteger)))
  | .float, .text => some (do return .text (← value.written))
  | .float, .truth => some (do return .boolean ((← value.toInteger) != 0))
  | .character, .integer => some (do return .integer (← value.characterCode))
  | .character, .float => some (do (Value.integer (← value.characterCode)).toFloat.map .float)
  | .character, .text => some (.ok value)
  | .character, .truth => some (do return .boolean !(isBlankCode (← value.characterCode)))
  | .truth, .integer => some (.ok (.integer (Value.ofTruth value.isTrue)))
  | .truth, .float => some (.ok (.float (if value.isTrue then 1 else 0)))
  | .truth, .text => some (.ok (.text (if value.isTrue then "true".toList else "false".toList)))
  | .truth, .character => some (.ok (.text [if value.isTrue then '1' else '0']))
  | .text, .integer => some (do return .integer (← value.length))
  | .text, .float => some (do (Value.integer (← value.length)).toFloat.map .float)
  | .text, .truth => some (textTruth value)
  | .text, .character => some (onlyCharacter value)
  | _, _ => none

private theorem admits_of_bind {type : DataType} {first : Except Fault α} {make : α → Value}
    {result : Value} (made : ∀ value, type.admits (make value) = true)
    (computed : (first >>= fun value => pure (make value)) = .ok result) :
    type.admits result = true := by
  obtain ⟨value, _, rest⟩ := bind_eq_ok.mp computed
  cases rest
  exact made value

private theorem admits_of_toFloat {first : Except Fault Nat} {result : Value}
    (computed : (first >>= fun count => (Value.integer count).toFloat.map .float) = .ok result) :
    DataType.float.admits result = true := by
  obtain ⟨count, _, rest⟩ := bind_eq_ok.mp computed
  cases number : (Value.integer count).toFloat with
  | error cause =>
      rw [number] at rest
      cases rest
  | ok read =>
      rw [number] at rest
      cases rest
      rfl

private theorem admits_characterFor {value result : Value}
    (converted : characterFor value = .ok result) :
    result = .null ∨ DataType.character.admits result = true := by
  obtain ⟨least, _, converted⟩ := bind_eq_ok.mp converted
  cases least with
  | false =>
      cases converted
      exact .inl rfl
  | true =>
      obtain ⟨fits, _, converted⟩ := bind_eq_ok.mp converted
      cases fits with
      | false =>
          cases converted
          exact .inl rfl
      | true =>
          cases code : value.index? with
          | none => simp [code, throw, throwThe, MonadExceptOf.throw] at converted
          | some code =>
              simp only [code, if_true] at converted
              cases converted
              exact .inr rfl

private theorem admits_textTruth {value result : Value} (converted : textTruth value = .ok result) :
    DataType.truth.admits result = true := by
  unfold textTruth at converted
  split at converted
  · cases converted
    rfl
  · cases converted

private theorem admits_onlyCharacter {content : Text} {result : Value}
    (converted : onlyCharacter (.text content) = .ok result) :
    result = .null ∨ DataType.character.admits result = true := by
  obtain ⟨length, counted, converted⟩ := bind_eq_ok.mp converted
  cases counted
  split at converted
  · next single =>
      cases converted
      obtain ⟨char, rfl⟩ := List.length_eq_one_iff.mp single
      exact .inr rfl
  · cases converted
    exact .inl rfl

theorem admits_between {old new : DataType} {value result : Value}
    (admitted : old.admits value = true) (converted : between old new value = some (.ok result)) :
    result = .null ∨ new.admits result = true := by
  cases old with
  | integer =>
      cases new with
      | integer => cases converted
      | float => exact .inr (admits_of_bind (fun _ => rfl) (Option.some.inj converted))
      | character => exact admits_characterFor (Option.some.inj converted)
      | text => exact .inr (admits_of_bind (fun _ => rfl) (Option.some.inj converted))
      | truth =>
          cases converted
          exact .inr rfl
  | float =>
      cases new with
      | integer => exact .inr (admits_of_bind (fun _ => rfl) (Option.some.inj converted))
      | float => cases converted
      | character =>
          obtain ⟨code, _, rest⟩ := bind_eq_ok.mp (Option.some.inj converted)
          exact admits_characterFor rest
      | text => exact .inr (admits_of_bind (fun _ => rfl) (Option.some.inj converted))
      | truth => exact .inr (admits_of_bind (fun _ => rfl) (Option.some.inj converted))
  | character =>
      cases new with
      | integer => exact .inr (admits_of_bind (fun _ => rfl) (Option.some.inj converted))
      | float => exact .inr (admits_of_toFloat (Option.some.inj converted))
      | character => cases converted
      | text =>
          cases converted
          cases value <;> first | exact .inr rfl | cases admitted
      | truth => exact .inr (admits_of_bind (fun _ => rfl) (Option.some.inj converted))
  | truth =>
      cases new <;> cases converted <;> exact .inr rfl
  | text =>
      cases value with
      | text content =>
          cases new with
          | integer => exact .inr (admits_of_bind (fun _ => rfl) (Option.some.inj converted))
          | float => exact .inr (admits_of_toFloat (Option.some.inj converted))
          | character => exact admits_onlyCharacter (Option.some.inj converted)
          | text => cases converted
          | truth => exact .inr (admits_textTruth (Option.some.inj converted))
      | _ => cases admitted

end Conversion

def convert (value : Value) (old new : Text) : Except Error Value := do
  let target ← DataType.supported new
  let oldName := Text.upper old
  let converted :=
    match DataType.ofName? oldName with
    | some source => Conversion.between source target value
    | none => none
  match converted with
  | none => throw (.conversion (.unsupportedConversion oldName target.name))
  | some (.error cause) => throw (.conversion (.fault cause))
  | some (.ok .null) => throw (.conversion (.invalidConversion oldName target.name))
  | some (.ok result) => return result

end Linewise
