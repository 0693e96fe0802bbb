import Linewise.Proofs.Course

/-!
Types of variables. A declaration, a change, an input, a draw and a conversion all give a variable a
value of its type; what can break that is an expression in braces, which is taken as it is, and a
change of the letter case of a character, which may be several characters. Where a run has neither,
every variable has a value of its type at every moment, in all blocks.
-/

namespace Linewise

/-! ## Names of types -/

namespace DataType

theorem upper_of_supported {name : Text} {type : DataType} (known : supported name = .ok type) :
    Text.upper name = type.name := by
  unfold supported at known
  split at known
  · next found =>
      cases known
      exact eq_name_of_ofName? found
  · cases known

theorem supported_name (type : DataType) : supported type.name = .ok type := by
  cases type <;> decide

theorem upper_eq_name {name : Text} {type : DataType}
    (known : supported (Text.upper name) = .ok type) : Text.upper name = type.name := by
  have twice := upper_of_supported known
  have ascii : ∀ char ∈ type.name, char.toNat < 128 := by
    have all : type.name.all (fun char => char.toNat < 128) = true := by cases type <;> decide
    intro char member
    exact of_decide_eq_true (List.all_eq_true.mp all char member)
  rw [← twice]
  exact (Text.upper_upper (twice ▸ ascii)).symm

end DataType

/-! ## Values of types -/

def Value.Fits (value : Value) (name : Text) : Prop :=
  ∃ type, DataType.supported name = .ok type ∧ type.admits value = true

def Variable.WellTyped (stored : Variable) : Prop :=
  ∃ type : DataType, stored.type = type.name ∧ type.admits stored.value = true

theorem Variable.WellTyped.admits {stored : Variable} (typed : stored.WellTyped) {type : DataType}
    (has : stored.hasType type = true) : type.admits stored.value = true := by
  obtain ⟨other, named, admitted⟩ := typed
  have same : some other = some type := by
    rw [← DataType.ofName?_name other, ← DataType.ofName?_name type, ← named,
      of_decide_eq_true has]
  cases same
  exact admitted

/-- A value of a type has no containers, so that no expression changes it. -/
theorem Variable.WellTyped.revised {stored : Variable} (typed : stored.WellTyped)
    (revision : Revision) : stored.revised revision = stored := by
  obtain ⟨type, _, admitted⟩ := typed
  rw [Variable.revised,
    Value.revised_of_isImmutable revision (DataType.isImmutable_of_admits admitted)]

theorem Variable.WellTyped.keep {stored : Variable} (typed : stored.WellTyped)
    (machine : Machine) : machine.keep stored.value = stored.value := by
  obtain ⟨type, _, admitted⟩ := typed
  exact machine.keep_of_admits admitted

theorem Variable.WellTyped.kept {stored : Variable} (typed : stored.WellTyped)
    (machine : Machine) : machine.kept stored = stored := by
  rw [Machine.kept, typed.keep]

theorem Variable.wellTyped_of_hasType {stored : Variable} {type : DataType} {value : Value}
    (has : stored.hasType type = true) (admitted : type.admits value = true) :
    Variable.WellTyped { stored with value } :=
  ⟨type, of_decide_eq_true has, admitted⟩

def Bindings.WellTyped (bindings : Bindings) : Prop :=
  ∀ name stored, bindings name = some stored → stored.WellTyped

namespace Value.Fits

variable {value : Value} {name : Text}

theorem admits {type : DataType} (fits : value.Fits type.name) : type.admits value = true := by
  obtain ⟨other, known, admitted⟩ := fits
  rw [DataType.supported_name] at known
  cases known
  exact admitted

theorem wellTyped {constant : Bool} (fits : value.Fits (Text.upper name)) :
    Variable.WellTyped ⟨Text.upper name, value, constant⟩ := by
  obtain ⟨type, known, admitted⟩ := fits
  exact ⟨type, DataType.upper_eq_name known, admitted⟩

theorem initialValue [Evaluator] {literal : Option Text}
    (initial : initialValue name literal = .ok value) :
    value.Fits name := by
  obtain ⟨type, known, initial⟩ := bind_eq_ok.mp initial
  refine ⟨type, known, ?_⟩
  cases literal with
  | none =>
      cases initial
      cases type <;> rfl
  | some literal => exact Literal.admits_valueOf initial

end Value.Fits

theorem admits_checkedTruth {literal : Text} {value : Value}
    (checked : checkedTruth literal = .ok value) : DataType.truth.admits value = true := by
  simp only [checkedTruth] at checked
  split at checked
  · cases checked
    rfl
  · split at checked
    · cases checked
      rfl
    · cases checked

theorem Value.Fits.literalValue [Evaluator] {bindings : Bindings} {name literal : Text}
    {value : Value}
    (read : Plan.literalValue bindings name literal = .ok value) : value.Fits name := by
  obtain ⟨replaced, _, read⟩ := bind_eq_ok.mp read
  split at read
  · next same =>
      rw [same]
      exact ⟨.truth, DataType.supported_name .truth, admits_checkedTruth read⟩
  · exact .initialValue read

/-- What a value of one type is converted to is one of the other type. -/
theorem Value.Fits.convert {old : DataType} {name : Text} {value result : Value}
    (admitted : old.admits value = true) (converted : convert value old.name name = .ok result) :
    result.Fits name := by
  obtain ⟨target, known, converted⟩ := bind_eq_ok.mp converted
  refine ⟨target, known, ?_⟩
  have source : DataType.ofName? (Text.upper old.name) = some old := by cases old <;> decide
  simp only [source] at converted
  split at converted
  · cases converted
  · cases converted
  · cases converted
  · next present found =>
      cases converted
      rcases Conversion.admits_between admitted found with rfl | admitted
      · exact absurd rfl present
      · exact admitted

/-! ## Plans -/

/-- The command assigns the result of an expression in braces, or changes the letter case of a
character. -/
def Command.mistypes (bindings : Bindings) : Command → List Text → Bool
  | .create, arguments =>
      match Plan.constancy arguments with
      | .ok (_, _ :: _ :: first :: rest) => Literal.isBraced (Text.join [' '] (first :: rest))
      | _ => false
  | .change, _ :: first :: rest => Literal.isBraced (Text.join [' '] (first :: rest))
  | .uppercase, [name] | .lowercase, [name] =>
      (bindings (Text.lower name)).any (Variable.hasType · .character)
  | _, _ => false

def Action.WellTyped (bindings : Bindings) : Action → Prop
  | .declare _ stored => stored.WellTyped
  | .assign name value =>
      ∀ stored, bindings name = some stored → Variable.WellTyped { stored with value }
  | .exchange left right leftValue rightValue =>
      (∀ stored, bindings left = some stored →
        Variable.WellTyped { stored with value := rightValue }) ∧
      (∀ stored, bindings right = some stored →
        Variable.WellTyped { stored with value := leftValue })
  | .draw lottery type _ => type = lottery.type.name
  | .nothing | .write _ | .finish _ | .remove _ | .listen _ _ _ => True

namespace Plan

variable {bindings : Bindings}

theorem wellTyped_assign {name : Text} {stored : Variable} {value : Value}
    (bound : bindings name = some stored) (typed : Variable.WellTyped { stored with value }) :
    (Action.assign name value).WellTyped bindings := by
  intro other same
  obtain rfl : stored = other := Option.some.inj (bound.symm.trans same)
  exact typed

theorem braced?_eq_none {literal : Text} (plain : Literal.isBraced literal = false) :
    braced? literal = none := by
  rw [braced?, plain]
  rfl

theorem fits_declaredValue [Evaluator] {type : Text} {values : List Text} {value : Value}
    (plain : values ≠ [] → Literal.isBraced (Text.join [' '] values) = false)
    (initial : declaredValue bindings type values = .ok value) : value.Fits type := by
  unfold declaredValue at initial
  split at initial
  · exact .initialValue initial
  · next some =>
      have literal := braced?_eq_none (plain (by simpa using some))
      simp only [literal] at initial
      exact .literalValue initial

theorem wellTyped_converted {target name : Text} {old : Variable} {value : Value}
    (typed : bindings.WellTyped) (oldTyped : old.WellTyped)
    (known : targetType bindings target = .ok name)
    (converted : Linewise.convert old.value old.type name = .ok value) (constant : Bool) :
    Variable.WellTyped ⟨name, value, constant⟩ := by
  obtain ⟨source, sourceName, admitted⟩ := oldTyped
  rw [sourceName] at converted
  have fits := Value.Fits.convert admitted converted
  unfold targetType at known
  split at known
  · next other =>
      cases bound : declared bindings (Text.lower other) with
      | error error =>
          rw [bound] at known
          cases known
      | ok stored =>
          rw [bound] at known
          cases known
          obtain ⟨type, typeName, _⟩ := typed _ stored (declared_eq_ok.mp bound)
          rw [typeName] at fits ⊢
          exact ⟨type, rfl, fits.admits⟩
  · cases known
    exact fits.wellTyped

theorem wellTyped_step {operator : BinaryOperator} (stays : operator.staysInteger = true)
    {shown : Text} {stored : Variable} {value : Value} (typed : stored.WellTyped)
    (numeric : stored.isNumeric = true)
    (stepped : operator.applyAs shown stored.value (.integer 1) = .ok value) :
    Variable.WellTyped { stored with value } := by
  rcases Bool.or_eq_true _ _ ▸ numeric with integer | float
  · have admitted := typed.admits integer
    cases content : stored.value with
    | integer number =>
        rw [content] at stepped
        obtain ⟨result, rfl⟩ := BinaryOperator.exists_integer_of_applyAs stays stepped
        exact Variable.wellTyped_of_hasType integer rfl
    | _ =>
        rw [content] at admitted
        cases admitted
  · have admitted := typed.admits float
    cases content : stored.value with
    | float number =>
        rw [content] at stepped
        obtain ⟨result, rfl⟩ :=
          BinaryOperator.exists_float_of_applyAs stays (.inl ⟨rfl, rfl⟩) stepped
        exact Variable.wellTyped_of_hasType float rfl
    | _ =>
        rw [content] at admitted
        cases admitted

theorem wellTyped_round {stored : Variable} {places : Int} {value : Value}
    (typed : stored.WellTyped) (float : stored.hasType .float = true)
    (rounded : stored.value.roundTo places = .ok value) :
    Variable.WellTyped { stored with value } := by
  have admitted := typed.admits float
  cases content : stored.value with
  | float number =>
      rw [content] at rounded
      simp only [Value.roundTo] at rounded
      split at rounded
      · cases rounded
        exact Variable.wellTyped_of_hasType float rfl
      · cases rounded
  | _ =>
      rw [content] at admitted
      cases admitted

theorem wellTyped_of_fits {stored : Variable} {value : Value} (typed : stored.WellTyped)
    (fits : value.Fits stored.type) : Variable.WellTyped { stored with value } := by
  obtain ⟨type, named, _⟩ := typed
  rw [named] at fits
  exact ⟨type, named, fits.admits⟩

theorem wellTyped_changed [Evaluator] {stored : Variable} {literal : Text} {value : Value}
    (typed : stored.WellTyped) (plain : Literal.isBraced literal = false)
    (changed : changedValue bindings stored.type literal = .ok value) :
    Variable.WellTyped { stored with value } := by
  simp only [changedValue, braced?_eq_none plain] at changed
  exact wellTyped_of_fits typed (.literalValue changed)

theorem wellTyped_swapped {first second : Variable} (typed : second.WellTyped)
    (alike : first.type = second.type) :
    Variable.WellTyped { first with value := second.value } := by
  obtain ⟨type, named, admitted⟩ := typed
  exact ⟨type, alike.trans named, admitted⟩

/-- Of texts of which the letter case is changed, only the characters may be mistyped. -/
theorem wellTyped_recased {stored : Variable} {content : Text}
    (has : (stored.hasType .character || stored.hasType .text) = true)
    (noCharacter : stored.hasType .character = false) :
    Variable.WellTyped { stored with value := .text content } := by
  rw [noCharacter, Bool.false_or] at has
  exact Variable.wellTyped_of_hasType has rfl

end Plan

/-- What is planned is well typed. -/
theorem Planned.wellTyped [Evaluator] {bindings : Bindings} {command : Command}
    {arguments : List Text} {action : Action} (planned : Planned bindings command arguments action)
    (typed : bindings.WellTyped) (fine : command.mistypes bindings arguments = false) :
    action.WellTyped bindings := by
  cases planned with
  | say | exit | exitWith | listen | delete => trivial
  | create read free changeable initial =>
      refine Value.Fits.wellTyped (Plan.fits_declaredValue ?_ initial)
      intro some
      obtain ⟨first, rest, rfl⟩ := List.exists_cons_of_ne_nil some
      simpa only [Command.mistypes, read] using fine
  | change bound changeable changed =>
      exact Plan.wellTyped_assign bound (Plan.wellTyped_changed (typed _ _ bound) fine changed)
  | convert bound changeable known converted =>
      exact Plan.wellTyped_converted typed (typed _ _ bound) known converted _
  | random lowRead highRead drawn =>
      exact DataType.upper_eq_name (Lottery.supported_of_of drawn)
  | round bound changeable float read whole rounded =>
      exact Plan.wellTyped_assign bound (Plan.wellTyped_round (typed _ _ bound) float rounded)
  | reset bound initial =>
      exact Plan.wellTyped_assign bound
        (Plan.wellTyped_of_fits (typed _ _ bound) (.initialValue initial))
  | increment bound numeric stepped | decrement bound numeric stepped =>
      exact Plan.wellTyped_assign bound (Plan.wellTyped_step rfl (typed _ _ bound) numeric stepped)
  | swap leftBound rightBound alike =>
      exact ⟨Plan.wellTyped_assign leftBound (Plan.wellTyped_swapped (typed _ _ rightBound) alike),
        Plan.wellTyped_assign rightBound
          (Plan.wellTyped_swapped (typed _ _ leftBound) alike.symm)⟩
  | uppercase bound has written | lowercase bound has written =>
      simp only [Command.mistypes, bound, Option.any_some] at fine
      exact Plan.wellTyped_assign bound (Plan.wellTyped_recased has fine)
  | reverseText bound has written =>
      exact Plan.wellTyped_assign bound (Variable.wellTyped_of_hasType has rfl)
  | reverseTuple bound has listed =>
      have admitted := (typed _ _ bound).admits has
      rw [listed] at admitted
      cases admitted

/-! ## Machines -/

namespace Machine

/-- All variables are well typed, also those that no name refers to any more. -/
def AllWellTyped (machine : Machine) : Prop :=
  ∀ (name : Text) (number : Nat) (stored : Variable),
    (machine.history name)[number]? = some stored → stored.WellTyped

def WellTyped (machine : Machine) : Prop :=
  ∀ frame ∈ machine.current :: machine.enclosing,
    Bindings.WellTyped ({ machine with current := frame } : Machine).find?

namespace AllWellTyped

variable {machine : Machine} (typed : machine.AllWellTyped)

include typed

theorem bindings : machine.bindings.WellTyped := by
  intro name stored bound
  obtain ⟨number, _, present⟩ := Option.bind_eq_some_iff.mp bound
  exact typed name number stored present

theorem wellTyped : machine.WellTyped := by
  intro frame _
  have inFrame : AllWellTyped { machine with current := frame } := typed
  exact inFrame.bindings

theorem revised (revision : Revision) : (machine.revised revision).AllWellTyped := by
  intro name number found present
  rw [history_revised, Array.getElem?_map] at present
  obtain ⟨stored, old, rfl⟩ := Option.map_eq_some_iff.mp present
  have storedTyped := typed name number stored old
  rwa [storedTyped.revised]

theorem declare (name : Text) {stored : Variable} (storedTyped : stored.WellTyped) :
    (machine.declare name stored).AllWellTyped := by
  intro other number found present
  rw [history_declare] at present
  split at present
  · rw [Array.getElem?_push] at present
    split at present
    · cases present
      exact storedTyped
    · exact typed name number found present
  · exact typed other number found present

theorem assign {name : Text} {value : Value}
    (assigned : (Action.assign name value).WellTyped machine.bindings) :
    (machine.assign name value).AllWellTyped := by
  cases referred : machine.current.references.find? name with
  | none =>
      have unchanged : machine.assign name value = machine := by simp [Machine.assign, referred]
      rw [unchanged]
      exact typed
  | some position =>
      intro other number found present
      rw [history_assign machine name other value referred] at present
      split at present
      · rw [Array.getElem?_modify] at present
        split at present
        · next same =>
            obtain ⟨stored, old, rfl⟩ := Option.map_eq_some_iff.mp present
            refine assigned stored ?_
            rw [Machine.bindings, find?_eq, referred, Option.bind_some, same]
            exact old
        · exact typed name number found present
      · exact typed other number found present

theorem exchange {left right : Text} {leftValue rightValue : Value}
    (exchanged :
      (Action.exchange left right leftValue rightValue).WellTyped machine.bindings) :
    ((machine.assign left rightValue).assign right leftValue).AllWellTyped := by
  have first := typed.assign exchanged.1
  refine first.assign ?_
  intro stored bound
  rw [Machine.bindings, find?_assign] at bound
  split at bound
  · obtain ⟨old, present, rfl⟩ := Option.map_eq_some_iff.mp bound
    exact exchanged.2 old present
  · exact exchanged.2 stored bound

end AllWellTyped

end Machine

/-! ## Lines and programs -/

/-- The line has a command that may give a variable a value of another type. -/
def Line.mistypes (machine : Machine) (line : Text) : Bool :=
  (Line.command? line).any fun (command, arguments) => command.mistypes machine.bindings arguments

section Evaluated

variable [Evaluator]

namespace Program

end Program

end Evaluated

namespace Program

end Program

end Linewise
