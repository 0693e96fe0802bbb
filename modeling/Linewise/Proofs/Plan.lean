import Linewise.Line

/-!
What the plans of commands can be. `Planned` has a rule for each command that says when its plan
succeeds, what it has read from the variables by then, and which action comes of it.
-/

namespace Linewise

/-! ## Rules -/

open Plan in
inductive Planned [Evaluator] (bindings : Bindings) : Command → List Text → Action → Prop
  | say {first : Text} {rest : List Text} {message : Text}
      (rendered : Message.render bindings (first :: rest) = .ok message) :
      Planned bindings .say (first :: rest) (.write [message])
  | exit : Planned bindings .exit [] (.finish none)
  | exitWith {first : Text} {rest : List Text} {message : Text}
      (rendered : Message.render bindings (first :: rest) = .ok message) :
      Planned bindings .exit (first :: rest) (.finish (some message))
  | create {arguments values : List Text} {type name : Text} {constant : Bool} {value : Value}
      (read : constancy arguments = .ok (constant, type :: name :: values))
      (free : isReserved (Text.lower name) = false)
      (changeable : isConstant bindings (Text.lower name) = false)
      (initial : declaredValue bindings (Text.upper type) values = .ok value) :
      Planned bindings .create arguments
        (.declare (Text.lower name) ⟨Text.upper type, value, constant⟩)
  | listen {type second name prompt : Text} {rest parts : List Text} {dataType : DataType}
      (supported : DataType.supported type = .ok dataType)
      (target : listenTarget second rest = .ok (name, parts))
      (changeable : isConstant bindings name = false)
      (rendered : Message.render bindings parts = .ok prompt) :
      Planned bindings .listen (type :: second :: rest) (.listen name dataType prompt)
  | change {name first : Text} {rest : List Text} {stored : Variable} {value : Value}
      (bound : bindings (Text.lower name) = some stored)
      (changeable : stored.constant = false)
      (changed :
        changedValue bindings stored.type (Text.join [' '] (first :: rest)) = .ok value) :
      Planned bindings .change (name :: first :: rest) (.assign (Text.lower name) value)
  | convert {name target type : Text} {stored : Variable} {value : Value}
      (bound : bindings (Text.lower name) = some stored)
      (changeable : stored.constant = false)
      (known : targetType bindings target = .ok type)
      (converted : Linewise.convert stored.value stored.type type = .ok value) :
      Planned bindings .convert [name, target]
        (.declare (Text.lower name) ⟨type, value, stored.constant⟩)
  | random {type lowest highest : Text} {rest : List Text} {low high : Int} {lottery : Lottery}
      (lowRead : integerArgument bindings lowest (.randomBoundVariable · "min".toList)
        (.randomBound "min".toList) = .ok low)
      (highRead : integerArgument bindings highest (.randomBoundVariable · "max".toList)
        (.randomBound "max".toList) = .ok high)
      (drawn : Lottery.of (Text.upper type) low high = .ok lottery) :
      Planned bindings .random (type :: lowest :: highest :: rest)
        (.draw lottery (Text.upper type) (drawTarget bindings rest))
  | round {name precision : Text} {stored : Variable} {places : Int} {value : Value}
      (bound : bindings (Text.lower name) = some stored)
      (changeable : stored.constant = false)
      (typed : stored.hasType .float = true)
      (read : integerArgument bindings precision .precisionVariable .precision = .ok places)
      (whole : 0 ≤ places)
      (rounded : stored.value.roundTo places = .ok value) :
      Planned bindings .round [name, precision] (.assign (Text.lower name) value)
  | delete {name : Text} {stored : Variable} (bound : bindings (Text.lower name) = some stored) :
      Planned bindings .delete [name] (.remove (Text.lower name))
  | reset {name : Text} {stored : Variable} {value : Value}
      (bound : bindings (Text.lower name) = some stored)
      (initial : initialValue stored.type none = .ok value) :
      Planned bindings .reset [name] (.assign (Text.lower name) value)
  | increment {name : Text} {stored : Variable} {value : Value}
      (bound : bindings (Text.lower name) = some stored)
      (numeric : stored.isNumeric = true)
      (added : BinaryOperator.add.applyAs "+=".toList stored.value (.integer 1) = .ok value) :
      Planned bindings .increment [name] (.assign (Text.lower name) value)
  | decrement {name : Text} {stored : Variable} {value : Value}
      (bound : bindings (Text.lower name) = some stored)
      (numeric : stored.isNumeric = true)
      (subtracted :
        BinaryOperator.subtract.applyAs "-=".toList stored.value (.integer 1) = .ok value) :
      Planned bindings .decrement [name] (.assign (Text.lower name) value)
  | swap {left right : Text} {first second : Variable}
      (leftBound : bindings (Text.lower left) = some first)
      (rightBound : bindings (Text.lower right) = some second)
      (alike : first.type = second.type) :
      Planned bindings .swap [left, right]
        (.exchange (Text.lower left) (Text.lower right) first.value second.value)
  | uppercase {name content : Text} {stored : Variable}
      (bound : bindings (Text.lower name) = some stored)
      (typed : (stored.hasType .character || stored.hasType .text) = true)
      (written : stored.value = .text content) :
      Planned bindings .uppercase [name] (.assign (Text.lower name) (.text (Text.upper content)))
  | lowercase {name content : Text} {stored : Variable}
      (bound : bindings (Text.lower name) = some stored)
      (typed : (stored.hasType .character || stored.hasType .text) = true)
      (written : stored.value = .text content) :
      Planned bindings .lowercase [name] (.assign (Text.lower name) (.text (Text.lower content)))
  | reverseText {name content : Text} {stored : Variable}
      (bound : bindings (Text.lower name) = some stored)
      (typed : stored.hasType .text = true)
      (written : stored.value = .text content) :
      Planned bindings .reverse [name] (.assign (Text.lower name) (.text content.reverse))
  | reverseTuple {name : Text} {items : List Value} {stored : Variable}
      (bound : bindings (Text.lower name) = some stored)
      (typed : stored.hasType .text = true)
      (listed : stored.value = .tuple items) :
      Planned bindings .reverse [name] (.assign (Text.lower name) (.tuple items.reverse))

/-! ## Every plan follows its rule -/

namespace Plan

variable {bindings : Bindings} {arguments : List Text} {action : Action}

theorem declared_eq_ok {name : Text} {stored : Variable} :
    declared bindings name = .ok stored ↔ bindings name = some stored := by
  unfold declared
  cases bindings name <;> simp

theorem onlyName_eq_ok {command : Command} {pair : Text × Variable} :
    onlyName command bindings arguments = .ok pair ↔
      ∃ name stored, arguments = [name] ∧ bindings (Text.lower name) = some stored ∧
        pair = (Text.lower name, stored) := by
  unfold onlyName
  split
  · next name =>
      simp only [bind_eq_ok, declared_eq_ok, pure_eq_ok]
      constructor
      · rintro ⟨stored, bound, rfl⟩
        exact ⟨name, stored, rfl, bound, rfl⟩
      · rintro ⟨other, stored, equal, bound, rfl⟩
        cases equal
        exact ⟨stored, bound, rfl⟩
  · next several =>
      constructor
      · intro impossible
        cases impossible
      · rintro ⟨name, stored, rfl, _⟩
        exact absurd rfl (several name)

theorem drawTarget_cases {rest : List Text} {target : Option Text}
    (found : drawTarget bindings rest = .ok target) :
    (rest = [] ∧ target = none) ∨ ∃ word, rest = [word] ∧ target = some (Text.lower word) ∧
      Text.lower word ≠ "end".toList ∧ isConstant bindings (Text.lower word) = false := by
  unfold drawTarget at found
  split at found
  · cases found
    exact .inl ⟨rfl, rfl⟩
  · next word =>
      simp only at found
      split at found
      · cases found
      · next free =>
          split at found
          · cases found
          · next changeable =>
              cases found
              exact .inr ⟨word, rfl, rfl, free, Bool.eq_false_iff.mpr changeable⟩
  · cases found

theorem listenTarget_cases {second name : Text} {rest parts : List Text}
    (found : listenTarget second rest = .ok (name, parts)) :
    (startsWithQuote second = true ∧ name = "listened".toList) ∨
      startsWithQuote second = false ∧ name = Text.lower second ∧
        isReserved (Text.lower second) = false := by
  unfold listenTarget at found
  split at found
  · next quoted =>
      cases found
      exact .inl ⟨quoted, rfl⟩
  · next unquoted =>
      split at found
      · cases found
      · next free =>
          cases found
          exact .inr ⟨Bool.eq_false_iff.mpr unquoted, rfl, Bool.eq_false_iff.mpr free⟩

theorem declaration_eq_ok {given : Declaration} :
    declaration bindings arguments = .ok given ↔ ∃ type name,
      constancy arguments = .ok (given.constant, type :: name :: given.values) ∧
        isReserved (Text.lower name) = false ∧ isConstant bindings (Text.lower name) = false ∧
        given.type = Text.upper type ∧ given.name = Text.lower name := by
  simp only [declaration, bind_eq_ok]
  constructor
  · rintro ⟨⟨constant, rest⟩, read, checked⟩
    match rest with
    | [] => cases checked
    | [_] => cases checked
    | type :: name :: values =>
        simp only [guarded_eq_ok, pure_eq_ok, Bool.not_eq_true] at checked
        obtain ⟨free, changeable, rfl⟩ := checked
        exact ⟨type, name, read, free, changeable, rfl, rfl⟩
  · rintro ⟨type, name, read, free, changeable, typed, named⟩
    refine ⟨_, read, ?_⟩
    simp only [guarded_eq_ok, pure_eq_ok, free, changeable, Bool.not_eq_true, true_and]
    cases given
    cases typed
    cases named
    rfl

theorem question_eq_ok {name : Text} {type : DataType} {parts : List Text} :
    question bindings arguments = .ok (name, type, parts) ↔ ∃ word second rest,
      arguments = word :: second :: rest ∧ DataType.supported word = .ok type ∧
        listenTarget second rest = .ok (name, parts) ∧ isConstant bindings name = false := by
  unfold question
  split
  · next word second rest =>
      simp only [bind_eq_ok, guarded_eq_ok, pure_eq_ok, Bool.not_eq_true]
      constructor
      · rintro ⟨_, supported, ⟨_, _⟩, target, changeable, same⟩
        cases same
        exact ⟨word, second, rest, rfl, supported, target, changeable⟩
      · rintro ⟨_, _, _, same, supported, target, changeable⟩
        cases same
        exact ⟨_, supported, _, target, changeable, rfl⟩
  · next fewer =>
      constructor
      · intro impossible
        cases impossible
      · rintro ⟨word, second, rest, rfl, _⟩
        exact absurd rfl (fewer word second rest)

theorem changeTarget_eq_ok {name type literal : Text} :
    changeTarget bindings arguments = .ok (name, type, literal) ↔ ∃ word first rest stored,
      arguments = word :: first :: rest ∧ bindings (Text.lower word) = some stored ∧
        stored.constant = false ∧ name = Text.lower word ∧ type = stored.type ∧
        literal = Text.join [' '] (first :: rest) := by
  unfold changeTarget
  split
  · next word first rest =>
      simp only [bind_eq_ok, guarded_eq_ok, pure_eq_ok, declared_eq_ok, Bool.not_eq_true]
      constructor
      · rintro ⟨stored, bound, changeable, same⟩
        cases same
        exact ⟨word, first, rest, stored, rfl, bound, changeable, rfl, rfl, rfl⟩
      · rintro ⟨_, _, _, stored, same, bound, changeable, rfl, rfl, rfl⟩
        cases same
        exact ⟨stored, bound, changeable, rfl⟩
  · next fewer =>
      constructor
      · intro impossible
        cases impossible
      · rintro ⟨word, first, rest, stored, rfl, _⟩
        exact absurd rfl (fewer word first rest)

private theorem step_eq_ok {command : Command} {operator : BinaryOperator} {shown : Text}
    (planned : step command operator shown bindings arguments = .ok action) :
    ∃ name stored value, arguments = [name] ∧ bindings (Text.lower name) = some stored ∧
      stored.isNumeric = true ∧ operator.applyAs shown stored.value (.integer 1) = .ok value ∧
      action = .assign (Text.lower name) value := by
  simp only [step, bind_eq_ok, onlyName_eq_ok, guarded_eq_ok, lifted_eq_ok, pure_eq_ok,
    Bool.not_eq_true, Bool.not_eq_false'] at planned
  obtain ⟨_, ⟨name, stored, rfl, bound, rfl⟩, numeric, value, result, rfl⟩ := planned
  exact ⟨name, stored, value, rfl, bound, numeric, result, rfl⟩

private theorem recase_eq_ok {command : Command} {operation : Text} {change : Text → Text}
    (planned : recase command operation change bindings arguments = .ok action) :
    ∃ name stored content, arguments = [name] ∧ bindings (Text.lower name) = some stored ∧
      (stored.hasType .character || stored.hasType .text) = true ∧
      stored.value = .text content ∧
      action = .assign (Text.lower name) (.text (change content)) := by
  simp only [recase, bind_eq_ok, onlyName_eq_ok, guarded_eq_ok, Bool.not_eq_true,
    Bool.not_eq_false'] at planned
  obtain ⟨_, ⟨name, stored, rfl, bound, rfl⟩, typed, planned⟩ := planned
  split at planned
  · next content written =>
      cases planned
      exact ⟨name, stored, content, rfl, bound, typed, written, rfl⟩
  · cases planned

section Evaluated

variable [Evaluator]

private theorem planned_say (planned : say bindings arguments = .ok action) :
    Planned bindings .say arguments action := by
  cases arguments with
  | nil => cases planned
  | cons first rest =>
      simp only [say, List.isEmpty_cons, Bool.false_eq_true, if_false, bind_eq_ok,
        pure_eq_ok] at planned
      obtain ⟨message, rendered, rfl⟩ := planned
      exact .say rendered

private theorem planned_exit (planned : exit bindings arguments = .ok action) :
    Planned bindings .exit arguments action := by
  cases arguments with
  | nil =>
      cases planned
      exact .exit
  | cons first rest =>
      simp only [exit, List.isEmpty_cons, Bool.false_eq_true, if_false, bind_eq_ok,
        pure_eq_ok] at planned
      obtain ⟨message, rendered, rfl⟩ := planned
      exact .exitWith rendered

private theorem planned_create (planned : create bindings arguments = .ok action) :
    Planned bindings .create arguments action := by
  simp only [create, bind_eq_ok, pure_eq_ok] at planned
  obtain ⟨⟨constant, _, _, values⟩, given, value, initial, rfl⟩ := planned
  obtain ⟨type, name, read, free, changeable, rfl, rfl⟩ := declaration_eq_ok.mp given
  exact .create read free changeable initial

private theorem planned_listen (planned : listen bindings arguments = .ok action) :
    Planned bindings .listen arguments action := by
  simp only [listen, bind_eq_ok, pure_eq_ok] at planned
  obtain ⟨⟨name, type, parts⟩, asked, prompt, rendered, rfl⟩ := planned
  obtain ⟨word, second, rest, rfl, supported, target, changeable⟩ := question_eq_ok.mp asked
  exact .listen supported target changeable rendered

private theorem planned_change (planned : change bindings arguments = .ok action) :
    Planned bindings .change arguments action := by
  simp only [change, bind_eq_ok, pure_eq_ok] at planned
  obtain ⟨⟨name, type, literal⟩, meant, value, changed, rfl⟩ := planned
  obtain ⟨word, first, rest, stored, rfl, bound, changeable, rfl, rfl, rfl⟩ :=
    changeTarget_eq_ok.mp meant
  exact .change bound changeable changed

private theorem planned_convert (planned : convert bindings arguments = .ok action) :
    Planned bindings .convert arguments action := by
  unfold convert at planned
  split at planned
  · simp only [bind_eq_ok, guarded_eq_ok, pure_eq_ok, declared_eq_ok, Bool.not_eq_true]
      at planned
    obtain ⟨stored, bound, changeable, type, known, value, converted, rfl⟩ := planned
    exact .convert bound changeable known converted
  · cases planned

private theorem planned_random (planned : random bindings arguments = .ok action) :
    Planned bindings .random arguments action := by
  unfold random at planned
  split at planned
  · simp only [bind_eq_ok, pure_eq_ok] at planned
    obtain ⟨low, lowRead, high, highRead, lottery, drawn, rfl⟩ := planned
    exact .random lowRead highRead drawn
  · cases planned

private theorem planned_round (planned : round bindings arguments = .ok action) :
    Planned bindings .round arguments action := by
  unfold round at planned
  split at planned
  · simp only [bind_eq_ok, guarded_eq_ok, pure_eq_ok, lifted_eq_ok, declared_eq_ok,
      Bool.not_eq_true, Bool.not_eq_false', Int.not_lt] at planned
    obtain ⟨stored, bound, changeable, typed, places, read, whole, value, rounded, rfl⟩ := planned
    exact .round bound changeable typed read whole rounded
  · cases planned

private theorem planned_delete (planned : delete bindings arguments = .ok action) :
    Planned bindings .delete arguments action := by
  simp only [delete, bind_eq_ok, onlyName_eq_ok, pure_eq_ok] at planned
  obtain ⟨_, ⟨name, stored, rfl, bound, rfl⟩, rfl⟩ := planned
  exact .delete bound

private theorem planned_reset (planned : reset bindings arguments = .ok action) :
    Planned bindings .reset arguments action := by
  simp only [reset, bind_eq_ok, onlyName_eq_ok, pure_eq_ok] at planned
  obtain ⟨_, ⟨name, stored, rfl, bound, rfl⟩, value, initial, rfl⟩ := planned
  exact .reset bound initial

private theorem planned_swap (planned : swap bindings arguments = .ok action) :
    Planned bindings .swap arguments action := by
  unfold swap at planned
  split at planned
  · next left right =>
      cases leftBound : bindings (Text.lower left) with
      | none => simp [leftBound] at planned
      | some first =>
          cases rightBound : bindings (Text.lower right) with
          | none => simp [leftBound, rightBound] at planned
          | some second =>
              by_cases alike : first.type = second.type
              · simp only [leftBound, rightBound, alike, if_true, Except.ok.injEq] at planned
                subst planned
                exact .swap leftBound rightBound alike
              · simp [leftBound, rightBound, alike] at planned
  · cases planned

private theorem planned_reverse (planned : reverse bindings arguments = .ok action) :
    Planned bindings .reverse arguments action := by
  simp only [reverse, bind_eq_ok, onlyName_eq_ok, guarded_eq_ok, Bool.not_eq_true,
    Bool.not_eq_false'] at planned
  obtain ⟨_, ⟨name, stored, rfl, bound, rfl⟩, typed, planned⟩ := planned
  split at planned
  · next content written =>
      cases planned
      exact .reverseText bound typed written
  · next items listed =>
      cases planned
      exact .reverseTuple bound typed listed
  · cases planned

theorem planned_unreported {command : Command}
    (planned : unreported command bindings arguments = .ok action) :
    Planned bindings command arguments action := by
  cases command with
  | branch => cases planned
  | loop => cases planned
  | say => exact planned_say planned
  | delete => exact planned_delete planned
  | exit => exact planned_exit planned
  | swap => exact planned_swap planned
  | round => exact planned_round planned
  | reset => exact planned_reset planned
  | random => exact planned_random planned
  | create => exact planned_create planned
  | listen => exact planned_listen planned
  | change => exact planned_change planned
  | convert => exact planned_convert planned
  | reverse => exact planned_reverse planned
  | increment =>
      obtain ⟨name, stored, value, rfl, bound, numeric, added, rfl⟩ := step_eq_ok planned
      exact .increment bound numeric added
  | decrement =>
      obtain ⟨name, stored, value, rfl, bound, numeric, subtracted, rfl⟩ := step_eq_ok planned
      exact .decrement bound numeric subtracted
  | uppercase =>
      obtain ⟨name, stored, content, rfl, bound, typed, written, rfl⟩ := recase_eq_ok planned
      exact .uppercase bound typed written
  | lowercase =>
      obtain ⟨name, stored, content, rfl, bound, typed, written, rfl⟩ := recase_eq_ok planned
      exact .lowercase bound typed written

end Evaluated

end Plan

/-! ## Every rule is that of a plan -/

open Plan in
theorem Planned.unreported_eq_ok [Evaluator] {bindings : Bindings} {command : Command}
    {arguments : List Text}
    {action : Action} (planned : Planned bindings command arguments action) :
    unreported command bindings arguments = .ok action := by
  cases planned with
  | say rendered =>
      simp only [unreported, Plan.say, List.isEmpty_cons, Bool.false_eq_true, if_false, rendered,
        bind_eq_ok, pure_eq_ok]
      exact ⟨_, rfl, rfl⟩
  | exit => rfl
  | exitWith rendered =>
      simp only [unreported, Plan.exit, List.isEmpty_cons, Bool.false_eq_true, if_false, rendered,
        bind_eq_ok, pure_eq_ok]
      exact ⟨_, rfl, rfl⟩
  | @create _ values type name constant _ read free changeable initial =>
      simp only [unreported, Plan.create, bind_eq_ok, pure_eq_ok]
      exact ⟨⟨constant, Text.upper type, Text.lower name, values⟩,
        declaration_eq_ok.mpr ⟨type, name, read, free, changeable, rfl, rfl⟩, _, initial, rfl⟩
  | listen supported target changeable rendered =>
      simp only [unreported, Plan.listen, bind_eq_ok, pure_eq_ok]
      exact ⟨_, question_eq_ok.mpr ⟨_, _, _, rfl, supported, target, changeable⟩, _, rendered, rfl⟩
  | change bound changeable changed =>
      simp only [unreported, Plan.change, bind_eq_ok, pure_eq_ok]
      exact ⟨_, changeTarget_eq_ok.mpr ⟨_, _, _, _, rfl, bound, changeable, rfl, rfl, rfl⟩, _,
        changed, rfl⟩
  | convert bound changeable known converted =>
      simp only [unreported, Plan.convert, bind_eq_ok, declared_eq_ok]
      refine ⟨_, bound, ?_⟩
      simp only [guarded_eq_ok, bind_eq_ok, pure_eq_ok, changeable, Bool.not_eq_true, true_and]
      exact ⟨_, known, _, converted, rfl⟩
  | random lowRead highRead drawn =>
      simp only [unreported, Plan.random, bind_eq_ok, pure_eq_ok]
      exact ⟨_, lowRead, _, highRead, _, drawn, rfl⟩
  | round bound changeable typed read whole rounded =>
      simp only [unreported, Plan.round, bind_eq_ok, declared_eq_ok]
      refine ⟨_, bound, ?_⟩
      simp only [guarded_eq_ok, bind_eq_ok, pure_eq_ok, lifted_eq_ok, changeable, typed,
        Bool.not_eq_true, Bool.not_eq_false', true_and]
      exact ⟨_, read, Int.not_lt.mpr whole, _, rounded, rfl⟩
  | delete bound =>
      simp only [unreported, Plan.delete, bind_eq_ok, onlyName_eq_ok, pure_eq_ok]
      exact ⟨_, ⟨_, _, rfl, bound, rfl⟩, rfl⟩
  | reset bound initial =>
      simp only [unreported, Plan.reset, bind_eq_ok, onlyName_eq_ok, pure_eq_ok]
      exact ⟨_, ⟨_, _, rfl, bound, rfl⟩, _, initial, rfl⟩
  | increment bound numeric added =>
      simp only [unreported, Plan.increment, step, bind_eq_ok, onlyName_eq_ok]
      refine ⟨_, ⟨_, _, rfl, bound, rfl⟩, ?_⟩
      simp only [guarded_eq_ok, bind_eq_ok, pure_eq_ok, lifted_eq_ok, numeric, Bool.not_eq_true,
        Bool.not_eq_false', true_and]
      exact ⟨_, added, rfl⟩
  | decrement bound numeric subtracted =>
      simp only [unreported, Plan.decrement, step, bind_eq_ok, onlyName_eq_ok]
      refine ⟨_, ⟨_, _, rfl, bound, rfl⟩, ?_⟩
      simp only [guarded_eq_ok, bind_eq_ok, pure_eq_ok, lifted_eq_ok, numeric, Bool.not_eq_true,
        Bool.not_eq_false', true_and]
      exact ⟨_, subtracted, rfl⟩
  | swap leftBound rightBound alike => simp [unreported, Plan.swap, leftBound, rightBound, alike]
  | uppercase bound typed written =>
      simp only [unreported, Plan.uppercase, recase, bind_eq_ok, onlyName_eq_ok]
      refine ⟨_, ⟨_, _, rfl, bound, rfl⟩, ?_⟩
      simp only [guarded_eq_ok, typed, written]
      exact ⟨nofun, rfl⟩
  | lowercase bound typed written =>
      simp only [unreported, Plan.lowercase, recase, bind_eq_ok, onlyName_eq_ok]
      refine ⟨_, ⟨_, _, rfl, bound, rfl⟩, ?_⟩
      simp only [guarded_eq_ok, typed, written]
      exact ⟨nofun, rfl⟩
  | reverseText bound typed written =>
      simp only [unreported, Plan.reverse, bind_eq_ok, onlyName_eq_ok]
      refine ⟨_, ⟨_, _, rfl, bound, rfl⟩, ?_⟩
      simp only [guarded_eq_ok, typed, written]
      exact ⟨nofun, rfl⟩
  | reverseTuple bound typed listed =>
      simp only [unreported, Plan.reverse, bind_eq_ok, onlyName_eq_ok]
      refine ⟨_, ⟨_, _, rfl, bound, rfl⟩, ?_⟩
      simp only [guarded_eq_ok, typed, listed]
      exact ⟨nofun, rfl⟩

/-- A command is planned just as its rules say. -/
theorem Command.plan_eq_ok_iff [Evaluator] {command : Command} {bindings : Bindings}
    {arguments : List Text} {action : Action} :
    command.plan bindings arguments = .ok action ↔ Planned bindings command arguments action := by
  rw [Command.plan, mapError_eq_ok]
  constructor
  · exact Plan.planned_unreported
  · exact Planned.unreported_eq_ok

end Linewise
