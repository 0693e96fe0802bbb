import Linewise.Proofs.Expansion
import Linewise.Proofs.Line

/-!
Why lines fail. A line fails with an error of its own, never with one that tells of the program
around it. The only other way for it not to come to an end is that something it has evaluated does
not: an expression, or a message that the line says, leaves with or asks with.
-/

namespace Linewise

/-! ## Errors of lines -/

/-- The errors of a line by itself. Not among them are those of a program and its blocks, and that
of an evaluation without an end. -/
def Error.isOfLine : Error → Bool
  | .condition _ _ | .missingEnd _ | .missingDo _ | .strayElse | .strayEnd | .loopLimit _ => false
  | .missingFile | .fileNotFound _ | .fileReading _ => false
  | .unfinished => false
  | _ => true

def FailsAsLine {α : Type} (result : Except Error α) : Prop :=
  ∀ error, result = .error error → error.isOfLine = true

namespace FailsAsLine

variable {α β : Type}

theorem ok (value : α) : FailsAsLine (.ok value) := nofun

theorem error {error : Error} (ofLine : error.isOfLine = true) :
    FailsAsLine (.error error : Except Error α) := by
  intro other same
  cases same
  exact ofLine

theorem bind {first : Except Error α} {next : α → Except Error β} (start : FailsAsLine first)
    (rest : ∀ value, FailsAsLine (next value)) : FailsAsLine (first >>= next) := by
  intro error failed
  rcases bind_eq_error.mp failed with failed | ⟨value, _, failed⟩
  · exact start error failed
  · exact rest value error failed

theorem map {result : Except Error α} (fails : FailsAsLine result) (change : α → β) :
    FailsAsLine (result.map change) := by
  cases result with
  | ok value => exact .ok _
  | error error => exact .error (fails error rfl)

theorem guarded {refused : Prop} [Decidable refused] {error : Error}
    {next : PUnit → Except Error α} (ofLine : error.isOfLine = true)
    (rest : FailsAsLine (next ())) :
    FailsAsLine (if refused then throw error >>= next else next ()) := by
  split
  · exact FailsAsLine.bind (.error ofLine) fun _ => rest
  · exact rest

theorem mapError {ε : Type} {report : ε → Error} (ofLine : ∀ cause, (report cause).isOfLine = true)
    (result : Except ε α) : FailsAsLine (result.mapError report) := by
  cases result with
  | ok value => exact .ok value
  | error cause => exact .error (ofLine cause)

theorem lift (result : Except Fault α) : FailsAsLine (liftM result : Except Error α) :=
  mapError (fun _ => rfl) result

end FailsAsLine

/-- An error is one of a line, and there is another just if something has no end. -/
structure EndsUnless {α : Type} (endless : Prop) (result : Except Error α) : Prop where
  cause : ∀ error, result = .error error → error.isOfLine = true ∨ error = .unfinished
  unfinished_iff : result = .error .unfinished ↔ endless

namespace EndsUnless

variable {α β : Type} {endless : Prop}

theorem of_failsAsLine {result : Except Error α} (fails : FailsAsLine result)
    (ends : ¬endless) : EndsUnless endless result where
  cause error failed := .inl (fails error failed)
  unfinished_iff := by
    refine iff_of_false (fun failed => ?_) ends
    cases fails _ failed

theorem congr {other : Prop} {result : Except Error α} (ends : EndsUnless endless result)
    (same : endless ↔ other) : EndsUnless other result :=
  propext same ▸ ends

theorem bind {first : Except Error α} {next : α → Except Error β} (start : EndsUnless endless first)
    (rest : ∀ value, FailsAsLine (next value)) : EndsUnless endless (first >>= next) where
  cause error failed := by
    rcases bind_eq_error.mp failed with failed | ⟨value, -, failed⟩
    · exact start.cause error failed
    · exact .inl (rest value error failed)
  unfinished_iff := by
    rw [bind_eq_error, ← start.unfinished_iff]
    apply or_iff_left
    rintro ⟨value, -, failed⟩
    cases rest value _ failed

theorem after {first : Except Error α} {next : α → Except Error β} {endless : α → Prop}
    (start : FailsAsLine first) (rest : ∀ value, EndsUnless (endless value) (next value)) :
    EndsUnless (∃ value, first = .ok value ∧ endless value) (first >>= next) where
  cause error failed := by
    rcases bind_eq_error.mp failed with failed | ⟨value, -, failed⟩
    · exact .inl (start error failed)
    · exact (rest value).cause error failed
  unfinished_iff := by
    have started : first ≠ .error .unfinished := fun failed => nomatch start _ failed
    simp only [bind_eq_error, started, false_or, (rest _).unfinished_iff]

theorem causing {result : Except Error α} (ends : EndsUnless endless result)
    {outer : Error → Error} (ofLine : ∀ error, (outer error).isOfLine = true) :
    EndsUnless endless (result.mapError (Error.causing outer)) := by
  have caused (error : Error) : (error.causing outer).isOfLine = true ∨ error = .unfinished := by
    cases error with
    | unfinished => exact .inr rfl
    | _ => exact .inl (ofLine _)
  cases result with
  | ok value => exact ⟨nofun, iff_of_false nofun fun never => nomatch ends.unfinished_iff.mpr never⟩
  | error error =>
      constructor
      · rintro _ ⟨⟩
        rcases caused error with outside | rfl
        · exact .inl outside
        · exact .inr rfl
      · rw [← ends.unfinished_iff]
        rcases caused error with outside | rfl
        · refine iff_of_false (fun failed => ?_) (fun failed => ?_)
          · rw [Except.error.inj failed] at outside
            cases outside
          · rw [Except.error.inj failed] at outside
            cases outside
        · exact iff_of_true rfl rfl

theorem within {result : Except Error α} (ends : EndsUnless endless result) (command : Command) :
    EndsUnless endless (result.mapError (Error.within command)) := by
  cases result with
  | ok value => exact ⟨nofun, iff_of_false nofun fun never => nomatch ends.unfinished_iff.mpr never⟩
  | error error =>
      constructor
      · rintro _ ⟨⟩
        rcases ends.cause error rfl with ofLine | rfl
        · left
          cases error <;> exact ofLine
        · exact .inr rfl
      · rw [← ends.unfinished_iff]
        change Except.error (error.within command) = .error .unfinished ↔ _
        cases error <;> simp [Error.within]

end EndsUnless

theorem Error.isOfLine_within (command : Command) (error : Error) :
    (error.within command).isOfLine = error.isOfLine := by
  cases error <;> rfl

/-! ## Values -/

open FailsAsLine

theorem failsAsLine_supported (name : Text) : FailsAsLine (DataType.supported name) := by
  rw [DataType.supported]
  split
  · exact .ok _
  · exact .error rfl

theorem failsAsLine_default (type : Text) [Evaluator] : FailsAsLine (initialValue type none) :=
  FailsAsLine.bind (failsAsLine_supported type) fun _ => .ok _

theorem failsAsLine_checkedTruth (literal : Text) : FailsAsLine (checkedTruth literal) := by
  simp only [checkedTruth]
  split
  · exact .ok _
  · split
    · exact .ok _
    · exact .error rfl

theorem failsAsLine_convert (value : Value) (old new : Text) :
    FailsAsLine (convert value old new) := by
  apply FailsAsLine.bind (failsAsLine_supported new)
  intro target
  simp only
  split
  · exact .error rfl
  · exact .error rfl
  · exact .error rfl
  · exact .ok _

theorem failsAsLine_lottery (type : Text) (low high : Int) :
    FailsAsLine (Lottery.of type low high) := by
  apply FailsAsLine.bind (failsAsLine_supported type)
  intro known
  apply guarded rfl
  cases known with
  | integer | float | text => exact .ok _
  | character =>
      simp only
      split
      · exact .ok _
      · exact .error rfl
  | truth =>
      simp only
      split
      · exact .ok _
      · split
        · exact .ok _
        · exact .error rfl

/-! ## Evaluations -/

section Evaluations

variable [Evaluator]

def Expression.IsEndless (source : Text) (meaning : Meaning) : Prop :=
  (evaluation source meaning).result = none

/-- A message is made a text of, and this does not come to an end with the replacements that a
message is allowed. -/
def Message.IsEndless (bindings : Bindings) (parts : List Text) : Prop :=
  ∃ message, substitute bindings (ofLine parts) = .ok message ∧
    expand bindings.meaning message = .error .unfinished

def InitialIsEndless (type literal : Text) : Prop :=
  ∃ known, DataType.supported type = .ok known ∧ Literal.IsEndless known (Text.strip literal)

theorem endsUnless_shownResult (source : Text) (meaning : Meaning) :
    EndsUnless (Expression.IsEndless source meaning) (Expression.shownResult source meaning) := by
  have calculated : EndsUnless (Expression.IsEndless source meaning)
      (Expression.calculate source meaning) := by
    unfold Expression.calculate Expression.IsEndless
    cases (Expression.evaluation source meaning).result with
    | none => exact ⟨by rintro _ ⟨⟩; exact .inr rfl, iff_of_true rfl rfl⟩
    | some result => exact .of_failsAsLine (.mapError (fun _ => rfl) _) nofun
  apply calculated.bind
  intro value
  split <;> exact .ok _

theorem endsUnless_initialValue (type literal : Text) :
    EndsUnless (InitialIsEndless type literal) (initialValue type (some literal)) := by
  apply EndsUnless.after (failsAsLine_supported type)
  intro known
  have failing {error : Error} (failed : Literal.valueOf known literal.strip = .error error) :
      error.isOfLine = true ∨ error = .unfinished ∧ Literal.IsEndless known literal.strip := by
    rcases Literal.valueOf_error failed with listed | ⟨cause, rfl⟩ | endless
    · simp only [List.mem_cons, List.not_mem_nil, or_false] at listed
      rcases listed with rfl | rfl | rfl <;> exact .inl rfl
    · exact .inl rfl
    · exact .inr endless
  refine ⟨fun error failed => (failing failed).imp_right And.left, fun failed => ?_,
    Literal.IsEndless.valueOf_eq⟩
  exact (failing failed).elim nofun And.right

theorem endsUnless_render (bindings : Bindings) (parts : List Text) :
    EndsUnless (Message.IsEndless bindings parts) (Message.render bindings parts) := by
  have expanded (message : Text) :
      EndsUnless (Message.expand bindings.meaning message = .error .unfinished)
        (Message.expand bindings.meaning message) := by
    refine ⟨fun error failed => ?_, .rfl⟩
    have outcome : Message.Outcome (Message.expand bindings.meaning message) :=
      Message.outcome_expandGroups bindings.meaning _ _
    rw [failed] at outcome
    cases outcome with
    | calculation cause | tooLong => exact .inl rfl
    | unfinished => exact .inr rfl
  refine (EndsUnless.after (.lift _) expanded).congr ?_
  simp only [lifted_eq_ok]
  rfl

end Evaluations

/-! ## Plans -/

namespace Plan

section Arguments

variable (bindings : Bindings)

theorem failsAsLine_declared (name : Text) : FailsAsLine (declared bindings name) := by
  rw [declared]
  split
  · exact .ok _
  · exact .error rfl

theorem failsAsLine_onlyName (command : Command) (arguments : List Text) :
    FailsAsLine (onlyName command bindings arguments) := by
  rw [onlyName.eq_def]
  split
  · exact FailsAsLine.bind (failsAsLine_declared bindings _) fun _ => .ok _
  · exact .error rfl

theorem failsAsLine_integerArgument (argument : Text) {notNumeric notInteger : Text → Error}
    (ofLine : ∀ name, (notNumeric name).isOfLine = true)
    (ofLineToo : ∀ literal, (notInteger literal).isOfLine = true) :
    FailsAsLine (integerArgument bindings argument notNumeric notInteger) := by
  rw [integerArgument.eq_def]
  split
  · apply FailsAsLine.bind (failsAsLine_declared bindings _)
    intro stored
    exact guarded (ofLine _) (.lift _)
  · exact .mapError (fun _ => ofLineToo _) _

theorem failsAsLine_targetType (target : Text) : FailsAsLine (targetType bindings target) := by
  rw [targetType.eq_def]
  split
  · exact (failsAsLine_declared bindings _).map Variable.type
  · exact .ok _

theorem failsAsLine_listenTarget (second : Text) (rest : List Text) :
    FailsAsLine (listenTarget second rest) := by
  rw [listenTarget]
  split
  · exact .ok _
  · split
    · exact .error rfl
    · exact .ok _

variable (arguments : List Text)

theorem failsAsLine_declaration : FailsAsLine (declaration bindings arguments) := by
  apply FailsAsLine.bind
  · rw [constancy.eq_def]
    split
    · split <;> exact .ok _
    · exact .error rfl
  · rintro ⟨constant, rest⟩
    simp only
    split
    · apply guarded rfl
      exact guarded rfl (.ok _)
    · exact .error rfl

theorem failsAsLine_question : FailsAsLine (question bindings arguments) := by
  rw [question.eq_def]
  split
  · apply FailsAsLine.bind (failsAsLine_supported _)
    intro type
    apply FailsAsLine.bind (failsAsLine_listenTarget _ _)
    rintro ⟨name, parts⟩
    exact guarded rfl (.ok _)
  · exact .error rfl

theorem failsAsLine_changeTarget : FailsAsLine (changeTarget bindings arguments) := by
  rw [changeTarget.eq_def]
  split
  · apply FailsAsLine.bind (failsAsLine_declared bindings _)
    intro stored
    exact guarded rfl (.ok _)
  · exact .error rfl

theorem failsAsLine_convertPlan : FailsAsLine (convert bindings arguments) := by
  rw [convert.eq_def]
  split
  · apply FailsAsLine.bind (failsAsLine_declared bindings _)
    intro stored
    apply guarded rfl
    apply FailsAsLine.bind (failsAsLine_targetType bindings _)
    intro type
    exact FailsAsLine.bind (failsAsLine_convert _ _ _) fun _ => .ok _
  · exact .error rfl

theorem failsAsLine_random : FailsAsLine (random bindings arguments) := by
  rw [random.eq_def]
  split
  · apply FailsAsLine.bind
      (failsAsLine_integerArgument bindings _ (fun _ => rfl) fun _ => rfl)
    intro low
    apply FailsAsLine.bind
      (failsAsLine_integerArgument bindings _ (fun _ => rfl) fun _ => rfl)
    intro high
    exact FailsAsLine.bind (failsAsLine_lottery _ low high) fun _ => .ok _
  · exact .error rfl

theorem failsAsLine_round : FailsAsLine (round bindings arguments) := by
  rw [round.eq_def]
  split
  · apply FailsAsLine.bind (failsAsLine_declared bindings _)
    intro stored
    apply guarded rfl
    apply guarded rfl
    apply FailsAsLine.bind
      (failsAsLine_integerArgument bindings _ (fun _ => rfl) fun _ => rfl)
    intro places
    apply guarded rfl
    exact FailsAsLine.bind (.lift _) fun _ => .ok _
  · exact .error rfl

theorem failsAsLine_delete : FailsAsLine (delete bindings arguments) :=
  FailsAsLine.bind (failsAsLine_onlyName bindings _ arguments) fun _ => .ok _

theorem failsAsLine_reset : FailsAsLine (reset bindings arguments) := by
  apply FailsAsLine.bind (failsAsLine_onlyName bindings _ arguments)
  rintro ⟨name, stored⟩
  exact FailsAsLine.bind (failsAsLine_default stored.type) fun _ => .ok _

theorem failsAsLine_step (command : Command) (operator : BinaryOperator) (shown : Text) :
    FailsAsLine (step command operator shown bindings arguments) := by
  apply FailsAsLine.bind (failsAsLine_onlyName bindings _ arguments)
  rintro ⟨name, stored⟩
  apply guarded rfl
  exact FailsAsLine.bind (.lift _) fun _ => .ok _

theorem failsAsLine_swap : FailsAsLine (swap bindings arguments) := by
  rw [swap.eq_def]
  split
  · simp only
    split
    · split
      · exact .ok _
      · exact .error rfl
    · exact .error rfl
  · exact .error rfl

theorem failsAsLine_recase (command : Command) (operation : Text) (change : Text → Text) :
    FailsAsLine (recase command operation change bindings arguments) := by
  apply FailsAsLine.bind (failsAsLine_onlyName bindings _ arguments)
  rintro ⟨name, stored⟩
  apply guarded rfl
  split
  · exact .ok _
  · exact .error rfl

theorem failsAsLine_reverse : FailsAsLine (reverse bindings arguments) := by
  apply FailsAsLine.bind (failsAsLine_onlyName bindings _ arguments)
  rintro ⟨name, stored⟩
  apply guarded rfl
  split
  · exact .ok _
  · exact .ok _
  · exact .error rfl

theorem failsAsLine_drawTarget : FailsAsLine (drawTarget bindings arguments) := by
  rw [drawTarget.eq_def]
  split
  · exact .ok _
  · simp only
    split
    · exact .error rfl
    · split
      · exact .error rfl
      · exact .ok _
  · exact .error rfl

end Arguments

section Commands

variable [Evaluator] (bindings : Bindings)

def ValueIsEndless (type literal : Text) : Prop :=
  match braced? literal with
  | some expression => Expression.IsEndless expression bindings.meaning
  | none =>
      ∃ replaced, substitute bindings literal = .ok replaced ∧
        type ≠ DataType.truth.name ∧ InitialIsEndless type replaced

def IsEndless (command : Command) (arguments : List Text) : Prop :=
  match command with
  | .say | .exit => arguments ≠ [] ∧ Message.IsEndless bindings arguments
  | .create =>
      ∃ given, declaration bindings arguments = .ok given ∧
        given.values ≠ [] ∧ ValueIsEndless bindings given.type (Text.join [' '] given.values)
  | .listen =>
      ∃ asked, question bindings arguments = .ok asked ∧ Message.IsEndless bindings asked.2.2
  | .change =>
      ∃ target, changeTarget bindings arguments = .ok target ∧
        ValueIsEndless bindings target.2.1 target.2.2
  | _ => False

theorem endsUnless_literalValue {literal : Text} (plain : braced? literal = none) (type : Text) :
    EndsUnless (ValueIsEndless bindings type literal) (literalValue bindings type literal) := by
  simp only [ValueIsEndless, plain]
  have each (replaced : Text) :
      EndsUnless (type ≠ DataType.truth.name ∧ InitialIsEndless type replaced)
        (if type = DataType.truth.name then checkedTruth replaced
          else initialValue type (some replaced)) := by
    split
    · next truth =>
        exact .of_failsAsLine (failsAsLine_checkedTruth replaced) fun never => never.1 truth
    · next other => exact (endsUnless_initialValue type replaced).congr (and_iff_right other).symm
  exact (EndsUnless.after (.lift _) each).congr (by simp only [lifted_eq_ok])

theorem endsUnless_expressionValue (type expression : Text) :
    EndsUnless (Expression.IsEndless expression bindings.meaning)
      (expressionValue bindings type expression) := by
  apply (endsUnless_shownResult expression bindings.meaning).bind
  intro value
  split
  · exact FailsAsLine.bind (.lift _) fun _ => .ok _
  · exact FailsAsLine.bind (.lift _) fun _ => .ok _
  · exact FailsAsLine.bind (.lift _) fun _ => .ok _
  · exact failsAsLine_checkedTruth _
  · exact .ok _
  · exact .ok _
  · apply FailsAsLine.bind (.lift _)
    intro code
    split
    · exact .ok _
    · exact .error rfl
  · exact .error rfl
  · exact .ok _

theorem endsUnless_declaredValue {values : List Text} (given : values ≠ []) (type : Text) :
    EndsUnless (ValueIsEndless bindings type (Text.join [' '] values))
      (declaredValue bindings type values) := by
  simp only [declaredValue, List.isEmpty_eq_false_iff.mpr given, Bool.false_eq_true, if_false]
  cases braced : braced? (Text.join [' '] values) with
  | some expression =>
      simp only [ValueIsEndless, braced]
      exact (endsUnless_expressionValue bindings type expression).causing fun _ => rfl
  | none => exact endsUnless_literalValue bindings braced type

theorem endsUnless_changedValue (type literal : Text) :
    EndsUnless (ValueIsEndless bindings type literal) (changedValue bindings type literal) := by
  rw [changedValue]
  cases braced : braced? literal with
  | some expression =>
      simp only [ValueIsEndless, braced]
      exact endsUnless_shownResult expression _
  | none => exact endsUnless_literalValue bindings braced type

variable (arguments : List Text)

theorem endsUnless_create : EndsUnless (IsEndless bindings .create arguments)
    (create bindings arguments) := by
  apply EndsUnless.after (failsAsLine_declaration bindings arguments)
  rintro ⟨constant, type, name, values⟩
  cases values with
  | nil =>
      refine .of_failsAsLine ?_ fun never => never.1 rfl
      exact FailsAsLine.bind (failsAsLine_default type) fun _ => .ok _
  | cons first rest =>
      have given : first :: rest ≠ [] := List.cons_ne_nil first rest
      exact ((endsUnless_declaredValue bindings given type).bind fun _ => .ok _).congr (by simp)

theorem endsUnless_listen : EndsUnless (IsEndless bindings .listen arguments)
    (listen bindings arguments) := by
  apply EndsUnless.after (failsAsLine_question bindings arguments)
  rintro ⟨name, type, parts⟩
  exact (endsUnless_render bindings parts).bind fun _ => .ok _

theorem endsUnless_change : EndsUnless (IsEndless bindings .change arguments)
    (change bindings arguments) := by
  apply EndsUnless.after (failsAsLine_changeTarget bindings arguments)
  rintro ⟨name, type, literal⟩
  exact (endsUnless_changedValue bindings type literal).bind fun _ => .ok _

theorem endsUnless_unreported (command : Command) :
    EndsUnless (IsEndless bindings command arguments) (unreported command bindings arguments) := by
  cases command with
  | say =>
      cases arguments with
      | nil => exact .of_failsAsLine (.error rfl) fun never => never.1 rfl
      | cons first rest =>
          exact ((endsUnless_render bindings _).bind fun _ => .ok _).congr (by simp [IsEndless])
  | exit =>
      cases arguments with
      | nil => exact .of_failsAsLine (.ok _) fun never => never.1 rfl
      | cons first rest =>
          exact ((endsUnless_render bindings _).bind fun _ => .ok _).congr (by simp [IsEndless])
  | create => exact endsUnless_create bindings arguments
  | listen => exact endsUnless_listen bindings arguments
  | change => exact endsUnless_change bindings arguments
  | branch | loop => exact .of_failsAsLine (.error rfl) id
  | convert => exact .of_failsAsLine (failsAsLine_convertPlan bindings arguments) id
  | random => exact .of_failsAsLine (failsAsLine_random bindings arguments) id
  | round => exact .of_failsAsLine (failsAsLine_round bindings arguments) id
  | delete => exact .of_failsAsLine (failsAsLine_delete bindings arguments) id
  | reset => exact .of_failsAsLine (failsAsLine_reset bindings arguments) id
  | increment | decrement => exact .of_failsAsLine (failsAsLine_step bindings arguments _ _ _) id
  | swap => exact .of_failsAsLine (failsAsLine_swap bindings arguments) id
  | uppercase | lowercase => exact .of_failsAsLine (failsAsLine_recase bindings arguments _ _ _) id
  | reverse => exact .of_failsAsLine (failsAsLine_reverse bindings arguments) id

end Commands

end Plan

/-! ## Lines -/

namespace Line

variable [Evaluator]

def PlanIsEndless (bindings : Bindings) (line : Text) : Prop :=
  match Text.words line with
  | [] => False
  | first :: arguments =>
      ∃ replaced, substituteUnquoted bindings line = .ok replaced ∧
        match Command.ofWord? (Text.lower first) with
        | some command => Plan.IsEndless bindings command arguments
        | none => isCalculation replaced = true ∧ Expression.IsEndless replaced bindings.meaning

theorem endsUnless_calculation (bindings : Bindings) (word replaced : Text) :
    EndsUnless (isCalculation replaced = true ∧ Expression.IsEndless replaced bindings.meaning)
      (calculation bindings word replaced) := by
  rw [calculation]
  split
  · next calculates =>
      refine EndsUnless.congr ?_ (and_iff_right calculates).symm
      exact (endsUnless_shownResult replaced _).bind fun value => .bind (.lift _) fun _ => .ok _
  · next other => exact .of_failsAsLine (.error rfl) fun never => other never.1

theorem endsUnless_plan (bindings : Bindings) (line : Text) :
    EndsUnless (PlanIsEndless bindings line) (plan bindings line) := by
  unfold plan PlanIsEndless
  cases Text.words line with
  | nil => exact .of_failsAsLine (.ok _) id
  | cons first arguments =>
      refine (EndsUnless.after (.lift (substituteUnquoted bindings line)) fun replaced => ?_).congr
        (by simp only [lifted_eq_ok]; rfl)
      cases Command.ofWord? (Text.lower first) with
      | some command => exact (Plan.endsUnless_unreported bindings arguments command).within command
      | none => exact endsUnless_calculation bindings _ replaced

section Executions

variable {World : Type} (host : Host World) (machine : Machine) (world : World)

def errorOf : Outcome → Except Error Unit
  | .failed error => .error error
  | .done | .exited _ => .ok ()

omit [Evaluator] in
theorem errorOf_eq_error {outcome : Outcome} {error : Error} :
    errorOf outcome = .error error ↔ outcome = .failed error := by
  cases outcome <;> simp [errorOf]

def EntryIsEndless (type : DataType) (text : Text) : Prop :=
  type ≠ .truth ∧ InitialIsEndless type.name text

/-- What a line has evaluated has no end: before it is carried out, or when a text is entered. -/
def IsEndless (line : Text) : Prop :=
  (Text.startsWith line commentMark = false ∧ machine.current.inComment = false) ∧
    (PlanIsEndless machine.bindings (code line) ∨
      ∃ name type prompt text,
        plan machine.bindings (code line) = .ok (.listen name type prompt) ∧
        (host.ask prompt (machineAfter line machine) (worldAfter host line machine world)).1 =
          .entered text ∧
        EntryIsEndless type text)

theorem endsUnless_enteredValue (type : DataType) (text : Text) :
    EndsUnless (EntryIsEndless type text) (enteredValue type text) := by
  refine EndsUnless.causing ?_ fun _ => rfl
  split
  · next truth => exact .of_failsAsLine (failsAsLine_checkedTruth text) fun never => never.1 truth
  · next other => exact (endsUnless_initialValue _ text).congr (and_iff_right other).symm

theorem endsUnless_listen (name : Text) (type : DataType) (prompt : Text) :
    EndsUnless
      (∃ text, (host.ask prompt machine world).1 = .entered text ∧ EntryIsEndless type text)
      (errorOf (listen host name type prompt machine world).1) := by
  unfold listen
  rcases host.ask prompt machine world with ⟨reply, given, spent⟩
  cases reply with
  | refused cause => exact .of_failsAsLine (.error rfl) (by simp)
  | exit code => exact .of_failsAsLine (.ok _) (by simp)
  | entered text =>
      have entered := (endsUnless_enteredValue type text).bind fun _ => .ok ()
      refine EndsUnless.congr ?_ (show EntryIsEndless type text ↔ _ by simp)
      simp only
      cases given : enteredValue type text with
      | error cause =>
          rw [given] at entered
          exact entered
      | ok value =>
          rw [given] at entered
          exact entered

omit [Evaluator] in
theorem failsAsLine_draw (lottery : Lottery) (type : Text) {target : Except Error (Option Text)}
    (fails : FailsAsLine target) :
    FailsAsLine (errorOf (draw host lottery type target machine world).1) := by
  unfold draw
  rcases lottery.pick host.draw world with ⟨_ | value, spent⟩
  · exact .error rfl
  · rcases target with cause | _ | name
    · exact .error ((Error.isOfLine_within .random cause).trans (fails cause rfl))
    · simp only
      cases value.written with
      | error fault => exact .error rfl
      | ok text => exact .ok _
    · exact .ok _

theorem endsUnless_perform {line : Text} {action : Action}
    (planned : plan machine.bindings (code line) = .ok action) (next : Machine) :
    EndsUnless (∃ name type prompt text, action = .listen name type prompt ∧
        (host.ask prompt next world).1 = .entered text ∧ EntryIsEndless type text)
      (errorOf (perform host action next world).1) := by
  cases action with
  | listen name type prompt =>
      refine (endsUnless_listen host next world name type prompt).congr ?_
      constructor
      · rintro ⟨text, asked, endless⟩
        exact ⟨name, type, prompt, text, rfl, asked, endless⟩
      · rintro ⟨_, _, _, text, ⟨⟩, asked, endless⟩
        exact ⟨text, asked, endless⟩
  | draw lottery type target =>
      refine .of_failsAsLine (failsAsLine_draw host next world lottery type ?_) (by simp)
      rcases plan_cases planned with ⟨_, _, _, _, rule⟩ | ⟨_, nothing | ⟨_, written⟩⟩
      · cases rule
        exact Plan.failsAsLine_drawTarget _ _
      · cases nothing
      · cases written
  | finish message => cases message <;> exact .of_failsAsLine (.ok _) (by simp)
  | nothing | write | declare | assign | exchange | remove =>
      exact .of_failsAsLine (.ok _) (by simp)

/-- A line fails for a reason of its own, unless what it has evaluated has no end. -/
theorem endsUnless_execute (line : Text) :
    EndsUnless (IsEndless host machine world line)
      (errorOf (execute host line machine world).1) := by
  unfold execute IsEndless
  cases marked : Text.startsWith line commentMark with
  | true => exact .of_failsAsLine (.ok _) (by simp)
  | false =>
      cases inside : machine.current.inComment with
      | true => exact .of_failsAsLine (.ok _) (by simp)
      | false =>
          simp only [Bool.false_eq_true, if_false, and_self, true_and]
          have ended := endsUnless_plan machine.bindings (code line)
          cases planned : plan machine.bindings (code line) with
          | error cause =>
              rw [planned] at ended
              refine EndsUnless.congr ?_
                (show PlanIsEndless machine.bindings (code line) ↔ _ by simp)
              exact (ended.bind fun _ => .ok ())
          | ok action =>
              have never : ¬PlanIsEndless machine.bindings (code line) := by
                rw [← ended.unfinished_iff, planned]
                nofun
              refine
                (endsUnless_perform host machine _ planned (machineAfter line machine)).congr ?_
              rw [or_iff_right never]
              simp

variable {host machine world}

theorem failed_of_execute {line : Text} {error : Error} {after : Machine} {later : World}
    (executed : execute host line machine world = (.failed error, after, later)) :
    error.isOfLine = true ∨ error = .unfinished := by
  apply (endsUnless_execute host machine world line).cause
  rw [executed]
  rfl

theorem isEndless_iff {line : Text} {outcome : Outcome} {after : Machine} {later : World}
    (executed : execute host line machine world = (outcome, after, later)) :
    IsEndless host machine world line ↔ outcome = .failed .unfinished := by
  rw [← (endsUnless_execute host machine world line).unfinished_iff, executed, errorOf_eq_error]

end Executions

end Line

/-! ## Conditions -/

namespace Condition

variable [Evaluator]

def IsEndless (bindings : Bindings) (condition : Text) : Prop :=
  ∃ replaced, substitute bindings condition = .ok replaced ∧
    Expression.IsEndless replaced bindings.meaning

/-- A condition fails as one, or for a value that cannot be written, unless it has no end. -/
theorem holds_error {bindings : Bindings} {condition : Text} {error : Error}
    (failed : holds bindings condition = .error error) :
    (∃ cause, error = .fault cause) ∨ (∃ replaced cause, error = .condition replaced cause) ∨
      error = .unfinished := by
  rcases bind_eq_error.mp failed with failed | ⟨replaced, -, failed⟩
  · left
    cases substituted : substitute bindings condition with
    | ok replaced =>
        rw [substituted] at failed
        cases failed
    | error cause =>
        rw [substituted] at failed
        cases failed
        exact ⟨cause, rfl⟩
  · right
    split at failed
    · cases failed
    · next cause _ =>
        cases failed
        cases cause with
        | unfinished => exact .inr rfl
        | _ => exact .inl ⟨replaced, _, rfl⟩

theorem holds_eq_unfinished_iff (bindings : Bindings) (condition : Text) :
    holds bindings condition = .error .unfinished ↔ IsEndless bindings condition := by
  have shown (replaced : Text) := (endsUnless_shownResult replaced bindings.meaning).unfinished_iff
  unfold holds
  rw [bind_eq_error]
  constructor
  · rintro (failed | ⟨replaced, substituted, failed⟩)
    · cases FailsAsLine.lift _ _ failed
    · refine ⟨replaced, lifted_eq_ok.mp substituted, (shown replaced).mp ?_⟩
      split at failed
      · cases failed
      · next cause came =>
          rw [came]
          cases cause with
          | unfinished => rfl
          | _ => cases failed
  · rintro ⟨replaced, substituted, endless⟩
    refine .inr ⟨replaced, lifted_eq_ok.mpr substituted, ?_⟩
    rw [(shown replaced).mpr endless]
    rfl

end Condition

end Linewise
