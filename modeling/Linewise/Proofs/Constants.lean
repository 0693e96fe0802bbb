import Linewise.Proofs.Course
import Linewise.Proofs.Line

/-!
Constants. The commands that declare a variable or give it a value that the line says refuse to do
so with a constant. The commands that remove a variable, or work out its new value from the old one,
do not ask, and neither does an expression that changes a set or a dictionary; here it is shown that
these alone can change a constant, and when they do.
-/

namespace Linewise

/-! ## Commands that do not ask -/

/-- The commands that change a variable without asking whether it is a constant. -/
def Command.unguarded : List Command :=
  [.delete, .reset, .increment, .decrement, .swap, .uppercase, .lowercase, .reverse]

def Command.replacement? [Evaluator] (stored : Variable) : Command → Option Value
  | .reset => (initialValue stored.type none).toOption
  | .increment =>
      if stored.isNumeric then
        (BinaryOperator.add.applyAs "+=".toList stored.value (.integer 1)).toOption
      else none
  | .decrement =>
      if stored.isNumeric then
        (BinaryOperator.subtract.applyAs "-=".toList stored.value (.integer 1)).toOption
      else none
  | .uppercase =>
      match stored.hasType .character || stored.hasType .text, stored.value with
      | true, .text content => some (.text (Text.upper content))
      | _, _ => none
  | .lowercase =>
      match stored.hasType .character || stored.hasType .text, stored.value with
      | true, .text content => some (.text (Text.lower content))
      | _, _ => none
  | .reverse =>
      match stored.hasType .text, stored.value with
      | true, .text content => some (.text content.reverse)
      | true, .tuple items => some (.tuple items.reverse)
      | _, _ => none
  | _ => none

/-- A command with these arguments removes the variable or gives it another value. -/
inductive Overwrites [Evaluator] (machine : Machine) (name : Text) (stored : Variable) :
    Command → List Text → Prop
  | delete {argument : Text} (named : Text.lower argument = name) :
      Overwrites machine name stored .delete [argument]
  | replace {command : Command} {argument : Text} {value : Value}
      (named : Text.lower argument = name)
      (replaced : command.replacement? stored = some value)
      (different : machine.keep value ≠ stored.value) :
      Overwrites machine name stored command [argument]
  | swapLeft {left right : Text} {other : Variable} (named : Text.lower left = name)
      (bound : machine.find? (Text.lower right) = some other) (alike : stored.type = other.type)
      (different : other.value ≠ stored.value) :
      Overwrites machine name stored .swap [left, right]
  | swapRight {left right : Text} {other : Variable} (named : Text.lower right = name)
      (bound : machine.find? (Text.lower left) = some other) (alike : other.type = stored.type)
      (different : other.value ≠ stored.value) :
      Overwrites machine name stored .swap [left, right]

section Plans

variable [Evaluator] {bindings : Bindings} {name : Text} {stored : Variable} {command : Command}
  {arguments : List Text} {action : Action}

omit [Evaluator] in
private theorem isConstant_drawTarget {other : Text}
    (target : Plan.drawTarget bindings arguments = .ok (some other)) :
    Plan.isConstant bindings other = false := by
  rcases Plan.drawTarget_cases target with ⟨_, none⟩ | ⟨word, _, some, _, changeable⟩
  · cases none
  · cases some
    exact changeable

theorem Planned.notMem_names (planned : Planned bindings command arguments action)
    (bound : bindings name = some stored) (constant : stored.constant = true)
    (guarded : command ∉ Command.unguarded) : name ∉ action.names := by
  have differs : ∀ {other : Text}, Plan.isConstant bindings other = false → name ≠ other := by
    rintro other changeable rfl
    simp [Plan.isConstant, bound, constant] at changeable
  have storedDiffers : ∀ {other : Text} {otherStored : Variable},
      bindings other = some otherStored → otherStored.constant = false → name ≠ other := by
    rintro other otherStored otherBound changeable rfl
    rw [bound] at otherBound
    cases otherBound
    rw [constant] at changeable
    cases changeable
  cases planned with
  | say | exit | exitWith => exact List.not_mem_nil
  | create _ _ changeable _ => exact mt List.mem_singleton.mp (differs changeable)
  | listen _ _ changeable _ => exact mt List.mem_singleton.mp (differs changeable)
  | change otherBound changeable _ =>
      exact mt List.mem_singleton.mp (storedDiffers otherBound changeable)
  | convert otherBound changeable _ _ =>
      exact mt List.mem_singleton.mp (storedDiffers otherBound changeable)
  | round otherBound changeable _ _ _ _ =>
      exact mt List.mem_singleton.mp (storedDiffers otherBound changeable)
  | @random _ _ _ rest =>
      cases target : Plan.drawTarget bindings rest with
      | error error => exact List.not_mem_nil
      | ok drawn =>
          cases drawn with
          | none => exact List.not_mem_nil
          | some other => exact mt List.mem_singleton.mp (differs (isConstant_drawTarget target))
  | delete | reset | increment | decrement | swap | uppercase | lowercase | reverseText
  | reverseTuple => exact absurd (by decide) guarded

theorem Planned.unguarded_cases (planned : Planned bindings command arguments action)
    (unguarded : command ∈ Command.unguarded) :
    (∃ argument, command = .delete ∧ arguments = [argument] ∧
      action = .remove (Text.lower argument)) ∨
    (∃ argument value, arguments = [argument] ∧ action = .assign (Text.lower argument) value) ∨
    (∃ left right first second, command = .swap ∧ arguments = [left, right] ∧
      bindings (Text.lower left) = some first ∧ bindings (Text.lower right) = some second ∧
      first.type = second.type ∧
      action = .exchange (Text.lower left) (Text.lower right) first.value second.value) := by
  cases planned with
  | delete => exact .inl ⟨_, rfl, rfl, rfl⟩
  | reset | increment | decrement | uppercase | lowercase | reverseText | reverseTuple =>
      exact .inr (.inl ⟨_, _, rfl, rfl⟩)
  | swap leftBound rightBound alike =>
      exact .inr (.inr ⟨_, _, _, _, rfl, rfl, leftBound, rightBound, alike, rfl⟩)
  | say | exit | exitWith | create | listen | change | convert | round | random =>
      exact absurd unguarded (by decide)

theorem Command.unguarded_of_replacement? {value : Value}
    (replaced : command.replacement? stored = some value) : command ∈ Command.unguarded := by
  cases command with
  | reset | increment | decrement | uppercase | lowercase | reverse => decide
  | _ => cases replaced

section Replacements

variable {argument : Text} {value : Value}
  (bound : bindings (Text.lower argument) = some stored)

include bound

theorem Command.planned_of_replacement? (replaced : command.replacement? stored = some value) :
    Planned bindings command [argument] (.assign (Text.lower argument) value) := by
  have ok : ∀ {ε : Type} {result : Except ε Value}, result.toOption = some value →
      result = .ok value := by
    intro ε result present
    cases result with
    | error => cases present
    | ok => cases present; rfl
  cases command with
  | reset => exact .reset bound (ok replaced)
  | increment =>
      rw [Command.replacement?, Option.ite_none_right_eq_some] at replaced
      exact .increment bound replaced.1 (ok replaced.2)
  | decrement =>
      rw [Command.replacement?, Option.ite_none_right_eq_some] at replaced
      exact .decrement bound replaced.1 (ok replaced.2)
  | uppercase =>
      simp only [Command.replacement?] at replaced
      split at replaced
      · next typed written =>
          cases replaced
          exact .uppercase bound typed written
      · cases replaced
  | lowercase =>
      simp only [Command.replacement?] at replaced
      split at replaced
      · next typed written =>
          cases replaced
          exact .lowercase bound typed written
      · cases replaced
  | reverse =>
      simp only [Command.replacement?] at replaced
      split at replaced
      · next typed written =>
          cases replaced
          exact .reverseText bound typed written
      · next typed listed =>
          cases replaced
          exact .reverseTuple bound typed listed
      · cases replaced
  | branch | loop | say | delete | exit | swap | round | random | create | listen | change
  | convert => cases replaced

end Replacements

theorem Plan.effects_of_unguarded (unguarded : command ∈ Command.unguarded) :
    Plan.effects command bindings arguments = .none := by
  cases command with
  | say | exit | create | listen | change => exact absurd unguarded (by decide)
  | _ => rfl

end Plans

/-! ## Constants in a line -/

section Evaluated

variable [Evaluator]

namespace Line

variable {machine : Machine} {name : Text} {stored : Variable}

/-- The line is carried out, and its command removes the variable or gives it another value. -/
def Overwrites (machine : Machine) (name : Text) (stored : Variable) (line : Text) : Prop :=
  Text.startsWith line commentMark = false ∧ machine.current.inComment = false ∧
    (∃ replaced, substituteUnquoted machine.bindings (code line) = .ok replaced) ∧
    ∃ command arguments, command? line = some (command, arguments) ∧
      Linewise.Overwrites machine name stored command arguments

theorem machineAfter_of_unguarded {line : Text} {command : Command} {arguments : List Text}
    (known : command? line = some (command, arguments)) (unguarded : command ∈ Command.unguarded) :
    machineAfter line machine = machine := by
  have untouched : effects machine.bindings (code line) = .none := by
    unfold command? at known
    unfold effects
    split
    · next words _ =>
        simp only [words] at known
        obtain ⟨found, word, pair⟩ := Option.map_eq_some_iff.mp known
        cases pair
        simp only [word]
        exact Plan.effects_of_unguarded unguarded
    · rfl
  rw [machineAfter, untouched]
  rfl

theorem changed_of_overwrites {command : Command} {arguments : List Text}
    (bound : machine.find? name = some stored)
    (overwrites : Linewise.Overwrites machine name stored command arguments) :
    command ∈ Command.unguarded ∧
      ∃ action after, Planned machine.bindings command arguments action ∧
        (∀ console, perform Console.host action machine console = (.done, after, console)) ∧
        (after.find? name).map Variable.value ≠ some stored.value := by
  cases overwrites with
  | delete named =>
      subst named
      refine ⟨by decide, _, _, .delete bound, fun _ => rfl, ?_⟩
      simp [Machine.find?_remove]
  | replace named replaced different =>
      subst named
      refine ⟨Command.unguarded_of_replacement? replaced, _, _,
        Command.planned_of_replacement? bound replaced, fun _ => rfl, ?_⟩
      simpa [Machine.find?_assign, bound] using different
  | @swapLeft left right _ named otherBound alike different =>
      subst named
      refine ⟨by decide, _, _, .swap bound otherBound alike, fun _ => rfl, ?_⟩
      have apart : Text.lower right ≠ Text.lower left := by
        intro same
        rw [same] at otherBound
        exact different (congrArg Variable.value (Option.some.inj (otherBound.symm.trans bound)))
      simpa [Machine.find?_assign, apart, bound] using different
  | swapRight named otherBound alike different =>
      subst named
      refine ⟨by decide, _, _, .swap otherBound bound alike, fun _ => rfl, ?_⟩
      simpa [Machine.find?_assign, bound] using different

theorem Overwrites.changed {line : Text} (overwrites : Overwrites machine name stored line)
    (bound : machine.find? name = some stored) (console : Console) :
    ((execute Console.host line machine console).2.1.find? name).map Variable.value ≠
      some stored.value := by
  obtain ⟨unmarked, outside, ⟨replaced, substituted⟩, command, arguments, known, overwrites⟩ :=
    overwrites
  obtain ⟨unguarded, action, after, planned, performed, changed⟩ :=
    changed_of_overwrites bound overwrites
  have plan := plan_of_planned substituted known planned
  simp only [execute, unmarked, outside, plan, carryOut, machineAfter_of_unguarded known unguarded,
    performed]
  exact changed

end Line

end Evaluated

/-! ## Constants in a run -/

theorem Line.code_code (line : Text) : Line.code (Line.code line) = Line.code line := by
  have noComment : '#' ∉ Line.code line := by
    intro member
    have inside := List.mem_takeWhile_imp (Text.mem_of_mem_strip member)
    simp at inside
  rw [Line.code, Text.before_eq_self noComment, Line.code, Text.strip_strip]

namespace Machine

/-- In all frames the name refers to the same variable, which is as it was outside of sets and
dictionaries. -/
structure Shared (name : Text) (number : Nat) (stored : Variable) (machine : Machine) : Prop where
  history : Variable.KeptOutside (some stored) (machine.history name)[number]?
  current : machine.current.references.find? name = some number
  enclosing : ∀ frame ∈ machine.enclosing, frame.references.find? name = some number

namespace Shared

variable {name : Text} {number : Nat} {stored : Variable} {machine : Machine}
  (shared : Shared name number stored machine)

include shared

theorem find? : Variable.KeptOutside (some stored) (machine.find? name) := by
  rw [find?_eq, shared.current, Option.bind_some]
  exact shared.history

theorem sameAt {after : Machine} (same : machine.SameAt name after)
    (block : machine.SameBlock after) : Shared name number stored after where
  history := by
    rw [same.history]
    exact shared.history
  current := by rw [same.reference, shared.current]
  enclosing := by
    rw [block.enclosing]
    exact shared.enclosing

theorem revised (revision : Revision) : Shared name number stored (machine.revised revision) where
  history := by
    rw [history_revised, Array.getElem?_map]
    exact shared.history.trans (.revised revision _)
  current := by rw [current_revised, shared.current]
  enclosing := by
    rw [enclosing_revised]
    exact shared.enclosing

theorem enter : Shared name number stored machine.enter where
  history := shared.history
  current := shared.current
  enclosing := List.forall_mem_cons.mpr ⟨shared.current, shared.enclosing⟩

theorem leave : Shared name number stored machine.leave := by
  obtain ⟨history, current, enclosing⟩ := shared
  unfold Machine.leave
  cases frames : machine.enclosing with
  | nil => exact ⟨history, current, enclosing⟩
  | cons outer rest =>
      rw [frames] at enclosing
      refine ⟨history, ?_, fun frame member => enclosing frame (List.mem_cons_of_mem outer member)⟩
      exact (Table.find?_update _ _ _).trans (by rw [current]; rfl)

theorem outermost : Shared name number stored machine.outermost := by
  refine ⟨shared.history, ?_, nofun⟩
  unfold Machine.outermost
  cases last : machine.enclosing.getLast? with
  | none => exact shared.current
  | some frame => exact shared.enclosing frame (List.mem_of_getLast? last)

end Shared

end Machine

section Evaluated

variable [Evaluator]

end Evaluated

def Variable.five : Variable := ⟨"INT".toList, .integer 5, true⟩

def Machine.withFive : Machine := .ofVariables [("k".toList, .five)]

end Linewise
