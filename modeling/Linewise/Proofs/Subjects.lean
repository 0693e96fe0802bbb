import Linewise.Proofs.Line

/-!
What a line leaves alone. The words of a line say which variables it is about, whatever the machine
holds: all others stay as they are, and what becomes of those few depends on the command. But the
expressions of a line can change the sets and dictionaries of any variable, and while a line waits
for a text, somebody else may change the machine. So a line is measured by the machine that it goes
on with.
-/

namespace Linewise

/-! ## Subjects -/

/-- The names of the variables that a command with these arguments is about: the word after the
type for a declaration, the word after the range for a draw, both words for an exchange, and the
first word for all other changes. -/
def Command.subjects : Command → List Text → List Text
  | .create, first :: rest =>
      ((if Text.lower first = "const".toList then rest.drop 1 else rest).take 1).map Text.lower
  | .listen, _ :: second :: _ =>
      [if Plan.startsWithQuote second then "listened".toList else Text.lower second]
  | .random, arguments => ((arguments.drop 3).take 1).map Text.lower
  | .swap, arguments => (arguments.take 2).map Text.lower
  | .change, arguments | .convert, arguments | .round, arguments | .delete, arguments
  | .reset, arguments | .increment, arguments | .decrement, arguments | .uppercase, arguments
  | .lowercase, arguments | .reverse, arguments => (arguments.take 1).map Text.lower
  | _, _ => []

def Action.declared : Action → List Text
  | .declare name _ | .listen name _ _ | .draw _ _ (.ok (some name)) => [name]
  | _ => []

section Plans

variable [Evaluator] {bindings : Bindings} {command : Command} {arguments : List Text}
  {action : Action}

end Plans

/-! ## What becomes of a variable -/

def Variable.kind (stored : Variable) : Text × Bool := (stored.type, stored.constant)

namespace Line

def subjects (line : Text) : List Text :=
  ((command? line).map fun found => found.1.subjects found.2).getD []

def HasCommand (commands : List Command) (line : Text) : Prop :=
  ∃ command arguments, command? line = some (command, arguments) ∧ command ∈ commands

/-- What a line can have made of a machine, if it leaves alone what it is not about. -/
structure Confined (line : Text) (before after : Machine) : Prop where
  others : ∀ name ∉ subjects line, after.find? name = before.find? name
  removed : ∀ name, before.find? name ≠ none → after.find? name = none →
    HasCommand [.delete] line
  added : ∀ name, before.find? name = none → after.find? name ≠ none →
    HasCommand [.create, .listen, .random] line
  retyped : ∀ name old new, before.find? name = some old → after.find? name = some new →
    new.type ≠ old.type ∨ new.constant ≠ old.constant →
      HasCommand [.create, .listen, .random, .convert] line
  comment : after.current.inComment ≠ before.current.inComment ↔
    Text.startsWith line commentMark = true
  enclosing : after.enclosing = before.enclosing

namespace Confined

variable {line : Text} {machine : Machine}

theorem refl (unmarked : Text.startsWith line commentMark = false) (machine : Machine) :
    Confined line machine machine where
  others _ _ := rfl
  removed _ known unknown := absurd unknown known
  added _ unknown known := absurd unknown known
  retyped name old new before after := by
    cases before.symm.trans after
    rintro (changed | changed) <;> exact absurd rfl changed
  comment := by simp [unmarked]
  enclosing := rfl

theorem toggle (marked : Text.startsWith line commentMark = true) (machine : Machine) :
    Confined line machine machine.toggleComment where
  others _ _ := rfl
  removed _ known unknown := absurd unknown known
  added _ unknown known := absurd unknown known
  retyped name old new before after := by
    cases before.symm.trans after
    rintro (changed | changed) <;> exact absurd rfl changed
  comment := by simp [marked, Machine.toggleComment]
  enclosing := rfl

end Confined

variable {World : Type}

end Line

/-! ## Lines that wait -/

section Waiting

variable [Evaluator] {World : Type}

/-- The machine that an action is carried out on: the one that is given back, if somebody is asked
for a text. -/
def Action.resumed (host : Host World) (machine : Machine) (world : World) : Action → Machine
  | .listen _ _ prompt => (host.ask prompt machine world).2.1
  | _ => machine

def Line.resumed (host : Host World) (line : Text) (machine : Machine) (world : World) : Machine :=
  if Text.startsWith line commentMark || machine.current.inComment then machine
  else
    match plan machine.bindings (code line) with
    | .ok action =>
        action.resumed host (machineAfter line machine) (worldAfter host line machine world)
    | .error _ => machineAfter line machine

def Host.answered (host : Host World) (machine : Machine) (world : World) : Host World :=
  { host with
    ask := fun prompt given _ =>
      ((host.ask prompt machine world).1, given, (host.ask prompt machine world).2.2) }

omit [Evaluator] in
theorem Host.answered_keepsMachine (host : Host World) (machine : Machine) (world : World) :
    (host.answered machine world).KeepsMachine := fun _ _ _ => rfl

theorem Line.perform_eq_answered (host : Host World) (action : Action) (machine : Machine)
    (world : World) :
    perform host action machine world =
      perform (host.answered machine world) action (action.resumed host machine world) world := by
  cases action with
  | finish message => cases message <;> rfl
  | _ => rfl

omit [Evaluator] in
theorem Action.resumed_eq {host : Host World} {machine : Machine} {world : World}
    (keeps : ∀ prompt, (host.ask prompt machine world).2.1 = machine) (action : Action) :
    action.resumed host machine world = machine := by
  cases action with
  | listen name type prompt => exact keeps prompt
  | _ => rfl

theorem Planned.resumed_eq {bindings : Bindings} {command : Command} {arguments : List Text}
    {action : Action} (planned : Planned bindings command arguments action)
    (silent : command ≠ .listen) (host : Host World) (machine : Machine) (world : World) :
    action.resumed host machine world = machine := by
  cases planned with
  | listen => exact absurd rfl silent
  | _ => rfl

namespace Line

variable (host : Host World) (line : Text) (machine : Machine) (world : World)

/-- What the execution of a line comes down to, whoever is asked: the comment mark is heeded, or the
plan is carried out on the machine that the line goes on with, or that machine stays as it is. -/
theorem execute_resumed :
    (Text.startsWith line commentMark = true ∧ resumed host line machine world = machine ∧
      (execute host line machine world).2.1 = machine.toggleComment) ∨
    (Text.startsWith line commentMark = false ∧ ∃ action,
      plan machine.bindings (code line) = .ok action ∧
      resumed host line machine world =
        action.resumed host (machineAfter line machine) (worldAfter host line machine world) ∧
      Performed action (resumed host line machine world) (execute host line machine world).2.1) ∨
    (Text.startsWith line commentMark = false ∧
      (execute host line machine world).2.1 = resumed host line machine world ∧
      (machine.current.inComment = false → (execute host line machine world).1 ≠ .done)) := by
  unfold execute resumed
  cases marked : Text.startsWith line commentMark with
  | true => exact .inl ⟨rfl, rfl, rfl⟩
  | false =>
      cases inside : machine.current.inComment with
      | true => exact .inr (.inr ⟨rfl, rfl, fun outside => by cases outside⟩)
      | false =>
          simp only [Bool.or_self, Bool.false_eq_true, if_false, carryOut]
          cases planned : plan machine.bindings (code line) with
          | error error => exact .inr (.inr ⟨trivial, rfl, fun _ done => by cases done⟩)
          | ok action =>
              simp only
              rw [perform_eq_answered]
              rcases perform_cases (host.answered_keepsMachine _ _) rfl with
                ⟨_, performed⟩ | ⟨ended, same⟩
              · exact .inr (.inl ⟨trivial, action, rfl, rfl, performed⟩)
              · exact .inr (.inr ⟨trivial, same, fun _ => ended⟩)

omit [Evaluator] in
theorem command?_of_commentMark {line : Text} (marked : Text.startsWith line commentMark = true) :
    command? line = none := by
  obtain ⟨rest, rfl⟩ := List.isPrefixOf_iff_prefix.mp marked
  rfl

/-- A line that is done has carried out its command on the machine that it goes on with. -/
theorem performed_of_done {command : Command} {arguments : List Text}
    (known : command? line = some (command, arguments))
    (outside : machine.current.inComment = false)
    (done : (execute host line machine world).1 = .done) :
    ∃ action, Planned machine.bindings command arguments action ∧
      Performed action (resumed host line machine world) (execute host line machine world).2.1 := by
  rcases execute_resumed host line machine world with ⟨marked, _⟩ |
    ⟨_, action, planned, _, performed⟩ | ⟨_, _, ended⟩
  · rw [command?_of_commentMark marked] at known
    cases known
  · rcases plan_cases planned with ⟨found, words, same, _, byCommand⟩ | ⟨none, _⟩
    · cases known.symm.trans same
      exact ⟨action, byCommand, performed⟩
    · rw [known] at none
      cases none
  · exact absurd done (ended outside)

variable {line machine} in
/-- A line that is done and does not ask goes on with what its expressions leave of the machine. -/
theorem resumed_eq_machineAfter {command : Command} {arguments : List Text}
    (known : command? line = some (command, arguments)) (silent : command ≠ .listen)
    (outside : machine.current.inComment = false)
    (done : (execute host line machine world).1 = .done) :
    resumed host line machine world = machineAfter line machine := by
  rcases execute_resumed host line machine world with ⟨marked, _⟩ |
    ⟨_, action, planned, same, _⟩ | ⟨_, _, ended⟩
  · rw [command?_of_commentMark marked] at known
    cases known
  · rcases plan_cases planned with ⟨found, words, other, _, byCommand⟩ | ⟨none, _⟩
    · cases known.symm.trans other
      rw [same, byCommand.resumed_eq silent]
    · rw [known] at none
      cases none
  · exact absurd done (ended outside)

end Line

end Waiting

end Linewise
