import Linewise.Proofs.Structure

/-!
A branch that is taken does what its block does when it is written in its place and begins with what
the condition leaves behind. A block starts with the references of its surroundings and hands its
own back, so all that can tell the two apart is a name that the block lets refer to nothing: its
surroundings keep it.
-/

namespace Linewise

/-! ## Further frames -/

namespace Machine

def within (machine : Machine) (frames : List Frame) : Machine :=
  { machine with enclosing := machine.enclosing ++ frames }

variable (machine : Machine) (frames : List Frame)

theorem assign_within (name : Text) (value : Value) :
    (machine.within frames).assign name value = (machine.assign name value).within frames := by
  unfold assign
  rw [show (machine.within frames).current = machine.current from rfl]
  cases machine.current.references.find? name with
  | none => rfl
  | some number => rfl

theorem revised_within (revision : Revision) :
    (machine.within frames).revised revision = (machine.revised revision).within frames := by
  cases revision <;> rfl

variable {machine}

theorem leave_within (entered : machine.enclosing ≠ []) :
    (machine.within frames).leave = machine.leave.within frames := by
  cases surroundings : machine.enclosing with
  | nil => exact absurd surroundings entered
  | cons outer rest => simp only [leave, within, surroundings, List.cons_append]

theorem enter_eq_within (alone : machine.enclosing = [])
    (outside : machine.current.inComment = false) :
    machine.enter = machine.within [machine.current] := by
  obtain ⟨declared, ⟨references, inComment⟩, enclosing⟩ := machine
  cases alone
  cases outside
  rfl

end Machine

/-- Whoever is asked for a text does not look at the machine. -/
def Host.IgnoresMachine {World : Type} (host : Host World) : Prop :=
  ∀ prompt machine other world, host.ask prompt other world =
    ((host.ask prompt machine world).1, other, (host.ask prompt machine world).2.2)

theorem Console.host_ignoresMachine : Console.host.IgnoresMachine := fun _ _ _ _ => rfl

theorem Host.IgnoresMachine.keepsMachine {World : Type} {host : Host World}
    (ignores : host.IgnoresMachine) : host.KeepsMachine := by
  intro prompt machine world
  rw [ignores prompt machine machine world]

namespace Tree

variable [Evaluator] {World : Type} {host : Host World}

/-- Further frames around the machine stay around it, and change nothing else. -/
def Framed (execution : Machine → World → Outcome × Machine × World) : Prop :=
  ∀ frames machine world, execution (machine.within frames) world =
    ((execution machine world).1, (execution machine world).2.1.within frames,
      (execution machine world).2.2)

theorem framed_listen (ignores : host.IgnoresMachine) (name prompt : Text) (type : DataType) :
    Framed (Line.listen host name type prompt) := by
  intro frames machine world
  unfold Line.listen
  rw [ignores prompt machine (machine.within frames) world]
  have kept := ignores.keepsMachine prompt machine world
  generalize host.ask prompt machine world = asked at kept
  obtain ⟨reply, given, spent⟩ := asked
  cases kept
  cases reply with
  | refused cause => rfl
  | exit code => rfl
  | entered text =>
      simp only
      cases Line.enteredValue type text with
      | error error => rfl
      | ok value => rfl

omit [Evaluator] in
theorem framed_draw (lottery : Lottery) (type : Text) (target : Except Error (Option Text)) :
    Framed (Line.draw host lottery type target) := by
  intro frames machine world
  unfold Line.draw
  generalize lottery.pick host.draw world = picked
  obtain ⟨drawn, spent⟩ := picked
  cases drawn with
  | error cause => rfl
  | ok value =>
      cases target with
      | error error => rfl
      | ok name =>
          cases name with
          | some name => rfl
          | none =>
              simp only
              cases value.written with
              | error cause => rfl
              | ok text => rfl

theorem framed_perform (ignores : host.IgnoresMachine) (action : Action) :
    Framed (Line.perform host action) := by
  cases action with
  | assign name value =>
      intro frames machine world
      simp only [Line.perform, Machine.assign_within]
      rfl
  | exchange left right leftValue rightValue =>
      intro frames machine world
      simp only [Line.perform, Machine.assign_within]
  | listen name type prompt => exact framed_listen ignores name prompt type
  | draw lottery type target => exact framed_draw lottery type target
  | finish message => cases message <;> exact fun _ _ _ => rfl
  | nothing | write texts | declare name stored | remove name => exact fun _ _ _ => rfl

theorem framed_line (ignores : host.IgnoresMachine) (line : Text) :
    Framed (Line.execute host line) := by
  intro frames machine world
  have sameBindings : (machine.within frames).bindings = machine.bindings := rfl
  have sameComment : (machine.within frames).current = machine.current := rfl
  unfold Line.execute Line.machineAfter Line.worldAfter
  rw [sameBindings, sameComment, Machine.revised_within]
  split
  · rfl
  · split
    · rfl
    · unfold Line.carryOut
      split
      · exact framed_perform ignores _ frames _ _
      · rfl

omit [Evaluator] in
theorem framed_idle : Framed (@idle World) := fun _ _ _ => rfl

namespace Framed

variable {first next : Machine → World → Outcome × Machine × World} (framed : Framed first)

include framed

omit [Evaluator] in
theorem andThen (nextFramed : Framed next) :
    Framed fun machine world => andThen (first machine world) next := by
  intro frames machine world
  simp only
  rw [framed frames machine world]
  generalize first machine world = result
  obtain ⟨outcome, between, spent⟩ := result
  cases outcome with
  | done => exact nextFramed frames between spent
  | failed error => rfl
  | exited code => rfl

theorem chosen (nextFramed : Framed next) (condition : Text) :
    Framed (chosen host condition first next) := by
  intro frames machine world
  unfold Tree.chosen Program.machineAfter Program.worldAfter
  rw [show (machine.within frames).bindings = machine.bindings from rfl, Machine.revised_within]
  cases Condition.holds machine.bindings condition with
  | error error => rfl
  | ok truth =>
      cases truth with
      | true => exact framed frames _ _
      | false => exact nextFramed frames _ _

omit [Evaluator] in
theorem inBlock (stays : Stays first) : Framed (inBlock first) := by
  intro frames machine world
  unfold Tree.inBlock
  have inside := stays machine.enter world
  rw [show (machine.within frames).enter = machine.enter.within frames from rfl,
    framed frames machine.enter world]
  generalize first machine.enter world = result at inside
  obtain ⟨outcome, after, spent⟩ := result
  cases outcome with
  | done =>
      have entered : after.enclosing ≠ [] := by
        rw [(inside rfl).enclosing]
        exact List.cons_ne_nil _ _
      simp only [Machine.leave_within frames entered]
  | failed error => rfl
  | exited code => rfl

theorem repeated (stays : Stays first) (condition : Text) (remaining : Nat) :
    Framed (repeated host condition first remaining) := by
  induction remaining with
  | zero =>
      have limited : Framed fun machine (world : World) =>
          (Outcome.failed (.loopLimit Program.iterationLimit), machine, world) := fun _ _ _ => rfl
      exact limited.chosen framed_idle condition
  | succ remaining induction =>
      exact ((framed.inBlock stays).andThen induction).chosen framed_idle condition

end Framed

theorem execute_framed (ignores : host.IgnoresMachine) (tree : Tree) :
    Framed (tree.execute host) := by
  have stays := execute_stays ignores.keepsMachine
  induction tree with
  | done => exact framed_idle
  | line simple next induction => exact (framed_line ignores simple.text).andThen induction
  | branch condition consequence next inside after =>
      exact ((inside.inBlock (stays _)).chosen framed_idle _).andThen after
  | choice condition consequence alternative next inside otherwise after =>
      exact ((inside.inBlock (stays _)).chosen (otherwise.inBlock (stays _)) _).andThen after
  | loop condition body next inside after =>
      exact (inside.repeated (stays _) _ _).andThen after

end Tree

/-! ## Names that stay -/

/-- The machine is in the same block, and all names that referred to something still do, in their
places. -/
structure Machine.Extends (before after : Machine) : Prop extends SameBlock before after where
  names : before.current.references.names <+: after.current.references.names

namespace Machine.Extends

theorem passage : Passage Extends where
  refl machine := ⟨.refl machine, List.prefix_rfl⟩
  revised machine revision :=
    ⟨.revised machine revision, by simp only [current_revised, List.prefix_rfl]⟩
  trans before after := ⟨before.toSameBlock.trans after.toSameBlock, before.names.trans after.names⟩
  leave := by
    intro machine inside entered
    refine ⟨entered.toSameBlock.leave, ?_⟩
    have surroundings : inside.enclosing = machine.current :: machine.enclosing :=
      entered.enclosing
    simp only [Machine.leave, surroundings]
    exact Table.names_prefix_update _ _

theorem declare (machine : Machine) (name : Text) (stored : Variable) :
    machine.Extends (machine.declare name stored) :=
  ⟨⟨rfl, rfl⟩, Table.names_prefix_insert _ _ _⟩

theorem assign (machine : Machine) (name : Text) (value : Value) :
    machine.Extends (machine.assign name value) where
  toSameBlock := .assign machine name value
  names := by
    have same := current_assign machine name value
    exact same ▸ List.prefix_rfl

/-- A block in which no name was let go is left with all that it refers to. -/
theorem leave_within {machine after : Machine} (extended : machine.Extends after)
    (alone : machine.enclosing = []) :
    (after.within [machine.current]).leave = after := by
  obtain ⟨⟨enclosing, inComment⟩, names⟩ := extended
  have updated := Table.update_eq_of_prefix names
  rw [alone] at enclosing
  simp only [leave, within, enclosing, List.nil_append, updated, ← inComment]
  obtain ⟨declared, ⟨references, inComment⟩, frames⟩ := after
  cases enclosing
  rfl

end Machine.Extends

def Line.Deletes (line : Text) : Prop := (Line.command? line).map Prod.fst = some .delete

instance (line : Text) : Decidable (Line.Deletes line) := inferInstanceAs (Decidable (_ = _))

theorem Line.Performed.extends_machine [Evaluator] {action : Action} {machine after : Machine}
    (performed : Line.Performed action machine after) (keeps : ∀ name, action ≠ .remove name) :
    machine.Extends after := by
  cases performed with
  | nothing | write | drawAndWrite => exact Machine.Extends.passage.refl machine
  | declare | listen | drawAndDeclare => exact .declare machine _ _
  | assign => exact .assign machine _ _
  | exchange =>
      exact Machine.Extends.passage.trans (.assign machine _ _) (.assign _ _ _)
  | remove => exact absurd rfl (keeps _)

theorem Line.Executed.extends_machine [Evaluator] {line : Text} {machine after : Machine}
    {outcome : Outcome}
    (executed : Line.Executed line machine outcome after) (noComment : '#' ∉ line)
    (keeps : ¬Line.Deletes line) : machine.Extends after := by
  have tested : machine.Extends (Line.machineAfter line machine) :=
    Machine.Extends.passage.revised machine _
  cases executed with
  | marked mark =>
      rw [Line.startsWith_commentMark noComment] at mark
      cases mark
  | skipped => exact Machine.Extends.passage.refl machine
  | ended => exact tested
  | performed _ _ planned performed =>
      refine Machine.Extends.passage.trans tested (performed.extends_machine ?_)
      rintro name rfl
      rcases Line.plan_cases planned with ⟨command, arguments, known, _, byCommand⟩ | ⟨_, other⟩
      · cases byCommand with
        | delete bound => exact keeps (by rw [Line.Deletes, known]; rfl)
      · rcases other with other | ⟨texts, other⟩ <;> cases other

/-! ## Branches that are taken -/

namespace Tree

section Evaluated

variable [Evaluator] {World : Type} {host : Host World}

theorem execute_extends (keepsMachine : host.KeepsMachine) (tree : Tree)
    (keeps : ∀ simple ∈ tree.simpleLines, ¬Line.Deletes simple.text) :
    Leads Machine.Extends (tree.execute host) := by
  apply execute_leads Machine.Extends.passage
  intro simple member machine world _
  exact (Line.execute_cases keepsMachine rfl).extends_machine simple.noComment (keeps simple member)

/-- A block outside of any other ends as if there were no block. -/
theorem inBlock_execute (ignores : host.IgnoresMachine) (tree : Tree)
    (keeps : ∀ simple ∈ tree.simpleLines, ¬Line.Deletes simple.text) {machine : Machine}
    (world : World) (alone : machine.enclosing = [])
    (outside : machine.current.inComment = false) :
    ∃ left, inBlock (tree.execute host) machine world =
        ((tree.execute host machine world).1, left, (tree.execute host machine world).2.2) ∧
      ((tree.execute host machine world).1 = .done →
        left = (tree.execute host machine world).2.1) := by
  have extended := execute_extends ignores.keepsMachine tree keeps machine world
  unfold inBlock
  rw [Machine.enter_eq_within alone outside, execute_framed ignores tree]
  generalize tree.execute host machine world = result at extended
  obtain ⟨outcome, after, later⟩ := result
  cases outcome with
  | done => exact ⟨_, rfl, fun _ => (extended rfl).leave_within alone⟩
  | failed error => exact ⟨_, rfl, nofun⟩
  | exited code => exact ⟨_, rfl, nofun⟩

omit [Evaluator] in
theorem andThen_idle (result : Outcome × Machine × World) : andThen result idle = result := by
  obtain ⟨outcome, machine, world⟩ := result
  cases outcome <;> rfl

omit [Evaluator] in
theorem concluded_console (number : Nat) (outcome : Outcome) (machine : Machine)
    (console : Console) :
    let later := (concluded Console.host number (outcome, machine, console)).2.2
    later.output = console.output ∧ later.input = console.input ∧ later.draws = console.draws := by
  cases outcome with
  | done | exited code => exact ⟨rfl, rfl, rfl⟩
  | failed error => cases error <;> exact ⟨rfl, rfl, rfl⟩

omit [Evaluator] in
theorem concluded_eq_returned {number : Nat} {outcome : Outcome} {machine : Machine} {world : World}
    (returned : (concluded host number (outcome, machine, world)).1 = .returned) :
    outcome = .done := by
  cases outcome with
  | done => rfl
  | exited code => cases returned
  | failed error => exact absurd returned (Program.fail_ne_returned host _ error _ world)

omit [Evaluator] in
theorem concluded_fst (number other : Nat) (outcome : Outcome) (machine between : Machine)
    (world later : World) :
    (concluded host number (outcome, machine, world)).1 =
      (concluded host other (outcome, between, later)).1 := by
  cases outcome with
  | done | exited code => rfl
  | failed error => cases error <;> rfl

/-- A program that is a branch, with a condition that holds, does what its block does as a program
that begins with what the condition leaves behind, if no line of the block deletes a variable: it
ends in the same way, writes the same, takes the same from the input and from the draws, and leaves
the same variables if it comes to its end. A condition that leaves nothing behind makes no
difference to where the block begins. -/
theorem run_branch_eq_run {tree : Tree} {condition : ConditionWords}
    (keeps : ∀ simple ∈ tree.simpleLines, ¬Line.Deletes simple.text) {source inline : Text}
    (branched : Renders (.branch condition tree .done) (Text.lines source))
    (rendered : Renders tree (Text.lines inline)) {entries : List (Text × Variable)}
    (holds : Condition.holds (Machine.ofVariables entries).bindings condition.text = .ok true)
    (input : Text) (draws : List Nat) :
    let machine := Machine.ofVariables entries
    let console := Console.start input draws
    let taken := Program.run Console.host source machine console
    let plain := Program.run Console.host inline (Program.machineAfter condition.text machine)
      (Program.worldAfter Console.host condition.text machine console)
    (taken.1 = plain.1 ∧ taken.2.2.output = plain.2.2.output ∧
      taken.2.2.input = plain.2.2.input ∧ taken.2.2.draws = plain.2.2.draws ∧
      (plain.1 = .returned → taken.2.1 = plain.2.1)) ∧
    (Condition.effects machine.bindings condition.text = .none →
      plain = Program.run Console.host inline machine console) := by
  intro machine console
  have outside : machine.current.inComment = false := Machine.inComment_ofVariables entries
  have tested := Machine.SameBlock.revised machine
    (Condition.effects machine.bindings condition.text).revision
  have testedOutside := tested.inComment.trans outside
  have alone := tested.enclosing.trans (Machine.enclosing_ofVariables entries)
  obtain ⟨number, takenRun⟩ := branched.run_eq Console.host_keepsMachine console outside
  obtain ⟨other, plainRun⟩ := rendered.run_eq Console.host_keepsMachine
    (Program.worldAfter Console.host condition.text machine console) testedOutside
  obtain ⟨left, block, same⟩ := inBlock_execute Console.host_ignoresMachine tree keeps
    (Program.worldAfter Console.host condition.text machine console) alone testedOutside
  refine ⟨?_, fun untouched => by
    simp only [Program.machineAfter_of_untouched untouched,
      Program.worldAfter_of_untouched _ untouched]⟩
  rw [← Program.machineAfter] at plainRun block same
  simp only [takenRun, plainRun, execute, chosen, holds, andThen_idle, block, machine]
  generalize tree.execute Console.host _ _ = result at same
  obtain ⟨outcome, after, later⟩ := result
  have reported := concluded_console number outcome left later
  have otherReported := concluded_console other outcome after later
  refine ⟨concluded_fst _ _ _ _ _ _ _, reported.1.trans otherReported.1.symm,
    reported.2.1.trans otherReported.2.1.symm, reported.2.2.trans otherReported.2.2.symm, ?_⟩
  intro returned
  cases concluded_eq_returned returned
  rw [same rfl]
  rfl

end Evaluated

def declaredCountdown : Tree :=
  .line ⟨"CREATE INT m 7".toList, by decide, by decide, by decide, by decide, by decide⟩ countdown

def aboveTwo : ConditionWords :=
  ⟨["n".toList, ">".toList, "2".toList], by decide, by decide, by decide⟩

theorem run_branch_eq_run_countdown :
    let entries : List (Text × Variable) := [("n".toList, ⟨"INT".toList, .integer 3, false⟩)]
    let taken := Program.run Console.host (branch aboveTwo declaredCountdown .done).text
      (.ofVariables entries) (.start [] [])
    let plain := Program.run Console.host declaredCountdown.text (.ofVariables entries)
      (.start [] [])
    (∀ simple ∈ declaredCountdown.simpleLines, ¬Line.Deletes simple.text) ∧
      Condition.holds (Machine.ofVariables entries).bindings aboveTwo.text = .ok true ∧
      taken.1 = plain.1 ∧ taken.2.2.output = plain.2.2.output ∧
      taken.2.2.input = plain.2.2.input ∧ taken.2.2.draws = plain.2.2.draws ∧
      (plain.1 = .returned → taken.2.1 = plain.2.1) := by
  intro entries
  have untouched : Condition.effects (Machine.ofVariables entries).bindings aboveTwo.text =
      .none := by decide +kernel
  have holds : Condition.holds (Machine.ofVariables entries).bindings aboveTwo.text = .ok true := by
    decide +kernel
  have keeps : ∀ simple ∈ declaredCountdown.simpleLines, ¬Line.Deletes simple.text := by decide
  have both := run_branch_eq_run keeps (renders_text _) (renders_text _) holds [] []
  have same := both.2 untouched
  exact ⟨keeps, holds, by rw [← same]; exact both.1⟩

end Tree

end Linewise
