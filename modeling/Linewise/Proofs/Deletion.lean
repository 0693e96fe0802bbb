import Linewise.Proofs.Course

/-!
Deletions inside of blocks. A block that has come to its end hands its references back, and where it
has none for a name, the reference from before the block stays. So a variable that is known before a
block is known after it, whatever the block does; if the block deleted it, it is back as it was,
but for its value.
-/

namespace Linewise

namespace Machine

def Refers (machine : Machine) (name : Text) : Prop :=
  ∀ number, machine.current.references.find? name = some number →
    number < (machine.history name).size

/-- Every variable of the name is still there, with its type, and constant if it was. -/
def Remembers (name : Text) (before after : Machine) : Prop :=
  ∀ (number : Nat) (stored : Variable), (before.history name)[number]? = some stored →
    ∃ value, (after.history name)[number]? = some { stored with value }

namespace Remembers

variable {name other : Text} {machine : Machine}

theorem refl (name : Text) (machine : Machine) : Remembers name machine machine :=
  fun _ stored present => ⟨stored.value, present⟩

theorem trans {first second third : Machine} (before : Remembers name first second)
    (after : Remembers name second third) : Remembers name first third := by
  intro number stored present
  obtain ⟨value, between⟩ := before number stored present
  exact after number { stored with value } between

theorem size_le {after : Machine} (remembers : Remembers name machine after) :
    (machine.history name).size ≤ (after.history name).size := by
  by_contra shorter
  have within : (after.history name).size < (machine.history name).size := by omega
  obtain ⟨value, present⟩ := remembers _ _ (Array.getElem?_eq_getElem within)
  simp at present

theorem declare (machine : Machine) (stored : Variable) :
    Remembers name machine (machine.declare other stored) := by
  intro number old present
  refine ⟨old.value, ?_⟩
  rw [history_declare]
  split
  · next same =>
      subst same
      obtain ⟨within, rfl⟩ := Array.getElem?_eq_some_iff.mp present
      rw [Array.getElem?_push_lt within]
  · exact present

theorem assign (machine : Machine) (value : Value) :
    Remembers name machine (machine.assign other value) := by
  cases referred : machine.current.references.find? other with
  | none =>
      have unchanged : machine.assign other value = machine := by simp [Machine.assign, referred]
      rw [unchanged]
      exact .refl name machine
  | some position =>
      intro number old present
      rw [history_assign machine other name value referred]
      split
      · next same =>
          subst same
          rw [Array.getElem?_modify, present]
          split
          · exact ⟨value, rfl⟩
          · exact ⟨old.value, rfl⟩
      · exact ⟨old.value, present⟩

theorem revised (machine : Machine) (revision : Revision) :
    Remembers name machine (machine.revised revision) := by
  intro number old present
  refine ⟨old.value.revised revision, ?_⟩
  rw [history_revised, Array.getElem?_map, present]
  rfl

end Remembers

/-- From the start to the end of a run in one block: the block is the same, the variables of the
name are still there, and so is what the name refers to. -/
structure Continues (name : Text) (before after : Machine) : Prop where
  enclosing : after.enclosing = before.enclosing
  remembers : Remembers name before after
  refers (start : before.Refers name) : after.Refers name

namespace Continues

variable {name other : Text} {machine : Machine}

theorem leave {inside : Machine} (continues : Continues name machine.enter inside) :
    Continues name machine inside.leave := by
  have surroundings : inside.enclosing = machine.current :: machine.enclosing :=
    continues.enclosing
  have history : inside.leave.history name = inside.history name := by
    simp only [Machine.leave, surroundings]
    rfl
  refine ⟨?_, ?_, ?_⟩
  · simp only [Machine.leave, surroundings]
  · intro number stored present
    rw [history]
    exact continues.remembers number stored present
  · intro start number referred
    rw [history]
    simp only [Machine.leave, surroundings, Table.find?_update] at referred
    rcases Option.or_eq_some_iff.mp referred with inner | ⟨_, outer⟩
    · exact continues.refers start number inner
    · exact Nat.lt_of_lt_of_le (start number outer) continues.remembers.size_le

/-- After a block a name refers to what it referred to at the end of the block, and if that is
nothing, to what it referred to before. -/
theorem find?_leave {inside : Machine} {stored : Variable}
    (continues : Continues name machine.enter inside) (bound : machine.find? name = some stored) :
    ∃ value, inside.leave.find? name = (inside.find? name).or (some { stored with value }) := by
  have surroundings : inside.enclosing = machine.current :: machine.enclosing :=
    continues.enclosing
  rw [find?_eq] at bound
  obtain ⟨number, referred, present⟩ := Option.bind_eq_some_iff.mp bound
  have start : machine.enter.Refers name := by
    intro other same
    obtain rfl : number = other := Option.some.inj (referred.symm.trans same)
    exact (Array.getElem?_eq_some_iff.mp present).1
  obtain ⟨value, still⟩ := continues.remembers number stored present
  refine ⟨value, ?_⟩
  have left : inside.leave.find? name =
      ((inside.current.references.find? name).or (some number)).bind
        fun number => (inside.history name)[number]? := by
    rw [find?_eq, ← referred, ← Table.find?_update]
    simp only [Machine.leave, surroundings]
    rfl
  rw [left, find?_eq]
  cases own : inside.current.references.find? name with
  | none => simpa using still
  | some other =>
      have within := continues.refers start other own
      simp [Array.getElem?_eq_getElem within]

theorem revised (name : Text) (machine : Machine) (revision : Revision) :
    Continues name machine (machine.revised revision) where
  enclosing := enclosing_revised machine revision
  remembers := .revised machine revision
  refers := by
    intro start number referred
    rw [current_revised] at referred
    exact Nat.lt_of_lt_of_le (start number referred) (Remembers.revised machine revision).size_le

theorem passage (name : Text) : Passage (Continues name) where
  refl machine := ⟨rfl, .refl name machine, id⟩
  revised := revised name
  trans before after :=
    ⟨after.enclosing.trans before.enclosing, before.remembers.trans after.remembers,
      fun start => after.refers (before.refers start)⟩
  leave := leave

theorem declare (machine : Machine) (stored : Variable) :
    Continues name machine (machine.declare other stored) where
  enclosing := rfl
  remembers := .declare machine stored
  refers := by
    intro start number referred
    have reference : (machine.declare other stored).current.references.find? name =
        if other = name then some (machine.history other).size
        else machine.current.references.find? name := Table.find?_insert _ _ _ _
    rw [reference] at referred
    rw [history_declare]
    split at referred
    · next same =>
        subst same
        cases referred
        simp
    · next different =>
        rw [if_neg different]
        exact start number referred

theorem assign (machine : Machine) (value : Value) :
    Continues name machine (machine.assign other value) where
  enclosing := enclosing_assign machine other value
  remembers := .assign machine value
  refers := by
    intro start number referred
    rw [current_assign] at referred
    exact Nat.lt_of_lt_of_le (start number referred) (Remembers.assign machine value).size_le

theorem remove (machine : Machine) : Continues name machine (machine.remove other) where
  enclosing := rfl
  remembers := .refl name machine
  refers := by
    intro start number referred
    have reference : (machine.remove other).current.references.find? name =
        if other = name then none else machine.current.references.find? name :=
      Table.find?_erase _ _ _
    rw [reference] at referred
    split at referred
    · cases referred
    · exact start number referred

theorem toggleComment (name : Text) (machine : Machine) :
    Continues name machine machine.toggleComment :=
  ⟨rfl, .refl name machine, id⟩

end Continues

end Machine

namespace Line

variable [Evaluator] {World : Type} {host : Host World}

theorem Performed.continues (name : Text) {action : Action} {machine after : Machine}
    (performed : Performed action machine after) : machine.Continues name after := by
  cases performed with
  | nothing | write | drawAndWrite => exact (Machine.Continues.passage name).refl machine
  | declare | listen | drawAndDeclare => exact .declare machine _
  | assign => exact .assign machine _
  | exchange =>
      exact (Machine.Continues.passage name).trans (.assign machine _) (.assign _ _)
  | remove => exact .remove machine

theorem Executed.continues (name : Text) {line : Text} {machine after : Machine} {outcome : Outcome}
    (executed : Executed line machine outcome after) : machine.Continues name after := by
  cases executed with
  | marked => exact .toggleComment name machine
  | skipped => exact (Machine.Continues.passage name).refl machine
  | ended => exact .revised name machine _
  | performed _ _ _ performed =>
      exact (Machine.Continues.passage name).trans (.revised name machine _)
        (performed.continues name)

end Line

namespace Program

section Evaluated

variable [Evaluator] {World : Type} {host : Host World}

theorem Ran.continues (keeps : host.KeepsMachine) (name : Text) {task : Task}
    {machine after : Machine} {world later : World} {moments : List (Moment World)}
    (ran : Ran host task machine world moments .done after later) :
    machine.Continues name after :=
  ran.leads (Machine.Continues.passage name) (.toggleComment name)
    (fun executed => (Line.execute_cases keeps executed).continues name) rfl

theorem continues_runFrom (keeps : host.KeepsMachine) (name : Text) {number : Nat}
    {lines : List Text} {machine after : Machine} {world later : World}
    (returned : runFrom host number lines machine world = (.returned, after, later)) :
    machine.Continues name after := by
  obtain ⟨moments, outcome, between, spent, ran⟩ :=
    hasCourse host (.sequence number lines) machine world
  have result := ran.execute_eq
  simp only [Task.execute, returned, asLine] at result
  cases result
  exact ran.continues keeps name

theorem find?_machineAfter (condition : Text) {name : Text} {machine : Machine}
    {stored : Variable} (bound : machine.find? name = some stored) :
    ∃ value, (machineAfter condition machine).find? name = some { stored with value } := by
  rw [machineAfter, Machine.find?_revised, bound]
  exact ⟨_, rfl⟩

theorem exists_find?_loop (keeps : host.KeepsMachine) {condition name : Text} {body : List Text}
    {limit : Int} {remaining : Nat} {machine after : Machine} {world later : World}
    {stored : Variable} (bound : machine.find? name = some stored)
    (done : loop host condition (runFrom host 1 body) limit remaining machine world =
      (.done, after, later)) :
    ∃ kept, after.find? name = some kept := by
  induction remaining generalizing machine world stored with
  | zero =>
      rw [loop.eq_def] at done
      obtain ⟨_, tested⟩ := find?_machineAfter condition bound
      dsimp only at done
      split at done
      · cases done
      · cases done
        exact ⟨_, tested⟩
      · cases done
  | succ remaining induction =>
      rw [loop.eq_def] at done
      obtain ⟨_, tested⟩ := find?_machineAfter condition bound
      dsimp only at done
      split at done
      · cases done
      · cases done
        exact ⟨_, tested⟩
      · simp only [enclosed] at done
        rcases round : runFrom host 1 body (machineAfter condition machine).enter
          (worldAfter host condition machine world) with ⟨ending, inside, spent⟩
        rw [round] at done
        cases ending with
        | exited code => cases done
        | unfinished => cases done
        | returned =>
            obtain ⟨value, left⟩ := (continues_runFrom keeps name round).find?_leave tested
            cases own : inside.find? name with
            | none => exact induction (left.trans (by rw [own]; rfl)) done
            | some kept => exact induction (left.trans (by rw [own]; rfl)) done

/-- Deletions inside of a block end with the block. A variable that is known before a branch that is
taken is known after it: as what its name refers to at the end of the block, or else as the variable
of before the block, with its type, and constant if it was. A variable that is known before a loop
is known after it. -/
theorem find?_after_block {machine : Machine} {name : Text} {stored : Variable}
    (bound : machine.find? name = some stored) (console : Console) (condition : Text)
    (body : List Text) :
    (Condition.holds machine.bindings condition = .ok true →
      ∀ inside later, runFrom Console.host 1 body (machineAfter condition machine).enter
          (worldAfter Console.host condition machine console) = (.returned, inside, later) →
        ∀ alternative, ∃ after value,
          branch Console.host condition (runFrom Console.host 1 body) alternative machine console =
            (.done, after, later) ∧
          after.find? name = (inside.find? name).or (some { stored with value })) ∧
    (∀ limit remaining after later,
      loop Console.host condition (runFrom Console.host 1 body) limit remaining machine console =
          (.done, after, later) →
        ∃ kept, after.find? name = some kept) := by
  refine ⟨?_, fun limit remaining after later done =>
    exists_find?_loop Console.host_keepsMachine bound done⟩
  intro holds inside later returned alternative
  obtain ⟨_, tested⟩ := find?_machineAfter condition bound
  obtain ⟨value, left⟩ :=
    (continues_runFrom Console.host_keepsMachine name returned).find?_leave tested
  refine ⟨inside.leave, value, ?_, left⟩
  simp only [branch, holds, if_true, enclosed, returned, Outcome.ofEnding]

end Evaluated

def five : Variable := ⟨"INT".toList, .integer 5, false⟩

theorem find?_after_block_five :
    let machine := Machine.ofVariables [("k".toList, five)]
    let console := Console.start [] []
    machine.find? "k".toList = some five ∧
      Condition.holds machine.bindings "true".toList = .ok true ∧
      ∃ inside later, runFrom Console.host 1 ["DEL k".toList] machine.enter console =
          (.returned, inside, later) ∧ inside.find? "k".toList = none ∧
        ∃ after value, branch Console.host "true".toList (runFrom Console.host 1 ["DEL k".toList])
            (runFrom Console.host 1 []) machine console = (.done, after, later) ∧
          after.find? "k".toList = some { five with value } := by
  intro machine console
  have bound : machine.find? "k".toList = some five := rfl
  have holds : Condition.holds machine.bindings "true".toList = .ok true := by decide +kernel
  have substituted : substituteUnquoted machine.enter.bindings (Line.code "DEL k".toList) =
      .ok "DEL k".toList := by decide +kernel
  have known : Line.command? "DEL k".toList = some (.delete, ["k".toList]) := by decide
  have planned : Line.plan machine.enter.bindings (Line.code "DEL k".toList) =
      .ok (.remove "k".toList) :=
    Line.plan_of_planned substituted known (.delete bound)
  have returned : runFrom Console.host 1 ["DEL k".toList] machine.enter console =
      (.returned, machine.enter.remove "k".toList, console) := by
    rw [runFrom_simple Console.host 1 [] console (by decide) (by decide) rfl (by decide)
      (by decide)]
    have executed : Line.execute Console.host "DEL k".toList machine.enter console =
        (.done, machine.enter.remove "k".toList, console) := by
      unfold Line.execute
      rw [planned]
      rfl
    have simple : simpleLine Console.host (Line.code (Text.strip "DEL k".toList)) machine.enter
        console = (.done, machine.enter.remove "k".toList, console) := executed
    rw [simple, proceed, runFrom_nil]
  have untouched : Condition.effects machine.bindings "true".toList = .none := by decide +kernel
  have deleted : (machine.enter.remove "k".toList).find? "k".toList = none := by
    rw [Machine.find?_remove, if_pos rfl]
  obtain ⟨after, value, branched, found⟩ :=
    (find?_after_block bound console "true".toList ["DEL k".toList]).1 holds _ _
      (by rw [machineAfter_of_untouched untouched, worldAfter_of_untouched _ untouched]
          exact returned) (runFrom Console.host 1 [])
  rw [deleted] at found
  exact ⟨bound, holds, _, _, returned, deleted, after, value, branched, found⟩

end Program

end Linewise
