import Linewise.Machine
import Mathlib.Tactic.Common

/-!
What changes of a machine do to a look-up of a name, and what they leave as it was: the variables of
other names, and the block that the machine is in.
-/

namespace Linewise

/-- The variable of a name is there afterwards if it was there before, with the same type, constant
or not, and with a value of the same kind, which is the same value unless there is a container in
it. -/
inductive Variable.KeptOutside : Option Variable → Option Variable → Prop
  | absent : KeptOutside none none
  | present {before after : Variable} (type : after.type = before.type)
      (constant : after.constant = before.constant) (kind : after.value.kind = before.value.kind)
      (value : before.value.isImmutable = true → after.value = before.value) :
      KeptOutside (some before) (some after)

theorem Variable.KeptOutside.refl (found : Option Variable) : KeptOutside found found := by
  cases found with
  | none => exact .absent
  | some stored => exact .present rfl rfl rfl fun _ => rfl

theorem Variable.KeptOutside.trans {first second third : Option Variable}
    (before : KeptOutside first second) (after : KeptOutside second third) :
    KeptOutside first third := by
  cases before with
  | absent => exact after
  | present type constant kind value =>
      cases after with
      | present type' constant' kind' value' =>
          refine .present (type'.trans type) (constant'.trans constant) (kind'.trans kind) ?_
          intro immutable
          have same := value immutable
          exact (value' (same ▸ immutable)).trans same

theorem Variable.KeptOutside.revised (revision : Revision) (found : Option Variable) :
    KeptOutside found (found.map (Variable.revised revision)) := by
  cases found with
  | none => exact .absent
  | some stored =>
      exact .present rfl rfl (Value.kind_revised _ _) (Value.revised_of_isImmutable revision)

namespace Machine

/-! ## Look-ups -/

section LookUps

variable (machine : Machine) (name other : Text)

theorem find?_eq : machine.find? name =
    (machine.current.references.find? name).bind fun number => (machine.history name)[number]? :=
  rfl

theorem history_declare (stored : Variable) :
    (machine.declare name stored).history other =
      if name = other then (machine.history name).push stored else machine.history other := by
  simp only [history, declare, Table.find?_insert]
  split <;> rfl

theorem history_assign (value : Value) {number : Nat}
    (referred : machine.current.references.find? name = some number) :
    (machine.assign name value).history other =
      if name = other then
        (machine.history name).modify number fun stored => { stored with value }
      else machine.history other := by
  simp only [history, assign, referred, Table.find?_insert]
  split <;> rfl

theorem current_assign (value : Value) : (machine.assign name value).current = machine.current := by
  unfold assign
  split <;> rfl

theorem enclosing_assign (value : Value) :
    (machine.assign name value).enclosing = machine.enclosing := by
  unfold assign
  split <;> rfl

theorem find?_declare (stored : Variable) :
    (machine.declare name stored).find? other =
      if name = other then some stored else machine.find? other := by
  have reference : (machine.declare name stored).current.references.find? other =
      if name = other then some (machine.history name).size
      else machine.current.references.find? other := Table.find?_insert _ _ _ _
  rw [find?_eq, reference, history_declare]
  by_cases same : name = other
  · simp [same]
  · simp [same, find?_eq]

theorem find?_assign (value : Value) :
    (machine.assign name value).find? other =
      if name = other then (machine.find? other).map fun stored => { stored with value }
      else machine.find? other := by
  rw [find?_eq, current_assign]
  cases referred : machine.current.references.find? name with
  | none =>
      have unchanged : machine.assign name value = machine := by simp [assign, referred]
      rw [unchanged]
      by_cases same : name = other
      · subst same
        simp [find?_eq, referred]
      · rw [if_neg same, find?_eq]
  | some number =>
      rw [history_assign machine name other value referred]
      by_cases same : name = other
      · subst same
        simp [find?_eq, referred, Array.getElem?_modify]
      · rw [if_neg same, if_neg same, find?_eq]

theorem find?_remove :
    (machine.remove name).find? other = if name = other then none else machine.find? other := by
  have reference : (machine.remove name).current.references.find? other =
      if name = other then none else machine.current.references.find? other :=
    Table.find?_erase _ _ _
  rw [find?_eq, reference]
  by_cases same : name = other
  · rw [if_pos same, if_pos same, Option.bind_none]
  · rw [if_neg same, if_neg same]
    rfl

theorem history_revised (revision : Revision) :
    (machine.revised revision).history name =
      (machine.history name).map (Variable.revised revision) := by
  cases revision with
  | nil =>
      have same : Variable.revised [] = id := rfl
      rw [same, Array.map_id]
      rfl
  | cons change rest =>
      simp only [history, revised, Table.find?_map]
      cases machine.declared.find? name <;> simp

@[simp] theorem current_revised (revision : Revision) :
    (machine.revised revision).current = machine.current := by
  cases revision <;> rfl

@[simp] theorem enclosing_revised (revision : Revision) :
    (machine.revised revision).enclosing = machine.enclosing := by
  cases revision <;> rfl

theorem find?_revised (revision : Revision) :
    (machine.revised revision).find? name =
      (machine.find? name).map (Variable.revised revision) := by
  rw [find?_eq, find?_eq, current_revised, history_revised]
  cases machine.current.references.find? name with
  | none => rfl
  | some number => exact Array.getElem?_map

end LookUps

/-! ## Values that variables hold -/

section Values

variable (machine : Machine) {value : Value}

theorem keep_of_isImmutable (immutable : value.isImmutable = true) :
    machine.keep value = value := by
  rw [keep, if_pos immutable]

theorem admits_keep (type : DataType) (value : Value) :
    type.admits (machine.keep value) = type.admits value := by
  unfold keep
  split
  · rfl
  · cases value <;> cases type <;> rfl

theorem keep_of_admits {type : DataType} (admitted : type.admits value = true) :
    machine.keep value = value :=
  machine.keep_of_isImmutable (DataType.isImmutable_of_admits admitted)

end Values

/-! ## One name -/

/-- The two machines agree on a name: on all its variables, and on what it refers to now. -/
structure SameAt (name : Text) (before after : Machine) : Prop where
  history : after.history name = before.history name
  reference : after.current.references.find? name = before.current.references.find? name

namespace SameAt

variable {name other : Text} {machine : Machine}

theorem refl (name : Text) (machine : Machine) : SameAt name machine machine := ⟨rfl, rfl⟩

theorem trans {first second third : Machine} (before : SameAt name first second)
    (after : SameAt name second third) : SameAt name first third :=
  ⟨after.history.trans before.history, after.reference.trans before.reference⟩

theorem find? {after : Machine} (same : SameAt name machine after) :
    after.find? name = machine.find? name := by
  rw [find?_eq, find?_eq, same.history, same.reference]

theorem declare (different : other ≠ name) (stored : Variable) :
    SameAt name machine (machine.declare other stored) where
  history := by rw [history_declare, if_neg different]
  reference := Table.find?_insert_of_ne _ _ different

theorem assign (different : other ≠ name) (value : Value) :
    SameAt name machine (machine.assign other value) where
  history := by
    cases referred : machine.current.references.find? other with
    | none => simp [Machine.assign, referred]
    | some number => rw [history_assign machine other name value referred, if_neg different]
  reference := by rw [current_assign]

theorem remove (different : other ≠ name) : SameAt name machine (machine.remove other) where
  history := rfl
  reference := Table.find?_erase_of_ne _ different

end SameAt

/-! ## One block -/

/-- The machine is in the same block, and in a comment there if it was in one. -/
structure SameBlock (before after : Machine) : Prop where
  enclosing : after.enclosing = before.enclosing
  inComment : after.current.inComment = before.current.inComment

namespace SameBlock

theorem refl (machine : Machine) : SameBlock machine machine := ⟨rfl, rfl⟩

theorem trans {first second third : Machine} (before : SameBlock first second)
    (after : SameBlock second third) : SameBlock first third :=
  ⟨after.enclosing.trans before.enclosing, after.inComment.trans before.inComment⟩

theorem assign (machine : Machine) (name : Text) (value : Value) :
    SameBlock machine (machine.assign name value) where
  enclosing := enclosing_assign machine name value
  inComment := by rw [current_assign]

theorem revised (machine : Machine) (revision : Revision) :
    SameBlock machine (machine.revised revision) where
  enclosing := enclosing_revised machine revision
  inComment := by rw [current_revised]

theorem leave {machine inside : Machine} (same : SameBlock machine.enter inside) :
    SameBlock machine inside.leave := by
  have enclosing : inside.enclosing = machine.current :: machine.enclosing := same.enclosing
  simp only [Machine.leave, enclosing]
  exact ⟨rfl, rfl⟩

end SameBlock

/-- A relation between the machine at the start and at the end of what is run. It holds if nothing
but expressions is run, for one thing after another, and for a block if it holds inside. -/
structure Passage (Related : Machine → Machine → Prop) : Prop where
  refl (machine : Machine) : Related machine machine
  revised (machine : Machine) (revision : Revision) : Related machine (machine.revised revision)
  trans {first second third : Machine} (before : Related first second)
    (after : Related second third) : Related first third
  leave {machine inside : Machine} (related : Related machine.enter inside) :
    Related machine inside.leave

theorem SameBlock.passage : Passage SameBlock := ⟨.refl, .revised, .trans, .leave⟩

theorem leave_enter (machine : Machine) : machine.enter.leave = machine := by
  simp [enter, leave]

theorem history_leave (machine : Machine) (name : Text) :
    machine.leave.history name = machine.history name := by
  unfold leave
  split <;> rfl

theorem sameBlock_ofVariables (entries : List (Text × Variable)) :
    SameBlock empty (ofVariables entries) := by
  unfold ofVariables
  generalize empty = machine
  induction entries generalizing machine with
  | nil => exact .refl machine
  | cons entry rest induction =>
      have declared : SameBlock machine (machine.declare entry.1 entry.2) := ⟨rfl, rfl⟩
      exact declared.trans (induction (machine.declare entry.1 entry.2))

theorem inComment_ofVariables (entries : List (Text × Variable)) :
    (ofVariables entries).current.inComment = false :=
  (sameBlock_ofVariables entries).inComment

theorem enclosing_ofVariables (entries : List (Text × Variable)) :
    (ofVariables entries).enclosing = [] :=
  (sameBlock_ofVariables entries).enclosing

end Machine

end Linewise
