import Linewise.Proofs.Constants
import Linewise.Proofs.Deletion

/-!
Declarations of constants. As long as nothing is deleted, a constant stays what it was declared to
be: no later line of its block, no block inside and no block that ends makes its name refer to
another variable. This holds in every frame, since a block takes over the constants of its
surroundings and cannot declare them anew.
-/

namespace Linewise

namespace Machine

/-! ## Frames by level -/

/-- The frame at a level, counted from the outermost. Where the blocks do not go that deep it is the
current frame. -/
def frameAt (machine : Machine) (level : Nat) : Frame :=
  machine.enclosing.reverse[level]?.getD machine.current

def referenceAt (machine : Machine) (level : Nat) (name : Text) : Option Nat :=
  (machine.frameAt level).references.find? name

section Levels

variable {machine : Machine} {level : Nat} (name : Text)

theorem referenceAt_eq {frame : Frame} (placed : machine.enclosing.reverse[level]? = some frame) :
    machine.referenceAt level name = frame.references.find? name := by
  rw [referenceAt, frameAt, placed]
  rfl

theorem referenceAt_of_le (deep : machine.enclosing.length ≤ level) :
    machine.referenceAt level name = machine.current.references.find? name := by
  rw [referenceAt, frameAt, List.getElem?_eq_none (by rw [List.length_reverse]; exact deep)]
  rfl

theorem referenceAt_of_append {after : Machine} (inner : List Frame)
    (more : after.enclosing = inner ++ machine.enclosing)
    (shallow : level < machine.enclosing.length) :
    after.referenceAt level name = machine.referenceAt level name := by
  have present : level < machine.enclosing.reverse.length := by
    rw [List.length_reverse]
    exact shallow
  have placed := List.getElem?_eq_getElem present
  rw [referenceAt_eq name placed]
  apply referenceAt_eq name
  rw [more, List.reverse_append, List.getElem?_append_left present, placed]

theorem referenceAt_outer {outer : Frame} {rest : List Frame}
    (frames : machine.enclosing = outer :: rest) :
    machine.referenceAt rest.length name = outer.references.find? name := by
  apply referenceAt_eq name
  rw [frames, List.reverse_cons, ← List.length_reverse, List.getElem?_concat_length]

theorem referenceAt_of_same {after : Machine} (same : after.enclosing = machine.enclosing)
    (reference : after.current.references.find? name = machine.current.references.find? name)
    (level : Nat) : after.referenceAt level name = machine.referenceAt level name := by
  rcases Nat.lt_or_ge level machine.enclosing.length with shallow | deep
  · exact referenceAt_of_append name [] same shallow
  · rw [referenceAt_of_le name deep, referenceAt_of_le name (by rw [same]; exact deep), reference]

theorem referenceAt_enter (machine : Machine) (level : Nat) :
    machine.enter.referenceAt level name = machine.referenceAt level name := by
  rcases Nat.lt_trichotomy level machine.enclosing.length with shallow | rfl | deep
  · exact referenceAt_of_append name [machine.current] rfl shallow
  · rw [referenceAt_of_le name (Nat.le_refl _)]
    exact referenceAt_outer name rfl
  · rw [referenceAt_of_le name (Nat.le_of_lt deep)]
    exact referenceAt_of_le name deep

section Leaving

variable {outer : Frame} {rest : List Frame} (frames : machine.enclosing = outer :: rest)

include frames

theorem enclosing_leave : machine.leave.enclosing = rest := by
  simp only [leave, frames]

theorem referenceAt_leave_of_lt (shallow : level < rest.length) :
    machine.leave.referenceAt level name = machine.referenceAt level name := by
  have left := enclosing_leave frames
  rw [← left] at shallow
  exact (referenceAt_of_append name [outer] (by rw [frames, left]; rfl) shallow).symm

theorem referenceAt_leave_of_le (deep : rest.length ≤ level) :
    machine.leave.referenceAt level name =
      (machine.current.references.find? name).or (machine.referenceAt rest.length name) := by
  rw [referenceAt_of_le name (by rw [enclosing_leave frames]; exact deep),
    referenceAt_outer name frames]
  simp only [leave, frames, Table.find?_update]

end Leaving

end Levels

theorem remembers_enter (name : Text) (machine : Machine) :
    Remembers name machine machine.enter :=
  .refl name machine

theorem remembers_leave (name : Text) (machine : Machine) :
    Remembers name machine machine.leave := by
  intro number stored present
  rw [history_leave]
  exact ⟨stored.value, present⟩

/-! ## Constants in all frames -/

/-- What the name refers to is there in every frame, and if it is a constant, the block inside
refers to the same. -/
structure Inherits (name : Text) (machine : Machine) : Prop where
  range {level number : Nat} (referred : machine.referenceAt level name = some number) :
    number < (machine.history name).size
  inherited {level number : Nat} {stored : Variable}
    (referred : machine.referenceAt level name = some number)
    (present : (machine.history name)[number]? = some stored)
    (constant : stored.constant = true) : machine.referenceAt (level + 1) name = some number

/-- From a level on, the name refers to this constant. -/
structure Fixes (name : Text) (level number : Nat) (stored : Variable) (machine : Machine) :
    Prop where
  constant : stored.constant = true
  history : ∃ value, (machine.history name)[number]? = some { stored with value }
  reference {deeper : Nat} (further : level ≤ deeper) :
    machine.referenceAt deeper name = some number

section Constants

variable {name : Text} {machine after : Machine} {level number : Nat} {stored : Variable}

namespace Fixes

variable (fixes : machine.Fixes name level number stored)

include fixes

theorem current : machine.current.references.find? name = some number := by
  rw [← referenceAt_of_le name (Nat.le_max_left machine.enclosing.length level)]
  exact fixes.reference (Nat.le_max_right _ _)

theorem find? : ∃ value, machine.find? name = some { stored with value } := by
  rcases fixes.history with ⟨value, present⟩
  refine ⟨value, ?_⟩
  rw [find?_eq, fixes.current, Option.bind_some, present]

theorem of_remembers (remembers : Remembers name machine after)
    (reference : ∀ deeper, level ≤ deeper → after.referenceAt deeper name = some number) :
    after.Fixes name level number stored := by
  rcases fixes.history with ⟨value, present⟩
  exact ⟨fixes.constant, remembers number { stored with value } present, reference _⟩

theorem of_continues (continues : Continues name machine after)
    (kept : after.current.references.find? name = machine.current.references.find? name) :
    after.Fixes name level number stored := by
  apply fixes.of_remembers continues.remembers
  intro deeper further
  rw [referenceAt_of_same name continues.enclosing kept]
  exact fixes.reference further

theorem enter : machine.enter.Fixes name level number stored := by
  apply fixes.of_remembers (remembers_enter name machine)
  intro deeper further
  rw [referenceAt_enter]
  exact fixes.reference further

theorem leave : machine.leave.Fixes name level number stored := by
  cases frames : machine.enclosing with
  | nil => simpa only [Machine.leave, frames] using fixes
  | cons outer rest =>
      apply fixes.of_remembers (remembers_leave name machine)
      intro deeper further
      rcases Nat.lt_or_ge deeper rest.length with shallow | deep
      · rw [referenceAt_leave_of_lt name frames shallow]
        exact fixes.reference further
      · rw [referenceAt_leave_of_le name frames deep, fixes.current]
        rfl

end Fixes

namespace Inherits

variable (inherits : machine.Inherits name)

include inherits

theorem fixes (referred : machine.referenceAt level name = some number)
    (present : (machine.history name)[number]? = some stored)
    (constant : stored.constant = true) : machine.Fixes name level number stored := by
  refine ⟨constant, ⟨stored.value, present⟩, fun {deeper} further => ?_⟩
  induction deeper, further using Nat.le_induction with
  | base => exact referred
  | succ deeper _ induction => exact inherits.inherited induction present constant

/-- What keeps the constants of all frames keeps that they are inherited, if what a frame newly
refers to is also what the block inside refers to. -/
theorem of_fixes (remembers : Remembers name machine after)
    (range : ∀ {level number}, after.referenceAt level name = some number →
      number < (after.history name).size)
    (kept : ∀ {level number stored}, machine.Fixes name level number stored →
      after.Fixes name level number stored)
    (origin : ∀ {level number}, after.referenceAt level name = some number →
      machine.referenceAt level name = some number ∨
        after.referenceAt (level + 1) name = some number) :
    after.Inherits name := by
  refine ⟨range, fun {level number stored} referred present constant => ?_⟩
  rcases origin referred with before | inside
  · have old := Array.getElem?_eq_getElem (inherits.range before)
    rcases remembers number _ old with ⟨value, still⟩
    cases Option.some.inj (still.symm.trans present)
    exact (kept (inherits.fixes before old constant)).reference (Nat.le_succ level)
  · exact inside

theorem refers : machine.Refers name := by
  intro number referred
  rw [← referenceAt_of_le name (Nat.le_refl machine.enclosing.length)] at referred
  exact inherits.range referred

theorem of_continues (continues : Continues name machine after)
    (kept : ∀ {level number stored}, machine.Fixes name level number stored →
      after.current.references.find? name = machine.current.references.find? name) :
    after.Inherits name := by
  have same := continues.enclosing
  apply inherits.of_fixes continues.remembers
  · intro level number referred
    rcases Nat.lt_or_ge level machine.enclosing.length with shallow | deep
    · rw [referenceAt_of_append name [] same shallow] at referred
      exact Nat.lt_of_lt_of_le (inherits.range referred) continues.remembers.size_le
    · rw [referenceAt_of_le name (by rw [same]; exact deep)] at referred
      exact continues.refers inherits.refers number referred
  · exact fun fixes => fixes.of_continues continues (kept fixes)
  · intro level number referred
    rcases Nat.lt_or_ge level machine.enclosing.length with shallow | deep
    · rw [referenceAt_of_append name [] same shallow] at referred
      exact .inl referred
    · rw [← same] at deep
      rw [referenceAt_of_le name deep] at referred
      rw [referenceAt_of_le name (Nat.le_succ_of_le deep)]
      exact .inr referred

theorem enter : machine.enter.Inherits name := by
  apply inherits.of_fixes (remembers_enter name machine)
  · intro level number referred
    rw [referenceAt_enter] at referred
    exact inherits.range referred
  · exact Fixes.enter
  · intro level number referred
    rw [referenceAt_enter] at referred
    exact .inl referred

theorem leave : machine.leave.Inherits name := by
  cases frames : machine.enclosing with
  | nil => simpa only [Machine.leave, frames] using inherits
  | cons outer rest =>
      apply inherits.of_fixes (remembers_leave name machine)
      · intro level number referred
        rw [history_leave]
        rcases Nat.lt_or_ge level rest.length with shallow | deep
        · rw [referenceAt_leave_of_lt name frames shallow] at referred
          exact inherits.range referred
        · rw [referenceAt_leave_of_le name frames deep] at referred
          rcases Option.or_eq_some_iff.mp referred with own | ⟨_, surrounding⟩
          · exact inherits.refers number own
          · exact inherits.range surrounding
      · exact Fixes.leave
      · intro level number referred
        rcases Nat.lt_or_ge level rest.length with shallow | deep
        · rw [referenceAt_leave_of_lt name frames shallow] at referred
          exact .inl referred
        · rw [referenceAt_leave_of_le name frames deep] at referred
          rw [referenceAt_leave_of_le name frames (Nat.le_succ_of_le deep)]
          exact .inr referred

end Inherits

end Constants

end Machine

/-! ## Constants in a line -/

namespace Line

variable [Evaluator] {name line : Text} {machine after : Machine} {stored : Variable}
  {outcome : Outcome}

/-- If a line deletes nothing, the name of a constant refers to it as before. -/
theorem Executed.reference_eq (executed : Executed line machine outcome after)
    (undeleted : (command? line).map Prod.fst ≠ some .delete)
    (bound : machine.find? name = some stored) (constant : stored.constant = true) :
    after.current.references.find? name = machine.current.references.find? name := by
  cases executed with
  | marked | skipped => rfl
  | ended => rw [machineAfter, Machine.current_revised]
  | @performed action _ _ _ planned performed =>
      have same : (machineAfter line machine).current = machine.current :=
        Machine.current_revised machine _
      rw [← same]
      by_cases touched : name ∈ action.names
      · rcases plan_cases planned with ⟨command, arguments, known, _, byCommand⟩ | ⟨_, other⟩
        · have unguarded : command ∈ Command.unguarded := by
            by_contra guarded
            exact byCommand.notMem_names bound constant guarded touched
          -- Of the commands that do not ask for constants only the deletion changes references.
          rcases byCommand.unguarded_cases unguarded with
            ⟨argument, rfl, _, _⟩ | ⟨argument, value, _, rfl⟩ |
            ⟨left, right, first, second, _, _, _, _, _, rfl⟩
          · exact absurd (by rw [known]; rfl) undeleted
          · cases performed
            rw [Machine.current_assign]
          · cases performed
            rw [Machine.current_assign, Machine.current_assign]
        · rcases other with rfl | ⟨texts, rfl⟩ <;> cases touched
      · exact (performed.sameAt touched).reference

section Fixed

variable (executed : Executed line machine outcome after)
  (undeleted : (command? line).map Prod.fst ≠ some .delete)

include executed undeleted

theorem Executed.reference_eq_of_fixes {level number : Nat}
    (fixes : machine.Fixes name level number stored) :
    after.current.references.find? name = machine.current.references.find? name := by
  rcases fixes.find? with ⟨value, bound⟩
  exact executed.reference_eq undeleted bound fixes.constant

theorem Executed.fixes {level number : Nat} (fixes : machine.Fixes name level number stored) :
    after.Fixes name level number stored :=
  fixes.of_continues (executed.continues name) (executed.reference_eq_of_fixes undeleted fixes)

theorem Executed.inherits (inherits : machine.Inherits name) : after.Inherits name :=
  inherits.of_continues (executed.continues name) (executed.reference_eq_of_fixes undeleted)

end Fixed

end Line

/-! ## Constants in a run -/

namespace Program

variable {World : Type} {host : Host World}

/-- What holds at a moment holds at all moments after it and at the end. -/
structure Onward (Holds : Machine → World → Prop) (moments : List (Moment World))
    (after : Machine) (later : World) : Prop where
  between : moments.Pairwise fun moment next =>
    Holds moment.machine moment.world → Holds next.machine next.world
  final : ∀ moment ∈ moments, Holds moment.machine moment.world → Holds after later

namespace Onward

variable {Holds : Machine → World → Prop} {moments others : List (Moment World)}
  {machine after : Machine} {world later : World}

theorem nil (Holds : Machine → World → Prop) (after : Machine) (later : World) :
    Onward Holds [] after later :=
  ⟨.nil, nofun⟩

theorem cons {event : Event} (rest : Onward Holds moments after later)
    (first : Holds machine world →
      Holds after later ∧ ∀ moment ∈ moments, Holds moment.machine moment.world) :
    Onward Holds (⟨event, machine, world⟩ :: moments) after later where
  between := List.pairwise_cons.mpr ⟨fun next member holds => (first holds).2 next member,
    rest.between⟩
  final := List.forall_mem_cons.mpr ⟨fun holds => (first holds).1, rest.final⟩

theorem append {between : Machine} {spent : World} (inside : Onward Holds moments between spent)
    (rest : Onward Holds others after later)
    (next : Holds between spent →
      Holds after later ∧ ∀ moment ∈ others, Holds moment.machine moment.world) :
    Onward Holds (moments ++ others) after later where
  between := List.pairwise_append.mpr ⟨inside.between, rest.between,
    fun moment member other present holds =>
      (next (inside.final moment member holds)).2 other present⟩
  final := List.forall_mem_append.mpr
    ⟨fun moment member holds => (next (inside.final moment member holds)).1, rest.final⟩

theorem extend {beyond : Machine} {last : World} (onward : Onward Holds moments after later)
    (further : Holds after later → Holds beyond last) : Onward Holds moments beyond last :=
  ⟨onward.between, fun moment member holds => further (onward.final moment member holds)⟩

end Onward

section Evaluated

variable [Evaluator]

theorem Ran.onward {Allowed : Text → Machine → Prop} {Holds : Machine → World → Prop}
    (keeps : Keeps host Allowed Holds) {task : Task} {machine after : Machine}
    {world later : World} {moments : List (Moment World)} {outcome : Outcome}
    (ran : Ran host task machine world moments outcome after later)
    (allowed : ∀ moment ∈ moments, moment.Allows Allowed) :
    Onward Holds moments after later := by
  -- A moment stands at the start of what is run from there, and `Ran.keeps` tells what that keeps.
  induction ran with
  | finished | refused => exact .nil Holds _ _
  | skipped read next induction => exact induction allowed
  | line read executed next induction =>
      rw [List.forall_mem_cons] at allowed
      apply (induction allowed.2).cons
      exact fun holds => next.keeps keeps allowed.2 (keeps.executed executed allowed.1 holds)
  | lineEnded read executed ended =>
      rw [List.forall_mem_singleton] at allowed
      apply (Onward.nil Holds _ _).cons
      exact fun holds => ⟨keeps.concluded (keeps.executed executed allowed holds) _ _, nofun⟩
  | block read inside next insideInduction induction =>
      rw [List.forall_mem_append] at allowed
      exact (insideInduction allowed.1).append (induction allowed.2) (next.keeps keeps allowed.2)
  | blockEnded read inside ended induction =>
      exact (induction allowed).extend fun holds => keeps.concluded holds _ _
  | undecided | loopUndecided | loopDone | loopLimited =>
      exact (Onward.nil Holds _ _).cons fun holds => ⟨keeps.test holds, nofun⟩
  | chosen tested inside induction =>
      rw [List.forall_mem_cons] at allowed
      apply Onward.extend _ keeps.leave
      apply (induction allowed.2).cons
      exact fun holds => inside.keeps keeps allowed.2 (keeps.enter (keeps.test holds))
  | chosenEnded tested inside ended induction | roundEnded tested inside ended induction =>
      rw [List.forall_mem_cons] at allowed
      apply (induction allowed.2).cons
      exact fun holds => inside.keeps keeps allowed.2 (keeps.enter (keeps.test holds))
  | round tested inside next insideInduction induction =>
      rw [List.forall_mem_cons, List.forall_mem_append] at allowed
      have following := next.keeps keeps allowed.2.2
      apply (((insideInduction allowed.2.1).extend keeps.leave).append (induction allowed.2.2)
        following).cons
      intro holds
      have before := inside.keeps keeps allowed.2.1 (keeps.enter (keeps.test holds))
      have rest := following (keeps.leave before.1)
      exact ⟨rest.1, List.forall_mem_append.mpr ⟨before.2, rest.2⟩⟩

section Declarations

variable (keeps : host.KeepsMachine) (name : Text)

include keeps

end Declarations

end Evaluated

end Program

end Linewise
