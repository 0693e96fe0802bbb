import Linewise.Proofs.NameCase
import Linewise.Proofs.Pending

/-!
Names of variables. A variable can be named in a line: its name is a word without a comment mark and
in lower case, and it is never the word that stands for the end of a line. Main statement: so it is
in all tables of variables that a program or a session comes to, inside and outside of blocks.
-/

namespace Linewise

/-- A name that a line can refer to and that is not reserved. -/
structure IsAddressable (name : Text) : Prop where
  solid : Text.IsSolid name
  noComment : '#' ∉ name
  lower : Text.lower name = name
  unreserved : name ≠ "end".toList

theorem Text.IsSolid.lower {word : Text} (solid : IsSolid word) : IsSolid (lower word) := by
  refine ⟨fun empty => solid.1 (lowerFrom_eq_nil empty), ?_⟩
  intro image member
  rcases of_mem_lowerFrom member with rfl | ⟨char, found, form⟩
  · decide
  · rw [← Bool.not_eq_true]
    intro blank
    have visible := solid.2 char found
    rw [(of_mem_lowerChar form).2 blank] at visible
    cases visible

theorem IsAddressable.listened : IsAddressable "listened".toList :=
  ⟨by decide, by decide, by decide +kernel, by decide⟩

def Machine.Addressable (machine : Machine) : Prop :=
  ∀ frame ∈ machine.current :: machine.enclosing, ∀ name ∈ frame.references.names,
    IsAddressable name

namespace Machine.Addressable

variable {machine : Machine}

theorem empty : Machine.empty.Addressable :=
  List.forall_mem_singleton.mpr nofun

theorem of_current (addressable : machine.Addressable) {after : Machine}
    (enclosing : after.enclosing = machine.enclosing)
    (current : ∀ name ∈ after.current.references.names,
      IsAddressable name ∨ name ∈ machine.current.references.names) : after.Addressable := by
  refine List.forall_mem_cons.mpr ⟨fun name member => ?_, ?_⟩
  · exact (current name member).elim id (addressable _ List.mem_cons_self name)
  · rw [enclosing]
    exact fun frame outer => addressable frame (List.mem_cons_of_mem _ outer)

variable (addressable : machine.Addressable)

include addressable

theorem declare {name : Text} (proper : IsAddressable name) (stored : Variable) :
    (machine.declare name stored).Addressable := by
  refine addressable.of_current rfl fun other member => ?_
  rcases Table.mem_names_insert member with rfl | present
  · exact .inl proper
  · exact .inr present

theorem assign (name : Text) (value : Value) : (machine.assign name value).Addressable := by
  apply addressable.of_current (enclosing_assign machine name value)
  intro other member
  rw [current_assign] at member
  exact .inr member

theorem remove (name : Text) : (machine.remove name).Addressable :=
  addressable.of_current rfl fun _ member => .inr (Table.mem_names_erase member)

theorem revised (revision : Revision) : (machine.revised revision).Addressable := by
  apply addressable.of_current (enclosing_revised machine revision)
  intro other member
  rw [current_revised] at member
  exact .inr member

theorem toggleComment : machine.toggleComment.Addressable :=
  addressable.of_current rfl fun _ member => .inr member

theorem enter : machine.enter.Addressable :=
  List.forall_mem_cons.mpr ⟨addressable machine.current List.mem_cons_self, addressable⟩

theorem leave : machine.leave.Addressable := by
  unfold Machine.leave
  split
  · exact addressable
  · next outer rest enclosing =>
      rw [Machine.Addressable, enclosing, List.forall_mem_cons, List.forall_mem_cons] at addressable
      refine List.forall_mem_cons.mpr ⟨fun name member => ?_, addressable.2.2⟩
      rcases Table.mem_names_update member with inside | outside
      · exact addressable.1 name inside
      · exact addressable.2.1 name outside

theorem outermost : machine.outermost.Addressable := by
  refine List.forall_mem_singleton.mpr ?_
  unfold Machine.outermost
  cases last : machine.enclosing.getLast? with
  | none => exact addressable machine.current List.mem_cons_self
  | some outer => exact addressable outer (List.mem_cons_of_mem _ (List.mem_of_getLast? last))

theorem withOutermost {other : Machine} (inner : other.Addressable) :
    (machine.withOutermost other).Addressable := by
  have replaced := inner other.current List.mem_cons_self
  unfold Machine.withOutermost
  split
  · exact List.forall_mem_singleton.mpr replaced
  · next last rest reversed =>
      refine List.forall_mem_cons.mpr ⟨addressable machine.current List.mem_cons_self, ?_⟩
      intro frame member
      rcases List.mem_cons.mp (List.mem_reverse.mp member) with rfl | between
      · exact replaced
      · have outer : frame ∈ machine.enclosing := by
          rw [← List.mem_reverse, reversed]
          exact List.mem_cons_of_mem last between
        exact addressable frame (List.mem_cons_of_mem _ outer)

theorem perform {action : Action} {after : Machine}
    (named : ∀ name ∈ action.names, IsAddressable name)
    (performed : Line.Performed action machine after) : after.Addressable := by
  cases performed with
  | nothing | write | drawAndWrite => exact addressable
  | declare | listen | drawAndDeclare => exact addressable.declare (named _ List.mem_cons_self) _
  | assign => exact addressable.assign _ _
  | exchange => exact (addressable.assign _ _).assign _ _
  | remove => exact addressable.remove _

end Machine.Addressable

end Linewise
