import Linewise.Proofs.Causes
import Linewise.Proofs.Course
import Linewise.Proofs.LetterCase
import Mathlib.Algebra.Group.Nat.Defs

/-!
How much a program can do. A line is executed once for each round of the loops around it, so that
the lines and the loops of a program tell how many lines a run executes at most. A run comes to its
end unless something that it has evaluated does not.
-/

namespace Linewise.Program

variable {World : Type}

/-! ## Bounds -/

def beginsLoop (line : Text) : Bool :=
  Text.startsWith (Text.lower (Text.strip line)) Block.whileStart

/-- As many lines as are executed if each loop of the lines stands in all others, and goes on as
long as it may. -/
def mostLines (lines : List Text) : Nat :=
  lines.length * iterationLimit ^ lines.countP beginsLoop

namespace Task

def most : Task → Nat
  | sequence _ lines => mostLines lines
  | branch _ consequence alternative => mostLines consequence + mostLines alternative
  | loop _ body _ remaining => remaining * mostLines body

end Task

section Runs

variable [Evaluator] {host : Host World} {task : Task} {machine after : Machine}
  {world later : World} {moments : List (Moment World)} {outcome : Outcome}

def Moment.IsEndless (host : Host World) (moment : Moment World) : Prop :=
  match moment.event with
  | .line code => Line.IsEndless host moment.machine moment.world code
  | .test condition => Condition.IsEndless moment.machine.bindings condition

def AreEndless (host : Host World) (moments : List (Moment World)) : Prop :=
  ∃ moment ∈ moments, moment.IsEndless host

theorem not_areEndless_nil : ¬AreEndless host [] := by simp [AreEndless]

theorem areEndless_cons {moment : Moment World} :
    AreEndless host (moment :: moments) ↔ moment.IsEndless host ∨ AreEndless host moments := by
  simp [AreEndless]

theorem areEndless_append {others : List (Moment World)} :
    AreEndless host (moments ++ others) ↔ AreEndless host moments ∨ AreEndless host others := by
  simp [AreEndless, or_and_right, exists_or]

theorem areEndless_test {condition : Text} {truth : Bool}
    (tested : Condition.holds machine.bindings condition = .ok truth) :
    AreEndless host (⟨.test condition, machine, world⟩ :: moments) ↔ AreEndless host moments := by
  rw [areEndless_cons]
  apply or_iff_right
  intro endless
  rw [(Condition.holds_eq_unfinished_iff _ _).mpr endless] at tested
  cases tested

theorem areEndless_undecided {condition : Text} {error : Error}
    (tested : Condition.holds machine.bindings condition = .error error) :
    AreEndless host [⟨.test condition, machine, world⟩] ↔ error = .unfinished := by
  rw [areEndless_cons, or_iff_left not_areEndless_nil]
  change Condition.IsEndless _ _ ↔ _
  rw [← Condition.holds_eq_unfinished_iff, tested, Except.error.injEq]

omit [Evaluator] in
theorem concluded_eq_unfinished_iff {number : Nat} :
    (concluded host number outcome world).1 = .failed .unfinished ↔
      outcome = .failed .unfinished := by
  cases outcome with
  | done | exited code => exact ⟨nofun, nofun⟩
  | failed error =>
      cases error with
      | unfinished => exact ⟨fun _ => rfl, fun _ => rfl⟩
      | _ => exact ⟨nofun, nofun⟩

omit [Evaluator] in
theorem reading_ne_unfinished (line : Text) (rest : List Text) (machine : Machine) :
    reading line rest machine ≠ .refused .unfinished := by
  intro read
  rcases reading_eq_refused read with stray | stray | ⟨_, _, missing | ⟨missing, _⟩⟩
  · cases stray
  · cases stray
  · cases missing
  · cases missing

/-- A run has no end just if something has none that it has evaluated. -/
theorem Ran.unfinished_iff (ran : Ran host task machine world moments outcome after later) :
    outcome = .failed .unfinished ↔ AreEndless host moments := by
  induction ran with
  | finished => exact iff_of_false nofun not_areEndless_nil
  | skipped _ _ induction => exact induction
  | refused read =>
      rw [concluded_eq_unfinished_iff]
      apply iff_of_false _ not_areEndless_nil
      rintro ⟨⟩
      exact reading_ne_unfinished _ _ _ read
  | line _ executed _ induction =>
      rw [areEndless_cons, induction]
      refine (or_iff_right fun endless => ?_).symm
      cases (Line.isEndless_iff executed).mp endless
  | lineEnded _ executed =>
      rw [concluded_eq_unfinished_iff, areEndless_cons, or_iff_left not_areEndless_nil]
      exact (Line.isEndless_iff executed).symm
  | block _ _ _ insideInduction induction =>
      rw [induction, areEndless_append, ← insideInduction]
      simp
  | blockEnded _ _ _ induction => rw [concluded_eq_unfinished_iff, induction]
  | undecided tested | loopUndecided tested =>
      rw [areEndless_undecided tested]
      simp
  | loopDone tested | loopLimited tested =>
      rw [areEndless_test tested]
      exact iff_of_false nofun not_areEndless_nil
  | chosen tested _ induction | chosenEnded tested _ _ induction
  | roundEnded tested _ _ induction =>
      rw [areEndless_test tested, induction]
  | round tested _ _ insideInduction induction =>
      rw [areEndless_test tested, areEndless_append, ← insideInduction, induction]
      simp

end Runs

end Linewise.Program
