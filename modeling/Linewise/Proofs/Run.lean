import Linewise.Program
import Linewise.Proofs.Block
import Linewise.Proofs.Line

/-!
Runs of programs: what each kind of line means for the run.
-/

namespace Linewise.Program

variable [Evaluator] {World : Type} (host : Host World) (number : Nat) {line : Text}
  (rest : List Text) (machine : Machine) (world : World)

theorem runFrom_nil : runFrom host number [] machine world = (.returned, machine, world) := by
  rw [runFrom]

theorem runFrom_blank (blank : Text.strip line = []) :
    runFrom host number (line :: rest) machine world =
      runFrom host (number + 1) rest machine world := by
  rw [runFrom]
  simp [blank]

theorem runFrom_mark (present : Text.strip line ≠ [])
    (mark : Text.startsWith (Text.strip line) Line.commentMark = true) :
    runFrom host number (line :: rest) machine world =
      runFrom host (number + 1) rest machine.toggleComment world := by
  rw [runFrom]
  simp [present, mark]

theorem runFrom_comment (unmarked : Text.startsWith (Text.strip line) Line.commentMark = false)
    (comment : machine.current.inComment = true) :
    runFrom host number (line :: rest) machine world =
      runFrom host (number + 1) rest machine world := by
  rw [runFrom]
  simp [unmarked, comment]

theorem runFrom_remark (unmarked : Text.startsWith (Text.strip line) Line.commentMark = false)
    (empty : Line.code (Text.strip line) = []) :
    runFrom host number (line :: rest) machine world =
      runFrom host (number + 1) rest machine world := by
  rw [runFrom]
  simp [unmarked, empty]

variable {machine}

theorem runFrom_simple (present : Text.strip line ≠ [])
    (unmarked : Text.startsWith (Text.strip line) Line.commentMark = false)
    (outside : machine.current.inComment = false) (code : Line.code (Text.strip line) ≠ [])
    (simple : Header.command? (Line.code (Text.strip line)) = none) :
    runFrom host number (line :: rest) machine world =
      proceed host number (simpleLine host (Line.code (Text.strip line)) machine world)
        (runFrom host (number + 1) rest) := by
  rw [runFrom]
  simp [present, unmarked, outside, code, simple]

section Headers

variable (present : Text.strip line ≠ [])
  (unmarked : Text.startsWith (Text.strip line) Line.commentMark = false)
  (outside : machine.current.inComment = false) (code : Line.code (Text.strip line) ≠ [])
  {command : Command} (opens : Header.command? (Line.code (Text.strip line)) = some command)

include present unmarked outside code opens

theorem runFrom_unread {error : Error}
    (unread : Header.read command (Line.code (Text.strip line)) = .error error) :
    runFrom host number (line :: rest) machine world =
      fail host (some number) error machine world := by
  rw [runFrom]
  simp [present, unmarked, outside, code, opens, unread]

variable {header : Header} (read : Header.read command (Line.code (Text.strip line)) = .ok header)

include read

theorem runFrom_unended (unended : Block.cutEnd? 0 rest = none) :
    runFrom host number (line :: rest) machine world =
      fail host (some number) (.missingEnd command.title) machine world := by
  rw [runFrom]
  simp only [List.isEmpty_iff, present, unmarked, outside, code, opens, read, Bool.false_eq_true,
    if_false]
  split
  · rfl
  · next found => rw [unended] at found; cases found

variable {rest} {body after : List Text} (found : Block.cutEnd? 0 rest = some (body, after))

include found

theorem runFrom_header :
    runFrom host number (line :: rest) machine world =
      proceed host number
        (if command = .branch then
          branch host header.condition
            (runFrom host 1 (Block.inner (Block.cutElse 0 body).1))
            (runFrom host 1 (Block.inner ((Block.cutElse 0 body).2.getD []))) machine world
        else
          loop host header.condition (runFrom host 1 (Block.inner body)) iterationLimit
            iterationLimit
            machine world)
        (runFrom host (number + body.length + 2) after) := by
  rw [runFrom]
  simp only [List.isEmpty_iff, present, unmarked, outside, code, opens, read, Bool.false_eq_true,
    if_false]
  split
  · next unended => rw [unended] at found; cases found
  · next same =>
      rw [same] at found
      cases found
      split <;> rfl

end Headers

end Linewise.Program
