import Linewise.Proofs.Report

/-!
How programs end. A program returns, or exits with zero or with one. It exits with one just when an
error is reported, and the report is the last thing that happens: no line is executed after it, in
whatever block the error was raised. All this is so however expressions are evaluated, and however
long is waited for the end of a message.
-/

namespace Linewise.Program

variable {World : Type}

/-! ## Up to the report -/

end Linewise.Program
