import Linewise.Text.Basic

/-!
Captured output. Text is collected until its line ends, and the lines that are complete are handed
on one by one.
-/

namespace Linewise.Session

/-- The text of a line that has not ended yet. -/
structure Capture where
  pending : Text
deriving DecidableEq, Repr

namespace Capture

def empty : Capture := ⟨[]⟩

/-- Write a text: the lines to hand on, and the capture after that. A blank line is handed on only
if the text written ends with a line end. -/
def write (capture : Capture) (text : Text) : List Text × Capture :=
  let collected := capture.pending ++ text
  if text.contains '\n' then
    let pieces := Text.splitAt '\n' collected
    let complete := Text.endsWith collected ['\n']
    (pieces.dropLast.filter fun line => complete || !line.isEmpty,
      ⟨pieces.getLast?.getD []⟩)
  else ([], ⟨collected⟩)

def flush (capture : Capture) : List Text × Capture :=
  if capture.pending.isEmpty then ([], capture) else ([capture.pending], empty)

end Capture

end Linewise.Session
