import Linewise.Text.Basic

/-!
What the server tells its clients.
-/

namespace Linewise.Session

/-- Where an output comes from. -/
inductive Channel
  | output
  | errors
  /-- A message of the server about a failure. -/
  | failure
  /-- What a user entered, shown again. -/
  | echo
deriving DecidableEq, Repr

inductive Event
  | connected (session : Text)
  | output (channel : Channel) (text : Text)
  | inputRequest (prompt : Text)
  | inputProvided (text : Text)
  /-- A line was executed, or failed with a message. -/
  | lineExecuted (line : Text) (failure : Option Text)
  | executionStarted
  | executionFinished
  | executionStopped
  | executionPaused
  | executionResumed
  | interpreterReset
  | refused (message : Text)
deriving DecidableEq, Repr

/-- An event and whom it goes to: everybody in the room of a session, or the caller alone. -/
structure Sent where
  event : Event
  room : Option Text
deriving DecidableEq, Repr

end Linewise.Session
