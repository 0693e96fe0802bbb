import Linewise.Proofs.Cutting
import Linewise.Proofs.Pending

/-!
Whatever is done with a capture, nothing gets lost in it. The texts that it hands on and the text
that is pending are, one after another, the texts that were written to it without their line ends;
and a client who writes to the capture of a workspace and flushes it is told just these texts.
-/

namespace Linewise.Session

theorem unbroken_eq_self {text : Text} (unended : '\n' ∉ text) : unbroken text = text := by
  apply List.filter_eq_self.mpr
  intro character member
  exact bne_iff_ne.mpr fun ends => unended (ends ▸ member)

theorem not_mem_of_mem_endedLines {begun text line : Text} (unended : '\n' ∉ begun)
    (member : line ∈ endedLines begun text) : '\n' ∉ line := by
  induction text generalizing begun with
  | nil => cases member
  | cons head tail induction =>
      rw [endedLines] at member
      split at member
      · rcases List.mem_cons.mp member with rfl | later
        · exact unended
        · exact induction List.not_mem_nil later
      · next inside =>
          apply induction _ member
          rw [List.mem_append, List.mem_singleton, not_or]
          exact ⟨unended, Ne.symm inside⟩

/-! ## Calls -/

/-- What can be done with a capture. -/
inductive Call
  | write (text : Text)
  | flush
  /-- Flush the open line ahead of a question. -/
  | flushLine
deriving DecidableEq, Repr

def Call.written : Call → Text
  | write text => text
  | flush | flushLine => []

namespace Capture

def call (capture : Capture) : Call → List Text × Capture
  | .write text => capture.write text
  | .flush | .flushLine => capture.flush

def callAll (capture : Capture) : List Call → List Text × Capture
  | [] => ([], capture)
  | first :: rest =>
      let called := capture.call first
      let later := called.2.callAll rest
      (called.1 ++ later.1, later.2)

/-- No line end is handed on or pending. All that was pending or written since is handed on or
pending, in the same order, but for the line ends. -/
structure Conserves (capture : Capture) (written : Text) (result : List Text × Capture) : Prop where
  isOpen : result.2.IsOpen
  unended : ∀ text ∈ result.1, '\n' ∉ text
  whole : result.1.flatten ++ result.2.pending = capture.pending ++ unbroken written

namespace Conserves

variable {capture : Capture}

theorem refl (isOpen : capture.IsOpen) : Conserves capture [] ([], capture) where
  isOpen := isOpen
  unended := nofun
  whole := (List.append_nil capture.pending).symm

theorem append {first second : Text} {result later : List Text × Capture}
    (before : Conserves capture first result) (after : Conserves result.2 second later) :
    Conserves capture (first ++ second) (result.1 ++ later.1, later.2) where
  isOpen := after.isOpen
  unended text member := (List.mem_append.mp member).elim (before.unended text) (after.unended text)
  whole := by
    calc (result.1 ++ later.1).flatten ++ later.2.pending
        = result.1.flatten ++ (later.1.flatten ++ later.2.pending) := by
          rw [List.flatten_append, List.append_assoc]
      _ = result.1.flatten ++ result.2.pending ++ unbroken second := by
          rw [after.whole, List.append_assoc]
      _ = capture.pending ++ unbroken (first ++ second) := by
          rw [before.whole, unbroken_append, List.append_assoc]

theorem write (isOpen : capture.IsOpen) (text : Text) :
    Conserves capture text (capture.write text) := by
  have open_after : (capture.write text).2.IsOpen := isOpen_write isOpen text
  have unended : ∀ line ∈ (capture.write text).1, '\n' ∉ line := fun line member =>
    not_mem_of_mem_endedLines isOpen ((lines_write_sublist isOpen text).subset member)
  refine ⟨open_after, unended, ?_⟩
  have nowhere : '\n' ∉ (capture.write text).1.flatten ++ (capture.write text).2.pending := by
    rw [List.mem_append, List.mem_flatten, not_or]
    exact ⟨fun ⟨line, member, ends⟩ => unended line member ends, open_after⟩
  calc (capture.write text).1.flatten ++ (capture.write text).2.pending
      = unbroken ((capture.write text).1.flatten ++ (capture.write text).2.pending) :=
        (unbroken_eq_self nowhere).symm
    _ = unbroken capture.pending ++ unbroken text := by
        rw [unbroken_write, unbroken_append]
    _ = capture.pending ++ unbroken text := by rw [unbroken_eq_self isOpen]

theorem flush (isOpen : capture.IsOpen) : Conserves capture [] capture.flush where
  isOpen := by
    rw [IsOpen, pending_flush]
    exact List.not_mem_nil
  unended := by
    unfold Capture.flush
    split
    · intro line member
      cases member
    · exact List.forall_mem_singleton.mpr isOpen
  whole := by rw [flatten_flush, pending_flush]; rfl

theorem call (isOpen : capture.IsOpen) (made : Call) :
    Conserves capture made.written (capture.call made) := by
  cases made with
  | write text => exact write isOpen text
  | flush | flushLine => exact flush isOpen

theorem callAll (isOpen : capture.IsOpen) (calls : List Call) :
    Conserves capture (calls.flatMap Call.written) (capture.callAll calls) := by
  induction calls generalizing capture with
  | nil => exact refl isOpen
  | cons first rest induction =>
      have called := call isOpen first
      exact called.append (induction called.isOpen)

end Conserves

end Capture

/-! ## Calls as steps of a client -/

def Call.step : Call → Step
  | write text => .write text false
  | flush => .flush
  | flushLine => .flushLine

namespace Server

theorem announceLines_eq {server : Server} {id : WorkspaceId} {workspace : Workspace}
    (found : server.workspace? id = some workspace) (channel : Channel) (lines : List Text) :
    server.announceLines id channel lines =
      { server with sent := (lines.map fun line =>
          (⟨.output channel line, some workspace.session⟩ : Sent)).reverse ++ server.sent } := by
  unfold announceLines
  induction lines generalizing server with
  | nil => rfl
  | cons line rest induction =>
      have announced : server.announce id (.output channel line) =
          server.send (.output channel line) (some workspace.session) := by
        rw [announce, found]
      have next : (server.announce id (.output channel line)).workspace? id = some workspace := by
        rw [announced]
        exact found
      rw [List.foldl_cons, induction next, announced]
      simp [send]

/-- The client is in a session with this workspace. -/
structure Holds (server : Server) (client session : Text) (id : WorkspaceId)
    (workspace : Workspace) : Prop where
  active : server.activeSession? client = some (session, id)
  found : server.workspace? id = some workspace

def callAll (server : Server) (client : Text) : List Call → List Sent × Server
  | [] => ([], server)
  | first :: rest =>
      let called := (server.perform client first.step []).2
      let later := called.callAll client rest
      (called.events ++ later.1, later.2)

namespace Holds

variable {server : Server} {client session : Text} {id : WorkspaceId} {workspace : Workspace}
  (holds : server.Holds client session id workspace)

include holds

/-- A call tells the client's session what the capture hands on, and does nothing else. -/
theorem call (made : Call) :
    (server.perform client made.step []).2.Holds client session id
        { workspace with output := (workspace.output.call made).2 } ∧
      (server.perform client made.step []).2.events =
        (workspace.output.call made).1.map fun line =>
          ⟨.output .output line, some workspace.session⟩ := by
  have active : { server with printed := [], sent := [], answers := [] }.activeSession? client =
    some (session, id) := holds.active
  have found : { server with printed := [], sent := [], answers := [] }.workspace? id =
    some workspace := holds.found
  have passed : (server.perform client made.step []).2 =
      { server with printed := [], sent := [], answers := [] }.pass id .output (·.call made) := by
    cases made <;> simp only [perform, List.length_nil, takeStep, Call.step, stepWithin,
      onWorkspace, active] <;> rfl
  rw [passed, pass, found]
  simp only [announceLines_eq found]
  refine ⟨⟨holds.active, ?_⟩, ?_⟩
  · rw [workspace?_modifyWorkspace, if_pos rfl]
    exact congrArg (Option.map _) holds.found
  · simp only [events, modifyWorkspace, List.append_nil, List.reverse_reverse]
    rfl

theorem callAll (calls : List Call) :
    (server.callAll client calls).2.Holds client session id
        { workspace with output := (workspace.output.callAll calls).2 } ∧
      (server.callAll client calls).1 =
        (workspace.output.callAll calls).1.map fun line =>
          ⟨.output .output line, some workspace.session⟩ := by
  induction calls generalizing server workspace with
  | nil => exact ⟨holds, rfl⟩
  | cons first rest induction =>
      obtain ⟨next, events⟩ := holds.call first
      obtain ⟨last, later⟩ := induction next
      refine ⟨last, ?_⟩
      rw [Capture.callAll, List.map_append, ← events, ← later]
      rfl

end Holds

end Server

/-- After any writes and flushes of a new capture no line end is pending and none was handed on, and
the texts handed on and the pending text make up the texts written, without their line ends. A
client who writes to a capture with nothing pending, and flushes it, is told these very texts. -/
theorem Capture.conserved_by_calls (calls : List Call) :
    ('\n' ∉ (empty.callAll calls).2.pending ∧
      (∀ text ∈ (empty.callAll calls).1, '\n' ∉ text) ∧
      (empty.callAll calls).1.flatten ++ (empty.callAll calls).2.pending =
        (calls.flatMap Call.written).filter (· != '\n')) ∧
    ∀ (server : Server) (client session : Text) (id : WorkspaceId) (workspace : Workspace),
      server.Holds client session id workspace → workspace.output = empty →
        (server.callAll client calls).1 = (empty.callAll calls).1.map (fun text =>
          ⟨.output .output text, some workspace.session⟩) ∧
        ((server.callAll client calls).2.workspace? id).map Workspace.output =
          some (empty.callAll calls).2 := by
  have conserves := Conserves.callAll isOpen_empty calls
  refine ⟨⟨conserves.isOpen, conserves.unended, conserves.whole⟩, ?_⟩
  intro server client session id workspace holds nothing
  obtain ⟨after, events⟩ := holds.callAll calls
  rw [nothing] at after events
  exact ⟨events, congrArg (Option.map Workspace.output) after.found⟩

def Call.paragraphs : List Call :=
  [.write "a\n\nb".toList, .flushLine, .write "c\n".toList, .write "d".toList, .flush]

theorem Capture.conserved_by_calls_paragraphs :
    Server.connected.Holds "a".toList "sid-1".toList 0 (.new "sid-1".toList) ∧
      (Server.connected.callAll "a".toList Call.paragraphs).1.map Sent.event =
        ["a".toList, "b".toList, "c".toList, "d".toList].map (.output .output) := by
  have holds : Server.connected.Holds "a".toList "sid-1".toList 0 (.new "sid-1".toList) :=
    ⟨by decide +kernel, by rfl⟩
  have told := ((conserved_by_calls Call.paragraphs).2 _ _ _ _ _ holds rfl).1
  refine ⟨holds, ?_⟩
  rw [told]
  decide

end Linewise.Session
