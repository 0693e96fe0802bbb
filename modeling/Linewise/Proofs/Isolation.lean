import Linewise.Proofs.Pending

/-!
Sessions of different clients. What a step of a client does stays within the client's own session:
the other sessions keep their workspaces as they are, and nobody else is told anything. This rests
on what holds between steps: each active session has a workspace that was made for it, and the
streams are the server's own. It also rests on what expressions are here: one that is evaluated
sees the variables of its own machine, and nothing of the server.
-/

namespace Linewise.Session

/-- The step is for all sessions at once. -/
def Step.concernsAll : Step → Bool
  | .cleanup | .signal => true
  | _ => false

namespace Server

/-! ## Within a session -/

/-- Since the start, nothing was done outside the client's session, whose workspace this is. -/
structure Confined (client session : Text) (id : WorkspaceId) (start server : Server) : Prop where
  current : server.activeSession? client = some (session, id)
  owned : server.Owned
  active (other : Text) : other ≠ session →
    server.active.find? other = start.active.find? other
  kept (other : Text) (target : WorkspaceId) : other ≠ session →
    start.active.find? other = some target → server.workspace? target = start.workspace? target
  clients : server.clients = start.clients
  sessions : server.sessions = start.sessions
  rooms : ∀ sent ∈ server.sent, sent.room = none ∨ sent.room = some session

theorem confined_refl {server : Server} {client session : Text} {id : WorkspaceId}
    (owned : server.Owned) (unsent : server.sent = [])
    (current : server.activeSession? client = some (session, id)) :
    Confined client session id server server where
  current := current
  owned := owned
  active _ _ := rfl
  kept _ _ _ _ := rfl
  clients := rfl
  sessions := rfl
  rooms := by
    rw [unsent]
    exact nofun

namespace Confined

variable {client session : Text} {id : WorkspaceId} {start server : Server}
  (confined : Confined client session id start server)

include confined

theorem owner : server.owner? id = some session :=
  confined.owned session id (activeSession?_eq_some_iff.mp confined.current).2

theorem ne {other : Text} {target : WorkspaceId} (different : other ≠ session)
    (found : start.active.find? other = some target) : id ≠ target :=
  confined.owned.ne different (activeSession?_eq_some_iff.mp confined.current).2
    ((confined.active other different).trans found)

theorem modifyWorkspace (change : Workspace → Workspace)
    (keeps : ∀ workspace, (change workspace).session = workspace.session) :
    Confined client session id start (server.modifyWorkspace id change) where
  current := confined.current
  owned other target found := by
    rw [owner?_modifyWorkspace server id target keeps]
    exact confined.owned other target found
  active := confined.active
  kept other target different found := by
    rw [workspace?_modifyWorkspace_of_ne server (confined.ne different found)]
    exact confined.kept other target different found
  clients := confined.clients
  sessions := confined.sessions
  rooms := confined.rooms

theorem send (event : Event) {room : Option Text} (own : room = none ∨ room = some session) :
    Confined client session id start (server.send event room) :=
  { confined with rooms := List.forall_mem_cons.mpr ⟨own, confined.rooms⟩ }

theorem reply (event : Event) : Confined client session id start (server.reply event) :=
  confined.send event (.inl rfl)

theorem announce (event : Event) : Confined client session id start (server.announce id event) := by
  have owner := confined.owner
  rw [owner?] at owner
  rcases Option.map_eq_some_iff.mp owner with ⟨workspace, found, own⟩
  rw [Server.announce, found]
  exact confined.send event (.inr (congrArg some own))

omit confined in
theorem tends : Tends id (Confined client session id start) where
  announce event _ confined := confined.announce event
  replace port _ _ confined := confined.modifyWorkspace _ fun _ => by cases port <;> rfl

theorem write (port : Port) (text : Text) :
    Confined client session id start (server.writeTo (port.sink id) text) := by
  rw [writeTo_sink]
  exact tends.pass port _ confined

theorem draw : Confined client session id start server.draw.2 := by
  unfold Server.draw
  split
  · exact confined
  · exact { confined with }

theorem redirect : Confined client session id start (server.redirect id) :=
  { confined.modifyWorkspace ({ · with saved := server.streams }) fun _ => rfl with }

theorem restore : Confined client session id start (server.restore id) := by
  unfold Server.restore
  split
  · exact { confined with }
  · exact confined

theorem provideInput (text : Text) :
    Confined client session id start (server.provideInput client text) := by
  apply of_provideInput
  · exact fun _ => confined.reply _
  · intro other target current _
    cases confined.current.symm.trans current
    have entered := confined.modifyWorkspace
      (fun workspace => { workspace with entered := workspace.entered ++ [text] }) fun _ => rfl
    exact (entered.reply _).send _ (.inr rfl)

theorem renew : Confined client session server.workspaces.size start
    (server.renewWorkspace session).2 where
  current := activeSession?_eq_some_iff.mpr
    ⟨(activeSession?_eq_some_iff.mp confined.current).1, Table.find?_insert_self _ _ _⟩
  owned := confined.owned.renew session
  active other different :=
    (Table.find?_insert_of_ne _ _ (Ne.symm different)).trans (confined.active other different)
  kept other target different found := by
    have owner := confined.owned other target ((confined.active other different).trans found)
    rw [workspace?_renewWorkspace, if_neg (Nat.ne_of_lt (lt_size_of_owner? owner))]
    exact confined.kept other target different found
  clients := confined.clients
  sessions := confined.sessions
  rooms := confined.rooms

theorem openWorkspace : Confined client session (server.openWorkspace session id).1 start
    (server.openWorkspace session id).2 :=
  { (confined.modifyWorkspace ({ · with running := false }) fun _ => rfl).renew with }

end Confined

/-! ## Runs within a session -/

/-- While something runs in the session's workspace, with nothing but texts to be entered. -/
structure Occupied (client session : Text) (id : WorkspaceId) (start server : Server) : Prop
    extends Confined client session id start server where
  streams : server.streams = .ofWorkspace id
  texts : ∀ answer ∈ server.answers, ∃ text, answer = .text text

namespace Occupied

variable {client session : Text} {id : WorkspaceId} {start server : Server}
  (occupied : Occupied client session id start server)

include occupied

theorem unwired {after : Server} (confined : Confined client session id start after)
    (unwired : Unwired server after) : Occupied client session id start after where
  toConfined := confined
  streams := (congrArg Wiring.streams unwired.wiring).trans occupied.streams
  texts := by
    rw [unwired.answers]
    exact occupied.texts

theorem modifyWorkspace (change : Workspace → Workspace)
    (keeps : ∀ workspace, (change workspace).session = workspace.session)
    (saved : ∀ workspace, (change workspace).saved = workspace.saved) :
    Occupied client session id start (server.modifyWorkspace id change) :=
  occupied.unwired (occupied.toConfined.modifyWorkspace change keeps)
    (.modifyWorkspace server id change saved)

theorem write (port : Port) {sink : Sink} (own : sink = port.sink id) (text : Text) :
    Occupied client session id start (server.writeTo sink text) := by
  subst own
  exact occupied.unwired (occupied.toConfined.write port text) (.writeTo _ _ _)

omit occupied in
theorem waits (nested : Step → Server → StepEnd × Server) :
    Waits nested client id (Occupied client session id start)
      (Occupied client session id start) := by
  apply Waits.of_texts
  · exact fun occupied => occupied.texts
  · intro server after text occupied
    exact of_takeEntered? fun _ => occupied.modifyWorkspace _ (fun _ => rfl) fun _ => rfl
  · exact fun occupied => occupied
  · intro server text rest occupied answers
    have used : Occupied client session id start { server with answers := rest } :=
      ⟨{ occupied.toConfined with }, occupied.streams, fun answer member =>
        occupied.texts answer (by rw [answers]; exact .tail _ member)⟩
    exact used.unwired (used.toConfined.provideInput text) (.provideInput _ client text)

theorem getInput (nested : Step → Server → StepEnd × Server) (prompt : Text) :
    Occupied client session id start (getInput nested client id prompt server).2 := by
  have asked : Confined client session id start (server.asking id prompt) :=
    ((Confined.tends.flushOutput occupied.toConfined).announce _).modifyWorkspace _ fun _ => rfl
  have waiting := occupied.unwired asked (.asking server id prompt)
  rw [getInput_eq]
  exact ((waits nested).await _ waiting).modifyWorkspace _ (fun _ => rfl) fun _ => rfl

theorem ask (nested : Step → Server → StepEnd × Server) (store : Machine → Machine → Machine)
    (load : Machine → Machine) (prompt : Text) (machine : Machine) :
    Occupied client session id start
      ((host nested client id store load).ask prompt machine server).2.2 := by
  rw [ask_of_captured nested client store load prompt machine occupied.streams]
  have stored := occupied.modifyWorkspace (fun workspace =>
    { workspace with machine := store workspace.machine machine }) (fun _ => rfl) fun _ => rfl
  exact stored.getInput nested prompt

end Occupied

theorem host_keeps_occupied (nested : Step → Server → StepEnd × Server) (client session : Text)
    (id : WorkspaceId) (store : Machine → Machine → Machine) (load : Machine → Machine)
    (start : Server) :
    (host nested client id store load).Keeps (Occupied client session id start) where
  write occupied := occupied.write .output (congrArg Streams.output occupied.streams) _
  complain occupied := occupied.write .errors (congrArg Streams.errors occupied.streams) _
  ask prompt machine _ occupied := occupied.ask nested store load prompt machine
  draw occupied := occupied.unwired occupied.toConfined.draw (.draw _)

namespace Confined

variable {client session : Text} {id : WorkspaceId} {start server : Server}
  (confined : Confined client session id start server)
  (texts : ∀ answer ∈ server.answers, ∃ text, answer = .text text)

include confined texts

theorem executeCode (nested : Step → Server → StepEnd × Server) (code : Text) :
    Confined client session id start (executeCode nested client id code server) := by
  apply of_executeCode tends
  · intro ending machine after result
    have begun := (confined.modifyWorkspace ({ · with running := true }) fun _ => rfl).redirect
    have unwired := Unwired.started server id
    have opened : Occupied client session id start (server.started id) :=
      ⟨begun.announce _, congrArg Wiring.streams unwired.wiring, by
        rw [unwired.answers]
        exact texts⟩
    have ran : Occupied client session id start (Program.run (programHost nested client id) code
        .empty (server.started id)).2.2 :=
      Program.world_run (host_keeps_occupied nested client session id _ _ start) code .empty opened
    rw [result] at ran
    exact ran.toConfined.modifyWorkspace _ fun _ => rfl
  · intro after confined
    exact (confined.modifyWorkspace ({ · with running := false }) fun _ => rfl).restore.announce _

theorem executeLine (nested : Step → Server → StepEnd × Server) (line : Text) :
    Confined client session id start (executeLine nested client id line server) := by
  apply of_executeLine tends
  · exact fun _ => confined
  · intro _ outcome machine after result
    have opened : Occupied client session id start (server.redirect id) :=
      ⟨confined.redirect, rfl, texts⟩
    have ran : Occupied client session id start (Line.execute (lineHost nested client id) line
        ((server.redirect id).lineMachine id) (server.redirect id)).2.2 :=
      (host_keeps_occupied nested client session id _ _ start).execute opened line _
    rw [result] at ran
    exact ran.toConfined.modifyWorkspace _ fun _ => rfl
  · exact fun confined => confined.restore

end Confined

/-! ## Steps

Connecting adds a session and leaves the others alone. Every other step that concerns one client is
confined to their session. -/

/-- A step of the client has left all other sessions as they were, and has told nothing to anybody
but the caller and the client's session. -/
structure Contained (client : Text) (before after : Server) : Prop where
  active (session : Text) : after.clients.find? client ≠ some session →
    after.active.find? session = before.active.find? session
  workspaces (session : Text) (id : WorkspaceId) : after.clients.find? client ≠ some session →
    before.active.find? session = some id → after.workspace? id = before.workspace? id
  rooms : ∀ sent ∈ after.events, sent.room = none ∨ sent.room = after.clients.find? client

theorem Confined.contained {client session : Text} {id : WorkspaceId} {start server : Server}
    (confined : Confined client session id start server) : Contained client start server := by
  have own := (activeSession?_eq_some_iff.mp confined.current).1
  refine ⟨?_, ?_, ?_⟩
  · intro other elsewhere
    rw [own, ne_eq, Option.some.injEq] at elsewhere
    exact confined.active other (Ne.symm elsewhere)
  · intro other target elsewhere found
    rw [own, ne_eq, Option.some.injEq] at elsewhere
    exact confined.kept other target (Ne.symm elsewhere) found
  · intro sent member
    rw [own]
    exact confined.rooms sent (List.mem_reverse.mp member)

/-- As long as the streams are the server's own, what it prints is seen by nobody else. -/
theorem print_of_server {server : Server} (own : server.streams = .server) (text : Text) :
    server.print text = { server with printed := ['\n'] :: text :: server.printed } := by
  simp only [print, own, Streams.server, writeTo]

theorem Owned.workspace?_stopSession {server : Server} (owned : server.Owned)
    {session other : Text} {target : WorkspaceId} (different : other ≠ session)
    (found : server.active.find? other = some target) :
    (server.stopSession session).workspace? target = server.workspace? target := by
  apply of_stopSession fun after => after.workspace? target = server.workspace? target
  · rfl
  · intro id here
    exact workspace?_modifyWorkspace_of_ne server (owned.ne different here found) _

section Steps

variable {client : Text} {server : Server} (owned : server.Owned) (unsent : server.sent = [])

include unsent

theorem contained_refl : Contained client server server where
  active _ _ := rfl
  workspaces _ _ _ _ := rfl
  rooms := by
    rw [events, unsent]
    exact List.forall_mem_nil _

theorem contained_refused (message : Text) :
    Contained client server (server.reply (.refused message)) where
  active _ _ := rfl
  workspaces _ _ _ _ := rfl
  rooms := by
    rw [events, reply, send, unsent]
    exact List.forall_mem_singleton.mpr (.inl rfl)

include owned

theorem contained_connect (own : server.streams = .server) :
    Contained client server (connect server client) := by
  have here : (admitted server client).clients.find? client =
      some (sessionName (server.sessions + 1)) := Table.find?_insert_self _ _ _
  have streams : (admitted server client).streams = .server := own
  rw [connect_eq_print, print_of_server streams]
  refine ⟨fun session elsewhere => ?_, fun session id elsewhere found => ?_, fun sent member => ?_⟩
  · apply Table.find?_insert_of_ne
    rintro rfl
    exact elsewhere here
  · exact (workspace?_renewWorkspace _ _ _).trans
      (if_neg (Nat.ne_of_lt (lt_size_of_owner? (owned session id found))))
  · have member : sent ∈ (⟨.connected _, none⟩ :: server.sent).reverse := member
    rw [unsent] at member
    exact .inl (List.mem_singleton.mp member ▸ rfl)

theorem contained_disconnect (own : server.streams = .server) :
    Contained client server (disconnect server client) := by
  cases known : server.clients.find? client with
  | none =>
      rw [disconnect, known]
      exact contained_refl unsent
  | some session =>
      have unwired := Unwired.stopSession server session
      have clients : (dismissed server session).clients = server.clients :=
        congrArg Wiring.clients unwired.wiring
      have active : (dismissed server session).active = server.active.erase session :=
        congrArg (fun wiring : Wiring => wiring.active.erase session) unwired.wiring
      have streams : (dismissed server session).streams = .server :=
        (congrArg Wiring.streams unwired.wiring).trans own
      have kept : (dismissed server session).sent = server.sent := by
        simp only [dismissed, stopSession]
        split <;> rfl
      have here : (dismissed server session).clients.find? client = some session := by
        rw [clients, known]
      rw [disconnect_eq_print known, print_of_server streams]
      refine ⟨fun other elsewhere => ?_, fun other id elsewhere found => ?_,
        fun sent member => ?_⟩
      · refine (congrArg (Table.find? · other) active).trans (Table.find?_erase_of_ne _ ?_)
        rintro rfl
        exact elsewhere here
      · have different : other ≠ session := by
          rintro rfl
          exact elsewhere here
        exact owned.workspace?_stopSession different found
      · have member : sent ∈ (dismissed server session).sent.reverse := member
        rw [kept, unsent] at member
        cases member

theorem contained_control (change : Workspace → Workspace) (event : Event)
    (keeps : ∀ workspace, (change workspace).session = workspace.session) :
    Contained client server (control server client change event) := by
  apply of_control
  · exact fun _ => contained_refl unsent
  · intro session id current
    exact (((confined_refl owned unsent current).modifyWorkspace change keeps).reply
      event).contained

theorem contained_onWorkspace {action : Server → WorkspaceId → Server}
    (acts : ∀ {session id}, Confined client session id server server →
      Confined client session id server (action server id)) :
    Contained client server (onWorkspace server client action) := by
  apply of_onWorkspace
  · exact fun _ => contained_refl unsent
  · exact fun _ _ current => (acts (confined_refl owned unsent current)).contained

theorem contained_reset : Contained client server (reset server client) := by
  apply of_reset
  · exact fun _ => contained_refl unsent
  · intro session id current
    have stopped := (confined_refl owned unsent current).modifyWorkspace
      ({ · with running := false }) fun _ => rfl
    exact (stopped.renew.reply .interpreterReset).contained

theorem contained_stepWithin (own : server.streams = .server)
    (texts : ∀ answer ∈ server.answers, ∃ text, answer = .text text)
    (nested : Step → Server → StepEnd × Server) {step : Step} (single : step.concernsAll = false) :
    Contained client server (stepWithin nested client step server).2 := by
  cases step with
  | connect => exact contained_connect owned unsent own
  | disconnect => exact contained_disconnect owned unsent own
  | executeCode code =>
      apply of_startCode
      · exact fun _ => contained_refused unsent
      · exact fun _ => contained_refused unsent
      · intro session id current _
        have opened := (confined_refl owned unsent current).openWorkspace
        exact (opened.executeCode texts nested _).contained
  | executeLine line =>
      apply of_startLine
      · exact fun _ => contained_refused unsent
      · intro session id current
        exact ((confined_refl owned unsent current).executeLine texts nested _).contained
  | provideInput text =>
      cases current : server.activeSession? client with
      | none =>
          rw [stepWithin, provideInput, current]
          exact contained_refused unsent _
      | some pair => exact ((confined_refl owned unsent current).provideInput text).contained
  | stopExecution | pauseExecution | resumeExecution =>
      exact contained_control owned unsent _ _ fun _ => rfl
  | resetInterpreter => exact contained_reset owned unsent
  | write text toErrors =>
      apply contained_onWorkspace owned unsent
      intro session id confined
      cases toErrors with
      | true => exact confined.write .errors text
      | false => exact confined.write .output text
  | flush | flushLine =>
      exact contained_onWorkspace owned unsent fun confined => Confined.tends.flushOutput confined
  | cleanup | signal => cases single

end Steps

/-! ## Sequences of steps -/

/-- The states that the server comes to by steps of which each is for the session of its client, and
waits in which only texts are entered. -/
inductive Calm (draws : List Nat) : Server → Prop
  | start : Calm draws (.start draws)
  | perform {server : Server} (calm : Calm draws server) (client : Text) {step : Step}
      (single : step.concernsAll = false) (texts : List Text) :
      Calm draws (server.perform client step (texts.map .text)).2

theorem Calm.reachable {draws : List Nat} {server : Server} (calm : Calm draws server) :
    Reachable draws server := by
  induction calm with
  | start => exact .start
  | perform _ client _ _ induction => exact induction.perform client _ _

theorem exists_text_of_mem {texts : List Text} {answer : Answer}
    (member : answer ∈ texts.map .text) : ∃ text, answer = .text text := by
  rcases List.mem_map.mp member with ⟨text, _, rfl⟩
  exact ⟨text, rfl⟩

/-- Where only texts are entered, the server has its own streams between steps. -/
theorem Calm.streams {draws : List Nat} {server : Server} (calm : Calm draws server) :
    server.streams = .server := by
  induction calm with
  | start => rfl
  | @perform server calm client step _ texts induction =>
      rcases takes_perform server client step (texts.map .text) with ⟨used, split, taken⟩
      apply (taken.streams_eq_server_iff calm.reachable.valid induction).mpr
      apply exposed_of_texts
      intro answer member
      have split : texts.map .text = used ++ _ := split
      exact exists_text_of_mem (split ▸ List.mem_append_left _ member)

/-- A step of the client has left all other sessions as they were, has told nothing to anybody but
the caller and the client's session, and that session is no other client's. -/
structure Isolated (client : Text) (before after : Server) : Prop
    extends Contained client before after where
  strangers (other session : Text) : other ≠ client →
    after.clients.find? other = some session → after.clients.find? client ≠ some session

/-- Whatever steps clients have taken, a step of a client leaves the workspaces of all sessions but
the client's own as they are, and what it sends goes to the caller or to that session, which is no
other client's. -/
theorem isolated_perform {draws : List Nat} {server : Server} (calm : Calm draws server)
    (client : Text) {step : Step} (single : step.concernsAll = false) (texts : List Text) :
    Isolated client server (server.perform client step (texts.map .text)).2 := by
  have numbered := (calm.reachable.perform client step (texts.map .text)).numbered
  have owned : (server.during (texts.map .text)).Owned := calm.reachable.owned
  have contained : Contained client (server.during (texts.map .text))
      (server.perform client step (texts.map .text)).2 := by
    rw [perform, takeStep_eq]
    exact contained_stepWithin owned rfl calm.streams (fun _ member => exists_text_of_mem member) _
      single
  refine ⟨⟨contained.active, contained.workspaces, contained.rooms⟩, ?_⟩
  intro other session different found same
  exact different (numbered.distinct found same)

def shared : Server :=
  ((((Server.start []).perform "a".toList .connect []).2.perform "b".toList .connect []).2.perform
    "a".toList (.write "half a line".toList false) []).2

def greeted : Server :=
  (shared.perform "b".toList (.executeCode "LISTEN STR x \"name\"\nSAY \"hi\"".toList)
    [.text "bob".toList]).2

theorem isolated_perform_greeted :
    shared.active.find? "sid-1".toList = some 0 ∧
      greeted.active.find? "sid-1".toList = some 0 ∧
      greeted.workspace? 0 = shared.workspace? 0 ∧
      ⟨.output .output "hi".toList, some "sid-2".toList⟩ ∈ greeted.events ∧
      ∀ sent ∈ greeted.events, sent.room = none ∨ sent.room = some "sid-2".toList := by
  have connects : Step.connect.concernsAll = false := rfl
  have first := ((@Calm.start []).perform "a".toList connects []).perform "b".toList connects []
  have calm : Calm [] shared := first.perform "a".toList
    (show (Step.write "half a line".toList false).concernsAll = false from rfl) []
  have executes :
      (Step.executeCode "LISTEN STR x \"name\"\nSAY \"hi\"".toList).concernsAll = false := rfl
  have isolated : Isolated "b".toList shared greeted :=
    isolated_perform calm "b".toList executes ["bob".toList]
  have own : greeted.clients.find? "b".toList = some "sid-2".toList := by decide +kernel
  have other : greeted.clients.find? "b".toList ≠ some "sid-1".toList := by decide +kernel
  have present : shared.active.find? "sid-1".toList = some 0 := by decide +kernel
  refine ⟨present, (isolated.active _ other).trans present, isolated.workspaces _ 0 other present,
    by decide +kernel, fun sent member => ?_⟩
  rw [← own]
  exact isolated.rooms sent member

end Server

end Linewise.Session
