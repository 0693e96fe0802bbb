import Linewise.Session.Step

/-!
Rules for the steps of clients. What holds after a wait, after a run in a workspace or after a step
is put together from what holds after its parts, whatever it is that holds. A property of the server
that is followed through the steps needs to be looked at only where a rule asks for it.
-/

namespace Linewise.Session.Server

variable {Holds Ended : Server → Prop} {server : Server} {client : Text} {id : WorkspaceId}

/-! ## Workspaces -/

theorem activeSession?_eq_some_iff {session : Text} :
    server.activeSession? client = some (session, id) ↔
      server.clients.find? client = some session ∧ server.active.find? session = some id := by
  constructor
  · intro current
    rcases Option.bind_eq_some_iff.mp current with ⟨known, own, rest⟩
    rcases Option.bind_eq_some_iff.mp rest with ⟨found, present, same⟩
    cases same
    exact ⟨own, present⟩
  · rintro ⟨own, present⟩
    simp [activeSession?, own, present]

theorem workspace?_modifyWorkspace (server : Server) (id target : WorkspaceId)
    (change : Workspace → Workspace) :
    (server.modifyWorkspace id change).workspace? target =
      if id = target then (server.workspace? target).map change else server.workspace? target :=
  Array.getElem?_modify

theorem workspace?_modifyWorkspace_of_ne (server : Server) {id target : WorkspaceId}
    (different : id ≠ target) (change : Workspace → Workspace) :
    (server.modifyWorkspace id change).workspace? target = server.workspace? target := by
  rw [workspace?_modifyWorkspace, if_neg different]

theorem workspace?_renewWorkspace (server : Server) (session : Text) (target : WorkspaceId) :
    (server.renewWorkspace session).2.workspace? target =
      if target = server.workspaces.size then some (.new session)
      else server.workspace? target := by
  rw [workspace?, workspace?, renewWorkspace, Array.getElem?_push]

/-! ## Captures

A capture sends its lines on and keeps what is left. `Tends` asks for no more than these two. -/

/-- The property is kept when the session of a workspace is told something, and when a capture of
the workspace is replaced. -/
structure Tends (id : WorkspaceId) (Holds : Server → Prop) : Prop where
  announce (event : Event) {server : Server} (holds : Holds server) :
    Holds (server.announce id event)
  replace (port : Port) (capture : Capture) {server : Server} (holds : Holds server) :
    Holds (server.modifyWorkspace id (·.replace port capture))

namespace Tends

section Single

variable (tends : Tends id Holds)

include tends

theorem announceLines (channel : Channel) (lines : List Text) {server : Server}
    (holds : Holds server) : Holds (server.announceLines id channel lines) := by
  unfold Server.announceLines
  induction lines generalizing server with
  | nil => exact holds
  | cons line rest induction => exact induction (tends.announce _ holds)

theorem pass (port : Port) (act : Capture → List Text × Capture) (holds : Holds server) :
    Holds (server.pass id port act) := by
  unfold Server.pass
  split
  · exact holds
  · exact tends.replace port _ (tends.announceLines _ _ holds)

theorem flushOutput (holds : Holds server) : Holds (server.flushOutput id) :=
  tends.pass .output Capture.flush holds

theorem flushErrors (holds : Holds server) : Holds (server.flushErrors id) :=
  tends.pass .errors Capture.flush holds

end Single

section Every

variable (tends : ∀ id, Tends id Holds)
  (printed : ∀ {server}, Holds server → ∀ texts, Holds { server with printed := texts })

include tends printed

theorem writeTo (sink : Sink) (text : Text) (holds : Holds server) :
    Holds (server.writeTo sink text) := by
  cases sink with
  | server => exact printed holds _
  | output id => exact (tends id).pass .output (·.write text) holds
  | errors id => exact (tends id).pass .errors (·.write text) holds

end Every

end Tends

/-! ## Waiting -/

theorem exists_of_takeEntered? {after : Server} {text : Text}
    (taken : server.takeEntered? id = some (text, after)) :
    ∃ workspace rest, server.workspace? id = some workspace ∧ workspace.entered = text :: rest ∧
      after = server.modifyWorkspace id ({ · with entered := rest }) := by
  unfold takeEntered? at taken
  rcases Option.bind_eq_some_iff.mp taken with ⟨workspace, found, taken⟩
  split at taken
  · cases taken
  · next rest entered =>
      cases taken
      exact ⟨workspace, rest, found, entered, rfl⟩

theorem of_takeEntered? {after : Server} {text : Text}
    (modified : ∀ rest, Holds (server.modifyWorkspace id ({ · with entered := rest })))
    (taken : server.takeEntered? id = some (text, after)) : Holds after := by
  rcases exists_of_takeEntered? taken with ⟨_, rest, _, _, rfl⟩
  exact modified rest

theorem of_provideInput {text : Text}
    (refused : ∀ message, Holds (server.reply (.refused message)))
    (entered : ∀ session id, server.activeSession? client = some (session, id) →
      (server.workspace? id).any (·.waiting) = true →
      Holds (((server.modifyWorkspace id fun workspace =>
        { workspace with entered := workspace.entered ++ [text] }).reply
          (.inputProvided text)).send (.output .echo (text ++ ['\n'])) (some session))) :
    Holds (server.provideInput client text) := by
  unfold provideInput
  split
  · exact refused _
  · next session id current =>
      split
      · next waits => exact entered session id current waits
      · exact refused _

/-- What holds as long as a text is waited for in a workspace, and what holds when the wait is
over. -/
structure Waits (nested : Step → Server → StepEnd × Server) (client : Text) (id : WorkspaceId)
    (Holds Ended : Server → Prop) : Prop where
  taken {server after : Server} {text : Text} (holds : Holds server)
    (taken : server.takeEntered? id = some (text, after)) : Ended after
  idle {server : Server} (holds : Holds server) (nothing : server.takeEntered? id = none) :
    Ended server
  entered {server : Server} {text : Text} {rest : List Answer} (holds : Holds server)
    (nothing : server.takeEntered? id = none) (answers : server.answers = .text text :: rest) :
    Holds ({ server with answers := rest }.provideInput client text)
  stepped {server after : Server} {step : Step} {rest : List Answer} (holds : Holds server)
    (nothing : server.takeEntered? id = none) (answers : server.answers = .step step :: rest)
    (done : nested step { server with answers := rest } = (.done, after)) : Holds after
  exited {server after : Server} {step : Step} {rest : List Answer} {code : Nat}
    (holds : Holds server) (nothing : server.takeEntered? id = none)
    (answers : server.answers = .step step :: rest)
    (exits : nested step { server with answers := rest } = (.exited code, after)) : Ended after

section Waiting

variable {nested : Step → Server → StepEnd × Server}

theorem Waits.of_texts
    (texts : ∀ {server}, Holds server → ∀ answer ∈ server.answers, ∃ text, answer = .text text)
    (taken : ∀ {server after text}, Holds server →
      server.takeEntered? id = some (text, after) → Ended after)
    (idle : ∀ {server}, Holds server → Ended server)
    (entered : ∀ {server text rest}, Holds server → server.answers = .text text :: rest →
      Holds ({ server with answers := rest }.provideInput client text)) :
    Waits nested client id Holds Ended := by
  have absent {server : Server} {step : Step} {rest : List Answer} (holds : Holds server) :
      server.answers ≠ .step step :: rest := by
    intro answers
    rcases texts holds (.step step) (by rw [answers]; exact .head _) with ⟨text, equal⟩
    cases equal
  exact ⟨taken, fun holds _ => idle holds, fun holds _ => entered holds,
    fun holds _ answers => absurd answers (absent holds),
    fun holds _ answers => absurd answers (absent holds)⟩

theorem Waits.await (waits : Waits nested client id Holds Ended) (turns : Nat) {server : Server}
    (holds : Holds server) : Ended (await nested client id turns server).2 := by
  induction turns generalizing server with
  | zero =>
      unfold Server.await
      split
      · next taken => exact waits.taken holds taken
      · next nothing => exact waits.idle holds nothing
  | succ turns induction =>
      unfold Server.await
      split
      · next taken => exact waits.taken holds taken
      · next nothing =>
          split
          · exact waits.idle holds nothing
          · next answers => exact induction (waits.entered holds nothing answers)
          · next answers =>
              split
              · next done => exact induction (waits.stepped holds nothing answers done)
              · next exits => exact waits.exited holds nothing answers exits

def asking (server : Server) (id : WorkspaceId) (prompt : Text) : Server :=
  ((server.flushOutput id).announce id (.inputRequest prompt)).modifyWorkspace id
    ({ · with waiting := true })

theorem getInput_eq (nested : Step → Server → StepEnd × Server) (client : Text) (id : WorkspaceId)
    (prompt : Text) (server : Server) :
    getInput nested client id prompt server =
      let (reply, after) := await nested client id ((server.asking id prompt).answers.length + 1)
        (server.asking id prompt)
      (reply, after.modifyWorkspace id ({ · with waiting := false })) := rfl

theorem of_ask (Holds : Machine → Server → Prop) {store : Machine → Machine → Machine}
    {load : Machine → Machine} {prompt : Text} {machine : Machine}
    (refused : Holds machine (server.writeTo server.streams.output prompt))
    (asked : ∀ reader, server.streams.input = .workspace reader → ∀ after,
      (getInput nested client reader prompt (server.modifyWorkspace id fun workspace =>
        { workspace with machine := store workspace.machine machine })).2 = after →
      Holds (((after.workspace? id).map fun workspace => load workspace.machine).getD machine)
        after) :
    Holds ((host nested client id store load).ask prompt machine server).2.1
      ((host nested client id store load).ask prompt machine server).2.2 := by
  unfold host
  simp only
  split
  · exact refused
  · next reader input =>
      rcases result : getInput nested client reader prompt (server.modifyWorkspace id
        fun workspace => { workspace with machine := store workspace.machine machine }) with
        ⟨reply, after⟩
      simp only
      exact asked reader input after (congrArg Prod.snd result)

end Waiting

/-! ## Runs

An execution prepares its workspace, runs on a host and puts things back. A property that survives
each of these survives the execution. -/

def started (server : Server) (id : WorkspaceId) : Server :=
  ((server.modifyWorkspace id ({ · with running := true })).redirect id).announce id
    .executionStarted

def finished (server : Server) (id : WorkspaceId) : Server :=
  ((server.modifyWorkspace id ({ · with running := false })).restore id).announce id
    .executionFinished

/-- What a program in a workspace talks to. Its whole machine lies in the workspace while it
waits. -/
def programHost (nested : Step → Server → StepEnd × Server) (client : Text) (id : WorkspaceId) :
    Host Server :=
  host nested client id (fun _ machine => machine) fun machine => machine

def lineHost (nested : Step → Server → StepEnd × Server) (client : Text) (id : WorkspaceId) :
    Host Server :=
  host nested client id Machine.withOutermost Machine.outermost

def lineMachine (server : Server) (id : WorkspaceId) : Machine :=
  ((server.workspace? id).map (·.machine.outermost)).getD .empty

section Running

variable {nested : Step → Server → StepEnd × Server}

theorem of_executeCode {code : Text} (tends : Tends id Holds)
    (ran : ∀ ending machine after,
      Program.run (programHost nested client id) code .empty (server.started id) =
        (ending, machine, after) →
      Holds (after.modifyWorkspace id ({ · with machine := machine })))
    (ends : ∀ {after}, Holds after → Ended (after.finished id)) :
    Ended (executeCode nested client id code server) := by
  rcases result : Program.run (programHost nested client id) code .empty (server.started id) with
    ⟨ending, machine, after⟩
  have holds := ran ending machine after result
  unfold started programHost at result
  unfold executeCode
  simp only [result]
  cases ending with
  | returned => exact ends (tends.flushErrors (tends.flushOutput holds))
  | exited | unfinished => exact ends holds

theorem of_executeLine {line : Text} (tends : Tends id Holds)
    (skipped : (line.isEmpty || Text.startsWith line ['#']) = true → Ended server)
    (ran : (line.isEmpty || Text.startsWith line ['#']) = false → ∀ outcome machine after,
      Line.execute (lineHost nested client id) line ((server.redirect id).lineMachine id)
        (server.redirect id) = (outcome, machine, after) →
      Holds (after.modifyWorkspace id fun workspace =>
        { workspace with machine := workspace.machine.withOutermost machine }))
    (ends : ∀ {after}, Holds after → Ended (after.restore id)) :
    Ended (executeLine nested client id line server) := by
  unfold executeLine
  split
  · next skips => exact skipped skips
  · next executes =>
      rcases result : Line.execute (lineHost nested client id) line
        ((server.redirect id).lineMachine id) (server.redirect id) with ⟨outcome, machine, after⟩
      have holds := ran (Bool.eq_false_iff.mpr executes) outcome machine after result
      unfold lineHost lineMachine at result
      simp only [result]
      cases outcome with
      | done => exact ends (tends.announce _ (tends.flushErrors (tends.flushOutput holds)))
      | failed error => exact ends (tends.announce _ (tends.announce _ holds))
      | exited code => exact ends holds

end Running

/-! ## Steps -/

def admitted (server : Server) (client : Text) : Server :=
  let session := sessionName (server.sessions + 1)
  let (id, server) := { server with
    sessions := server.sessions + 1
    clients := server.clients.insert client session }.renewWorkspace session
  { server with registered := server.registered.insert session id }.reply (.connected session)

theorem connect_eq_print (server : Server) (client : Text) :
    connect server client = (admitted server client).print
      ("Client connected: ".toList ++ sessionName (server.sessions + 1)) := rfl

def dismissed (server : Server) (session : Text) : Server :=
  let server := server.stopSession session
  { server with
    active := server.active.erase session
    registered := server.registered.erase session
    threads := server.threads.filter (· ≠ session) }

theorem disconnect_eq_print {session : Text} (known : server.clients.find? client = some session) :
    disconnect server client =
      (dismissed server session).print ("Client disconnected: ".toList ++ session) := by
  rw [disconnect, known]
  rfl

theorem of_stopSession (Holds : Server → Prop) {session : Text} (holds : Holds server)
    (stopped : ∀ id, server.active.find? session = some id →
      Holds (server.modifyWorkspace id ({ · with running := false }))) :
    Holds (server.stopSession session) := by
  unfold stopSession
  split
  · next id found => exact stopped id found
  · exact holds

theorem of_cleanup (Holds Ended : Server → Prop) (holds : Holds server)
    (stops : ∀ id {server}, Holds server →
      Holds (server.modifyWorkspace id ({ · with running := false })))
    (clears : ∀ {server}, Holds server →
      Ended { server with active := .empty, registered := .empty, threads := [] }) :
    Ended (cleanup server) := by
  have stopped : ∀ (pairs : List (Text × WorkspaceId)) {start : Server}, Holds start →
      Holds (pairs.foldl (fun server pair =>
        server.modifyWorkspace pair.2 ({ · with running := false })) start) := by
    intro pairs
    induction pairs with
    | nil => exact fun holds => holds
    | cons pair rest induction => exact fun holds => induction (stops pair.2 holds)
  exact clears (stopped server.active.pairs holds)

theorem of_control {change : Workspace → Workspace} {event : Event}
    (inactive : server.activeSession? client = none → Holds server)
    (changed : ∀ session id, server.activeSession? client = some (session, id) →
      Holds ((server.modifyWorkspace id change).reply event)) :
    Holds (control server client change event) := by
  unfold control
  split
  · next current => exact inactive current
  · next session id current => exact changed session id current

theorem of_onWorkspace {action : Server → WorkspaceId → Server}
    (inactive : server.activeSession? client = none → Holds server)
    (acts : ∀ session id, server.activeSession? client = some (session, id) →
      Holds (action server id)) : Holds (onWorkspace server client action) := by
  unfold onWorkspace
  split
  · next current => exact inactive current
  · next session id current => exact acts session id current

theorem of_reset (inactive : server.activeSession? client = none → Holds server)
    (renewed : ∀ session id, server.activeSession? client = some (session, id) →
      Holds (((server.modifyWorkspace id ({ · with running := false })).renewWorkspace
        session).2.reply .interpreterReset)) : Holds (reset server client) := by
  unfold reset
  split
  · next current => exact inactive current
  · next session id current => exact renewed session id current

section Starting

variable {nested : Step → Server → StepEnd × Server}

theorem of_startCode {code : Text}
    (inactive : server.activeSession? client = none → ∀ message,
      Holds (server.reply (.refused message)))
    (blank : (Text.strip code).isEmpty = true → ∀ message, Holds (server.reply (.refused message)))
    (runs : ∀ session id, server.activeSession? client = some (session, id) →
      (Text.strip code).isEmpty = false →
      Holds (executeCode nested client (server.openWorkspace session id).1 (Text.strip code)
        (server.openWorkspace session id).2)) :
    Holds (startCode nested server client code) := by
  unfold startCode
  split
  · next current => exact inactive current _
  · next session id current =>
      simp only
      split
      · next empty => exact blank empty _
      · next solid => exact runs session id current (Bool.eq_false_iff.mpr solid)

theorem of_startLine {line : Text}
    (inactive : server.activeSession? client = none → ∀ message,
      Holds (server.reply (.refused message)))
    (runs : ∀ session id, server.activeSession? client = some (session, id) →
      Holds (executeLine nested client id (Text.strip line) server)) :
    Holds (startLine nested server client line) := by
  unfold startLine
  split
  · next current => exact inactive current _
  · next session id current => exact runs session id current

end Starting

/-- The way in which the steps within waits are taken, at most `depth` deep. -/
def within : Nat → Text → Step → Server → StepEnd × Server
  | 0, _ => fun _ server => (.done, server)
  | depth + 1, client => takeStep depth client

theorem takeStep_eq (depth : Nat) (client : Text) :
    takeStep depth client = stepWithin (within depth client) client := by
  cases depth <;> rfl

def during (server : Server) (answers : List Answer) : Server :=
  { server with printed := [], sent := [], answers := answers }

/-- The states that the server comes to by steps of clients. -/
inductive Reachable (draws : List Nat) : Server → Prop
  | start : Reachable draws (.start draws)
  | perform {server : Server} (reachable : Reachable draws server) (client : Text) (step : Step)
      (answers : List Answer) : Reachable draws (server.perform client step answers).2

end Linewise.Session.Server
