import Linewise.Proofs.Outlet
import Linewise.Proofs.Simulation

/-!
Captured text at the end of an execution. A ledger is kept beside the run, of what it writes to the
captures of its workspace. A program that returns, or a line that is done, leaves nothing pending;
one that ends in another way leaves the lines that it has not ended.
-/

namespace Linewise.Session

/-! ## Ledgers

A ledger goes along with a run and notes what is written to each capture of the workspace. -/

/-- What is written to a capture during a run. -/
structure Account where
  /-- The line that was open at the start, or after the last wait. -/
  begun : Text
  /-- What was written since then. -/
  recent : Text
  /-- The line that was open at the start, and all that was written. -/
  whole : Text

namespace Account

def note (account : Account) (text : Text) : Account :=
  ⟨account.begun, account.recent ++ text, account.whole ++ text⟩

def openLine (account : Account) : Text := Session.openLine account.begun account.recent

theorem openLine_note (account : Account) (text : Text) :
    (account.note text).openLine = Session.openLine account.openLine text :=
  openLine_append _ _ _

end Account

def Server.pending (server : Server) (id : WorkspaceId) (port : Port) : Text :=
  ((server.outlet? id).map fun outlet => (outlet.capture port).pending).getD []

/-- A server, and what a run on it has written to the captures of its workspace. -/
structure Ledger where
  server : Server
  account : Port → Account

namespace Ledger

variable (id : WorkspaceId)

def start (server : Server) : Ledger :=
  ⟨server, fun port => ⟨server.pending id port, [], server.pending id port⟩⟩

def note (sink : Sink) (text : Text) (server : Server) (ledger : Ledger) : Ledger :=
  ⟨server, fun port =>
    if port.sink id = sink then (ledger.account port).note text else ledger.account port⟩

/-- Go on after a wait. What was written in the wait is not the run's. -/
def resume (server : Server) (ledger : Ledger) : Ledger :=
  ⟨server, fun port =>
    { ledger.account port with begun := server.pending id port, recent := [] }⟩

def host (host : Host Server) : Host Ledger where
  write text ledger :=
    ledger.note id ledger.server.streams.output text (host.write text ledger.server)
  complain text ledger :=
    ledger.note id ledger.server.streams.errors text (host.complain text ledger.server)
  ask prompt machine ledger :=
    let (reply, machine, server) := host.ask prompt machine ledger.server
    (reply, machine, ledger.resume id server)
  draw ledger :=
    let (number, server) := host.draw ledger.server
    (number, { ledger with server })

theorem host_simulates (plain : Host Server) :
    (host id plain).Simulates plain (fun _ => False) fun ledger server =>
      server = ledger.server where
  spoiled := Host.keeps_false _
  write text := by
    rintro ledger _ rfl
    rfl
  complain text := by
    rintro ledger _ rfl
    rfl
  ask prompt machine := by
    rintro ledger _ rfl
    exact .inr ⟨rfl, rfl, rfl⟩
  draw := by
    rintro ledger _ rfl
    exact ⟨rfl, rfl⟩

theorem run_eq (plain : Host Server) (source : Text) (machine : Machine) (ledger : Ledger) :
    Program.run plain source machine ledger.server =
      ((Program.run (host id plain) source machine ledger).1,
        (Program.run (host id plain) source machine ledger).2.1,
        (Program.run (host id plain) source machine ledger).2.2.server) :=
  ((Program.run_simulated (host_simulates id plain) source machine rfl).resolve_left not_false).eq

theorem execute_eq (plain : Host Server) (line : Text) (machine : Machine) (ledger : Ledger) :
    Line.execute plain line machine ledger.server =
      ((Line.execute (host id plain) line machine ledger).1,
        (Line.execute (host id plain) line machine ledger).2.1,
        (Line.execute (host id plain) line machine ledger).2.2.server) :=
  (((host_simulates id plain).execute rfl line machine).resolve_left not_false).eq

/-- The lines that are open by the ledger are pending. -/
def Tracks (ledger : Ledger) : Prop :=
  ∀ outlet, ledger.server.outlet? id = some outlet →
    ∀ port, (outlet.capture port).pending = (ledger.account port).openLine

/-- Nobody else has written to the captures, and all that was written is told or pending. -/
structure Accounts (ledger : Ledger) : Prop where
  texts : ∀ answer ∈ ledger.server.answers, ∃ text, answer = .text text
  streams : ledger.server.streams = .ofWorkspace id
  conveys : ledger.server.Conveys id fun port => (ledger.account port).whole

variable {id}

theorem pending_eq {server : Server} {outlet : Outlet}
    (found : server.outlet? id = some outlet) (port : Port) :
    server.pending id port = (outlet.capture port).pending := by
  rw [Server.pending, found]
  rfl

theorem tracks_start (server : Server) : Tracks id (start id server) :=
  fun _ found port => (pending_eq found port).symm

theorem tracks_resume (server : Server) (ledger : Ledger) : Tracks id (ledger.resume id server) :=
  fun _ found port => (pending_eq found port).symm

namespace Tracks

variable {ledger : Ledger} (tracks : Tracks id ledger)

include tracks

theorem write (sink : Sink) (text : Text) :
    Tracks id (ledger.note id sink text (ledger.server.writeTo sink text)) := by
  intro outlet found port
  simp only [note] at found ⊢
  by_cases own : ∃ used : Port, used.sink id = sink
  · obtain ⟨used, rfl⟩ := own
    rw [Server.writeTo_sink, Server.outlet?_pass, if_pos rfl] at found
    obtain ⟨before, known, rfl⟩ := Option.map_eq_some_iff.mp found
    have pending := tracks before known
    simp only [Port.sink_inj, and_true, Outlet.replace]
    by_cases same : port = used
    · subst same
      rw [if_pos rfl, Function.update_self, Capture.pending_write, pending port,
        Account.openLine_note]
    · rw [if_neg same, Function.update_of_ne same]
      exact pending port
  · -- The text goes to another workspace or to the server itself.
    rw [if_neg fun same => own ⟨port, same⟩]
    rw [Server.outlet?_writeTo_of_ne _ fun used same => own ⟨used, same⟩] at found
    exact tracks outlet found port

theorem mute {server : Server} (mute : Server.Mute ledger.server server) :
    Tracks id { ledger with server } :=
  fun outlet found => tracks outlet ((mute.outlet? id).symm.trans found)

end Tracks

theorem whole_note (ledger : Ledger) (port : Port) (text : Text) (server : Server) :
    (fun other => ((ledger.note id (port.sink id) text server).account other).whole) =
      Function.update (fun other => (ledger.account other).whole) port
        ((ledger.account port).whole ++ text) := by
  funext other
  simp only [note, Port.sink_inj, and_true]
  by_cases same : other = port
  · subst same
    rw [if_pos rfl, Function.update_self, Account.note]
  · rw [if_neg same, Function.update_of_ne same]

namespace Accounts

variable {ledger : Ledger} (accounts : Accounts id ledger)

include accounts

theorem write (port : Port) {sink : Sink} (own : sink = port.sink id) (text : Text) :
    Accounts id (ledger.note id sink text (ledger.server.writeTo sink text)) := by
  subst own
  have unwired := Server.Unwired.writeTo ledger.server (port.sink id) text
  have written := accounts.conveys.write port text
  rw [← whole_note] at written
  refine ⟨?_, (congrArg Wiring.streams unwired.wiring).trans accounts.streams, written⟩
  rw [note, unwired.answers]
  exact accounts.texts

theorem mute {server : Server} (mute : Server.Mute ledger.server server) :
    Accounts id { ledger with server } where
  texts answer member := accounts.texts answer (mute.answers member)
  streams := mute.streams.trans accounts.streams
  conveys := accounts.conveys.silent mute.toSilent

theorem ask (nested : Step → Server → StepEnd × Server) (client : Text)
    (store : Machine → Machine → Machine) (load : Machine → Machine) (prompt : Text)
    (machine : Machine) :
    Accounts id (ledger.resume id
      ((Server.host nested client id store load).ask prompt machine ledger.server).2.2) := by
  have stored := accounts.mute (.modifyWorkspace ledger.server id
    (fun workspace => { workspace with machine := store workspace.machine machine }) fun _ => rfl)
  obtain ⟨conveys, streams, answers⟩ :=
    Server.conveys_getInput stored.conveys stored.texts nested client prompt
  rw [Server.ask_of_captured nested client store load prompt machine accounts.streams]
  generalize (Server.getInput nested client id prompt _).2 = after at conveys streams answers ⊢
  exact ⟨fun answer member => accounts.texts answer (answers member),
    streams.trans accounts.streams, conveys⟩

end Accounts

/-! ## Ledgers of runs -/

/-- What holds of a ledger during a run that began with the server in this state. -/
structure Sound (client : Text) (id : WorkspaceId) (begun : Server) (ledger : Ledger) : Prop where
  reaches : Server.Reaches client begun ledger.server
  tracks : Tracks id ledger
  accounts (texts : ∀ answer ∈ begun.answers, ∃ text, answer = .text text) : Accounts id ledger

theorem host_keeps {client : Text} {nested : Step → Server → StepEnd × Server} {bound : Nat}
    (takes : ∀ step server, server.answers.length < bound →
      Server.Takes client step server (nested step server).2)
    (store : Machine → Machine → Machine) (load : Machine → Machine) (begun : Server)
    (enough : begun.answers.length ≤ bound) :
    (host id (Server.host nested client id store load)).Keeps (Sound client id begun) where
  write sound :=
    { reaches := (Server.host_keeps takes id store load begun enough).write sound.reaches
      tracks := sound.tracks.write _ _
      accounts := fun texts => (sound.accounts texts).write .output
        (congrArg Streams.output (sound.accounts texts).streams) _ }
  complain sound :=
    { reaches := (Server.host_keeps takes id store load begun enough).complain sound.reaches
      tracks := sound.tracks.write _ _
      accounts := fun texts => (sound.accounts texts).write .errors
        (congrArg Streams.errors (sound.accounts texts).streams) _ }
  ask prompt machine _ sound :=
    { reaches := (Server.host_keeps takes id store load begun enough).ask prompt machine
        sound.reaches
      tracks := tracks_resume _ _
      accounts := fun texts => (sound.accounts texts).ask nested client store load prompt machine }
  draw sound :=
    { reaches := (Server.host_keeps takes id store load begun enough).draw sound.reaches
      tracks := sound.tracks.mute (.draw _)
      accounts := fun texts => (sound.accounts texts).mute (.draw _) }

end Ledger

namespace Server

/-! ## What is left -/

theorem exists_outlet?_iff {server : Server} {id : WorkspaceId} :
    (∃ outlet, server.outlet? id = some outlet) ↔ id < server.wiring.saved.size := by
  simp only [outlet?, workspace?, wiring, Option.map_eq_some_iff, Array.size_map]
  constructor
  · rintro ⟨_, workspace, found, _⟩
    exact (Array.getElem?_eq_some_iff.mp found).1
  · intro known
    exact ⟨_, _, Array.getElem?_eq_getElem known, rfl⟩

theorem Reaches.exists_outlet? {client : Text} {before after : Server} {id : WorkspaceId}
    (reaches : Reaches client before after) (found : ∃ outlet, before.outlet? id = some outlet) :
    ∃ outlet, after.outlet? id = some outlet := by
  obtain ⟨used, _, waited⟩ := reaches
  exact exists_outlet?_iff.mpr (Nat.lt_of_lt_of_le (exists_outlet?_iff.mp found) waited.size_le)

/-- What is left in the captures of a workspace of what a run has written to them: nothing if they
were flushed, and otherwise the open lines. If only texts were entered meanwhile, all else was told
to the session. -/
structure Leaves (id : WorkspaceId) (flushed entered : Prop) (ledger : Ledger) (after : Server) :
    Prop where
  pending : ∃ outlet, after.outlet? id = some outlet ∧ ∀ port,
    (flushed → (outlet.capture port).pending = []) ∧
      (¬ flushed → (outlet.capture port).pending = (ledger.account port).openLine)
  conveys : entered → after.Conveys id fun port => (ledger.account port).whole

namespace Leaves

variable {id : WorkspaceId} {flushed entered : Prop} {ledger : Ledger} {before after : Server}

theorem congr {other : Prop} (leaves : Leaves id flushed entered ledger after)
    (same : flushed ↔ other) : Leaves id other entered ledger after :=
  propext same ▸ leaves

theorem silent (leaves : Leaves id flushed entered ledger before) (silent : Silent before after) :
    Leaves id flushed entered ledger after where
  pending := by
    rw [silent.outlet?]
    exact leaves.pending
  conveys holds := (leaves.conveys holds).silent silent

theorem flush (leaves : Leaves id False entered ledger before) :
    Leaves id True entered ledger ((before.flushOutput id).flushErrors id) where
  pending := by
    obtain ⟨outlet, found, _⟩ := leaves.pending
    rw [flushErrors_eq_pass, outlet?_pass, if_pos rfl, flushOutput_eq_pass, outlet?_pass,
      if_pos rfl, found]
    refine ⟨_, rfl, fun port => ⟨fun _ => ?_, fun unflushed => absurd trivial unflushed⟩⟩
    cases port with
    | output => exact Capture.pending_flush _
    | errors => exact Capture.pending_flush _
  conveys holds := ((leaves.conveys holds).flush .output).flush .errors

end Leaves

/-- The server is ready for a run in a workspace, whose session it has told nothing yet. -/
structure Ready (server : Server) (id : WorkspaceId) : Prop where
  found : ∃ outlet, server.outlet? id = some outlet
  streams : server.streams = .ofWorkspace id
  untold (session : Text) (port : Port) : server.told session port.channel = []

theorem Ready.mute {server after : Server} {id : WorkspaceId} (ready : server.Ready id)
    (mute : Mute server after) : after.Ready id where
  found := by
    rw [mute.outlet?]
    exact ready.found
  streams := mute.streams.trans ready.streams
  untold session port := (mute.told session port).trans (ready.untold session port)

theorem ready_redirect {server : Server} {id : WorkspaceId}
    (found : ∃ outlet, server.outlet? id = some outlet) (unsent : server.sent = []) :
    (server.redirect id).Ready id where
  found := by
    rw [(Silent.redirect server id).outlet?]
    exact found
  streams := rfl
  untold session port := by
    rw [(Silent.redirect server id).told, told, events, unsent]
    rfl

theorem Ready.sound {server : Server} {id : WorkspaceId} (ready : server.Ready id)
    (client : Text) : Ledger.Sound client id server (.start id server) where
  reaches := .refl client server
  tracks := Ledger.tracks_start server
  accounts texts := by
    obtain ⟨outlet, found⟩ := ready.found
    refine ⟨texts, ready.streams, outlet, found, fun port => ?_⟩
    have untold : (Ledger.start id server).server.told outlet.session port.channel = [] :=
      ready.untold _ _
    rw [untold, List.nil_append]
    exact congrArg unbroken (Ledger.pending_eq found port).symm

theorem Leaves.of_sound {client : Text} {id : WorkspaceId} {begun : Server} {ledger : Ledger}
    (ready : begun.Ready id) (sound : Ledger.Sound client id begun ledger) :
    Leaves id False (∀ answer ∈ begun.answers, ∃ text, answer = .text text) ledger
      ledger.server where
  pending := by
    obtain ⟨outlet, found⟩ := sound.reaches.exists_outlet? ready.found
    exact ⟨outlet, found, fun port => ⟨False.elim, fun _ => sound.tracks outlet found port⟩⟩
  conveys texts := (sound.accounts texts).conveys

/-! ## Executions -/

section Recorded

variable (nested : Step → Server → StepEnd × Server) (client : Text) (id : WorkspaceId)

def recordCode (code : Text) (server : Server) : Ending × Machine × Ledger :=
  Program.run (Ledger.host id (host nested client id (fun _ machine => machine)
    (fun machine => machine))) code .empty (.start id (server.started id))

def recordLine (line : Text) (server : Server) : Outcome × Machine × Ledger :=
  let server := server.redirect id
  Line.execute (Ledger.host id (host nested client id Machine.withOutermost Machine.outermost))
    line (((server.workspace? id).map (·.machine.outermost)).getD .empty) (.start id server)

end Recorded

section Executions

variable {client : Text} {nested : Step → Server → StepEnd × Server} {bound : Nat}
  (takes : ∀ step server, server.answers.length < bound →
    Takes client step server (nested step server).2)
  {id : WorkspaceId} {server : Server} (enough : server.answers.length ≤ bound)
  (found : ∃ outlet, server.outlet? id = some outlet) (unsent : server.sent = [])

include takes enough found unsent

theorem leaves_executeCode (code : Text) :
    Leaves id ((recordCode nested client id code server).1 = .returned)
      (∀ answer ∈ server.answers, ∃ text, answer = .text text)
      (recordCode nested client id code server).2.2 (executeCode nested client id code server) := by
  have ready : (server.started id).Ready id := by
    have running := Mute.modifyWorkspace server id ({ · with running := true }) fun _ => rfl
    rw [← running.outlet?] at found
    exact (ready_redirect found unsent).mute (.announce _ id .executionStarted rfl)
  have same : (server.started id).answers = server.answers := (Unwired.announce _ id _).answers
  have sound := Program.world_run (Ledger.host_keeps takes (fun _ machine => machine)
    (fun machine => machine) (server.started id) (by rw [same]; exact enough)) code .empty
    (ready.sound client)
  have left := Leaves.of_sound ready sound
  rw [same] at left
  have run := Ledger.run_eq id (host nested client id (fun _ machine => machine)
    (fun machine => machine)) code .empty (.start id (server.started id))
  rw [executeCode]
  simp only [recordCode]
  generalize Program.run (Ledger.host id _) code .empty (.start id (server.started id)) = recorded
    at run left ⊢
  rw [Ledger.start, started] at run
  simp only at run
  rw [run]
  obtain ⟨ending, machine, ledger⟩ := recorded
  simp only at left ⊢
  have kept := left.silent
    (Mute.modifyWorkspace ledger.server id ({ · with machine := machine }) fun _ => rfl).toSilent
  have closes (closed : Server) : Silent closed
      (((closed.modifyWorkspace id ({ · with running := false })).restore id).announce id
        .executionFinished) :=
    ((Mute.modifyWorkspace closed id ({ · with running := false }) fun _ => rfl).toSilent.trans
      (.restore _ id)).trans (Mute.announce _ id .executionFinished rfl).toSilent
  -- Only a program that returns has its captures flushed.
  cases ending with
  | returned => exact (kept.flush.silent (closes _)).congr (by simp)
  | exited code => exact (kept.silent (closes _)).congr (by simp)
  | unfinished => exact (kept.silent (closes _)).congr (by simp)

theorem leaves_executeLine {line : Text}
    (executes : (line.isEmpty || Text.startsWith line ['#']) = false) :
    Leaves id ((recordLine nested client id line server).1 = .done)
      (∀ answer ∈ server.answers, ∃ text, answer = .text text)
      (recordLine nested client id line server).2.2 (executeLine nested client id line server) := by
  have ready := ready_redirect found unsent
  have sound := (Ledger.host_keeps takes Machine.withOutermost Machine.outermost
    (server.redirect id) enough).execute (ready.sound client) line
      ((((server.redirect id).workspace? id).map (·.machine.outermost)).getD .empty)
  have left := Leaves.of_sound ready sound
  have same : (server.redirect id).answers = server.answers := rfl
  rw [same] at left
  have run := Ledger.execute_eq id (host nested client id Machine.withOutermost Machine.outermost)
    line ((((server.redirect id).workspace? id).map (·.machine.outermost)).getD .empty)
    (.start id (server.redirect id))
  rw [executeLine, if_neg (Bool.eq_false_iff.mp executes)]
  simp only [recordLine]
  generalize Line.execute (Ledger.host id _) line _ (.start id (server.redirect id)) = recorded
    at run left ⊢
  rw [Ledger.start] at run
  simp only at run
  rw [run]
  obtain ⟨outcome, machine, ledger⟩ := recorded
  simp only at left ⊢
  have kept := left.silent (Mute.modifyWorkspace ledger.server id
    (fun workspace => { workspace with machine := workspace.machine.withOutermost machine })
    fun _ => rfl).toSilent
  have announces (closed : Server) (event : Event) (quiet : event.isCaptured = false) :
      Silent closed (closed.announce id event) := (Mute.announce closed id event quiet).toSilent
  cases outcome with
  | done =>
      exact (kept.flush.silent ((announces _ _ rfl).trans (.restore _ id))).congr (by simp)
  | failed error =>
      exact (kept.silent (((announces _ _ rfl).trans (announces _ _ rfl)).trans
        (.restore _ id))).congr (by simp)
  | exited code => exact (kept.silent (.restore _ id)).congr (by simp)

end Executions

/-! ## Steps -/

theorem takes_within (depth : Nat) (client : Text) (step : Step) (server : Server)
    (fewer : server.answers.length < depth) :
    Takes client step server (within depth client step server).2 := by
  cases depth with
  | zero => exact absurd fewer (Nat.not_lt_zero _)
  | succ depth => exact takes_takeStep client depth step server (Nat.le_of_lt_succ fewer)

/-- A program leaves nothing in the captures of its workspace if it returns, nor does a line that is
done. Otherwise the line that is open stays there, and is not told to the session. -/
theorem pending_after_execution {draws : List Nat} {server : Server}
    (reachable : Reachable draws server) {client session : Text} {id : WorkspaceId}
    (active : server.activeSession? client = some (session, id)) (answers : List Answer) :
    (∀ code, (Text.strip code).isEmpty = false →
      let opened := (server.during answers).openWorkspace session id
      let recorded := recordCode (within answers.length client) client opened.1 (Text.strip code)
        opened.2
      Leaves opened.1 (recorded.1 = .returned) (∀ answer ∈ answers, ∃ text, answer = .text text)
        recorded.2.2 (server.perform client (.executeCode code) answers).2) ∧
    (∀ line, ((Text.strip line).isEmpty || Text.startsWith (Text.strip line) ['#']) = false →
      let recorded := recordLine (within answers.length client) client id (Text.strip line)
        (server.during answers)
      Leaves id (recorded.1 = .done) (∀ answer ∈ answers, ∃ text, answer = .text text)
        recorded.2.2 (server.perform client (.executeLine line) answers).2) := by
  have takes := takes_within answers.length client
  have known : (server.during answers).activeSession? client = some (session, id) := active
  constructor
  · intro code solid opened recorded
    have found : ∃ outlet, opened.2.outlet? opened.1 = some outlet := by
      rw [exists_outlet?_iff, openWorkspace_fst, wiring_openWorkspace, Wiring.size_renew]
      exact Nat.lt_succ_self _
    have left := leaves_executeCode takes (Nat.le_refl answers.length) found rfl (Text.strip code)
    rw [perform, takeStep_eq]
    simp only [stepWithin]
    rw [← during, startCode, known]
    simp only [solid]
    exact left
  · intro line executes recorded
    have found : ∃ outlet, (server.during answers).outlet? id = some outlet :=
      exists_outlet?_iff.mpr (reachable.valid.id_lt active)
    have left := leaves_executeLine takes (Nat.le_refl answers.length) found rfl executes
    rw [perform, takeStep_eq]
    simp only [stepWithin]
    rw [← during, startLine, known]
    exact left

def connected : Server := ((Server.start []).perform "a".toList .connect []).2

def leaving : Text := "IF true DO\nSAY \"hi\"\nEXIT\nENDO".toList

theorem pending_after_execution_leaving :
    connected.activeSession? "a".toList = some ("sid-1".toList, 0) ∧
      ∃ outlet, (connected.perform "a".toList (.executeCode leaving) []).2.outlet? 1 = some outlet ∧
        (outlet.capture .output).pending = "hi".toList := by
  have reachable := (@Reachable.start []).perform "a".toList .connect []
  have active : connected.activeSession? "a".toList = some ("sid-1".toList, 0) := by decide +kernel
  have left := (pending_after_execution reachable active []).1 leaving (by decide +kernel)
  have ended : (recordCode (within 0 "a".toList) "a".toList 1 (Text.strip leaving)
      ((connected.during []).openWorkspace "sid-1".toList 0).2).1 = .exited 0 := by decide +kernel
  have line : ((recordCode (within 0 "a".toList) "a".toList 1 (Text.strip leaving)
      ((connected.during []).openWorkspace "sid-1".toList 0).2).2.2.account .output).openLine =
        "hi".toList := by decide +kernel
  obtain ⟨outlet, found, pending⟩ := left.pending
  refine ⟨active, outlet, found, ((pending .output).2 fun returned => ?_).trans line⟩
  cases ended.symm.trans returned

end Server

end Linewise.Session
