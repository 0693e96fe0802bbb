import Linewise.Proofs.Ownership
import Linewise.Proofs.Wiring

/-!
Redirected streams of the server. Every step of a client, with all that happens while it waits, does
to the wiring of the server what `Wiring.Taken` says; from this it follows when the server has its
own streams back after a step.
-/

namespace Linewise.Session.Server

def wiring (server : Server) : Wiring :=
  ⟨server.workspaces.map (·.saved), server.streams, server.active, server.clients⟩

section Views

variable {View : Type} {workspaces : Array Workspace} {id : WorkspaceId}
  {change : Workspace → Workspace} {view : Workspace → View}

theorem map_modify (changed : View → View)
    (changes : ∀ workspace, view (change workspace) = changed (view workspace)) :
    (workspaces.modify id change).map view = (workspaces.map view).modify id changed := by
  apply Array.ext_getElem?
  intro index
  rw [Array.getElem?_map, Array.getElem?_modify, Array.getElem?_modify, Array.getElem?_map]
  split
  · cases workspaces[index]? with
    | none => rfl
    | some workspace => exact congrArg some (changes workspace)
  · rfl

theorem map_modify_of_keeps (keeps : ∀ workspace, view (change workspace) = view workspace) :
    (workspaces.modify id change).map view = workspaces.map view := by
  rw [map_modify (fun seen => seen) keeps]
  apply Array.ext_getElem?
  intro index
  rw [Array.getElem?_modify]
  split
  · exact Option.map_id'
  · rfl

end Views

theorem wiring_redirect (server : Server) (id : WorkspaceId) :
    (server.redirect id).wiring = server.wiring.redirect id := by
  simp only [wiring, redirect, modifyWorkspace, Wiring.redirect]
  rw [map_modify fun _ => server.streams]
  exact fun _ => rfl

theorem wiring_restore (server : Server) (id : WorkspaceId) :
    (server.restore id).wiring = server.wiring.restore id := by
  unfold restore Wiring.restore workspace?
  simp only [wiring, Array.getElem?_map]
  cases server.workspaces[id]? <;> rfl

theorem wiring_renewWorkspace (server : Server) (session : Text) :
    (server.renewWorkspace session).2.wiring = server.wiring.renew session := by
  simp [wiring, renewWorkspace, Wiring.renew, Workspace.new]

theorem openWorkspace_fst (server : Server) (session : Text) (id : WorkspaceId) :
    (server.openWorkspace session id).1 = server.wiring.saved.size := by
  simp [openWorkspace, renewWorkspace, modifyWorkspace, wiring]

theorem answers_restore (server : Server) (id : WorkspaceId) :
    (server.restore id).answers = server.answers := by
  unfold restore
  split <;> rfl

/-! ## What leaves the wiring alone -/

/-- Nothing was rewired, and no answer was used up. -/
structure Unwired (before after : Server) : Prop where
  wiring : after.wiring = before.wiring
  answers : after.answers = before.answers

namespace Unwired

theorem refl (server : Server) : Unwired server server := ⟨rfl, rfl⟩

theorem trans {first second third : Server} (before : Unwired first second)
    (after : Unwired second third) : Unwired first third :=
  ⟨after.wiring.trans before.wiring, after.answers.trans before.answers⟩

variable (server : Server) (id : WorkspaceId)

theorem modifyWorkspace (change : Workspace → Workspace)
    (keeps : ∀ workspace, (change workspace).saved = workspace.saved) :
    Unwired server (server.modifyWorkspace id change) where
  wiring := by
    simp only [Server.wiring, Server.modifyWorkspace, map_modify_of_keeps keeps]
  answers := rfl

theorem stop : Unwired server (server.modifyWorkspace id ({ · with running := false })) :=
  modifyWorkspace server id _ fun _ => rfl

theorem announce (event : Event) : Unwired server (server.announce id event) := by
  unfold Server.announce
  split <;> exact ⟨rfl, rfl⟩

/-- What depends on the wiring and the answers alone is not changed by what is told. -/
theorem tends {Holds : Server → Prop}
    (closed : ∀ {before after}, Unwired before after → Holds before → Holds after)
    (id : WorkspaceId) : Tends id Holds where
  announce event _ := closed (announce _ id event)
  replace port _ _ := closed (modifyWorkspace _ id _ fun _ => by cases port <;> rfl)

theorem pass (port : Port) (act : Capture → List Text × Capture) :
    Unwired server (server.pass id port act) :=
  (tends (fun same before => before.trans same) id).pass port act (refl server)

theorem flushOutput : Unwired server (server.flushOutput id) := pass server id _ _

theorem writeTo (sink : Sink) (text : Text) : Unwired server (server.writeTo sink text) :=
  Tends.writeTo (tends fun same before => before.trans same)
    (fun before _ => before.trans ⟨rfl, rfl⟩) sink text (refl server)

theorem print (text : Text) : Unwired server (server.print text) :=
  (writeTo server _ text).trans (writeTo _ _ _)

theorem draw : Unwired server server.draw.2 := by
  unfold Server.draw
  split <;> exact ⟨rfl, rfl⟩

theorem stopSession (session : Text) : Unwired server (server.stopSession session) :=
  of_stopSession (Unwired server) (refl server) fun id _ => stop server id

theorem provideInput (client text : Text) : Unwired server (server.provideInput client text) := by
  apply of_provideInput
  · exact fun _ => ⟨rfl, rfl⟩
  · intro _ id _ _
    have entered : Unwired server (server.modifyWorkspace id fun workspace =>
        { workspace with entered := workspace.entered ++ [text] }) :=
      modifyWorkspace server id _ fun _ => rfl
    exact ⟨entered.wiring, entered.answers⟩

theorem takeEntered? {text : Text} {after : Server}
    (taken : server.takeEntered? id = some (text, after)) : Unwired server after :=
  of_takeEntered? (fun _ => modifyWorkspace server id _ fun _ => rfl) taken

theorem asking (prompt : Text) : Unwired server (server.asking id prompt) :=
  ((flushOutput server id).trans (announce _ id _)).trans (modifyWorkspace _ id _ fun _ => rfl)

theorem started : Unwired ((server.modifyWorkspace id ({ · with running := true })).redirect id)
    (server.started id) :=
  announce _ id _

end Unwired

theorem wiring_openWorkspace (server : Server) (session : Text) (id : WorkspaceId) :
    (server.openWorkspace session id).2.wiring = server.wiring.renew session := by
  rw [← (Unwired.stop server id).wiring]
  exact wiring_renewWorkspace _ session

/-! ## Waiting

What happens within a wait is a sequence of steps on the wiring, one for each answer that is a
step. -/

def Reaches (client : Text) (before after : Server) : Prop :=
  ∃ used, before.answers = used ++ after.answers ∧
    Wiring.Waited client used before.wiring after.wiring

namespace Reaches

variable {client : Text} {first second third : Server}

theorem unwired (same : Unwired first second) : Reaches client first second :=
  ⟨[], same.answers.symm, by rw [same.wiring]; exact .nothing⟩

theorem refl (client : Text) (server : Server) : Reaches client server server :=
  unwired (.refl server)

theorem trans (before : Reaches client first second) (after : Reaches client second third) :
    Reaches client first third := by
  obtain ⟨used, split, waited⟩ := before
  obtain ⟨later, laterSplit, laterWaited⟩ := after
  refine ⟨used ++ later, ?_, waited.append laterWaited⟩
  rw [split, laterSplit, List.append_assoc]

theorem tends (client : Text) (start : Server) (id : WorkspaceId) :
    Tends id (Reaches client start) :=
  Unwired.tends (fun same reaches => reaches.trans (unwired same)) id

theorem length_le (reaches : Reaches client first second) :
    second.answers.length ≤ first.answers.length := by
  obtain ⟨used, split, _⟩ := reaches
  rw [split, List.length_append]
  exact Nat.le_add_left _ _

end Reaches

def Takes (client : Text) (step : Step) (before after : Server) : Prop :=
  ∃ used, before.answers = used ++ after.answers ∧
    Wiring.Taken client step used before.wiring after.wiring

theorem Takes.passed {client : Text} {step : Step} {before after : Server} {rewired : Wiring}
    (passed : Wiring.Passed client step before.wiring rewired) (wiring : after.wiring = rewired)
    (answers : after.answers = before.answers) : Takes client step before after :=
  ⟨[], answers.symm, by rw [wiring]; exact .passed passed⟩

theorem Takes.length_le {client : Text} {step : Step} {before after : Server}
    (takes : Takes client step before after) : after.answers.length ≤ before.answers.length := by
  rcases takes with ⟨used, split, _⟩
  rw [split, List.length_append]
  exact Nat.le_add_left _ _

section Waiting

variable {client : Text} {nested : Step → Server → StepEnd × Server} {bound : Nat}
  (takes : ∀ step server, server.answers.length < bound →
    Takes client step server (nested step server).2)

include takes

theorem reaches_step {server after : Server} {step : Step} {rest : List Answer}
    (answers : server.answers = .step step :: rest) (enough : server.answers.length ≤ bound)
    {ending : StepEnd} (result : nested step { server with answers := rest } = (ending, after)) :
    Reaches client server after := by
  have shorter : rest.length < bound := by
    rw [answers, List.length_cons] at enough
    exact enough
  have taken := takes step { server with answers := rest } shorter
  rw [result] at taken
  rcases taken with ⟨used, split, taken⟩
  refine ⟨.step step :: used, ?_, taken.waited⟩
  rw [answers, List.cons_append, ← split]

theorem waits_reaches (id : WorkspaceId) {start : Server} (enough : start.answers.length ≤ bound) :
    Waits nested client id (Reaches client start) (Reaches client start) where
  taken reaches taken := reaches.trans (.unwired (.takeEntered? _ id taken))
  idle reaches _ := reaches
  entered {server text rest} reaches _ answers := by
    have provided := Unwired.provideInput { server with answers := rest } client text
    refine reaches.trans ⟨[.text text], ?_, .text ?_⟩
    · rw [answers, provided.answers]
      rfl
    · rw [provided.wiring]
      exact .nothing
  stepped reaches _ answers done :=
    reaches.trans (reaches_step takes answers (reaches.length_le.trans enough) done)
  exited reaches _ answers exits :=
    reaches.trans (reaches_step takes answers (reaches.length_le.trans enough) exits)

theorem reaches_await (id : WorkspaceId) (turns : Nat) (server : Server)
    (enough : server.answers.length ≤ bound) :
    Reaches client server (await nested client id turns server).2 :=
  (waits_reaches takes id enough).await turns (.refl client server)

theorem reaches_getInput (id : WorkspaceId) (prompt : Text) (server : Server)
    (enough : server.answers.length ≤ bound) :
    Reaches client server (getInput nested client id prompt server).2 := by
  rw [getInput_eq]
  exact ((waits_reaches takes id enough).await _ (.unwired (.asking server id prompt))).trans
    (.unwired (.modifyWorkspace _ id _ fun _ => rfl))

theorem host_keeps (id : WorkspaceId) (store : Machine → Machine → Machine)
    (load : Machine → Machine) (start : Server) (enough : start.answers.length ≤ bound) :
    (host nested client id store load).Keeps (Reaches client start) where
  write reaches := reaches.trans (.unwired (.writeTo _ _ _))
  complain reaches := reaches.trans (.unwired (.writeTo _ _ _))
  draw reaches := reaches.trans (.unwired (.draw _))
  ask prompt machine server reaches := by
    apply of_ask fun _ => Reaches client start
    · exact reaches.trans (.unwired (.writeTo _ _ _))
    · rintro reader _ _ rfl
      have stored := Unwired.modifyWorkspace server id (fun workspace =>
        { workspace with machine := store workspace.machine machine }) fun _ => rfl
      refine reaches.trans ((Reaches.unwired stored).trans
        (reaches_getInput takes reader prompt _ ?_))
      rw [stored.answers]
      exact reaches.length_le.trans enough

end Waiting

/-! ## Runs -/

def Runs (client : Text) (id : WorkspaceId) (before after : Server) : Prop :=
  ∃ used ended, before.answers = used ++ after.answers ∧
    Wiring.Waited client used (before.wiring.redirect id) ended ∧
    after.wiring = ended.restore id

theorem Runs.of_reaches {client : Text} {id : WorkspaceId} {before opened closed after : Server}
    (started : Unwired (before.redirect id) opened) (reaches : Reaches client opened closed)
    (finished : Unwired (closed.restore id) after) : Runs client id before after := by
  obtain ⟨used, split, waited⟩ := reaches
  refine ⟨used, closed.wiring, ?_, ?_, ?_⟩
  · have same : opened.answers = before.answers := started.answers
    rw [← same, split, finished.answers, answers_restore]
  · rw [← wiring_redirect, ← started.wiring]
    exact waited
  · rw [finished.wiring, wiring_restore]

theorem Runs.prepared {client : Text} {id : WorkspaceId} {before ready after : Server}
    (same : Unwired before ready) (runs : Runs client id ready after) :
    Runs client id before after := by
  rw [Runs, same.wiring, same.answers] at runs
  exact runs

section Running

variable {client : Text} {nested : Step → Server → StepEnd × Server} {bound : Nat}
  (takes : ∀ step server, server.answers.length < bound →
    Takes client step server (nested step server).2)

include takes

theorem runs_executeCode (id : WorkspaceId) (code : Text) (server : Server)
    (enough : server.answers.length ≤ bound) :
    Runs client id server (executeCode nested client id code server) := by
  have started := Unwired.started server id
  apply of_executeCode (Reaches.tends client (server.started id) id)
  · intro ending machine after result
    have reaches : Reaches client (server.started id) (Program.run (programHost nested client id)
        code .empty (server.started id)).2.2 :=
      Program.world_run (host_keeps takes id _ _ (server.started id)
        (by rw [started.answers]; exact enough)) code .empty (.refl client _)
    rw [result] at reaches
    exact reaches.trans (.unwired (.modifyWorkspace after id _ fun _ => rfl))
  · intro after reaches
    exact .prepared (.modifyWorkspace server id ({ · with running := true }) fun _ => rfl)
      (.of_reaches started (reaches.trans (.unwired (.stop _ id))) (.announce _ id _))

theorem runs_executeLine (id : WorkspaceId) {line : Text} (server : Server)
    (executes : (line.isEmpty || Text.startsWith line ['#']) = false)
    (enough : server.answers.length ≤ bound) :
    Runs client id server (executeLine nested client id line server) := by
  apply of_executeLine (Reaches.tends client (server.redirect id) id)
  · intro skips
    rw [executes] at skips
    cases skips
  · intro _ outcome machine after result
    have reaches : Reaches client (server.redirect id) (Line.execute (lineHost nested client id)
        line ((server.redirect id).lineMachine id) (server.redirect id)).2.2 :=
      (host_keeps takes id _ _ (server.redirect id) enough).execute (.refl client _) line _
    rw [result] at reaches
    exact reaches.trans (.unwired (.modifyWorkspace after id _ fun _ => rfl))
  · intro after reaches
    exact .of_reaches (.refl _) reaches (.refl _)

theorem takes_startCode (code : Text) (server : Server)
    (enough : server.answers.length ≤ bound) :
    Takes client (.executeCode code) server (startCode nested server client code) := by
  apply of_startCode
  · exact fun inactive _ => .passed (.refused inactive) rfl rfl
  · exact fun blank _ => .passed (.quiet (by simp [Step.renews, blank]) rfl) rfl rfl
  · intro session id active solid
    have opened := wiring_openWorkspace server session id
    rw [openWorkspace_fst]
    rcases runs_executeCode takes server.wiring.saved.size (Text.strip code)
      (server.openWorkspace session id).2 enough with ⟨used, ended, split, waited, restored⟩
    rw [opened] at waited
    refine ⟨used, split, ?_⟩
    rw [restored]
    exact .ran (.code (by simp [Step.renews, solid]) active) waited

theorem takes_startLine (line : Text) (server : Server)
    (enough : server.answers.length ≤ bound) :
    Takes client (.executeLine line) server (startLine nested server client line) := by
  apply of_startLine
  · exact fun inactive _ => .passed (.refused inactive) rfl rfl
  · intro session id active
    cases executes : ((Text.strip line).isEmpty || Text.startsWith (Text.strip line) ['#']) with
    | true =>
        have same : executeLine nested client id (Text.strip line) server = server := by
          rw [executeLine, if_pos executes]
        rw [same]
        exact .passed (.quiet rfl (by simp [Step.executesLine, executes])) rfl rfl
    | false =>
        rcases runs_executeLine takes id server executes enough with
          ⟨used, ended, split, waited, restored⟩
        refine ⟨used, split, ?_⟩
        rw [restored]
        exact .ran (.line (by simp [Step.executesLine, executes]) active) waited

end Running

/-! ## Steps -/

theorem takes_connect (client : Text) (server : Server) :
    Takes client .connect server (connect server client) :=
  .passed .connected
    ((Unwired.print _ _).wiring.trans (wiring_renewWorkspace { server with
      sessions := server.sessions + 1
      clients := server.clients.insert client (sessionName (server.sessions + 1)) } _))
    (Unwired.print _ _).answers

theorem takes_disconnect (client : Text) (server : Server) :
    Takes client .disconnect server (disconnect server client) := by
  unfold disconnect
  split
  · next unknown =>
      refine .passed (.refused ?_) rfl rfl
      simp [Wiring.activeSession?, wiring, unknown]
  · next session known =>
      have stopped := Unwired.stopSession server session
      have erased := congrArg (fun wiring : Wiring =>
        { wiring with active := wiring.active.erase session }) stopped.wiring
      exact .passed (.disconnected known) ((Unwired.print _ _).wiring.trans erased)
        ((Unwired.print _ _).answers.trans stopped.answers)

theorem takes_reset (client : Text) (server : Server) :
    Takes client .resetInterpreter server (reset server client) := by
  apply of_reset
  · exact fun inactive => .passed (.refused inactive) rfl rfl
  · intro session id active
    have renewed := wiring_renewWorkspace
      (server.modifyWorkspace id ({ · with running := false })) session
    rw [(Unwired.stop server id).wiring] at renewed
    exact .passed (.renewed active) renewed rfl

theorem wiring_cleanup (server : Server) :
    (cleanup server).wiring = { server.wiring with active := .empty } ∧
      (cleanup server).answers = server.answers := by
  apply of_cleanup (Unwired server) fun after =>
    after.wiring = { server.wiring with active := .empty } ∧ after.answers = server.answers
  · exact .refl server
  · exact fun id _ same => same.trans (.stop _ id)
  · intro after same
    exact ⟨congrArg (fun wiring : Wiring => { wiring with active := .empty }) same.wiring,
      same.answers⟩

theorem Takes.quiet {client : Text} {step : Step} {before after : Server}
    (keeps : step.renews = false) (idle : step.executesLine = false)
    (same : Unwired before after) : Takes client step before after :=
  .passed (.quiet keeps idle) same.wiring same.answers

theorem unwired_control (server : Server) (client : Text) (change : Workspace → Workspace)
    (event : Event) (keeps : ∀ workspace, (change workspace).saved = workspace.saved) :
    Unwired server (control server client change event) :=
  of_control (fun _ => .refl server) fun _ id _ =>
    (Unwired.modifyWorkspace server id change keeps).trans ⟨rfl, rfl⟩

theorem unwired_onWorkspace (server : Server) (client : Text)
    (action : Server → WorkspaceId → Server)
    (unwired : ∀ id, Unwired server (action server id)) :
    Unwired server (onWorkspace server client action) :=
  of_onWorkspace (fun _ => .refl server) fun _ id _ => unwired id

theorem takes_stepWithin {client : Text} {nested : Step → Server → StepEnd × Server} {bound : Nat}
    (takes : ∀ step server, server.answers.length < bound →
      Takes client step server (nested step server).2) (step : Step) (server : Server)
    (enough : server.answers.length ≤ bound) :
    Takes client step server (stepWithin nested client step server).2 := by
  cases step with
  | connect => exact takes_connect client server
  | disconnect => exact takes_disconnect client server
  | executeCode code => exact takes_startCode takes code server enough
  | executeLine line => exact takes_startLine takes line server enough
  | provideInput text => exact .quiet rfl rfl (.provideInput server client text)
  | stopExecution => exact .quiet rfl rfl (unwired_control server client _ _ fun _ => rfl)
  | pauseExecution => exact .quiet rfl rfl (unwired_control server client _ _ fun _ => rfl)
  | resumeExecution => exact .quiet rfl rfl (unwired_control server client _ _ fun _ => rfl)
  | resetInterpreter => exact takes_reset client server
  | write text toErrors =>
      refine .quiet rfl rfl (unwired_onWorkspace server client (fun server id =>
        if toErrors then server.writeErrors id text else server.writeOutput id text) fun id => ?_)
      split
      · exact .pass server id _ _
      · exact .pass server id _ _
  | flush | flushLine =>
      exact .quiet rfl rfl (unwired_onWorkspace server client _ (.flushOutput server))
  | cleanup =>
      obtain ⟨cleared, same⟩ := wiring_cleanup server
      exact .passed (.cleared (.inl rfl)) cleared same
  | signal =>
      have printed := Unwired.print server "\nShutting down...".toList
      obtain ⟨cleared, same⟩ := wiring_cleanup (server.print "\nShutting down...".toList)
      rw [printed.wiring] at cleared
      exact .passed (.cleared (.inr rfl)) cleared (same.trans printed.answers)

theorem takes_takeStep (client : Text) (depth : Nat) (step : Step) (server : Server)
    (enough : server.answers.length ≤ depth) :
    Takes client step server (takeStep depth client step server).2 := by
  induction depth generalizing step server with
  | zero =>
      -- Without answers no step is taken in a wait.
      exact takes_stepWithin (fun _ _ fewer => absurd fewer (Nat.not_lt_zero _)) step server enough
  | succ depth induction =>
      exact takes_stepWithin
        (fun step server fewer => induction step server (Nat.le_of_lt_succ fewer))
        step server enough

/-! ## Sequences of steps -/

theorem takes_perform (server : Server) (client : Text) (step : Step) (answers : List Answer) :
    Takes client step { server with printed := [], sent := [], answers := answers }
      (server.perform client step answers).2 :=
  takes_takeStep client answers.length step _ (Nat.le_refl _)

theorem Reachable.valid {draws : List Nat} {server : Server}
    (reachable : Reachable draws server) : server.wiring.Valid := by
  intro session id found
  simpa [wiring] using lt_size_of_owner? (reachable.owned session id found)

/-- After a step the server has its own streams back, however what it ran has ended, just if no line
was executed in a wait before the client's session had got another workspace. -/
theorem streams_restored_iff {draws : List Nat} {server : Server}
    (reachable : Reachable draws server) (own : server.streams = .server) (client : Text)
    (step : Step) (answers : List Answer) :
    ∃ used, answers = used ++ (server.perform client step answers).2.answers ∧
      ((server.perform client step answers).2.streams = .server ↔ exposed used = false) := by
  obtain ⟨used, split, taken⟩ := takes_perform server client step answers
  exact ⟨used, split, taken.streams_eq_server_iff reachable.valid own⟩

def overlapping : Server :=
  (((Server.start []).perform "a".toList .connect []).2.perform "a".toList
    (.executeLine "LISTEN STR x \"name\"".toList)
    [.step (.executeLine "SAY \"hi\"".toList), .text "bob".toList]).2

theorem streams_restored_iff_overlapping :
    ((Server.start []).perform "a".toList .connect []).2.streams = .server ∧
      overlapping.streams ≠ .server := by
  have own : ((Server.start []).perform "a".toList .connect []).2.streams = .server := by
    decide +kernel
  have reachable := (@Reachable.start []).perform "a".toList .connect []
  obtain ⟨used, split, restored⟩ := streams_restored_iff reachable own "a".toList
    (.executeLine "LISTEN STR x \"name\"".toList)
    [.step (.executeLine "SAY \"hi\"".toList), .text "bob".toList]
  have spent : overlapping.answers = [] := by decide +kernel
  rw [overlapping] at spent
  rw [spent, List.append_nil] at split
  subst split
  refine ⟨own, fun same => ?_⟩
  exact absurd (restored.mp same) (by decide +kernel)

end Linewise.Session.Server
