import Linewise.Proofs.Course
import Linewise.Proofs.Handling

/-!
Properties that last. No action, no block and no comment mark takes such a property from a machine,
and every program keeps it, whatever it talks to, if it is also kept while somebody is asked for a
text. Likewise no part of a step takes such a property from the server. Since the steps within a
wait keep it too, the whole step does, and it holds in every state that steps lead to.
-/

namespace Linewise

variable {World : Type} {Holds : Machine → Prop}

/-- Whatever a run does to the world keeps it sound; and while somebody is asked for a text in a
sound world, the property of the machine is kept as well. -/
structure Host.Upholds (host : Host World) (Holds : Machine → Prop) (Sound : World → Prop) :
    Prop where
  write {text : Text} {world : World} (sound : Sound world) : Sound (host.write text world)
  complain {text : Text} {world : World} (sound : Sound world) : Sound (host.complain text world)
  ask (prompt : Text) {machine : Machine} {world : World} (holds : Holds machine)
    (sound : Sound world) :
    Holds (host.ask prompt machine world).2.1 ∧ Sound (host.ask prompt machine world).2.2
  draw {world : World} (sound : Sound world) : Sound (host.draw world).2

theorem Host.KeepsMachine.upholds {host : Host World} (keeps : host.KeepsMachine)
    (Holds : Machine → Prop) : host.Upholds Holds fun _ => True where
  write _ := trivial
  complain _ := trivial
  ask prompt machine world holds _ := by
    rw [keeps]
    exact ⟨holds, trivial⟩
  draw _ := trivial

/-! ## Lines -/

namespace Host.Upholds

variable {host : Host World} {Sound : World → Prop} (upholds : host.Upholds Holds Sound)
  {machine : Machine} {world : World}

include upholds

theorem writeAll (texts : List Text) (sound : Sound world) : Sound (host.writeAll texts world) := by
  induction texts generalizing world with
  | nil => exact sound
  | cons text rest induction => exact induction (upholds.write sound)

theorem warn (warnings : List Text) (sound : Sound world) : Sound (host.warn warnings world) := by
  induction warnings generalizing world with
  | nil => exact sound
  | cons text rest induction => exact induction (upholds.complain sound)

theorem listen [Evaluator] {name prompt : Text} {type : DataType}
    (performs : ∀ {before after}, Line.Performed (.listen name type prompt) before after →
      Holds before → Holds after) (holds : Holds machine) (sound : Sound world) :
    Holds (Line.listen host name type prompt machine world).2.1 ∧
      Sound (Line.listen host name type prompt machine world).2.2 := by
  have asked := upholds.ask prompt holds sound
  unfold Line.listen
  generalize host.ask prompt machine world = result at asked ⊢
  rcases result with ⟨reply, given, spent⟩
  cases reply with
  | refused cause => exact asked
  | exit code => exact asked
  | entered text =>
      have warned := upholds.warn (Line.enteredWarnings type text) asked.2
      simp only
      cases entered : Line.enteredValue type text with
      | error error => exact ⟨asked.1, warned⟩
      | ok value => exact ⟨performs (.listen entered) asked.1, warned⟩

theorem sound_draw (lottery : Lottery) (type : Text) (target : Except Error (Option Text))
    (sound : Sound world) : Sound (Line.draw host lottery type target machine world).2.2 := by
  have picked := lottery.pick_keeps Sound (fun _ => upholds.draw) sound
  unfold Line.draw
  generalize lottery.pick host.draw world = result at picked ⊢
  rcases result with ⟨cause | value, spent⟩
  · exact picked
  · rcases target with error | none | name
    · exact picked
    · simp only
      split
      · exact picked
      · exact upholds.writeAll _ picked
    · exact picked

/-- An action keeps the property if that is so for whatever machine it is performed on: the one that
it was planned for may change while somebody is asked. -/
theorem perform [Evaluator] {action : Action}
    (performs : ∀ {before after}, Line.Performed action before after → Holds before → Holds after)
    (holds : Holds machine) (sound : Sound world) :
    Holds (Line.perform host action machine world).2.1 ∧
      Sound (Line.perform host action machine world).2.2 := by
  cases action with
  | nothing => exact ⟨holds, sound⟩
  | write texts => exact ⟨holds, upholds.writeAll texts sound⟩
  | finish message =>
      cases message with
      | none => exact ⟨holds, sound⟩
      | some message => exact ⟨holds, upholds.write sound⟩
  | declare name stored => exact ⟨performs .declare holds, sound⟩
  | assign name value => exact ⟨performs .assign holds, sound⟩
  | exchange left right leftValue rightValue => exact ⟨performs .exchange holds, sound⟩
  | remove name => exact ⟨performs .remove holds, sound⟩
  | listen name type prompt => exact upholds.listen performs holds sound
  | draw lottery type target =>
      refine ⟨?_, upholds.sound_draw lottery type target sound⟩
      change Holds (Line.draw host lottery type target machine world).2.1
      rcases drawn : Line.draw host lottery type target machine world with ⟨outcome, after, later⟩
      rcases Line.draw_cases drawn with ⟨_, performed⟩ | ⟨_, same⟩
      · exact performs performed holds
      · rw [same]
        exact holds

end Host.Upholds

section Evaluated

variable [Evaluator]

/-- A property that a machine without variables has and that nothing takes from a machine. -/
structure Machine.Lasting (Holds : Machine → Prop) : Prop where
  empty : Holds .empty
  perform {line : Text} {action : Action} {machine before after : Machine}
    (planned : Line.plan machine.bindings (Line.code line) = .ok action) (planning : Holds machine)
    (performed : Line.Performed action before after) (holds : Holds before) : Holds after
  revised (revision : Revision) {machine : Machine} (holds : Holds machine) :
    Holds (machine.revised revision)
  toggleComment {machine : Machine} (holds : Holds machine) : Holds machine.toggleComment
  enter {machine : Machine} (holds : Holds machine) : Holds machine.enter
  leave {machine : Machine} (holds : Holds machine) : Holds machine.leave
  outermost {machine : Machine} (holds : Holds machine) : Holds machine.outermost
  withOutermost {machine other : Machine} (holds : Holds machine) (inner : Holds other) :
    Holds (machine.withOutermost other)

namespace Machine.Lasting

variable {host : Host World} {Sound : World → Prop} (lasting : Lasting Holds)
  (upholds : host.Upholds Holds Sound)

include lasting upholds

theorem execute (line : Text) {machine : Machine} {world : World} (holds : Holds machine)
    (sound : Sound world) :
    Holds (Line.execute host line machine world).2.1 ∧
      Sound (Line.execute host line machine world).2.2 := by
  unfold Line.execute
  split
  · exact ⟨lasting.toggleComment holds, sound⟩
  · split
    · exact ⟨holds, sound⟩
    · have tested := lasting.revised (Line.effects machine.bindings (Line.code line)).revision holds
      have warned := upholds.warn (Line.effects machine.bindings (Line.code line)).warnings sound
      unfold Line.carryOut
      split
      · next action planned => exact upholds.perform (lasting.perform planned holds) tested warned
      · exact ⟨tested, warned⟩

/-! ## Programs -/

theorem keeps : Program.Keeps host (fun _ _ => True) fun machine world =>
    Holds machine ∧ Sound world where
  line _ both := lasting.execute upholds _ both.1 both.2
  test both := ⟨lasting.revised _ both.1, upholds.warn _ both.2⟩
  toggle both := ⟨lasting.toggleComment both.1, both.2⟩
  enter both := ⟨lasting.enter both.1, both.2⟩
  leave both := ⟨lasting.leave both.1, both.2⟩
  report both := ⟨both.1, upholds.complain (upholds.complain both.2)⟩

theorem ran {task : Program.Task} {machine after : Machine} {world later : World}
    {moments : List (Program.Moment World)} {outcome : Outcome}
    (ran : Program.Ran host task machine world moments outcome after later) (holds : Holds machine)
    (sound : Sound world) :
    (Holds after ∧ Sound later) ∧ ∀ moment ∈ moments, Holds moment.machine ∧ Sound moment.world :=
  ran.keeps (lasting.keeps upholds) (fun _ _ _ _ => trivial) ⟨holds, sound⟩

theorem run (source : Text) {machine : Machine} {world : World} (holds : Holds machine)
    (sound : Sound world) :
    Holds (Program.run host source machine world).2.1 ∧
      Sound (Program.run host source machine world).2.2 := by
  rcases Program.hasCourse host (.sequence 1 (Text.lines source)) machine world with
    ⟨moments, outcome, after, later, ran⟩
  have kept := (lasting.ran upholds ran holds sound).1
  rw [ran.run_eq.2]
  exact ⟨lasting.outermost kept.1, kept.2⟩

end Machine.Lasting

theorem Machine.lasting_true : Machine.Lasting fun _ => True where
  empty := trivial
  perform _ _ _ _ := trivial
  revised _ _ _ := trivial
  toggleComment _ := trivial
  enter _ := trivial
  leave _ := trivial
  outermost _ := trivial
  withOutermost _ _ := trivial

end Evaluated

/-! ## Sessions

A property of servers lasts if it survives the few changes that steps are made of. -/

namespace Session.Server

/-- A property of the server that no part of a step takes away. It may be about the machines in the
workspaces, and depends on nothing but the workspaces and the tables of sessions. -/
structure Lasting (Machines : Machine → Prop) (Holds : Server → Prop) : Prop where
  unseen (streams : Streams) (printed : List Text) (sent : List Sent) (draws : List Nat)
    (answers : List Answer) {server : Server} (holds : Holds server) :
    Holds { server with streams, printed, sent, draws, answers }
  modify (id : WorkspaceId) (change : Workspace → Workspace)
    (session : ∀ workspace, (change workspace).session = workspace.session)
    (machine : ∀ workspace, Machines workspace.machine → Machines (change workspace).machine)
    {server : Server} (holds : Holds server) : Holds (server.modifyWorkspace id change)
  machine {server : Server} (holds : Holds server) {id : WorkspaceId} {workspace : Workspace}
    (found : server.workspace? id = some workspace) : Machines workspace.machine
  renew {server : Server} (holds : Holds server) {session : Text} {id : WorkspaceId}
    (here : server.active.find? session = some id) : Holds (server.renewWorkspace session).2
  enlist {server : Server} (holds : Holds server) {session : Text} {id : WorkspaceId}
    (here : server.active.find? session = some id) :
    Holds { server with threads := session :: server.threads }
  enroll (client : Text) {server : Server} (holds : Holds server) : Holds (server.admitted client)
  dismiss (session : Text) {server : Server} (holds : Holds server) :
    Holds { server with
      active := server.active.erase session
      registered := server.registered.erase session
      threads := server.threads.filter (· ≠ session) }
  clear {server : Server} (holds : Holds server) :
    Holds { server with active := .empty, registered := .empty, threads := [] }

namespace Lasting

variable {Machines : Machine → Prop} {Holds : Server → Prop} (lasting : Lasting Machines Holds)
  {server : Server} (id : WorkspaceId)

include lasting

/-- Changes of what the property cannot depend on. -/
theorem touch (change : Workspace → Workspace)
    (keeps : ∀ workspace, (change workspace).session = workspace.session ∧
      (change workspace).machine = workspace.machine) (holds : Holds server) :
    Holds (server.modifyWorkspace id change) := by
  refine lasting.modify id change (fun workspace => (keeps workspace).1) ?_ holds
  intro workspace machine
  rw [(keeps workspace).2]
  exact machine

theorem send (event : Event) (room : Option Text) (holds : Holds server) :
    Holds (server.send event room) :=
  lasting.unseen _ _ _ _ _ holds

theorem answers (answers : List Answer) (holds : Holds server) : Holds { server with answers } :=
  lasting.unseen _ _ _ _ answers holds

theorem tends : Tends id Holds where
  announce event server holds := by
    unfold announce
    split
    · exact lasting.send event _ holds
    · exact holds
  replace port capture _ := lasting.touch id _ fun _ => by cases port <;> exact ⟨rfl, rfl⟩

theorem writeTo (sink : Sink) (text : Text) (holds : Holds server) :
    Holds (server.writeTo sink text) :=
  Tends.writeTo lasting.tends (fun holds _ => lasting.unseen _ _ _ _ _ holds) sink text holds

theorem print (text : Text) (holds : Holds server) : Holds (server.print text) :=
  lasting.writeTo _ _ (lasting.writeTo _ text holds)

theorem stop (holds : Holds server) :
    Holds (server.modifyWorkspace id ({ · with running := false })) :=
  lasting.touch id _ (fun _ => ⟨rfl, rfl⟩) holds

theorem redirect (holds : Holds server) : Holds (server.redirect id) :=
  lasting.unseen _ _ _ _ _
    (lasting.touch id ({ · with saved := server.streams }) (fun _ => ⟨rfl, rfl⟩) holds)

theorem restore (holds : Holds server) : Holds (server.restore id) := by
  unfold Server.restore
  split
  · exact lasting.unseen _ _ _ _ _ holds
  · exact holds

theorem draw (holds : Holds server) : Holds server.draw.2 := by
  unfold Server.draw
  split
  · exact holds
  · exact lasting.unseen _ _ _ _ _ holds

theorem started (holds : Holds server) : Holds (server.started id) :=
  (lasting.tends id).announce _
    (lasting.redirect id (lasting.touch id _ (fun _ => ⟨rfl, rfl⟩) holds))

theorem finished (holds : Holds server) : Holds (server.finished id) :=
  (lasting.tends id).announce _ (lasting.restore id (lasting.stop id holds))

theorem provideInput (client text : Text) (holds : Holds server) :
    Holds (server.provideInput client text) := by
  apply of_provideInput
  · exact fun _ => lasting.send _ none holds
  · exact fun _ id _ _ => lasting.send _ _ (lasting.send _ none
      (lasting.touch id _ (fun _ => ⟨rfl, rfl⟩) holds))

section Running

variable {nested : Step → Server → StepEnd × Server}
  (within : ∀ step {server}, Holds server → Holds (nested step server).2) (client : Text)

include within

/-! ## Waiting -/

theorem waits : Waits nested client id Holds Holds where
  taken holds := of_takeEntered? fun _ => lasting.touch id _ (fun _ => ⟨rfl, rfl⟩) holds
  idle holds _ := holds
  entered {_ _ rest} holds _ _ := lasting.provideInput client _ (lasting.answers rest holds)
  stepped {_ _ step rest} holds _ _ done := by
    have stepped := within step (lasting.answers rest holds)
    rw [done] at stepped
    exact stepped
  exited {_ _ step rest _} holds _ _ exits := by
    have stepped := within step (lasting.answers rest holds)
    rw [exits] at stepped
    exact stepped

theorem getInput (prompt : Text) (holds : Holds server) :
    Holds (getInput nested client id prompt server).2 := by
  have asked : Holds (server.asking id prompt) :=
    lasting.touch id _ (fun _ => ⟨rfl, rfl⟩)
      ((lasting.tends id).announce _ ((lasting.tends id).flushOutput holds))
  rw [getInput_eq]
  exact lasting.touch id _ (fun _ => ⟨rfl, rfl⟩) ((lasting.waits id within client).await _ asked)

theorem host_upholds {store : Machine → Machine → Machine} {load : Machine → Machine}
    (stores : ∀ {machine other}, Machines machine → Machines other →
      Machines (store machine other))
    (loads : ∀ {machine}, Machines machine → Machines (load machine)) :
    (host nested client id store load).Upholds Machines Holds where
  write := lasting.writeTo _ _
  complain := lasting.writeTo _ _
  draw := lasting.draw
  ask prompt machine server machines holds := by
    apply of_ask fun machine server => Machines machine ∧ Holds server
    · exact ⟨machines, lasting.writeTo _ _ holds⟩
    · rintro reader _ after rfl
      have stored := lasting.modify id (fun workspace =>
        { workspace with machine := store workspace.machine machine }) (fun _ => rfl)
          (fun _ kept => stores kept machines) holds
      have asked := lasting.getInput reader within client prompt stored
      refine ⟨?_, asked⟩
      cases found : (Server.getInput nested client reader prompt _).2.workspace? id with
      | none => exact machines
      | some workspace => exact loads (lasting.machine asked found)

theorem programHost_upholds : (programHost nested client id).Upholds Machines Holds :=
  lasting.host_upholds id within client (fun _ machines => machines) fun machines => machines

/-! ## Runs -/

variable (machines : Machine.Lasting Machines)

include machines

theorem executeCode (code : Text) (holds : Holds server) :
    Holds (executeCode nested client id code server) := by
  apply of_executeCode (lasting.tends id)
  · intro ending machine after result
    have ran := machines.run (lasting.programHost_upholds id within client) code machines.empty
      (lasting.started id holds)
    rw [result] at ran
    exact lasting.modify id ({ · with machine := machine }) (fun _ => rfl) (fun _ _ => ran.1) ran.2
  · exact lasting.finished id

theorem executeLine (line : Text) (holds : Holds server) :
    Holds (executeLine nested client id line server) := by
  apply of_executeLine (lasting.tends id)
  · exact fun _ => holds
  · intro _ outcome machine after result
    have redirected := lasting.redirect id holds
    have begins : Machines ((server.redirect id).lineMachine id) := by
      unfold lineMachine
      cases found : (server.redirect id).workspace? id with
      | none => exact machines.empty
      | some workspace => exact machines.outermost (lasting.machine redirected found)
    have upholds := lasting.host_upholds id within client machines.withOutermost machines.outermost
    have executed := machines.execute upholds line begins redirected
    rw [← lineHost, result] at executed
    exact lasting.modify id
      (fun workspace => { workspace with machine := workspace.machine.withOutermost machine })
      (fun _ => rfl) (fun _ kept => machines.withOutermost kept executed.1) executed.2
  · exact lasting.restore id

/-! ## Steps -/

theorem startCode (code : Text) (holds : Holds server) :
    Holds (startCode nested server client code) := by
  apply of_startCode
  · exact fun _ _ => lasting.send _ none holds
  · exact fun _ _ => lasting.send _ none holds
  · intro session id current _
    have here := (activeSession?_eq_some_iff.mp current).2
    have renewed := lasting.renew (lasting.stop id holds) here
    apply lasting.executeCode _ within client machines
    unfold openWorkspace
    simp only
    split
    · exact renewed
    · exact lasting.enlist renewed (Table.find?_insert_self server.active session _)

theorem stepWithin (step : Step) (holds : Holds server) :
    Holds (stepWithin nested client step server).2 := by
  have changed {change : Workspace → Workspace} (event : Event)
      (keeps : ∀ workspace, (change workspace).session = workspace.session ∧
        (change workspace).machine = workspace.machine) :
      Holds (control server client change event) :=
    of_control (fun _ => holds) fun _ id _ => lasting.send _ none (lasting.touch id _ keeps holds)
  cases step with
  | connect =>
      rw [Server.stepWithin, connect_eq_print]
      exact lasting.print _ (lasting.enroll client holds)
  | disconnect =>
      cases known : server.clients.find? client with
      | none =>
          rw [Server.stepWithin, disconnect, known]
          exact holds
      | some session =>
          rw [Server.stepWithin, disconnect_eq_print known]
          exact lasting.print _
            (lasting.dismiss session (of_stopSession Holds holds fun id _ => lasting.stop id holds))
  | executeCode code => exact lasting.startCode within client machines code holds
  | executeLine line =>
      apply of_startLine
      · exact fun _ _ => lasting.send _ none holds
      · exact fun _ id _ => lasting.executeLine id within client machines _ holds
  | provideInput text => exact lasting.provideInput client text holds
  | stopExecution | pauseExecution | resumeExecution => exact changed _ fun _ => ⟨rfl, rfl⟩
  | resetInterpreter =>
      apply of_reset
      · exact fun _ => holds
      · intro session id current
        have here := (activeSession?_eq_some_iff.mp current).2
        exact lasting.send _ none (lasting.renew (lasting.stop id holds) here)
  | write text toErrors =>
      apply of_onWorkspace fun _ => holds
      intro _ id _
      split
      · exact (lasting.tends id).pass .errors _ holds
      · exact (lasting.tends id).pass .output _ holds
  | flush | flushLine =>
      exact of_onWorkspace (fun _ => holds) fun _ id _ => (lasting.tends id).flushOutput holds
  | cleanup => exact of_cleanup Holds Holds holds (fun id _ => lasting.stop id) lasting.clear
  | signal =>
      exact of_cleanup Holds Holds (lasting.print _ holds) (fun id _ => lasting.stop id)
        lasting.clear

end Running

theorem takeStep (machines : Machine.Lasting Machines) (depth : Nat) (client : Text) (step : Step)
    (holds : Holds server) : Holds (takeStep depth client step server).2 := by
  induction depth generalizing step server with
  | zero => exact lasting.stepWithin (fun _ _ holds => holds) client machines step holds
  | succ depth induction =>
      exact lasting.stepWithin (fun step _ => induction step) client machines step holds

theorem reachable (machines : Machine.Lasting Machines) {draws : List Nat}
    (start : Holds (.start draws)) (reachable : Reachable draws server) : Holds server := by
  induction reachable with
  | start => exact start
  | perform _ client step answers induction =>
      exact lasting.takeStep machines answers.length client step
        (lasting.unseen _ [] [] _ answers induction)

end Lasting

/-! ## Machines in workspaces -/

def Houses (Machines : Machine → Prop) (server : Server) : Prop :=
  ∀ id workspace, server.workspace? id = some workspace → Machines workspace.machine

theorem Houses.renew {Machines : Machine → Prop} {server : Server} (empty : Machines .empty)
    (houses : server.Houses Machines) (session : Text) :
    (server.renewWorkspace session).2.Houses Machines := by
  intro target workspace found
  rw [workspace?_renewWorkspace] at found
  split at found
  · cases found
    exact empty
  · exact houses target workspace found

end Session.Server

end Linewise
