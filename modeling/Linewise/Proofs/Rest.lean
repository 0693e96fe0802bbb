import Linewise.Proofs.Isolation
import Linewise.Proofs.Roster

/-!
Sessions at rest. Whatever happens within the waits of a step, when the step is over no workspace
runs or waits, every text that was entered has been read, and the tables of sessions agree. The
reason is that a text is entered only in a workspace that waits for one, and that the only such
workspace in the reach of a client is the one from which the innermost program of theirs reads.
-/

namespace Linewise.Session

namespace Server

def roster (server : Server) : Roster :=
  ⟨server.workspaces.map Workspace.activity, server.active, server.clients⟩

section Unchanged

variable (server : Server) (id : WorkspaceId)

theorem roster_modifyWorkspace {change : Workspace → Workspace} (changed : Activity → Activity)
    (changes : ∀ workspace, (change workspace).activity = changed workspace.activity) :
    (server.modifyWorkspace id change).roster = server.roster.modify id changed := by
  simp only [roster, modifyWorkspace, Roster.modify, map_modify changed changes]

theorem roster_modifyWorkspace_of_keeps (change : Workspace → Workspace)
    (keeps : ∀ workspace, (change workspace).activity = workspace.activity) :
    (server.modifyWorkspace id change).roster = server.roster := by
  simp only [roster, modifyWorkspace, map_modify_of_keeps keeps]

theorem roster_stop : (server.modifyWorkspace id ({ · with running := false })).roster =
    server.roster.modify id (.run false) :=
  roster_modifyWorkspace server id (.run false) fun _ => rfl

@[simp] theorem roster_announce (event : Event) :
    (server.announce id event).roster = server.roster := by
  unfold announce
  split <;> rfl

omit server id in
/-- What depends on the roster alone is not changed by what is told. -/
theorem tends_of_roster {Holds : Server → Prop}
    (closed : ∀ {before after : Server}, after.roster = before.roster → Holds before → Holds after)
    (id : WorkspaceId) : Tends id Holds where
  announce event _ := closed (roster_announce _ id event)
  replace port _ _ :=
    closed (roster_modifyWorkspace_of_keeps _ id _ fun _ => by cases port <;> rfl)

omit server id in
theorem tends_roster (roster : Roster) (id : WorkspaceId) :
    Tends id fun after => after.roster = roster :=
  tends_of_roster (fun same before => same.trans before) id

@[simp] theorem roster_writeTo (sink : Sink) (text : Text) :
    (server.writeTo sink text).roster = server.roster :=
  Tends.writeTo (tends_roster server.roster) (fun same _ => same) sink text rfl

@[simp] theorem roster_print (text : Text) : (server.print text).roster = server.roster :=
  (roster_writeTo _ _ _).trans (roster_writeTo server _ text)

@[simp] theorem roster_flushOutput : (server.flushOutput id).roster = server.roster :=
  (tends_roster server.roster id).flushOutput rfl

@[simp] theorem roster_draw : server.draw.2.roster = server.roster := by
  unfold draw
  split <;> rfl

@[simp] theorem roster_redirect : (server.redirect id).roster = server.roster := by
  have saved : (server.modifyWorkspace id ({ · with saved := server.streams })).roster =
      server.roster := roster_modifyWorkspace_of_keeps server id _ fun _ => rfl
  exact saved

@[simp] theorem roster_restore : (server.restore id).roster = server.roster := by
  unfold restore
  split <;> rfl

end Unchanged

/-! ## Entering and reading texts

Only a workspace that waits is given a text. -/

theorem entered_eq_nil_of_takeEntered? {server : Server} {id : WorkspaceId}
    (nothing : server.takeEntered? id = none) : (server.roster.activity id).entered = [] := by
  simp only [Roster.activity, roster, Array.getElem?_map]
  unfold takeEntered? workspace? at nothing
  cases found : server.workspaces[id]? with
  | none => rfl
  | some workspace =>
      rw [found] at nothing
      cases entered : workspace.entered with
      | nil => simpa [Workspace.activity] using entered
      | cons text rest => simp [entered] at nothing

theorem roster_takeEntered? {server after : Server} {id : WorkspaceId} {text : Text}
    (taken : server.takeEntered? id = some (text, after)) :
    ∃ rest, (server.roster.activity id).entered = text :: rest ∧
      after.roster = server.roster.modify id ({ · with entered := rest }) := by
  rcases exists_of_takeEntered? taken with ⟨workspace, rest, found, entered, rfl⟩
  refine ⟨rest, ?_, roster_modifyWorkspace server id ({ · with entered := rest }) fun _ => rfl⟩
  rw [workspace?] at found
  simp [Roster.activity, roster, found, Workspace.activity, entered]

theorem drained_of_takeEntered?_eq_none {server : Server} {reader : WorkspaceId}
    (offers : server.roster.Offers (· = reader)) (nothing : server.takeEntered? reader = none) :
    server.roster.Drained := by
  intro id
  rcases offers id with empty | ⟨rfl, _⟩
  · exact empty
  · exact entered_eq_nil_of_takeEntered? nothing

theorem drained_of_takeEntered? {server after : Server} {reader : WorkspaceId} {text : Text}
    (offers : server.roster.Offers (· = reader))
    (taken : server.takeEntered? reader = some (text, after)) : after.roster.Drained := by
  rcases roster_takeEntered? taken with ⟨rest, entered, read⟩
  have last : rest = [] := by
    rcases offers reader with empty | ⟨_, other, single⟩
    · rw [empty] at entered
      cases entered
    · rw [single] at entered
      cases entered
      rfl
  subst last
  intro id
  rw [read]
  by_cases same : reader = id
  · subst same
    rcases server.roster.activity_modify_self ({ · with entered := [] }) reader with
      changed | absent
    · rw [changed]
    · rw [absent]
      rfl
  · rw [Roster.activity_modify_of_ne _ _ same]
    rcases offers id with empty | ⟨here, _⟩
    · exact empty
    · exact absurd here.symm same

theorem eases_takeEntered? {server after : Server} {id : WorkspaceId} {text : Text}
    (client : Text) (taken : server.takeEntered? id = some (text, after)) :
    server.roster.Eases client after.roster := by
  rcases roster_takeEntered? taken with ⟨rest, _, read⟩
  rw [read]
  exact Roster.eases_modify client _ id _ (fun _ running => running) fun _ waiting => waiting

/-- What a step can leave behind where every text had been read: a text to be read in the workspace
that waits for it. -/
structure Settles (client : Text) (before : Roster) (result : StepEnd × Server) : Prop where
  eases : before.Eases client result.2.roster
  offers : result.2.roster.Offers (before.Attends client)
  exited : result.1 ≠ .done → result.2.roster.Drained

theorem Settles.of_calms {client : Text} {before : Roster} {result : StepEnd × Server}
    (drained : before.Drained) (calms : before.Calms client result.2.roster) :
    Settles client before result :=
  ⟨calms.toEases, fun id => .inl (calms.drained drained id), fun _ => calms.drained drained⟩

theorem attends_of_current {client session : Text} {id : WorkspaceId} {server : Server}
    (current : server.activeSession? client = some (session, id))
    (waits : (server.workspace? id).any (·.waiting) = true) :
    server.roster.Attends client id := by
  refine ⟨⟨session, activeSession?_eq_some_iff.mp current⟩, ?_⟩
  rcases Option.any_eq_true _ _ |>.mp waits with ⟨workspace, found, waiting⟩
  rw [workspace?] at found
  simpa [Roster.activity, roster, found, Workspace.activity] using waiting

/-- A text is entered where the client attends, or nowhere. -/
theorem roster_provideInput (server : Server) (client text : Text) :
    (provideInput server client text).roster = server.roster ∨
      ∃ id, server.roster.Attends client id ∧ (provideInput server client text).roster =
        server.roster.modify id (.enter text) := by
  let Entered (after : Server) : Prop := after.roster = server.roster ∨
    ∃ id, server.roster.Attends client id ∧ after.roster = server.roster.modify id (.enter text)
  apply @of_provideInput Entered
  · exact fun _ => .inl rfl
  · intro session id current waits
    have entered : (server.modifyWorkspace id fun workspace =>
        { workspace with entered := workspace.entered ++ [text] }).roster =
          server.roster.modify id (.enter text) :=
      roster_modifyWorkspace server id _ fun _ => rfl
    exact .inr ⟨id, attends_of_current current waits, entered⟩

theorem settles_provideInput {client : Text} {server : Server} (drained : server.roster.Drained)
    (text : Text) : Settles client server.roster (.done, provideInput server client text) := by
  rcases roster_provideInput server client text with same | ⟨id, attends, entered⟩
  · apply Settles.of_calms drained
    rw [same]
    exact .refl client _
  · refine ⟨?_, ?_, fun failed => absurd rfl failed⟩
    · rw [entered]
      exact Roster.eases_modify client _ id _ (fun _ running => running) fun _ waiting => waiting
    · intro target
      rw [entered]
      by_cases same : id = target
      · subst same
        rcases server.roster.activity_modify_self (.enter text) id with changed | absent
        · rw [changed, Activity.enter, drained id]
          exact .inr ⟨attends, text, rfl⟩
        · rw [absent]
          exact .inl rfl
      · rw [Roster.activity_modify_of_ne _ _ same]
        exact .inl (drained target)

/-! ## Waiting -/

section Waiting

variable {client : Text} {nested : Step → Server → StepEnd × Server}
  (settles : ∀ step server, server.roster.Drained →
    Settles client server.roster (nested step server))

include settles

/-- A wait reads what is entered in its workspace, and nothing is entered elsewhere, since no other
workspace in the reach of the client waits. -/
theorem waits_eases {reader : WorkspaceId} {start : Roster}
    (heard : ∀ id, start.Attends client id → id = reader) :
    Waits nested client reader
      (fun now => start.Eases client now.roster ∧ now.roster.Offers (· = reader))
      (fun now => start.Eases client now.roster ∧ now.roster.Drained) := by
  have goesOn {now next : Server} {ending : StepEnd} (eases : start.Eases client now.roster)
      (settled : Settles client now.roster (ending, next)) :
      start.Eases client next.roster ∧ next.roster.Offers (· = reader) :=
    ⟨eases.trans settled.eases, fun id => (settled.offers id).imp_right fun ⟨attends, entered⟩ =>
      ⟨heard id (eases.attends id attends), entered⟩⟩
  constructor
  · intro now after text ⟨eases, offers⟩ taken
    exact ⟨eases.trans (eases_takeEntered? client taken), drained_of_takeEntered? offers taken⟩
  · intro now ⟨eases, offers⟩ nothing
    exact ⟨eases, drained_of_takeEntered?_eq_none offers nothing⟩
  · intro now text rest ⟨eases, offers⟩ nothing _
    have drained := drained_of_takeEntered?_eq_none offers nothing
    have used : { now with answers := rest }.roster.Drained := drained
    exact goesOn eases (settles_provideInput used text)
  · intro now after step rest ⟨eases, offers⟩ nothing _ done
    have drained := drained_of_takeEntered?_eq_none offers nothing
    have settled := settles step { now with answers := rest } drained
    rw [done] at settled
    exact goesOn eases settled
  · intro now after step rest code ⟨eases, offers⟩ nothing _ exits
    have drained := drained_of_takeEntered?_eq_none offers nothing
    have settled := settles step { now with answers := rest } drained
    rw [exits] at settled
    exact ⟨eases.trans settled.eases, settled.exited nofun⟩

/-- After a text was asked for in the only workspace that waits in the reach of the client, none
does any more. -/
theorem calms_getInput {reader : WorkspaceId} {server : Server} (drained : server.roster.Drained)
    (heard : ∀ id, server.roster.Attends client id → id = reader) (prompt : Text) :
    server.roster.Calms client (getInput nested client reader prompt server).2.roster ∧
      ∀ id, ¬ (getInput nested client reader prompt server).2.roster.Attends client id := by
  have begun : (server.asking reader prompt).roster =
      server.roster.modify reader (.wait true) := by
    rw [asking, roster_modifyWorkspace _ reader (.wait true) fun _ => rfl,
      roster_announce, roster_flushOutput]
  have heardAsked : ∀ id, (server.asking reader prompt).roster.Attends client id → id = reader := by
    intro id attends
    by_cases same : reader = id
    · exact same.symm
    · rw [begun] at attends
      have waiting := attends.waiting
      rw [Roster.activity_modify_of_ne _ _ same] at waiting
      exact heard id ⟨attends.current, waiting⟩
  have drainedAsked : (server.asking reader prompt).roster.Drained := by
    rw [begun]
    exact drained.modify reader (.wait true) fun _ => rfl
  have waited := (waits_eases settles heardAsked).await
    ((server.asking reader prompt).answers.length + 1)
    ⟨(Roster.Calms.refl client _).toEases, fun id => .inl (drainedAsked id)⟩
  rw [getInput_eq]
  generalize await nested client reader _ (server.asking reader prompt) = result at waited ⊢
  rw [begun] at waited
  have overall := Roster.calms_of_waited heard waited.1 waited.2
  have ended : (result.2.modifyWorkspace reader ({ · with waiting := false })).roster =
      result.2.roster.modify reader (.wait false) :=
    roster_modifyWorkspace result.2 reader _ fun _ => rfl
  rw [← ended] at overall
  exact overall

end Waiting

/-! ## Runs -/

/-- Whatever happened, the workspaces have come to rest again. -/
abbrev Calms (client : Text) (before after : Server) : Prop :=
  before.roster.Calms client after.roster

theorem Calms.congr {client : Text} {before after later : Server}
    (calms : Calms client before after) (same : later.roster = after.roster) :
    Calms client before later := by
  rw [Calms, same]
  exact calms

theorem Calms.tends (client : Text) (before : Server) (id : WorkspaceId) :
    Tends id (Calms client before) :=
  tends_of_roster (fun same calms => calms.congr same) id

/-- What holds while something runs that began with the server in this state: if a workspace waits
in the reach of the client, it is the one that the run reads from. -/
structure Undisturbed (client : Text) (start server : Server) : Prop where
  calms : start.roster.Calms client server.roster
  hears (id : WorkspaceId) : server.roster.Attends client id → server.streams.input = .workspace id

theorem Undisturbed.congr {client : Text} {start before after : Server}
    (undisturbed : Undisturbed client start before) (same : after.roster = before.roster)
    (unwired : Unwired before after) : Undisturbed client start after where
  calms := same ▸ undisturbed.calms
  hears id attends := by
    have streams : after.streams = before.streams := congrArg Wiring.streams unwired.wiring
    rw [same] at attends
    rw [streams]
    exact undisturbed.hears id attends

section Running

variable {client : Text} {nested : Step → Server → StepEnd × Server}
  (settles : ∀ step server, server.roster.Drained →
    Settles client server.roster (nested step server))

include settles

theorem host_keeps_undisturbed (id : WorkspaceId) (store : Machine → Machine → Machine)
    (load : Machine → Machine) {start : Server} (drained : start.roster.Drained) :
    (host nested client id store load).Keeps (Undisturbed client start) where
  write undisturbed := undisturbed.congr (roster_writeTo _ _ _) (.writeTo _ _ _)
  complain undisturbed := undisturbed.congr (roster_writeTo _ _ _) (.writeTo _ _ _)
  draw undisturbed := undisturbed.congr (roster_draw _) (.draw _)
  ask prompt machine server undisturbed := by
    apply of_ask fun _ => Undisturbed client start
    · exact undisturbed.congr (roster_writeTo _ _ _) (.writeTo _ _ _)
    · rintro reader input _ rfl
      have stored := roster_modifyWorkspace_of_keeps server id (fun workspace =>
        { workspace with machine := store workspace.machine machine }) fun _ => rfl
      have heard (target : WorkspaceId) (attends : server.roster.Attends client target) :
          target = reader := by
        have same := (undisturbed.hears target attends).symm.trans input
        cases same
        rfl
      have drained := undisturbed.calms.drained drained
      rw [← stored] at heard drained
      have asked := calms_getInput settles drained heard prompt
      rw [stored] at asked
      exact ⟨undisturbed.calms.trans asked.1,
        fun target attends => absurd attends (asked.2 target)⟩

theorem calms_executeCode {id : WorkspaceId} {server : Server} (drained : server.roster.Drained)
    (heard : ∀ target, server.roster.Attends client target → target = id) (code : Text) :
    Calms client server (executeCode nested client id code server) := by
  have begun : (server.started id).roster = server.roster.modify id (.run true) := by
    rw [started, roster_announce, roster_redirect,
      roster_modifyWorkspace _ id (.run true) fun _ => rfl]
  have drainedBegun : (server.started id).roster.Drained := by
    rw [begun]
    exact drained.modify id (.run true) fun _ => rfl
  have undisturbed : Undisturbed client (server.started id) (server.started id) := by
    refine ⟨.refl client _, fun target attends => ?_⟩
    rw [begun] at attends
    rw [heard target ((Roster.attends_run_iff true id target).mp attends)]
    exact congrArg (·.streams.input) (Unwired.started server id).wiring
  apply of_executeCode (Calms.tends client (server.started id) id)
  · intro ending machine after result
    have ran : Undisturbed client (server.started id) (Program.run (programHost nested client id)
        code .empty (server.started id)).2.2 :=
      Program.world_run (host_keeps_undisturbed settles id _ _ drainedBegun) code .empty undisturbed
    rw [result] at ran
    exact Calms.congr ran.calms (roster_modifyWorkspace_of_keeps after id _ fun _ => rfl)
  · intro after calms
    rw [Calms, begun] at calms
    have overall := Roster.calms_of_ran calms
    rw [← roster_stop] at overall
    simpa [Calms, finished] using overall

theorem calms_executeLine {id : WorkspaceId} {server : Server} (drained : server.roster.Drained)
    (heard : ∀ target, server.roster.Attends client target → target = id) (line : Text) :
    Calms client server (executeLine nested client id line server) := by
  apply of_executeLine (Calms.tends client server id)
  · exact fun _ => .refl client _
  · intro _ outcome machine after result
    have undisturbed : Undisturbed client server (server.redirect id) := by
      refine ⟨?_, fun target attends => ?_⟩
      · rw [roster_redirect]
        exact .refl client _
      · rw [roster_redirect] at attends
        rw [heard target attends]
        rfl
    have ran : Undisturbed client server (Line.execute (lineHost nested client id) line
        ((server.redirect id).lineMachine id) (server.redirect id)).2.2 :=
      (host_keeps_undisturbed settles id _ _ drained).execute undisturbed line _
    rw [result] at ran
    exact Calms.congr ran.calms (roster_modifyWorkspace_of_keeps after id _ fun _ => rfl)
  · exact fun calms => calms.congr (roster_restore _ id)

end Running

/-! ## Steps -/

theorem roster_renewWorkspace (server : Server) (session : Text) :
    (server.renewWorkspace session).2.roster = server.roster.renew session := by
  simp [roster, renewWorkspace, Roster.renew, Workspace.new, Workspace.activity, Activity.rest]

theorem roster_admitted (server : Server) (client : Text) :
    (admitted server client).roster =
      server.roster.enroll client (sessionName (server.sessions + 1)) := by
  simp [admitted, reply, send, roster, renewWorkspace, Roster.enroll, Roster.renew, Workspace.new,
    Workspace.activity, Activity.rest]

theorem calms_connect (client : Text) (server : Server) :
    Calms client server (connect server client) := by
  rw [Calms, connect_eq_print, roster_print, roster_admitted]
  exact Roster.calms_enroll client _ _

theorem calms_disconnect (client : Text) (server : Server) :
    Calms client server (disconnect server client) := by
  cases known : server.clients.find? client with
  | none =>
      rw [disconnect, known]
      exact .refl client _
  | some session =>
      rw [Calms, disconnect_eq_print known, roster_print]
      have stopped : Calms client server (server.stopSession session) := by
        apply of_stopSession (Calms client server)
        · exact .refl client _
        · intro id _
          rw [Calms, roster_stop]
          exact Roster.calms_stop client _ id
      have same : (server.stopSession session).roster.clients.find? client = some session :=
        (congrArg (fun wiring : Wiring => wiring.clients.find? client)
          (Unwired.stopSession server session).wiring).trans known
      exact stopped.trans (Roster.calms_dismiss same)

theorem calms_cleanup (client : Text) (server : Server) :
    Calms client server (cleanup server) := by
  apply of_cleanup (Calms client server) (Calms client server)
  · exact .refl client _
  · intro id after calms
    have stopped := Roster.calms_stop client after.roster id
    rw [← roster_stop] at stopped
    exact calms.trans stopped
  · intro after calms
    exact calms.trans (Roster.calms_clear client after.roster)

theorem calms_control {client : Text} {server : Server} {change : Workspace → Workspace}
    (calms : ∀ id, Calms client server (server.modifyWorkspace id change)) (event : Event) :
    Calms client server (control server client change event) :=
  of_control (fun _ => .refl client _) fun _ id _ => calms id

theorem calms_onWorkspace {client : Text} {server : Server}
    {action : Server → WorkspaceId → Server}
    (same : ∀ id, (action server id).roster = server.roster) :
    Calms client server (onWorkspace server client action) := by
  apply of_onWorkspace
  · exact fun _ => .refl client _
  · intro _ id _
    rw [Calms, same]
    exact .refl client _

theorem calms_renewWorkspace {client session : Text} {id : WorkspaceId} {server : Server}
    (current : server.activeSession? client = some (session, id)) :
    Calms client server ((server.modifyWorkspace id
      ({ · with running := false })).renewWorkspace session).2 := by
  rw [Calms, roster_renewWorkspace, roster_stop]
  exact (Roster.calms_stop client _ id).trans
    (Roster.calms_renew (activeSession?_eq_some_iff.mp current).1)

theorem calms_reset (client : Text) (server : Server) :
    Calms client server (reset server client) :=
  of_reset (fun _ => .refl client _) fun _ _ current => calms_renewWorkspace current

section Steps

variable {client : Text} {nested : Step → Server → StepEnd × Server}
  (settles : ∀ step server, server.roster.Drained →
    Settles client server.roster (nested step server))

include settles

theorem calms_startCode {server : Server} (drained : server.roster.Drained) (code : Text) :
    Calms client server (startCode nested server client code) := by
  apply of_startCode
  · exact fun _ _ => .refl client _
  · exact fun _ _ => .refl client _
  · intro session id current _
    have known := (activeSession?_eq_some_iff.mp current).1
    have opened : Calms client server (server.openWorkspace session id).2 :=
      calms_renewWorkspace current
    refine opened.trans (calms_executeCode settles (opened.drained drained) ?_ _)
    intro target attends
    exact attends.eq known (Table.find?_insert_self _ _ _)

theorem calms_startLine {server : Server} (drained : server.roster.Drained) (line : Text) :
    Calms client server (startLine nested server client line) := by
  apply of_startLine
  · exact fun _ _ => .refl client _
  · intro session id current
    have parts := activeSession?_eq_some_iff.mp current
    exact calms_executeLine settles drained (fun _ attends => attends.eq parts.1 parts.2) _

theorem settles_stepWithin (step : Step) {server : Server} (drained : server.roster.Drained) :
    Settles client server.roster (stepWithin nested client step server) := by
  cases step with
  | connect => exact .of_calms drained (calms_connect client server)
  | disconnect => exact .of_calms drained (calms_disconnect client server)
  | executeCode code => exact .of_calms drained (calms_startCode settles drained code)
  | executeLine line => exact .of_calms drained (calms_startLine settles drained line)
  | provideInput text => exact settles_provideInput drained text
  | stopExecution =>
      refine .of_calms drained (calms_control (fun id => ?_) _)
      rw [Calms, roster_stop]
      exact Roster.calms_stop client _ id
  | pauseExecution | resumeExecution =>
      refine .of_calms drained (calms_control (fun id => ?_) _)
      rw [Calms, roster_modifyWorkspace_of_keeps]
      · exact .refl client _
      · exact fun _ => rfl
  | resetInterpreter =>
          exact .of_calms drained (calms_reset client server)
  | write text toErrors =>
      refine .of_calms drained (calms_onWorkspace fun id => ?_)
      split
      · exact roster_writeTo server (.errors id) text
      · exact roster_writeTo server (.output id) text
  | flush | flushLine =>
      exact .of_calms drained (calms_onWorkspace fun id => roster_flushOutput server id)
  | cleanup => exact .of_calms drained (calms_cleanup client server)
  | signal =>
      have cleared := calms_cleanup client (server.print "\nShutting down...".toList)
      rw [Calms, roster_print] at cleared
      exact .of_calms drained cleared

end Steps

theorem settles_takeStep (client : Text) (depth : Nat) (step : Step) {server : Server}
    (drained : server.roster.Drained) :
    Settles client server.roster (takeStep depth client step server) := by
  induction depth generalizing step server with
  | zero =>
      exact settles_stepWithin
        (fun _ server drained => .of_calms drained (.refl client server.roster)) step drained
  | succ depth induction =>
      exact settles_stepWithin (fun step server drained => induction step drained) step drained

/-! ## Sequences of steps -/

/-- What holds of the workspaces between steps. -/
structure Rests (roster : Roster) : Prop where
  running (id : WorkspaceId) : (roster.activity id).running = false
  waiting (id : WorkspaceId) : (roster.activity id).waiting = false
  drained : roster.Drained

theorem rests_perform {server : Server} (rests : Rests server.roster) (client : Text) (step : Step)
    (answers : List Answer) : Rests (server.perform client step answers).2.roster := by
  have drained : (server.during answers).roster.Drained := rests.drained
  have settled : Settles client server.roster (server.perform client step answers) :=
    settles_takeStep client answers.length step drained
  refine ⟨fun id => ?_, fun id => ?_, fun id => ?_⟩
  · exact Bool.eq_false_iff.mpr fun running =>
      Bool.eq_false_iff.mp (rests.running id) (settled.eases.running id running)
  · exact Bool.eq_false_iff.mpr fun waiting =>
      Bool.eq_false_iff.mp (rests.waiting id) (settled.eases.waiting id waiting)
  · rcases settled.offers id with empty | ⟨attends, _⟩
    · exact empty
    · exact absurd attends.waiting (Bool.eq_false_iff.mp (rests.waiting id))

theorem Reachable.rests {draws : List Nat} {server : Server} (reachable : Reachable draws server) :
    Rests server.roster := by
  induction reachable with
  | start =>
      have rest (id : WorkspaceId) : (Server.start draws).roster.activity id = .rest :=
        Roster.activity_of_size_le _ (by simp [roster, Server.start])
      exact ⟨fun id => congrArg Activity.running (rest id),
        fun id => congrArg Activity.waiting (rest id),
        fun id => congrArg Activity.entered (rest id)⟩
  | perform _ client step answers induction => exact rests_perform induction client step answers

/-- Between steps no session has a program that runs or waits or a text that was entered and not
read, the active sessions are those that are registered, and only they have run programs. This is so
whatever clients do, also within waits and within the waits of what they do there. -/
theorem sessions_at_rest {draws : List Nat} {server : Server} (reachable : Reachable draws server) :
    (∀ session id, server.active.find? session = some id →
      ∃ workspace, server.workspace? id = some workspace ∧ workspace.running = false ∧
        workspace.waiting = false ∧ workspace.entered = []) ∧
    (∀ session, server.active.contains session = server.registered.contains session) ∧
    ∀ session ∈ server.threads, server.active.contains session = true := by
  have rests := reachable.rests
  refine ⟨fun session id found => ?_, reachable.matched.registered, reachable.matched.threads⟩
  have known : id < server.workspaces.size := lt_size_of_owner? (reachable.owned session id found)
  have seen : server.roster.activity id = server.workspaces[id].activity := by
    simp [Roster.activity, roster, known]
  refine ⟨server.workspaces[id], Array.getElem?_eq_getElem known, ?_, ?_, ?_⟩
  · exact (congrArg Activity.running seen).symm.trans (rests.running id)
  · exact (congrArg Activity.waiting seen).symm.trans (rests.waiting id)
  · exact (congrArg Activity.entered seen).symm.trans (rests.drained id)

/-- A client whose program waits while they execute a line that waits as well, run another program
that waits, and reset the interpreter before a text is entered. -/
def entangled : Server :=
  (connected.perform "a".toList (.executeCode "LISTEN STR x \"name\"\nSAY \"hi\"".toList)
    [.step (.executeLine "LISTEN STR y \"other\"".toList), .text "one".toList,
      .step (.executeCode "LISTEN STR z \"inner\"".toList), .step .stopExecution,
      .step .resetInterpreter, .text "two".toList, .step (.provideInput "three".toList)]).2

theorem sessions_at_rest_entangled :
    entangled.active.find? "sid-1".toList = some 3 ∧
      (∃ workspace, entangled.workspace? 3 = some workspace ∧ workspace.running = false ∧
        workspace.waiting = false ∧ workspace.entered = []) ∧
      "sid-1".toList ∈ entangled.threads ∧
      entangled.registered.contains "sid-1".toList = true := by
  have reachable : Reachable [] entangled :=
    ((@Reachable.start []).perform "a".toList .connect []).perform "a".toList _ _
  have rest := sessions_at_rest reachable
  have current : entangled.active.find? "sid-1".toList = some 3 := by decide +kernel
  have member : "sid-1".toList ∈ entangled.threads := by decide +kernel
  refine ⟨current, rest.1 _ 3 current, member, ?_⟩
  rw [← rest.2.1]
  exact rest.2.2 _ member

end Server

end Linewise.Session
