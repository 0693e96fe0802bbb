import Linewise.Proofs.Rest

/-!
Stopping what runs. A client may stop a program of theirs while it waits for a text, and is told
that it was stopped. This takes away the mark that something runs in the workspace, which nothing
looks at: when the program gets its text, it goes on as if it had not been stopped. So all that is
left of such a step is the news of it.
-/

namespace Linewise.Session

def unstopped (answers : List Answer) : List Answer :=
  answers.filter (· ≠ .step .stopExecution)

theorem unstopped_text_cons (text : Text) (answers : List Answer) :
    unstopped (.text text :: answers) = .text text :: unstopped answers :=
  List.filter_cons_of_pos (by simp)

theorem unstopped_step_cons {step : Step} (different : step ≠ .stopExecution)
    (answers : List Answer) :
    unstopped (.step step :: answers) = .step step :: unstopped answers :=
  List.filter_cons_of_pos (by simp [different])

theorem unstopped_stop_cons (answers : List Answer) :
    unstopped (.step .stopExecution :: answers) = unstopped answers :=
  List.filter_cons_of_neg (by simp)

def otherNews (sent : List Sent) : List Sent :=
  sent.filter fun item => item.event ≠ .executionStopped

def Workspace.unmarked (workspace : Workspace) : Workspace := { workspace with running := false }

namespace Server

/-- A server without its marks of what runs, the news of what was stopped, and the answers that are
still to come. -/
def unmarked (server : Server) : Server :=
  { server with
    workspaces := server.workspaces.map Workspace.unmarked
    sent := otherNews server.sent
    answers := [] }

/-! ## What does not look at the marks

The mark that something runs in a workspace is written and never read, so that an operation does the
same to servers that differ only in their marks. -/

/-- The operation does not look at the marks, nor does it use up answers. -/
structure Blind (operation : Server → Server) : Prop where
  unmarked {server image : Server} (same : image.unmarked = server.unmarked) :
    (operation image).unmarked = (operation server).unmarked
  answers (server : Server) : (operation server).answers = server.answers

theorem workspace?_unmarked {server image : Server} (same : image.unmarked = server.unmarked)
    (id : WorkspaceId) :
    (image.workspace? id).map Workspace.unmarked =
      (server.workspace? id).map Workspace.unmarked := by
  have found := congrArg (fun server : Server => server.workspaces[id]?) same
  simp only [unmarked, Array.getElem?_map] at found
  exact found

theorem view_unmarked {View : Type} {server image : Server}
    (same : image.unmarked = server.unmarked) (id : WorkspaceId) (view : Workspace → View)
    (unseen : ∀ workspace, view workspace.unmarked = view workspace) :
    (image.workspace? id).map view = (server.workspace? id).map view := by
  have found := congrArg (Option.map view) (workspace?_unmarked same id)
  simp only [Option.map_map] at found
  have through : view ∘ Workspace.unmarked = view := funext unseen
  rw [through] at found
  exact found

theorem streams_unmarked {server image : Server} (same : image.unmarked = server.unmarked) :
    image.streams = server.streams := by
  have seen : image.unmarked.streams = server.unmarked.streams := by rw [same]
  exact seen

theorem draws_unmarked {server image : Server} (same : image.unmarked = server.unmarked) :
    image.draws = server.draws := by
  have seen : image.unmarked.draws = server.unmarked.draws := by rw [same]
  exact seen

namespace Blind

theorem comp {first second : Server → Server} (before : Blind first) (after : Blind second) :
    Blind fun server => second (first server) where
  unmarked same := after.unmarked (before.unmarked same)
  answers server := (after.answers _).trans (before.answers server)

/-- What an operation leaves on the unmarked server is found from what was there. -/
theorem of_factor {operation : Server → Server} (through : Server → Server)
    (factors : ∀ server, (operation server).unmarked = through server.unmarked)
    (answers : ∀ server, (operation server).answers = server.answers) : Blind operation where
  unmarked same := by rw [factors, factors, same]
  answers := answers

/-- What an operation does may depend on what is seen of the unmarked server. -/
theorem of_seen {Seen : Type} (seen : Server → Seen) (acts : Seen → Server → Server)
    {operation : Server → Server}
    (unseen : ∀ {server image : Server}, image.unmarked = server.unmarked →
      seen image = seen server)
    (same : ∀ server, operation server = acts (seen server) server)
    (blind : ∀ found, Blind (acts found)) : Blind operation where
  unmarked equal := by
    rw [same, same, unseen equal]
    exact (blind _).unmarked equal
  answers server := by
    rw [same]
    exact (blind _).answers server

theorem nothing : Blind fun server => server := ⟨fun same => same, fun _ => rfl⟩

theorem modifyWorkspace (id : WorkspaceId) (change : Workspace → Workspace)
    (blind : ∀ workspace, (change workspace).unmarked = (change workspace.unmarked).unmarked) :
    Blind fun server => server.modifyWorkspace id change := by
  apply of_factor fun server =>
    server.modifyWorkspace id fun workspace => (change workspace).unmarked
  · intro server
    have changed : (server.workspaces.modify id change).map Workspace.unmarked =
        (server.workspaces.map Workspace.unmarked).modify id fun workspace =>
          (change workspace).unmarked := map_modify _ blind
    simp only [Server.unmarked, Server.modifyWorkspace, changed]
  · exact fun _ => rfl

theorem send (event : Event) (room : Option Text) :
    Blind fun server => server.send event room := by
  apply of_factor fun server => { server with sent := otherNews [⟨event, room⟩] ++ server.sent }
  · intro server
    have split : otherNews (⟨event, room⟩ :: server.sent) =
        otherNews [⟨event, room⟩] ++ otherNews server.sent := List.filter_append [_] server.sent
    simp only [Server.unmarked, Server.send, split]
  · exact fun _ => rfl

theorem announce (id : WorkspaceId) (event : Event) :
    Blind fun server => server.announce id event := by
  apply of_seen (fun server => (server.workspace? id).map (·.session))
    (fun found server => found.elim server fun session => server.send event (some session))
  · exact fun same => view_unmarked same id _ fun _ => rfl
  · intro server
    rw [Server.announce]
    cases server.workspace? id <;> rfl
  · intro found
    cases found with
    | none => exact nothing
    | some session => exact send event (some session)

theorem announceLines (id : WorkspaceId) (channel : Channel) (lines : List Text) :
    Blind fun server => server.announceLines id channel lines := by
  induction lines with
  | nil => exact nothing
  | cons line rest induction => exact (announce id (.output channel line)).comp induction

theorem pass (id : WorkspaceId) (port : Port) (act : Capture → List Text × Capture) :
    Blind fun server => server.pass id port act := by
  apply of_seen (fun server => (server.workspace? id).map (·.capture port)) fun found server =>
    found.elim server fun capture => (server.announceLines id port.channel
      (act capture).1).modifyWorkspace id (·.replace port (act capture).2)
  · exact fun same => view_unmarked same id _ fun _ => by cases port <;> rfl
  · intro server
    rw [Server.pass]
    cases server.workspace? id <;> rfl
  · intro found
    cases found with
    | none => exact nothing
    | some capture =>
        refine (announceLines id port.channel _).comp (modifyWorkspace id _ fun _ => ?_)
        cases port <;> rfl

theorem writeTo (sink : Sink) (text : Text) : Blind fun server => server.writeTo sink text := by
  cases sink with
  | server =>
      exact of_factor (fun server => { server with printed := text :: server.printed })
        (fun _ => rfl) fun _ => rfl
  | output id => exact pass id .output (·.write text)
  | errors id => exact pass id .errors (·.write text)

theorem flushOutput (id : WorkspaceId) : Blind fun server => server.flushOutput id :=
  pass id .output Capture.flush

theorem flushErrors (id : WorkspaceId) : Blind fun server => server.flushErrors id :=
  pass id .errors Capture.flush

theorem write (text : Text) : Blind fun server => server.writeTo server.streams.output text :=
  of_seen (·.streams.output) (fun sink server => server.writeTo sink text)
    (fun same => congrArg (·.streams.output) same) (fun _ => rfl) fun sink => writeTo sink text

theorem complain (text : Text) : Blind fun server => server.writeTo server.streams.errors text :=
  of_seen (·.streams.errors) (fun sink server => server.writeTo sink text)
    (fun same => congrArg (·.streams.errors) same) (fun _ => rfl) fun sink => writeTo sink text

theorem print (text : Text) : Blind fun server => server.print text :=
  (write text).comp (write ['\n'])

theorem redirect (id : WorkspaceId) : Blind fun server => server.redirect id := by
  have rewired : Blind fun server : Server => { server with streams := .ofWorkspace id } :=
    of_factor (fun server => { server with streams := .ofWorkspace id }) (fun _ => rfl) fun _ => rfl
  apply of_seen (·.streams) fun streams server =>
    { server.modifyWorkspace id ({ · with saved := streams }) with streams := .ofWorkspace id }
  · exact fun same => congrArg (·.streams) same
  · exact fun _ => rfl
  · intro streams
    exact (modifyWorkspace id ({ · with saved := streams }) fun _ => rfl).comp rewired

theorem restore (id : WorkspaceId) : Blind fun server => server.restore id := by
  apply of_seen (fun server => (server.workspace? id).map (·.saved)) fun found server =>
    found.elim server fun streams => { server with streams }
  · exact fun same => view_unmarked same id _ fun _ => rfl
  · intro server
    rw [Server.restore]
    cases server.workspace? id <;> rfl
  · intro found
    cases found with
    | none => exact nothing
    | some streams =>
        exact of_factor (fun server => { server with streams }) (fun _ => rfl) fun _ => rfl

theorem renewWorkspace (session : Text) :
    Blind fun server => (server.renewWorkspace session).2 := by
  apply of_factor fun server => (server.renewWorkspace session).2
  · intro server
    simp [Server.unmarked, Server.renewWorkspace, Workspace.unmarked, Workspace.new]
  · exact fun _ => rfl

theorem draw : Blind fun server => server.draw.2 := by
  apply of_seen (·.draws) fun draws server => { server with draws := draws.tail }
  · exact fun same => congrArg (·.draws) same
  · intro server
    rw [Server.draw]
    rcases server with ⟨_, _, _, _, _, _, _, _, _, draws, _⟩
    cases draws <;> rfl
  · exact fun draws => of_factor (fun server => { server with draws := draws.tail }) (fun _ => rfl)
      fun _ => rfl

theorem stop (id : WorkspaceId) :
    Blind fun server => server.modifyWorkspace id ({ · with running := false }) :=
  modifyWorkspace id _ fun _ => rfl

end Blind

/-! ## Steps that run nothing -/

theorem activeSession?_unmarked {server image : Server} (same : image.unmarked = server.unmarked)
    (client : Text) : image.activeSession? client = server.activeSession? client := by
  have seen : image.unmarked.activeSession? client = server.unmarked.activeSession? client := by
    rw [same]
  exact seen

section Steps

variable (client : Text)

theorem blind_provideInput (text : Text) :
    Blind fun server => server.provideInput client text where
  unmarked {server image} same := by
    unfold provideInput
    rw [activeSession?_unmarked same]
    cases server.activeSession? client with
    | none => exact (Blind.send _ none).unmarked same
    | some pair =>
        rcases pair with ⟨session, id⟩
        have waiting : (image.workspace? id).any (·.waiting) =
            (server.workspace? id).any (·.waiting) := by
          have seen := congrArg (Option.any fun waiting => waiting)
            (view_unmarked same id (·.waiting) fun _ => rfl)
          rw [Option.any_map, Option.any_map] at seen
          exact seen
        simp only [waiting]
        split
        · have entered := Blind.modifyWorkspace id (fun workspace =>
            { workspace with entered := workspace.entered ++ [text] }) fun _ => rfl
          exact ((entered.comp (.send (.inputProvided text) none)).comp (.send _ _)).unmarked same
        · exact (Blind.send _ none).unmarked same
  answers server := (Unwired.provideInput server client text).answers

theorem blind_control {change : Workspace → Workspace}
    (blind : ∀ workspace, (change workspace).unmarked = (change workspace.unmarked).unmarked)
    (event : Event) : Blind fun server => control server client change event where
  unmarked {server image} same := by
    unfold control
    rw [activeSession?_unmarked same]
    cases server.activeSession? client with
    | none => exact same
    | some pair =>
        exact ((Blind.modifyWorkspace pair.2 change blind).comp (.send event none)).unmarked same
  answers server := by
    unfold control
    split <;> rfl

theorem blind_onWorkspace {action : Server → WorkspaceId → Server}
    (blind : ∀ id, Blind fun server => action server id) :
    Blind fun server => onWorkspace server client action where
  unmarked {server image} same := by
    unfold onWorkspace
    rw [activeSession?_unmarked same]
    cases server.activeSession? client with
    | none => exact same
    | some pair => exact (blind pair.2).unmarked same
  answers server := by
    unfold onWorkspace
    split
    · rfl
    · exact (blind _).answers server

theorem blind_reset : Blind fun server => reset server client where
  unmarked {server image} same := by
    unfold reset
    rw [activeSession?_unmarked same]
    cases server.activeSession? client with
    | none => exact same
    | some pair =>
        exact (((Blind.stop pair.2).comp (.renewWorkspace pair.1)).comp
          (.send .interpreterReset none)).unmarked same
  answers server := by
    unfold reset
    split <;> rfl

theorem blind_admitted : Blind fun server => admitted server client := by
  apply Blind.of_factor fun server => admitted server client
  · intro server
    simp [admitted, unmarked, renewWorkspace, reply, send, otherNews, Workspace.unmarked,
      Workspace.new]
  · exact fun _ => rfl

theorem blind_connect : Blind fun server => connect server client := by
  apply Blind.of_seen (·.sessions) fun sessions server => (admitted server client).print
    ("Client connected: ".toList ++ sessionName (sessions + 1))
  · exact fun same => congrArg (·.sessions) same
  · exact fun _ => rfl
  · exact fun sessions => (blind_admitted client).comp (.print _)

theorem blind_stopSession (session : Text) : Blind fun server => server.stopSession session := by
  apply Blind.of_seen (·.active.find? session) fun found server =>
    found.elim server fun id => server.modifyWorkspace id ({ · with running := false })
  · exact fun same => congrArg (·.active.find? session) same
  · intro server
    rw [stopSession]
    cases server.active.find? session <;> rfl
  · intro found
    cases found with
    | none => exact .nothing
    | some id => exact .stop id

theorem blind_dismissed (session : Text) : Blind fun server => dismissed server session := by
  have erased : Blind fun server : Server => { server with
      active := server.active.erase session
      registered := server.registered.erase session
      threads := server.threads.filter (· ≠ session) } :=
    .of_factor (fun server => { server with
      active := server.active.erase session
      registered := server.registered.erase session
      threads := server.threads.filter (· ≠ session) }) (fun _ => rfl) fun _ => rfl
  exact (blind_stopSession session).comp erased

theorem blind_disconnect : Blind fun server => disconnect server client := by
  apply Blind.of_seen (·.clients.find? client) fun found server =>
    found.elim server fun session =>
      (dismissed server session).print ("Client disconnected: ".toList ++ session)
  · exact fun same => congrArg (·.clients.find? client) same
  · intro server
    cases known : server.clients.find? client with
    | none =>
        rw [disconnect, known]
        rfl
    | some session => exact disconnect_eq_print known
  · intro found
    cases found with
    | none => exact .nothing
    | some session => exact (blind_dismissed session).comp (.print _)

theorem blind_cleanup : Blind cleanup := by
  have stopped (pairs : List (Text × WorkspaceId)) : Blind fun server => pairs.foldl
      (fun server pair => server.modifyWorkspace pair.2 ({ · with running := false })) server := by
    induction pairs with
    | nil => exact .nothing
    | cons pair rest induction => exact (Blind.stop pair.2).comp induction
  have cleared : Blind fun server : Server =>
      { server with active := .empty, registered := .empty, threads := [] } :=
    .of_factor (fun server => { server with active := .empty, registered := .empty, threads := [] })
      (fun _ => rfl) fun _ => rfl
  apply Blind.of_seen (·.active.pairs) fun pairs server =>
    { pairs.foldl (fun server pair =>
        server.modifyWorkspace pair.2 ({ · with running := false })) server with
      active := .empty, registered := .empty, threads := [] }
  · exact fun same => congrArg (·.active.pairs) same
  · exact fun _ => rfl
  · exact fun pairs => (stopped pairs).comp cleared

theorem openWorkspace_fst_unmarked {server image : Server}
    (same : image.unmarked = server.unmarked) (session : Text) (id : WorkspaceId) :
    (image.openWorkspace session id).1 = (server.openWorkspace session id).1 := by
  have seen : image.unmarked.workspaces.size = server.unmarked.workspaces.size := by rw [same]
  simpa [openWorkspace, renewWorkspace, modifyWorkspace, unmarked] using seen

theorem blind_openWorkspace (session : Text) (id : WorkspaceId) :
    Blind fun server => (server.openWorkspace session id).2 := by
  have noted : Blind fun server : Server => { server with
      threads := if server.threads.contains session then server.threads
        else session :: server.threads } :=
    .of_factor (fun server => { server with
      threads := if server.threads.contains session then server.threads
        else session :: server.threads }) (fun _ => rfl) fun _ => rfl
  exact ((Blind.stop id).comp (.renewWorkspace session)).comp noted

end Steps

/-! ## Shadows

A step that stops is left out among the answers, and the news of it among what was sent. -/

/-- The image is what the server would be if the steps that stop had not been taken, and will not
be. -/
structure Shadow (server image : Server) : Prop where
  unmarked : image.unmarked = server.unmarked
  answers : image.answers = unstopped server.answers

theorem Shadow.map {server image : Server} (shadow : Shadow server image)
    {operation : Server → Server} (blind : Blind operation) :
    Shadow (operation server) (operation image) where
  unmarked := blind.unmarked shadow.unmarked
  answers := by
    rw [blind.answers, blind.answers]
    exact shadow.answers

/-- There are not too many answers for the steps that can be taken in waits. -/
structure Tracked (bound limit : Nat) (server image : Server) : Prop
    extends Shadow server image where
  within : server.answers.length ≤ bound
  inside : image.answers.length ≤ limit

theorem Tracked.map {bound limit : Nat} {server image : Server}
    (tracked : Tracked bound limit server image) {operation : Server → Server}
    (blind : Blind operation) : Tracked bound limit (operation server) (operation image) where
  toShadow := tracked.toShadow.map blind
  within := by
    rw [blind.answers]
    exact tracked.within
  inside := by
    rw [blind.answers]
    exact tracked.inside

/-- Two steps ended in the same way. -/
structure Shadowed (result image : StepEnd × Server) : Prop where
  ending : image.1 = result.1
  server : Shadow result.2 image.2

/-- A step that stops does nothing that can be seen. -/
theorem unmarked_stopExecution (server : Server) (client : Text) :
    (control server client ({ · with running := false }) .executionStopped).unmarked =
      server.unmarked := by
  unfold control
  split
  · rfl
  · next id _ =>
      have same : (server.workspaces.modify id ({ · with running := false })).map
          Workspace.unmarked = server.workspaces.map Workspace.unmarked :=
        map_modify_of_keeps fun _ => rfl
      have news : otherNews (⟨.executionStopped, none⟩ :: server.sent) = otherNews server.sent :=
        List.filter_cons_of_neg (by simp)
      simp only [unmarked, reply, send, modifyWorkspace, same, news]

theorem takeEntered?_eq (server : Server) (id : WorkspaceId) :
    server.takeEntered? id = ((server.workspace? id).map (·.entered)).bind fun entered =>
      match entered with
      | [] => none
      | text :: rest => some (text, server.modifyWorkspace id ({ · with entered := rest })) := by
  unfold takeEntered?
  cases server.workspace? id with
  | none => rfl
  | some workspace => cases entered : workspace.entered <;> simp [entered]

theorem Shadow.takeEntered? {server image : Server} (shadow : Shadow server image)
    (id : WorkspaceId) :
    (server.takeEntered? id = none ∧ image.takeEntered? id = none) ∨
      ∃ text after later, server.takeEntered? id = some (text, after) ∧
        image.takeEntered? id = some (text, later) ∧ Shadow after later := by
  rw [takeEntered?_eq, takeEntered?_eq, view_unmarked shadow.unmarked id (·.entered) fun _ => rfl]
  cases (server.workspace? id).map (·.entered) with
  | none => exact .inl ⟨rfl, rfl⟩
  | some entered =>
      cases entered with
      | nil => exact .inl ⟨rfl, rfl⟩
      | cons text rest =>
          exact .inr ⟨text, _, _, rfl, rfl, shadow.map (.modifyWorkspace id _ fun _ => rfl)⟩

/-! ## Waiting -/

theorem await_text {nested : Step → Server → StepEnd × Server} {client : Text} {id : WorkspaceId}
    {turns : Nat} {server : Server} {text : Text} {rest : List Answer}
    (nothing : server.takeEntered? id = none) (answers : server.answers = .text text :: rest) :
    await nested client id (turns + 1) server =
      await nested client id turns ({ server with answers := rest }.provideInput client text) := by
  rw [await, nothing]
  simp only [answers]

theorem await_step {nested : Step → Server → StepEnd × Server} {client : Text} {id : WorkspaceId}
    {turns : Nat} {server after : Server} {step : Step} {rest : List Answer}
    (nothing : server.takeEntered? id = none) (answers : server.answers = .step step :: rest)
    (taken : nested step { server with answers := rest } = (.done, after)) :
    await nested client id (turns + 1) server = await nested client id turns after := by
  rw [await, nothing]
  simp only [answers, taken]

theorem await_exit {nested : Step → Server → StepEnd × Server} {client : Text} {id : WorkspaceId}
    {turns code : Nat} {server after : Server} {step : Step} {rest : List Answer}
    (nothing : server.takeEntered? id = none) (answers : server.answers = .step step :: rest)
    (taken : nested step { server with answers := rest } = (.exited code, after)) :
    await nested client id (turns + 1) server = (.exit code, after) := by
  rw [await, nothing]
  simp only [answers, taken]

section Waiting

variable {client : Text} {nested other : Step → Server → StepEnd × Server} {bound limit : Nat}
  (takes : ∀ step server, server.answers.length < bound →
    Takes client step server (nested step server).2)
  (otherTakes : ∀ step server, server.answers.length < limit →
    Takes client step server (other step server).2)
  (shadowed : ∀ step server image, step ≠ .stopExecution → Shadow server image →
    server.answers.length < bound → image.answers.length < limit →
      Shadowed (nested step server) (other step image))
  (stops : ∀ server, server.answers.length < bound → nested .stopExecution server =
    (.done, control server client ({ · with running := false }) .executionStopped))

include takes otherTakes shadowed stops

/-- The image has fewer answers to wait for, and so it may take fewer turns. -/
theorem shadow_await (reader : WorkspaceId) (turns left : Nat) {server image : Server}
    (shadow : Shadow server image) (enough : server.answers.length < turns)
    (sufficient : image.answers.length < left) (within : server.answers.length ≤ bound)
    (inside : image.answers.length ≤ limit) :
    (await other client reader left image).1 = (await nested client reader turns server).1 ∧
      Shadow (await nested client reader turns server).2
        (await other client reader left image).2 := by
  induction turns generalizing server image left with
  | zero => exact absurd enough (Nat.not_lt_zero _)
  | succ turns induction =>
      cases left with
      | zero => exact absurd sufficient (Nat.not_lt_zero _)
      | succ left =>
      rcases shadow.takeEntered? reader with
        ⟨nothing, same⟩ | ⟨text, after, later, taken, same, still⟩
      · have fewer := shadow.answers
        cases answers : server.answers with
        | nil =>
            rw [answers] at fewer
            rw [await, await, nothing, same]
            simp only [answers, fewer]
            exact ⟨rfl, shadow⟩
        | cons answer rest =>
            rw [answers, List.length_cons] at enough within
            rw [answers] at fewer
            have spent : Shadow { server with answers := rest }
                { image with answers := unstopped rest } := ⟨shadow.unmarked, rfl⟩
            cases answer with
            | text text =>
                rw [unstopped_text_cons] at fewer
                rw [fewer, List.length_cons] at sufficient inside
                have entered := blind_provideInput client text
                rw [await_text nothing answers, await_text same fewer]
                apply induction left (spent.map entered)
                all_goals
                  rw [entered.answers]
                  simp only
                  omega
            | step step =>
                by_cases stop : step = .stopExecution
                · -- Only the server takes this step, and the image waits for it.
                  subst stop
                  rw [unstopped_stop_cons] at fewer
                  have kept := unwired_control { server with answers := rest } client
                    ({ · with running := false }) .executionStopped fun _ => rfl
                  have still : Shadow (control { server with answers := rest } client
                      ({ · with running := false }) .executionStopped) image := by
                    constructor
                    · rw [unmarked_stopExecution]
                      exact shadow.unmarked
                    · rw [kept.answers]
                      exact fewer
                  have length := congrArg List.length kept.answers
                  simp only at length
                  rw [await_step nothing answers (stops { server with answers := rest } within)]
                  exact induction (left + 1) still (by omega) sufficient (by omega) inside
                · rw [unstopped_step_cons stop] at fewer
                  rw [fewer, List.length_cons] at sufficient inside
                  have result := shadowed step _ _ stop spent within inside
                  have length := (takes step { server with answers := rest } within).length_le
                  have imageLength := (otherTakes step { image with answers := unstopped rest }
                    inside).length_le
                  generalize taken : nested step { server with answers := rest } = after
                    at result length
                  generalize otherTaken : other step { image with answers := unstopped rest } =
                    later at result imageLength
                  rcases after with ⟨ending, after⟩
                  rcases later with ⟨imageEnding, later⟩
                  cases result.ending
                  cases ending with
                  | done =>
                      rw [await_step nothing answers taken, await_step same fewer otherTaken]
                      simp only at length imageLength
                      exact induction left result.server (by omega) (by omega) (by omega) (by omega)
                  | exited code =>
                      rw [await_exit nothing answers taken, await_exit same fewer otherTaken]
                      exact ⟨rfl, result.server⟩
      · rw [await, await, taken, same]
        exact ⟨rfl, still⟩

theorem shadow_getInput (reader : WorkspaceId) (prompt : Text) {server image : Server}
    (tracked : Tracked bound limit server image) :
    (getInput other client reader prompt image).1 =
        (getInput nested client reader prompt server).1 ∧
      Tracked bound limit (getInput nested client reader prompt server).2
        (getInput other client reader prompt image).2 := by
  have asks : Blind fun server => server.asking reader prompt :=
    ((Blind.flushOutput reader).comp (.announce reader _)).comp
      (.modifyWorkspace reader _ fun _ => rfl)
  have ends : Blind fun server => server.modifyWorkspace reader ({ · with waiting := false }) :=
    .modifyWorkspace reader _ fun _ => rfl
  have asked := tracked.map asks
  rw [getInput_eq, getInput_eq]
  simp only at asked ⊢
  generalize server.asking reader prompt = ready at asked ⊢
  generalize image.asking reader prompt = later at asked ⊢
  have length := (reaches_await takes reader (ready.answers.length + 1) ready
    asked.within).length_le
  have imageLength := (reaches_await otherTakes reader (later.answers.length + 1) later
    asked.inside).length_le
  have waited := shadow_await takes otherTakes shadowed stops reader _ _ asked.toShadow
    (Nat.lt_succ_self _) (Nat.lt_succ_self _) asked.within asked.inside
  exact ⟨waited.1, waited.2.map ends, length.trans asked.within, imageLength.trans asked.inside⟩

theorem host_simulates_shadow (id : WorkspaceId) (store : Machine → Machine → Machine)
    (load : Machine → Machine) :
    (host nested client id store load).Simulates (host other client id store load)
      (fun _ => False) (Tracked bound limit) where
  spoiled := Host.keeps_false _
  write text _ _ tracked := tracked.map (.write text)
  complain text _ _ tracked := tracked.map (.complain text)
  draw {server image} tracked := by
    refine ⟨?_, tracked.map .draw⟩
    simp only [host, draw, draws_unmarked tracked.unmarked]
    cases server.draws <;> rfl
  ask prompt machine server image tracked := by
    have stored := tracked.map (.modifyWorkspace id (fun workspace =>
      { workspace with machine := store workspace.machine machine }) fun _ => rfl)
    unfold host
    simp only [streams_unmarked tracked.unmarked] at stored ⊢
    split
    · exact .inr ⟨rfl, rfl, tracked.map (.writeTo _ prompt)⟩
    · next reader _ =>
        generalize server.modifyWorkspace id _ = ready at stored ⊢
        generalize image.modifyWorkspace id _ = later at stored ⊢
        have asked := shadow_getInput takes otherTakes shadowed stops reader prompt stored
        generalize getInput nested client reader prompt ready = result at asked ⊢
        generalize getInput other client reader prompt later = imageResult at asked ⊢
        have found := view_unmarked asked.2.unmarked id (fun workspace => load workspace.machine)
          fun _ => rfl
        exact .inr ⟨asked.1, congrArg (·.getD machine) found, asked.2⟩

/-! ## Runs -/

theorem shadow_executeCode (id : WorkspaceId) (code : Text) {server image : Server}
    (tracked : Tracked bound limit server image) :
    Shadow (executeCode nested client id code server) (executeCode other client id code image) := by
  have starts : Blind fun server => server.started id :=
    ((Blind.modifyWorkspace id ({ · with running := true }) fun _ => rfl).comp
      (.redirect id)).comp (.announce id .executionStarted)
  have ran := (Program.run_simulated (host_simulates_shadow takes otherTakes shadowed stops id
    (fun _ machine => machine) (fun machine => machine)) code .empty
      (tracked.map starts)).resolve_left not_false
  unfold executeCode
  simp only [started] at ran ⊢
  generalize Program.run (host nested client id _ _) code .empty _ = result at ran ⊢
  generalize Program.run (host other client id _ _) code .empty _ = imageResult at ran ⊢
  rcases result with ⟨ending, machine, closed⟩
  rcases imageResult with ⟨imageEnding, imageMachine, later⟩
  cases ran.same
  cases ran.machine
  have stores : Blind fun server => server.modifyWorkspace id ({ · with machine := machine }) :=
    .modifyWorkspace id _ fun _ => rfl
  have flushes := (stores.comp (.flushOutput id)).comp (.flushErrors id)
  have finishes : Blind fun server => server.finished id :=
    ((Blind.stop id).comp (.restore id)).comp (.announce id _)
  cases ending with
  | returned =>
      have closes := ran.world.toShadow.map (flushes.comp finishes)
      simp only at closes ⊢
      exact closes
  | exited code => exact ran.world.toShadow.map (stores.comp finishes)
  | unfinished => exact ran.world.toShadow.map (stores.comp finishes)

theorem shadow_executeLine (id : WorkspaceId) (line : Text) {server image : Server}
    (tracked : Tracked bound limit server image) :
    Shadow (executeLine nested client id line server) (executeLine other client id line image) := by
  unfold executeLine
  split
  · exact tracked.toShadow
  have begun := tracked.map (.redirect id)
  have found := congrArg (·.getD .empty)
    (view_unmarked begun.unmarked id (·.machine.outermost) fun _ => rfl)
  simp only at begun found ⊢
  rw [found]
  have ran := ((host_simulates_shadow takes otherTakes shadowed stops id Machine.withOutermost
    Machine.outermost).execute begun line ((((server.redirect id).workspace? id).map
      (·.machine.outermost)).getD .empty)).resolve_left not_false
  generalize Line.execute (host nested client id _ _) line _ _ = result at ran ⊢
  generalize Line.execute (host other client id _ _) line _ _ = imageResult at ran ⊢
  rcases result with ⟨outcome, machine, closed⟩
  rcases imageResult with ⟨imageOutcome, imageMachine, later⟩
  cases ran.same
  cases ran.machine
  have stores : Blind fun server => server.modifyWorkspace id fun workspace =>
      { workspace with machine := workspace.machine.withOutermost machine } :=
    .modifyWorkspace id _ fun _ => rfl
  have flushes := (stores.comp (.flushOutput id)).comp (.flushErrors id)
  cases outcome with
  | done =>
      have closes := ran.world.toShadow.map
        ((flushes.comp (.announce id (.lineExecuted line none))).comp (.restore id))
      simp only at closes ⊢
      exact closes
  | failed error =>
      exact ran.world.toShadow.map (((stores.comp (.announce id _)).comp (.announce id _)).comp
        (.restore id))
  | exited code => exact ran.world.toShadow.map (stores.comp (.restore id))

theorem shadow_startCode (code : Text) {server image : Server}
    (tracked : Tracked bound limit server image) :
    Shadow (startCode nested server client code) (startCode other image client code) := by
  unfold startCode
  rw [activeSession?_unmarked tracked.unmarked]
  cases server.activeSession? client with
  | none => exact tracked.toShadow.map (.send _ none)
  | some pair =>
      rcases pair with ⟨session, id⟩
      simp only
      split
      · exact tracked.toShadow.map (.send _ none)
      · have same := openWorkspace_fst_unmarked tracked.unmarked session id
        have opened := tracked.map (blind_openWorkspace session id)
        generalize server.openWorkspace session id = result at same opened ⊢
        generalize image.openWorkspace session id = imageResult at same opened ⊢
        rw [same]
        exact shadow_executeCode takes otherTakes shadowed stops result.1 _ opened

theorem shadow_startLine (line : Text) {server image : Server}
    (tracked : Tracked bound limit server image) :
    Shadow (startLine nested server client line) (startLine other image client line) := by
  unfold startLine
  rw [activeSession?_unmarked tracked.unmarked]
  cases server.activeSession? client with
  | none => exact tracked.toShadow.map (.send _ none)
  | some pair => exact shadow_executeLine takes otherTakes shadowed stops pair.2 _ tracked

theorem shadowed_stepWithin {step : Step} (different : step ≠ .stopExecution)
    {server image : Server} (tracked : Tracked bound limit server image) :
    Shadowed (stepWithin nested client step server) (stepWithin other client step image) := by
  have shadow := tracked.toShadow
  cases step with
  | connect => exact ⟨rfl, shadow.map (blind_connect client)⟩
  | disconnect => exact ⟨rfl, shadow.map (blind_disconnect client)⟩
  | executeCode code =>
      exact ⟨rfl, shadow_startCode takes otherTakes shadowed stops code tracked⟩
  | executeLine line =>
      exact ⟨rfl, shadow_startLine takes otherTakes shadowed stops line tracked⟩
  | provideInput text => exact ⟨rfl, shadow.map (blind_provideInput client text)⟩
  | stopExecution => exact absurd rfl different
  | pauseExecution => exact ⟨rfl, shadow.map (blind_control client (fun _ => rfl) _)⟩
  | resumeExecution => exact ⟨rfl, shadow.map (blind_control client (fun _ => rfl) _)⟩
  | resetInterpreter => exact ⟨rfl, shadow.map (blind_reset client)⟩
  | write text toErrors =>
      have writes : Blind fun server => onWorkspace server client fun server id =>
          if toErrors then server.writeErrors id text else server.writeOutput id text := by
        apply blind_onWorkspace client
        intro id
        cases toErrors with
        | true => exact .writeTo (.errors id) text
        | false => exact .writeTo (.output id) text
      exact ⟨rfl, shadow.map writes⟩
  | flush => exact ⟨rfl, shadow.map (blind_onWorkspace client Blind.flushOutput)⟩
  | flushLine => exact ⟨rfl, shadow.map (blind_onWorkspace client Blind.flushOutput)⟩
  | cleanup => exact ⟨rfl, shadow.map blind_cleanup⟩
  | signal => exact ⟨rfl, shadow.map ((Blind.print _).comp blind_cleanup)⟩

end Waiting

/-- Steps within waits are shadowed whatever the depths to which they may lie, as long as these
suffice for the answers. -/
theorem shadowed_within (client : Text) (depth other : Nat) {step : Step}
    (different : step ≠ .stopExecution) {server image : Server} (shadow : Shadow server image)
    (enough : server.answers.length < depth) (sufficient : image.answers.length < other) :
    Shadowed (within depth client step server) (within other client step image) := by
  induction depth generalizing other step server image with
  | zero => exact absurd enough (Nat.not_lt_zero _)
  | succ depth induction =>
      cases other with
      | zero => exact absurd sufficient (Nat.not_lt_zero _)
      | succ other =>
          rw [within, within, takeStep_eq, takeStep_eq]
          refine shadowed_stepWithin (takes_within depth client) (takes_within other client)
            (fun step server image different shadow => induction other different shadow) ?_
            different ⟨shadow, Nat.le_of_lt_succ enough, Nat.le_of_lt_succ sufficient⟩
          intro server fewer
          cases depth with
          | zero => exact absurd fewer (Nat.not_lt_zero _)
          | succ depth =>
              rw [within, takeStep_eq]
              rfl

/-! ## Whole steps -/

def withoutNews (server : Server) : Server := { server with sent := otherNews server.sent }

theorem unmarked_of_rests {server : Server} (rests : Rests server.roster) :
    server.unmarked = { server.withoutNews with answers := [] } := by
  have same : server.workspaces.map Workspace.unmarked = server.workspaces := by
    apply Array.ext_getElem?
    intro id
    rw [Array.getElem?_map]
    cases found : server.workspaces[id]? with
    | none => rfl
    | some workspace =>
        have idle := rests.running id
        simp only [Roster.activity, roster, Array.getElem?_map, found] at idle
        have idle : workspace.running = false := idle
        rcases workspace with ⟨_, _, _, _, _, _, running, _, _⟩
        cases idle
        rfl
  rw [unmarked, withoutNews, same]

/-- Steps that stop make no difference to what they are to stop. If a step is taken with other steps
in its waits, and once more with all those that stop left out, it ends in the same way: with the
same variables in every workspace, the same texts written and the same events sent, but for the news
of what was stopped. -/
theorem stop_changes_nothing {draws : List Nat} {server : Server}
    (reachable : Reachable draws server) (client : Text) {step : Step}
    (different : step ≠ .stopExecution) (answers : List Answer) :
    (server.perform client step (unstopped answers)).1 =
        (server.perform client step answers).1 ∧
      (server.perform client step (unstopped answers)).2.withoutNews =
        { (server.perform client step answers).2.withoutNews with
          answers := unstopped (server.perform client step answers).2.answers } := by
  have begun : Shadow (server.during answers) (server.during (unstopped answers)) := ⟨rfl, rfl⟩
  have result : Shadowed (server.perform client step answers)
      (server.perform client step (unstopped answers)) :=
    shadowed_within client (answers.length + 1) ((unstopped answers).length + 1) different begun
      (Nat.lt_succ_self _) (Nat.lt_succ_self _)
  refine ⟨result.ending, ?_⟩
  have same := result.server.unmarked
  rw [unmarked_of_rests (reachable.perform client step answers).rests,
    unmarked_of_rests (reachable.perform client step (unstopped answers)).rests] at same
  have answered := congrArg (fun image : Server => { image with
    answers := unstopped (server.perform client step answers).2.answers }) same
  simp only at answered
  rw [← answered, ← result.server.answers]
  rfl

def greeting : Text := "LISTEN STR x \"name\"\nSAY \"hi\"".toList

theorem stop_changes_nothing_greeting :
    let stopped := (connected.perform "a".toList (.executeCode greeting)
      [.step .stopExecution, .text "bob".toList]).2
    let plain := (connected.perform "a".toList (.executeCode greeting) [.text "bob".toList]).2
    plain.withoutNews = { stopped.withoutNews with answers := [] } ∧
      stopped.events.map Sent.event = [.executionStarted, .inputRequest "name".toList,
        .executionStopped, .inputProvided "bob".toList, .output .echo "bob\n".toList,
        .output .output "hi".toList, .executionFinished] := by
  intro stopped plain
  have reachable : Reachable [] connected := (@Reachable.start []).perform "a".toList .connect []
  have executes : Step.executeCode greeting ≠ .stopExecution := nofun
  have same := (stop_changes_nothing reachable "a".toList executes
    [.step .stopExecution, .text "bob".toList]).2
  have used : (connected.perform "a".toList (.executeCode greeting)
      [.step .stopExecution, .text "bob".toList]).2.answers = [] := by decide +kernel
  have fewer : unstopped [.step .stopExecution, .text "bob".toList] = [.text "bob".toList] := by
    decide +kernel
  rw [fewer, used] at same
  exact ⟨same, by decide +kernel⟩

end Server

end Linewise.Session
