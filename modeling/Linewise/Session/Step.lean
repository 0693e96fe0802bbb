import Linewise.Program
import Linewise.Session.Server

/-!
The steps that clients take. A program that waits for input lets further steps of its client be
taken, which see and change the workspace in which it waits.
-/

namespace Linewise.Session

/-- How a step ended: with the end of the server, or not. -/
inductive StepEnd
  | done
  | exited (code : Nat)
deriving DecidableEq, Repr

namespace Server

/-! ## Waiting for input

A text is entered in the workspace of the client's session, and only while that workspace waits. -/

def takeEntered? (server : Server) (id : WorkspaceId) : Option (Text × Server) := do
  let workspace ← server.workspace? id
  match workspace.entered with
  | [] => none
  | text :: rest => return (text, server.modifyWorkspace id ({ · with entered := rest }))

def provideInput (server : Server) (client text : Text) : Server :=
  match server.activeSession? client with
  | none => server.reply (.refused "Invalid session".toList)
  | some (session, id) =>
      if (server.workspace? id).any (·.waiting) then
        let server := server.modifyWorkspace id fun workspace =>
          { workspace with entered := workspace.entered ++ [text] }
        (server.reply (.inputProvided text)).send (.output .echo (text ++ ['\n'])) (some session)
      else server.reply (.refused "Not waiting for input".toList)

/-- Wait until a text is entered in a workspace, letting the next answers happen one after another,
`turns` of them at most. When none is left, the empty text counts as entered. -/
def await (nested : Step → Server → StepEnd × Server) (client : Text) (id : WorkspaceId) :
    Nat → Server → Reply × Server
  | 0, server =>
      match server.takeEntered? id with
      | some (text, server) => (.entered text, server)
      | none => (.entered [], server)
  | turns + 1, server =>
      match server.takeEntered? id with
      | some (text, server) => (.entered text, server)
      | none =>
          match server.answers with
          | [] => (.entered [], server)
          | .text text :: rest =>
              await nested client id turns
                ({ server with answers := rest }.provideInput client text)
          | .step step :: rest =>
              match nested step { server with answers := rest } with
              | (.done, server) => await nested client id turns server
              | (.exited code, server) => (.exit code, server)

def getInput (nested : Step → Server → StepEnd × Server) (client : Text)
    (id : WorkspaceId) (prompt : Text) (server : Server) : Reply × Server :=
  let server := (server.flushOutput id).announce id (.inputRequest prompt)
  let server := server.modifyWorkspace id ({ · with waiting := true })
  let (reply, server) := await nested client id (server.answers.length + 1) server
  (reply, server.modifyWorkspace id ({ · with waiting := false }))

/-! ## Running in a workspace

While something runs in a workspace, the streams are those of the workspace. A program starts on an
empty machine, a line on the one that lies there. -/

/-- What a run in a workspace talks to. While it waits, its machine lies in the workspace; `store`
and `load` say as which part of what lies there. -/
def host (nested : Step → Server → StepEnd × Server) (client : Text) (id : WorkspaceId)
    (store : Machine → Machine → Machine) (load : Machine → Machine) : Host Server where
  write text server := server.writeTo server.streams.output text
  complain text server := server.writeTo server.streams.errors text
  ask prompt machine server :=
    match server.streams.input with
    | .server => (.refused .endOfInput, machine, server.writeTo server.streams.output prompt)
    | .workspace reader =>
        let server := server.modifyWorkspace id fun workspace =>
          { workspace with machine := store workspace.machine machine }
        let (reply, server) := getInput nested client reader prompt server
        let machine := ((server.workspace? id).map fun workspace => load workspace.machine).getD
          machine
        (reply, machine, server)
  draw := Server.draw

section Evaluated

variable [Evaluator]

def executeCode (nested : Step → Server → StepEnd × Server) (client : Text)
    (id : WorkspaceId) (code : Text) (server : Server) : Server :=
  let server := server.modifyWorkspace id ({ · with running := true })
  let server := (server.redirect id).announce id .executionStarted
  let runHost := host nested client id (fun _ machine => machine) (fun machine => machine)
  let (ending, machine, server) := Program.run runHost code .empty server
  let server := server.modifyWorkspace id ({ · with machine := machine })
  let server :=
    match ending with
    | .returned => (server.flushOutput id).flushErrors id
    | _ => server
  let server := server.modifyWorkspace id ({ · with running := false })
  (server.restore id).announce id .executionFinished

/-- Execute a line in a workspace, with the variables of its outermost frame. -/
def executeLine (nested : Step → Server → StepEnd × Server) (client : Text)
    (id : WorkspaceId) (line : Text) (server : Server) : Server :=
  if line.isEmpty || Text.startsWith line ['#'] then server
  else
    let server := server.redirect id
    let lineHost := host nested client id Machine.withOutermost Machine.outermost
    let machine := ((server.workspace? id).map (·.machine.outermost)).getD .empty
    let (outcome, machine, server) := Line.execute lineHost line machine server
    let server := server.modifyWorkspace id fun workspace =>
      { workspace with machine := workspace.machine.withOutermost machine }
    let server :=
      match outcome with
      | .done =>
          ((server.flushOutput id).flushErrors id).announce id (.lineExecuted line none)
      | .failed error =>
          (server.announce id (.lineExecuted line (some error.message))).announce id
            (.output .failure ("Error: ".toList ++ error.message ++ ['\n']))
      | .exited _ => server
    server.restore id

end Evaluated

/-! ## Steps

What a client asks of its workspace is refused, or nothing happens, while its session is not active.
Anyone may connect, disconnect or clean up. -/

def sessionName (number : Nat) : Text := "sid-".toList ++ Text.ofNat number

def connect (server : Server) (client : Text) : Server :=
  let number := server.sessions + 1
  let session := sessionName number
  let server := { server with
    sessions := number
    clients := server.clients.insert client session }
  let (id, server) := server.renewWorkspace session
  let server := { server with registered := server.registered.insert session id }
  (server.reply (.connected session)).print ("Client connected: ".toList ++ session)

def stopSession (server : Server) (session : Text) : Server :=
  match server.active.find? session with
  | some id => server.modifyWorkspace id ({ · with running := false })
  | none => server

def disconnect (server : Server) (client : Text) : Server :=
  match server.clients.find? client with
  | none => server
  | some session =>
      let server := server.stopSession session
      let server := { server with
        active := server.active.erase session
        registered := server.registered.erase session
        threads := server.threads.filter (· ≠ session) }
      server.print ("Client disconnected: ".toList ++ session)

def cleanup (server : Server) : Server :=
  let server := server.active.pairs.foldl
    (fun server pair => server.modifyWorkspace pair.2 ({ · with running := false })) server
  { server with active := .empty, registered := .empty, threads := [] }

def control (server : Server) (client : Text) (change : Workspace → Workspace)
    (event : Event) : Server :=
  match server.activeSession? client with
  | none => server
  | some (_, id) => (server.modifyWorkspace id change).reply event

def openWorkspace (server : Server) (session : Text) (id : WorkspaceId) : WorkspaceId × Server :=
  let server := server.modifyWorkspace id ({ · with running := false })
  let (id, server) := server.renewWorkspace session
  let threads := if server.threads.contains session then server.threads
    else session :: server.threads
  (id, { server with threads })

section Evaluated

variable [Evaluator]

def startCode (nested : Step → Server → StepEnd × Server) (server : Server)
    (client code : Text) : Server :=
  match server.activeSession? client with
  | none => server.reply (.refused "Invalid session".toList)
  | some (session, id) =>
      let code := Text.strip code
      if code.isEmpty then server.reply (.refused "No code provided".toList)
      else
        let (id, server) := server.openWorkspace session id
        executeCode nested client id code server

def startLine (nested : Step → Server → StepEnd × Server) (server : Server)
    (client line : Text) : Server :=
  match server.activeSession? client with
  | none => server.reply (.refused "Invalid session".toList)
  | some (_, id) => executeLine nested client id (Text.strip line) server

end Evaluated

def reset (server : Server) (client : Text) : Server :=
  match server.activeSession? client with
  | none => server
  | some (session, id) =>
      let server := server.modifyWorkspace id ({ · with running := false })
      (server.renewWorkspace session).2.reply .interpreterReset

def onWorkspace (server : Server) (client : Text)
    (action : Server → WorkspaceId → Server) : Server :=
  match server.activeSession? client with
  | none => server
  | some (_, id) => action server id

section Evaluated

variable [Evaluator]

/-- Take a step of a client, with a way to take the steps within its waits. -/
def stepWithin (nested : Step → Server → StepEnd × Server) (client : Text) (step : Step)
    (server : Server) : StepEnd × Server :=
  match step with
  | .connect => (.done, connect server client)
  | .disconnect => (.done, disconnect server client)
  | .executeCode code => (.done, startCode nested server client code)
  | .executeLine line => (.done, startLine nested server client line)
  | .provideInput text => (.done, provideInput server client text)
  | .stopExecution =>
      (.done, control server client ({ · with running := false }) .executionStopped)
  | .pauseExecution =>
      (.done, control server client ({ · with paused := true }) .executionPaused)
  | .resumeExecution =>
      (.done, control server client ({ · with paused := false }) .executionResumed)
  | .resetInterpreter => (.done, reset server client)
  | .write text toErrors =>
      (.done, onWorkspace server client fun server id =>
        if toErrors then server.writeErrors id text else server.writeOutput id text)
  | .flush => (.done, onWorkspace server client flushOutput)
  | .flushLine => (.done, onWorkspace server client flushOutput)
  | .cleanup => (.done, cleanup server)
  | .signal => (.exited 0, cleanup (server.print "\nShutting down...".toList))

def takeStep : Nat → Text → Step → Server → StepEnd × Server
  | 0, client => stepWithin (fun _ server => (.done, server)) client
  | depth + 1, client => stepWithin (takeStep depth client) client

/-- Take a step during which these answers happen. Each step within a wait is one of the answers,
so that their number bounds its depth. -/
def perform (server : Server) (client : Text) (step : Step) (answers : List Answer) :
    StepEnd × Server :=
  takeStep answers.length client step
    { server with printed := [], sent := [], answers := answers }

end Evaluated

def console (server : Server) : Text := server.printed.reverse.flatten

def events (server : Server) : List Sent := server.sent.reverse

end Server

end Linewise.Session
