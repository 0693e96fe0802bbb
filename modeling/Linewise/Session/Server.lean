import Linewise.Host
import Linewise.Session.Capture
import Linewise.Session.Event

/-!
The state of the server: its clients and their sessions, the workspace in which each session's
programs run, and the streams that running programs write to and read from.
-/

namespace Linewise.Session

/-- Workspaces are numbered in the order in which they are made. -/
abbrev WorkspaceId := Nat

/-- Where text that is written goes. -/
inductive Sink
  | server
  | output (workspace : WorkspaceId)
  | errors (workspace : WorkspaceId)
deriving DecidableEq, Repr

/-- Where text that is read comes from. -/
inductive Source
  | server
  | workspace (workspace : WorkspaceId)
deriving DecidableEq, Repr

/-- The captures of a workspace. -/
inductive Port
  | output
  | errors
deriving DecidableEq, Repr

def Port.channel : Port → Channel
  | output => .output
  | errors => .errors

structure Streams where
  output : Sink
  errors : Sink
  input : Source
deriving DecidableEq, Repr

def Streams.server : Streams := ⟨.server, .server, .server⟩

def Streams.ofWorkspace (workspace : WorkspaceId) : Streams :=
  ⟨.output workspace, .errors workspace, .workspace workspace⟩

/-- An interpreter with captured streams. -/
structure Workspace where
  session : Text
  machine : Machine
  output : Capture
  errors : Capture
  /-- Texts that were entered and not read yet. -/
  entered : List Text
  waiting : Bool
  running : Bool
  paused : Bool
  /-- The streams to be put back when what runs here is over. -/
  saved : Streams

namespace Workspace

def new (session : Text) : Workspace :=
  ⟨session, .empty, .empty, .empty, [], false, false, false, .server⟩

def capture (workspace : Workspace) : Port → Capture
  | .output => workspace.output
  | .errors => workspace.errors

def replace (workspace : Workspace) (port : Port) (capture : Capture) : Workspace :=
  match port with
  | .output => { workspace with output := capture }
  | .errors => { workspace with errors := capture }

end Workspace

/-- What a client does. -/
inductive Step
  | connect
  | disconnect
  | executeCode (code : Text)
  | executeLine (line : Text)
  | provideInput (text : Text)
  | stopExecution
  | pauseExecution
  | resumeExecution
  | resetInterpreter
  /-- Write to the captured output, or to the captured errors. -/
  | write (text : Text) (toErrors : Bool)
  | flush
  | flushLine
  | cleanup
  | signal
deriving DecidableEq, Repr

/-- What happens while a program waits for input: a text is entered, or another step is taken. -/
inductive Answer
  | text (text : Text)
  | step (step : Step)
deriving DecidableEq, Repr

structure Server where
  workspaces : Array Workspace
  /-- The workspace of each session. -/
  active : Table Text WorkspaceId
  /-- The workspace with which each session began. -/
  registered : Table Text WorkspaceId
  /-- The sessions that have run a program. -/
  threads : List Text
  /-- The last session of each client. -/
  clients : Table Text Text
  /-- How many sessions there have been. -/
  sessions : Nat
  streams : Streams
  /-- What the server printed for itself, the last text first. -/
  printed : List Text
  /-- What was sent, the last event first. -/
  sent : List Sent
  draws : List Nat
  /-- What will happen during waits. -/
  answers : List Answer

namespace Server

def start (draws : List Nat) : Server :=
  ⟨#[], .empty, .empty, [], .empty, 0, .server, [], [], draws, []⟩

/-! ## Workspaces

A session that gets a new workspace leaves the old one where it is. -/

def modifyWorkspace (server : Server) (id : WorkspaceId) (change : Workspace → Workspace) :
    Server :=
  { server with workspaces := server.workspaces.modify id change }

def workspace? (server : Server) (id : WorkspaceId) : Option Workspace := server.workspaces[id]?

def renewWorkspace (server : Server) (session : Text) : WorkspaceId × Server :=
  let id := server.workspaces.size
  (id, { server with
    workspaces := server.workspaces.push (.new session)
    active := server.active.insert session id })

def activeSession? (server : Server) (client : Text) : Option (Text × WorkspaceId) := do
  let session ← server.clients.find? client
  let id ← server.active.find? session
  return (session, id)

/-! ## Events

An event goes to the caller, or to the room of the session that a workspace was made for. -/

def send (server : Server) (event : Event) (room : Option Text) : Server :=
  { server with sent := ⟨event, room⟩ :: server.sent }

def reply (server : Server) (event : Event) : Server := server.send event none

def announce (server : Server) (id : WorkspaceId) (event : Event) : Server :=
  match server.workspace? id with
  | some workspace => server.send event (some workspace.session)
  | none => server

def announceLines (server : Server) (id : WorkspaceId) (channel : Channel)
    (lines : List Text) : Server :=
  lines.foldl (fun server line => server.announce id (.output channel line)) server

/-! ## Streams

Text that is written goes to the server's own output, or into a capture. The streams that were in
use before a run are saved in the workspace and put back from there. -/

/-- Let a capture of a workspace act, and announce the lines that it hands on. -/
def pass (server : Server) (id : WorkspaceId) (port : Port)
    (act : Capture → List Text × Capture) : Server :=
  match server.workspace? id with
  | none => server
  | some workspace =>
      let (lines, capture) := act (workspace.capture port)
      (server.announceLines id port.channel lines).modifyWorkspace id (·.replace port capture)

def writeOutput (server : Server) (id : WorkspaceId) (text : Text) : Server :=
  server.pass id .output (·.write text)

def writeErrors (server : Server) (id : WorkspaceId) (text : Text) : Server :=
  server.pass id .errors (·.write text)

def flushOutput (server : Server) (id : WorkspaceId) : Server :=
  server.pass id .output Capture.flush

def flushErrors (server : Server) (id : WorkspaceId) : Server :=
  server.pass id .errors Capture.flush

def writeTo (server : Server) (sink : Sink) (text : Text) : Server :=
  match sink with
  | .server => { server with printed := text :: server.printed }
  | .output id => server.writeOutput id text
  | .errors id => server.writeErrors id text

/-- Print a line for the server itself, on whatever its output is at the moment. -/
def print (server : Server) (text : Text) : Server :=
  let server := server.writeTo server.streams.output text
  server.writeTo server.streams.output ['\n']

def redirect (server : Server) (id : WorkspaceId) : Server :=
  let server := server.modifyWorkspace id ({ · with saved := server.streams })
  { server with streams := .ofWorkspace id }

def restore (server : Server) (id : WorkspaceId) : Server :=
  match server.workspace? id with
  | some workspace => { server with streams := workspace.saved }
  | none => server

def draw (server : Server) : Nat × Server :=
  match server.draws with
  | [] => (0, server)
  | number :: rest => (number, { server with draws := rest })

end Server

end Linewise.Session
