import Linewise.Proofs.Failure
import Linewise.Proofs.Pending

/-!
A program on the console and in a session. A transcript is kept beside a run on the console, which
tells prompts from what the program writes. As long as there is an answer for every question, the
program takes the same course in a session that is given the same answers, and what comes out there
is what was written on the console, prompts and line ends apart.
-/

namespace Linewise

/-! ## Transcripts -/

/-- What appears on the console: what a program writes, and its prompts. -/
inductive Piece
  | text (text : Text)
  | prompt (text : Text)
deriving DecidableEq, Repr

namespace Piece

def shown : Piece → Text
  | text shown | prompt shown => shown

def said : Piece → Text
  | text said => said
  | prompt _ => []

def isPrompt : Piece → Bool
  | text _ => false
  | prompt _ => true

end Piece

/-- A console, and what has appeared on it, the last piece first. -/
structure Transcript where
  console : Console
  pieces : List Piece

namespace Transcript

def start (input : Text) (draws : List Nat) : Transcript := ⟨.start input draws, []⟩

def said (transcript : Transcript) : Text := (transcript.pieces.map Piece.said).reverse.flatten

def questions (transcript : Transcript) : Nat := transcript.pieces.countP Piece.isPrompt

def host : Host Transcript where
  write text transcript :=
    ⟨Console.host.write text transcript.console, .text text :: transcript.pieces⟩
  complain text transcript :=
    { transcript with console := Console.host.complain text transcript.console }
  ask prompt machine transcript :=
    let (reply, machine, console) := Console.host.ask prompt machine transcript.console
    (reply, machine, ⟨console, .prompt prompt :: transcript.pieces⟩)
  draw transcript :=
    let (number, console) := Console.host.draw transcript.console
    (number, { transcript with console })

theorem host_simulates :
    host.Simulates Console.host (fun _ => False) fun transcript console =>
      console = transcript.console where
  spoiled := host.keeps_false
  write text := by
    rintro transcript _ rfl
    rfl
  complain text := by
    rintro transcript _ rfl
    rfl
  ask prompt machine := by
    rintro transcript _ rfl
    exact .inr ⟨rfl, rfl, rfl⟩
  draw := by
    rintro transcript _ rfl
    exact ⟨rfl, rfl⟩

theorem run_eq (source : Text) (machine : Machine) (transcript : Transcript) :
    Program.run Console.host source machine transcript.console =
      ((Program.run host source machine transcript).1,
        (Program.run host source machine transcript).2.1,
        (Program.run host source machine transcript).2.2.console) :=
  ((Program.run_simulated host_simulates source machine rfl).resolve_left not_false).eq

theorem written_readLine (console : Console) : console.readLine.2.written = console.written := by
  unfold Console.readLine
  split <;> rfl

theorem host_keeps_pieces : host.Keeps fun transcript =>
    transcript.console.written = transcript.pieces.map Piece.shown where
  write same := congrArg (_ :: ·) same
  complain same := same
  ask prompt _ _ same := (written_readLine _).trans (congrArg (prompt :: ·) same)
  draw same := (Console.written_draw _).trans same

theorem host_keeps_questions (bound : Nat) :
    host.Keeps fun transcript => bound < transcript.questions where
  write more := by
    simpa [questions, host, Piece.isPrompt] using more
  complain more := more
  ask prompt machine _ more := by
    simp only [questions, host, List.countP_cons]
    exact Nat.lt_of_lt_of_le more (Nat.le_add_right _ _)
  draw more := more

end Transcript

/-! ## Typed texts -/

def typed (texts : List Text) : Text := texts.flatMap (· ++ ['\n'])

theorem typed_cons (text : Text) (rest : List Text) :
    typed (text :: rest) = text ++ '\n' :: typed rest := by
  rw [typed, List.flatMap_cons, List.append_assoc, List.singleton_append]
  rfl

theorem Console.readLine_typed {console : Console} {text : Text} {rest : List Text}
    (input : console.input = typed (text :: rest)) (unbroken : '\n' ∉ text) :
    console.readLine = (.entered text, { console with input := typed rest }) := by
  have inside : ∀ char ∈ text, (char != '\n') = true := by
    intro char member
    exact bne_iff_ne.mpr fun same => unbroken (same ▸ member)
  rw [typed_cons] at input
  unfold readLine
  split
  · next empty =>
      rw [input] at empty
      exact absurd empty (by simp)
  · rw [input, Text.before, List.takeWhile_append_of_pos inside,
      List.dropWhile_append_of_pos inside]
    simp

namespace Session.Server

/-! ## Shapes of states -/

theorem announce_shape (server : Server) (id : WorkspaceId) (event : Event) :
    ∃ sent, server.announce id event = { server with sent := sent } := by
  unfold announce
  split
  · exact ⟨_, rfl⟩
  · exact ⟨server.sent, rfl⟩

theorem restore_shape (server : Server) (id : WorkspaceId) :
    ∃ streams, server.restore id = { server with streams := streams } := by
  unfold restore
  split
  · exact ⟨_, rfl⟩
  · exact ⟨server.streams, rfl⟩

theorem announceLines_shape (server : Server) (id : WorkspaceId) (channel : Channel)
    (lines : List Text) :
    ∃ sent, server.announceLines id channel lines = { server with sent := sent } := by
  unfold announceLines
  induction lines generalizing server with
  | nil => exact ⟨server.sent, rfl⟩
  | cons line rest induction =>
      rcases announce_shape server id (.output channel line) with ⟨first, announced⟩
      rcases induction (server.announce id (.output channel line)) with ⟨sent, shape⟩
      refine ⟨sent, shape.trans ?_⟩
      rw [announced]

theorem pass_shape {server : Server} {id : WorkspaceId} {workspace : Workspace}
    (found : server.workspace? id = some workspace) (port : Port)
    (act : Capture → List Text × Capture) :
    ∃ sent, server.pass id port act = { server with sent := sent }.modifyWorkspace id
      (·.replace port (act (workspace.capture port)).2) := by
  rcases announceLines_shape server id port.channel (act (workspace.capture port)).1 with
    ⟨sent, shape⟩
  refine ⟨sent, ?_⟩
  rw [pass, found]
  simp only
  rw [shape]

/-! ## A session with texts to come

All the answers are texts, so that no step is taken within a wait. -/

/-- What runs in the session's workspace uses its streams, and these texts are still to be entered.
The machine lies in the workspace. -/
structure Attends (client session : Text) (id : WorkspaceId) (machine : Machine)
    (texts : List Text) (draws : List Nat) (server : Server) : Prop where
  streams : server.streams = .ofWorkspace id
  current : server.activeSession? client = some (session, id)
  idle : ∃ workspace, server.workspace? id = some workspace ∧ workspace.session = session ∧
    workspace.entered = [] ∧ workspace.machine = machine
  answers : server.answers = texts.map .text
  draws : server.draws = draws

namespace Attends

variable {client session : Text} {id : WorkspaceId} {machine : Machine} {texts : List Text}
  {draws : List Nat} {server : Server}
  (attends : Attends client session id machine texts draws server)

include attends

theorem announce (event : Event) :
    Attends client session id machine texts draws (server.announce id event) := by
  rcases announce_shape server id event with ⟨sent, shape⟩
  rw [shape]
  exact { attends with }

theorem modifyWorkspace (change : Workspace → Workspace) {next : Machine}
    (keeps : ∀ workspace, (change workspace).session = workspace.session ∧
      (change workspace).entered = workspace.entered)
    (moves : ∀ workspace, workspace.machine = machine → (change workspace).machine = next) :
    Attends client session id next texts draws (server.modifyWorkspace id change) where
  streams := attends.streams
  current := attends.current
  idle := by
    rcases attends.idle with ⟨workspace, found, owner, empty, kept⟩
    refine ⟨change workspace, ?_, (keeps workspace).1.trans owner,
      (keeps workspace).2.trans empty, moves workspace kept⟩
    rw [workspace?_modifyWorkspace, if_pos rfl, found]
    rfl
  answers := attends.answers
  draws := attends.draws

theorem pass (port : Port) (act : Capture → List Text × Capture) :
    Attends client session id machine texts draws (server.pass id port act) := by
  rcases attends.idle with ⟨workspace, found, _⟩
  rcases pass_shape found port act with ⟨sent, shape⟩
  rw [shape]
  have told : Attends client session id machine texts draws { server with sent := sent } :=
    { attends with }
  apply told.modifyWorkspace
  · intro other
    cases port <;> exact ⟨rfl, rfl⟩
  · intro other kept
    cases port <;> exact kept

end Attends

theorem provideInput_of_waiting {server : Server} {client session : Text} {id : WorkspaceId}
    (current : server.activeSession? client = some (session, id))
    (waiting : (server.workspace? id).any (·.waiting) = true) (text : Text) :
    server.provideInput client text =
      ((server.modifyWorkspace id fun workspace =>
        { workspace with entered := workspace.entered ++ [text] }).reply
          (.inputProvided text)).send (.output .echo (text ++ ['\n'])) (some session) := by
  rw [provideInput, current]
  simp only [waiting, if_true]

theorem takeEntered?_of_cons {server : Server} {id : WorkspaceId} {workspace : Workspace}
    {text : Text} {rest : List Text} (found : server.workspace? id = some workspace)
    (entered : workspace.entered = text :: rest) :
    server.takeEntered? id =
      some (text, server.modifyWorkspace id ({ · with entered := rest })) := by
  simp [takeEntered?, found, entered]

section Asking

variable {client session text : Text} {id : WorkspaceId} {machine : Machine} {rest : List Text}
  {draws : List Nat} {server : Server}
  (attends : Attends client session id machine (text :: rest) draws server)

include attends

theorem Attends.await (waiting : (server.workspace? id).any (·.waiting) = true)
    (nested : Step → Server → StepEnd × Server) (turns : Nat) :
    (await nested client id (turns + 2) server).1 = .entered text ∧
      Attends client session id machine rest draws
        (await nested client id (turns + 2) server).2 := by
  rcases attends.idle with ⟨workspace, found, owner, empty, kept⟩
  have none : server.takeEntered? id = none := by
    simp [takeEntered?, found, empty]
  have used : ({ server with answers := rest.map .text } : Server).activeSession? client =
    some (session, id) := attends.current
  rw [Server.await, none, attends.answers]
  simp only [List.map_cons]
  rw [provideInput_of_waiting used waiting]
  generalize told : (((({ server with answers := rest.map .text } : Server).modifyWorkspace id
    fun workspace => { workspace with entered := workspace.entered ++ [text] }).reply
      (.inputProvided text)).send (.output .echo (text ++ ['\n'])) (some session)) = entered
  have present : entered.workspace? id = some { workspace with entered := [text] } := by
    rw [← told]
    refine (workspace?_modifyWorkspace _ id id _).trans ?_
    rw [if_pos rfl]
    have same : ({ server with answers := rest.map .text } : Server).workspace? id =
      some workspace := found
    rw [same, Option.map_some, empty]
    rfl
  rw [Server.await, takeEntered?_of_cons present rfl]
  refine ⟨rfl, ?_, ?_, ⟨{ workspace with entered := [] }, ?_, owner, rfl, kept⟩, ?_, ?_⟩
  · rw [← told]
    exact attends.streams
  · rw [← told]
    exact attends.current
  · rw [workspace?_modifyWorkspace, if_pos rfl, present]
    rfl
  · rw [← told]
    rfl
  · rw [← told]
    exact attends.draws

theorem Attends.getInput (nested : Step → Server → StepEnd × Server) (prompt : Text) :
    (getInput nested client id prompt server).1 = .entered text ∧
      Attends client session id machine rest draws
        (getInput nested client id prompt server).2 := by
  have asked := (attends.pass .output Capture.flush).announce (.inputRequest prompt)
  have ready := asked.modifyWorkspace ({ · with waiting := true }) (fun _ => ⟨rfl, rfl⟩)
    fun _ kept => kept
  have waiting : ((((server.pass id .output Capture.flush).announce id
      (.inputRequest prompt)).modifyWorkspace id ({ · with waiting := true })).workspace? id).any
        (·.waiting) = true := by
    rcases asked.idle with ⟨workspace, found, _⟩
    rw [workspace?_modifyWorkspace, if_pos rfl, found]
    rfl
  have answered := ready.await waiting nested rest.length
  have length : ((((server.pass id .output Capture.flush).announce id
      (.inputRequest prompt)).modifyWorkspace id
        ({ · with waiting := true })).answers.length + 1) = rest.length + 2 := by
    rw [ready.answers, List.length_map, List.length_cons]
  rw [Server.getInput, flushOutput_eq_pass]
  simp only [length]
  exact ⟨answered.1, answered.2.modifyWorkspace _ (fun _ => ⟨rfl, rfl⟩) fun _ kept => kept⟩

end Asking

/-! ## The two runs

What was written to the console, apart from the prompts, has been sent to the session or is
pending. -/

end Session.Server

def Transcript.texts (transcript : Transcript) : Session.Port → Text
  | .output => transcript.said
  | .errors => transcript.console.errors

theorem Transcript.texts_write (transcript : Transcript) (text : Text) :
    (host.write text transcript).texts = Function.update transcript.texts .output
      (transcript.texts .output ++ text) := by
  funext port
  cases port with
  | output => simp [texts, said, host, Piece.said]
  | errors => rfl

theorem Transcript.texts_complain (transcript : Transcript) (text : Text) :
    (host.complain text transcript).texts = Function.update transcript.texts .errors
      (transcript.texts .errors ++ text) := by
  funext port
  cases port with
  | output => rfl
  | errors => simp [texts, host, Console.host, Console.errors]

namespace Session.Server

/-- The session is as far as the console: the same texts are still to be entered, as many as there
were but for those that were asked for, and what was written has come out or is pending. -/
structure Mirrors (client session : Text) (id : WorkspaceId) (total : Nat)
    (transcript : Transcript) (server : Server) : Prop where
  attends : ∃ machine texts,
    Attends client session id machine texts transcript.console.draws server ∧
      transcript.console.input = typed texts ∧ (∀ text ∈ texts, '\n' ∉ text) ∧
      texts.length + transcript.questions = total
  conveys : server.Conveys id transcript.texts

section Mirrors

variable {client session : Text} {id : WorkspaceId} {total : Nat} {transcript : Transcript}
  {server : Server} (mirrors : Mirrors client session id total transcript server)

include mirrors

theorem Mirrors.streams : server.streams = .ofWorkspace id := by
  rcases mirrors.attends with ⟨machine, texts, attends, _⟩
  exact attends.streams

theorem Mirrors.write (text : Text) :
    Mirrors client session id total (Transcript.host.write text transcript)
      (server.writeTo server.streams.output text) := by
  have own : server.streams.output = Port.output.sink id := congrArg Streams.output mirrors.streams
  rcases mirrors.attends with ⟨machine, texts, attends, input, single, left⟩
  have written := mirrors.conveys.write .output text
  rw [← Transcript.texts_write] at written
  rw [own, writeTo_sink] at *
  refine ⟨⟨machine, texts, attends.pass .output _, input, single, ?_⟩, written⟩
  simpa [Transcript.questions, Transcript.host, Piece.isPrompt] using left

theorem Mirrors.complain (text : Text) :
    Mirrors client session id total (Transcript.host.complain text transcript)
      (server.writeTo server.streams.errors text) := by
  have own : server.streams.errors = Port.errors.sink id := congrArg Streams.errors mirrors.streams
  rcases mirrors.attends with ⟨machine, texts, attends, input, single, left⟩
  have written := mirrors.conveys.write .errors text
  rw [← Transcript.texts_complain] at written
  rw [own, writeTo_sink] at *
  exact ⟨⟨machine, texts, attends.pass .errors _, input, single, left⟩, written⟩

theorem Mirrors.draw : server.draw.1 = (Transcript.host.draw transcript).1 ∧
    Mirrors client session id total (Transcript.host.draw transcript).2 server.draw.2 := by
  rcases mirrors with ⟨⟨machine, texts, attends, input, single, left⟩, conveys⟩
  have same := attends.draws
  cases draws : transcript.console.draws with
  | nil =>
      rw [draws] at same
      simp only [Server.draw, Transcript.host, Console.host, Console.draw, same, draws]
      exact ⟨trivial, ⟨machine, texts, attends, input, single, left⟩, conveys⟩
  | cons number rest =>
      rw [draws] at same
      simp only [Server.draw, Transcript.host, Console.host, Console.draw, same, draws]
      exact ⟨trivial, ⟨machine, texts, { attends with draws := rfl }, input, single, left⟩, conveys⟩

/-- The console answers a question as the session does, unless there is no answer left. -/
theorem Mirrors.ask (nested : Step → Server → StepEnd × Server) (prompt : Text)
    (machine : Machine) :
    let asked := Transcript.host.ask prompt machine transcript
    let image := (host nested client id (fun _ machine => machine) fun machine => machine).ask
      prompt machine server
    total < asked.2.2.questions ∨ image.1 = asked.1 ∧ image.2.1 = asked.2.1 ∧
      Mirrors client session id total asked.2.2 image.2.2 := by
  intro asked image
  rcases mirrors.attends with ⟨before, texts, attends, input, single, left⟩
  have questions : asked.2.2.questions = transcript.questions + 1 :=
    List.countP_cons_of_pos rfl
  cases texts with
  | nil =>
      left
      rw [List.length_nil] at left
      omega
  | cons text rest =>
      right
      rw [List.forall_mem_cons] at single
      have reading : (transcript.console.write prompt).readLine = (.entered text,
          { transcript.console.write prompt with input := typed rest }) :=
        Console.readLine_typed input single.1
      have shape : asked = (.entered text, machine,
          ⟨{ transcript.console.write prompt with input := typed rest },
            .prompt prompt :: transcript.pieces⟩) := by
        simp only [asked, Transcript.host, Console.host, reading]
      have stored := attends.modifyWorkspace
        (fun workspace => { workspace with machine := machine })
        (fun _ => ⟨rfl, rfl⟩) fun _ _ => rfl
      have answered := stored.getInput nested prompt
      have texted : ∀ answer ∈ (server.modifyWorkspace id fun workspace =>
          { workspace with machine := machine }).answers, ∃ text, answer = .text text := by
        intro answer member
        rw [stored.answers] at member
        rcases List.mem_map.mp member with ⟨text, _, rfl⟩
        exact ⟨text, rfl⟩
      have silent := (Mute.modifyWorkspace server id
        (fun workspace => { workspace with machine := machine }) fun _ => rfl).toSilent
      have conveyed :=
        (conveys_getInput (mirrors.conveys.silent silent) texted nested client prompt).1
      simp only [image, host, mirrors.streams, Streams.ofWorkspace]
      generalize Server.getInput nested client id prompt _ = result at answered conveyed
      rcases result with ⟨reply, after⟩
      rcases answered with ⟨rfl, answered⟩
      rcases answered.idle with ⟨workspace, found, _, _, kept⟩
      rw [shape, found]
      refine ⟨rfl, kept, ⟨machine, rest, answered, rfl, single.2, ?_⟩, ?_⟩
      · rw [shape] at questions
        rw [questions, ← left, List.length_cons]
        omega
      · have same : (⟨{ transcript.console.write prompt with input := typed rest },
            .prompt prompt :: transcript.pieces⟩ : Transcript).texts = transcript.texts := by
          funext port
          cases port with
          | output => simp [Transcript.texts, Transcript.said, Piece.said]
          | errors => rfl
        rw [same]
        exact conveyed

end Mirrors

/-- A program cannot tell the console from a session that has the same texts to come. -/
theorem host_mirrors (nested : Step → Server → StepEnd × Server) (client session : Text)
    (id : WorkspaceId) (total : Nat) :
    Transcript.host.Simulates
      (host nested client id (fun _ machine => machine) fun machine => machine)
      (fun transcript => total < transcript.questions) (Mirrors client session id total) where
  spoiled := Transcript.host_keeps_questions total
  write text _ _ mirrors := mirrors.write text
  complain text _ _ mirrors := mirrors.complain text
  ask prompt machine _ _ mirrors := mirrors.ask nested prompt machine
  draw mirrors := mirrors.draw

/-! ## Executions -/

def recorded (code : Text) (texts : List Text) (draws : List Nat) :
    Ending × Machine × Transcript :=
  Program.run Transcript.host code .empty (.start (typed texts) draws)

section Executions

variable {server : Server} {client session : Text} {id : WorkspaceId} {texts : List Text}
  (current : server.activeSession? client = some (session, id))
  (found : server.workspace? id = some (.new session)) (unsent : server.sent = [])
  (answers : server.answers = texts.map .text) (single : ∀ text ∈ texts, '\n' ∉ text)

include current found unsent answers single

/-- When a program starts, nothing has come out yet, and all texts are still to be entered. -/
theorem mirrors_started :
    Mirrors client session id texts.length (.start (typed texts) server.draws)
      (server.started id) where
  attends := by
    have redirected : Attends client session id .empty texts server.draws
        ((server.modifyWorkspace id ({ · with running := true })).redirect id) := by
      refine ⟨rfl, current,
        ⟨{ Workspace.new session with running := true, saved := server.streams }, ?_, rfl, rfl,
          rfl⟩, answers, rfl⟩
      refine (workspace?_modifyWorkspace _ id id _).trans ?_
      rw [if_pos rfl, workspace?_modifyWorkspace, if_pos rfl, found]
      rfl
    exact ⟨.empty, texts, redirected.announce .executionStarted, rfl, single, Nat.add_zero _⟩
  conveys := by
    have silent : Silent server (server.started id) :=
      ((Mute.modifyWorkspace server id ({ · with running := true }) fun _ => rfl).toSilent.trans
        (.redirect _ id)).trans (Mute.announce _ id .executionStarted rfl).toSilent
    have conveys : server.Conveys id (Transcript.start (typed texts) server.draws).texts := by
      refine ⟨(Workspace.new session).outlet, by rw [outlet?, found]; rfl, fun port => ?_⟩
      rw [told, events, unsent]
      cases port <;> rfl
    exact conveys.silent silent

theorem executeCode_eq_recorded (nested : Step → Server → StepEnd × Server) (code : Text)
    (enough : (recorded code texts server.draws).2.2.questions ≤ texts.length) :
    let after := executeCode nested client id code server
    after.activeSession? client = some (session, id) ∧
      after.Conveys id (recorded code texts server.draws).2.2.texts ∧
      ∃ workspace, after.workspace? id = some workspace ∧ workspace.session = session ∧
        workspace.machine = (recorded code texts server.draws).2.1 := by
  have mirrored := Program.run_simulated (host_mirrors nested client session id texts.length) code
    .empty (mirrors_started current found unsent answers single)
  have agrees := mirrored.resolve_left (Nat.not_lt.mpr enough)
  rw [executeCode]
  unfold started at agrees
  unfold recorded
  simp only
  generalize Program.run Transcript.host code .empty _ = result at agrees ⊢
  generalize Program.run _ code .empty _ = image at agrees ⊢
  rcases result with ⟨ending, machine, transcript⟩
  rcases image with ⟨imageEnding, imageMachine, closed⟩
  rcases agrees with ⟨sameEnding, sameMachine, mirrors⟩
  simp only at sameEnding sameMachine mirrors ⊢
  subst sameEnding sameMachine
  rcases mirrors.attends with ⟨before, left, attends, _⟩
  have kept := attends.modifyWorkspace ({ · with machine := imageMachine }) (fun _ => ⟨rfl, rfl⟩)
    fun _ _ => rfl
  have conveys := mirrors.conveys.silent
    (Mute.modifyWorkspace closed id ({ · with machine := imageMachine }) fun _ => rfl).toSilent
  have closes {last : Server}
      (attends : Attends client session id imageMachine left transcript.console.draws last)
      (conveys : last.Conveys id transcript.texts) :
      let after := ((last.modifyWorkspace id ({ · with running := false })).restore id).announce id
        .executionFinished
      after.activeSession? client = some (session, id) ∧ after.Conveys id transcript.texts ∧
        ∃ workspace, after.workspace? id = some workspace ∧ workspace.session = session ∧
          workspace.machine = imageMachine := by
    intro after
    have stopped := attends.modifyWorkspace ({ · with running := false }) (fun _ => ⟨rfl, rfl⟩)
      fun _ kept => kept
    have silent : Silent last after :=
      ((Mute.modifyWorkspace last id ({ · with running := false }) fun _ => rfl).toSilent.trans
        (.restore _ id)).trans (Mute.announce _ id .executionFinished rfl).toSilent
    rcases restore_shape (last.modifyWorkspace id ({ · with running := false })) id with
      ⟨streams, restored⟩
    rcases announce_shape ((last.modifyWorkspace id ({ · with running := false })).restore id) id
      .executionFinished with ⟨sent, announced⟩
    rcases stopped.idle with ⟨workspace, present, owner, _, machine⟩
    refine ⟨?_, conveys.silent silent, workspace, ?_, owner, machine⟩
    · simp only [after]
      rw [announced, restored]
      exact stopped.current
    · simp only [after]
      rw [announced, restored]
      exact present
  cases imageEnding with
  | returned =>
      exact closes ((kept.pass .output Capture.flush).pass .errors Capture.flush)
        ((conveys.flush .output).flush .errors)
  | exited code => exact closes kept conveys
  | unfinished => exact closes kept conveys

end Executions

theorem openWorkspace_shape (server : Server) {client session : Text} {id : WorkspaceId}
    (active : server.activeSession? client = some (session, id)) :
    (server.openWorkspace session id).2.activeSession? client =
        some (session, (server.openWorkspace session id).1) ∧
      (server.openWorkspace session id).2.workspace? (server.openWorkspace session id).1 =
        some (.new session) := by
  have own := (activeSession?_eq_some_iff.mp active).1
  constructor
  · simp [activeSession?, openWorkspace, renewWorkspace, modifyWorkspace, own]
  · simp [workspace?, openWorkspace, renewWorkspace]

/-- A program that is run in a session leaves the same machine as on the console, where the same
answers are typed, as long as it asks for no more than there are. Line ends apart, what its session
is told on each stream and what is still pending there is what the program has written on the
console, without the prompts. -/
theorem executeCode_agrees_with_console {server : Server} {client session : Text}
    {id : WorkspaceId} (active : server.activeSession? client = some (session, id)) {code : Text}
    (present : (Text.strip code).isEmpty = false) {answers : List Text}
    (single : ∀ answer ∈ answers, '\n' ∉ answer)
    (enough : (recorded (Text.strip code) answers server.draws).2.2.questions ≤ answers.length) :
    let (ending, machine, transcript) := recorded (Text.strip code) answers server.draws
    let after := (server.perform client (.executeCode code) (answers.map .text)).2
    Program.run Console.host (Text.strip code) .empty (.start (typed answers) server.draws) =
        (ending, machine, transcript.console) ∧
      transcript.console.output = (transcript.pieces.map Piece.shown).reverse.flatten ∧
      ∃ used workspace, after.activeSession? client = some (session, used) ∧
        after.workspace? used = some workspace ∧ workspace.machine = machine ∧
        unbroken (after.told session .output ++ workspace.output.pending) =
          unbroken transcript.said ∧
        unbroken (after.told session .errors ++ workspace.errors.pending) =
          unbroken transcript.console.errors := by
  have plain := Transcript.run_eq (Text.strip code) .empty (.start (typed answers) server.draws)
  have written := Program.world_run Transcript.host_keeps_pieces (Text.strip code) .empty
    (show (Transcript.start (typed answers) server.draws).console.written = _ from rfl)
  have opened := openWorkspace_shape (server.during (answers.map .text)) active
  have left := executeCode_eq_recorded opened.1 opened.2 rfl rfl single
    (within (answers.map Answer.text).length client) (Text.strip code) enough
  have shape : (server.perform client (.executeCode code) (answers.map .text)).2 =
      executeCode (within (answers.map Answer.text).length client) client
        ((server.during (answers.map .text)).openWorkspace session id).1 (Text.strip code)
        ((server.during (answers.map .text)).openWorkspace session id).2 := by
    have known : (server.during (answers.map .text)).activeSession? client = some (session, id) :=
      active
    rw [perform, takeStep_eq]
    simp only [stepWithin]
    rw [← during, startCode, known]
    simp only [present]
    rfl
  rcases left with ⟨current, ⟨outlet, known, conveyed⟩, workspace, found, owner, machine⟩
  rw [outlet?, found, Option.map_some, Option.some.injEq] at known
  subst known
  simp only [Workspace.outlet, owner] at conveyed
  refine ⟨plain, congrArg (fun texts => texts.reverse.flatten) written,
    ((server.during (answers.map .text)).openWorkspace session id).1, workspace, ?_, ?_, machine,
    ?_, ?_⟩
  · rw [shape]
    exact current
  · rw [shape]
    exact found
  · rw [shape]
    exact conveyed .output
  · rw [shape]
    exact conveyed .errors

def interrupted : Text :=
  "LISTEN STR x \"name? \"\nIF true DO\nSAY \"hi\"\nFOO\nENDO".toList

theorem executeCode_agrees_with_console_interrupted :
    connected.activeSession? "a".toList = some ("sid-1".toList, 0) ∧
      (recorded (Text.strip interrupted) ["bob".toList] []).2.2.questions = 1 ∧
      ∃ used workspace,
        let after := (connected.perform "a".toList (.executeCode interrupted)
          [.text "bob".toList]).2
        after.activeSession? "a".toList = some ("sid-1".toList, used) ∧
          after.workspace? used = some workspace ∧
          workspace.machine = (Program.run Console.host (Text.strip interrupted) .empty
            (.start "bob\n".toList [])).2.1 ∧
          unbroken (after.told "sid-1".toList .output ++ workspace.output.pending) =
            "hi".toList ∧
          unbroken (after.told "sid-1".toList .errors ++ workspace.errors.pending) =
            "LINE 2 -> ERROR: Unknown command: foo".toList := by
  have active : connected.activeSession? "a".toList = some ("sid-1".toList, 0) := by decide +kernel
  have asked : (recorded (Text.strip interrupted) ["bob".toList] []).2.2.questions = 1 := by
    decide +kernel
  have said : unbroken (recorded (Text.strip interrupted) ["bob".toList] []).2.2.said =
      "hi".toList := by decide +kernel
  have reported : unbroken
      (recorded (Text.strip interrupted) ["bob".toList] []).2.2.console.errors =
        "LINE 2 -> ERROR: Unknown command: foo".toList := by decide +kernel
  have present : (Text.strip interrupted).isEmpty = false := by decide +kernel
  have enough : (recorded (Text.strip interrupted) ["bob".toList] connected.draws).2.2.questions ≤
      ["bob".toList].length := Nat.le_of_eq asked
  rcases executeCode_agrees_with_console active present (by decide) enough with
    ⟨same, _, used, workspace, current, found, machine, output, errors⟩
  have left := congrArg (fun result => result.2.1) same
  exact ⟨active, asked, used, workspace, current, found, machine.trans left.symm, output.trans said,
    errors.trans reported⟩

end Session.Server

end Linewise
