import Linewise.Proofs.Redirection
import Mathlib.Logic.Function.Basic

/-!
The way of captured text out of a workspace. What is written to a capture is told to the session of
the workspace or is pending, but for the line ends, and what is pending is the open line.
-/

namespace Linewise.Session

/-- The characters of a text, line ends apart. -/
def unbroken (text : Text) : Text := text.filter (· != '\n')

theorem unbroken_append (first second : Text) :
    unbroken (first ++ second) = unbroken first ++ unbroken second :=
  List.filter_append first second

/-- The line that is open after a text, if one was begun before it. -/
def openLine (begun text : Text) : Text :=
  text.foldl (fun line character => if character = '\n' then [] else line ++ [character]) begun

theorem openLine_append (begun first second : Text) :
    openLine begun (first ++ second) = openLine (openLine begun first) second :=
  List.foldl_append

theorem openLine_of_not_mem (begun : Text) {text : Text} (unended : '\n' ∉ text) :
    openLine begun text = begun ++ text := by
  induction text generalizing begun with
  | nil => exact (List.append_nil begun).symm
  | cons head tail induction =>
      obtain ⟨other, rest⟩ := List.ne_and_not_mem_of_not_mem_cons unended
      rw [openLine, List.foldl_cons, if_neg (Ne.symm other)]
      exact (induction _ rest).trans (List.append_assoc begun [head] tail)

theorem openLine_of_mem (begun other : Text) {text : Text} (ended : '\n' ∈ text) :
    openLine begun text = openLine other text := by
  induction text generalizing begun other with
  | nil => cases ended
  | cons head tail induction =>
      rw [openLine, openLine, List.foldl_cons, List.foldl_cons]
      by_cases ends : head = '\n'
      · rw [if_pos ends, if_pos ends]
      · rw [if_neg ends, if_neg ends]
        exact induction _ _ ((List.mem_cons.mp ended).resolve_left (Ne.symm ends))

/-! ## Pieces -/

theorem splitAt_ne_nil (mark : Char) (text : Text) : Text.splitAt mark text ≠ [] := by
  cases text with
  | nil => exact List.cons_ne_nil _ _
  | cons head tail =>
      unfold Text.splitAt
      split
      · exact List.cons_ne_nil _ _
      · split <;> exact List.cons_ne_nil _ _

theorem flatten_splitAt (mark : Char) (text : Text) :
    (Text.splitAt mark text).flatten = text.filter (· != mark) := by
  induction text with
  | nil => rfl
  | cons head tail induction =>
      unfold Text.splitAt
      split
      · next same => simp [same, induction]
      · next other =>
          split
          · next nothing => exact absurd nothing (splitAt_ne_nil mark tail)
          · next piece pieces rest =>
              rw [rest] at induction
              simp [other, ← induction]

theorem modifyHead_nil_append (pieces : List Text) :
    pieces.modifyHead ([] ++ ·) = pieces :=
  congrFun List.modifyHead_id pieces

theorem openLine_eq_getLast? (begun text : Text) :
    some (openLine begun text) =
      ((Text.splitAt '\n' text).modifyHead (begun ++ ·)).getLast? := by
  induction text generalizing begun with
  | nil => simp [openLine, Text.splitAt]
  | cons head tail induction =>
      rw [openLine, List.foldl_cons]
      unfold Text.splitAt
      split
      · rw [List.modifyHead_cons, List.getLast?_cons_of_ne_nil (splitAt_ne_nil '\n' tail)]
        have next := induction []
        rw [modifyHead_nil_append] at next
        exact next
      · split
        · next nothing => exact absurd nothing (splitAt_ne_nil '\n' tail)
        · next piece pieces rest =>
            have next := induction (begun ++ [head])
            rw [rest, List.modifyHead_cons, List.append_assoc] at next
            exact next

theorem getLast?_splitAt (text : Text) :
    (Text.splitAt '\n' text).getLast? = some (openLine [] text) := by
  rw [openLine_eq_getLast?, modifyHead_nil_append]

/-! ## Captures -/

namespace Capture

variable (capture : Capture) (text : Text)

theorem pending_write : (capture.write text).2.pending = openLine capture.pending text := by
  unfold write
  simp only [List.contains_iff_mem]
  split
  · next ended =>
      simp only
      rw [getLast?_splitAt, Option.getD_some, openLine_append]
      exact openLine_of_mem _ _ ended
  · next unended => exact (openLine_of_not_mem _ unended).symm

theorem pending_flush : capture.flush.2.pending = [] := by
  unfold flush
  split
  · next nothing => exact List.isEmpty_iff.mp nothing
  · rfl

theorem flatten_filter_pieces (complete : Bool) (pieces : List Text) :
    (pieces.filter fun line => complete || !line.isEmpty).flatten = pieces.flatten := by
  cases complete with
  | true => simp
  | false => exact List.flatten_filter_not_isEmpty

/-- Nothing but line ends is lost. -/
theorem unbroken_write :
    unbroken ((capture.write text).1.flatten ++ (capture.write text).2.pending) =
      unbroken (capture.pending ++ text) := by
  unfold write
  simp only [List.contains_iff_mem]
  split
  · have last := getLast?_splitAt (capture.pending ++ text)
    have pieces := congrArg List.flatten (List.dropLast_append_getLast? _ last)
    rw [flatten_splitAt, List.flatten_append, List.flatten_singleton] at pieces
    simp only
    rw [flatten_filter_pieces, last, Option.getD_some, pieces]
    simp [unbroken]
  · rfl

theorem flatten_flush : capture.flush.1.flatten = capture.pending := by
  unfold flush
  split
  · next nothing => exact (List.isEmpty_iff.mp nothing).symm
  · exact List.append_nil _

end Capture

/-! ## Outlets -/

namespace Port

def sink (id : WorkspaceId) : Port → Sink
  | output => .output id
  | errors => .errors id

theorem channel_inj {port other : Port} : port.channel = other.channel ↔ port = other := by
  cases port <;> cases other <;> decide

theorem sink_inj {port other : Port} {id target : WorkspaceId} :
    port.sink id = other.sink target ↔ port = other ∧ id = target := by
  cases port <;> cases other <;> simp [sink]

end Port

/-- The captures of a workspace, and the session that is told what comes out of them. -/
structure Outlet where
  session : Text
  capture : Port → Capture

def Outlet.replace (outlet : Outlet) (port : Port) (capture : Capture) : Outlet :=
  { outlet with capture := Function.update outlet.capture port capture }

namespace Workspace

def outlet (workspace : Workspace) : Outlet := ⟨workspace.session, workspace.capture⟩

theorem outlet_replace (workspace : Workspace) (port : Port) (capture : Capture) :
    (workspace.replace port capture).outlet = workspace.outlet.replace port capture := by
  have same : (workspace.replace port capture).capture =
      Function.update workspace.capture port capture := by
    funext other
    cases port <;> cases other <;> rfl
  rw [outlet, same]
  cases port <;> rfl

end Workspace

namespace Server

def outlet? (server : Server) (id : WorkspaceId) : Option Outlet :=
  (server.workspace? id).map Workspace.outlet

theorem outlet?_congr {before after : Server} (same : after.workspaces = before.workspaces)
    (id : WorkspaceId) : after.outlet? id = before.outlet? id := by
  rw [outlet?, outlet?, workspace?, workspace?, same]

theorem outlet?_modifyWorkspace (server : Server) (id target : WorkspaceId)
    {change : Workspace → Workspace} (changed : Outlet → Outlet)
    (changes : ∀ workspace, (change workspace).outlet = changed workspace.outlet) :
    (server.modifyWorkspace id change).outlet? target =
      if id = target then (server.outlet? target).map changed else server.outlet? target := by
  rw [outlet?, outlet?, workspace?_modifyWorkspace]
  split
  · cases server.workspace? target with
    | none => rfl
    | some workspace => exact congrArg some (changes workspace)
  · rfl

end Server

/-! ## What a session is told -/

def Sent.textFor (session : Text) (channel : Channel) (sent : Sent) : Text :=
  match sent.event with
  | .output used text => if used = channel ∧ sent.room = some session then text else []
  | _ => []

def Event.isCaptured : Event → Bool
  | .output .output _ | .output .errors _ => true
  | _ => false

theorem Sent.textFor_eq_nil {event : Event} (other : event.isCaptured = false)
    (room : Option Text) (session : Text) (port : Port) :
    (⟨event, room⟩ : Sent).textFor session port.channel = [] := by
  cases event with
  | output used text =>
      have different : used ≠ port.channel := by
        rintro rfl
        cases port <;> cases other
      exact if_neg fun both => different both.1
  | _ => rfl

namespace Server

def told (server : Server) (session : Text) (channel : Channel) : Text :=
  (server.events.map (Sent.textFor session channel)).flatten

theorem told_send (server : Server) (event : Event) (room : Option Text) (session : Text)
    (channel : Channel) : (server.send event room).told session channel =
      server.told session channel ++ (⟨event, room⟩ : Sent).textFor session channel := by
  simp [told, send, events]

theorem workspaces_announce (server : Server) (id : WorkspaceId) (event : Event) :
    (server.announce id event).workspaces = server.workspaces := by
  unfold announce
  split <;> rfl

theorem workspaces_announceLines (server : Server) (id : WorkspaceId) (channel : Channel)
    (lines : List Text) :
    (server.announceLines id channel lines).workspaces = server.workspaces := by
  unfold announceLines
  induction lines generalizing server with
  | nil => rfl
  | cons line rest induction => exact (induction _).trans (workspaces_announce server id _)

theorem told_announceLines {server : Server} {id : WorkspaceId} {outlet : Outlet}
    (found : server.outlet? id = some outlet) (used channel : Channel) (lines : List Text) :
    (server.announceLines id used lines).told outlet.session channel =
      server.told outlet.session channel ++ if used = channel then lines.flatten else [] := by
  unfold announceLines
  induction lines generalizing server with
  | nil => simp
  | cons line rest induction =>
      have next : (server.announce id (.output used line)).outlet? id = some outlet :=
        (outlet?_congr (workspaces_announce server id _) id).trans found
      obtain ⟨workspace, known, rfl⟩ := Option.map_eq_some_iff.mp found
      rw [List.foldl_cons, induction next, announce, known]
      simp only
      rw [told_send]
      simp only [Sent.textFor, Workspace.outlet, and_true]
      split <;> simp

/-! ## Passing text on -/

theorem writeTo_sink (server : Server) (id : WorkspaceId) (port : Port) (text : Text) :
    server.writeTo (port.sink id) text = server.pass id port (·.write text) := by
  cases port <;> rfl

theorem flushOutput_eq_pass (server : Server) (id : WorkspaceId) :
    server.flushOutput id = server.pass id .output Capture.flush := rfl

theorem flushErrors_eq_pass (server : Server) (id : WorkspaceId) :
    server.flushErrors id = server.pass id .errors Capture.flush := rfl

theorem outlet?_pass (server : Server) (id : WorkspaceId) (port : Port)
    (act : Capture → List Text × Capture) (target : WorkspaceId) :
    (server.pass id port act).outlet? target =
      if id = target then
        (server.outlet? target).map fun outlet =>
          outlet.replace port (act (outlet.capture port)).2
      else server.outlet? target := by
  unfold pass
  split
  · next absent =>
      split
      · next same =>
          rw [← same, outlet?, absent]
          rfl
      · rfl
  · next workspace found =>
      simp only
      rw [outlet?_modifyWorkspace _ _ _ (·.replace port (act (workspace.capture port)).2)
        (fun other => other.outlet_replace port _),
        outlet?_congr (workspaces_announceLines _ _ _ _)]
      split
      · next same =>
          rw [← same, outlet?, found]
          rfl
      · rfl

theorem outlet?_writeTo_of_ne (server : Server) {id : WorkspaceId} {sink : Sink}
    (elsewhere : ∀ port : Port, port.sink id ≠ sink) (text : Text) :
    (server.writeTo sink text).outlet? id = server.outlet? id := by
  have passed (port : Port) (target : WorkspaceId) (here : sink = port.sink target) :
      (server.writeTo sink text).outlet? id = server.outlet? id := by
    subst here
    rw [writeTo_sink, outlet?_pass, if_neg fun same => elsewhere port (by rw [same])]
  cases sink with
  | server => rfl
  | output target => exact passed .output target rfl
  | errors target => exact passed .errors target rfl

theorem told_pass {server : Server} {id : WorkspaceId} {outlet : Outlet}
    (found : server.outlet? id = some outlet) (port other : Port)
    (act : Capture → List Text × Capture) :
    (server.pass id port act).told outlet.session other.channel =
      server.told outlet.session other.channel ++
        if port = other then (act (outlet.capture port)).1.flatten else [] := by
  have announced := told_announceLines found port.channel other.channel
    (act (outlet.capture port)).1
  simp only [Port.channel_inj] at announced
  obtain ⟨workspace, known, rfl⟩ := Option.map_eq_some_iff.mp found
  rw [pass, known]
  exact announced

/-- Line ends apart, the session of a workspace was told these texts, but for what is pending. -/
def Conveys (server : Server) (id : WorkspaceId) (texts : Port → Text) : Prop :=
  ∃ outlet, server.outlet? id = some outlet ∧
    ∀ port, unbroken (server.told outlet.session port.channel ++ (outlet.capture port).pending) =
      unbroken (texts port)

namespace Conveys

variable {server : Server} {id : WorkspaceId} {texts : Port → Text}
  (conveys : server.Conveys id texts)

include conveys

theorem pass (port : Port) {act : Capture → List Text × Capture} {text : Text}
    (keeps : ∀ capture, unbroken ((act capture).1.flatten ++ (act capture).2.pending) =
      unbroken (capture.pending ++ text)) :
    (server.pass id port act).Conveys id (Function.update texts port (texts port ++ text)) := by
  obtain ⟨outlet, found, conveyed⟩ := conveys
  refine ⟨outlet.replace port (act (outlet.capture port)).2, ?_, fun other => ?_⟩
  · rw [outlet?_pass, if_pos rfl, found]
    rfl
  · have told := told_pass found port other act
    simp only [Outlet.replace]
    rw [told]
    by_cases same : port = other
    · subst same
      rw [if_pos rfl, Function.update_self, Function.update_self, List.append_assoc,
        unbroken_append, keeps, ← unbroken_append, ← List.append_assoc, unbroken_append, conveyed,
        ← unbroken_append]
    · rw [if_neg same, Function.update_of_ne (Ne.symm same), Function.update_of_ne (Ne.symm same),
        List.append_nil]
      exact conveyed other

theorem write (port : Port) (text : Text) :
    (server.writeTo (port.sink id) text).Conveys id
      (Function.update texts port (texts port ++ text)) := by
  rw [writeTo_sink]
  exact conveys.pass port fun capture => capture.unbroken_write text

theorem flush (port : Port) : (server.pass id port Capture.flush).Conveys id texts := by
  have keeps : ∀ capture : Capture, unbroken (capture.flush.1.flatten ++ capture.flush.2.pending) =
      unbroken (capture.pending ++ []) := fun capture => by
    rw [capture.flatten_flush, capture.pending_flush]
  have flushed := conveys.pass port keeps
  rw [List.append_nil, Function.update_eq_self] at flushed
  exact flushed

end Conveys

/-! ## What says nothing -/

/-- No capture has changed, and nothing came out of one. -/
structure Silent (before after : Server) : Prop where
  outlet? (id : WorkspaceId) : after.outlet? id = before.outlet? id
  told (session : Text) (port : Port) :
    after.told session port.channel = before.told session port.channel

theorem Silent.trans {first second third : Server} (before : Silent first second)
    (after : Silent second third) : Silent first third where
  outlet? id := (after.outlet? id).trans (before.outlet? id)
  told session port := (after.told session port).trans (before.told session port)

theorem Conveys.silent {before after : Server} {id : WorkspaceId} {texts : Port → Text}
    (conveys : before.Conveys id texts) (silent : Silent before after) :
    after.Conveys id texts := by
  obtain ⟨outlet, found, conveyed⟩ := conveys
  refine ⟨outlet, (silent.outlet? id).trans found, fun port => ?_⟩
  rw [silent.told]
  exact conveyed port

/-- Nor are the streams other ones, and at most some answers were used up. -/
structure Mute (before after : Server) : Prop extends Silent before after where
  streams : after.streams = before.streams
  answers : after.answers ⊆ before.answers

namespace Mute

theorem refl (server : Server) : Mute server server :=
  ⟨⟨fun _ => rfl, fun _ _ => rfl⟩, rfl, fun _ member => member⟩

theorem trans {first second third : Server} (before : Mute first second)
    (after : Mute second third) : Mute first third where
  toSilent := before.toSilent.trans after.toSilent
  streams := after.streams.trans before.streams
  answers := List.Subset.trans after.answers before.answers

variable (server : Server) (id : WorkspaceId)

theorem modifyWorkspace (change : Workspace → Workspace)
    (keeps : ∀ workspace, (change workspace).outlet = workspace.outlet) :
    Mute server (server.modifyWorkspace id change) where
  outlet? target := by
    rw [outlet?_modifyWorkspace server id target (fun outlet => outlet) keeps, Option.map_id',
      ite_self]
  told _ _ := rfl
  streams := rfl
  answers _ member := member

theorem send (event : Event) (quiet : event.isCaptured = false) (room : Option Text) :
    Mute server (server.send event room) where
  outlet? _ := rfl
  told session port := by
    rw [told_send, Sent.textFor_eq_nil quiet, List.append_nil]
  streams := rfl
  answers _ member := member

theorem announce (event : Event) (quiet : event.isCaptured = false) :
    Mute server (server.announce id event) := by
  unfold Server.announce
  split
  · exact send server event quiet _
  · exact refl server

theorem draw : Mute server server.draw.2 := by
  unfold Server.draw
  split
  · exact refl server
  · exact ⟨⟨fun _ => rfl, fun _ _ => rfl⟩, rfl, fun _ member => member⟩

theorem provideInput (client text : Text) : Mute server (server.provideInput client text) := by
  apply of_provideInput
  · exact fun _ => send server _ rfl _
  · intro _ id _ _
    have entered := modifyWorkspace server id
      (fun workspace => { workspace with entered := workspace.entered ++ [text] }) fun _ => rfl
    exact (entered.trans (send _ _ rfl _)).trans (send _ _ rfl _)

theorem takeEntered? {text : Text} {after : Server}
    (taken : server.takeEntered? id = some (text, after)) : Mute server after :=
  of_takeEntered? (fun _ => modifyWorkspace server id _ fun _ => rfl) taken

theorem waits {start : Server} (texts : ∀ answer ∈ start.answers, ∃ text, answer = .text text)
    (nested : Step → Server → StepEnd × Server) (client : Text) (id : WorkspaceId) :
    Waits nested client id (Mute start) (Mute start) := by
  apply Waits.of_texts
  · exact fun mute answer member => texts answer (mute.answers member)
  · exact fun mute taken => mute.trans (takeEntered? _ id taken)
  · exact fun mute => mute
  · intro server text rest mute answers
    have used : Mute server { server with answers := rest } :=
      ⟨⟨fun _ => rfl, fun _ _ => rfl⟩, rfl, fun _ member => by
        rw [answers]
        exact .tail _ member⟩
    exact mute.trans (used.trans (provideInput _ client text))

end Mute

theorem Silent.redirect (server : Server) (id : WorkspaceId) :
    Silent server (server.redirect id) where
  outlet? :=
    (Mute.modifyWorkspace server id ({ · with saved := server.streams }) fun _ => rfl).outlet?
  told _ _ := rfl

theorem Silent.restore (server : Server) (id : WorkspaceId) :
    Silent server (server.restore id) := by
  unfold Server.restore
  split <;> exact ⟨fun _ => rfl, fun _ _ => rfl⟩

theorem ask_of_captured (nested : Step → Server → StepEnd × Server) (client : Text)
    {id : WorkspaceId} (store : Machine → Machine → Machine) (load : Machine → Machine)
    (prompt : Text) (machine : Machine) {server : Server}
    (captured : server.streams = .ofWorkspace id) :
    ((host nested client id store load).ask prompt machine server).2.2 =
      (getInput nested client id prompt (server.modifyWorkspace id fun workspace =>
        { workspace with machine := store workspace.machine machine })).2 := by
  unfold host
  simp only [captured, Streams.ofWorkspace]

/-- After the open line of the output was handed on, asking for a text says nothing, if nothing but
texts is entered. -/
theorem mute_getInput {server : Server}
    (answered : ∀ answer ∈ server.answers, ∃ text, answer = .text text)
    (nested : Step → Server → StepEnd × Server) (client : Text) (id : WorkspaceId) (prompt : Text) :
    Mute (server.flushOutput id) (getInput nested client id prompt server).2 := by
  have unwired := Unwired.flushOutput server id
  have asked : Mute (server.flushOutput id) (server.asking id prompt) :=
    (Mute.announce _ id (.inputRequest prompt) rfl).trans (.modifyWorkspace _ id _ fun _ => rfl)
  have texts : ∀ answer ∈ (server.flushOutput id).answers, ∃ text, answer = .text text := by
    rw [unwired.answers]
    exact answered
  rw [getInput_eq]
  exact ((Mute.waits texts nested client id).await _ asked).trans
    (.modifyWorkspace _ id _ fun _ => rfl)

theorem conveys_getInput {server : Server} {id : WorkspaceId} {texts : Port → Text}
    (conveys : server.Conveys id texts)
    (answered : ∀ answer ∈ server.answers, ∃ text, answer = .text text)
    (nested : Step → Server → StepEnd × Server) (client prompt : Text) :
    (getInput nested client id prompt server).2.Conveys id texts ∧
      (getInput nested client id prompt server).2.streams = server.streams ∧
      (getInput nested client id prompt server).2.answers ⊆ server.answers := by
  have flushed := conveys.flush .output
  rw [← flushOutput_eq_pass] at flushed
  have unwired := Unwired.flushOutput server id
  have mute := mute_getInput answered nested client id prompt
  refine ⟨flushed.silent mute.toSilent,
    mute.streams.trans (congrArg Wiring.streams unwired.wiring), ?_⟩
  rw [← unwired.answers]
  exact mute.answers

end Server

end Linewise.Session
