import Linewise.Session.Server
import Linewise.Text.Blank
import Mathlib.Tactic.Common

/-!
How streams are redirected and put back. Only a part of the server's state has to do with it: the
streams in use, those that each workspace has saved, and which workspace a client's steps go to.
`Waited` says what can become of this part while a program runs that waits for answers.
-/

namespace Linewise.Session

/-! ## Steps and answers -/

/-- After the step, the client's session has another workspace or none. -/
def Step.renews : Step → Bool
  | .connect | .disconnect | .resetInterpreter | .cleanup | .signal => true
  | .executeCode code => !(Text.strip code).isEmpty
  | _ => false

/-- The step executes a line that is neither blank nor a remark. -/
def Step.executesLine : Step → Bool
  | .executeLine line => !((Text.strip line).isEmpty || Text.startsWith (Text.strip line) ['#'])
  | _ => false

def Answer.renews : Answer → Bool
  | .text _ => false
  | .step taken => taken.renews

/-- Among the answers a line is executed before the session gets another workspace. -/
def exposed : List Answer → Bool
  | [] => false
  | .text _ :: rest => exposed rest
  | .step step :: rest => step.executesLine || (!step.renews && exposed rest)

theorem Step.renews_of_executesLine {step : Step} (executes : step.executesLine = true) :
    step.renews = false := by
  cases step <;> first | rfl | cases executes

theorem exposed_append (first second : List Answer) :
    exposed (first ++ second) =
      (exposed first || (!first.any Answer.renews && exposed second)) := by
  induction first with
  | nil => rfl
  | cons answer rest induction =>
      cases answer with
      | text text => simpa [exposed, Answer.renews] using induction
      | step step =>
          cases executes : step.executesLine with
          | true => simp [exposed, executes]
          | false =>
              cases renews : step.renews <;>
                simp [exposed, executes, renews, Answer.renews, induction]

theorem exposed_of_texts {answers : List Answer}
    (texts : ∀ answer ∈ answers, ∃ text, answer = .text text) : exposed answers = false := by
  induction answers with
  | nil => rfl
  | cons answer rest induction =>
      rw [List.forall_mem_cons] at texts
      rcases texts.1 with ⟨text, rfl⟩
      exact induction texts.2

/-! ## Wirings

The wiring of a server decides where written text goes: the streams in use, those that each
workspace has saved, and which workspace is whose. -/

structure Wiring where
  /-- The streams that each workspace has saved. -/
  saved : Array Streams
  streams : Streams
  active : Table Text WorkspaceId
  clients : Table Text Text

namespace Wiring

def activeSession? (wiring : Wiring) (client : Text) : Option (Text × WorkspaceId) := do
  let session ← wiring.clients.find? client
  let id ← wiring.active.find? session
  return (session, id)

def renew (wiring : Wiring) (session : Text) : Wiring :=
  { wiring with
    saved := wiring.saved.push .server
    active := wiring.active.insert session wiring.saved.size }

def redirect (wiring : Wiring) (id : WorkspaceId) : Wiring :=
  { wiring with
    saved := wiring.saved.modify id fun _ => wiring.streams
    streams := .ofWorkspace id }

def restore (wiring : Wiring) (id : WorkspaceId) : Wiring :=
  match wiring.saved[id]? with
  | some streams => { wiring with streams }
  | none => wiring

def Current (wiring : Wiring) (client : Text) (id : WorkspaceId) : Prop :=
  ∃ session, wiring.activeSession? client = some (session, id)

def Valid (wiring : Wiring) : Prop :=
  ∀ session id, wiring.active.find? session = some id → id < wiring.saved.size

/-- A step that runs nothing. -/
inductive Passed (client : Text) : Step → Wiring → Wiring → Prop
  | quiet {step : Step} {wiring : Wiring} (keeps : step.renews = false)
      (idle : step.executesLine = false) : Passed client step wiring wiring
  | refused {step : Step} {wiring : Wiring} (inactive : wiring.activeSession? client = none) :
      Passed client step wiring wiring
  | connected {session : Text} {wiring : Wiring} :
      Passed client .connect wiring
        ({ wiring with clients := wiring.clients.insert client session }.renew session)
  | disconnected {session : Text} {wiring : Wiring}
      (known : wiring.clients.find? client = some session) :
      Passed client .disconnect wiring { wiring with active := wiring.active.erase session }
  | renewed {session : Text} {id : WorkspaceId} {wiring : Wiring}
      (active : wiring.activeSession? client = some (session, id)) :
      Passed client .resetInterpreter wiring (wiring.renew session)
  | cleared {step : Step} {wiring : Wiring} (clears : step = .cleanup ∨ step = .signal) :
      Passed client step wiring { wiring with active := .empty }

/-- A step that runs something in a workspace, as far as the start of the run. -/
inductive Started (client : Text) : Step → WorkspaceId → Wiring → Wiring → Prop
  | line {line session : Text} {id : WorkspaceId} {wiring : Wiring}
      (executes : (Step.executeLine line).executesLine = true)
      (active : wiring.activeSession? client = some (session, id)) :
      Started client (.executeLine line) id wiring (wiring.redirect id)
  | code {code session : Text} {id : WorkspaceId} {wiring : Wiring}
      (renews : (Step.executeCode code).renews = true)
      (active : wiring.activeSession? client = some (session, id)) :
      Started client (.executeCode code) wiring.saved.size wiring
        ((wiring.renew session).redirect wiring.saved.size)

/-- What can happen while a program of the client runs, with the answers that are used up. -/
inductive Waited (client : Text) : List Answer → Wiring → Wiring → Prop
  | nothing {wiring : Wiring} : Waited client [] wiring wiring
  | text {text : Text} {answers : List Answer} {wiring after : Wiring}
      (rest : Waited client answers wiring after) :
      Waited client (.text text :: answers) wiring after
  | passed {step : Step} {answers : List Answer} {wiring between after : Wiring}
      (passed : Passed client step wiring between)
      (rest : Waited client answers between after) :
      Waited client (.step step :: answers) wiring after
  | ran {step : Step} {id : WorkspaceId} {inner answers : List Answer}
      {wiring inside ended after : Wiring} (started : Started client step id wiring inside)
      (waited : Waited client inner inside ended)
      (rest : Waited client answers (ended.restore id) after) :
      Waited client (.step step :: (inner ++ answers)) wiring after

/-- A whole step, with the answers that are used up in it. -/
inductive Taken (client : Text) (step : Step) : List Answer → Wiring → Wiring → Prop
  | passed {wiring after : Wiring} (passed : Passed client step wiring after) :
      Taken client step [] wiring after
  | ran {id : WorkspaceId} {inner : List Answer} {wiring inside ended : Wiring}
      (started : Started client step id wiring inside)
      (waited : Waited client inner inside ended) :
      Taken client step inner wiring (ended.restore id)

theorem Waited.append {client : Text} {first second : List Answer}
    {wiring between after : Wiring} (before : Waited client first wiring between)
    (rest : Waited client second between after) :
    Waited client (first ++ second) wiring after := by
  induction before with
  | nothing => exact rest
  | text _ induction => exact .text (induction rest)
  | passed passed _ induction => exact .passed passed (induction rest)
  | ran started waited _ _ induction =>
      rw [List.cons_append, List.append_assoc]
      exact .ran started waited (induction rest)

theorem Taken.waited {client : Text} {step : Step} {inner : List Answer}
    {wiring after : Wiring} (taken : Taken client step inner wiring after) :
    Waited client (.step step :: inner) wiring after := by
  cases taken with
  | passed passed => exact .passed passed .nothing
  | ran started waited =>
      rw [← List.append_nil inner]
      exact .ran started waited .nothing

/-! ## Sessions that have workspaces -/

section Valid

variable {client : Text} {step : Step} {id : WorkspaceId} {answers : List Answer}
  {wiring after : Wiring}

theorem size_redirect (wiring : Wiring) (id : WorkspaceId) :
    (wiring.redirect id).saved.size = wiring.saved.size := Array.size_modify

theorem size_renew (wiring : Wiring) (session : Text) :
    (wiring.renew session).saved.size = wiring.saved.size + 1 := Array.size_push _

theorem saved_restore (wiring : Wiring) (id : WorkspaceId) :
    (wiring.restore id).saved = wiring.saved := by
  unfold restore
  split <;> rfl

theorem active_restore (wiring : Wiring) (id : WorkspaceId) :
    (wiring.restore id).active = wiring.active := by
  unfold restore
  split <;> rfl

theorem clients_restore (wiring : Wiring) (id : WorkspaceId) :
    (wiring.restore id).clients = wiring.clients := by
  unfold restore
  split <;> rfl

theorem Valid.renew (valid : wiring.Valid) (session : Text) : (wiring.renew session).Valid := by
  intro other id found
  rw [size_renew]
  have found : (wiring.active.insert session wiring.saved.size).find? other = some id := found
  rw [Table.find?_insert] at found
  split at found
  · cases found
    exact Nat.lt_succ_self _
  · exact Nat.lt_succ_of_lt (valid other id found)

theorem Valid.redirect (valid : wiring.Valid) (id : WorkspaceId) : (wiring.redirect id).Valid := by
  intro session other found
  rw [size_redirect]
  exact valid session other found

theorem Valid.restore (valid : wiring.Valid) (id : WorkspaceId) : (wiring.restore id).Valid := by
  intro session other found
  rw [active_restore] at found
  rw [saved_restore]
  exact valid session other found

theorem Valid.id_lt (valid : wiring.Valid) {session : Text}
    (active : wiring.activeSession? client = some (session, id)) : id < wiring.saved.size := by
  unfold activeSession? at active
  obtain ⟨known, _, rest⟩ := Option.bind_eq_some_iff.mp active
  obtain ⟨found, present, same⟩ := Option.bind_eq_some_iff.mp rest
  cases same
  exact valid session id present

theorem Passed.valid (passed : Passed client step wiring after) (valid : wiring.Valid) :
    after.Valid := by
  cases passed with
  | quiet | refused => exact valid
  | connected => exact Valid.renew (by exact valid) _
  | disconnected =>
      intro session id found
      have found : (wiring.active.erase _).find? session = some id := found
      rw [Table.find?_erase] at found
      split at found
      · cases found
      · exact valid session id found
  | renewed => exact valid.renew _
  | cleared =>
      intro session id found
      cases found

theorem Started.valid (started : Started client step id wiring after) (valid : wiring.Valid) :
    after.Valid := by
  cases started with
  | line => exact valid.redirect _
  | code => exact (valid.renew _).redirect _

theorem Waited.valid (waited : Waited client answers wiring after) (valid : wiring.Valid) :
    after.Valid := by
  induction waited with
  | nothing => exact valid
  | text _ induction => exact induction valid
  | passed passed _ induction => exact induction (passed.valid valid)
  | ran started _ _ inside rest =>
      have ended := inside (started.valid valid)
      exact rest (ended.restore _)

end Valid

/-! ## The client's workspace -/

section Current

variable {client : Text} {step : Step} {id target : WorkspaceId} {answers : List Answer}
  {wiring after : Wiring}

theorem activeSession?_congr (sameActive : after.active = wiring.active)
    (sameClients : after.clients = wiring.clients) (client : Text) :
    after.activeSession? client = wiring.activeSession? client := by
  rw [activeSession?, activeSession?, sameActive, sameClients]

theorem current_restore (wiring : Wiring) (id : WorkspaceId) :
    (wiring.restore id).Current client target ↔ wiring.Current client target := by
  rw [Current, Current,
    activeSession?_congr (active_restore wiring id) (clients_restore wiring id)]

theorem not_current_renew {session : Text} (known : wiring.clients.find? client = some session)
    (present : target < wiring.saved.size) : ¬(wiring.renew session).Current client target := by
  rintro ⟨other, active⟩
  have renewed : (wiring.renew session).activeSession? client =
      some (session, wiring.saved.size) := by
    simp [activeSession?, renew, known]
  rw [renewed] at active
  cases active
  exact Nat.lt_irrefl _ present

theorem clients_of_activeSession? {session : Text}
    (active : wiring.activeSession? client = some (session, id)) :
    wiring.clients.find? client = some session := by
  unfold activeSession? at active
  obtain ⟨known, found, rest⟩ := Option.bind_eq_some_iff.mp active
  obtain ⟨_, _, same⟩ := Option.bind_eq_some_iff.mp rest
  cases same
  exact found

theorem Passed.current_iff (passed : Passed client step wiring after)
    (present : target < wiring.saved.size) :
    after.Current client target ↔ wiring.Current client target ∧ step.renews = false := by
  have gone : ¬after.Current client target → step.renews = true →
      (after.Current client target ↔ wiring.Current client target ∧ step.renews = false) := by
    intro elsewhere renews
    simp [elsewhere, renews]
  cases passed with
  | quiet keeps _ => simp [keeps]
  | refused inactive => simp [Current, inactive]
  | connected => exact gone (not_current_renew (Table.find?_insert_self _ _ _) present) rfl
  | renewed active => exact gone (not_current_renew (clients_of_activeSession? active) present) rfl
  | disconnected known =>
      refine gone ?_ rfl
      rintro ⟨session, active⟩
      simp [activeSession?, known, Table.find?_erase] at active
  | cleared clears =>
      refine gone ?_ (by rcases clears with rfl | rfl <;> rfl)
      rintro ⟨session, active⟩
      unfold activeSession? at active
      obtain ⟨known, _, rest⟩ := Option.bind_eq_some_iff.mp active
      cases rest

theorem Started.current_iff (started : Started client step id wiring after)
    (present : target < wiring.saved.size) :
    after.Current client target ↔ wiring.Current client target ∧ step.renews = false := by
  cases started with
  | line executes _ =>
      rw [Step.renews_of_executesLine executes]
      exact ⟨fun current => ⟨current, rfl⟩, fun current => current.1⟩
  | code renews active =>
      have elsewhere := not_current_renew (clients_of_activeSession? active) present
      rw [renews]
      exact ⟨fun current => absurd current elsewhere, nofun⟩

theorem Passed.size_le (passed : Passed client step wiring after) :
    wiring.saved.size ≤ after.saved.size := by
  cases passed with
  | quiet | refused | disconnected | cleared => exact Nat.le_refl _
  | connected | renewed =>
      rw [size_renew]
      exact Nat.le_succ _

theorem Started.size_le (started : Started client step id wiring after) :
    wiring.saved.size ≤ after.saved.size := by
  cases started with
  | line => exact Nat.le_of_eq (size_redirect wiring id).symm
  | code =>
      rw [size_redirect, size_renew]
      exact Nat.le_succ _

theorem Waited.size_le (waited : Waited client answers wiring after) :
    wiring.saved.size ≤ after.saved.size := by
  induction waited with
  | nothing => exact Nat.le_refl _
  | text _ induction => exact induction
  | passed passed _ induction => exact Nat.le_trans passed.size_le induction
  | ran started _ _ inside rest =>
      rw [saved_restore] at rest
      exact Nat.le_trans started.size_le (Nat.le_trans inside rest)

theorem Waited.current_iff (waited : Waited client answers wiring after)
    (present : target < wiring.saved.size) :
    after.Current client target ↔
      wiring.Current client target ∧ answers.any Answer.renews = false := by
  induction waited with
  | nothing => simp
  | text _ induction => simpa [Answer.renews] using induction present
  | passed passed _ induction =>
      rw [induction (Nat.lt_of_lt_of_le present passed.size_le), passed.current_iff present]
      simp [Answer.renews, and_assoc]
  | ran started waited _ inside rest =>
      have presentInside := Nat.lt_of_lt_of_le present started.size_le
      have presentAfter := Nat.lt_of_lt_of_le presentInside waited.size_le
      rw [rest (by rw [saved_restore]; exact presentAfter), current_restore,
        inside presentInside, started.current_iff present]
      simp [Answer.renews, and_assoc]

end Current

/-! ## Saved streams

A run puts back the streams that its workspace has saved by then, which a line executed within its
waits may have overwritten. -/

end Wiring

def Streams.IsCaptured (streams : Streams) : Prop := ∃ id, streams = .ofWorkspace id

theorem Streams.IsCaptured.ne_server {streams : Streams} (captured : streams.IsCaptured) :
    streams ≠ .server := by
  rintro rfl
  obtain ⟨id, equal⟩ := captured
  cases equal

namespace Wiring

section Saved

variable {client : Text} {step : Step} {id target : WorkspaceId} {answers : List Answer}
  {wiring after : Wiring}

theorem saved_redirect (wiring : Wiring) (id target : WorkspaceId) :
    (wiring.redirect id).saved[target]? =
      if id = target then wiring.saved[target]?.map fun _ => wiring.streams
      else wiring.saved[target]? := by
  rw [redirect, Array.getElem?_modify]

theorem saved_renew (wiring : Wiring) (session : Text) :
    (wiring.renew session).saved[target]? =
      if target = wiring.saved.size then some .server else wiring.saved[target]? := by
  rw [renew, Array.getElem?_push]

theorem Passed.streams_eq (passed : Passed client step wiring after) :
    after.streams = wiring.streams := by
  cases passed <;> rfl

theorem Passed.saved_eq (passed : Passed client step wiring after)
    (present : target < wiring.saved.size) :
    after.saved[target]? = wiring.saved[target]? := by
  cases passed with
  | quiet | refused | disconnected | cleared => rfl
  | connected | renewed => rw [saved_renew, if_neg (Nat.ne_of_lt present)]

theorem Passed.not_current (passed : Passed client step wiring after)
    (executes : step.executesLine = true) : ¬wiring.Current client target := by
  cases passed with
  | quiet _ idle =>
      rw [idle] at executes
      cases executes
  | refused inactive =>
      rintro ⟨session, active⟩
      rw [inactive] at active
      cases active
  | connected | disconnected | renewed => cases executes
  | cleared clears => rcases clears with rfl | rfl <;> cases executes

theorem Started.streams_eq (started : Started client step id wiring after) :
    after.streams = .ofWorkspace id := by
  cases started <;> rfl

theorem Started.saved_self (started : Started client step id wiring after)
    (valid : wiring.Valid) : after.saved[id]? = some wiring.streams := by
  cases started with
  | line _ active =>
      rw [saved_redirect, if_pos rfl, Array.getElem?_eq_getElem (valid.id_lt active),
        Option.map_some]
  | code =>
      rw [saved_redirect, if_pos rfl, saved_renew, if_pos rfl]
      rfl

theorem Started.saved_of_ne (started : Started client step id wiring after)
    (different : id ≠ target) (present : target < wiring.saved.size) :
    after.saved[target]? = wiring.saved[target]? := by
  cases started with
  | line => rw [saved_redirect, if_neg different]
  | code => rw [saved_redirect, if_neg different, saved_renew, if_neg (Nat.ne_of_lt present)]

/-- A workspace in use loses what it has saved just when a line is executed in it. -/
theorem Started.saved_server_iff (started : Started client step id wiring after)
    (valid : wiring.Valid) (captured : wiring.streams.IsCaptured)
    (present : target < wiring.saved.size) :
    after.saved[target]? = some .server ↔
      wiring.saved[target]? = some .server ∧
        ¬(wiring.Current client target ∧ step.executesLine = true) := by
  by_cases same : id = target
  · subst same
    rw [started.saved_self valid, Option.some.injEq]
    constructor
    · exact fun server => absurd server captured.ne_server
    · rintro ⟨_, untouched⟩
      cases started with
      | line executes active => exact absurd ⟨⟨_, active⟩, executes⟩ untouched
      | code => exact absurd present (Nat.lt_irrefl _)
  · rw [started.saved_of_ne same present]
    refine ⟨fun server => ⟨server, ?_⟩, fun both => both.1⟩
    rintro ⟨⟨session, current⟩, executes⟩
    cases started with
    | line _ active =>
        rw [active] at current
        cases current
        exact same rfl
    | code => cases executes

def SavesCaptured (wiring : Wiring) (id : WorkspaceId) : Prop :=
  ∃ streams, wiring.saved[id]? = some streams ∧ streams.IsCaptured

theorem SavesCaptured.restore (saves : wiring.SavesCaptured id) :
    (wiring.restore id).streams.IsCaptured := by
  obtain ⟨streams, found, captured⟩ := saves
  simp only [Wiring.restore, found]
  exact captured

theorem Started.savesCaptured_self (started : Started client step id wiring after)
    (valid : wiring.Valid) (captured : wiring.streams.IsCaptured) : after.SavesCaptured id :=
  ⟨wiring.streams, started.saved_self valid, captured⟩

theorem Started.savesCaptured (started : Started client step id wiring after)
    (valid : wiring.Valid) (captured : wiring.streams.IsCaptured)
    (saves : wiring.SavesCaptured target) : after.SavesCaptured target := by
  by_cases same : id = target
  · subst same
    exact started.savesCaptured_self valid captured
  · obtain ⟨kept, found, keptCaptured⟩ := saves
    have present := (Array.getElem?_eq_some_iff.mp found).1
    exact ⟨kept, by rw [started.saved_of_ne same present, found], keptCaptured⟩

/-- While a program runs, the server's own streams are neither used nor saved again. -/
theorem Waited.captured (waited : Waited client answers wiring after) (valid : wiring.Valid)
    (captured : wiring.streams.IsCaptured) :
    after.streams.IsCaptured ∧
      ∀ target, wiring.SavesCaptured target → after.SavesCaptured target := by
  induction waited with
  | nothing => exact ⟨captured, fun _ saves => saves⟩
  | text _ induction => exact induction valid captured
  | passed passed _ induction =>
      rw [← passed.streams_eq] at captured
      obtain ⟨streams, saved⟩ := induction (passed.valid valid) captured
      refine ⟨streams, fun target ⟨kept, found, keptCaptured⟩ =>
        saved target ⟨kept, ?_, keptCaptured⟩⟩
      rw [passed.saved_eq (Array.getElem?_eq_some_iff.mp found).1, found]
  | @ran _ id _ _ _ _ _ _ started waited _ inside rest =>
      have startedValid := started.valid valid
      obtain ⟨_, kept⟩ := inside startedValid ⟨id, started.streams_eq⟩
      have restored := (kept id (started.savesCaptured_self valid captured)).restore
      obtain ⟨streams, saved⟩ := rest ((waited.valid startedValid).restore id) restored
      refine ⟨streams, fun target saves => saved target ?_⟩
      rw [SavesCaptured, saved_restore]
      exact kept target (started.savesCaptured valid captured saves)

/-- What a workspace has saved stays saved unless the client executes a line in it. -/
theorem Waited.saved_server_iff (waited : Waited client answers wiring after)
    (valid : wiring.Valid) (captured : wiring.streams.IsCaptured)
    (present : target < wiring.saved.size) :
    after.saved[target]? = some .server ↔
      wiring.saved[target]? = some .server ∧
        ¬(wiring.Current client target ∧ exposed answers = true) := by
  induction waited with
  | nothing => simp [exposed]
  | text _ induction => exact induction valid captured present
  | @passed step _ wiring between _ passed _ induction =>
      have streams := passed.streams_eq
      rw [induction (passed.valid valid) (by rw [streams]; exact captured)
          (Nat.lt_of_lt_of_le present passed.size_le),
        passed.saved_eq present, passed.current_iff present]
      cases executes : step.executesLine with
      | true => simp [passed.not_current executes]
      | false => simp [exposed, executes, and_assoc]
  | @ran step id inner answers wiring inside ended _ started waited _ insideSaved restSaved =>
      have startedValid := started.valid valid
      have startedCaptured : inside.streams.IsCaptured := ⟨id, started.streams_eq⟩
      have presentInside := Nat.lt_of_lt_of_le present started.size_le
      have presentEnded : target < (ended.restore id).saved.size := by
        rw [saved_restore]
        exact Nat.lt_of_lt_of_le presentInside waited.size_le
      have restored := ((waited.captured startedValid startedCaptured).2 id
        (started.savesCaptured_self valid captured)).restore
      rw [restSaved ((waited.valid startedValid).restore id) restored presentEnded, saved_restore,
        current_restore, insideSaved startedValid startedCaptured presentInside,
        started.saved_server_iff valid captured present, waited.current_iff presentInside,
        started.current_iff present, exposed, exposed_append]
      by_cases current : wiring.Current client target
      · cases step.executesLine <;> cases step.renews <;> cases exposed inner <;>
          cases inner.any Answer.renews <;> simp [current]
      · simp [current]

end Saved

/-! ## A whole step -/

theorem Started.current_self {client : Text} {step : Step} {id : WorkspaceId}
    {wiring after : Wiring} (started : Started client step id wiring after) :
    after.Current client id := by
  cases started with
  | line _ active => exact ⟨_, active⟩
  | @code _ session _ _ _ active =>
      refine ⟨session, ?_⟩
      simp [activeSession?, redirect, renew, clients_of_activeSession? active]

/-- After a step the streams are the server's own again, unless the client executed a line in the
workspace while what the step ran there was waiting. -/
theorem Taken.streams_eq_server_iff {client : Text} {step : Step} {answers : List Answer}
    {wiring after : Wiring} (taken : Taken client step answers wiring after)
    (valid : wiring.Valid) (own : wiring.streams = .server) :
    after.streams = .server ↔ exposed answers = false := by
  cases taken with
  | passed passed =>
      rw [passed.streams_eq, own]
      simp [exposed]
  | @ran id _ _ inside ended started waited =>
      have startedValid := started.valid valid
      have startedCaptured : inside.streams.IsCaptured := ⟨id, started.streams_eq⟩
      have saved := started.saved_self valid
      rw [own] at saved
      have kept := waited.saved_server_iff startedValid startedCaptured
        (Array.getElem?_eq_some_iff.mp saved).1
      have endedCaptured := (waited.captured startedValid startedCaptured).1
      have restored : (ended.restore id).streams = .server ↔ ended.saved[id]? = some .server := by
        unfold restore
        cases found : ended.saved[id]? with
        | none => simpa using endedCaptured.ne_server
        | some streams => simp
      rw [restored, kept]
      simp [saved, started.current_self]

end Wiring

end Linewise.Session
