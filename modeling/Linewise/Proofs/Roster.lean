import Linewise.Session.Server
import Mathlib.Tactic.Common

/-!
What the workspaces of the server are doing, and which of them clients have. A step, with all that
happens in its waits, comes to rest: `Eases` and `Calms` say what it does to this part of the
server's state as seen by a client.
-/

namespace Linewise.Session

/-- What a workspace is doing. -/
structure Activity where
  running : Bool
  waiting : Bool
  entered : List Text

namespace Activity

def rest : Activity := ⟨false, false, []⟩

def run (running : Bool) (activity : Activity) : Activity := { activity with running }

def wait (waiting : Bool) (activity : Activity) : Activity := { activity with waiting }

def enter (text : Text) (activity : Activity) : Activity :=
  { activity with entered := activity.entered ++ [text] }

end Activity

def Workspace.activity (workspace : Workspace) : Activity :=
  ⟨workspace.running, workspace.waiting, workspace.entered⟩

/-- What the workspaces are doing, and which of them clients have. -/
structure Roster where
  activities : Array Activity
  active : Table Text WorkspaceId
  clients : Table Text Text

namespace Roster

def activity (roster : Roster) (id : WorkspaceId) : Activity := roster.activities[id]?.getD .rest

def modify (roster : Roster) (id : WorkspaceId) (change : Activity → Activity) : Roster :=
  { roster with activities := roster.activities.modify id change }

def renew (roster : Roster) (session : Text) : Roster :=
  { roster with
    activities := roster.activities.push .rest
    active := roster.active.insert session roster.activities.size }

def enroll (roster : Roster) (client session : Text) : Roster :=
  { roster with clients := roster.clients.insert client session }.renew session

def dismiss (roster : Roster) (session : Text) : Roster :=
  { roster with active := roster.active.erase session }

/-- The steps of the client go to this workspace, which waits for a text. -/
structure Attends (roster : Roster) (client : Text) (id : WorkspaceId) : Prop where
  current : ∃ session, roster.clients.find? client = some session ∧
    roster.active.find? session = some id
  waiting : (roster.activity id).waiting = true

def Drained (roster : Roster) : Prop := ∀ id, (roster.activity id).entered = []

/-- At most one text is there to be read in each of these workspaces, and none elsewhere. -/
def Offers (roster : Roster) (Heard : WorkspaceId → Prop) : Prop :=
  ∀ id, (roster.activity id).entered = [] ∨
    Heard id ∧ ∃ text, (roster.activity id).entered = [text]

section Activities

variable (roster : Roster) {id target : WorkspaceId} (change : Activity → Activity)

theorem activity_of_size_le (absent : roster.activities.size ≤ id) :
    roster.activity id = .rest := by
  rw [activity, Array.getElem?_eq_none absent]
  rfl

theorem activity_renew (session : Text) (target : WorkspaceId) :
    (roster.renew session).activity target = roster.activity target := by
  rw [activity, activity, renew, Array.getElem?_push]
  split
  · next last =>
      subst last
      rw [Array.getElem?_size]
      rfl
  · rfl

theorem activity_modify_of_ne (different : id ≠ target) :
    (roster.modify id change).activity target = roster.activity target := by
  rw [activity, modify, Array.getElem?_modify, if_neg different]
  rfl

theorem activity_modify_self (id : WorkspaceId) :
    (roster.modify id change).activity id = change (roster.activity id) ∨
      (roster.modify id change).activity id = .rest := by
  rw [activity, activity, modify, Array.getElem?_modify, if_pos rfl]
  cases roster.activities[id]? with
  | none => exact .inr rfl
  | some activity => exact .inl rfl

theorem activity_modify_of_keeps {Seen : Type} (seen : Activity → Seen)
    (keeps : ∀ activity, seen (change activity) = seen activity) :
    seen ((roster.modify id change).activity target) = seen (roster.activity target) := by
  by_cases same : id = target
  · subst same
    rw [activity, activity, modify, Array.getElem?_modify, if_pos rfl]
    cases roster.activities[id]? with
    | none => rfl
    | some activity => exact keeps activity
  · rw [activity_modify_of_ne roster change same]

/-- What a change can only take away is not found after it where it was not before. -/
theorem of_activity_modify (seen : Activity → Bool) (unseen : seen .rest = false)
    (eases : ∀ activity, seen (change activity) = true → seen activity = true)
    (holds : seen ((roster.modify id change).activity target) = true) :
    seen (roster.activity target) = true := by
  by_cases same : id = target
  · subst same
    rcases roster.activity_modify_self change id with changed | absent
    · rw [changed] at holds
      exact eases _ holds
    · rw [absent, unseen] at holds
      cases holds
  · rw [activity_modify_of_ne roster change same] at holds
    exact holds

theorem ne_of_activity_modify (seen : Activity → Bool) (unseen : seen .rest = false)
    (clears : ∀ activity, seen (change activity) = false)
    (holds : seen ((roster.modify id change).activity target) = true) : id ≠ target := by
  rintro rfl
  rcases roster.activity_modify_self change id with changed | absent
  · rw [changed, clears] at holds
    cases holds
  · rw [absent, unseen] at holds
    cases holds

end Activities

/-! ## Coming to rest -/

/-- Nothing runs or waits that did not before, and no workspace that waits has come into the reach
of the client. -/
structure Eases (client : Text) (before after : Roster) : Prop where
  running (id : WorkspaceId) :
    (after.activity id).running = true → (before.activity id).running = true
  waiting (id : WorkspaceId) :
    (after.activity id).waiting = true → (before.activity id).waiting = true
  attends (id : WorkspaceId) : after.Attends client id → before.Attends client id

theorem Eases.trans {client : Text} {first second third : Roster}
    (before : Eases client first second) (after : Eases client second third) :
    Eases client first third where
  running id := before.running id ∘ after.running id
  waiting id := before.waiting id ∘ after.waiting id
  attends id := before.attends id ∘ after.attends id

/-- Nor is a text left that was entered. -/
structure Calms (client : Text) (before after : Roster) : Prop
    extends Eases client before after where
  drained : before.Drained → after.Drained

section Calms

variable {client : Text}

theorem Calms.refl (client : Text) (roster : Roster) : Calms client roster roster :=
  ⟨⟨fun _ => id, fun _ => id, fun _ => id⟩, id⟩

theorem Calms.trans {first second third : Roster} (before : Calms client first second)
    (after : Calms client second third) : Calms client first third :=
  ⟨before.toEases.trans after.toEases, after.drained ∘ before.drained⟩

theorem Drained.modify {roster : Roster} (drained : roster.Drained) (id : WorkspaceId)
    (change : Activity → Activity)
    (keeps : ∀ activity, (change activity).entered = activity.entered) :
    (roster.modify id change).Drained := by
  intro target
  rw [activity_modify_of_keeps roster change Activity.entered keeps]
  exact drained target

variable (client) (roster : Roster)

theorem eases_modify (id : WorkspaceId) (change : Activity → Activity)
    (runs : ∀ activity, (change activity).running = true → activity.running = true)
    (waits : ∀ activity, (change activity).waiting = true → activity.waiting = true) :
    Eases client roster (roster.modify id change) where
  running _ := roster.of_activity_modify change Activity.running rfl runs
  waiting _ := roster.of_activity_modify change Activity.waiting rfl waits
  attends _ attends :=
    ⟨attends.current, roster.of_activity_modify change Activity.waiting rfl waits attends.waiting⟩

theorem calms_stop (id : WorkspaceId) :
    Calms client roster (roster.modify id (.run false)) where
  toEases := eases_modify client roster id (.run false) nofun fun _ waiting => waiting
  drained drained := drained.modify id (.run false) fun _ => rfl

variable {client roster}

/-- The client has been cut off from what waits. -/
theorem calms_of_unattended {before after : Roster}
    (same : ∀ target, after.activity target = before.activity target)
    (unattended : ∀ target, ¬ after.Attends client target) : Calms client before after where
  running target running := by
    rw [same] at running
    exact running
  waiting target waiting := by
    rw [same] at waiting
    exact waiting
  attends target attends := absurd attends (unattended target)
  drained drained target := by
    rw [same]
    exact drained target

theorem Attends.eq {session : Text} {id target : WorkspaceId}
    (attends : roster.Attends client target) (known : roster.clients.find? client = some session)
    (here : roster.active.find? session = some id) : target = id := by
  rcases attends.current with ⟨other, own, found⟩
  cases known.symm.trans own
  cases here.symm.trans found
  rfl

theorem not_attends {session : Text} {id : WorkspaceId}
    (known : roster.clients.find? client = some session)
    (here : roster.active.find? session = some id) (rests : roster.activity id = .rest)
    (target : WorkspaceId) : ¬ roster.Attends client target := by
  intro attends
  have waiting := attends.waiting
  rw [attends.eq known here, rests] at waiting
  cases waiting

theorem calms_renew {session : Text} (known : roster.clients.find? client = some session) :
    Calms client roster (roster.renew session) := by
  have same := activity_renew roster session
  have own : (roster.renew session).clients.find? client = some session := known
  apply calms_of_unattended same
  apply not_attends own (Table.find?_insert_self _ _ _)
  rw [same, activity_of_size_le roster (Nat.le_refl _)]

theorem calms_enroll (client session : Text) (roster : Roster) :
    Calms client roster (roster.enroll client session) := by
  have same (target : WorkspaceId) :
      (roster.enroll client session).activity target = roster.activity target :=
    activity_renew { roster with clients := roster.clients.insert client session } session target
  have own : (roster.enroll client session).clients.find? client = some session :=
    Table.find?_insert_self _ _ _
  apply calms_of_unattended same
  apply not_attends own (Table.find?_insert_self _ _ _)
  rw [same]
  exact activity_of_size_le roster (Nat.le_refl _)

theorem calms_dismiss {session : Text} (known : roster.clients.find? client = some session) :
    Calms client roster (roster.dismiss session) := by
  refine calms_of_unattended (fun _ => rfl) ?_
  rintro target ⟨⟨other, own, found⟩, _⟩
  have own : roster.clients.find? client = some other := own
  rw [known] at own
  cases own
  have found : (roster.active.erase session).find? session = some target := found
  rw [Table.find?_erase, if_pos rfl] at found
  cases found

theorem calms_clear (client : Text) (roster : Roster) :
    Calms client roster { roster with active := .empty } := by
  refine calms_of_unattended (fun _ => rfl) ?_
  rintro target ⟨⟨other, _, found⟩, _⟩
  cases found

theorem attends_run_iff (running : Bool) (id target : WorkspaceId) :
    (roster.modify id (.run running)).Attends client target ↔ roster.Attends client target := by
  have same : ((roster.modify id (.run running)).activity target).waiting =
      (roster.activity target).waiting :=
    roster.activity_modify_of_keeps (.run running) Activity.waiting fun _ => rfl
  constructor
  · exact fun attends => ⟨attends.current, same.symm.trans attends.waiting⟩
  · exact fun attends => ⟨attends.current, same.trans attends.waiting⟩

theorem calms_of_ran {before closed : Roster} {id : WorkspaceId}
    (calms : Calms client (before.modify id (.run true)) closed) :
    Calms client before (closed.modify id (.run false)) := by
  have stopped := calms.trans (calms_stop client closed id)
  refine ⟨⟨fun target running => ?_, fun target waiting => ?_, fun target attends => ?_⟩,
    fun drained => stopped.drained (drained.modify id (.run true) fun _ => rfl)⟩
  · have different : id ≠ target :=
      closed.ne_of_activity_modify (.run false) Activity.running rfl (fun _ => rfl) running
    have begun := stopped.running target running
    rw [activity_modify_of_ne before _ different] at begun
    exact begun
  · have begun := stopped.waiting target waiting
    rw [activity_modify_of_keeps before (.run true) Activity.waiting fun _ => rfl] at begun
    exact begun
  · exact (attends_run_iff true id target).mp (stopped.attends target attends)

/-- What waited in a workspace waits no more. If it was the only one in the reach of the client that
did, there is none left. -/
theorem calms_of_waited {before closed : Roster} {reader : WorkspaceId}
    (heard : ∀ id, before.Attends client id → id = reader)
    (eases : Eases client (before.modify reader (.wait true)) closed) (drained : closed.Drained) :
    Calms client before (closed.modify reader (.wait false)) ∧
      ∀ id, ¬ (closed.modify reader (.wait false)).Attends client id := by
  have overall := eases.trans
    (eases_modify client closed reader (.wait false) (fun _ running => running) nofun)
  have different {target : WorkspaceId}
      (waiting : ((closed.modify reader (.wait false)).activity target).waiting = true) :
      reader ≠ target :=
    closed.ne_of_activity_modify (.wait false) Activity.waiting rfl (fun _ => rfl) waiting
  have waiting (target : WorkspaceId)
      (waiting : ((closed.modify reader (.wait false)).activity target).waiting = true) :
      (before.activity target).waiting = true := by
    have begun := overall.waiting target waiting
    rw [activity_modify_of_ne before _ (different waiting)] at begun
    exact begun
  have unattended (target : WorkspaceId) :
      ¬ (closed.modify reader (.wait false)).Attends client target := by
    intro attends
    have begun := overall.attends target attends
    exact different attends.waiting
      (heard target ⟨begun.current, waiting target attends.waiting⟩).symm
  refine ⟨⟨⟨fun target running => ?_, waiting, fun target attends => ?_⟩,
    fun _ => drained.modify reader (.wait false) fun _ => rfl⟩, unattended⟩
  · have begun := overall.running target running
    rw [activity_modify_of_keeps before (.wait true) Activity.running fun _ => rfl] at begun
    exact begun
  · exact absurd attends (unattended target)

end Calms

end Roster

end Linewise.Session
