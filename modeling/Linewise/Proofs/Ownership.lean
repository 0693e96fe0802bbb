import Linewise.Proofs.Lasting
import Linewise.Proofs.Text

/-!
The tables of sessions. In every state that steps of clients lead to, each active session has a
workspace that was made for it, no two clients have the same session, and the tables agree on which
sessions there are.
-/

namespace Linewise.Session.Server

/-! ## Owners -/

def owner? (server : Server) (id : WorkspaceId) : Option Text :=
  (server.workspace? id).map Workspace.session

def Owned (server : Server) : Prop :=
  ∀ session id, server.active.find? session = some id → server.owner? id = some session

theorem owner?_modifyWorkspace (server : Server) (id target : WorkspaceId)
    {change : Workspace → Workspace}
    (keeps : ∀ workspace, (change workspace).session = workspace.session) :
    (server.modifyWorkspace id change).owner? target = server.owner? target := by
  rw [owner?, owner?, workspace?_modifyWorkspace]
  split
  · cases server.workspace? target with
    | none => rfl
    | some workspace => exact congrArg some (keeps workspace)
  · rfl

theorem lt_size_of_owner? {server : Server} {session : Text} {id : WorkspaceId}
    (owner : server.owner? id = some session) : id < server.workspaces.size := by
  rcases Option.map_eq_some_iff.mp owner with ⟨workspace, found, _⟩
  exact (Array.getElem?_eq_some_iff.mp found).1

namespace Owned

variable {server : Server} (owned : server.Owned)

include owned

theorem ne {session other : Text} {id target : WorkspaceId} (different : other ≠ session)
    (here : server.active.find? session = some id)
    (found : server.active.find? other = some target) : id ≠ target := by
  rintro rfl
  have owner := owned other id found
  rw [owned session id here] at owner
  exact different (Option.some.inj owner).symm

theorem renew (session : Text) : (server.renewWorkspace session).2.Owned := by
  intro other id found
  have found : (server.active.insert session server.workspaces.size).find? other = some id := found
  rw [Table.find?_insert] at found
  rw [owner?, workspace?_renewWorkspace]
  by_cases same : session = other
  · rw [if_pos same] at found
    cases found
    rw [if_pos rfl, same]
    rfl
  · rw [if_neg same] at found
    rw [if_neg (Nat.ne_of_lt (lt_size_of_owner? (owned other id found)))]
    exact owned other id found

end Owned

theorem lasting_owned : Lasting (fun _ => True) Owned where
  unseen _ _ _ _ _ _ owned := owned
  modify id change session _ server owned := by
    intro other target found
    rw [owner?_modifyWorkspace server id target session]
    exact owned other target found
  machine _ _ _ _ := trivial
  renew owned session _ _ := owned.renew session
  enlist owned _ _ _ := owned
  enroll client server owned := by
    have known : { server with
        sessions := server.sessions + 1
        clients := server.clients.insert client (sessionName (server.sessions + 1)) }.Owned := owned
    exact known.renew (sessionName (server.sessions + 1))
  dismiss session server owned := by
    intro other id found
    have found : (server.active.erase session).find? other = some id := found
    rw [Table.find?_erase] at found
    split at found
    · cases found
    · exact owned other id found
  clear _ _ _ found := by cases found

/-! ## Numbers -/

/-- The sessions of the clients are numbered, and no two clients have the same. -/
structure Numbered (server : Server) : Prop where
  known {client session : Text} : server.clients.find? client = some session →
    ∃ number ≤ server.sessions, session = sessionName number
  distinct {client other session : Text} : server.clients.find? client = some session →
    server.clients.find? other = some session → client = other

theorem sessionName_injective : Function.Injective sessionName := fun _ _ same =>
  Text.ofNat_injective (List.append_cancel_left same)

theorem Numbered.enroll {server : Server} (numbered : server.Numbered) (client : Text) :
    (server.admitted client).Numbered := by
  have clients : (server.admitted client).clients =
    server.clients.insert client (sessionName (server.sessions + 1)) := rfl
  have fresh (other : Text) : server.clients.find? other ≠
      some (sessionName (server.sessions + 1)) := by
    intro found
    rcases numbered.known found with ⟨number, bound, same⟩
    have equal := sessionName_injective same
    omega
  constructor
  · intro other session found
    rw [clients, Table.find?_insert] at found
    split at found
    · cases found
      exact ⟨_, Nat.le_refl _, rfl⟩
    · rcases numbered.known found with ⟨number, bound, same⟩
      exact ⟨number, Nat.le_succ_of_le bound, same⟩
  · intro first second session found same
    rw [clients, Table.find?_insert] at found same
    split at found
    · next here =>
        cases found
        split at same
        · next there => exact here.symm.trans there
        · exact absurd same (fresh second)
    · split at same
      · cases same
        exact absurd found (fresh first)
      · exact numbered.distinct found same

theorem lasting_numbered : Lasting (fun _ => True) Numbered where
  unseen _ _ _ _ _ _ numbered := ⟨numbered.known, numbered.distinct⟩
  modify _ _ _ _ _ numbered := ⟨numbered.known, numbered.distinct⟩
  machine _ _ _ _ := trivial
  renew numbered _ _ _ := ⟨numbered.known, numbered.distinct⟩
  enlist numbered _ _ _ := ⟨numbered.known, numbered.distinct⟩
  enroll client _ numbered := numbered.enroll client
  dismiss _ _ numbered := ⟨numbered.known, numbered.distinct⟩
  clear numbered := ⟨numbered.known, numbered.distinct⟩

/-! ## Agreement -/

/-- The active sessions are those that are registered, and only they have run programs. -/
structure Matched (server : Server) : Prop where
  registered (session : Text) :
    server.active.contains session = server.registered.contains session
  threads : ∀ session ∈ server.threads, server.active.contains session = true

theorem Matched.renew {server : Server} (matched : server.Matched) {session : Text}
    {id : WorkspaceId} (here : server.active.find? session = some id) :
    (server.renewWorkspace session).2.Matched := by
  have keys (other : Text) : (server.renewWorkspace session).2.active.contains other =
      server.active.contains other := by
    refine (Table.contains_insert _ _ _ _).trans ?_
    by_cases equal : session = other
    · simp [← equal, Table.contains_of_find? here]
    · simp [equal]
  constructor
  · intro other
    rw [keys]
    exact matched.registered other
  · intro other member
    rw [keys]
    exact matched.threads other member

theorem lasting_matched : Lasting (fun _ => True) Matched where
  unseen _ _ _ _ _ _ matched := ⟨matched.registered, matched.threads⟩
  modify _ _ _ _ _ matched := ⟨matched.registered, matched.threads⟩
  machine _ _ _ _ := trivial
  renew matched _ _ here := matched.renew here
  enlist matched _ _ here :=
    ⟨matched.registered, List.forall_mem_cons.mpr ⟨Table.contains_of_find? here, matched.threads⟩⟩
  enroll client server matched := by
    constructor
    · intro other
      simp only [admitted, renewWorkspace, reply, send, Table.contains_insert,
        matched.registered other]
    · intro other member
      simp only [admitted, renewWorkspace, reply, send, Table.contains_insert]
      rw [matched.threads other member, Bool.or_true]
  dismiss session server matched := by
    constructor
    · intro other
      simp only [Table.contains_erase, matched.registered other]
    · intro other member
      rcases List.mem_filter.mp member with ⟨member, different⟩
      have different : session ≠ other := fun same => of_decide_eq_true different same.symm
      simp only [Table.contains_erase, matched.threads other member, different, decide_false,
        Bool.not_false, Bool.and_self]
  clear _ := ⟨fun _ => rfl, nofun⟩

/-! ## Reachable states -/

namespace Reachable

variable {draws : List Nat} {server : Server} (reachable : Reachable draws server)

include reachable

theorem owned : server.Owned :=
  lasting_owned.reachable Machine.lasting_true nofun reachable

theorem numbered : server.Numbered :=
  lasting_numbered.reachable Machine.lasting_true ⟨nofun, nofun⟩ reachable

theorem matched : server.Matched :=
  lasting_matched.reachable Machine.lasting_true ⟨fun _ => rfl, nofun⟩ reachable

end Reachable

end Linewise.Session.Server
