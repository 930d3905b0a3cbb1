import WechatBot.Discovery

/-!
# What a discovery knows of the directory

The rows that a transaction has found or made so far are those that `foundOf` and
`pendingOf` read off the committed directory. Every statement of the transaction keeps
this, and at the end the commit publishes `discovered`.
-/
namespace WechatBot.Discovery

open PyData Records

variable {ω : Type}

/-- The row to insert when there is none. -/
def missing {β : Type} (row : Option β) (new : β) : Option β := if row.isSome then none else some new

def roomOf (ids : DrawnIds) (e : DispatchedEvent) (db : Directory) : Chatroom :=
  (db.chatroom e.roomKey).getD (newChatroom ids e)

def nextMembership (ids : DrawnIds) (e : DispatchedEvent) (db : Directory) : ChatroomMembership :=
  newMembership ids e (some (roomOf ids e db)) (latestEpoch (db.memberships e.memberKey) + 1)

def activeRow (e : DispatchedEvent) (db : Directory) : Option ChatroomMembership :=
  activeMembership (db.memberships e.memberKey)

def principalOf (ids : DrawnIds) (e : DispatchedEvent) (db : Directory) : Principal :=
  ((db.principal e.principalKey).map activated).getD (newPrincipal ids e)

def foundOf (ids : DrawnIds) (e : DispatchedEvent) (db : Directory) : Found where
  chatroom := if e.isGroup then some (roomOf ids e db) else none
  membership := if e.isMember then some ((activeRow e db).getD (nextMembership ids e db)) else none
  contact := if e.isPrivate then some ((db.contact e.contactKey).getD (newContact ids e)) else none
  principal := if e.hasPrincipal then some (principalOf ids e db) else none

def pendingOf (ids : DrawnIds) (e : DispatchedEvent) (db : Directory) : Pending where
  chatroom := if e.isGroup then missing (db.chatroom e.roomKey) (newChatroom ids e) else none
  membership := if e.isMember then missing (activeRow e db) (nextMembership ids e db) else none
  contact := if e.isPrivate then missing (db.contact e.contactKey) (newContact ids e) else none
  principal := if e.hasPrincipal then some (principalOf ids e db) else none

/-- The directory after the commit of a discovery that nobody disturbs. -/
def discovered (ids : DrawnIds) (e : DispatchedEvent) (db : Directory) : Directory :=
  publish e (pendingOf ids e db) db

/-- The result of a dispatch that nobody disturbs. -/
def resultOf (σ : Setting ω) (i : Bool) (db : Directory) : Result ω :=
  .finished (foundOf (σ.ids i) (σ.event i) db) (σ.rest i (foundOf (σ.ids i) (σ.event i) db))

def directoryAfter (σ : Setting ω) (i : Bool) (db : Directory) : Directory :=
  match σ.rest i (foundOf (σ.ids i) (σ.event i) db) with
  | .ok _ => discovered (σ.ids i) (σ.event i) db
  | .error _ => db

def Phase.pastRoom : Phase ω → Bool
  | .selectChatroom | .lockAccount | .selectChatroomAgain | .insertChatroom => false
  | _ => true

def Phase.pastRows : Phase ω → Bool
  | .selectPrincipal | .activatePrincipal _ | .insertPrincipal | .rest => true
  | _ => false

def Phase.atRest : Phase ω → Bool
  | .rest => true
  | _ => false

/-- A row that is settled is the committed one or a new one of the transaction. -/
def Settled {β : Type} (settled : Bool) (found pending row : Option β) (new : β) : Prop :=
  match settled with
  | true => found = some (row.getD new) ∧ pending = missing row new
  | false => found = none ∧ pending = none

/-- The principal may have become active since it was read. -/
def PrincipalSettled (settled : Bool) (found pending row : Option Principal) (new : Principal) :
    Prop :=
  match settled with
  | true => found = some ((row.map activated).getD new) ∧
      (pending = some ((row.map activated).getD new) ∨
        pending = none ∧ ∃ p, row = some p ∧ p.active = true)
  | false => found = none ∧ pending = none

/-- What the next statement relies on. -/
def Here (e : DispatchedEvent) (db : Directory) (tx : Transaction ω) : Prop :=
  match tx.phase with
  | .selectChatroom | .lockAccount => e.isGroup = true ∧ tx.heldAccount = false
  | .selectChatroomAgain => e.isGroup = true ∧ tx.heldAccount = true
  | .insertChatroom => e.isGroup = true ∧ tx.heldAccount = true ∧ db.chatroom e.roomKey = none
  | .lockChatroom => e.isMember = true
  | .selectActive => e.isMember = true ∧ tx.heldRoom = true
  | .selectLatest => e.isMember = true ∧ tx.heldRoom = true ∧ activeRow e db = none
  | .insertMembership epoch => e.isMember = true ∧ tx.heldRoom = true ∧ activeRow e db = none ∧
      epoch = latestEpoch (db.memberships e.memberKey) + 1
  | .selectContact => e.isPrivate = true
  | .insertContact => e.isPrivate = true ∧ db.contact e.contactKey = none
  | .selectPrincipal => e.hasPrincipal = true
  | .activatePrincipal row => e.hasPrincipal = true ∧
      ∃ p, db.principal e.principalKey = some p ∧ activated p = activated row
  | .insertPrincipal => e.hasPrincipal = true ∧ db.principal e.principalKey = none
  | .rest => True
  | .ended _ => False

structure Facts (ids : DrawnIds) (e : DispatchedEvent) (db : Directory) (tx : Transaction ω) :
    Prop where
  room : Settled (tx.phase.pastRoom && e.isGroup) tx.found.chatroom tx.pending.chatroom
    (db.chatroom e.roomKey) (newChatroom ids e)
  member : Settled (tx.phase.pastRows && e.isMember) tx.found.membership tx.pending.membership
    (activeRow e db) (nextMembership ids e db)
  contact : Settled (tx.phase.pastRows && e.isPrivate) tx.found.contact tx.pending.contact
    (db.contact e.contactKey) (newContact ids e)
  principal : PrincipalSettled (tx.phase.atRest && e.hasPrincipal) tx.found.principal
    tx.pending.principal (db.principal e.principalKey) (newPrincipal ids e)
  roomLock : tx.heldRoom = true → tx.phase.pastRoom = true ∧ e.isGroup = true
  guarded : tx.phase.pastRoom = true → e.isGroup = true →
    (db.chatroom e.roomKey = none → tx.heldAccount = true) ∧
      (db.chatroom e.roomKey ≠ none → tx.heldRoom = true)
  here : Here e db tx

theorem isGroup_of_isMember {e : DispatchedEvent} (h : e.isMember = true) : e.isGroup = true := by
  simp only [DispatchedEvent.isMember, decide_eq_true_eq] at h
  exact h.1

theorem isPrivate_of_isGroup {e : DispatchedEvent} (h : e.isGroup = true) : e.isPrivate = false := by
  simp only [DispatchedEvent.isGroup, decide_eq_true_eq] at h
  simp [DispatchedEvent.isPrivate, h.1]

theorem isMember_of_isPrivate {e : DispatchedEvent} (h : e.isPrivate = true) : e.isMember = false := by
  cases hmember : e.isMember with
  | false => rfl
  | true =>
    rw [isPrivate_of_isGroup (isGroup_of_isMember hmember)] at h
    cases h

theorem hasPrincipal_of_isMember {e : DispatchedEvent} (h : e.isMember = true) :
    e.hasPrincipal = true := by
  simp [DispatchedEvent.hasPrincipal, h]

theorem hasPrincipal_of_isPrivate {e : DispatchedEvent} (h : e.isPrivate = true) :
    e.hasPrincipal = true := by
  simp [DispatchedEvent.hasPrincipal, h]

theorem latestEpoch_le {rows : List ChatroomMembership} {row : ChatroomMembership} (h : row ∈ rows) :
    row.membershipEpoch ≤ latestEpoch rows := by
  induction rows with
  | nil => cases h
  | cons first rows ih =>
    rcases List.mem_cons.mp h with rfl | h
    · exact Nat.le_max_left _ _
    · exact Nat.le_trans (ih h) (Nat.le_max_right _ _)

/-- The next epoch is free. -/
theorem epoch_free (rows : List ChatroomMembership) :
    latestEpoch rows + 1 ∉ rows.map (·.membershipEpoch) := by
  intro hmem
  obtain ⟨row, hrow, hepoch⟩ := List.mem_map.mp hmem
  have := latestEpoch_le hrow
  omega

theorem facts_begun (ids : DrawnIds) (e : DispatchedEvent) (db : Directory) :
    Facts ids e db (begun e : Transaction ω) := by
  unfold begun firstPhase
  by_cases hgroup : e.isGroup = true
  · rw [if_pos hgroup]
    exact ⟨⟨rfl, rfl⟩, ⟨rfl, rfl⟩, ⟨rfl, rfl⟩, ⟨rfl, rfl⟩, nofun, nofun, hgroup, rfl⟩
  · rw [if_neg hgroup]
    have hmember : e.isMember = false := by
      cases hmember : e.isMember with
      | false => rfl
      | true => exact absurd (isGroup_of_isMember hmember) hgroup
    have hroom : e.isGroup = false := by simpa using hgroup
    by_cases hprivate : e.isPrivate = true
    · rw [if_pos hprivate]
      refine ⟨?_, ⟨rfl, rfl⟩, ⟨rfl, rfl⟩, ⟨rfl, rfl⟩, nofun, fun _ h => absurd h hgroup, hprivate⟩
      simp only [Phase.pastRoom, hroom]
      exact ⟨rfl, rfl⟩
    · rw [if_neg hprivate]
      have hcontact : e.isPrivate = false := by simpa using hprivate
      have hprincipal : e.hasPrincipal = false := by
        simp [DispatchedEvent.hasPrincipal, hmember, hcontact]
      refine ⟨?_, ?_, ?_, ?_, nofun, fun _ h => absurd h hgroup, trivial⟩
      · simp only [Phase.pastRoom, hroom]
        exact ⟨rfl, rfl⟩
      · simp only [Phase.pastRows, hmember]
        exact ⟨rfl, rfl⟩
      · simp only [Phase.pastRows, hcontact]
        exact ⟨rfl, rfl⟩
      · simp only [Phase.atRest, hprincipal]
        exact ⟨rfl, rfl⟩

end WechatBot.Discovery
