import WechatBot.Records
import WechatBot.Runs

/-!
# Two dispatches that discover directory rows

`_resolve_context` statement by statement, in two concurrent transactions. A statement
reads what is committed and what its own transaction has written. A lock that the other
transaction holds, and a uncommitted row of it with the same unique key, make a statement
wait; a committed row with that key makes an INSERT fail.
-/
namespace WechatBot.Discovery

open PyData Records

inductive ConversationType where
  | PRIVATE | GROUP | SYSTEM | UNKNOWN
  deriving DecidableEq, Repr

/-- An event with the account and the workspace that its dispatch has read first. -/
structure DispatchedEvent where
  accountId : UUID
  workspaceId : UUID
  conversationType : ConversationType
  conversationId : Option Str
  actorWxid : Option Str
  deriving DecidableEq, Repr

abbrev RoomKey := UUID × Str
abbrev MemberKey := RoomKey × Str
abbrev ContactKey := UUID × Str
abbrev PrincipalKey := UUID × PrincipalType × Str

namespace DispatchedEvent

/-- None and the empty text are both false. -/
def conversation (e : DispatchedEvent) : Str := e.conversationId.getD []
def actor (e : DispatchedEvent) : Str := e.actorWxid.getD []
def externalId (e : DispatchedEvent) : Str := if e.actor ≠ [] then e.actor else e.conversation

def isGroup (e : DispatchedEvent) : Bool := e.conversationType = .GROUP ∧ e.conversation ≠ []
def isPrivate (e : DispatchedEvent) : Bool := e.conversationType = .PRIVATE ∧ e.conversation ≠ []
def isMember (e : DispatchedEvent) : Bool := e.isGroup ∧ e.actor ≠ []
def hasPrincipal (e : DispatchedEvent) : Bool := e.isMember ∨ e.isPrivate

def roomKey (e : DispatchedEvent) : RoomKey := (e.accountId, e.conversation)
def memberKey (e : DispatchedEvent) : MemberKey := (e.roomKey, e.actor)
def contactKey (e : DispatchedEvent) : ContactKey := (e.accountId, e.externalId)
def principalKey (e : DispatchedEvent) : PrincipalKey :=
  if e.isGroup then (e.workspaceId, .GROUP_MEMBER, e.actor)
  else (e.workspaceId, .CONTACT, e.externalId)

end DispatchedEvent

/-- The committed rows by their unique keys; the memberships of a member of a chatroom are
told apart by their epochs. -/
structure Directory where
  chatroom : RoomKey → Option Chatroom
  memberships : MemberKey → List ChatroomMembership
  contact : ContactKey → Option Contact
  principal : PrincipalKey → Option Principal

def activeMembership (rows : List ChatroomMembership) : Option ChatroomMembership :=
  rows.find? fun row => row.leftAt.isNone

/-- `max(membership_epoch)`, 0 without rows. -/
def latestEpoch (rows : List ChatroomMembership) : Nat :=
  (rows.map (·.membershipEpoch)).foldr max 0

/-- The primary keys that a transaction draws for its new rows. -/
structure DrawnIds where
  chatroom : UUID
  membership : UUID
  contact : UUID
  principal : UUID

/-- The rows that the transaction has found or made: the context of its event. -/
structure Found where
  chatroom : Option Chatroom
  membership : Option ChatroomMembership
  contact : Option Contact
  principal : Option Principal
  deriving DecidableEq, Repr

/-- The uncommitted rows of a transaction. -/
structure Pending where
  chatroom : Option Chatroom
  membership : Option ChatroomMembership
  contact : Option Contact
  principal : Option Principal
  deriving DecidableEq, Repr

def newChatroom (ids : DrawnIds) (e : DispatchedEvent) : Chatroom :=
  ⟨ids.chatroom, e.accountId, e.conversation⟩

def newMembership (ids : DrawnIds) (e : DispatchedEvent) (room : Option Chatroom) (epoch : Nat) :
    ChatroomMembership :=
  ⟨ids.membership, (room.map (·.id)).getD ids.chatroom, e.actor, epoch, none⟩

def newContact (ids : DrawnIds) (e : DispatchedEvent) : Contact :=
  ⟨ids.contact, e.accountId, e.externalId, true⟩

def newPrincipal (ids : DrawnIds) (e : DispatchedEvent) : Principal :=
  ⟨ids.principal, e.principalKey.1, e.principalKey.2.1, e.principalKey.2.2, true⟩

def activated (row : Principal) : Principal := { row with active := true }

/-- How a dispatch ends: the rest of it answers or raises, or an INSERT broke a unique
constraint. -/
inductive Result (ω : Type) where
  | finished (found : Found) (answer : Except String ω)
  | integrityError

/-- The statement that comes next. -/
inductive Phase (ω : Type) where
  | selectChatroom
  | lockAccount
  | selectChatroomAgain
  | insertChatroom
  | lockChatroom
  | selectActive
  | selectLatest
  | insertMembership (epoch : Nat)
  | selectContact
  | insertContact
  | selectPrincipal
  | activatePrincipal (row : Principal)
  | insertPrincipal
  | rest
  | ended (result : Result ω)

structure Transaction (ω : Type) where
  phase : Phase ω
  found : Found
  pending : Pending
  heldAccount : Bool
  heldRoom : Bool

def nothingFound : Found := ⟨none, none, none, none⟩
def nothingPending : Pending := ⟨none, none, none, none⟩

/-- The two events, the keys their transactions draw, and what the rest of each dispatch
does with its context: it is committed with an answer, or rolled back by an exception. -/
structure Setting (ω : Type) where
  event : Bool → DispatchedEvent
  ids : Bool → DrawnIds
  rest : Bool → Found → Except String ω

variable {ω : Type}

structure World (ω : Type) where
  directory : Directory
  tx : Bool → Transaction ω

def firstPhase (e : DispatchedEvent) : Phase ω :=
  if e.isGroup then .selectChatroom else if e.isPrivate then .selectContact else .rest

def begun (e : DispatchedEvent) : Transaction ω := ⟨firstPhase e, nothingFound, nothingPending, false, false⟩

/-- A transaction that has ended holds no lock and no uncommitted row. -/
def endedWith (result : Result ω) : Transaction ω :=
  ⟨.ended result, nothingFound, nothingPending, false, false⟩

def start (σ : Setting ω) (db : Directory) : World ω := ⟨db, fun i => begun (σ.event i)⟩

def World.to (w : World ω) (i : Bool) (tx : Transaction ω) : World ω :=
  { w with tx := Function.update w.tx i tx }

/-- The other transaction holds the lock of the account. -/
def accountTaken (σ : Setting ω) (w : World ω) (i : Bool) : Bool :=
  (w.tx !i).heldAccount ∧ (σ.event !i).accountId = (σ.event i).accountId

def roomTaken (σ : Setting ω) (w : World ω) (i : Bool) : Bool :=
  (w.tx !i).heldRoom ∧ (σ.event !i).roomKey = (σ.event i).roomKey

def chatroomPending (σ : Setting ω) (w : World ω) (i : Bool) : Bool :=
  (w.tx !i).pending.chatroom.isSome ∧ (σ.event !i).roomKey = (σ.event i).roomKey

def membershipPending (σ : Setting ω) (w : World ω) (i : Bool) (epoch : Nat) : Bool :=
  (w.tx !i).pending.membership.map (·.membershipEpoch) = some epoch ∧
    (σ.event !i).memberKey = (σ.event i).memberKey

def contactPending (σ : Setting ω) (w : World ω) (i : Bool) : Bool :=
  (w.tx !i).pending.contact.isSome ∧ (σ.event !i).contactKey = (σ.event i).contactKey

/-- The other transaction has inserted the principal or updates it. -/
def principalPending (σ : Setting ω) (w : World ω) (i : Bool) : Bool :=
  (w.tx !i).pending.principal.isSome ∧ (σ.event !i).principalKey = (σ.event i).principalKey

/-- An INSERT. -/
def insertRow (w : World ω) (i : Bool) (waits taken : Bool) (inserted : Transaction ω) :
    Option (World ω) :=
  if waits then none
  else some (w.to i (if taken then endedWith .integrityError else inserted))

/-- The transaction has its chatroom. -/
def roomed (e : DispatchedEvent) (tx : Transaction ω) (room : Chatroom) : Transaction ω :=
  { tx with
    phase := if e.isMember then .lockChatroom else .rest
    found := { tx.found with chatroom := some room } }

def joined (tx : Transaction ω) (row : ChatroomMembership) : Transaction ω :=
  { tx with phase := .selectPrincipal, found := { tx.found with membership := some row } }

def contacted (tx : Transaction ω) (row : Contact) : Transaction ω :=
  { tx with phase := .selectPrincipal, found := { tx.found with contact := some row } }

def identified (tx : Transaction ω) (row : Principal) : Transaction ω :=
  { tx with phase := .rest, found := { tx.found with principal := some row } }

def fill {κ β : Type} [DecidableEq κ] (rows : κ → Option β) (key : κ) : Option β → κ → Option β
  | none => rows
  | some row => Function.update rows key (some row)

def addMembership (rows : MemberKey → List ChatroomMembership) (key : MemberKey) :
    Option ChatroomMembership → MemberKey → List ChatroomMembership
  | none => rows
  | some row => Function.update rows key (rows key ++ [row])

/-- The commit of the uncommitted rows. -/
def publish (e : DispatchedEvent) (pending : Pending) (db : Directory) : Directory where
  chatroom := fill db.chatroom e.roomKey pending.chatroom
  memberships := addMembership db.memberships e.memberKey pending.membership
  contact := fill db.contact e.contactKey pending.contact
  principal := fill db.principal e.principalKey pending.principal

/-- The next statement of a transaction; `none` while it waits, and when it has ended. -/
def step (σ : Setting ω) (w : World ω) (i : Bool) : Option (World ω) :=
  let e := σ.event i
  let ids := σ.ids i
  let tx := w.tx i
  let db := w.directory
  match tx.phase with
  | .selectChatroom =>
    match db.chatroom e.roomKey with
    | none => some (w.to i { tx with phase := .lockAccount })
    | some room =>
      if roomTaken σ w i then none else some (w.to i { roomed e tx room with heldRoom := true })
  | .lockAccount =>
    if accountTaken σ w i then none
    else some (w.to i { tx with phase := .selectChatroomAgain, heldAccount := true })
  | .selectChatroomAgain =>
    match db.chatroom e.roomKey with
    | none => some (w.to i { tx with phase := .insertChatroom })
    | some room =>
      if roomTaken σ w i then none else some (w.to i { roomed e tx room with heldRoom := true })
  | .insertChatroom =>
    let room := newChatroom ids e
    insertRow w i (chatroomPending σ w i) (db.chatroom e.roomKey).isSome
      { roomed e tx room with pending := { tx.pending with chatroom := some room } }
  | .lockChatroom =>
    -- the row is there: it is committed, or the transaction's own
    if roomTaken σ w i then none
    else some (w.to i { tx with phase := .selectActive, heldRoom := true })
  | .selectActive =>
    match activeMembership (db.memberships e.memberKey) with
    | some row => some (w.to i (joined tx row))
    | none => some (w.to i { tx with phase := .selectLatest })
  | .selectLatest =>
    let epoch := latestEpoch (db.memberships e.memberKey) + 1
    some (w.to i { tx with phase := .insertMembership epoch })
  | .insertMembership epoch =>
    let row := newMembership ids e tx.found.chatroom epoch
    let epochs := (db.memberships e.memberKey).map (·.membershipEpoch)
    insertRow w i (membershipPending σ w i epoch) (decide (epoch ∈ epochs))
      { joined tx row with pending := { tx.pending with membership := some row } }
  | .selectContact =>
    match db.contact e.contactKey with
    | some row => some (w.to i (contacted tx row))
    | none => some (w.to i { tx with phase := .insertContact })
  | .insertContact =>
    let row := newContact ids e
    insertRow w i (contactPending σ w i) (db.contact e.contactKey).isSome
      { contacted tx row with pending := { tx.pending with contact := some row } }
  | .selectPrincipal =>
    match db.principal e.principalKey with
    | none => some (w.to i { tx with phase := .insertPrincipal })
    | some row =>
      -- a flush without a change writes nothing
      some (w.to i (if row.active then identified tx row
        else { tx with phase := .activatePrincipal row }))
  | .activatePrincipal row =>
    if principalPending σ w i then none
    else some (w.to i { identified tx (activated row) with
      pending := { tx.pending with principal := some (activated row) } })
  | .insertPrincipal =>
    let row := newPrincipal ids e
    insertRow w i (principalPending σ w i) (db.principal e.principalKey).isSome
      { identified tx row with pending := { tx.pending with principal := some row } }
  | .rest =>
    let answer := σ.rest i tx.found
    some { w.to i (endedWith (.finished tx.found answer)) with
      directory := match answer with
        | .ok _ => publish e tx.pending db
        | .error _ => db }
  | .ended _ => none

def ended (w : World ω) (i : Bool) : Prop := ∃ result, (w.tx i).phase = .ended result

/-- One transaction after the other leads to the same rows and the same results. -/
def Serial (σ : Setting ω) (db : Directory) (w : World ω) : Prop :=
  ∃ i n m w', Runs.run (step σ) (start σ db) (List.replicate n i ++ List.replicate m !i) = some w' ∧
    w'.directory = w.directory ∧ ∀ k, (w'.tx k).phase = (w.tx k).phase

/-- Every interleaving is finite, never fails by a unique constraint and never gets stuck,
and ends as a serial execution. -/
def Serializable (σ : Setting ω) (db : Directory) : Prop :=
  ∀ as w, Runs.run (step σ) (start σ db) as = some w →
    as.length ≤ 22 ∧ (∀ i, (w.tx i).phase ≠ .ended .integrityError) ∧
      ((∃ i, ¬ ended w i) → ∃ i, (step σ w i).isSome = true) ∧
      ((∀ i, ended w i) → Serial σ db w)

end WechatBot.Discovery
