import Mathlib.Data.Fintype.Basic
import WechatBot.Runs
import WechatBot.Sender

/-!
# Senders and administrators at work

Any number of `_process_account` tasks over one outbox, of any number of workers,
interleaved transaction by transaction with lease recovery, manual operations, new
messages and the transactions that take an authorization away. A row lock is held
by whoever's phase says so; an action that would have to wait for one is not
possible in the state.
-/
namespace WechatBot.SenderSystem

open PyData Records OutboxState OutboxService GeweErrors Policy Sender Runs
open Tables (Table)

/-- Where a task stands. From `guarded` to `leaving` its guard session holds the shared
fence of the workspace, if the message names one. -/
inductive Phase where
  | idle
  | accountLocked (accountId : UUID) (now : Time)
  | counted (accountId : UUID) (now : Time)
  | claimed (claim : ClaimedMessage)
  | delayed (claim : ClaimedMessage) (delay : Int)
  | paced (claim : ClaimedMessage)
  | guarded (messageId : UUID) (fence : Option UUID)
  | prepared (send : PreparedSend) (fence : Option UUID)
  | posting (send : PreparedSend) (fence : Option UUID) (call : Nat)
  | posted (send : PreparedSend) (fence : Option UUID) (outcome : PostOutcome)
  | leaving (fence : Option UUID)
  deriving DecidableEq, Repr

/-- The account row that an open claim transaction holds. -/
def Phase.lockedAccount : Phase → Option UUID
  | .accountLocked accountId _ => some accountId
  | .counted accountId _ => some accountId
  | _ => none

/-- The workspace whose fence the guard session holds in shared mode. -/
def Phase.sharedFence : Phase → Option UUID
  | .guarded _ fence => fence
  | .prepared _ fence => fence
  | .posting _ fence _ => fence
  | .posted _ fence _ => fence
  | .leaving fence => fence
  | _ => none

/-- The send that is between its acceptance and the end of its call. -/
def Phase.window : Phase → Option PreparedSend
  | .prepared send _ => some send
  | .posting send _ _ => some send
  | _ => none

/-- The send whose `post_text` call is running. -/
def Phase.inCall : Phase → Option PreparedSend
  | .posting send _ _ => some send
  | _ => none

/-- The transactions that can take an authorization away. -/
inductive Revocation where
  | revokeRule (ruleId : UUID) (revokedBy : Str)
  | createRule (rule : AclRule)
  | deactivate (deploymentId : UUID)
  | activateRevision (deploymentId revisionId : UUID)
  | setDisabled (accountId : UUID) (disabled : Bool)
  | changeStatus (connectionId : UUID) (status : ConnectionStatus)
  | markMembershipLeft (chatroomId membershipId : UUID) (membershipEpoch : Nat)
  deriving DecidableEq, Repr

/-- The workspace of the transaction's object, if the object exists. -/
def Revocation.workspace (around : Surroundings) : Revocation → Option UUID
  | .revokeRule ruleId _ =>
    (around.rules.find? fun rule => decide (rule.id = ruleId)).map (·.workspaceId)
  | .createRule rule => some rule.workspaceId
  | .deactivate deploymentId => (around.deployment deploymentId).map (·.workspaceId)
  | .activateRevision deploymentId _ => (around.deployment deploymentId).map (·.workspaceId)
  | .setDisabled accountId _ => around.workspaceOf accountId
  | .changeStatus connectionId _ => (around.geweConnection connectionId).map (·.workspaceId)
  | .markMembershipLeft chatroomId _ _ => do
    let chatroom ← around.chatroom chatroomId
    around.workspaceOf chatroom.botAccountId

/-- Whether the transaction locks the workspace's fence exclusively before it commits. -/
def Revocation.takesFence : Revocation → Bool
  | .markMembershipLeft _ _ _ => false
  | _ => true

/-- The membership that `mark_membership_left` ends; `none` when it raises. -/
def departing (around : Surroundings) (chatroomId membershipId : UUID) (membershipEpoch : Nat) :
    Option ChatroomMembership := do
  let membership ← around.memberships.find? fun m =>
    decide (m.id = membershipId) && decide (m.chatroomId = chatroomId)
  let active := activeMemberships around chatroomId membership.memberWxid
  let current ← active.find? fun m =>
    active.all fun other => decide (other.membershipEpoch ≤ m.membershipEpoch)
  if membership.leftAt.isSome ∨ membership.membershipEpoch ≠ membershipEpoch ∨
      current.id ≠ membership.id then none
  else return membership

/-- The transaction commits without a fence: it takes none and does not raise. -/
def Revocation.commitsUnfenced (around : Surroundings) : Revocation → Bool
  | .markMembershipLeft chatroomId membershipId membershipEpoch =>
    (departing around chatroomId membershipId membershipEpoch).isSome
  | _ => false

inductive AdminPhase where
  | idle
  | opened (revocation : Revocation)
  | fenced (revocation : Revocation) (workspaceId : UUID)
  deriving DecidableEq, Repr

def AdminPhase.exclusiveFence : AdminPhase → Option UUID
  | .fenced _ workspaceId => some workspaceId
  | _ => none

/-- The transaction that is open without a fence. -/
def AdminPhase.unfenced : AdminPhase → Option Revocation
  | .opened revocation => some revocation
  | _ => none

def saveAccount (around : Surroundings) (account : BotAccount) : Surroundings :=
  { around with botAccount := Function.update around.botAccount account.id (some account) }

def saveConnection (around : Surroundings) (connection : GeweConnection) : Surroundings :=
  { around with
    geweConnection := Function.update around.geweConnection connection.id (some connection) }

def saveDeployment (around : Surroundings) (deployment : PluginDeployment) : Surroundings :=
  { around with deployment := Function.update around.deployment deployment.id (some deployment) }

/-- The rows after the commit of a revocation. -/
def Revocation.apply (now : Time) (around : Surroundings) : Revocation → Surroundings
  | .revokeRule ruleId revokedBy =>
    { around with rules := around.rules.map fun rule =>
        if rule.id = ruleId ∧ rule.revokedAt = none then
          { rule with revokedAt := some now, revokedBy := some revokedBy }
        else rule }
  | .createRule rule => { around with rules := around.rules ++ [rule] }
  | .deactivate deploymentId =>
    match around.deployment deploymentId with
    | none => around
    | some deployment =>
      saveDeployment around { deployment with
        id := deploymentId, activeRevisionId := none, status := .STOPPED }
  | .activateRevision deploymentId revisionId =>
    match around.deployment deploymentId with
    | none => around
    | some deployment =>
      saveDeployment around { deployment with
        id := deploymentId, activeRevisionId := some revisionId, status := .RUNNING
        lastError := none }
  | .setDisabled accountId disabled =>
    match around.botAccount accountId with
    | none => around
    | some account =>
      saveAccount around { account with
        id := accountId
        status := if disabled then .DISABLED else .OFFLINE
        pendingLoginUuid := if disabled then none else account.pendingLoginUuid
        qrExpiresAt := if disabled then none else account.qrExpiresAt }
  | .changeStatus connectionId status =>
    match around.geweConnection connectionId with
    | none => around
    | some connection =>
      saveConnection around { connection with id := connectionId, status := status }
  | .markMembershipLeft chatroomId membershipId membershipEpoch =>
    match departing around chatroomId membershipId membershipEpoch with
    | none => around
    | some membership =>
      { around with memberships := around.memberships.map fun m =>
          if m ∈ activeMemberships around chatroomId membership.memberWxid then
            { m with leftAt := some now }
          else m }

/-- A change that another transaction of the program commits. No code moves an account
to another connection, a chatroom to another account, or a connection, a deployment or
a rule to another workspace. -/
inductive RowChange where
  | account (row : BotAccount)
  | connection (row : GeweConnection)
  | deployment (row : PluginDeployment)
  | revision (row : PluginDeploymentRevision)
  | chatroom (row : Chatroom)
  | contact (row : Contact)
  | people (principal : UUID → Option Principal) (memberships : List ChatroomMembership)
  | policy (rules : List AclRule) (policyVersion : UUID → Option Nat)

def saveIf (allowed : Bool) (around : Surroundings) : Option Surroundings :=
  if allowed then some around else none

def RowChange.apply (around : Surroundings) : RowChange → Option Surroundings
  | .account row =>
    saveIf ((around.botAccount row.id).all fun old =>
      decide (row.geweConnectionId = old.geweConnectionId)) (saveAccount around row)
  | .connection row =>
    saveIf ((around.geweConnection row.id).all fun old =>
      decide (row.workspaceId = old.workspaceId)) (saveConnection around row)
  | .deployment row =>
    saveIf ((around.deployment row.id).all fun old =>
      decide (row.workspaceId = old.workspaceId)) (saveDeployment around row)
  | .revision row =>
    some { around with revision := Function.update around.revision row.id (some row) }
  | .chatroom row =>
    saveIf ((around.chatroom row.id).all fun old => decide (row.botAccountId = old.botAccountId))
      { around with chatroom := Function.update around.chatroom row.id (some row) }
  | .contact row => some { around with contact := Function.update around.contact row.id (some row) }
  | .people principal memberships =>
    some { around with principal := principal, memberships := memberships }
  | .policy rules policyVersion =>
    saveIf (around.rules.all fun old =>
      (rules.find? fun rule => decide (rule.id = old.id)).any fun rule =>
        decide (rule.workspaceId = old.workspaceId))
      { around with rules := rules, policyVersion := policyVersion }

/-- One `post_text` call; the outcome is missing while it runs, and for ever when its
worker died. -/
structure PostCall where
  send : PreparedSend
  outcome : Option PostOutcome
  deriving DecidableEq, Repr

structure World (ι κ : Type) where
  outbox : Outbox
  around : Surroundings
  pipeline : ι → Phase
  calls : List PostCall
  admin : κ → AdminPhase

inductive Action (ι κ : Type) where
  | enqueue (request : EnqueueRequest) (now : Time) (id : UUID)
  | recoverExpiredLeases (now : Time) (ids : List UUID)
  | cancelMessage (messageId : UUID) (reason : Str) (now : Time)
  | reconcileUnknown (messageId : UUID) (resolution : OutboxStatus) (reason : Str) (now : Time)
  | lockAccount (i : ι) (accountId : UUID) (now : Time)
  | countInFlight (i : ι)
  | claimNext (i : ι) (locked : UUID → Bool)
  | respectRateLimit (i : ι) (now : Time) (groupInterval : Int)
  | extendClaimLease (i : ι) (now : Time)
  | authorizationGuard (i : ι)
  | prepareSend (i : ι) (now policyNow : Time)
  | startPost (i : ι)
  | failBeforePost (i : ι) (outcome : PostOutcome)
  | endPost (i : ι) (outcome : PostOutcome)
  | finish (i : ι) (now : Time) (jitter : Int)
  | leaveGuard (i : ι)
  | crash (i : ι)
  | beginRevocation (k : κ) (revocation : Revocation)
  | lockFence (k : κ)
  | commitRevocation (k : κ) (now : Time)
  | rollbackRevocation (k : κ)
  | change (change : RowChange)

variable {ι κ : Type} [DecidableEq ι] [DecidableEq κ]

def World.moveTo (w : World ι κ) (i : ι) (phase : Phase) : World ι κ :=
  { w with pipeline := Function.update w.pipeline i phase }

def World.adminTo (w : World ι κ) (k : κ) (phase : AdminPhase) : World ι κ :=
  { w with admin := Function.update w.admin k phase }

/-- No claim transaction holds the account's row. -/
def World.AccountFree (w : World ι κ) (accountId : UUID) : Prop :=
  ∀ i, (w.pipeline i).lockedAccount ≠ some accountId

def World.SharedFree (w : World ι κ) (workspaceId : UUID) : Prop :=
  ∀ k, (w.admin k).exclusiveFence ≠ some workspaceId

def World.ExclusiveFree (w : World ι κ) (workspaceId : UUID) : Prop :=
  (∀ i, (w.pipeline i).sharedFence ≠ some workspaceId) ∧ w.SharedFree workspaceId

/-- The account row of a message, which the joined row lock takes too, is free. -/
def World.RowsFree (w : World ι κ) (messageId : UUID) : Prop :=
  ∀ accountId, (w.outbox.find messageId).map (·.botAccountId) = some accountId →
    w.AccountFree accountId

/-- The fence that `_authorization_guard` takes for a message. -/
def fenceOf (t : Outbox) (messageId : UUID) : Option UUID := do
  let message ← t.find messageId
  let document ← message.authorizationContext
  let context ← document.modelValidate
  return context.workspaceId

def World.GuardFree (w : World ι κ) (messageId : UUID) : Prop :=
  ∀ workspaceId, fenceOf w.outbox messageId = some workspaceId → w.SharedFree workspaceId

section Decidability

variable [Fintype ι] [Fintype κ] (w : World ι κ) (id : UUID)

instance : Decidable (w.AccountFree id) :=
  inferInstanceAs (Decidable (∀ i, (w.pipeline i).lockedAccount ≠ some id))

instance : Decidable (w.SharedFree id) :=
  inferInstanceAs (Decidable (∀ k, (w.admin k).exclusiveFence ≠ some id))

instance : Decidable (w.ExclusiveFree id) :=
  inferInstanceAs (Decidable ((∀ i, (w.pipeline i).sharedFence ≠ some id) ∧ w.SharedFree id))

instance : Decidable (w.RowsFree id) :=
  optionAllDecidable ((w.outbox.find id).map OutboxMessage.botAccountId) w.AccountFree

instance : Decidable (w.GuardFree id) :=
  optionAllDecidable (fenceOf w.outbox id) w.SharedFree

end Decidability

/-- The outbox after a transaction that rolls back when it raises. -/
def World.commit {ε : Type} (w : World ι κ) (result : Except ε Outbox) : World ι κ :=
  match result with
  | .ok outbox => { w with outbox := outbox }
  | .error _ => w

/-- The parameters: the digest of an action and the options of each task's worker. -/
structure Setup (ι : Type) where
  sha256 : CanonicalAction → Str
  options : ι → SenderOptions

section Step

variable [Fintype ι] [Fintype κ] (setup : Setup ι)

def World.lockAccount (w : World ι κ) (i : ι) (accountId : UUID) (now : Time) :
    Option (World ι κ) :=
  if w.pipeline i = .idle ∧ w.AccountFree accountId then
    match w.around.botAccount accountId with
    | none => some w
    | some _ => some (w.moveTo i (.accountLocked accountId now))
  else none

def World.countInFlight (w : World ι κ) (i : ι) : Option (World ι κ) :=
  match w.pipeline i with
  | .accountLocked accountId now =>
    if inFlightCount w.outbox accountId = 0 then some (w.moveTo i (.counted accountId now))
    else some (w.moveTo i .idle)
  | _ => none

def World.claimNext (w : World ι κ) (i : ι) (locked : UUID → Bool) : Option (World ι κ) :=
  match w.pipeline i with
  | .counted accountId now =>
    match Sender.claimNext (setup.options i) accountId now locked w.outbox with
    | .ok (t, some claim) => some ({ w with outbox := t }.moveTo i (.claimed claim))
    | .ok (t, none) => some ({ w with outbox := t }.moveTo i .idle)
    | .error _ => some (w.moveTo i .idle)
  | _ => none

def World.respectRateLimit (w : World ι κ) (i : ι) (now : Time) (groupInterval : Int) :
    Option (World ι κ) :=
  match w.pipeline i with
  | .claimed claim =>
    let delay := rateLimitDelay (setup.options i) w.outbox claim now groupInterval
    if delay ≤ 0 then some (w.moveTo i (.paced claim))
    else some (w.moveTo i (.delayed claim delay))
  | _ => none

def World.extendClaimLease (w : World ι κ) (i : ι) (now : Time) : Option (World ι κ) :=
  match w.pipeline i with
  | .delayed claim delay =>
    some ({ w with
      outbox := Sender.extendClaimLease (setup.options i) w.outbox claim.id delay now }.moveTo i
        (.paced claim))
  | _ => none

def World.authorizationGuard (w : World ι κ) (i : ι) : Option (World ι κ) :=
  match w.pipeline i with
  | .paced claim =>
    if w.GuardFree claim.id then
      some (w.moveTo i (.guarded claim.id (fenceOf w.outbox claim.id)))
    else none
  | _ => none

def World.prepareSend (w : World ι κ) (i : ι) (now policyNow : Time) : Option (World ι κ) :=
  match w.pipeline i with
  | .guarded messageId fence =>
    if w.RowsFree messageId then
      match Sender.prepareSend (setup.options i) now policyNow w.around w.outbox messageId with
      | .ok (t, some send) => some ({ w with outbox := t }.moveTo i (.prepared send fence))
      | .ok (t, none) => some ({ w with outbox := t }.moveTo i (.leaving fence))
      | .error _ => some (w.moveTo i .idle)
    else none
  | _ => none

def World.startPost (w : World ι κ) (i : ι) : Option (World ι κ) :=
  match w.pipeline i with
  | .prepared send fence =>
    some ({ w with calls := w.calls ++ [PostCall.mk send none] }.moveTo i
      (.posting send fence w.calls.length))
  | _ => none

/-- The client cannot be opened, or the task is cancelled before the call. -/
def World.failBeforePost (w : World ι κ) (i : ι) (outcome : PostOutcome) : Option (World ι κ) :=
  match w.pipeline i with
  | .prepared send fence =>
    match outcome with
    | .sent _ => none
    | _ => some (w.moveTo i (.posted send fence outcome))
  | _ => none

def World.endPost (w : World ι κ) (i : ι) (outcome : PostOutcome) : Option (World ι κ) :=
  match w.pipeline i with
  | .posting send fence call =>
    some ({ w with calls := w.calls.set call (PostCall.mk send (some outcome)) }.moveTo i
      (.posted send fence outcome))
  | _ => none

def World.finish (w : World ι κ) (i : ι) (now : Time) (jitter : Int) : Option (World ι κ) :=
  match w.pipeline i with
  | .posted send fence outcome =>
    match Sender.finish (setup.options i) w.outbox send.messageId outcome now jitter with
    | .ok t => some ({ w with outbox := t }.moveTo i (.leaving fence))
    | .error _ => some (w.moveTo i .idle)
  | _ => none

def World.leaveGuard (w : World ι κ) (i : ι) : Option (World ι κ) :=
  match w.pipeline i with
  | .leaving _ => some (w.moveTo i .idle)
  | _ => none

def World.beginRevocation (w : World ι κ) (k : κ) (revocation : Revocation) : Option (World ι κ) :=
  match w.admin k with
  | .idle => some (w.adminTo k (.opened revocation))
  | _ => none

def World.lockFence (w : World ι κ) (k : κ) : Option (World ι κ) :=
  match w.admin k with
  | .opened revocation =>
    match revocation.workspace w.around with
    | none => none
    | some workspaceId =>
      if revocation.takesFence ∧ w.ExclusiveFree workspaceId then
        some (w.adminTo k (.fenced revocation workspaceId))
      else none
  | _ => none

def World.commitRevocation (w : World ι κ) (k : κ) (now : Time) : Option (World ι κ) :=
  match w.admin k with
  | .idle => none
  | .opened revocation =>
    if revocation.commitsUnfenced w.around then
      some ({ w with around := revocation.apply now w.around }.adminTo k .idle)
    else none
  | .fenced revocation _ =>
    some ({ w with around := revocation.apply now w.around }.adminTo k .idle)

def step (w : World ι κ) : Action ι κ → Option (World ι κ)
  | .enqueue request now id =>
    some (w.commit ((enqueueText setup.sha256 (fun a => (w.around.botAccount a).isSome) w.outbox
      request now id).map Prod.fst))
  | .recoverExpiredLeases now ids =>
    if recoverable now w.outbox ids then
      some (w.commit (Sender.recoverExpiredLeases now w.outbox ids))
    else none
  | .cancelMessage messageId reason now =>
    if w.RowsFree messageId then
      some (w.commit (OutboxService.cancelMessage w.outbox messageId reason now))
    else none
  | .reconcileUnknown messageId resolution reason now =>
    if w.RowsFree messageId then
      some (w.commit (OutboxService.reconcileUnknown w.outbox messageId resolution reason now))
    else none
  | .lockAccount i accountId now => w.lockAccount i accountId now
  | .countInFlight i => w.countInFlight i
  | .claimNext i locked => w.claimNext setup i locked
  | .respectRateLimit i now groupInterval => w.respectRateLimit setup i now groupInterval
  | .extendClaimLease i now => w.extendClaimLease setup i now
  | .authorizationGuard i => w.authorizationGuard i
  | .prepareSend i now policyNow => w.prepareSend setup i now policyNow
  | .startPost i => w.startPost i
  | .failBeforePost i outcome => w.failBeforePost i outcome
  | .endPost i outcome => w.endPost i outcome
  | .finish i now jitter => w.finish setup i now jitter
  | .leaveGuard i => w.leaveGuard i
  | .crash i => some (w.moveTo i .idle)
  | .beginRevocation k revocation => w.beginRevocation k revocation
  | .lockFence k => w.lockFence k
  | .commitRevocation k now => w.commitRevocation k now
  | .rollbackRevocation k => some (w.adminTo k .idle)
  | .change change => (change.apply w.around).map fun around => { w with around := around }

end Step

/-- Nobody is at work and no call was made yet. -/
def atRest (outbox : Outbox) (around : Surroundings) : World ι κ :=
  ⟨outbox, around, fun _ => .idle, [], fun _ => .idle⟩

/-- The steps of a task from its idle phase to the send boundary; `pause` is the lease
extension of a task that a rate limit delays. -/
def toBoundary (i : ι) (accountId : UUID) (now : Time) (pause : List (Action ι κ))
    (sendNow : Time) : List (Action ι κ) :=
  [.lockAccount i accountId now, .countInFlight i, .claimNext i fun _ => false,
    .respectRateLimit i now (3 * second)] ++ pause ++
  [.authorizationGuard i, .prepareSend i sendNow sendNow]

def sampleSetup (ι : Type) : Setup ι := ⟨fun _ => [], fun _ => .default⟩

def sampleConnection : GeweConnection := ⟨1, 1, py "https://api", py "c", .ACTIVE⟩

def sampleAccount : BotAccount where
  id := 1
  geweConnectionId := 1
  appId := py "app"
  wxid := none
  «alias» := none
  nickname := none
  avatarUrl := none
  pendingLoginUuid := none
  qrExpiresAt := none
  lastStatusCheckedAt := none
  lastStatusError := none
  status := .ONLINE
  loggedInAt := none
  lastOnlineAt := none

/-- A group member that an ALLOW rule of the workspace covers, and a running deployment. -/
def sampleSurroundings : Surroundings where
  botAccount := fun id => if id = 1 then some sampleAccount else none
  geweConnection := fun id => if id = 1 then some sampleConnection else none
  chatroom := fun id => if id = 1 then some ⟨1, 1, py "g@chatroom"⟩ else none
  contact := fun _ => none
  memberships := [⟨1, 1, py "wxid", 1, none⟩]
  principal := fun id => if id = 1 then some ⟨1, 1, .GROUP_MEMBER, py "wxid", true⟩ else none
  policyVersion := fun _ => some 1
  rules := [⟨1, 1, some 1, .CHATROOM, uuidStr 1, .CATEGORY, py "*", .ALLOW, false, some 1, 0, none,
    none, none⟩]
  deployment := fun id => if id = 1 then some ⟨1, 1, 1, py "d", .RUNNING, some 1, none⟩ else none
  revision := fun id =>
    if id = 1 then
      some ⟨1, 1, 1, 1, ⟨none, none, none, none, none⟩, [py "message.send.text"]⟩
    else none
  decrypt := fun _ => some (py "token")

def sampleContext : OutboxAuthorizationContext :=
  ⟨1, 1, 1, some 1, some 1, none, .COMMAND, py "echo", none, by decide⟩

def sampleMessage (id : UUID) (context : Option OutboxAuthorizationContext) : OutboxMessage where
  id := id
  botAccountId := 1
  traceId := id
  idempotencyKey := uuidStr id
  actionType := "message.send.text"
  targetWxid := py "g@chatroom"
  payload := .valid ⟨py "hello", [], by decide, .inl rfl⟩
  authorizationContext := context.map .valid
  payloadSha256 := []
  status := .PENDING
  priority := 100
  availableAt := 0
  expiresAt := none
  attemptCount := 0
  lastErrorCode := none
  lastAttemptStartedAt := none
  lastAttemptFinishedAt := none
  providerMessageId := none
  providerNewMessageId := none
  providerCreateTime := none
  providerMessageType := none
  createdAt := 0
  updatedAt := 0

def oneMessage (context : Option OutboxAuthorizationContext) : Outbox :=
  ⟨[sampleMessage 1 context], by simp⟩

end WechatBot.SenderSystem
