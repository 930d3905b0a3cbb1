import Mathlib.Data.List.Sort
import WechatBot.GeweErrors
import WechatBot.OutboxService
import WechatBot.Policy

/-!
# The sender's transactions

The bodies of the transactions of one `_process_account`, each a function of the
committed outbox table. Clock readings and random draws are arguments.
-/
namespace WechatBot.Sender

open PyData OutboxState OutboxService Records GeweErrors Policy
open Tables (Table)

/-- The jitter ratio is in millionths; the other durations are in microseconds. -/
structure SenderOptions where
  pollInterval : Int
  maxConcurrentAccounts : Nat
  perMinuteLimit : Nat
  targetInterval : Int
  groupIntervalMin : Int
  groupIntervalMax : Int
  maxAttempts : Nat
  backoffBase : Int
  backoffMax : Int
  retryJitterRatio : Int
  lease : Int
  requestTimeout : Int
  offlineRetry : Int
  positive : 0 < pollInterval ∧ 0 < maxConcurrentAccounts ∧ 0 < perMinuteLimit ∧
    0 < maxAttempts ∧ 0 < backoffBase ∧ 0 < backoffMax ∧ 0 < lease ∧ 0 < requestTimeout ∧
    0 < offlineRetry
  intervals : 0 ≤ targetInterval ∧ 0 ≤ groupIntervalMin
  groupOrder : groupIntervalMin ≤ groupIntervalMax
  backoffOrder : backoffBase ≤ backoffMax
  jitter : 0 ≤ retryJitterRatio ∧ retryJitterRatio < 1000000
  leaseCovers : 60 * second + requestTimeout ≤ lease

def SenderOptions.default : SenderOptions where
  pollInterval := 250000
  maxConcurrentAccounts := 8
  perMinuteLimit := 40
  targetInterval := 1000000
  groupIntervalMin := 2000000
  groupIntervalMax := 5000000
  maxAttempts := 5
  backoffBase := 2000000
  backoffMax := 60000000
  retryJitterRatio := 200000
  lease := 90000000
  requestTimeout := 20000000
  offlineRetry := 30000000
  positive := by decide
  intervals := by decide
  groupOrder := by decide
  backoffOrder := by decide
  jitter := by decide
  leaseCovers := by decide

structure ClaimedMessage where
  id : UUID
  botAccountId : UUID
  targetWxid : Str
  deriving DecidableEq, Repr

structure PostTextRequest where
  appId : Str
  toWxid : Str
  content : Str
  ats : Option Str
  deriving DecidableEq, Repr

structure PreparedSend where
  messageId : UUID
  botAccountId : UUID
  baseUrl : Str
  token : Str
  request : PostTextRequest
  deriving DecidableEq, Repr

def recoverOne (now : Time) (t : Outbox) (id : UUID) : Except TransitionError Outbox :=
  match t.find id with
  | none => .ok t
  | some message =>
    if message.status = .CLAIMED then
      (transitionOutbox message .PENDING now (some "CLAIM_LEASE_RECOVERED") (some now)).map t.save
    else
      (transitionOutbox message .UNKNOWN now (some "SENDING_LEASE_EXPIRED") none).map t.save

def leaseExpired (now : Time) (message : OutboxMessage) : Bool :=
  decide (message.status ∈ [OutboxStatus.CLAIMED, .SENDING]) && decide (message.availableAt ≤ now)

/-- The rows the query can return: expired, at most 200, the locked ones skipped. -/
def recoverable (now : Time) (t : Outbox) (ids : List UUID) : Bool :=
  decide ids.Nodup && decide (ids.length ≤ 200) &&
    ids.all fun id => (t.find id).any (leaseExpired now)

def recoverExpiredLeases (now : Time) (t : Outbox) (ids : List UUID) :
    Except TransitionError Outbox :=
  ids.foldlM (recoverOne now) t

def inFlight (status : OutboxStatus) : Bool := decide (status ∈ [OutboxStatus.CLAIMED, .SENDING])

def inFlightCount (t : Outbox) (accountId : UUID) : Nat :=
  (t.rows.filter fun m => decide (m.botAccountId = accountId) && inFlight m.status).length

def waiting (status : OutboxStatus) : Bool :=
  decide (status ∈ [OutboxStatus.PENDING, .FAILED_RETRYABLE])

/-- The claim query's conditions; `locked` are the rows it skips. -/
def claimable (accountId : UUID) (now : Time) (locked : UUID → Bool) (m : OutboxMessage) : Bool :=
  decide (m.botAccountId = accountId) && waiting m.status && decide (m.availableAt ≤ now) &&
    !locked m.id

/-- The order of the claim query: priority, creation time, id. -/
def claimsBefore (a b : OutboxMessage) : Bool :=
  decide (a.priority < b.priority ∨ a.priority = b.priority ∧
    (a.createdAt < b.createdAt ∨ a.createdAt = b.createdAt ∧ a.id < b.id))

def earliest : List OutboxMessage → Option OutboxMessage
  | [] => none
  | m :: rest =>
    match earliest rest with
    | none => some m
    | some b => if claimsBefore b m then some b else some m

def expired (now : Time) (m : OutboxMessage) : Bool := m.expiresAt.any fun at_ => decide (at_ ≤ now)

/-- The loop of `_claim_next`; every turn but the last takes one row out of the due ones,
so `fuel` bounds the turns. -/
def claimLoop (options : SenderOptions) (accountId : UUID) (now : Time) (locked : UUID → Bool) :
    Nat → Outbox → Except TransitionError (Outbox × Option ClaimedMessage)
  | 0, t => .ok (t, none)
  | fuel + 1, t =>
    match earliest (t.rows.filter (claimable accountId now locked)) with
    | none => .ok (t, none)
    | some message =>
      if expired now message then do
        let cancelled ← transitionOutbox message .CANCELLED now (some "EXPIRED_BEFORE_SEND") none
        claimLoop options accountId now locked fuel (t.save cancelled)
      else do
        let claimed ← transitionOutbox message .CLAIMED now none (some (now + options.lease))
        return (t.save claimed, some ⟨message.id, message.botAccountId, message.targetWxid⟩)

def claimNext (options : SenderOptions) (accountId : UUID) (now : Time) (locked : UUID → Bool)
    (t : Outbox) : Except TransitionError (Outbox × Option ClaimedMessage) :=
  claimLoop options accountId now locked
    ((t.rows.filter (claimable accountId now locked)).length + 1) t

/-- Attempts of the account in the last minute: time and target. -/
def recentAttempts (t : Outbox) (accountId : UUID) (now : Time) : List (Time × Str) :=
  (t.rows.filter fun m => decide (m.botAccountId = accountId) && decide (0 < m.attemptCount) &&
    decide (now - 60 * second ≤ m.updatedAt)).map fun m => (m.updatedAt, m.targetWxid)

def isChatroom (wxid : Str) : Bool := (py "@chatroom").isSuffixOf wxid

/-- The pause since the last of some attempts, if there is one. -/
def pauseSince (interval : Int) (now : Time) (attempts : List (Time × Str)) : List Int :=
  match (attempts.map Prod.fst).max? with
  | none => []
  | some last => [interval - (now - last)]

/-- The delay of `_respect_rate_limit`; `groupInterval` is the random draw. -/
def rateLimitDelay (options : SenderOptions) (t : Outbox) (claimed : ClaimedMessage) (now : Time)
    (groupInterval : Int) : Int :=
  let attempts := recentAttempts t claimed.botAccountId now
  let minute :=
    if options.perMinuteLimit ≤ attempts.length then
      match ((attempts.map Prod.fst).insertionSort (· ≥ ·))[options.perMinuteLimit - 1]? with
      | none => []
      | some threshold => [60 * second - (now - threshold)]
    else []
  let target := pauseSince options.targetInterval now
    (attempts.filter fun a => decide (a.2 = claimed.targetWxid))
  let group :=
    if isChatroom claimed.targetWxid then
      pauseSince groupInterval now (attempts.filter fun a => isChatroom a.2)
    else []
  (minute ++ target ++ group).foldl max 0

def extendClaimLease (options : SenderOptions) (t : Outbox) (messageId : UUID) (delay : Int)
    (now : Time) : Outbox :=
  match t.find messageId with
  | none => t
  | some message =>
    if message.status = .CLAIMED then
      t.save { message with
        availableAt := now + max options.lease (delay + options.lease)
        updatedAt := now }
    else t

/-- The wxid the conversation of the context stands for, if it belongs to the account. -/
def authorizedTarget (around : Surroundings) (message : OutboxMessage)
    (context : OutboxAuthorizationContext) : Option Str :=
  match context.chatroomId, context.contactId with
  | some id, _ =>
    ((around.chatroom id).filter fun c => decide (c.botAccountId = message.botAccountId)).map
      (·.chatroomId)
  | none, some id =>
    ((around.contact id).filter fun c =>
      decide (c.botAccountId = message.botAccountId) && c.active).map (·.externalId)
  | none, none => none

def targetMatchesAuthorization (around : Surroundings) (message : OutboxMessage)
    (context : OutboxAuthorizationContext) : Bool :=
  decide (authorizedTarget around message context = some message.targetWxid)

/-- The deployment with its active revision, as the locked join finds them. -/
def activeRevision (around : Surroundings) (deploymentId : UUID) :
    Option (PluginDeployment × PluginDeploymentRevision) := do
  let deployment ← around.deployment deploymentId
  let revisionId ← deployment.activeRevisionId
  let revision ← around.revision revisionId
  return (deployment, revision)

def deploymentAuthorizes (message : OutboxMessage) (context : OutboxAuthorizationContext)
    (deployment : PluginDeployment) (revision : PluginDeploymentRevision) : Bool :=
  decide (deployment.workspaceId = context.workspaceId) &&
    decide (deployment.status = .RUNNING) &&
    decide (deployment.activeRevisionId = some context.deploymentRevisionId) &&
    decide (revision.id = context.deploymentRevisionId) &&
    decide (revision.deploymentId = deployment.id) &&
    decide (py message.actionType ∈ revision.grants)

def evaluationRequest (message : OutboxMessage) (context : OutboxAuthorizationContext) :
    AclEvaluationRequest where
  workspaceId := context.workspaceId
  botAccountId := message.botAccountId
  actorPrincipalId := context.actorPrincipalId
  chatroomId := context.chatroomId
  contactId := context.contactId
  resourceType := context.resourceType
  resourceId := context.resourceId
  parentPluginId := context.parentPluginId

/-- The last test: both errors of the evaluation count as a refusal. -/
def policyAllows (around : Surroundings) (message : OutboxMessage)
    (context : OutboxAuthorizationContext) (now : Time) : Bool :=
  match evaluate around (evaluationRequest message context) now with
  | .error _ => false
  | .ok decision => decision.allowed

def contextStillValid (around : Surroundings) (message : OutboxMessage)
    (context : OutboxAuthorizationContext) (now : Time) : Bool :=
  targetMatchesAuthorization around message context &&
    match activeRevision around context.deploymentId with
    | none => false
    | some (deployment, revision) =>
      deploymentAuthorizes message context deployment revision &&
        policyAllows around message context now

def authorizationStillValid (around : Surroundings) (message : OutboxMessage) (now : Time) : Bool :=
  match message.authorizationContext with
  | none => true
  | some document =>
    match document.modelValidate with
    | none => false
    | some context => contextStillValid around message context now

/-- `",".join(payload.at_wxids) or None`. -/
def joinAts (atWxids : List Str) : Option Str :=
  match [44].intercalate atWxids with
  | [] => none
  | ats => some ats

/-- The refusals of `_prepare_send`, in the order of the code: the status to move to, the
error code and the time of the next try. `none` lets the message through. The policy
reads the clock again. -/
def refusal (options : SenderOptions) (now policyNow : Time) (around : Surroundings)
    (message : OutboxMessage) (account : BotAccount) (connection : GeweConnection) :
    Option (OutboxStatus × String × Option Time) :=
  if expired now message then some (.CANCELLED, "EXPIRED_BEFORE_SEND", none)
  else if account.status = .DISABLED ∨ connection.status = .DISABLED then
    some (.CANCELLED, "ACCOUNT_OR_CONNECTION_DISABLED", none)
  else if message.actionType ∉ textActionTypes then
    some (.FAILED_FINAL, "UNSUPPORTED_ACTION_TYPE", none)
  else if authorizationStillValid around message policyNow = false then
    some (.CANCELLED, "POLICY_CHANGED", none)
  else if account.status ≠ .ONLINE ∨ connection.status ≠ .ACTIVE then
    some (.FAILED_RETRYABLE, "ACCOUNT_NOT_READY", some (now + options.offlineRetry))
  else if message.payload.modelValidate = none then
    some (.FAILED_FINAL, "INVALID_OUTBOX_PAYLOAD", none)
  else if around.decrypt connection.tokenCiphertext = none then
    some (.FAILED_FINAL, "CREDENTIAL_UNAVAILABLE", none)
  else none

/-- The columns `_prepare_send` writes besides the transition to SENDING. -/
def beginAttempt (message : OutboxMessage) (now : Time) : OutboxMessage :=
  { message with
    attemptCount := message.attemptCount + 1
    lastAttemptStartedAt := some now
    lastAttemptFinishedAt := none }

def preparedSend (message : OutboxMessage) (account : BotAccount) (connection : GeweConnection)
    (payload : TextOutboxPayload) (token : Str) : PreparedSend :=
  ⟨message.id, message.botAccountId, connection.apiBaseUrl, token,
    ⟨account.appId, message.targetWxid, payload.text, joinAts payload.atWxids⟩⟩

/-- `_prepare_send` on a claimed message with its joined rows. -/
def prepareClaimed (options : SenderOptions) (now policyNow : Time) (around : Surroundings)
    (t : Outbox) (message : OutboxMessage) (account : BotAccount) (connection : GeweConnection) :
    Except TransitionError (Outbox × Option PreparedSend) :=
  match refusal options now policyNow around message account connection with
  | some (status, code, availableAt) =>
    (transitionOutbox message status now (some code) availableAt).map fun m => (t.save m, none)
  | none =>
    match message.payload.modelValidate, around.decrypt connection.tokenCiphertext with
    | some payload, some token =>
      (transitionOutbox message .SENDING now none (some (now + options.lease))).map fun m =>
        (t.save (beginAttempt m now), some (preparedSend message account connection payload token))
    | _, _ => .ok (t, none)

/-- The row of the joined query, and the connection of its account. -/
def joinedRow (around : Surroundings) (t : Outbox) (messageId : UUID) :
    Option (OutboxMessage × BotAccount × GeweConnection) := do
  let message ← t.find messageId
  let account ← around.botAccount message.botAccountId
  let connection ← around.geweConnection account.geweConnectionId
  return (message, account, connection)

def prepareSend (options : SenderOptions) (now policyNow : Time) (around : Surroundings)
    (t : Outbox) (messageId : UUID) : Except TransitionError (Outbox × Option PreparedSend) :=
  match joinedRow around t messageId with
  | none => .ok (t, none)
  | some (message, account, connection) =>
    if message.status ≠ .CLAIMED then .ok (t, none)
    else prepareClaimed options now policyNow around t message account connection

/-- A finishing transaction: nothing unless the message is still SENDING. -/
def finishWith (t : Outbox) (messageId : UUID)
    (body : OutboxMessage → Except TransitionError OutboxMessage) : Except TransitionError Outbox :=
  match t.find messageId with
  | none => .ok t
  | some message => if message.status = .SENDING then (body message).map t.save else .ok t

def finishSent (t : Outbox) (messageId : UUID) (result : SentTextData) (now : Time) :
    Except TransitionError Outbox :=
  finishWith t messageId fun message => do
    let sent ← transitionOutbox message .SENT now none none
    return { sent with
      lastAttemptFinishedAt := some now
      providerMessageId := some result.msgId
      providerNewMessageId := some result.newMsgId
      providerCreateTime := some result.createTime
      providerMessageType := some result.messageType }

def finishUnknown (t : Outbox) (messageId : UUID) (errorCode : String) (now : Time) :
    Except TransitionError Outbox :=
  finishWith t messageId fun message =>
    transitionOutbox { message with lastAttemptFinishedAt := some now } .UNKNOWN now
      (some errorCode) none

/-- The delay before the next attempt; `jitter` is the random draw, in millionths. -/
def backoffDelay (options : SenderOptions) (attemptCount : Nat) (jitter : Int) : Int :=
  max 0 (min options.backoffMax (options.backoffBase * 2 ^ (attemptCount - 1)) *
    (1000000 + jitter) / 1000000)

def finishFailure (options : SenderOptions) (t : Outbox) (messageId : UUID)
    (disposition : Disposition) (errorCode : String) (now : Time) (jitter : Int) :
    Except TransitionError Outbox :=
  if disposition = .UNKNOWN then finishUnknown t messageId errorCode now
  else finishWith t messageId fun message =>
    let finished := { message with lastAttemptFinishedAt := some now }
    if disposition = .RETRYABLE ∧ message.attemptCount < options.maxAttempts then
      transitionOutbox finished .FAILED_RETRYABLE now (some errorCode)
        (some (now + backoffDelay options message.attemptCount jitter))
    else
      transitionOutbox finished .FAILED_FINAL now
        (some (if disposition = .RETRYABLE then "RETRY_EXHAUSTED" else errorCode)) none

/-- The handlers of `_process_account` around the call. -/
def finish (options : SenderOptions) (t : Outbox) (messageId : UUID) (outcome : PostOutcome)
    (now : Time) (jitter : Int) : Except TransitionError Outbox :=
  match outcome with
  | .sent result => finishSent t messageId result now
  | .geweError error =>
    finishFailure options t messageId (classifyGeweError error).1 (classifyGeweError error).2 now
      jitter
  | .cancelled => finishUnknown t messageId "WORKER_CANCELLED_DURING_SEND" now
  | .unexpected => finishUnknown t messageId "UNEXPECTED_SEND_ERROR" now

end WechatBot.Sender
