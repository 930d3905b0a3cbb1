import WechatBot.OutboxState

/-!
# The outbox service

`enqueue_text` and the two manual operations, each the body of one transaction
over the outbox table. Exceptions are the left side of `Except`; the caller rolls
the transaction back.
-/
namespace WechatBot.OutboxService

open PyData OutboxState
open Tables (Table)

def textActionTypes : List String := ["message.send.text", "message.reply.text"]

/-- The action a key is bound to, as `_action_hash` takes it. -/
structure CanonicalAction where
  actionType : String
  authorizationContext : Option OutboxAuthorizationContext
  botAccountId : UUID
  expiresAt : Option Time
  payload : TextOutboxPayload
  priority : Int
  targetWxid : Str
  deriving DecidableEq, Repr

structure EnqueueRequest where
  botAccountId : UUID
  traceId : UUID
  idempotencyKey : Str
  targetWxid : Str
  text : Str
  expiresAt : Option Time
  priority : Int
  atWxids : List Str
  actionType : String
  authorizationContext : Option OutboxAuthorizationContext
  deriving DecidableEq, Repr

/-- `valueError` stands for every `ValueError` that is not the conflict; the driver's
`UnicodeEncodeError` is one of them. `dataError` is an error of the database. -/
inductive EnqueueError where
  | valueError (detail : String)
  | idempotencyConflict
  | accountNotFound
  | dataError
  deriving DecidableEq, Repr

def normalizeLimitedText (value : Str) (fieldName : String) (maxLength : Nat) :
    Except EnqueueError Str :=
  let normalized := strip value
  if normalized = [] then .error (.valueError (fieldName ++ " cannot be blank"))
  else if maxLength < normalized.length then
    .error (.valueError (fieldName ++ " cannot exceed " ++ toString maxLength ++ " characters"))
  else .ok normalized

def normalizeExpiry (expiresAt : Option Time) (now : Time) : Except EnqueueError (Option Time) :=
  match expiresAt with
  | none => .ok none
  | some value =>
    if value ≤ now then .error (.valueError "expires_at must be in the future")
    else .ok (some value)

/-- PostgreSQL takes no NUL in a text or JSONB value. -/
def storable (s : Str) : Bool := !s.contains 0

/-- The lookup of a key: the driver cannot encode a lone surrogate, and the
database refuses NUL. -/
def findByIdempotencyKey (t : Outbox) (key : Str) : Except EnqueueError (Option OutboxMessage) :=
  if encodable key = false then .error (.valueError "surrogates not allowed")
  else if storable key = false then .error .dataError
  else .ok (t.rows.find? fun m => decide (m.idempotencyKey = key))

def matchExisting (existing : OutboxMessage) (payloadSha256 : Str) :
    Except EnqueueError OutboxMessage :=
  if existing.payloadSha256 ≠ payloadSha256 then .error .idempotencyConflict else .ok existing

/-- The row `enqueue_text` adds. -/
def newMessage (id : UUID) (request : EnqueueRequest) (key target payloadSha256 : Str)
    (expiry : Option Time) (payload : TextOutboxPayload) (now : Time) : OutboxMessage where
  id := id
  botAccountId := request.botAccountId
  traceId := request.traceId
  idempotencyKey := key
  actionType := request.actionType
  targetWxid := target
  payload := .valid payload
  authorizationContext := request.authorizationContext.map .valid
  payloadSha256 := payloadSha256
  status := .PENDING
  priority := request.priority
  availableAt := now
  expiresAt := expiry
  attemptCount := 0
  lastErrorCode := none
  lastAttemptStartedAt := none
  lastAttemptFinishedAt := none
  providerMessageId := none
  providerNewMessageId := none
  providerCreateTime := none
  providerMessageType := none
  createdAt := now
  updatedAt := now

def canonicalAction (request : EnqueueRequest) (target : Str) (expiry : Option Time)
    (payload : TextOutboxPayload) : CanonicalAction :=
  ⟨request.actionType, request.authorizationContext, request.botAccountId, expiry, payload,
    request.priority, target⟩

/-- What `enqueue_text` computes from its arguments alone: the normalized key, target
and expiry, and the payload. -/
def normalizeRequest (request : EnqueueRequest) (now : Time) :
    Except EnqueueError (Str × Str × Option Time × TextOutboxPayload) := do
  let key ← normalizeLimitedText request.idempotencyKey "idempotency key" 255
  let target ← normalizeLimitedText request.targetWxid "target wxid" 255
  if ¬ (0 ≤ request.priority ∧ request.priority ≤ 1000) then
    throw (.valueError "priority must be between 0 and 1000")
  if request.actionType ∉ textActionTypes then throw (.valueError "unsupported text action type")
  let expiry ← normalizeExpiry request.expiresAt now
  match TextOutboxPayload.build request.text request.atWxids with
  | none => throw (.valueError "ValidationError")
  | some payload => return (key, target, expiry, payload)

/-- `_action_hash`: the digest of the canonical encoding, whose `encode` refuses a lone
surrogate. -/
def actionHash (sha256 : CanonicalAction → Str) (action : CanonicalAction) :
    Except EnqueueError Str :=
  if encodable action.targetWxid = false then .error (.valueError "surrogates not allowed")
  else .ok (sha256 action)

/-- The insert inside its savepoint. The key was looked up in the same transaction, so
the only constraint left is the primary key. -/
def insertMessage (t : Outbox) (message : OutboxMessage) (payload : TextOutboxPayload) :
    Except EnqueueError (Outbox × OutboxMessage) :=
  if (storable message.targetWxid && storable payload.text && payload.atWxids.all storable) = false
  then .error .dataError
  else match t.insert message with
    | none => .error .dataError
    | some t' => .ok (t', message)

/-- `sha256` is the digest of the canonical encoding of an action, and `id` the fresh
row id. -/
def enqueueText (sha256 : CanonicalAction → Str) (accountExists : UUID → Bool) (t : Outbox)
    (request : EnqueueRequest) (now : Time) (id : UUID) :
    Except EnqueueError (Outbox × OutboxMessage) := do
  let (key, target, expiry, payload) ← normalizeRequest request now
  let payloadSha256 ← actionHash sha256 (canonicalAction request target expiry payload)
  match ← findByIdempotencyKey t key with
  | some existing => return (t, ← matchExisting existing payloadSha256)
  | none =>
    if accountExists request.botAccountId = false then throw .accountNotFound
    insertMessage t (newMessage id request key target payloadSha256 expiry payload now) payload

inductive ManualError where
  | valueError (detail : String)
  | notFound
  | stateConflict (status : OutboxStatus)
  | transition (error : TransitionError)
  deriving DecidableEq, Repr

def normalizeManualReason (reason : Str) : Except ManualError Str :=
  let normalized := strip reason
  if normalized = [] then .error (.valueError "manual outbox action reason cannot be blank")
  else if 500 < normalized.length then
    .error (.valueError "manual outbox action reason cannot exceed 500 characters")
  else .ok normalized

def saved (t : Outbox) (result : Except TransitionError OutboxMessage) : Except ManualError Outbox :=
  match result with
  | .error error => .error (.transition error)
  | .ok message => .ok (t.save message)

def cancelMessage (t : Outbox) (messageId : UUID) (reason : Str) (now : Time) :
    Except ManualError Outbox := do
  let _ ← normalizeManualReason reason
  match t.find messageId with
  | none => throw .notFound
  | some message =>
    if message.status ∉ [.PENDING, .CLAIMED, .FAILED_RETRYABLE] then
      throw (.stateConflict message.status)
    saved t (transitionOutbox message .CANCELLED now (some "MANUAL_CANCELLED") none)

def reconcileUnknown (t : Outbox) (messageId : UUID) (resolution : OutboxStatus) (reason : Str)
    (now : Time) : Except ManualError Outbox := do
  if resolution ∉ [.SENT, .FAILED_FINAL] then
    throw (.valueError "resolution must be SENT or FAILED_FINAL")
  let _ ← normalizeManualReason reason
  match t.find messageId with
  | none => throw .notFound
  | some message =>
    if message.status ≠ .UNKNOWN then throw (.stateConflict message.status)
    saved t (transitionOutbox message resolution now
      (some (if resolution = .SENT then "MANUAL_RECONCILED_SENT" else "MANUAL_RECONCILED_FAILED"))
      none)

end WechatBot.OutboxService
