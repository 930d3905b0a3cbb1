import WechatBot.Records
import WechatBot.Tables

/-!
# Outbox messages and their status transitions

The rows of `outbox_message` and `transition_outbox`, the one function through
which the sender and the manual operations change a status.
-/
namespace WechatBot.OutboxState

open PyData Records
open Tables (Table)

inductive OutboxStatus where
  | PENDING | CLAIMED | SENDING | SENT | FAILED_RETRYABLE | FAILED_FINAL | UNKNOWN | CANCELLED
  deriving DecidableEq, Repr

/-- `OutboxAuthorizationContext`; the model validator is the last field. -/
structure OutboxAuthorizationContext where
  workspaceId : UUID
  deploymentId : UUID
  deploymentRevisionId : UUID
  actorPrincipalId : Option UUID
  chatroomId : Option UUID
  contactId : Option UUID
  resourceType : AclResourceType
  resourceId : Str
  parentPluginId : Option Str
  oneConversation : chatroomId.isNone ≠ contactId.isNone
  deriving DecidableEq, Repr

/-- `normalize_at_wxids`: stripped mentions without repetition, `none` for one that is
blank or has a comma. -/
def normalizeAtWxids (seen : List Str) : List Str → Option (List Str)
  | [] => some []
  | value :: rest =>
    let stripped := strip value
    if stripped = [] ∨ 44 ∈ stripped then none
    else if stripped ∈ seen then normalizeAtWxids seen rest
    else (normalizeAtWxids (stripped :: seen) rest).map (stripped :: ·)

/-- What `TextOutboxPayload` accepts as its text. -/
def textAccepted (text : Str) : Bool :=
  encodable text && decide (1 ≤ text.length) && decide (text.length ≤ 10000) && !blank text

structure TextOutboxPayload where
  text : Str
  atWxids : List Str
  textOk : textAccepted text = true
  mentionsVisible : atWxids = [] ∨ 64 ∈ text
  deriving DecidableEq, Repr

/-- The constructor `TextOutboxPayload(text=..., at_wxids=...)`, `none` for a
`ValidationError`. -/
def TextOutboxPayload.build (text : Str) (atWxids : List Str) : Option TextOutboxPayload :=
  if htext : textAccepted text = true then
    if atWxids.length ≤ 100 ∧ ∀ value ∈ atWxids, encodable value = true ∧ 1 ≤ value.length ∧
        value.length ≤ 255 then
      match normalizeAtWxids [] atWxids with
      | none => none
      | some normalized =>
        if hvisible : normalized = [] ∨ 64 ∈ text then some ⟨text, normalized, htext, hvisible⟩
        else none
    else none
  else none

structure OutboxMessage where
  id : UUID
  botAccountId : UUID
  traceId : UUID
  idempotencyKey : Str
  actionType : String
  targetWxid : Str
  payload : Document TextOutboxPayload
  authorizationContext : Option (Document OutboxAuthorizationContext)
  payloadSha256 : Str
  status : OutboxStatus
  priority : Int
  availableAt : Time
  expiresAt : Option Time
  attemptCount : Nat
  lastErrorCode : Option String
  lastAttemptStartedAt : Option Time
  lastAttemptFinishedAt : Option Time
  providerMessageId : Option Str
  providerNewMessageId : Option Str
  providerCreateTime : Option Int
  providerMessageType : Option Int
  createdAt : Time
  updatedAt : Time
  deriving DecidableEq, Repr

abbrev Outbox := Table OutboxMessage.id

def allowedTransitions : OutboxStatus → List OutboxStatus
  | .PENDING => [.CLAIMED, .CANCELLED]
  | .CLAIMED => [.PENDING, .SENDING, .FAILED_RETRYABLE, .FAILED_FINAL, .CANCELLED]
  | .SENDING => [.SENT, .FAILED_RETRYABLE, .FAILED_FINAL, .UNKNOWN]
  | .FAILED_RETRYABLE => [.CLAIMED, .CANCELLED]
  | .UNKNOWN => [.SENT, .FAILED_FINAL]
  | .SENT => []
  | .FAILED_FINAL => []
  | .CANCELLED => []

inductive TransitionError where
  | invalidTransition (source target : OutboxStatus)
  | errorCodeTooLong
  deriving DecidableEq, Repr

def transitionOutbox (message : OutboxMessage) (target : OutboxStatus) (now : Time)
    (errorCode : Option String) (availableAt : Option Time) :
    Except TransitionError OutboxMessage :=
  if target ∉ allowedTransitions message.status then
    .error (.invalidTransition message.status target)
  else if errorCode.any (fun code => decide (100 < code.length)) then .error .errorCodeTooLong
  else .ok { message with
    status := target
    lastErrorCode := errorCode
    updatedAt := now
    availableAt := availableAt.getD message.availableAt }

/-- The columns that no transaction of the sender and no manual operation writes. -/
structure SameAction (m m' : OutboxMessage) : Prop where
  id : m'.id = m.id
  account : m'.botAccountId = m.botAccountId
  key : m'.idempotencyKey = m.idempotencyKey
  action : m'.actionType = m.actionType
  target : m'.targetWxid = m.targetWxid
  payload : m'.payload = m.payload
  context : m'.authorizationContext = m.authorizationContext
  hash : m'.payloadSha256 = m.payloadSha256
  priority : m'.priority = m.priority
  expires : m'.expiresAt = m.expiresAt
  created : m'.createdAt = m.createdAt

theorem SameAction.refl (m : OutboxMessage) : SameAction m m :=
  ⟨rfl, rfl, rfl, rfl, rfl, rfl, rfl, rfl, rfl, rfl, rfl⟩

theorem SameAction.trans {a b c : OutboxMessage} (h : SameAction a b) (h' : SameAction b c) :
    SameAction a c :=
  ⟨h'.id.trans h.id, h'.account.trans h.account, h'.key.trans h.key, h'.action.trans h.action,
    h'.target.trans h.target, h'.payload.trans h.payload, h'.context.trans h.context,
    h'.hash.trans h.hash, h'.priority.trans h.priority, h'.expires.trans h.expires,
    h'.created.trans h.created⟩

/-- Everything an accepted transition does. -/
theorem transition_ok {message message' : OutboxMessage} {target : OutboxStatus} {now : Time}
    {errorCode : Option String} {availableAt : Option Time}
    (h : transitionOutbox message target now errorCode availableAt = .ok message') :
    target ∈ allowedTransitions message.status ∧ message'.status = target ∧
      message'.attemptCount = message.attemptCount ∧ SameAction message message' := by
  unfold transitionOutbox at h
  split at h
  · cases h
  · rename_i hallowed
    split at h
    · cases h
    · cases h
      exact ⟨by simpa using hallowed, rfl, rfl, ⟨rfl, rfl, rfl, rfl, rfl, rfl, rfl, rfl, rfl, rfl, rfl⟩⟩

/-- The rows of `t` are the rows of `t'`, each with its action; a status changed only
along one of the edges. -/
structure Changes (edges : List (OutboxStatus × OutboxStatus)) (t t' : Outbox) : Prop where
  kept : ∀ id m, t.find id = some m → ∃ m', t'.find id = some m' ∧ SameAction m m' ∧
    (m'.status = m.status ∨ (m.status, m'.status) ∈ edges)
  noNew : ∀ id, t.find id = none → t'.find id = none

theorem Changes.refl (edges : List (OutboxStatus × OutboxStatus)) (t : Outbox) :
    Changes edges t t :=
  ⟨fun _ m h => ⟨m, h, SameAction.refl m, .inl rfl⟩, fun _ h => h⟩

theorem Changes.mono {edges edges' : List (OutboxStatus × OutboxStatus)} {t t' : Outbox}
    (hsub : edges ⊆ edges') (h : Changes edges t t') : Changes edges' t t' := by
  refine ⟨?_, h.noNew⟩
  intro id m hm
  obtain ⟨m', hm', hsame, hstatus⟩ := h.kept id m hm
  exact ⟨m', hm', hsame, hstatus.imp_right fun he => hsub he⟩

/-- Changes along edges of which no two follow each other compose. -/
theorem Changes.trans {edges : List (OutboxStatus × OutboxStatus)} {t u v : Outbox}
    (hapart : ∀ e ∈ edges, ∀ e' ∈ edges, e.2 ≠ e'.1)
    (h : Changes edges t u) (h' : Changes edges u v) : Changes edges t v := by
  refine ⟨?_, fun id hid => h'.noNew id (h.noNew id hid)⟩
  intro id m hm
  obtain ⟨a, ha, hsame, hstatus⟩ := h.kept id m hm
  obtain ⟨b, hb, hsame', hstatus'⟩ := h'.kept id a ha
  refine ⟨b, hb, hsame.trans hsame', ?_⟩
  rcases hstatus with hstatus | hstatus
  · rwa [hstatus] at hstatus'
  · rcases hstatus' with hstatus' | hstatus'
    · exact .inr (hstatus' ▸ hstatus)
    · exact absurd rfl (hapart _ hstatus _ hstatus')

/-- A row of the new table comes from a row of the old one. -/
theorem Changes.back {edges : List (OutboxStatus × OutboxStatus)} {t t' : Outbox}
    (h : Changes edges t t') {id : UUID} {m' : OutboxMessage} (hm' : t'.find id = some m') :
    ∃ m, t.find id = some m ∧ SameAction m m' ∧
      (m'.status = m.status ∨ (m.status, m'.status) ∈ edges) := by
  cases hm : t.find id with
  | none => rw [h.noNew id hm] at hm'; cases hm'
  | some m =>
    obtain ⟨a, ha, hsame, hstatus⟩ := h.kept id m hm
    rw [hm'] at ha
    cases ha
    exact ⟨m, rfl, hsame, hstatus⟩

/-- Saving one changed row is such a change. -/
theorem changes_save {edges : List (OutboxStatus × OutboxStatus)} {t : Outbox}
    {m m' : OutboxMessage} (hm : t.find m.id = some m) (hsame : SameAction m m')
    (hstatus : m'.status = m.status ∨ (m.status, m'.status) ∈ edges) :
    Changes edges t (t.save m') := by
  have hfind := Table.find_save_of (t := t) (a := m') (hsame.id ▸ hm)
  refine ⟨?_, ?_⟩
  · intro id a ha
    rw [hfind id]
    split
    · rename_i hid
      rw [hid, hsame.id, hm] at ha
      cases ha
      exact ⟨m', rfl, hsame, hstatus⟩
    · exact ⟨a, ha, SameAction.refl a, .inl rfl⟩
  · intro id hid
    rw [hfind id]
    split
    · rename_i he
      rw [he, hsame.id, hm] at hid
      cases hid
    · exact hid

/-- A transition saved into the table the message was read from. -/
theorem changes_transition {t : Outbox} {id : UUID} {message message' : OutboxMessage}
    {target : OutboxStatus} {now : Time} {errorCode : Option String} {availableAt : Option Time}
    {edges : List (OutboxStatus × OutboxStatus)} (hm : t.find id = some message)
    (h : transitionOutbox message target now errorCode availableAt = .ok message')
    (hedge : (message.status, target) ∈ edges) : Changes edges t (t.save message') := by
  obtain ⟨-, htarget, -, hsame⟩ := transition_ok h
  have hid : message.id = id := Table.find_key hm
  exact changes_save (hid ▸ hm) hsame (.inr (htarget ▸ hedge))

end WechatBot.OutboxState
