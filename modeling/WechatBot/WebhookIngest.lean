import WechatBot.GeweNormalizer
import WechatBot.InboxWorker
import WechatBot.Runs
import WechatBot.UniqueRows

/-!
# Webhook deliveries

Any number of requests to `gewe_webhook`, statement by statement, beside the workers that
dispatch what they store. A request writes its connection before the lookup, which locks
the connection's row, and commits only after `ingest_gewe_webhook` has returned. Every row
has the provider `gewe`; the status of an inbox row is kept with the workers.
-/
namespace WechatBot.WebhookIngest

open PyData GeweNormalizer UniqueRows
open Discovery (ConversationType)
open DirtyWrite (column)
open Tables (Table)

abbrev Bytes := List UInt8

/-- The columns of a connection that a callback reads and writes; a call reads those of
`Records.GeweConnection`. -/
structure GeweConnection where
  id : UUID
  callbackSecretHash : Str
  lastCallbackAt : Option Time
  callbackVerifiedAt : Option Time
  lastCallbackError : Option Str
  deriving DecidableEq, Repr

/-- The columns of an inbox row that its delivery writes once. The columns that change
afterwards are those of `InboxWorker.WebhookInbox`, whose row has the id of the event. -/
structure WebhookInbox where
  id : UUID
  geweConnectionId : UUID
  appId : Str
  newMsgId : Option Str
  dedupKey : Str
  payloadSha256 : Str
  schemaVersion : Str
  rawPayload : Fields
  traceId : UUID
  dispatchAvailableAt : Time

structure NormalizedEvent where
  id : UUID
  webhookInboxId : UUID
  botAccountId : Option UUID
  eventType : Str
  conversationType : ConversationType
  conversationId : Option Str
  actorWxid : Option Str
  toWxid : Option Str
  providerMessageId : Option Str
  isSelf : Bool
  occurredAt : Option Time
  content : Fields
  rawRef : Str

/-- An exception of `json.loads`: a document that it cannot read, or any other. -/
inductive LoadsError where
  | invalid
  | other

/-- What the requests use of Python and of the database. `loads` is `json.loads`, `sha256`
the hexadecimal digest, `varchar n` what a column of at most `n` characters stores of a
text, if it takes it. -/
structure Backend where
  library : Library
  maxBodyBytes : Nat
  loads : Bytes → Except LoadsError Json
  utf8 : Str → Bytes
  sha256 : Bytes → Str
  queries : Str → Bool
  varchar : Nat → Str → Option Str
  jsonDocument : Fields → Option Fields

/-- A delivery to a known connection, as it was loaded. -/
structure Received where
  connection : GeweConnection
  rawBody : Bytes
  payload : Fields
  now : Time

variable (b : Backend)

namespace Received

def envelope (r : Received) : GeweEnvelope := normalizeGewePayload b.library r.payload

def payloadSha256 (r : Received) : Str := b.sha256 r.rawBody

def dedupKey (r : Received) : Str :=
  match (r.envelope b).newMsgId with
  | some newMsgId => py "message:" ++ newMsgId
  | none => py "payload:" ++ r.payloadSha256 b

/-- The connection after the call. -/
def called (r : Received) : GeweConnection :=
  { r.connection with
    lastCallbackAt := some r.now
    callbackVerifiedAt := r.connection.callbackVerifiedAt.or (some r.now)
    lastCallbackError := none }

def inbox (r : Received) (id traceId : UUID) (now : Time) : WebhookInbox where
  id := id
  geweConnectionId := r.connection.id
  appId := (r.envelope b).appId
  newMsgId := (r.envelope b).newMsgId
  dedupKey := r.dedupKey b
  payloadSha256 := r.payloadSha256 b
  schemaVersion := (r.envelope b).schemaVersion
  rawPayload := r.payload
  traceId := traceId
  dispatchAvailableAt := now

def event (r : Received) (id inboxId : UUID) (botAccountId : Option UUID) : NormalizedEvent where
  id := id
  webhookInboxId := inboxId
  botAccountId := botAccountId
  eventType := (r.envelope b).eventType
  conversationType := (r.envelope b).conversationType
  conversationId := (r.envelope b).conversationId
  actorWxid := (r.envelope b).actorWxid
  toWxid := (r.envelope b).toWxid
  providerMessageId := (r.envelope b).newMsgId
  isSelf := (r.envelope b).isSelf
  occurredAt := (r.envelope b).occurredAt
  content := (r.envelope b).content
  rawRef := py "db:webhook_inbox/" ++ uuidStr inboxId

end Received

def nullable (store : Str → Option Str) : Option Str → Option (Option Str)
  | none => some none
  | some s => (store s).map some

def storeInbox (m : WebhookInbox) : Option WebhookInbox := do
  let appId ← b.varchar 255 m.appId
  let newMsgId ← nullable (b.varchar 255) m.newMsgId
  let dedupKey ← b.varchar 255 m.dedupKey
  let payloadSha256 ← b.varchar 64 m.payloadSha256
  let schemaVersion ← b.varchar 32 m.schemaVersion
  let rawPayload ← b.jsonDocument m.rawPayload
  return { m with
    appId := appId
    newMsgId := newMsgId
    dedupKey := dedupKey
    payloadSha256 := payloadSha256
    schemaVersion := schemaVersion
    rawPayload := rawPayload }

def storeEvent (e : NormalizedEvent) : Option NormalizedEvent := do
  let eventType ← b.varchar 100 e.eventType
  let conversationId ← nullable (b.varchar 255) e.conversationId
  let actorWxid ← nullable (b.varchar 255) e.actorWxid
  let toWxid ← nullable (b.varchar 255) e.toWxid
  let providerMessageId ← nullable (b.varchar 255) e.providerMessageId
  let content ← b.jsonDocument e.content
  let rawRef ← b.varchar 500 e.rawRef
  return { e with
    eventType := eventType
    conversationId := conversationId
    actorWxid := actorWxid
    toWxid := toWxid
    providerMessageId := providerMessageId
    content := content
    rawRef := rawRef }

abbrev Key := UUID × Str × Str

def WebhookInbox.key (m : WebhookInbox) : Key := (m.geweConnectionId, m.appId, m.dedupKey)

def Received.key (r : Received) : Key := (r.connection.id, (r.envelope b).appId, r.dedupKey b)

/-- The primary key and the unique constraint of the inbox. -/
def clash (m n : WebhookInbox) : Bool := decide (m.id = n.id) || decide (m.key = n.key)

/-- The row that the two lookups ask for. -/
def asked (r : Received) (m : WebhookInbox) : Bool := decide (m.key = r.key b)

inductive IngestError where
  | conflict
  | database
  deriving DecidableEq, Repr

/-- What the provider is answered. -/
inductive Response where
  | accepted (r : Received)
  | duplicate (r : Received)
  | conflict (r : Received)
  | failed (r : Received)
  | rejected (statusCode : Nat)

/-- Where a request stands. -/
inductive Stage where
  | idle
  | connected (r : Received)
  | missing (r : Received)
  | violated (r : Received)
  | inserted (r : Received) (inbox : WebhookInbox)
  | added (r : Received) (inbox : WebhookInbox) (event : NormalizedEvent)
  | duplicate (r : Received)
  | raised (r : Received) (error : IngestError)

/-- The uncommitted inbox row of a request. -/
def Stage.pending : Stage → List WebhookInbox
  | .inserted _ inbox => [inbox]
  | .added _ inbox _ => [inbox]
  | _ => []

def Stage.received : Stage → Option Received
  | .idle => none
  | .connected r | .missing r | .violated r | .inserted r _ | .added r _ _ | .duplicate r
  | .raised r _ => some r

/-- `locks` has the sessions whose UPDATE of a connection is not committed. -/
structure World (ι τ : Type) where
  connections : Table GeweConnection.id
  locks : UUID → Option τ
  inboxes : List WebhookInbox
  events : List NormalizedEvent
  stage : τ → Stage
  responses : List Response
  workers : InboxWorker.World ι

/-- `crash` is any end of a request that the endpoint does not see. -/
inductive Action (ι τ : Type) where
  | register (connection : GeweConnection)
  | clearError (connectionId : UUID)
  | request (i : τ) (callbackSecret : Str) (rawBody : Bytes) (now : Time)
  | lookup (i : τ)
  | insert (i : τ) (id traceId : UUID) (now : Time)
  | lookupAgain (i : τ)
  | addEvent (i : τ) (id : UUID) (botAccountId : Option UUID)
  | commit (i : τ)
  | fail (i : τ)
  | crash (i : τ)
  | worker (a : InboxWorker.Action ι)

variable {ι τ : Type} [DecidableEq ι] [DecidableEq τ]

namespace World

def sessions (w : World ι τ) : Sessions WebhookInbox τ := ⟨w.inboxes, fun i => (w.stage i).pending⟩

def visible (w : World ι τ) (i : τ) : List WebhookInbox := w.sessions.visible i

def stageTo (w : World ι τ) (i : τ) (stage : Stage) : World ι τ :=
  { w with stage := Function.update w.stage i stage }

def respond (w : World ι τ) (response : Response) : World ι τ :=
  { w with responses := w.responses ++ [response] }

def unlock (w : World ι τ) (i : τ) : World ι τ :=
  { w with locks := fun id => if w.locks id = some i then none else w.locks id }

/-- The end of a session, without its changes. -/
def rollback (w : World ι τ) (i : τ) : World ι τ := (w.unlock i).stageTo i .idle

/-- The columns of the connection that the request has changed. -/
def writeConnection (w : World ι τ) (r : Received) : World ι τ :=
  match w.connections.find r.connection.id with
  | none => w
  | some stored => { w with connections := w.connections.save { stored with
      lastCallbackAt := column r.connection.lastCallbackAt r.called.lastCallbackAt
        stored.lastCallbackAt
      callbackVerifiedAt := column r.connection.callbackVerifiedAt r.called.callbackVerifiedAt
        stored.callbackVerifiedAt
      lastCallbackError := column r.connection.lastCallbackError r.called.lastCallbackError
        stored.lastCallbackError } }

end World

/-- The dispatcher handles the event without a plugin. -/
def needsNoPlugin (e : NormalizedEvent) : Bool :=
  decide (e.conversationType = .SYSTEM) || decide (e.eventType = callbackVerification)

namespace World

def lock (w : World ι τ) (i : τ) (r : Received) : Option (World ι τ) :=
  if r.called = r.connection then some w
  else match w.locks r.connection.id with
    | some j => if j = i then some w else none
    | none => some { w with locks := Function.update w.locks r.connection.id (some i) }

def request (w : World ι τ) (i : τ) (callbackSecret : Str) (rawBody : Bytes) (now : Time) :
    Option (World ι τ) :=
  match w.stage i with
  | .idle =>
    if b.maxBodyBytes < rawBody.length then some (w.respond (.rejected 413))
    else match b.loads rawBody with
      | .ok (.obj payload) =>
        match w.connections.rows.find? fun c =>
            decide (c.callbackSecretHash = b.sha256 (b.utf8 callbackSecret)) with
        | some connection => some (w.stageTo i (.connected ⟨connection, rawBody, payload, now⟩))
        | none => some (w.respond (.rejected 404))
      | .ok _ | .error .invalid => some (w.respond (.rejected 400))
      | .error .other => some (w.respond (.rejected 500))
  | _ => none

/-- What a lookup makes of the stored row. -/
def compare (r : Received) (existing : WebhookInbox) : Stage :=
  if existing.payloadSha256 = r.payloadSha256 b then .duplicate r else .raised r .conflict

/-- The first query flushes the connection; it waits for a session that has changed it. -/
def lookup (w : World ι τ) (i : τ) : Option (World ι τ) :=
  match w.stage i with
  | .connected r => (w.lock i r).map fun w =>
    if (b.queries (r.envelope b).appId && b.queries (r.dedupKey b)) = false then
      w.stageTo i (.raised r .database)
    else match (w.visible i).find? (asked b r) with
      | some existing => w.stageTo i (compare b r existing)
      | none => w.stageTo i (.missing r)
  | _ => none

def lookupAgain (w : World ι τ) (i : τ) : Option (World ι τ) :=
  match w.stage i with
  | .violated r => match (w.visible i).find? (asked b r) with
    | some raced => some (w.stageTo i (compare b r raced))
    | none => some (w.stageTo i (.raised r .conflict))
  | _ => none

/-- The event is written by the commit. -/
def addEvent (w : World ι τ) (i : τ) (id : UUID) (botAccountId : Option UUID) :
    Option (World ι τ) :=
  match w.stage i with
  | .inserted r inbox =>
    if id ∈ w.events.map (·.id) then none
    else some (w.stageTo i (.added r inbox (r.event b id inbox.id botAccountId)))
  | _ => none

def commit (options : InboxWorker.WorkerOptions) (w : World ι τ) (i : τ) : Option (World ι τ) :=
  match w.stage i with
  | .duplicate r => some (((w.writeConnection r).rollback i).respond (.duplicate r))
  | .added r inbox event =>
    match storeEvent b event with
    | none => some ((w.rollback i).respond (.failed r))
    | some event => (InboxWorker.step options w.workers (.receive event.id event.isSelf
        (needsNoPlugin event) inbox.dispatchAvailableAt)).map fun workers =>
          (({ w.writeConnection r with
            inboxes := w.inboxes ++ [inbox]
            events := w.events ++ [event]
            workers := workers } : World ι τ).rollback i).respond (.accepted r)
  | _ => none

def fail (w : World ι τ) (i : τ) : Option (World ι τ) :=
  match w.stage i with
  | .raised r .conflict => some ((w.rollback i).respond (.conflict r))
  | .raised r .database => some ((w.rollback i).respond (.failed r))
  | _ => none

def register (w : World ι τ) (connection : GeweConnection) : Option (World ι τ) :=
  if connection.callbackSecretHash ∈ w.connections.rows.map (·.callbackSecretHash) then none
  else (w.connections.insert connection).map fun connections =>
    { w with connections := connections }

/-- Another request clears the error of a connection. -/
def clearError (w : World ι τ) (connectionId : UUID) : Option (World ι τ) :=
  match w.locks connectionId with
  | some _ => none
  | none => (w.connections.find connectionId).map fun stored =>
    { w with connections := w.connections.save { stored with lastCallbackError := none } }

end World

/-- A webhook is what puts an event into the inbox of the workers. -/
def receives : InboxWorker.Action ι → Bool
  | .receive _ _ _ _ => true
  | _ => false

section Step

variable [Fintype τ]

/-- The insert in its savepoint; `uuid7` gives an id that no row has. -/
def World.insert (w : World ι τ) (i : τ) (id traceId : UUID) (now : Time) : Option (World ι τ) :=
  match w.stage i with
  | .missing r =>
    if id ∈ w.inboxes.map (·.id) then none
    else match storeInbox b (r.inbox b id traceId now) with
      | none => some (w.stageTo i (.raised r .database))
      | some row =>
        if w.sessions.violates clash i row then some (w.stageTo i (.violated r))
        else if w.sessions.Waits clash i row then none
        else some (w.stageTo i (.inserted r row))
  | _ => none

def step (options : InboxWorker.WorkerOptions) (w : World ι τ) : Action ι τ → Option (World ι τ)
  | .register connection => w.register connection
  | .clearError connectionId => w.clearError connectionId
  | .request i callbackSecret rawBody now => w.request b i callbackSecret rawBody now
  | .lookup i => w.lookup b i
  | .insert i id traceId now => w.insert b i id traceId now
  | .lookupAgain i => w.lookupAgain b i
  | .addEvent i id botAccountId => w.addEvent b i id botAccountId
  | .commit i => w.commit b options i
  | .fail i => w.fail i
  | .crash i => some (w.rollback i)
  | .worker a =>
    if receives a then none
    else (InboxWorker.step options w.workers a).map fun workers => { w with workers := workers }

end Step

def atRest (ι τ : Type) [DecidableEq ι] : World ι τ where
  connections := Table.empty _
  locks := fun _ => none
  inboxes := []
  events := []
  stage := fun _ => .idle
  responses := []
  workers := InboxWorker.atRest ι

/-- The request that takes the step. -/
def caller : Action ι τ → Option τ
  | .request i _ _ _ | .lookup i | .insert i _ _ _ | .lookupAgain i | .addEvent i _ _ | .commit i
  | .fail i | .crash i => some i
  | _ => none

/-- The bytes that a request brings. -/
def requestBody : Action ι τ → Option Bytes
  | .request _ _ rawBody _ => some rawBody
  | _ => none

/-- The delivery's payload is what its bytes say. -/
def Loaded (r : Received) : Prop := b.loads r.rawBody = .ok (.obj r.payload)

/-- The texts of the lookups can be sent. -/
def Queryable (r : Received) : Prop := b.queries (r.envelope b).appId = true ∧ b.queries (r.dedupKey b) = true

/-- Where a statement can take a request, and what it has seen on the way. -/
inductive Moves (w : World ι τ) (a : Action ι τ) (i : τ) : Stage → Prop where
  | connected (r : Received) (idle : w.stage i = .idle) (body : requestBody a = some r.rawBody)
      (loaded : Loaded b r) : Moves w a i (.connected r)
  | missing (r : Received) (was : w.stage i = .connected r) (queryable : Queryable b r)
      (none : ∀ m ∈ w.visible i, m.key ≠ r.key b) : Moves w a i (.missing r)
  | compared (r : Received) (m : WebhookInbox) (was : (w.stage i).received = some r)
      (own : (w.stage i).pending = []) (seen : m ∈ w.visible i) (key : m.key = r.key b) :
      Moves w a i (World.compare b r m)
  | violated (r : Received) (id traceId : UUID) (now : Time) (row m : WebhookInbox)
      (was : w.stage i = .missing r) (fresh : ∀ m ∈ w.inboxes, m.id ≠ id)
      (stored : storeInbox b (r.inbox b id traceId now) = some row) (seen : m ∈ w.visible i)
      (clashes : clash m row = true) : Moves w a i (.violated r)
  | inserted (r : Received) (id traceId : UUID) (now : Time) (row : WebhookInbox)
      (was : w.stage i = .missing r) (stored : storeInbox b (r.inbox b id traceId now) = some row)
      (unseen : w.sessions.violates clash i row = false) (free : ¬ w.sessions.Waits clash i row) :
      Moves w a i (.inserted r row)
  | added (r : Received) (row : WebhookInbox) (id : UUID) (botAccountId : Option UUID)
      (was : w.stage i = .inserted r row) (fresh : ∀ e ∈ w.events, e.id ≠ id) :
      Moves w a i (.added r row (r.event b id row.id botAccountId))
  | unsent (r : Received) (was : w.stage i = .connected r) (unqueryable : ¬ Queryable b r) :
      Moves w a i (.raised r .database)
  | unstored (r : Received) (id traceId : UUID) (now : Time) (was : w.stage i = .missing r)
      (refused : storeInbox b (r.inbox b id traceId now) = none) : Moves w a i (.raised r .database)
  | unfound (r : Received) (was : w.stage i = .violated r)
      (none : ∀ m ∈ w.visible i, m.key ≠ r.key b) : Moves w a i (.raised r .conflict)

/-- How a request ends other than by storing its delivery. -/
inductive Ends : Stage → Option Response → Prop where
  | crashed (stage : Stage) : Ends stage none
  | rejected (statusCode : Nat) : Ends .idle (some (.rejected statusCode))
  | duplicate (r : Received) : Ends (.duplicate r) (some (.duplicate r))
  | conflict (r : Received) : Ends (.raised r .conflict) (some (.conflict r))
  | refused (r : Received) : Ends (.raised r .database) (some (.failed r))
  | uncommitted (r : Received) (inbox : WebhookInbox) (event : NormalizedEvent)
      (refused : storeEvent b event = none) : Ends (.added r inbox event) (some (.failed r))

/-- The step leaves the stored rows and the workers as they are. -/
structure Frame (w w' : World ι τ) : Prop where
  inboxes : w'.inboxes = w.inboxes
  events : w'.events = w.events
  workers : w'.workers = w.workers

inductive Change (options : InboxWorker.WorkerOptions) (w w' : World ι τ) : Action ι τ → Prop where
  | administered (a : Action ι τ) (calls : caller a = none) (frame : Frame w w')
      (stage : w'.stage = w.stage)
      (responses : w'.responses = w.responses) : Change options w w' a
  | moved (a : Action ι τ) (i : τ) (next : Stage) (calls : caller a = some i) (frame : Frame w w')
      (stage : w'.stage = Function.update w.stage i next) (responses : w'.responses = w.responses)
      (moves : Moves b w a i next) : Change options w w' a
  | ended (a : Action ι τ) (i : τ) (response : Option Response) (calls : caller a = some i)
      (frame : Frame w w') (stage : w'.stage = Function.update w.stage i .idle)
      (responses : w'.responses = w.responses ++ response.toList)
      (ends : Ends b (w.stage i) response) : Change options w w' a
  | stored (i : τ) (r : Received) (inbox : WebhookInbox) (added event : NormalizedEvent)
      (was : w.stage i = .added r inbox added) (stored : storeEvent b added = some event)
      (inboxes : w'.inboxes = w.inboxes ++ [inbox]) (events : w'.events = w.events ++ [event])
      (stage : w'.stage = Function.update w.stage i .idle)
      (responses : w'.responses = w.responses ++ [.accepted r])
      (workers : InboxWorker.step options w.workers (.receive event.id event.isSelf
        (needsNoPlugin event) inbox.dispatchAvailableAt) = some w'.workers) :
      Change options w w' (.commit i)
  | worked (a : InboxWorker.Action ι) (inboxes : w'.inboxes = w.inboxes)
      (events : w'.events = w.events) (stage : w'.stage = w.stage)
      (responses : w'.responses = w.responses) (other : receives a = false)
      (workers : InboxWorker.step options w.workers a = some w'.workers) :
      Change options w w' (.worker a)

variable {b} {options : InboxWorker.WorkerOptions} {w w' : World ι τ} {i : τ}

omit [DecidableEq ι] [DecidableEq τ] in
theorem Frame.refl (w : World ι τ) : Frame w w := ⟨rfl, rfl, rfl⟩

omit [DecidableEq ι] in
theorem update_idle (h : w.stage i = .idle) : w.stage = Function.update w.stage i .idle := by
  rw [← h, Function.update_eq_self]

theorem asked_none {rows : List WebhookInbox} {r : Received} (h : rows.find? (asked b r) = none) :
    ∀ m ∈ rows, m.key ≠ r.key b := by
  intro m hm
  simpa [asked] using List.find?_eq_none.mp h m hm

theorem asked_some {rows : List WebhookInbox} {r : Received} {m : WebhookInbox}
    (h : rows.find? (asked b r) = some m) : m ∈ rows ∧ m.key = r.key b :=
  ⟨List.mem_of_find?_eq_some h, by simpa [asked] using List.find?_some h⟩

omit [DecidableEq ι] in
theorem lock_frame {locked : World ι τ} {r : Received} (h : w.lock i r = some locked) :
    Frame w locked ∧ locked.stage = w.stage ∧ locked.responses = w.responses := by
  unfold World.lock at h
  split at h
  · cases h
    exact ⟨.refl w, rfl, rfl⟩
  split at h
  · split at h
    · cases h
      exact ⟨.refl w, rfl, rfl⟩
    · cases h
  · cases h
    exact ⟨⟨rfl, rfl, rfl⟩, rfl, rfl⟩

theorem request_change {secret : Str} {rawBody : Bytes} {now : Time}
    (h : w.request b i secret rawBody now = some w') :
    Change b options w w' (.request i secret rawBody now) := by
  unfold World.request at h
  split at h
  · rename_i hidle
    have hrejected : ∀ statusCode, Change b options w (w.respond (.rejected statusCode))
        (.request i secret rawBody now) := by
      intro statusCode
      refine .ended _ i (some (.rejected statusCode)) rfl ⟨rfl, rfl, rfl⟩ (update_idle hidle) rfl ?_
      rw [hidle]
      exact .rejected statusCode
    split at h
    · cases h
      exact hrejected 413
    split at h
    · rename_i payload hloads
      split at h
      · rename_i connection hfound
        cases h
        exact .moved _ i _ rfl ⟨rfl, rfl, rfl⟩ rfl rfl (.connected _ hidle rfl hloads)
      · cases h
        exact hrejected 404
    · cases h
      exact hrejected 400
    · cases h
      exact hrejected 400
    · cases h
      exact hrejected 500
  · cases h

theorem lookup_change (h : w.lookup b i = some w') : Change b options w w' (.lookup i) := by
  unfold World.lookup at h
  split at h
  · rename_i r hconnected
    obtain ⟨locked, hlock, rfl⟩ := Option.map_eq_some_iff.mp h
    obtain ⟨hframe, hstage, hresponses⟩ := lock_frame hlock
    have hvisible : locked.visible i = w.visible i := by
      unfold World.visible World.sessions
      rw [hframe.inboxes, hstage]
    have hmoved : ∀ next, Moves b w (.lookup i) i next →
        Change b options w (locked.stageTo i next) (.lookup i) := by
      intro next hnext
      refine .moved _ i next rfl ⟨hframe.inboxes, hframe.events, hframe.workers⟩ ?_ hresponses hnext
      exact congrArg (fun stage => Function.update stage i next) hstage
    split
    · rename_i hqueries
      apply hmoved
      refine .unsent r hconnected ?_
      rintro ⟨happ, hkey⟩
      simp [happ, hkey] at hqueries
    rename_i hqueries
    have hqueryable : Queryable b r := by simpa [Queryable] using hqueries
    rw [hvisible]
    cases hfind : (w.visible i).find? (asked b r) with
    | some existing =>
      obtain ⟨hseen, hkey⟩ := asked_some hfind
      apply hmoved
      refine .compared r existing ?_ ?_ hseen hkey
      · rw [hconnected]
        rfl
      · rw [hconnected]
        rfl
    | none =>
      apply hmoved
      exact .missing r hconnected hqueryable (asked_none hfind)
  · cases h

theorem insert_change [Fintype τ] {id traceId : UUID} {now : Time}
    (h : w.insert b i id traceId now = some w') :
    Change b options w w' (.insert i id traceId now) := by
  unfold World.insert at h
  split at h
  · rename_i r hmissing
    have hmoved : ∀ next, Moves b w (.insert i id traceId now) i next →
        Change b options w (w.stageTo i next) (.insert i id traceId now) := by
      intro next hnext
      exact .moved _ i next rfl ⟨rfl, rfl, rfl⟩ rfl rfl hnext
    split at h
    · cases h
    rename_i hused
    split at h
    · rename_i hrefused
      cases h
      exact hmoved _ (.unstored r id traceId now hmissing hrefused)
    rename_i row hstored
    split at h
    · rename_i hviolates
      obtain ⟨m, hseen, hclash⟩ := violates_iff.mp hviolates
      cases h
      apply hmoved
      refine .violated r id traceId now row m hmissing ?_ hstored hseen hclash
      intro n hn hid
      exact hused (List.mem_map.mpr ⟨n, hn, hid⟩)
    rename_i hunseen
    split at h
    · cases h
    rename_i hfree
    cases h
    exact hmoved _ (.inserted r id traceId now row hmissing hstored (by simpa using hunseen) hfree)
  · cases h

theorem lookupAgain_change (h : w.lookupAgain b i = some w') :
    Change b options w w' (.lookupAgain i) := by
  unfold World.lookupAgain at h
  split at h
  · rename_i r hviolated
    split at h
    · rename_i raced hfind
      obtain ⟨hseen, hkey⟩ := asked_some hfind
      cases h
      refine .moved _ i _ rfl ⟨rfl, rfl, rfl⟩ rfl rfl (.compared r raced ?_ ?_ hseen hkey)
      · rw [hviolated]
        rfl
      · rw [hviolated]
        rfl
    · rename_i hfind
      cases h
      exact .moved _ i _ rfl ⟨rfl, rfl, rfl⟩ rfl rfl (.unfound r hviolated (asked_none hfind))
  · cases h

theorem addEvent_change {id : UUID} {botAccountId : Option UUID}
    (h : w.addEvent b i id botAccountId = some w') :
    Change b options w w' (.addEvent i id botAccountId) := by
  unfold World.addEvent at h
  split at h
  · rename_i r row hinserted
    split at h
    · cases h
    rename_i hused
    cases h
    refine .moved _ i _ rfl ⟨rfl, rfl, rfl⟩ rfl rfl (.added r row id botAccountId hinserted ?_)
    intro e he hid
    exact hused (List.mem_map.mpr ⟨e, he, hid⟩)
  · cases h

omit [DecidableEq ι] [DecidableEq τ] in
theorem writeConnection_frame (w : World ι τ) (r : Received) :
    Frame w (w.writeConnection r) ∧ (w.writeConnection r).stage = w.stage ∧
      (w.writeConnection r).responses = w.responses := by
  unfold World.writeConnection
  cases w.connections.find r.connection.id with
  | none => exact ⟨.refl w, rfl, rfl⟩
  | some stored => exact ⟨⟨rfl, rfl, rfl⟩, rfl, rfl⟩

theorem commit_change (h : w.commit b options i = some w') : Change b options w w' (.commit i) := by
  unfold World.commit at h
  split at h
  · rename_i r hduplicate
    cases h
    obtain ⟨hframe, hstage, hresponses⟩ := writeConnection_frame w r
    refine .ended _ i (some (.duplicate r)) rfl ⟨hframe.inboxes, hframe.events, hframe.workers⟩ ?_ ?_ ?_
    · exact congrArg (fun stage => Function.update stage i .idle) hstage
    · exact congrArg (· ++ [.duplicate r]) hresponses
    · rw [hduplicate]
      exact .duplicate r
  · rename_i r inbox added hadded
    split at h
    · rename_i hrefused
      cases h
      refine .ended _ i (some (.failed r)) rfl ⟨rfl, rfl, rfl⟩ rfl rfl ?_
      rw [hadded]
      exact .uncommitted r inbox added hrefused
    · rename_i event hstored
      obtain ⟨workers, hworkers, rfl⟩ := Option.map_eq_some_iff.mp h
      obtain ⟨-, hstage, hresponses⟩ := writeConnection_frame w r
      refine .stored i r inbox added event hadded hstored rfl rfl ?_ ?_ hworkers
      · exact congrArg (fun stage => Function.update stage i .idle) hstage
      · exact congrArg (· ++ [.accepted r]) hresponses
  · cases h

theorem fail_change (h : w.fail i = some w') : Change b options w w' (.fail i) := by
  unfold World.fail at h
  split at h
  · rename_i r hraised
    cases h
    refine .ended _ i (some (.conflict r)) rfl ⟨rfl, rfl, rfl⟩ rfl rfl ?_
    rw [hraised]
    exact .conflict r
  · rename_i r hraised
    cases h
    refine .ended _ i (some (.failed r)) rfl ⟨rfl, rfl, rfl⟩ rfl rfl ?_
    rw [hraised]
    exact .refused r
  · cases h

theorem register_change {connection : GeweConnection} (h : w.register connection = some w') :
    Change b options w w' (.register connection) := by
  unfold World.register at h
  split at h
  · cases h
  · obtain ⟨connections, -, rfl⟩ := Option.map_eq_some_iff.mp h
    exact .administered _ rfl ⟨rfl, rfl, rfl⟩ rfl rfl

theorem clearError_change {connectionId : UUID} (h : w.clearError connectionId = some w') :
    Change b options w w' (.clearError connectionId) := by
  unfold World.clearError at h
  split at h
  · cases h
  · obtain ⟨stored, -, rfl⟩ := Option.map_eq_some_iff.mp h
    exact .administered _ rfl ⟨rfl, rfl, rfl⟩ rfl rfl

/-- Every step is one of the changes of `Change`. -/
theorem step_change [Fintype τ] {a : Action ι τ} (h : step b options w a = some w') :
    Change b options w w' a := by
  cases a with
  | register connection => exact register_change h
  | clearError connectionId => exact clearError_change h
  | request i callbackSecret rawBody now => exact request_change h
  | lookup i => exact lookup_change h
  | insert i id traceId now => exact insert_change h
  | lookupAgain i => exact lookupAgain_change h
  | addEvent i id botAccountId => exact addEvent_change h
  | commit i => exact commit_change h
  | fail i => exact fail_change h
  | crash i =>
    cases h
    exact .ended _ i none rfl ⟨rfl, rfl, rfl⟩ rfl (List.append_nil _).symm (.crashed _)
  | worker a =>
    simp only [step] at h
    split at h
    · cases h
    · rename_i hother
      obtain ⟨workers, hworkers, rfl⟩ := Option.map_eq_some_iff.mp h
      exact .worked a rfl rfl rfl rfl (by simpa using hother) hworkers

end WechatBot.WebhookIngest
