import WechatBot.PersistedJson
import WechatBot.Records
import WechatBot.Tables
import WechatBot.Timestamps

/-!
# The task-agent service

Sessions, runs, questions, and the inbox and event log of each session. An operation
keeps its writes when it raises a `TaskAgentError`: whether the caller rolls them back is
the caller's affair. An error of the database aborts the transaction.
-/
namespace WechatBot.TaskAgent

open PyData Records PersistedJson
open Timestamps (isoformat)
open Tables (Table)

inductive AgentRunStatus where
  | QUEUED | RUNNING | WAITING_APPROVAL | WAITING_USER | PAUSED
  | COMPLETED | FAILED | CANCELLED | EXPIRED
  deriving DecidableEq, Repr

def AgentRunStatus.value : AgentRunStatus → String
  | .QUEUED => "QUEUED"
  | .RUNNING => "RUNNING"
  | .WAITING_APPROVAL => "WAITING_APPROVAL"
  | .WAITING_USER => "WAITING_USER"
  | .PAUSED => "PAUSED"
  | .COMPLETED => "COMPLETED"
  | .FAILED => "FAILED"
  | .CANCELLED => "CANCELLED"
  | .EXPIRED => "EXPIRED"

def activeRunStatuses : List AgentRunStatus :=
  [.QUEUED, .RUNNING, .WAITING_APPROVAL, .WAITING_USER, .PAUSED]

def terminalRunStatuses : List AgentRunStatus := [.COMPLETED, .FAILED, .CANCELLED, .EXPIRED]

def allowedTransitions : AgentRunStatus → List AgentRunStatus
  | .QUEUED => [.RUNNING, .PAUSED, .FAILED, .CANCELLED, .EXPIRED]
  | .RUNNING =>
    [.QUEUED, .WAITING_APPROVAL, .WAITING_USER, .PAUSED, .COMPLETED, .FAILED, .CANCELLED, .EXPIRED]
  | .WAITING_APPROVAL => [.QUEUED, .PAUSED, .FAILED, .CANCELLED, .EXPIRED]
  | .WAITING_USER => [.QUEUED, .FAILED, .CANCELLED, .EXPIRED]
  | .PAUSED => [.QUEUED, .FAILED, .CANCELLED, .EXPIRED]
  | .COMPLETED => []
  | .FAILED => []
  | .CANCELLED => []
  | .EXPIRED => []

inductive PendingQuestionStatus where
  | PENDING | ANSWERED | EXPIRED | CANCELLED
  deriving DecidableEq, Repr

inductive AgentInboxKind where
  | RUN_REQUEST | QUESTION_ANSWER
  deriving DecidableEq, Repr

structure AgentSession where
  id : UUID
  workspaceId : UUID
  agentVersionId : UUID
  requesterPrincipalId : UUID
  taskScope : Json
  taskScopeSha256 : Str
  lastInboxSeq : Nat
  lastEventSeq : Nat

structure AgentRun where
  id : UUID
  sessionId : UUID
  idempotencyKey : Str
  inputPayload : Json
  inputSha256 : Str
  status : AgentRunStatus
  activeSlot : Option Nat
  startedAt : Option Time
  finishedAt : Option Time
  lastErrorCode : Option Str

structure PendingQuestion where
  id : UUID
  sessionId : UUID
  runId : UUID
  allowedPrincipalId : UUID
  prompt : Str
  context : Json
  status : PendingQuestionStatus
  openSlot : Option Nat
  expiresAt : Time
  answeredAt : Option Time
  answeredByPrincipalId : Option UUID
  answerPayload : Option Json
  answerSha256 : Option Str
  answerInboxSeq : Option Nat
  closedAt : Option Time

structure AgentSessionInbox where
  sessionId : UUID
  seq : Nat
  kind : AgentInboxKind
  runId : UUID
  actorPrincipalId : UUID
  questionId : Option UUID
  payload : Json
  payloadSha256 : Str

/-- The payload of an event, a constructor for each event type. -/
inductive EventPayload where
  | sessionCreated (agentVersionId requesterPrincipalId : UUID) (taskScopeSha256 : Str)
  | runCreated (idempotencyKey inputSha256 : Str) (inboxSeq : Nat) (status : AgentRunStatus)
  | runStatusChanged (source target : AgentRunStatus) (reason errorCode : Option Str)
  | questionAsked (allowedPrincipalId : UUID) (expiresAt : Time)
  | questionAnswered (answerSha256 : Str) (inboxSeq : Nat) (answerMode : String)
      (actorPrincipalId : UUID) (reason : Option Str)
  deriving DecidableEq, Repr

structure AgentEvent where
  sessionId : UUID
  seq : Nat
  runId : Option UUID
  questionId : Option UUID
  payload : EventPayload
  deriving DecidableEq, Repr

/-- `versions` pairs an agent version with the workspace of its definition. -/
structure Database where
  workspaces : List UUID
  principals : List Principal
  versions : List (UUID × UUID)
  sessions : Table AgentSession.id
  runs : Table AgentRun.id
  questions : Table PendingQuestion.id
  inbox : List AgentSessionInbox
  events : List AgentEvent

def Database.empty : Database where
  workspaces := []
  principals := []
  versions := []
  sessions := Table.empty _
  runs := Table.empty _
  questions := Table.empty _
  inbox := []
  events := []

structure AgentSessionCreate where
  workspaceId : UUID
  agentVersionId : UUID
  requesterPrincipalId : UUID
  taskScope : PyDict

structure AgentRunCreate where
  idempotencyKey : Str
  inputPayload : PyDict
  keyShort : idempotencyKey.length ≤ 255
  keyNonblank : idempotencyKey ≠ []

/-- `AgentRunCreate.model_validate`: the bounds hold of the text before it is stripped. -/
def AgentRunCreate.build (idempotencyKey : Str) (inputPayload : PyDict) : Option AgentRunCreate :=
  if h : (encodable idempotencyKey = true ∧ 1 ≤ idempotencyKey.length ∧
      idempotencyKey.length ≤ 255) ∧ strip idempotencyKey ≠ [] then
    some ⟨strip idempotencyKey, inputPayload, (length_strip_le _).trans h.1.2.2, h.2⟩
  else none

structure AgentRunTransition where
  status : AgentRunStatus
  reason : Option Str
  errorCode : Option Str
  reasonShort : ∀ text ∈ reason, text.length ≤ 500
  errorCodeShort : ∀ text ∈ errorCode, text.length ≤ 100

structure PendingQuestionCreate where
  allowedPrincipalId : UUID
  prompt : Str
  context : PyDict
  expiresAt : Time
  promptShort : prompt.length ≤ 4000
  promptNonblank : prompt ≠ []

structure PendingQuestionAnswer where
  principalId : UUID
  answerPayload : PyDict

structure PendingQuestionOverrideAnswer where
  answerPayload : PyDict
  reason : Str
  reasonShort : reason.length ≤ 500
  reasonNonblank : reason ≠ []

inductive TaskAgentError where
  | notFound (detail : String)
  | conflict (detail : String)
  | runIdempotencyConflict (detail : String)
  | activeRunConflict (detail : String)
  | invalidRunTransition (detail : String)
  | pendingQuestionConflict (detail : String)
  | questionAnswerForbidden (detail : String)
  | questionExpired (detail : String)
  | questionAlreadyConsumed (detail : String)
  | persistedJsonValidation (detail : Str)
  | databaseError
  deriving DecidableEq, Repr

/-- What the service takes from its platform. `json` is a JSON column: the value a later
SELECT gives back for the one written, or a document that the database refuses.
`takesText` is the same for the text of a parameter, and `integerMax` the largest value of
an Integer column. -/
structure Platform where
  takesText : Str → Bool
  json : Json → Option Json
  integerMax : Nat
  integerMaxLt : integerMax < 2 ^ 64
  sha256 : Str → Str
  sha256Length : ∀ raw, (sha256 raw).length = 64

abbrev Tx := EStateM TaskAgentError Database

variable (p : Platform)

def normalized (value : PyDict) (fieldName : String) : Tx (Json × Str) :=
  match normalizeJson p.sha256 value fieldName with
  | .ok result => pure result
  | .error detail => throw (.persistedJsonValidation detail)

def storeText (text : Str) : Tx Unit :=
  if p.takesText text = true then pure () else throw .databaseError

def storeJson (value : Json) : Tx Json :=
  match p.json value with
  | some stored => pure stored
  | none => throw .databaseError

def storeInteger (n : Nat) : Tx Unit :=
  if p.integerMax < n then throw .databaseError else pure ()

def lockedWorkspace (workspaceId : Option UUID) : Tx UUID := do
  let s ← get
  match s.workspaces.filter fun workspace => workspaceId.all (· == workspace) with
  | [] => throw (.notFound "workspace not found")
  | [workspace] => return workspace
  | _ => throw (.conflict "this release supports exactly one workspace")

def lockedSession (sessionId : UUID) (workspaceId : Option UUID) : Tx AgentSession := do
  let workspace ← lockedWorkspace workspaceId
  let s ← get
  match s.sessions.find sessionId with
  | none => throw (.notFound "agent session not found")
  | some agentSession =>
    if agentSession.workspaceId ≠ workspace then throw (.notFound "agent session not found")
    else return agentSession

def lockedRun (runId : UUID) (workspaceId : Option UUID) : Tx (AgentSession × AgentRun) := do
  let workspace ← lockedWorkspace workspaceId
  let s ← get
  match s.runs.find runId with
  | none => throw (.notFound "agent run not found")
  | some run =>
    match s.sessions.find run.sessionId with
    | none => throw (.notFound "agent run not found")
    | some agentSession =>
      if agentSession.workspaceId ≠ workspace then throw (.notFound "agent run not found")
      else return (agentSession, run)

def lockedQuestion (questionId : UUID) (workspaceId : Option UUID) :
    Tx (AgentSession × AgentRun × PendingQuestion) := do
  let workspace ← lockedWorkspace workspaceId
  let s ← get
  match s.questions.find questionId with
  | none => throw (.notFound "pending question not found")
  | some question =>
    match s.runs.find question.runId, s.sessions.find question.sessionId with
    | some run, some agentSession =>
      if run.sessionId ≠ agentSession.id ∨ agentSession.workspaceId ≠ workspace then
        throw (.notFound "pending question not found")
      else return (agentSession, run, question)
    | _, _ => throw (.notFound "pending question not found")

def requirePrincipal (principalId workspaceId : UUID) : Tx Unit := do
  let s ← get
  if s.principals.any fun principal => decide (principal.id = principalId ∧
      principal.workspaceId = workspaceId ∧ principal.active = true) then return ()
  else throw (.notFound "active principal not found in workspace")

def isOpenOf (runId : UUID) (question : PendingQuestion) : Bool :=
  decide (question.runId = runId ∧ question.openSlot = some 1)

def openQuestion (runId : UUID) : Tx (Option PendingQuestion) := do
  let s ← get
  return s.questions.rows.find? (isOpenOf runId)

def optionalText : Option Str → PyValue
  | some text => .str text
  | none => .null

def EventPayload.entries : EventPayload → List (String × PyValue)
  | .sessionCreated agentVersionId requesterPrincipalId taskScopeSha256 =>
    [("agent_version_id", .str (uuidStr agentVersionId)),
      ("requester_principal_id", .str (uuidStr requesterPrincipalId)),
      ("task_scope_sha256", .str taskScopeSha256)]
  | .runCreated idempotencyKey inputSha256 inboxSeq status =>
    [("idempotency_key", .str idempotencyKey), ("input_sha256", .str inputSha256),
      ("inbox_seq", .int inboxSeq), ("status", .str (py status.value))]
  | .runStatusChanged source target reason errorCode =>
    [("from", .str (py source.value)), ("to", .str (py target.value)),
      ("reason", optionalText reason), ("error_code", optionalText errorCode)]
  | .questionAsked allowedPrincipalId expiresAt =>
    [("allowed_principal_id", .str (uuidStr allowedPrincipalId)),
      ("expires_at", .str (isoformat expiresAt))]
  | .questionAnswered answerSha256 inboxSeq answerMode actorPrincipalId reason =>
    [("answer_sha256", .str answerSha256), ("inbox_seq", .int inboxSeq),
      ("answer_mode", .str (py answerMode)), ("actor_principal_id", .str (uuidStr actorPrincipalId)),
      ("reason", optionalText reason)]

def EventPayload.document (payload : EventPayload) : PyDict :=
  payload.entries.map fun entry => (.str (py entry.1), entry.2)

/-- `last_inbox_seq += 1`. -/
def AgentSession.countItem (agentSession : AgentSession) : AgentSession :=
  { agentSession with lastInboxSeq := agentSession.lastInboxSeq + 1 }

/-- `last_event_seq += 1`. -/
def AgentSession.countEvent (agentSession : AgentSession) : AgentSession :=
  { agentSession with lastEventSeq := agentSession.lastEventSeq + 1 }

/-- The item that the counted session numbers. -/
def newItem (agentSession : AgentSession) (runId actorPrincipalId : UUID) (kind : AgentInboxKind)
    (payload : Json) (payloadSha256 : Str) (questionId : Option UUID) : AgentSessionInbox where
  sessionId := agentSession.id
  seq := agentSession.lastInboxSeq
  kind := kind
  runId := runId
  actorPrincipalId := actorPrincipalId
  questionId := questionId
  payload := payload
  payloadSha256 := payloadSha256

def newEvent (agentSession : AgentSession) (runId questionId : Option UUID)
    (payload : EventPayload) : AgentEvent where
  sessionId := agentSession.id
  seq := agentSession.lastEventSeq
  runId := runId
  questionId := questionId
  payload := payload

def Database.addItem (s : Database) (agentSession : AgentSession) (item : AgentSessionInbox) :
    Database :=
  { s with sessions := s.sessions.save agentSession, inbox := s.inbox ++ [item] }

def Database.addEvent (s : Database) (agentSession : AgentSession) (event : AgentEvent) :
    Database :=
  { s with sessions := s.sessions.save agentSession, events := s.events ++ [event] }

def appendInboxLocked (agentSession : AgentSession) (runId actorPrincipalId : UUID)
    (kind : AgentInboxKind) (payload : Json) (payloadSha256 : Str) (questionId : Option UUID) :
    Tx (AgentSession × AgentSessionInbox) := do
  storeInteger p agentSession.countItem.lastInboxSeq
  let stored ← storeJson p payload
  let item :=
    newItem agentSession.countItem runId actorPrincipalId kind stored payloadSha256 questionId
  modify fun s => s.addItem agentSession.countItem item
  return (agentSession.countItem, item)

def appendEventLocked (agentSession : AgentSession) (runId questionId : Option UUID)
    (payload : EventPayload) : Tx AgentSession := do
  let (document, _) ← normalized p payload.document "event payload"
  storeInteger p agentSession.countEvent.lastEventSeq
  let _ ← storeJson p document
  modify fun s =>
    s.addEvent agentSession.countEvent (newEvent agentSession.countEvent runId questionId payload)
  return agentSession.countEvent

/-- The run after the assignments of `_transition_locked`. -/
def moved (run : AgentRun) (target : AgentRunStatus) (errorCode : Option Str) (now : Time) :
    AgentRun :=
  let run := { run with status := target, lastErrorCode := errorCode }
  let run :=
    if target = .RUNNING ∧ run.startedAt = none then { run with startedAt := some now } else run
  if target ∈ terminalRunStatuses then { run with activeSlot := none, finishedAt := some now }
  else if target ∈ activeRunStatuses then { run with activeSlot := some 1, finishedAt := none }
  else run

/-- A question under `_close_open_questions`. -/
def closed (runId : UUID) (expired : Bool) (now : Time) (question : PendingQuestion) :
    PendingQuestion :=
  if isOpenOf runId question then
    { question with
      status := if expired then .EXPIRED else .CANCELLED
      openSlot := none
      closedAt := some now }
  else question

theorem closed_id (runId : UUID) (expired : Bool) (now : Time) (question : PendingQuestion) :
    (closed runId expired now question).id = question.id := by
  unfold closed
  split <;> rfl

def closeOpenQuestions (runId : UUID) (expired : Bool) (now : Time)
    (questions : Table PendingQuestion.id) : Table PendingQuestion.id :=
  questions.mapRows (closed runId expired now) (closed_id runId expired now)

def Database.saveMoved (s : Database) (run : AgentRun) (now : Time) : Database :=
  { s with
    runs := s.runs.save run
    questions :=
      if run.status ∈ terminalRunStatuses then
        closeOpenQuestions run.id (run.status == .EXPIRED) now s.questions
      else s.questions }

def transitionLocked (agentSession : AgentSession) (run : AgentRun) (target : AgentRunStatus)
    (reason errorCode : Option Str) (now : Time) : Tx (AgentSession × AgentRun) := do
  let source := run.status
  if target ∉ allowedTransitions source then
    throw (.invalidRunTransition
      ("run cannot transition from " ++ source.value ++ " to " ++ target.value))
  (errorCode.map (storeText p)).getD (pure ())
  let run := moved run target errorCode now
  modify fun s => s.saveMoved run now
  let agentSession ← appendEventLocked p agentSession (some run.id) none
    (.runStatusChanged source target reason errorCode)
  return (agentSession, run)

def newSession (id : UUID) (payload : AgentSessionCreate) (taskScope : Json)
    (taskScopeSha256 : Str) : AgentSession where
  id := id
  workspaceId := payload.workspaceId
  agentVersionId := payload.agentVersionId
  requesterPrincipalId := payload.requesterPrincipalId
  taskScope := taskScope
  taskScopeSha256 := taskScopeSha256
  lastInboxSeq := 0
  lastEventSeq := 0

/-- `id` is the identifier drawn for the new row. -/
def createSession (id : UUID) (payload : AgentSessionCreate) : Tx AgentSession := do
  let workspace ← lockedWorkspace (some payload.workspaceId)
  let s ← get
  if (payload.agentVersionId, workspace) ∉ s.versions then
    throw (.notFound "agent version not found in workspace")
  requirePrincipal payload.requesterPrincipalId payload.workspaceId
  let (taskScope, taskScopeSha256) ← normalized p payload.taskScope "task_scope"
  let stored ← storeJson p taskScope
  let agentSession := newSession id payload stored taskScopeSha256
  match s.sessions.insert agentSession with
  | none => throw .databaseError
  | some sessions =>
    set { s with sessions }
    appendEventLocked p agentSession none none
      (.sessionCreated payload.agentVersionId payload.requesterPrincipalId taskScopeSha256)

def findRunByKey (sessionId : UUID) (idempotencyKey : Str) : Tx (Option AgentRun) := do
  storeText p idempotencyKey
  let s ← get
  return s.runs.rows.find? fun run =>
    decide (run.sessionId = sessionId ∧ run.idempotencyKey = idempotencyKey)

def findActiveRun (sessionId : UUID) : Tx (Option AgentRun) := do
  let s ← get
  return s.runs.rows.find? fun run =>
    decide (run.sessionId = sessionId ∧ run.activeSlot = some 1)

def resolveIdempotentRun (existing : AgentRun) (inputPayload : Json) (inputSha256 : Str) :
    Tx AgentRun :=
  if existing.inputSha256 ≠ inputSha256 ∨ pyEq existing.inputPayload inputPayload = false then
    throw (.runIdempotencyConflict "idempotency key is already bound to different input")
  else pure existing

/-- The two unique constraints of the run table besides its primary key. -/
def clashes (run other : AgentRun) : Bool :=
  decide (other.sessionId = run.sessionId ∧ (other.idempotencyKey = run.idempotencyKey ∨
    (run.activeSlot ≠ none ∧ other.activeSlot = run.activeSlot)))

/-- The insert inside its savepoint; `false` for an `IntegrityError`. -/
def insertRun (run : AgentRun) : Tx Bool := do
  storeText p run.idempotencyKey
  let stored ← storeJson p run.inputPayload
  let s ← get
  if s.runs.rows.any (clashes run) then return false
  match s.runs.insert { run with inputPayload := stored } with
  | none => return false
  | some runs =>
    set { s with runs }
    return true

def newRun (id sessionId : UUID) (idempotencyKey : Str) (inputPayload : Json)
    (inputSha256 : Str) : AgentRun where
  id := id
  sessionId := sessionId
  idempotencyKey := idempotencyKey
  inputPayload := inputPayload
  inputSha256 := inputSha256
  status := .QUEUED
  activeSlot := some 1
  startedAt := none
  finishedAt := none
  lastErrorCode := none

/-- The rows that come with a new run. -/
def recordRunRequest (agentSession : AgentSession) (run : AgentRun) : Tx Unit := do
  let (agentSession, item) ← appendInboxLocked p agentSession run.id
    agentSession.requesterPrincipalId .RUN_REQUEST run.inputPayload run.inputSha256 none
  let _ ← appendEventLocked p agentSession (some run.id) none
    (.runCreated run.idempotencyKey run.inputSha256 item.seq run.status)

def createRun (id sessionId : UUID) (payload : AgentRunCreate) (workspaceId : Option UUID) :
    Tx AgentRun := do
  let (inputPayload, inputSha256) ← normalized p payload.inputPayload "input_payload"
  let agentSession ← lockedSession sessionId workspaceId
  match ← findRunByKey p sessionId payload.idempotencyKey with
  | some existing => resolveIdempotentRun existing inputPayload inputSha256
  | none =>
    if (← findActiveRun sessionId).isSome then
      throw (.activeRunConflict "session already has an active run")
    let run := newRun id sessionId payload.idempotencyKey inputPayload inputSha256
    if ← insertRun p run then
      recordRunRequest p agentSession run
      return run
    else
      match ← findRunByKey p sessionId payload.idempotencyKey with
      | some raced => resolveIdempotentRun raced inputPayload inputSha256
      | none => throw (.activeRunConflict "session already has an active run")

/-- `clock` gives the successive readings of the clock. -/
def transitionRun (runId : UUID) (payload : AgentRunTransition) (workspaceId : Option UUID)
    (clock : Nat → Time) : Tx AgentRun := do
  let (agentSession, run) ← lockedRun runId workspaceId
  if run.status = .WAITING_USER ∧ payload.status = .QUEUED then
    if (← openQuestion run.id).isSome then
      throw (.invalidRunTransition
        "WAITING_USER can resume only after its pending question is answered")
  let (_, run) ← transitionLocked p agentSession run payload.status payload.reason
    payload.errorCode (clock 0)
  return run

/-- The insert inside its savepoint; `false` for an `IntegrityError`. -/
def insertQuestion (question : PendingQuestion) : Tx Bool := do
  storeText p question.prompt
  let stored ← storeJson p question.context
  let s ← get
  if s.questions.rows.any (isOpenOf question.runId) then return false
  match s.questions.insert { question with context := stored } with
  | none => return false
  | some questions =>
    set { s with questions }
    return true

def newQuestion (id : UUID) (run : AgentRun) (agentSession : AgentSession)
    (payload : PendingQuestionCreate) (context : Json) : PendingQuestion where
  id := id
  sessionId := agentSession.id
  runId := run.id
  allowedPrincipalId := payload.allowedPrincipalId
  prompt := payload.prompt
  context := context
  status := .PENDING
  openSlot := some 1
  expiresAt := payload.expiresAt
  answeredAt := none
  answeredByPrincipalId := none
  answerPayload := none
  answerSha256 := none
  answerInboxSeq := none
  closedAt := none

def askQuestion (id runId : UUID) (payload : PendingQuestionCreate) (workspaceId : Option UUID)
    (clock : Nat → Time) : Tx PendingQuestion := do
  let (agentSession, run) ← lockedRun runId workspaceId
  if run.status ≠ .RUNNING then
    throw (.invalidRunTransition "questions can only be asked by a RUNNING run")
  requirePrincipal payload.allowedPrincipalId agentSession.workspaceId
  if payload.expiresAt ≤ clock 0 then
    throw (.questionExpired "question expiry must be in the future")
  let (context, _) ← normalized p payload.context "question context"
  if (← openQuestion run.id).isSome then
    throw (.pendingQuestionConflict "run already has a pending question")
  let question := newQuestion id run agentSession payload context
  if ← insertQuestion p question then
    let agentSession ← appendEventLocked p agentSession (some run.id) (some question.id)
      (.questionAsked question.allowedPrincipalId question.expiresAt)
    let _ ← transitionLocked p agentSession run .WAITING_USER (some (py "pending user answer")) none
      (clock 1)
    return question
  else throw (.pendingQuestionConflict "run already has a pending question")

def validateAnswerableQuestion (question : PendingQuestion) (run : AgentRun) (now : Time) :
    Tx Unit := do
  if question.status ≠ .PENDING then
    if question.status = .EXPIRED then throw (.questionExpired "pending question has expired")
    throw (.questionAlreadyConsumed "pending question has already been consumed")
  if question.expiresAt ≤ now then throw (.questionExpired "pending question has expired")
  if run.status ≠ .WAITING_USER ∨ run.activeSlot ≠ some 1 then
    throw (.pendingQuestionConflict "run is not waiting for a user answer")

def Database.saveQuestion (s : Database) (question : PendingQuestion) : Database :=
  { s with questions := s.questions.save question }

/-- The question after the assignments of `_consume_question_answer`. -/
def answered (question : PendingQuestion) (actorPrincipalId : UUID) (payload : Json) (sha256 : Str)
    (seq : Nat) (now : Time) : PendingQuestion :=
  { question with
    status := .ANSWERED
    openSlot := none
    answeredAt := some now
    answeredByPrincipalId := some actorPrincipalId
    answerPayload := some payload
    answerSha256 := some sha256
    answerInboxSeq := some seq
    closedAt := some now }

def consumeQuestionAnswer (agentSession : AgentSession) (run : AgentRun)
    (question : PendingQuestion) (actorPrincipalId : UUID) (answerPayload : PyDict)
    (answerMode : String) (transitionReason : String) (answerReason : Option Str)
    (clock : Nat → Time) : Tx (PendingQuestion × AgentSessionInbox × AgentRun) := do
  let (answerPayload, answerSha256) ← normalized p answerPayload "answer_payload"
  let (agentSession, item) ← appendInboxLocked p agentSession run.id actorPrincipalId
    .QUESTION_ANSWER answerPayload answerSha256 (some question.id)
  let question := answered question actorPrincipalId item.payload answerSha256 item.seq (clock 1)
  modify fun s => s.saveQuestion question
  let agentSession ← appendEventLocked p agentSession (some run.id) (some question.id)
    (.questionAnswered answerSha256 item.seq answerMode actorPrincipalId answerReason)
  let (_, run) ← transitionLocked p agentSession run .QUEUED (some (py transitionReason)) none
    (clock 2)
  return (question, item, run)

def answerQuestion (questionId : UUID) (payload : PendingQuestionAnswer)
    (workspaceId : Option UUID) (clock : Nat → Time) :
    Tx (PendingQuestion × AgentSessionInbox × AgentRun) := do
  let (agentSession, run, question) ← lockedQuestion questionId workspaceId
  validateAnswerableQuestion question run (clock 0)
  if payload.principalId ≠ question.allowedPrincipalId then
    throw (.questionAnswerForbidden "principal is not allowed to answer this question")
  requirePrincipal payload.principalId agentSession.workspaceId
  consumeQuestionAnswer p agentSession run question payload.principalId payload.answerPayload
    "RUNTIME_PRINCIPAL" "user answer received" none clock

def overrideAnswerQuestion (questionId : UUID) (payload : PendingQuestionOverrideAnswer)
    (actorPrincipalId : UUID) (workspaceId : Option UUID) (clock : Nat → Time) :
    Tx (PendingQuestion × AgentSessionInbox × AgentRun) := do
  let (agentSession, run, question) ← lockedQuestion questionId workspaceId
  validateAnswerableQuestion question run (clock 0)
  requirePrincipal actorPrincipalId agentSession.workspaceId
  consumeQuestionAnswer p agentSession run question actorPrincipalId payload.answerPayload
    "ADMIN_OVERRIDE" "administrator override answer received" (some payload.reason) clock

inductive Call where
  | createSession (id : UUID) (payload : AgentSessionCreate)
  | createRun (id sessionId : UUID) (payload : AgentRunCreate) (workspaceId : Option UUID)
  | transitionRun (runId : UUID) (payload : AgentRunTransition) (workspaceId : Option UUID)
      (clock : Nat → Time)
  | askQuestion (id runId : UUID) (payload : PendingQuestionCreate) (workspaceId : Option UUID)
      (clock : Nat → Time)
  | answerQuestion (questionId : UUID) (payload : PendingQuestionAnswer)
      (workspaceId : Option UUID) (clock : Nat → Time)
  | overrideAnswerQuestion (questionId : UUID) (payload : PendingQuestionOverrideAnswer)
      (actorPrincipalId : UUID) (workspaceId : Option UUID) (clock : Nat → Time)

def Call.body : Call → Tx Unit
  | .createSession id payload => do let _ ← TaskAgent.createSession p id payload
  | .createRun id sessionId payload workspaceId => do
    let _ ← TaskAgent.createRun p id sessionId payload workspaceId
  | .transitionRun runId payload workspaceId clock => do
    let _ ← TaskAgent.transitionRun p runId payload workspaceId clock
  | .askQuestion id runId payload workspaceId clock => do
    let _ ← TaskAgent.askQuestion p id runId payload workspaceId clock
  | .answerQuestion questionId payload workspaceId clock => do
    let _ ← TaskAgent.answerQuestion p questionId payload workspaceId clock
  | .overrideAnswerQuestion questionId payload actorPrincipalId workspaceId clock => do
    let _ ← TaskAgent.overrideAnswerQuestion p questionId payload actorPrincipalId workspaceId clock

/-- What a call leaves in the database. -/
def settled {α : Type} (s : Database) : EStateM.Result TaskAgentError Database α → Database
  | .ok _ t => t
  | .error .databaseError _ => s
  | .error _ t => t

/-- A call, or a change of the workspaces, principals and agent versions by the other
services. -/
inductive Action where
  | call (call : Call)
  | directory (workspaces : List UUID) (principals : List Principal) (versions : List (UUID × UUID))

/-- Every call first locks the workspace row, so calls are serial. -/
def step (s : Database) : Action → Option Database
  | .call call => some (settled s (call.body p s))
  | .directory workspaces principals versions =>
    some { s with workspaces, principals, versions }

theorem int4_lt : 2 ^ 31 - 1 < 2 ^ 64 := by decide

/-- A platform that stores what it is given. -/
def samplePlatform : Platform where
  takesText := fun _ => true
  json := some
  integerMax := 2 ^ 31 - 1
  integerMaxLt := int4_lt
  sha256 := fun _ => List.replicate 64 48
  sha256Length := fun _ => by simp

def sampleRequest (key : Str) (hshort : key.length ≤ 255) (hne : key ≠ []) : AgentRunCreate :=
  ⟨key, [(.str (py "task"), .str (py "summarize"))], hshort, hne⟩

def sampleTransition (status : AgentRunStatus) : AgentRunTransition :=
  ⟨status, none, none, by simp, by simp⟩

def sampleQuestion : PendingQuestionCreate :=
  ⟨2, py "Which room?", [], 600 * second, by decide, by decide⟩

/-- A session whose first run asks a question, has it answered and completes. -/
def sampleActions : List Action :=
  [.directory [1] [⟨2, 1, .ADMIN_USER, py "requester", true⟩] [(3, 1)],
    .call (.createSession 10 ⟨1, 3, 2, []⟩),
    .call (.createRun 20 10 (sampleRequest (py "first") (by decide) (by decide)) none),
    .call (.transitionRun 20 (sampleTransition .RUNNING) none fun _ => 0),
    .call (.askQuestion 30 20 sampleQuestion none fun _ => 0),
    .call (.transitionRun 20 (sampleTransition .QUEUED) none fun _ => 0),
    .call (.answerQuestion 30 ⟨2, [(.str (py "room"), .str (py "a"))]⟩ none fun _ => second),
    .call (.transitionRun 20 (sampleTransition .RUNNING) none fun _ => second),
    .call (.transitionRun 20 (sampleTransition .COMPLETED) none fun _ => 2 * second)]

end WechatBot.TaskAgent
