import Mathlib.Data.List.Range
import Mathlib.Logic.Function.Basic
import WechatBot.TaskAgentRejections

/-!
# What a step of the task agent does

One constructor for each operation that succeeds. The rows are given by lookups: a step
changes the run, the question and the session it names and no other. `Logged` says that
the new items and events carry the next numbers of their session.
-/
namespace WechatBot.TaskAgentSteps

open PyData PersistedJson TaskAgent TaskAgentCalls TaskAgentRejections Transactions
open Tables (Table)

structure Logged (s t : Database) (agentSession : AgentSession)
    (newItems : List AgentSessionInbox) (newEvents : List AgentEvent) : Prop where
  found : s.sessions.find agentSession.id = some agentSession
  sessions : t.sessions.find = Function.update s.sessions.find agentSession.id
    (some { agentSession with
      lastInboxSeq := agentSession.lastInboxSeq + newItems.length
      lastEventSeq := agentSession.lastEventSeq + newEvents.length })
  inbox : t.inbox = s.inbox ++ newItems
  events : t.events = s.events ++ newEvents
  itemOwner : ∀ item ∈ newItems, item.sessionId = agentSession.id
  itemSeqs : newItems.map (·.seq) = List.range' (agentSession.lastInboxSeq + 1) newItems.length
  eventOwner : ∀ event ∈ newEvents, event.sessionId = agentSession.id
  eventSeqs : newEvents.map (·.seq) = List.range' (agentSession.lastEventSeq + 1) newEvents.length

/-- The item of an answer. -/
def IsAnswerTo (question : PendingQuestion) (sha256 : Str) (item : AgentSessionInbox) : Prop :=
  item.kind = .QUESTION_ANSWER ∧ item.questionId = some question.id ∧ item.payloadSha256 = sha256

/-- The event of a status change. -/
def Records (run : AgentRun) (payload : EventPayload) (event : AgentEvent) : Prop :=
  event.runId = some run.id ∧ event.payload = payload

inductive Effect (s t : Database) : Prop where
  | kept (sessions : t.sessions = s.sessions) (runs : t.runs = s.runs)
      (questions : t.questions = s.questions) (inbox : t.inbox = s.inbox)
      (events : t.events = s.events)
  | sessionCreated (agentSession : AgentSession) (event : AgentEvent)
      (fresh : s.sessions.find agentSession.id = none)
      (sessions : t.sessions.find =
        Function.update s.sessions.find agentSession.id (some agentSession))
      (noItems : agentSession.lastInboxSeq = 0) (oneEvent : agentSession.lastEventSeq = 1)
      (events : t.events = s.events ++ [event]) (eventOwner : event.sessionId = agentSession.id)
      (eventSeq : event.seq = 1) (eventRun : event.runId = none)
      (runs : t.runs = s.runs) (questions : t.questions = s.questions) (inbox : t.inbox = s.inbox)
  | runCreated (agentSession : AgentSession) (run : AgentRun) (item : AgentSessionInbox)
      (event : AgentEvent) (logged : Logged s t agentSession [item] [event])
      (fresh : s.runs.find run.id = none)
      (runs : t.runs.find = Function.update s.runs.find run.id (some run))
      (owner : run.sessionId = agentSession.id) (queued : run.status = .QUEUED)
      (slot : run.activeSlot = some 1) (unfinished : run.finishedAt = none)
      (alone : ∀ other ∈ s.runs.rows, other.sessionId = run.sessionId → other.activeSlot ≠ some 1)
      (unbound : ∀ other ∈ s.runs.rows, other.sessionId = run.sessionId →
        other.idempotencyKey ≠ run.idempotencyKey)
      (questions : t.questions = s.questions) (itemKind : item.kind = .RUN_REQUEST)
      (recorded : Records run
        (.runCreated run.idempotencyKey run.inputSha256 item.seq .QUEUED) event)
  | transitioned (agentSession : AgentSession) (run : AgentRun) (target : AgentRunStatus)
      (reason errorCode : Option Str) (now : Time) (event : AgentEvent)
      (logged : Logged s t agentSession [] [event])
      (found : s.runs.find run.id = some run) (owner : run.sessionId = agentSession.id)
      (allowed : target ∈ allowedTransitions run.status)
      (resumed : run.status = .WAITING_USER → target = .QUEUED →
        ∀ question ∈ s.questions.rows, isOpenOf run.id question = false)
      (runs : t.runs.find =
        Function.update s.runs.find run.id (some (moved run target errorCode now)))
      (questions : t.questions = if target ∈ terminalRunStatuses then
        closeOpenQuestions run.id (target == .EXPIRED) now s.questions else s.questions)
      (recorded : Records run (.runStatusChanged run.status target reason errorCode) event)
  | asked (agentSession : AgentSession) (run : AgentRun) (question : PendingQuestion) (now : Time)
      (first second : AgentEvent) (reason : Option Str)
      (logged : Logged s t agentSession [] [first, second])
      (found : s.runs.find run.id = some run) (owner : run.sessionId = agentSession.id)
      (running : run.status = .RUNNING)
      (fresh : s.questions.find question.id = none)
      (unasked : ∀ other ∈ s.questions.rows, isOpenOf run.id other = false)
      (runs : t.runs.find =
        Function.update s.runs.find run.id (some (moved run .WAITING_USER none now)))
      (questions : t.questions.find =
        Function.update s.questions.find question.id (some question))
      (questionRun : question.runId = run.id) (pending : question.status = .PENDING)
      (questionOpen : question.openSlot = some 1)
      (firstRecorded : Records run
        (.questionAsked question.allowedPrincipalId question.expiresAt) first)
      (secondRecorded : Records run (.runStatusChanged .RUNNING .WAITING_USER reason none) second)
  | answered (agentSession : AgentSession) (run : AgentRun) (question : PendingQuestion)
      (actorPrincipalId : UUID) (payload : Json) (sha256 : Str) (answeredAt movedAt : Time)
      (item : AgentSessionInbox) (first second : AgentEvent) (mode : String)
      (answerReason reason : Option Str)
      (logged : Logged s t agentSession [item] [first, second])
      (found : s.runs.find run.id = some run) (owner : run.sessionId = agentSession.id)
      (waiting : run.status = .WAITING_USER)
      (foundQuestion : s.questions.find question.id = some question)
      (questionRun : question.runId = run.id) (questionSession : question.sessionId = agentSession.id)
      (pending : question.status = .PENDING)
      (runs : t.runs.find = Function.update s.runs.find run.id (some (moved run .QUEUED none movedAt)))
      (questions : t.questions.find = Function.update s.questions.find question.id
        (some (TaskAgent.answered question actorPrincipalId payload sha256 item.seq answeredAt)))
      (answer : IsAnswerTo question sha256 item)
      (firstRecorded : Records run
        (.questionAnswered sha256 item.seq mode actorPrincipalId answerReason) first)
      (secondRecorded : Records run (.runStatusChanged .WAITING_USER .QUEUED reason none) second)

@[simp] theorem moved_id (run : AgentRun) (target : AgentRunStatus) (errorCode : Option Str)
    (now : Time) : (moved run target errorCode now).id = run.id := by
  unfold moved
  dsimp only
  split_ifs <;> rfl

@[simp] theorem moved_status (run : AgentRun) (target : AgentRunStatus) (errorCode : Option Str)
    (now : Time) : (moved run target errorCode now).status = target := by
  unfold moved
  dsimp only
  split_ifs <;> rfl

@[simp] theorem moved_sessionId (run : AgentRun) (target : AgentRunStatus) (errorCode : Option Str)
    (now : Time) : (moved run target errorCode now).sessionId = run.sessionId := by
  unfold moved
  dsimp only
  split_ifs <;> rfl

/-- A status is active or terminal, and which of the two decides slot and finishing time. -/
theorem moved_active {run : AgentRun} {target : AgentRunStatus} {errorCode : Option Str}
    {now : Time} (h : target ∈ activeRunStatuses) :
    (moved run target errorCode now).activeSlot = some 1 ∧
      (moved run target errorCode now).finishedAt = none := by
  have hlive : target ∉ terminalRunStatuses := by
    cases target <;> simp_all [activeRunStatuses, terminalRunStatuses]
  unfold moved
  dsimp only
  rw [if_neg hlive, if_pos h]
  exact ⟨rfl, rfl⟩

theorem moved_terminal {run : AgentRun} {target : AgentRunStatus} {errorCode : Option Str}
    {now : Time} (h : target ∈ terminalRunStatuses) :
    (moved run target errorCode now).activeSlot = none ∧
      (moved run target errorCode now).finishedAt = some now := by
  unfold moved
  dsimp only
  rw [if_pos h]
  exact ⟨rfl, rfl⟩

variable {p : Platform} {s t : Database}

theorem find_countEvent {sessions : Table AgentSession.id} {find : UUID → Option AgentSession}
    {agentSession : AgentSession}
    (h : sessions.find = Function.update find agentSession.id (some agentSession)) :
    (sessions.save agentSession.countEvent).find =
      Function.update find agentSession.id (some agentSession.countEvent) :=
  Table.find_resave h rfl

theorem find_countEvent_of {sessions : Table AgentSession.id} {agentSession : AgentSession}
    (h : sessions.find agentSession.id = some agentSession) :
    (sessions.save agentSession.countEvent).find =
      Function.update sessions.find agentSession.id (some agentSession.countEvent) :=
  Table.find_save_update (a := agentSession.countEvent) h

theorem find_countItem {sessions : Table AgentSession.id} {agentSession : AgentSession}
    (h : sessions.find agentSession.id = some agentSession) :
    (sessions.save agentSession.countItem).find =
      Function.update sessions.find agentSession.id (some agentSession.countItem) :=
  Table.find_save_update (a := agentSession.countItem) h

theorem createSession_effect {id : UUID} {payload : AgentSessionCreate} {agentSession : AgentSession}
    (h : TaskAgent.createSession p id payload s = .ok agentSession t) : Effect s t := by
  obtain ⟨taskScope, sha256, sessions, hinsert, rfl⟩ := createSession_ok h
  have hfresh := Table.insert_fresh hinsert
  exact .sessionCreated (newSession id payload taskScope sha256).countEvent _
    hfresh (find_countEvent (Table.find_insert_update hinsert)) rfl rfl rfl
    rfl rfl rfl rfl rfl rfl

theorem distinct_of_clashes {run other : AgentRun} (h : clashes run other = false)
    (hsame : other.sessionId = run.sessionId) (hslot : run.activeSlot ≠ none) :
    other.idempotencyKey ≠ run.idempotencyKey ∧ other.activeSlot ≠ run.activeSlot := by
  simp only [clashes, decide_eq_false_iff_not, not_and, not_or] at h
  exact ⟨(h hsame).1, (h hsame).2 hslot⟩

theorem createRun_effect {id sessionId : UUID} {payload : AgentRunCreate}
    {workspaceId : Option UUID} {run : AgentRun}
    (h : TaskAgent.createRun p id sessionId payload workspaceId s = .ok run t) : Effect s t := by
  obtain ⟨inputPayload, inputSha256, -, -, hcreated⟩ := createRun_ok h
  cases hcreated with
  | replayed same =>
    rw [same]
    exact .kept rfl rfl rfl rfl rfl
  | inserted agentSession stored document runs found column created unclashed insert written =>
    subst created written
    have hid : agentSession.id = sessionId := Table.find_key found
    subst hid
    have hlogged := @find_countEvent _ _ agentSession.countItem (find_countItem found)
    have hother : ∀ other ∈ s.runs.rows, clashes
        (newRun id agentSession.id payload.idempotencyKey inputPayload inputSha256) other = false := by
      simpa using unclashed
    refine .runCreated agentSession
      { newRun id agentSession.id payload.idempotencyKey inputPayload inputSha256 with
        inputPayload := stored } _ _ ⟨found, hlogged, rfl, rfl, ?_, rfl, ?_, rfl⟩
      (Table.insert_fresh insert) (Table.find_insert_update insert) rfl rfl rfl rfl ?_ ?_ rfl rfl ⟨rfl, rfl⟩
    · simp [newItem, AgentSession.countItem]
    · simp [newEvent, AgentSession.countItem, AgentSession.countEvent]
    · intro other hmem hsame hslot
      exact (distinct_of_clashes (hother other hmem) hsame (by simp [newRun])).2 hslot
    · intro other hmem hsame hkey
      exact (distinct_of_clashes (hother other hmem) hsame (by simp [newRun])).1 hkey

theorem transitionRun_effect {runId : UUID} {payload : AgentRunTransition}
    {workspaceId : Option UUID} {clock : Nat → Time} {run : AgentRun}
    (h : TaskAgent.transitionRun p runId payload workspaceId clock s = .ok run t) : Effect s t := by
  obtain ⟨⟨agentSession, found⟩, _, hlocked, h⟩ := bind_ok.mp h
  obtain ⟨hrun, hsession, rfl⟩ := lockedRun_ok hlocked
  have hresumed : (found.status = .WAITING_USER → payload.status = .QUEUED →
        ∀ question ∈ s.questions.rows, isOpenOf found.id question = false) ∧
      (transitionLocked p agentSession found payload.status payload.reason payload.errorCode
        (clock 0) >>= fun moved => pure moved.2) s = .ok run t := by
    dsimp only at h
    split at h
    · obtain ⟨question, _, hopen, h⟩ := bind_ok.mp h
      obtain ⟨rfl, rfl⟩ := openQuestion_ok hopen
      obtain ⟨hnone, h⟩ := guard_ok.mp h
      refine ⟨fun _ _ => ?_, h⟩
      simpa using hnone
    · rename_i hother
      exact ⟨fun hwaiting hqueued => absurd ⟨hwaiting, hqueued⟩ hother, h⟩
  obtain ⟨hguard, h⟩ := hresumed
  obtain ⟨⟨counted, result⟩, _, htransition, h⟩ := bind_ok.mp h
  obtain ⟨rfl, rfl⟩ := pure_ok.mp h
  obtain ⟨hallowed, hpair, rfl⟩ := transitionLocked_ok htransition
  cases hpair
  have hrow : found.id = runId := Table.find_key hrun
  have howner : agentSession.id = found.sessionId := Table.find_key hsession
  rw [← hrow] at hrun
  rw [← howner] at hsession
  refine .transitioned agentSession found payload.status payload.reason payload.errorCode (clock 0) _
    ⟨hsession, find_countEvent_of hsession, ?_, rfl, ?_, rfl, ?_, rfl⟩ hrun howner.symm hallowed hguard ?_ ?_
    ⟨?_, rfl⟩
  · simp [Database.addEvent, Database.saveMoved]
  · simp
  · simp [newEvent, AgentSession.countEvent]
  · have hsame : s.runs.find (moved found payload.status payload.errorCode (clock 0)).id =
        some found := by
      rw [moved_id, hrun]
    have hmoved := Table.find_save_update hsame
    rwa [moved_id] at hmoved
  · simp [Database.addEvent, Database.saveMoved]
  · simp [newEvent]

theorem askQuestion_effect {id runId : UUID} {payload : PendingQuestionCreate}
    {workspaceId : Option UUID} {clock : Nat → Time} {question : PendingQuestion}
    (h : TaskAgent.askQuestion p id runId payload workspaceId clock s = .ok question t) :
    Effect s t := by
  obtain ⟨⟨agentSession, found⟩, _, hlocked, h⟩ := bind_ok.mp h
  obtain ⟨hrun, hsession, rfl⟩ := lockedRun_ok hlocked
  obtain ⟨hrunning, h⟩ := guard_ok.mp h
  have hrunning : found.status = .RUNNING := not_not.mp hrunning
  obtain ⟨_, _, hprincipal, h⟩ := bind_ok.mp h
  rw [(reads_requirePrincipal _ _).ok hprincipal] at h
  obtain ⟨-, h⟩ := guard_ok.mp h
  obtain ⟨⟨context, sha256⟩, _, hnormalized, h⟩ := bind_ok.mp h
  obtain ⟨-, rfl⟩ := normalized_ok hnormalized
  obtain ⟨already, _, hopen, h⟩ := bind_ok.mp h
  obtain ⟨-, rfl⟩ := openQuestion_ok hopen
  obtain ⟨-, h⟩ := guard_ok.mp h
  obtain ⟨inserted, _, hinsert, h⟩ := bind_ok.mp h
  rcases insertQuestion_ok hinsert with ⟨rfl, rfl⟩ | ⟨rfl, hclash, stored, questions, hquestion, rfl⟩
  · exact absurd h throw_ok
  · obtain ⟨counted, _, hevent, h⟩ := bind_ok.mp h
    obtain ⟨rfl, rfl⟩ := appendEventLocked_ok hevent
    obtain ⟨result, _, htransition, h⟩ := bind_ok.mp h
    obtain ⟨rfl, rfl⟩ := pure_ok.mp h
    obtain ⟨-, rfl, rfl⟩ := transitionLocked_ok htransition
    have hrow : found.id = runId := Table.find_key hrun
    have howner : agentSession.id = found.sessionId := Table.find_key hsession
    rw [← hrow] at hrun
    rw [← howner] at hsession
    have hlogged := @find_countEvent _ _ agentSession.countEvent (find_countEvent_of hsession)
    have hnew := Table.find_insert_update hquestion
    have hfresh := Table.insert_fresh hquestion
    refine .asked agentSession found
      { newQuestion id found agentSession payload context with context := stored } (clock 1) _ _
      (some (py "pending user answer")) ⟨hsession, hlogged, ?_, List.append_assoc s.events _ _, ?_, rfl, ?_, rfl⟩ hrun howner.symm
      hrunning hfresh ?_ ?_ ?_ rfl rfl rfl ⟨rfl, rfl⟩ ⟨?_, ?_⟩
    · simp [Database.addEvent, Database.saveMoved]
    · simp
    · simp [newEvent, AgentSession.countEvent]
    · simpa [newQuestion] using hclash
    · have hsame : s.runs.find (moved found .WAITING_USER none (clock 1)).id = some found := by
        rw [moved_id, hrun]
      have hmoved := Table.find_save_update hsame
      rwa [moved_id] at hmoved
    · simpa [Database.addEvent, Database.saveMoved, terminalRunStatuses] using hnew
    · simp [newEvent]
    · simp [newEvent, hrunning]

/-- What `_consume_question_answer` does to a question that can be answered. -/
theorem consumeQuestionAnswer_effect {agentSession : AgentSession} {run : AgentRun}
    {question : PendingQuestion} {actorPrincipalId : UUID} {answerPayload : PyDict}
    {answerMode transitionReason : String} {answerReason : Option Str} {clock : Nat → Time}
    {result : PendingQuestion × AgentSessionInbox × AgentRun}
    (hsession : s.sessions.find agentSession.id = some agentSession)
    (hrun : s.runs.find run.id = some run) (howner : run.sessionId = agentSession.id)
    (hquestion : s.questions.find question.id = some question) (hasked : question.runId = run.id)
    (hparent : question.sessionId = agentSession.id) (hpending : question.status = .PENDING)
    (hwaiting : run.status = .WAITING_USER)
    (h : consumeQuestionAnswer p agentSession run question actorPrincipalId answerPayload
      answerMode transitionReason answerReason clock s = .ok result t) : Effect s t := by
  obtain ⟨⟨payload, sha256⟩, _, hnormalized, h⟩ := bind_ok.mp h
  obtain ⟨-, rfl⟩ := normalized_ok hnormalized
  obtain ⟨⟨counted, item⟩, _, hitem, h⟩ := bind_ok.mp h
  obtain ⟨stored, -, hpair, rfl⟩ := appendInboxLocked_ok hitem
  cases hpair
  obtain ⟨_, _, hsave, h⟩ := bind_ok.mp h
  obtain rfl := modify_ok.mp hsave
  obtain ⟨next, _, hevent, h⟩ := bind_ok.mp h
  obtain ⟨rfl, rfl⟩ := appendEventLocked_ok hevent
  obtain ⟨⟨last, final⟩, _, htransition, h⟩ := bind_ok.mp h
  obtain ⟨rfl, rfl⟩ := pure_ok.mp h
  obtain ⟨-, hpair, rfl⟩ := transitionLocked_ok htransition
  cases hpair
  have hcounted := @find_countEvent _ _ agentSession.countItem (find_countItem hsession)
  have hlogged := @find_countEvent _ _ agentSession.countItem.countEvent hcounted
  refine .answered agentSession run question actorPrincipalId stored sha256 (clock 1) (clock 2)
    (newItem agentSession.countItem run.id actorPrincipalId .QUESTION_ANSWER stored sha256
      (some question.id)) _ _ answerMode answerReason (some (py transitionReason))
    ⟨hsession, hlogged, rfl, List.append_assoc s.events _ _, ?_, rfl, ?_, rfl⟩ hrun howner hwaiting
    hquestion hasked hparent hpending ?_ ?_ ⟨rfl, rfl, rfl⟩ ⟨rfl, rfl⟩ ⟨?_, ?_⟩
  · simp [newItem, AgentSession.countItem]
  · simp [newEvent, AgentSession.countEvent, AgentSession.countItem]
  · have hsame : s.runs.find (moved run .QUEUED none (clock 2)).id = some run := by
      rw [moved_id, hrun]
    have hmoved := Table.find_save_update hsame
    rwa [moved_id] at hmoved
  · have hsaved := Table.find_save_update (a := answered question actorPrincipalId stored sha256
      (agentSession.lastInboxSeq + 1) (clock 1)) hquestion
    simp only [Database.addEvent, Database.addItem, Database.saveQuestion, Database.saveMoved,
      moved_status]
    rw [if_neg (by decide)]
    exact hsaved
  · simp [newEvent]
  · simp [newEvent, hwaiting]

theorem answerQuestion_effect {questionId : UUID} {payload : PendingQuestionAnswer}
    {workspaceId : Option UUID} {clock : Nat → Time}
    {result : PendingQuestion × AgentSessionInbox × AgentRun}
    (h : TaskAgent.answerQuestion p questionId payload workspaceId clock s = .ok result t) :
    Effect s t := by
  obtain ⟨⟨agentSession, run, question⟩, _, hlocked, h⟩ := bind_ok.mp h
  obtain ⟨hquestion, hrun, hsession, howner, rfl⟩ := lockedQuestion_ok hlocked
  obtain ⟨_, _, hvalid, h⟩ := bind_ok.mp h
  rw [(reads_validateAnswerableQuestion _ _ _).ok hvalid] at h
  obtain ⟨hpending, -, hwaiting, -⟩ := validateAnswerableQuestion_ok hvalid
  obtain ⟨-, h⟩ := guard_ok.mp h
  obtain ⟨_, _, hprincipal, h⟩ := bind_ok.mp h
  rw [(reads_requirePrincipal _ _).ok hprincipal] at h
  have hid : question.id = questionId := Table.find_key hquestion
  have hasked : run.id = question.runId := Table.find_key hrun
  have hparent : agentSession.id = question.sessionId := Table.find_key hsession
  rw [← hid] at hquestion
  rw [← hasked] at hrun
  rw [← hparent] at hsession
  exact consumeQuestionAnswer_effect hsession hrun howner hquestion hasked.symm hparent.symm hpending
    hwaiting h

theorem overrideAnswerQuestion_effect {questionId actorPrincipalId : UUID}
    {payload : PendingQuestionOverrideAnswer} {workspaceId : Option UUID} {clock : Nat → Time}
    {result : PendingQuestion × AgentSessionInbox × AgentRun}
    (h : TaskAgent.overrideAnswerQuestion p questionId payload actorPrincipalId workspaceId clock s =
      .ok result t) : Effect s t := by
  obtain ⟨⟨agentSession, run, question⟩, _, hlocked, h⟩ := bind_ok.mp h
  obtain ⟨hquestion, hrun, hsession, howner, rfl⟩ := lockedQuestion_ok hlocked
  obtain ⟨_, _, hvalid, h⟩ := bind_ok.mp h
  rw [(reads_validateAnswerableQuestion _ _ _).ok hvalid] at h
  obtain ⟨hpending, -, hwaiting, -⟩ := validateAnswerableQuestion_ok hvalid
  obtain ⟨_, _, hprincipal, h⟩ := bind_ok.mp h
  rw [(reads_requirePrincipal _ _).ok hprincipal] at h
  have hid : question.id = questionId := Table.find_key hquestion
  have hasked : run.id = question.runId := Table.find_key hrun
  have hparent : agentSession.id = question.sessionId := Table.find_key hsession
  rw [← hid] at hquestion
  rw [← hasked] at hrun
  rw [← hparent] at hsession
  exact consumeQuestionAnswer_effect hsession hrun howner hquestion hasked.symm hparent.symm hpending
    hwaiting h

/-- A successful body has run its operation to the same end. -/
theorem body_ok {α : Type} {x : Tx α} {u : Unit} (h : (do let _ ← x) s = .ok u t) :
    ∃ a, x s = .ok a t := by
  obtain ⟨a, _, hx, hdone⟩ := bind_ok.mp h
  obtain ⟨-, rfl⟩ := pure_ok.mp hdone
  exact ⟨a, hx⟩

theorem body_effect {call : Call} {u : Unit} (h : call.body p s = .ok u t) : Effect s t := by
  cases call with
  | createSession id payload =>
    obtain ⟨_, h⟩ := body_ok h
    exact createSession_effect h
  | createRun id sessionId payload workspaceId =>
    obtain ⟨_, h⟩ := body_ok h
    exact createRun_effect h
  | transitionRun runId payload workspaceId clock =>
    obtain ⟨_, h⟩ := body_ok h
    exact transitionRun_effect h
  | askQuestion id runId payload workspaceId clock =>
    obtain ⟨_, h⟩ := body_ok h
    exact askQuestion_effect h
  | answerQuestion questionId payload workspaceId clock =>
    obtain ⟨_, h⟩ := body_ok h
    exact answerQuestion_effect h
  | overrideAnswerQuestion questionId payload actorPrincipalId workspaceId clock =>
    obtain ⟨_, h⟩ := body_ok h
    exact overrideAnswerQuestion_effect h

/-- An accepted call has one of the effects; a rejected one, and a change of the
directory, keep every row of the task agent. -/
theorem step_effect {a : Action} (h : step p s a = some t) : Effect s t := by
  cases a with
  | call call =>
    obtain rfl := Option.some.inj h
    rcases settled_cases call s with ⟨u, t, hbody, ht⟩ | hsame
    · rw [ht]
      exact body_effect hbody
    · rw [hsame]
      exact .kept rfl rfl rfl rfl rfl
  | directory workspaces principals versions =>
    obtain rfl := Option.some.inj h
    exact .kept rfl rfl rfl rfl rfl

end WechatBot.TaskAgentSteps
