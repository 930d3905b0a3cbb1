import WechatBot.RunQuestions

/-!
# The log of a session

The inbox and the events of a session are numbered without a gap, the events of a run
retell its way through the transition table, and the answers in the inbox are the answers
of the questions.
-/
namespace WechatBot.AgentLog

open PyData TaskAgent TaskAgentSteps RunQuestions
open Tables (Table)
open Runs (run run_invariant)

def sessionItems (s : Database) (sessionId : UUID) : List AgentSessionInbox :=
  s.inbox.filter fun item => decide (item.sessionId = sessionId)

def sessionEvents (s : Database) (sessionId : UUID) : List AgentEvent :=
  s.events.filter fun event => decide (event.sessionId = sessionId)

/-- The numbers that the session of an identifier has given to its items and events. -/
structure Numbered (s : Database) : Prop where
  items : ∀ id, (sessionItems s id).map (·.seq) =
    List.range' 1 ((s.sessions.find id).elim 0 (·.lastInboxSeq))
  events : ∀ id, (sessionEvents s id).map (·.seq) =
    List.range' 1 ((s.sessions.find id).elim 0 (·.lastEventSeq))

variable {s t : Database} {agentSession : AgentSession} {newItems : List AgentSessionInbox}
  {newEvents : List AgentEvent}

theorem sessionItems_own (h : Logged s t agentSession newItems newEvents) :
    sessionItems t agentSession.id = sessionItems s agentSession.id ++ newItems := by
  have hnew : newItems.filter (fun item => decide (item.sessionId = agentSession.id)) = newItems := by
    apply List.filter_eq_self.mpr
    intro item hitem
    simpa using h.itemOwner item hitem
  rw [sessionItems, h.inbox, List.filter_append, hnew]
  rfl

theorem sessionItems_other (h : Logged s t agentSession newItems newEvents) {id : UUID}
    (hne : id ≠ agentSession.id) : sessionItems t id = sessionItems s id := by
  have hnew : newItems.filter (fun item => decide (item.sessionId = id)) = [] := by
    apply List.filter_eq_nil_iff.mpr
    intro item hitem
    simpa [h.itemOwner item hitem] using hne.symm
  rw [sessionItems, h.inbox, List.filter_append, hnew, List.append_nil]
  rfl

theorem sessionEvents_own (h : Logged s t agentSession newItems newEvents) :
    sessionEvents t agentSession.id = sessionEvents s agentSession.id ++ newEvents := by
  have hnew : newEvents.filter (fun event => decide (event.sessionId = agentSession.id)) =
      newEvents := by
    apply List.filter_eq_self.mpr
    intro event hevent
    simpa using h.eventOwner event hevent
  rw [sessionEvents, h.events, List.filter_append, hnew]
  rfl

theorem sessionEvents_other (h : Logged s t agentSession newItems newEvents) {id : UUID}
    (hne : id ≠ agentSession.id) : sessionEvents t id = sessionEvents s id := by
  have hnew : newEvents.filter (fun event => decide (event.sessionId = id)) = [] := by
    apply List.filter_eq_nil_iff.mpr
    intro event hevent
    simpa [h.eventOwner event hevent] using hne.symm
  rw [sessionEvents, h.events, List.filter_append, hnew, List.append_nil]
  rfl

theorem numbered_logged (hs : Numbered s) (h : Logged s t agentSession newItems newEvents) :
    Numbered t := by
  have hrange : ∀ m n : Nat, List.range' 1 m ++ List.range' (m + 1) n = List.range' 1 (m + n) := by
    intro m n
    rw [Nat.add_comm m 1, List.range'_append_1]
  constructor
  · intro id
    by_cases hid : id = agentSession.id
    · subst hid
      have hold := hs.items agentSession.id
      rw [h.found] at hold
      rw [sessionItems_own h, List.map_append, hold, h.itemSeqs, h.sessions, Function.update_self]
      exact hrange agentSession.lastInboxSeq newItems.length
    · rw [sessionItems_other h hid, h.sessions, Function.update_of_ne hid]
      exact hs.items id
  · intro id
    by_cases hid : id = agentSession.id
    · subst hid
      have hold := hs.events agentSession.id
      rw [h.found] at hold
      rw [sessionEvents_own h, List.map_append, hold, h.eventSeqs, h.sessions, Function.update_self]
      exact hrange agentSession.lastEventSeq newEvents.length
    · rw [sessionEvents_other h hid, h.sessions, Function.update_of_ne hid]
      exact hs.events id

/-- The first event of a session numbers itself 1. -/
theorem numbered_created (hs : Numbered s) {event : AgentEvent}
    (hfresh : s.sessions.find agentSession.id = none)
    (hsessions : t.sessions.find =
      Function.update s.sessions.find agentSession.id (some agentSession))
    (hitems : agentSession.lastInboxSeq = 0) (hevents : agentSession.lastEventSeq = 1)
    (hlog : t.events = s.events ++ [event]) (howner : event.sessionId = agentSession.id)
    (hseq : event.seq = 1) (hinbox : t.inbox = s.inbox) : Numbered t := by
  constructor
  · intro id
    have hold := hs.items id
    rw [sessionItems, hinbox, hsessions]
    by_cases hid : id = agentSession.id
    · subst hid
      rw [hfresh] at hold
      rw [Function.update_self]
      exact hold.trans (by simp [hitems])
    · rw [Function.update_of_ne hid]
      exact hold
  · intro id
    have hold := hs.events id
    rw [sessionEvents, hlog, List.filter_append, List.map_append, hsessions]
    by_cases hid : id = agentSession.id
    · subst hid
      rw [hfresh] at hold
      rw [Function.update_self]
      have hnil : (sessionEvents s agentSession.id).map (·.seq) = [] := hold
      rw [sessionEvents] at hnil
      rw [hnil]
      simp [howner, hseq, hevents]
    · rw [Function.update_of_ne hid]
      have hother : event.sessionId ≠ id := fun h => hid (h.symm.trans howner)
      rw [sessionEvents] at hold
      simpa [hother] using hold

theorem numbered_effect (hs : Numbered s) (h : Effect s t) : Numbered t := by
  cases h with
  | kept sessions runs questions inbox events =>
    constructor
    · intro id
      rw [sessionItems, inbox, sessions]
      exact hs.items id
    · intro id
      rw [sessionEvents, events, sessions]
      exact hs.events id
  | sessionCreated created event fresh sessions noItems oneEvent events owner seq unrun runs questions
      inbox => exact numbered_created hs fresh sessions noItems oneEvent events owner seq inbox
  | runCreated _ _ _ _ logged => exact numbered_logged hs logged
  | transitioned _ _ _ _ _ _ _ logged => exact numbered_logged hs logged
  | asked _ _ _ _ _ _ _ logged => exact numbered_logged hs logged
  | answered _ _ _ _ _ _ _ _ _ _ _ _ _ _ logged => exact numbered_logged hs logged

def isStatusEvent : EventPayload → Bool
  | .runCreated _ _ _ _ => true
  | .runStatusChanged _ _ _ _ => true
  | _ => false

/-- The `RUN_CREATED` and `RUN_STATUS_CHANGED` events of a run, in sequence order. -/
def runLog (s : Database) (r : AgentRun) : List EventPayload :=
  ((sessionEvents s r.sessionId).filter fun event =>
    decide (event.runId = some r.id) && isStatusEvent event.payload).map (·.payload)

/-- A log that begins at `QUEUED`, follows the transition table and ends in a status. -/
inductive Chain : List EventPayload → AgentRunStatus → Prop where
  | created (idempotencyKey inputSha256 : Str) (inboxSeq : Nat) :
    Chain [.runCreated idempotencyKey inputSha256 inboxSeq .QUEUED] .QUEUED
  | changed {log : List EventPayload} {source target : AgentRunStatus} (before : Chain log source)
      (allowed : target ∈ allowedTransitions source) (reason errorCode : Option Str) :
    Chain (log ++ [.runStatusChanged source target reason errorCode]) target

structure Retold (s : Database) : Prop where
  chain : ∀ r ∈ s.runs.rows, Chain (runLog s r) r.status
  /-- No event speaks of a run that does not exist. -/
  known : ∀ event ∈ s.events, ∀ id, event.runId = some id → (s.runs.find id).isSome

/-- What the new events add to the log of a run of their session. -/
theorem runLog_own (h : Logged s t agentSession newItems newEvents) {r : AgentRun}
    (howner : r.sessionId = agentSession.id) :
    runLog t r = runLog s r ++ (newEvents.filter fun event =>
      decide (event.runId = some r.id) && isStatusEvent event.payload).map (·.payload) := by
  rw [runLog, howner, sessionEvents_own h, List.filter_append, List.map_append, ← howner]
  rfl

/-- New events of one run leave the log of any other as it was. -/
theorem runLog_other (h : Logged s t agentSession newItems newEvents) {r a : AgentRun}
    (hevents : ∀ event ∈ newEvents, event.runId = some r.id) (hne : a.id ≠ r.id) :
    runLog t a = runLog s a := by
  by_cases howner : a.sessionId = agentSession.id
  · have hnone : (newEvents.filter fun event =>
        decide (event.runId = some a.id) && isStatusEvent event.payload) = [] := by
      apply List.filter_eq_nil_iff.mpr
      intro event hevent
      simp [hevents event hevent, hne.symm]
    rw [runLog_own h howner, hnone, List.map_nil, List.append_nil]
  · rw [runLog, sessionEvents_other h howner]
    rfl

theorem runLog_congr (s : Database) {r a : AgentRun} (hid : a.id = r.id)
    (hsession : a.sessionId = r.sessionId) : runLog s a = runLog s r := by
  rw [runLog, runLog, hid, hsession]

theorem known_logged (hs : Retold s) (h : Logged s t agentSession newItems newEvents) {r : AgentRun}
    (hevents : ∀ event ∈ newEvents, event.runId = some r.id)
    (hruns : ∀ id, t.runs.find id = if id = r.id then some r else s.runs.find id) :
    ∀ event ∈ t.events, ∀ id, event.runId = some id → (t.runs.find id).isSome := by
  intro event hevent id hid
  rw [hruns]
  split
  · rfl
  · rename_i hne
    rw [h.events] at hevent
    rcases List.mem_append.mp hevent with hold | hnew
    · exact hs.known event hold id hid
    · have hsame := (hevents event hnew).symm.trans hid
      exact absurd (Option.some.inj hsame).symm hne

/-- A run that moves logs its move last. -/
theorem retold_moved (hs : Retold s) (h : Logged s t agentSession newItems newEvents) {r : AgentRun}
    {target : AgentRunStatus} {errorCode : Option Str} {now : Time} (reason code : Option Str)
    (hfound : s.runs.find r.id = some r) (howner : r.sessionId = agentSession.id)
    (hallowed : target ∈ allowedTransitions r.status)
    (hruns : t.runs.find = Function.update s.runs.find r.id (some (moved r target errorCode now)))
    (hevents : ∀ event ∈ newEvents, event.runId = some r.id)
    (hstatus : (newEvents.filter fun event => isStatusEvent event.payload).map (·.payload) =
      [.runStatusChanged r.status target reason code]) : Retold t := by
  constructor
  · intro a ha
    rcases (mem_moved hruns).mp ha with rfl | ⟨hne, ha⟩
    · have hmine : (newEvents.filter fun event =>
          decide (event.runId = some r.id) && isStatusEvent event.payload) =
          newEvents.filter fun event => isStatusEvent event.payload := by
        apply List.filter_congr
        intro event hevent
        simp [hevents event hevent]
      rw [runLog_congr t (moved_id r target errorCode now) (moved_sessionId r target errorCode now),
        moved_status, runLog_own h howner, hmine, hstatus]
      exact .changed (hs.chain r (found_mem hfound)) hallowed reason code
    · rw [runLog_other h hevents hne]
      exact hs.chain a ha
  · have hfind : ∀ id, t.runs.find id =
        if id = (moved r target errorCode now).id then some (moved r target errorCode now)
        else s.runs.find id := by
      intro id
      rw [hruns, Function.update_apply, moved_id]
    exact known_logged hs h (by simpa using hevents) hfind

theorem retold_effect (hs : Retold s) (h : Effect s t) : Retold t := by
  cases h with
  | kept sessions runs questions inbox events =>
    constructor
    · intro r hr
      rw [runLog, sessionEvents, events]
      exact hs.chain r (runs ▸ hr)
    · rw [events, runs]
      exact hs.known
  | sessionCreated created event fresh sessions noItems oneEvent events owner seq unrun runs =>
    constructor
    · intro r hr
      have hchain := hs.chain r (runs ▸ hr)
      rw [runLog, sessionEvents, events, List.filter_append, List.filter_append, List.map_append]
      have hnone : (([event].filter fun e => decide (e.sessionId = r.sessionId)).filter fun e =>
          decide (e.runId = some r.id) && isStatusEvent e.payload) = [] := by
        apply List.filter_eq_nil_iff.mpr
        intro e he
        have heq : e = event := by simpa using List.mem_of_mem_filter he
        simp [heq, unrun]
      rw [hnone, List.map_nil, List.append_nil]
      exact hchain
    · intro e he id hid
      rw [events] at he
      rcases List.mem_append.mp he with hold | hnew
      · rw [runs]
        exact hs.known e hold id hid
      · have heq : e = event := by simpa using hnew
        rw [heq, unrun] at hid
        cases hid
  | runCreated created r item event logged fresh runs owner queued slot unfinished alone unbound
      questions itemKind recorded =>
    have hevents : ∀ e ∈ [event], e.runId = some r.id := by simpa using recorded.1
    constructor
    · intro a ha
      rcases (Table.mem_of_update runs).mp ha with rfl | ⟨hne, ha⟩
      · have hempty : runLog s a = [] := by
          rw [runLog, List.map_eq_nil_iff]
          apply List.filter_eq_nil_iff.mpr
          intro e he hmine
          have hid : e.runId = some a.id := by simpa using (Bool.and_eq_true_iff.mp hmine).1
          have hknown := hs.known e (List.mem_of_mem_filter he) a.id hid
          rw [fresh] at hknown
          cases hknown
        rw [runLog_own logged owner, hempty, queued]
        simpa [recorded.1, recorded.2, isStatusEvent] using
          Chain.created a.idempotencyKey a.inputSha256 item.seq
      · rw [runLog_other logged hevents hne]
        exact hs.chain a ha
    · apply known_logged hs logged hevents
      intro id
      rw [runs, Function.update_apply]
  | transitioned created r target reason errorCode now event logged found owner allowed resumed runs
      questions recorded =>
    exact retold_moved hs logged reason errorCode found owner allowed runs (by simpa using recorded.1)
      (by simp [recorded.2, isStatusEvent])
  | asked created r q now first second reason logged found owner running fresh unasked runs questions
      questionRun pending questionOpen firstRecorded secondRecorded =>
    exact retold_moved hs logged reason none found owner (by rw [running]; decide) runs
      (by simp [firstRecorded.1, secondRecorded.1])
      (by simp [firstRecorded.2, secondRecorded.2, isStatusEvent, running])
  | answered created r q actor payload sha256 answeredAt movedAt item first second mode answerReason
      reason logged found owner waiting foundQuestion questionRun questionSession pending runs questions
      answer firstRecorded secondRecorded =>
    exact retold_moved hs logged reason none found owner (by rw [waiting]; decide) runs
      (by simp [firstRecorded.1, secondRecorded.1])
      (by simp [firstRecorded.2, secondRecorded.2, isStatusEvent, waiting])

/-- The item that holds the answer of a question. -/
structure AnswerOf (q : PendingQuestion) (item : AgentSessionInbox) : Prop where
  question : item.questionId = some q.id
  session : item.sessionId = q.sessionId
  seq : q.answerInboxSeq = some item.seq
  sha256 : q.answerSha256 = some item.payloadSha256

structure Answered (s : Database) : Prop where
  given : ∀ q ∈ s.questions.rows, q.status = .ANSWERED →
    ∃ item ∈ s.inbox, item.kind = .QUESTION_ANSWER ∧ AnswerOf q item
  asked : ∀ item ∈ s.inbox, item.kind = .QUESTION_ANSWER →
    ∃ q ∈ s.questions.rows, q.status = .ANSWERED ∧ AnswerOf q item

/-- What a step without a new answer keeps: its answered questions are old ones. -/
theorem answered_kept (hsound : Sound s) (hs : Answered s) (h : Effect s t)
    (hquestions : ∀ q ∈ t.questions.rows, q.status = .ANSWERED → q ∈ s.questions.rows)
    (hinbox : t.inbox = s.inbox ++ newItems) (hkind : ∀ item ∈ newItems, item.kind = .RUN_REQUEST) :
    Answered t := by
  constructor
  · intro q hq hstatus
    obtain ⟨item, hitem, hanswer⟩ := hs.given q (hquestions q hq hstatus) hstatus
    exact ⟨item, hinbox ▸ List.mem_append_left newItems hitem, hanswer⟩
  · intro item hitem hanswer
    rw [hinbox] at hitem
    rcases List.mem_append.mp hitem with hold | hnew
    · obtain ⟨q, hq, hstatus, hmatch⟩ := hs.asked item hold hanswer
      exact ⟨q, closed_kept hsound h hq (by rw [hstatus]; decide), hstatus, hmatch⟩
    · rw [hkind item hnew] at hanswer
      cases hanswer

theorem answered_effect (hsound : Sound s) (hs : Answered s) (h : Effect s t) : Answered t := by
  have heffect := h
  cases h with
  | kept sessions runs questions inbox events =>
    exact answered_kept hsound hs heffect (fun q hq _ => questions ▸ hq)
      (show t.inbox = s.inbox ++ [] by rw [inbox, List.append_nil]) (by simp)
  | sessionCreated created event fresh sessions noItems oneEvent events owner seq unrun runs questions
      inbox =>
    exact answered_kept hsound hs heffect (fun q hq _ => questions ▸ hq)
      (show t.inbox = s.inbox ++ [] by rw [inbox, List.append_nil]) (by simp)
  | runCreated created r item event logged fresh runs owner queued slot unfinished alone unbound
      questions itemKind =>
    exact answered_kept hsound hs heffect (fun q hq _ => questions ▸ hq) logged.inbox
      (by simpa using itemKind)
  | transitioned created r target reason errorCode now event logged found owner allowed resumed runs
      questions =>
    refine answered_kept hsound hs heffect ?_ logged.inbox (by simp)
    intro q hq hstatus
    rw [questions] at hq
    split at hq
    · obtain ⟨before, hbefore, rfl⟩ := Table.mem_mapRows.mp hq
      by_cases hopen : isOpenOf r.id before = true
      · simp only [closed, hopen, ↓reduceIte] at hstatus
        split at hstatus <;> cases hstatus
      · simpa [closed, hopen] using hbefore
    · exact hq
  | asked created r q now first second reason logged found owner running fresh unasked runs questions
      questionRun pending =>
    refine answered_kept hsound hs heffect ?_ logged.inbox (by simp)
    intro other hother hstatus
    rcases (Table.mem_of_update questions).mp hother with rfl | ⟨-, hold⟩
    · rw [pending] at hstatus
      cases hstatus
    · exact hold
  | answered created r q actor payload sha256 answeredAt movedAt item first second mode answerReason
      reason logged found owner waiting foundQuestion questionRun questionSession pending runs questions
      answer =>
    obtain ⟨hkind, hquestion, hsha⟩ := answer
    have hnew : AnswerOf (TaskAgent.answered q actor payload sha256 item.seq answeredAt) item :=
      ⟨hquestion, (logged.itemOwner item (by simp)).trans questionSession.symm, rfl,
        congrArg some hsha.symm⟩
    have hmem : ∀ other, other ∈ t.questions.rows ↔
        other = TaskAgent.answered q actor payload sha256 item.seq answeredAt ∨
          (other.id ≠ q.id ∧ other ∈ s.questions.rows) := fun other =>
      Table.mem_of_update (a := TaskAgent.answered q actor payload sha256 item.seq answeredAt) questions
    constructor
    · intro other hother hstatus
      rcases (hmem other).mp hother with rfl | ⟨-, hold⟩
      · exact ⟨item, logged.inbox ▸ List.mem_append_right _ List.mem_cons_self, hkind, hnew⟩
      · obtain ⟨given, hgiven, hmatch⟩ := hs.given other hold hstatus
        exact ⟨given, logged.inbox ▸ List.mem_append_left _ hgiven, hmatch⟩
    · intro given hgiven hanswer
      rw [logged.inbox] at hgiven
      rcases List.mem_append.mp hgiven with hold | hlast
      · obtain ⟨other, hother, hstatus, hmatch⟩ := hs.asked given hold hanswer
        exact ⟨other, closed_kept hsound heffect hother (by rw [hstatus]; decide), hstatus, hmatch⟩
      · obtain rfl : given = item := by simpa using hlast
        exact ⟨_, (hmem _).mpr (.inl rfl), rfl, hnew⟩

/-- Two items of one session with one number are one item. -/
theorem item_unique (hs : Numbered s) {item other : AgentSessionInbox} (hitem : item ∈ s.inbox)
    (hother : other ∈ s.inbox) (hsession : item.sessionId = other.sessionId)
    (hseq : item.seq = other.seq) : item = other := by
  have hnodup : ((sessionItems s item.sessionId).map (·.seq)).Nodup := by
    rw [hs.items]
    exact List.nodup_range'
  apply List.inj_on_of_nodup_map hnodup _ _ hseq
  · simpa [sessionItems] using hitem
  · simpa [sessionItems, hsession] using hother

structure Logbook (s : Database) : Prop where
  sound : Sound s
  numbered : Numbered s
  retold : Retold s
  answered : Answered s

theorem logbook_empty : Logbook Database.empty where
  sound := sound_empty
  numbered := ⟨fun _ => rfl, fun _ => rfl⟩
  retold := ⟨fun _ hr => absurd hr List.not_mem_nil, fun _ he => absurd he List.not_mem_nil⟩
  answered := ⟨fun _ hq => absurd hq List.not_mem_nil, fun _ hi => absurd hi List.not_mem_nil⟩

variable {p : Platform}

theorem logbook_run {actions : List Action} (h : run (step p) Database.empty actions = some s) :
    Logbook s := by
  refine run_invariant Logbook ?_ logbook_empty h
  intro u a v hu hstep
  have heffect := step_effect hstep
  exact ⟨sound_effect hu.sound heffect, numbered_effect hu.numbered heffect,
    retold_effect hu.retold heffect, answered_effect hu.sound hu.answered heffect⟩

/-- The inbox item of a question's answer. -/
def IsAnswerItem (s : Database) (q : PendingQuestion) (item : AgentSessionInbox) : Prop :=
  item ∈ s.inbox ∧ item.kind = .QUESTION_ANSWER ∧ item.questionId = some q.id

/-- The answered question of an inbox item. -/
def IsAnsweredBy (s : Database) (item : AgentSessionInbox) (q : PendingQuestion) : Prop :=
  q ∈ s.questions.rows ∧ q.status = .ANSWERED ∧ item.questionId = some q.id

theorem answerOf_item (hs : Logbook s) {q : PendingQuestion} {item : AgentSessionInbox}
    (hq : q ∈ s.questions.rows) (h : IsAnswerItem s q item) : AnswerOf q item := by
  obtain ⟨hitem, hkind, hid⟩ := h
  obtain ⟨other, hother, -, hmatch⟩ := hs.answered.asked item hitem hkind
  have hsame : other.id = q.id := Option.some.inj (hmatch.question.symm.trans hid)
  exact Table.eq_of_key hother hq hsame ▸ hmatch

theorem answer_unique (hs : Logbook s) {q : PendingQuestion} (hq : q ∈ s.questions.rows)
    (hstatus : q.status = .ANSWERED) : ∃! item, IsAnswerItem s q item := by
  obtain ⟨item, hitem, hkind, hmatch⟩ := hs.answered.given q hq hstatus
  refine ⟨item, ⟨hitem, hkind, hmatch.question⟩, ?_⟩
  intro other hother
  have hanother := answerOf_item hs hq hother
  apply item_unique hs.numbered hother.1 hitem
  · rw [hanother.session, hmatch.session]
  · exact Option.some.inj (hanother.seq.symm.trans hmatch.seq)

theorem question_unique (hs : Logbook s) {item : AgentSessionInbox} (hitem : item ∈ s.inbox)
    (hkind : item.kind = .QUESTION_ANSWER) : ∃! q, IsAnsweredBy s item q := by
  obtain ⟨q, hq, hstatus, hmatch⟩ := hs.answered.asked item hitem hkind
  refine ⟨q, ⟨hq, hstatus, hmatch.question⟩, ?_⟩
  rintro other ⟨hother, -, hid⟩
  exact Table.eq_of_key hother hq (Option.some.inj (hid.symm.trans hmatch.question))

/-- The log of the task agent determines its state, in every reachable state. -/
theorem log_determines_state {actions : List Action} {s : Database}
    (h : run (step p) Database.empty actions = some s) :
    (∀ agentSession ∈ s.sessions.rows,
      (sessionItems s agentSession.id).map (·.seq) = List.range' 1 agentSession.lastInboxSeq ∧
      (sessionEvents s agentSession.id).map (·.seq) = List.range' 1 agentSession.lastEventSeq) ∧
    (∀ r ∈ s.runs.rows, Chain (runLog s r) r.status) ∧
    (∀ q ∈ s.questions.rows, q.status = .ANSWERED → ∃! item, IsAnswerItem s q item) ∧
    (∀ item ∈ s.inbox, item.kind = .QUESTION_ANSWER → ∃! q, IsAnsweredBy s item q) ∧
    ∀ q ∈ s.questions.rows, ∀ item, IsAnswerItem s q item →
      q.answerInboxSeq = some item.seq ∧ q.answerSha256 = some item.payloadSha256 := by
  have hs := logbook_run h
  refine ⟨?_, hs.retold.chain, fun q hq => answer_unique hs hq, fun item => question_unique hs, ?_⟩
  · intro agentSession hsession
    have hfound := Table.mem_iff_find.mp hsession
    have hitems := hs.numbered.items agentSession.id
    have hevents := hs.numbered.events agentSession.id
    rw [hfound] at hitems hevents
    exact ⟨hitems, hevents⟩
  · intro q hq item hitem
    have hmatch := answerOf_item hs hq hitem
    exact ⟨hmatch.seq, hmatch.sha256⟩

/-- The log of the sample: one answered question, two items and nine events. -/
theorem log_determines_state_sample :
    let s := sampleRun.get sampleRun_isSome
    (s.inbox.map (·.seq), s.events.map (·.seq)) = ([1, 2], [1, 2, 3, 4, 5, 6, 7, 8, 9]) ∧
      (∀ agentSession ∈ s.sessions.rows,
        (sessionItems s agentSession.id).map (·.seq) = List.range' 1 agentSession.lastInboxSeq ∧
        (sessionEvents s agentSession.id).map (·.seq) = List.range' 1 agentSession.lastEventSeq) ∧
      (∀ r ∈ s.runs.rows, Chain (runLog s r) r.status) ∧
      (∀ q ∈ s.questions.rows, q.status = .ANSWERED → ∃! item, IsAnswerItem s q item) ∧
      (∀ item ∈ s.inbox, item.kind = .QUESTION_ANSWER → ∃! q, IsAnsweredBy s item q) ∧
      ∀ q ∈ s.questions.rows, ∀ item, IsAnswerItem s q item →
        q.answerInboxSeq = some item.seq ∧ q.answerSha256 = some item.payloadSha256 :=
  ⟨(sampleRun_values (Option.some_get sampleRun_isSome).symm).2,
    log_determines_state (Option.some_get sampleRun_isSome).symm⟩

end WechatBot.AgentLog
