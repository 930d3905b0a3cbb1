import WechatBot.Results
import WechatBot.TaskAgent
import WechatBot.Transactions

/-!
# The pieces of a task-agent call

Which pieces only read, and what each piece has found or written when it succeeds.
-/
namespace WechatBot.TaskAgentCalls

open PyData PersistedJson TaskAgent Transactions
open Tables (Table)

variable {p : Platform}

theorem reads_normalized (value : PyDict) (name : String) : Reads (normalized p value name) := by
  unfold normalized
  split
  · exact reads_pure _
  · exact reads_throw _

theorem reads_storeText (text : Str) : Reads (storeText p text) :=
  reads_ite (reads_pure _) (reads_throw _)

theorem reads_storeInteger (n : Nat) : Reads (storeInteger p n) :=
  reads_ite (reads_throw _) (reads_pure _)

theorem reads_storeJson (value : Json) : Reads (storeJson p value) := by
  unfold storeJson
  split
  · exact reads_pure _
  · exact reads_throw _

theorem reads_lockedWorkspace (workspaceId : Option UUID) : Reads (lockedWorkspace workspaceId) := by
  apply reads_bind reads_get
  intro s
  split
  · exact reads_throw _
  · exact reads_pure _
  · exact reads_throw _

theorem reads_lockedSession (sessionId : UUID) (workspaceId : Option UUID) :
    Reads (lockedSession sessionId workspaceId) := by
  apply reads_bind (reads_lockedWorkspace workspaceId)
  intro workspace
  apply reads_bind reads_get
  intro s
  split
  · exact reads_throw _
  · exact reads_ite (reads_throw _) (reads_pure _)

theorem reads_lockedRun (runId : UUID) (workspaceId : Option UUID) :
    Reads (lockedRun runId workspaceId) := by
  apply reads_bind (reads_lockedWorkspace workspaceId)
  intro workspace
  apply reads_bind reads_get
  intro s
  split
  · exact reads_throw _
  · split
    · exact reads_throw _
    · exact reads_ite (reads_throw _) (reads_pure _)

theorem reads_lockedQuestion (questionId : UUID) (workspaceId : Option UUID) :
    Reads (lockedQuestion questionId workspaceId) := by
  apply reads_bind (reads_lockedWorkspace workspaceId)
  intro workspace
  apply reads_bind reads_get
  intro s
  split
  · exact reads_throw _
  · split
    · exact reads_ite (reads_throw _) (reads_pure _)
    · exact reads_throw _

theorem reads_requirePrincipal (principalId workspaceId : UUID) :
    Reads (requirePrincipal principalId workspaceId) := by
  apply reads_bind reads_get
  intro s
  exact reads_ite (reads_pure _) (reads_throw _)

theorem reads_openQuestion (runId : UUID) : Reads (openQuestion runId) := by
  apply reads_bind reads_get
  intro s
  exact reads_pure _

theorem reads_findRunByKey (sessionId : UUID) (key : Str) : Reads (findRunByKey p sessionId key) := by
  apply reads_bind (reads_storeText key)
  intro _
  apply reads_bind reads_get
  intro s
  exact reads_pure _

theorem reads_findActiveRun (sessionId : UUID) : Reads (findActiveRun sessionId) := by
  apply reads_bind reads_get
  intro s
  exact reads_pure _

theorem reads_resolveIdempotentRun (existing : AgentRun) (payload : Json) (sha256 : Str) :
    Reads (resolveIdempotentRun existing payload sha256) :=
  reads_ite (reads_throw _) (reads_pure _)

theorem reads_validateAnswerableQuestion (question : PendingQuestion) (run : AgentRun)
    (now : Time) : Reads (validateAnswerableQuestion question run now) := by
  unfold validateAnswerableQuestion
  dsimp only
  split
  · exact reads_guard fun _ => reads_raise _ _
  · apply reads_guard
    intro _
    exact reads_ite (reads_throw _) (reads_pure _)

/-- A normalized value is what `normalize_json` answers. -/
theorem normalized_ok {value : PyDict} {name : String} {s t : Database} {result : Json × Str}
    (h : normalized p value name s = .ok result t) :
    normalizeJson p.sha256 value name = .ok result ∧ s = t := by
  unfold normalized at h
  cases hresult : normalizeJson p.sha256 value name with
  | error detail =>
    rw [hresult] at h
    exact absurd h throw_ok
  | ok found =>
    rw [hresult] at h
    obtain ⟨rfl, rfl⟩ := pure_ok.mp h
    exact ⟨rfl, rfl⟩

/-- A digest is 64 characters long. -/
theorem sha256_length {value : PyDict} {name : String} {result : Json × Str}
    (h : Answers (normalized p value name) result) : result.2.length = 64 := by
  obtain ⟨s, t, h⟩ := h
  obtain ⟨doc, -, -, rfl⟩ := normalizeJson_ok.mp (normalized_ok h).1
  exact p.sha256Length _

theorem storeInteger_ok {n : Nat} {s t : Database} (h : storeInteger p n s = .ok () t) :
    n ≤ p.integerMax ∧ s = t := by
  refine ⟨?_, ((reads_storeInteger n).ok h).symm⟩
  unfold storeInteger at h
  split at h
  · exact absurd h throw_ok
  · omega

theorem storeJson_ok {value stored : Json} {s t : Database}
    (h : storeJson p value s = .ok stored t) : p.json value = some stored ∧ s = t := by
  unfold storeJson at h
  cases hstored : p.json value with
  | none =>
    rw [hstored] at h
    exact absurd h throw_ok
  | some found =>
    rw [hstored] at h
    obtain ⟨rfl, rfl⟩ := pure_ok.mp h
    exact ⟨rfl, rfl⟩

/-- An inbox item gets the next number of its session. -/
theorem appendInboxLocked_ok {agentSession : AgentSession} {runId actorPrincipalId : UUID}
    {kind : AgentInboxKind} {payload : Json} {sha256 : Str} {questionId : Option UUID}
    {s t : Database} {result : AgentSession × AgentSessionInbox}
    (h : appendInboxLocked p agentSession runId actorPrincipalId kind payload sha256 questionId s =
      .ok result t) :
    ∃ stored, agentSession.countItem.lastInboxSeq ≤ p.integerMax ∧
      result = (agentSession.countItem,
        newItem agentSession.countItem runId actorPrincipalId kind stored sha256 questionId) ∧
      t = s.addItem result.1 result.2 := by
  obtain ⟨_, _, hseq, h⟩ := bind_ok.mp h
  obtain ⟨hle, rfl⟩ := storeInteger_ok hseq
  obtain ⟨stored, _, hstored, h⟩ := bind_ok.mp h
  obtain ⟨-, rfl⟩ := storeJson_ok hstored
  obtain ⟨_, _, hmodify, h⟩ := bind_ok.mp h
  obtain ⟨rfl, rfl⟩ := pure_ok.mp h
  exact ⟨stored, hle, rfl, (modify_ok.mp hmodify).symm⟩

/-- An inbox number fits its column. -/
theorem seq_lt {agentSession : AgentSession} {runId actorPrincipalId : UUID}
    {kind : AgentInboxKind} {payload : Json} {sha256 : Str} {questionId : Option UUID}
    {result : AgentSession × AgentSessionInbox}
    (h : Answers (appendInboxLocked p agentSession runId actorPrincipalId kind payload sha256
      questionId) result) : result.2.seq < 2 ^ 64 := by
  obtain ⟨s, t, h⟩ := h
  obtain ⟨stored, hle, rfl, -⟩ := appendInboxLocked_ok h
  exact lt_of_le_of_lt hle p.integerMaxLt

/-- An event gets the next number of its session. -/
theorem appendEventLocked_ok {agentSession next : AgentSession} {runId questionId : Option UUID}
    {payload : EventPayload} {s t : Database}
    (h : appendEventLocked p agentSession runId questionId payload s = .ok next t) :
    next = agentSession.countEvent ∧
      t = s.addEvent agentSession.countEvent
        (newEvent agentSession.countEvent runId questionId payload) := by
  obtain ⟨⟨document, sha256⟩, _, hnormalized, h⟩ := bind_ok.mp h
  obtain ⟨-, rfl⟩ := normalized_ok hnormalized
  obtain ⟨_, _, hseq, h⟩ := bind_ok.mp h
  obtain ⟨-, rfl⟩ := storeInteger_ok hseq
  obtain ⟨stored, _, hstored, h⟩ := bind_ok.mp h
  obtain ⟨-, rfl⟩ := storeJson_ok hstored
  obtain ⟨_, _, hmodify, h⟩ := bind_ok.mp h
  obtain ⟨rfl, rfl⟩ := pure_ok.mp h
  exact ⟨rfl, (modify_ok.mp hmodify).symm⟩

/-- A transition that succeeds was allowed, and writes the run and its event. -/
theorem transitionLocked_ok {agentSession : AgentSession} {run : AgentRun}
    {target : AgentRunStatus} {reason errorCode : Option Str} {now : Time} {s t : Database}
    {result : AgentSession × AgentRun}
    (h : transitionLocked p agentSession run target reason errorCode now s = .ok result t) :
    target ∈ allowedTransitions run.status ∧
      result = (agentSession.countEvent, moved run target errorCode now) ∧
      t = (s.saveMoved result.2 now).addEvent agentSession.countEvent
        (newEvent agentSession.countEvent (some result.2.id) none
          (.runStatusChanged run.status target reason errorCode)) := by
  unfold transitionLocked at h
  dsimp only at h
  obtain ⟨hallowed, h⟩ := guard_ok.mp h
  obtain ⟨_, _, hcode, h⟩ := bind_ok.mp h
  have hread : Reads ((errorCode.map (storeText p)).getD (pure ())) := by
    cases errorCode with
    | none => exact reads_pure _
    | some text => exact reads_storeText text
  rw [hread.ok hcode] at h
  obtain ⟨_, _, hmodify, h⟩ := bind_ok.mp h
  obtain ⟨next, _, hevent, h⟩ := bind_ok.mp h
  obtain ⟨rfl, rfl⟩ := pure_ok.mp h
  obtain ⟨rfl, rfl⟩ := appendEventLocked_ok hevent
  rw [← modify_ok.mp hmodify]
  exact ⟨not_not.mp hallowed, rfl, rfl⟩

theorem lockedSession_ok {sessionId : UUID} {workspaceId : Option UUID} {s t : Database}
    {agentSession : AgentSession} (h : lockedSession sessionId workspaceId s = .ok agentSession t) :
    s.sessions.find sessionId = some agentSession ∧ s = t := by
  obtain ⟨workspace, _, hworkspace, h⟩ := bind_ok.mp h
  rw [(reads_lockedWorkspace _).ok hworkspace] at h
  obtain ⟨_, _, hget, h⟩ := bind_ok.mp h
  obtain ⟨rfl, rfl⟩ := get_ok.mp hget
  cases hfound : s.sessions.find sessionId with
  | none =>
    simp only [hfound] at h
    exact absurd h throw_ok
  | some found =>
    simp only [hfound] at h
    split at h
    · exact absurd h throw_ok
    · obtain ⟨rfl, rfl⟩ := pure_ok.mp h
      exact ⟨rfl, rfl⟩

theorem lockedRun_ok {runId : UUID} {workspaceId : Option UUID} {s t : Database}
    {agentSession : AgentSession} {run : AgentRun}
    (h : lockedRun runId workspaceId s = .ok (agentSession, run) t) :
    s.runs.find runId = some run ∧ s.sessions.find run.sessionId = some agentSession ∧ s = t := by
  obtain ⟨workspace, _, hworkspace, h⟩ := bind_ok.mp h
  rw [(reads_lockedWorkspace _).ok hworkspace] at h
  obtain ⟨_, _, hget, h⟩ := bind_ok.mp h
  obtain ⟨rfl, rfl⟩ := get_ok.mp hget
  cases hfound : s.runs.find runId with
  | none =>
    simp only [hfound] at h
    exact absurd h throw_ok
  | some found =>
    cases howner : s.sessions.find found.sessionId with
    | none =>
      simp only [hfound, howner] at h
      exact absurd h throw_ok
    | some owner =>
      simp only [hfound, howner] at h
      split at h
      · exact absurd h throw_ok
      · obtain ⟨hpair, rfl⟩ := pure_ok.mp h
        cases hpair
        exact ⟨rfl, howner, rfl⟩

/-- A locked question comes with its run and its session. -/
theorem lockedQuestion_ok {questionId : UUID} {workspaceId : Option UUID} {s t : Database}
    {agentSession : AgentSession} {run : AgentRun} {question : PendingQuestion}
    (h : lockedQuestion questionId workspaceId s = .ok (agentSession, run, question) t) :
    s.questions.find questionId = some question ∧ s.runs.find question.runId = some run ∧
      s.sessions.find question.sessionId = some agentSession ∧ run.sessionId = agentSession.id ∧
      s = t := by
  obtain ⟨workspace, _, hworkspace, h⟩ := bind_ok.mp h
  rw [(reads_lockedWorkspace _).ok hworkspace] at h
  obtain ⟨_, _, hget, h⟩ := bind_ok.mp h
  obtain ⟨rfl, rfl⟩ := get_ok.mp hget
  cases hfound : s.questions.find questionId with
  | none =>
    simp only [hfound] at h
    exact absurd h throw_ok
  | some found =>
    cases hrun : s.runs.find found.runId with
    | none =>
      simp only [hfound, hrun] at h
      exact absurd h throw_ok
    | some parent =>
      cases hsession : s.sessions.find found.sessionId with
      | none =>
        simp only [hfound, hrun, hsession] at h
        exact absurd h throw_ok
      | some owner =>
        simp only [hfound, hrun, hsession] at h
        split at h
        · exact absurd h throw_ok
        · rename_i hjoin
          obtain ⟨htriple, rfl⟩ := pure_ok.mp h
          cases htriple
          simp only [not_or, not_not] at hjoin
          exact ⟨rfl, hrun, hsession, hjoin.1, rfl⟩

theorem openQuestion_ok {runId : UUID} {s t : Database} {question : Option PendingQuestion}
    (h : openQuestion runId s = .ok question t) :
    question = s.questions.rows.find? (isOpenOf runId) ∧ s = t := by
  obtain ⟨_, _, hget, h⟩ := bind_ok.mp h
  obtain ⟨rfl, rfl⟩ := get_ok.mp hget
  obtain ⟨rfl, rfl⟩ := pure_ok.mp h
  exact ⟨rfl, rfl⟩

theorem validateAnswerableQuestion_ok {question : PendingQuestion} {run : AgentRun} {now : Time}
    {s t : Database} {u : Unit}
    (h : validateAnswerableQuestion question run now s = .ok u t) :
    question.status = .PENDING ∧ now < question.expiresAt ∧ run.status = .WAITING_USER ∧
      run.activeSlot = some 1 := by
  unfold validateAnswerableQuestion at h
  dsimp only at h
  split at h
  · split at h
    · exact absurd h throw_ok
    · exact absurd h throw_ok
  · rename_i hpending
    obtain ⟨hdue, h⟩ := guard_ok.mp h
    split at h
    · exact absurd h throw_ok
    · rename_i hwaiting
      simp only [not_or, not_not] at hwaiting hpending
      exact ⟨hpending, not_le.mp hdue, hwaiting.1, hwaiting.2⟩

/-- A run is inserted unless it clashes. -/
theorem insertRun_ok {run : AgentRun} {s t : Database} {inserted : Bool}
    (h : insertRun p run s = .ok inserted t) :
    (inserted = false ∧ s = t) ∨
      (inserted = true ∧ s.runs.rows.any (clashes run) = false ∧
        ∃ stored runs, p.json run.inputPayload = some stored ∧
          s.runs.insert { run with inputPayload := stored } = some runs ∧ t = { s with runs }) := by
  obtain ⟨_, _, htext, h⟩ := bind_ok.mp h
  rw [(reads_storeText _).ok htext] at h
  obtain ⟨stored, _, hjson, h⟩ := bind_ok.mp h
  obtain ⟨hstored, rfl⟩ := storeJson_ok hjson
  obtain ⟨_, _, hget, h⟩ := bind_ok.mp h
  obtain ⟨rfl, rfl⟩ := get_ok.mp hget
  split at h
  · obtain ⟨rfl, rfl⟩ := pure_ok.mp h
    exact .inl ⟨rfl, rfl⟩
  · rename_i hclash
    cases hinsert : s.runs.insert { run with inputPayload := stored } with
    | none =>
      simp only [hinsert] at h
      obtain ⟨rfl, rfl⟩ := pure_ok.mp h
      exact .inl ⟨rfl, rfl⟩
    | some runs =>
      simp only [hinsert] at h
      obtain ⟨_, _, hset, h⟩ := bind_ok.mp h
      obtain ⟨rfl, rfl⟩ := pure_ok.mp h
      exact .inr ⟨rfl, by simpa using hclash, stored, runs, hstored, hinsert, (set_ok.mp hset).symm⟩

/-- A question is inserted unless its run has an open one. -/
theorem insertQuestion_ok {question : PendingQuestion} {s t : Database} {inserted : Bool}
    (h : insertQuestion p question s = .ok inserted t) :
    (inserted = false ∧ s = t) ∨
      (inserted = true ∧ s.questions.rows.any (isOpenOf question.runId) = false ∧
        ∃ stored questions,
          s.questions.insert { question with context := stored } = some questions ∧
          t = { s with questions }) := by
  obtain ⟨_, _, htext, h⟩ := bind_ok.mp h
  rw [(reads_storeText _).ok htext] at h
  obtain ⟨stored, _, hjson, h⟩ := bind_ok.mp h
  obtain ⟨-, rfl⟩ := storeJson_ok hjson
  obtain ⟨_, _, hget, h⟩ := bind_ok.mp h
  obtain ⟨rfl, rfl⟩ := get_ok.mp hget
  split at h
  · obtain ⟨rfl, rfl⟩ := pure_ok.mp h
    exact .inl ⟨rfl, rfl⟩
  · rename_i hclash
    cases hinsert : s.questions.insert { question with context := stored } with
    | none =>
      simp only [hinsert] at h
      obtain ⟨rfl, rfl⟩ := pure_ok.mp h
      exact .inl ⟨rfl, rfl⟩
    | some questions =>
      simp only [hinsert] at h
      obtain ⟨_, _, hset, h⟩ := bind_ok.mp h
      obtain ⟨rfl, rfl⟩ := pure_ok.mp h
      exact .inr ⟨rfl, by simpa using hclash, stored, questions, hinsert, (set_ok.mp hset).symm⟩

theorem createSession_ok {id : UUID} {payload : AgentSessionCreate} {agentSession : AgentSession}
    {s t : Database} (h : TaskAgent.createSession p id payload s = .ok agentSession t) :
    ∃ taskScope sha256 sessions,
      s.sessions.insert (newSession id payload taskScope sha256) = some sessions ∧
      t = { s with sessions }.addEvent (newSession id payload taskScope sha256).countEvent
        (newEvent (newSession id payload taskScope sha256).countEvent none none
          (.sessionCreated payload.agentVersionId payload.requesterPrincipalId sha256)) := by
  obtain ⟨workspace, _, hworkspace, h⟩ := bind_ok.mp h
  rw [(reads_lockedWorkspace _).ok hworkspace] at h
  obtain ⟨_, _, hget, h⟩ := bind_ok.mp h
  obtain ⟨rfl, rfl⟩ := get_ok.mp hget
  obtain ⟨-, h⟩ := guard_ok.mp h
  obtain ⟨_, _, hprincipal, h⟩ := bind_ok.mp h
  rw [(reads_requirePrincipal _ _).ok hprincipal] at h
  obtain ⟨⟨taskScope, sha256⟩, _, hnormalized, h⟩ := bind_ok.mp h
  obtain ⟨-, rfl⟩ := normalized_ok hnormalized
  obtain ⟨stored, _, hstored, h⟩ := bind_ok.mp h
  obtain ⟨-, rfl⟩ := storeJson_ok hstored
  cases hinsert : s.sessions.insert (newSession id payload stored sha256) with
  | none =>
    simp only [hinsert] at h
    exact absurd h throw_ok
  | some sessions =>
    simp only [hinsert] at h
    obtain ⟨_, _, hset, h⟩ := bind_ok.mp h
    obtain rfl := set_ok.mp hset
    obtain ⟨-, rfl⟩ := appendEventLocked_ok h
    exact ⟨stored, sha256, sessions, hinsert, rfl⟩

theorem storeText_ok {text : Str} {s t : Database} {u : Unit} (h : storeText p text s = .ok u t) :
    p.takesText text = true := by
  unfold storeText at h
  split at h
  · assumption
  · exact absurd h throw_ok

theorem findRunByKey_ok {sessionId : UUID} {key : Str} {s t : Database} {found : Option AgentRun}
    (h : findRunByKey p sessionId key s = .ok found t) :
    p.takesText key = true ∧
      (found = s.runs.rows.find? fun run =>
        decide (run.sessionId = sessionId ∧ run.idempotencyKey = key)) ∧ s = t := by
  have hsame := (reads_findRunByKey sessionId key).ok h
  obtain ⟨_, _, htext, h⟩ := bind_ok.mp h
  rw [(reads_storeText _).ok htext] at h
  obtain ⟨_, _, hget, h⟩ := bind_ok.mp h
  obtain ⟨rfl, rfl⟩ := get_ok.mp hget
  obtain ⟨rfl, -⟩ := pure_ok.mp h
  exact ⟨storeText_ok htext, rfl, hsame.symm⟩

theorem resolveIdempotentRun_ok {existing run : AgentRun} {inputPayload : Json} {inputSha256 : Str}
    {s t : Database} (h : resolveIdempotentRun existing inputPayload inputSha256 s = .ok run t) :
    existing = run ∧ existing.inputSha256 = inputSha256 ∧
      pyEq existing.inputPayload inputPayload = true ∧ s = t := by
  unfold resolveIdempotentRun at h
  split at h
  · exact absurd h throw_ok
  · rename_i hequal
    simp only [not_or, not_not, Bool.not_eq_false] at hequal
    obtain ⟨rfl, rfl⟩ := pure_ok.mp h
    exact ⟨rfl, hequal.1, hequal.2, rfl⟩

/-- What a successful `create_run` has done for an input that normalizes to `inputPayload`. -/
inductive RunCreated (p : Platform) (id sessionId : UUID) (key : Str) (inputPayload : Json)
    (inputSha256 : Str) (s t : Database) (run : AgentRun) : Prop where
  | replayed (same : s = t) (found : run ∈ s.runs.rows) (owner : run.sessionId = sessionId)
      (keyed : run.idempotencyKey = key) (digest : run.inputSha256 = inputSha256)
      (equal : pyEq run.inputPayload inputPayload = true)
  | inserted (agentSession : AgentSession) (stored document : Json)
      (runs : Table AgentRun.id) (found : s.sessions.find sessionId = some agentSession)
      (column : p.json inputPayload = some stored)
      (created : run = newRun id sessionId key inputPayload inputSha256)
      (unclashed : s.runs.rows.any (clashes run) = false)
      (insert : s.runs.insert { run with inputPayload := stored } = some runs)
      (written : t = ({ s with runs }.addItem agentSession.countItem
        (newItem agentSession.countItem run.id agentSession.requesterPrincipalId .RUN_REQUEST
          document inputSha256 none)).addEvent agentSession.countItem.countEvent
        (newEvent agentSession.countItem.countEvent (some run.id) none
          (.runCreated key inputSha256 agentSession.countItem.lastInboxSeq .QUEUED)))

/-- A creation that succeeds replays a run, or inserts one. -/
theorem createRun_ok {id sessionId : UUID} {payload : AgentRunCreate} {workspaceId : Option UUID}
    {s t : Database} {run : AgentRun}
    (h : TaskAgent.createRun p id sessionId payload workspaceId s = .ok run t) :
    ∃ inputPayload inputSha256,
      normalizeJson p.sha256 payload.inputPayload "input_payload" = .ok (inputPayload, inputSha256) ∧
      p.takesText payload.idempotencyKey = true ∧
      RunCreated p id sessionId payload.idempotencyKey inputPayload inputSha256 s t run := by
  obtain ⟨⟨inputPayload, inputSha256⟩, _, hnormalized, h⟩ := bind_ok.mp h
  obtain ⟨hinput, rfl⟩ := normalized_ok hnormalized
  obtain ⟨agentSession, _, hlocked, h⟩ := bind_ok.mp h
  obtain ⟨hsession, rfl⟩ := lockedSession_ok hlocked
  obtain ⟨existing, _, hfind, h⟩ := bind_ok.mp h
  obtain ⟨htext, hexisting, rfl⟩ := findRunByKey_ok hfind
  refine ⟨inputPayload, inputSha256, hinput, htext, ?_⟩
  have hresolved : ∀ {found : AgentRun} {u : Database},
      (s.runs.rows.find? fun run => decide (run.sessionId = sessionId ∧
        run.idempotencyKey = payload.idempotencyKey)) = some found →
      resolveIdempotentRun found inputPayload inputSha256 s = .ok run u →
      RunCreated p id sessionId payload.idempotencyKey inputPayload inputSha256 s u run := by
    intro found u hfound hresolve
    obtain ⟨rfl, hdigest, hequal, rfl⟩ := resolveIdempotentRun_ok hresolve
    have hmatch := List.find?_some hfound
    simp only [decide_eq_true_eq] at hmatch
    exact .replayed rfl (List.mem_of_find?_eq_some hfound) hmatch.1 hmatch.2 hdigest hequal
  cases existing with
  | some existing => exact hresolved hexisting.symm h
  | none =>
    obtain ⟨active, _, hactive, h⟩ := bind_ok.mp h
    rw [(reads_findActiveRun _).ok hactive] at h
    obtain ⟨-, h⟩ := guard_ok.mp h
    obtain ⟨inserted, _, hinsert, h⟩ := bind_ok.mp h
    rcases insertRun_ok hinsert with ⟨rfl, rfl⟩ | ⟨rfl, hclash, stored, runs, hstored, hrow, rfl⟩
    · obtain ⟨raced, _, hraced, h⟩ := bind_ok.mp h
      obtain ⟨-, hfound, rfl⟩ := findRunByKey_ok hraced
      cases raced with
      | some raced => exact hresolved hfound.symm h
      | none => exact absurd h throw_ok
    · obtain ⟨_, _, hrecord, h⟩ := bind_ok.mp h
      obtain ⟨rfl, rfl⟩ := pure_ok.mp h
      obtain ⟨⟨counted, item⟩, _, hitem, hrecord⟩ := bind_ok.mp hrecord
      obtain ⟨document, -, hpair, rfl⟩ := appendInboxLocked_ok hitem
      cases hpair
      obtain ⟨_, _, hevent, hdone⟩ := bind_ok.mp hrecord
      obtain ⟨-, rfl⟩ := pure_ok.mp hdone
      obtain ⟨-, rfl⟩ := appendEventLocked_ok hevent
      exact .inserted agentSession stored document runs hsession hstored rfl hclash hrow rfl

end WechatBot.TaskAgentCalls
