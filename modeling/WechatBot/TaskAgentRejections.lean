import WechatBot.EventPayloads
import WechatBot.TaskAgentCalls

/-!
# Rejected calls

Every operation of the task-agent service makes its checks before its writes: a call
that raises a `TaskAgentError` leaves the database as it found it, also when its caller
does not roll back.
-/
namespace WechatBot.TaskAgentRejections

open PyData PersistedJson TaskAgent TaskAgentCalls EventPayloads Transactions

variable {p : Platform}

abbrev SureTx {α : Type} (x : Tx α) : Prop := Sure TaskAgentError.databaseError x

abbrev CleanTx {α : Type} (x : Tx α) : Prop := Clean TaskAgentError.databaseError x

theorem sure_storeText (text : Str) : SureTx (storeText p text) :=
  sure_ite (sure_pure _) sure_fatal

theorem sure_storeInteger (n : Nat) : SureTx (storeInteger p n) :=
  sure_ite sure_fatal (sure_pure _)

theorem sure_storeJson (value : Json) : SureTx (storeJson p value) := by
  unfold storeJson
  split
  · exact sure_pure _
  · exact sure_fatal

/-- Past its checks an inbox item fails at the database only. -/
theorem sure_appendInboxLocked (agentSession : AgentSession) (runId actorPrincipalId : UUID)
    (kind : AgentInboxKind) (payload : Json) (sha256 : Str) (questionId : Option UUID) :
    SureTx (appendInboxLocked p agentSession runId actorPrincipalId kind payload sha256 questionId) := by
  apply sure_bind (sure_storeInteger _)
  intro _ _
  apply sure_bind (sure_storeJson _)
  intro stored _
  apply sure_bind (sure_modify _)
  intro _ _
  exact sure_pure _

theorem sure_normalized {payload : EventPayload} (h : Fits payload) (name : String) :
    SureTx (normalized p payload.document name) := by
  obtain ⟨result, hresult⟩ := normalize_document p.sha256 h name
  unfold normalized
  rw [hresult]
  exact sure_pure _

/-- Past its checks an event fails at the database only. -/
theorem sure_appendEventLocked (agentSession : AgentSession) (runId questionId : Option UUID)
    {payload : EventPayload} (h : Fits payload) :
    SureTx (appendEventLocked p agentSession runId questionId payload) := by
  apply sure_bind (sure_normalized h _)
  rintro ⟨document, sha256⟩ _
  apply sure_bind (sure_storeInteger _)
  intro _ _
  apply sure_bind (sure_storeJson _)
  intro _ _
  apply sure_bind (sure_modify _)
  intro _ _
  exact sure_pure _

/-- The writes of `_transition_locked`, after the check of the transition table. -/
theorem sure_transitionLocked (agentSession : AgentSession) (run : AgentRun)
    {target : AgentRunStatus} {reason errorCode : Option Str} (now : Time)
    (hallowed : target ∈ allowedTransitions run.status)
    (hreason : ∀ text ∈ reason, text.length ≤ 500) (hcode : ∀ text ∈ errorCode, text.length ≤ 500) :
    SureTx (transitionLocked p agentSession run target reason errorCode now) := by
  unfold transitionLocked
  dsimp only
  rw [if_neg (not_not_intro hallowed)]
  apply sure_bind
  · cases errorCode with
    | none => exact sure_pure _
    | some text => exact sure_storeText text
  · intro _ _
    apply sure_bind (sure_modify _)
    intro _ _
    apply sure_bind (sure_appendEventLocked _ _ _ (fits_runStatusChanged hreason hcode))
    intro _ _
    exact sure_pure _

/-- A transition refuses before it writes. -/
theorem clean_transitionLocked (agentSession : AgentSession) (run : AgentRun)
    {target : AgentRunStatus} {reason errorCode : Option Str} (now : Time)
    (hreason : ∀ text ∈ reason, text.length ≤ 500) (hcode : ∀ text ∈ errorCode, text.length ≤ 500) :
    CleanTx (transitionLocked p agentSession run target reason errorCode now) := by
  by_cases hallowed : target ∈ allowedTransitions run.status
  · exact (sure_transitionLocked agentSession run now hallowed hreason hcode).clean
  · unfold transitionLocked
    dsimp only
    rw [if_pos hallowed]
    exact (reads_throw _).clean

theorem clean_createSession (id : UUID) (payload : AgentSessionCreate) :
    CleanTx (TaskAgent.createSession p id payload) := by
  apply clean_bind (reads_lockedWorkspace _)
  intro workspace _
  apply clean_bind reads_get
  intro s _
  apply clean_guard
  intro _
  apply clean_bind (reads_requirePrincipal _ _)
  intro _ _
  apply clean_bind (reads_normalized _ _)
  rintro ⟨taskScope, sha256⟩ hnormalized
  apply clean_bind (reads_storeJson _)
  intro stored _
  dsimp only
  cases s.sessions.insert (newSession id payload stored sha256) with
  | none => exact (reads_throw _).clean
  | some sessions =>
    apply Sure.clean
    apply sure_bind (sure_set _)
    intro _ _
    exact sure_appendEventLocked _ _ _ (fits_sessionCreated (sha256_length hnormalized))

theorem sure_insertRun (run : AgentRun) : SureTx (insertRun p run) := by
  apply sure_bind (sure_storeText _)
  intro _ _
  apply sure_bind (sure_storeJson _)
  intro stored _
  apply sure_bind sure_get
  intro s _
  apply sure_ite (sure_pure _)
  cases s.runs.insert { run with inputPayload := stored } with
  | none => exact sure_pure _
  | some runs => exact sure_bind (sure_set _) fun _ _ => sure_pure _

theorem insertRun_false {run : AgentRun} (s t : Database) (h : insertRun p run s = .ok false t) :
    t = s := by
  rcases insertRun_ok h with ⟨-, ht⟩ | ⟨habsurd, -⟩
  · exact ht.symm
  · cases habsurd

theorem sure_insertQuestion (question : PendingQuestion) : SureTx (insertQuestion p question) := by
  apply sure_bind (sure_storeText _)
  intro _ _
  apply sure_bind (sure_storeJson _)
  intro stored _
  apply sure_bind sure_get
  intro s _
  apply sure_ite (sure_pure _)
  cases s.questions.insert { question with context := stored } with
  | none => exact sure_pure _
  | some questions => exact sure_bind (sure_set _) fun _ _ => sure_pure _

theorem insertQuestion_false {question : PendingQuestion} (s t : Database)
    (h : insertQuestion p question s = .ok false t) : t = s := by
  rcases insertQuestion_ok h with ⟨-, ht⟩ | ⟨habsurd, -⟩
  · exact ht.symm
  · cases habsurd

theorem sure_recordRunRequest (agentSession : AgentSession) {run : AgentRun}
    (hkey : run.idempotencyKey.length ≤ 255) (hsha : run.inputSha256.length = 64) :
    SureTx (recordRunRequest p agentSession run) := by
  apply sure_bind (sure_appendInboxLocked _ _ _ _ _ _ _)
  rintro ⟨counted, item⟩ hitem
  apply sure_bind (sure_appendEventLocked _ _ _ (fits_runCreated hkey hsha (seq_lt hitem)))
  intro _ _
  exact sure_pure _

/-- A creation refuses before it writes. -/
theorem clean_createRun (id sessionId : UUID) (payload : AgentRunCreate)
    (workspaceId : Option UUID) :
    CleanTx (TaskAgent.createRun p id sessionId payload workspaceId) := by
  apply clean_bind (reads_normalized _ _)
  rintro ⟨inputPayload, inputSha256⟩ hnormalized
  apply clean_bind (reads_lockedSession _ _)
  intro agentSession _
  apply clean_bind (reads_findRunByKey _ _)
  intro existing _
  cases existing with
  | some existing => exact (reads_resolveIdempotentRun _ _ _).clean
  | none =>
    apply clean_bind (reads_findActiveRun _)
    intro active _
    apply clean_guard
    intro _
    apply clean_attempt (sure_insertRun _) insertRun_false
    · apply sure_bind (sure_recordRunRequest _ payload.keyShort (sha256_length hnormalized))
      intro _ _
      exact sure_pure _
    · apply clean_bind (reads_findRunByKey _ _)
      intro raced _
      cases raced with
      | some raced => exact (reads_resolveIdempotentRun _ _ _).clean
      | none => exact (reads_throw _).clean

/-- A requested transition refuses before it writes. -/
theorem clean_transitionRun (runId : UUID) (payload : AgentRunTransition)
    (workspaceId : Option UUID) (clock : Nat → Time) :
    CleanTx (TaskAgent.transitionRun p runId payload workspaceId clock) := by
  have hcode : ∀ text ∈ payload.errorCode, text.length ≤ 500 := fun text htext =>
    (payload.errorCodeShort text htext).trans (by omega)
  have hmove : ∀ agentSession run, CleanTx (transitionLocked p agentSession run payload.status
      payload.reason payload.errorCode (clock 0) >>= fun moved => pure moved.2) := by
    intro agentSession run s e t h hne
    rcases bind_error.mp h with hfirst | ⟨result, u, -, hsecond⟩
    · exact clean_transitionLocked _ _ _ payload.reasonShort hcode s e t hfirst hne
    · exact absurd hsecond pure_error
  apply clean_bind (reads_lockedRun _ _)
  rintro ⟨agentSession, run⟩ _
  dsimp only
  split
  · apply clean_bind (reads_openQuestion _)
    intro question _
    apply clean_guard
    intro _
    exact hmove agentSession run
  · exact hmove agentSession run

/-- A question refuses before it writes. -/
theorem clean_askQuestion (id runId : UUID) (payload : PendingQuestionCreate)
    (workspaceId : Option UUID) (clock : Nat → Time) :
    CleanTx (TaskAgent.askQuestion p id runId payload workspaceId clock) := by
  apply clean_bind (reads_lockedRun _ _)
  rintro ⟨agentSession, run⟩ _
  apply clean_guard
  intro hrunning
  apply clean_bind (reads_requirePrincipal _ _)
  intro _ _
  apply clean_guard
  intro _
  apply clean_bind (reads_normalized _ _)
  rintro ⟨context, sha256⟩ _
  apply clean_bind (reads_openQuestion _)
  intro question _
  apply clean_guard
  intro _
  apply clean_attempt (sure_insertQuestion _) insertQuestion_false
  · apply sure_bind (sure_appendEventLocked _ _ _ fits_questionAsked)
    intro counted _
    have hallowed : AgentRunStatus.WAITING_USER ∈ allowedTransitions run.status := by
      rw [not_not.mp hrunning]
      decide
    apply sure_bind (sure_transitionLocked _ _ _ hallowed (by decide) (by simp))
    intro _ _
    exact sure_pure _
  · exact (reads_throw _).clean

/-- `_consume_question_answer` refuses nothing but an answer that is not JSON. -/
theorem clean_consumeQuestionAnswer (agentSession : AgentSession) {run : AgentRun}
    (question : PendingQuestion) (actorPrincipalId : UUID) (answerPayload : PyDict)
    {answerMode transitionReason : String} {answerReason : Option Str} (clock : Nat → Time)
    (hwaiting : run.status = .WAITING_USER) (hmode : (py answerMode).length ≤ 500)
    (htransition : (py transitionReason).length ≤ 500)
    (hreason : ∀ text ∈ answerReason, text.length ≤ 500) :
    CleanTx (consumeQuestionAnswer p agentSession run question actorPrincipalId answerPayload
      answerMode transitionReason answerReason clock) := by
  apply clean_bind (reads_normalized _ _)
  rintro ⟨payload, sha256⟩ hnormalized
  apply Sure.clean
  apply sure_bind (sure_appendInboxLocked _ _ _ _ _ _ _)
  rintro ⟨counted, item⟩ hitem
  apply sure_bind (sure_modify _)
  intro _ _
  apply sure_bind (sure_appendEventLocked _ _ _
    (fits_questionAnswered (sha256_length hnormalized) (seq_lt hitem) hmode hreason))
  intro counted _
  have hallowed : AgentRunStatus.QUEUED ∈ allowedTransitions run.status := by
    rw [hwaiting]
    decide
  apply sure_bind (sure_transitionLocked _ _ _ hallowed (by simpa using htransition) (by simp))
  rintro ⟨counted, run⟩ _
  exact sure_pure _

/-- An answer refuses before it writes. -/
theorem clean_answerQuestion (questionId : UUID) (payload : PendingQuestionAnswer)
    (workspaceId : Option UUID) (clock : Nat → Time) :
    CleanTx (TaskAgent.answerQuestion p questionId payload workspaceId clock) := by
  apply clean_bind (reads_lockedQuestion _ _)
  rintro ⟨agentSession, run, question⟩ _
  apply clean_bind (reads_validateAnswerableQuestion _ _ _)
  rintro _ ⟨s, t, hvalid⟩
  apply clean_guard
  intro _
  apply clean_bind (reads_requirePrincipal _ _)
  intro _ _
  exact clean_consumeQuestionAnswer _ _ _ _ _ (validateAnswerableQuestion_ok hvalid).2.2.1
    (by decide) (by decide) (by simp)

theorem clean_overrideAnswerQuestion (questionId : UUID) (payload : PendingQuestionOverrideAnswer)
    (actorPrincipalId : UUID) (workspaceId : Option UUID) (clock : Nat → Time) :
    CleanTx (TaskAgent.overrideAnswerQuestion p questionId payload actorPrincipalId workspaceId
      clock) := by
  apply clean_bind (reads_lockedQuestion _ _)
  rintro ⟨agentSession, run, question⟩ _
  apply clean_bind (reads_validateAnswerableQuestion _ _ _)
  rintro _ ⟨s, t, hvalid⟩
  apply clean_bind (reads_requirePrincipal _ _)
  intro _ _
  exact clean_consumeQuestionAnswer _ _ _ _ _ (validateAnswerableQuestion_ok hvalid).2.2.1
    (by decide) (by decide) (by simpa using payload.reasonShort)

theorem clean_ignored {α : Type} {x : Tx α} (h : CleanTx x) : CleanTx (do let _ ← x) := by
  intro s e t hx hne
  rcases bind_error.mp hx with hfirst | ⟨a, u, -, hsecond⟩
  · exact h s e t hfirst hne
  · exact absurd hsecond pure_error

/-- Every call refuses before it writes. -/
theorem clean_body (call : Call) : CleanTx (call.body p) := by
  cases call with
  | createSession id payload => exact clean_ignored (clean_createSession id payload)
  | createRun id sessionId payload workspaceId =>
    exact clean_ignored (clean_createRun id sessionId payload workspaceId)
  | transitionRun runId payload workspaceId clock =>
    exact clean_ignored (clean_transitionRun runId payload workspaceId clock)
  | askQuestion id runId payload workspaceId clock =>
    exact clean_ignored (clean_askQuestion id runId payload workspaceId clock)
  | answerQuestion questionId payload workspaceId clock =>
    exact clean_ignored (clean_answerQuestion questionId payload workspaceId clock)
  | overrideAnswerQuestion questionId payload actorPrincipalId workspaceId clock =>
    exact clean_ignored
      (clean_overrideAnswerQuestion questionId payload actorPrincipalId workspaceId clock)

/-- What a call leaves is what it has written, or the database as it was. -/
theorem settled_cases (call : Call) (s : Database) :
    (∃ u t, call.body p s = .ok u t ∧ settled s (call.body p s) = t) ∨
      settled s (call.body p s) = s := by
  cases h : call.body p s with
  | ok u t => exact .inl ⟨u, t, rfl, rfl⟩
  | error e t =>
    right
    by_cases he : e = .databaseError
    · rw [he]
      rfl
    · have hsame := clean_body call s e t h he
      cases e with
      | databaseError => exact absurd rfl he
      | _ => exact hsame

end WechatBot.TaskAgentRejections
