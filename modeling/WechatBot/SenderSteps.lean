import WechatBot.SenderEffects
import WechatBot.SenderSystem

/-!
# Everything one step of the system can do

`step_effect` takes a successful step apart once; the proofs about runs are case
analyses of `Effect` and never unfold `step`.
-/
namespace WechatBot.SenderSteps

open PyData OutboxState Sender SenderEffects SenderSystem GeweErrors Policy OutboxService
open Tables (Table)

variable {ι κ : Type}

section Phases

variable [DecidableEq ι]

@[simp] theorem moveTo_outbox (w : World ι κ) (i : ι) (phase : Phase) :
    (w.moveTo i phase).outbox = w.outbox := rfl
@[simp] theorem moveTo_around (w : World ι κ) (i : ι) (phase : Phase) :
    (w.moveTo i phase).around = w.around := rfl
@[simp] theorem moveTo_calls (w : World ι κ) (i : ι) (phase : Phase) :
    (w.moveTo i phase).calls = w.calls := rfl
@[simp] theorem moveTo_admin (w : World ι κ) (i : ι) (phase : Phase) :
    (w.moveTo i phase).admin = w.admin := rfl
@[simp] theorem moveTo_self (w : World ι κ) (i : ι) (phase : Phase) :
    (w.moveTo i phase).pipeline i = phase := by simp [World.moveTo]
theorem moveTo_other (w : World ι κ) {i j : ι} (phase : Phase) (h : j ≠ i) :
    (w.moveTo i phase).pipeline j = w.pipeline j := by simp [World.moveTo, h]

end Phases

section Administrators

variable [DecidableEq κ]

@[simp] theorem adminTo_outbox (w : World ι κ) (k : κ) (phase : AdminPhase) :
    (w.adminTo k phase).outbox = w.outbox := rfl
@[simp] theorem adminTo_around (w : World ι κ) (k : κ) (phase : AdminPhase) :
    (w.adminTo k phase).around = w.around := rfl
@[simp] theorem adminTo_pipeline (w : World ι κ) (k : κ) (phase : AdminPhase) :
    (w.adminTo k phase).pipeline = w.pipeline := rfl
@[simp] theorem adminTo_calls (w : World ι κ) (k : κ) (phase : AdminPhase) :
    (w.adminTo k phase).calls = w.calls := rfl
@[simp] theorem adminTo_self (w : World ι κ) (k : κ) (phase : AdminPhase) :
    (w.adminTo k phase).admin k = phase := by simp [World.adminTo]
theorem adminTo_other (w : World ι κ) {k l : κ} (phase : AdminPhase) (h : l ≠ k) :
    (w.adminTo k phase).admin l = w.admin l := by simp [World.adminTo, h]

end Administrators

variable [DecidableEq ι] [DecidableEq κ]

/-- A task's step out of a transaction that changed nothing. -/
inductive Advance : Phase → Phase → Prop where
  | paced (claim : ClaimedMessage) : Advance (.claimed claim) (.paced claim)
  | delayed (claim : ClaimedMessage) (delay : Int) : Advance (.claimed claim) (.delayed claim delay)

/-- A revocation that has what it needs to commit. -/
def Committing (w : World ι κ) (k : κ) (revocation : Revocation) : Prop :=
  w.admin k = .opened revocation ∧ revocation.commitsUnfenced w.around = true ∨
    ∃ workspaceId, w.admin k = .fenced revocation workspaceId

inductive Effect (w : World ι κ) : Action ι κ → World ι κ → Prop where
  | same (a : Action ι κ) : Effect w a w
  | enqueued (request : EnqueueRequest) (now : Time) (id : UUID) (t : Outbox) (m : OutboxMessage)
      (hinsert : w.outbox.insert m = some t) (hpending : m.status = .PENDING) :
      Effect w (.enqueue request now id) { w with outbox := t }
  | recovered (now : Time) (ids : List UUID) (t : Outbox)
      (hok : recoverExpiredLeases now w.outbox ids = .ok t) :
      Effect w (.recoverExpiredLeases now ids) { w with outbox := t }
  | cancelled (id : UUID) (reason : Str) (now : Time) (t : Outbox)
      (hchanges : Changes cancelEdges w.outbox t) :
      Effect w (.cancelMessage id reason now) { w with outbox := t }
  | reconciled (id : UUID) (resolution : OutboxStatus) (reason : Str) (now : Time) (t : Outbox)
      (hchanges : Changes reconcileEdges w.outbox t) :
      Effect w (.reconcileUnknown id resolution reason now) { w with outbox := t }
  | accountLocked (i : ι) (accountId : UUID) (now : Time) (hfree : w.AccountFree accountId) :
      Effect w (.lockAccount i accountId now) (w.moveTo i (.accountLocked accountId now))
  | counted (i : ι) (accountId : UUID) (now : Time)
      (hphase : w.pipeline i = .accountLocked accountId now)
      (hnone : inFlightCount w.outbox accountId = 0) :
      Effect w (.countInFlight i) (w.moveTo i (.counted accountId now))
  | claimed (i : ι) (locked : UUID → Bool) (accountId : UUID) (now : Time) (c : ClaimedMessage)
      (u : Outbox) (m m' : OutboxMessage) (hphase : w.pipeline i = .counted accountId now)
      (hchanges : Changes expiryEdges w.outbox u) (hclaim : ClaimOf accountId c u m m') :
      Effect w (.claimNext i locked) ({ w with outbox := u.save m' }.moveTo i (.claimed c))
  | nothingDue (i : ι) (locked : UUID → Bool) (t : Outbox)
      (hchanges : Changes expiryEdges w.outbox t) :
      Effect w (.claimNext i locked) ({ w with outbox := t }.moveTo i .idle)
  | retired (a : Action ι κ) (i : ι) : Effect w a (w.moveTo i .idle)
  | advanced (a : Action ι κ) (i : ι) (phase : Phase) (hphase : Advance (w.pipeline i) phase) :
      Effect w a (w.moveTo i phase)
  | extended (i : ι) (now : Time) (c : ClaimedMessage) (delay : Int) (t : Outbox)
      (hphase : w.pipeline i = .delayed c delay) (hchanges : Changes [] w.outbox t) :
      Effect w (.extendClaimLease i now) ({ w with outbox := t }.moveTo i (.paced c))
  | guarded (i : ι) (c : ClaimedMessage) (hphase : w.pipeline i = .paced c)
      (hfree : w.GuardFree c.id) :
      Effect w (.authorizationGuard i) (w.moveTo i (.guarded c.id (fenceOf w.outbox c.id)))
  | refused (i : ι) (now policyNow : Time) (id : UUID) (fence : Option UUID) (t : Outbox)
      (hphase : w.pipeline i = .guarded id fence) (hchanges : Changes refusalEdges w.outbox t) :
      Effect w (.prepareSend i now policyNow) ({ w with outbox := t }.moveTo i (.leaving fence))
  | prepared (i : ι) (now policyNow : Time) (id : UUID) (fence : Option UUID) (t : Outbox)
      (send : PreparedSend) (m m' : OutboxMessage) (hphase : w.pipeline i = .guarded id fence)
      (hprepared : PreparedBy w.around policyNow w.outbox t id send m m') :
      Effect w (.prepareSend i now policyNow)
        ({ w with outbox := t }.moveTo i (.prepared send fence))
  | postStarted (i : ι) (send : PreparedSend) (fence : Option UUID)
      (hphase : w.pipeline i = .prepared send fence) :
      Effect w (.startPost i) ({ w with calls := w.calls ++ [PostCall.mk send none] }.moveTo i
        (.posting send fence w.calls.length))
  | postFailed (i : ι) (outcome : PostOutcome) (send : PreparedSend) (fence : Option UUID)
      (hphase : w.pipeline i = .prepared send fence) :
      Effect w (.failBeforePost i outcome) (w.moveTo i (.posted send fence outcome))
  | postEnded (i : ι) (outcome : PostOutcome) (send : PreparedSend) (fence : Option UUID)
      (call : Nat) (hphase : w.pipeline i = .posting send fence call) :
      Effect w (.endPost i outcome)
        ({ w with calls := w.calls.set call (PostCall.mk send (some outcome)) }.moveTo i
          (.posted send fence outcome))
  | settled (i : ι) (now : Time) (jitter : Int) (outcome : PostOutcome) (send : PreparedSend)
      (fence : Option UUID) (t : Outbox) (hphase : w.pipeline i = .posted send fence outcome)
      (hsettled : t = w.outbox ∨ ∃ m m', SettledBy outcome w.outbox t send.messageId m m') :
      Effect w (.finish i now jitter) ({ w with outbox := t }.moveTo i (.leaving fence))
  | revocationBegun (k : κ) (revocation : Revocation) :
      Effect w (.beginRevocation k revocation) (w.adminTo k (.opened revocation))
  | fenceLocked (k : κ) (revocation : Revocation) (workspaceId : UUID)
      (hphase : w.admin k = .opened revocation)
      (hworkspace : revocation.workspace w.around = some workspaceId)
      (hfree : w.ExclusiveFree workspaceId) :
      Effect w (.lockFence k) (w.adminTo k (.fenced revocation workspaceId))
  | revoked (k : κ) (now : Time) (revocation : Revocation) (hcommit : Committing w k revocation) :
      Effect w (.commitRevocation k now)
        ({ w with around := revocation.apply now w.around }.adminTo k .idle)
  | rolledBack (k : κ) : Effect w (.rollbackRevocation k) (w.adminTo k .idle)
  | changed (change : RowChange) (around : Surroundings)
      (happly : change.apply w.around = some around) :
      Effect w (.change change) { w with around := around }

variable {setup : Setup ι} {w w' : World ι κ}

theorem lockAccount_effect [Fintype ι] {i : ι} {accountId : UUID} {now : Time}
    (h : w.lockAccount i accountId now = some w') : Effect w (.lockAccount i accountId now) w' := by
  unfold World.lockAccount at h
  split at h
  · rename_i hok
    split at h
    · cases h; exact .same _
    · cases h; exact .accountLocked i accountId now hok.2
  · cases h

theorem countInFlight_effect {i : ι} (h : w.countInFlight i = some w') :
    Effect w (.countInFlight i) w' := by
  unfold World.countInFlight at h
  split at h
  · rename_i accountId now hphase
    split at h
    · rename_i hnone
      cases h; exact .counted i accountId now hphase hnone
    · cases h; exact .retired _ i
  · cases h

/-- A claim expires rows and may take a candidate of the account that was counted. -/
theorem claimNext_effect {i : ι} {locked : UUID → Bool} (h : w.claimNext setup i locked = some w') :
    Effect w (.claimNext i locked) w' := by
  unfold World.claimNext at h
  split at h
  · rename_i accountId now hphase
    split at h
    · rename_i t c hok
      obtain ⟨u, m, m', hchanges, hclaim, rfl⟩ := claimLoop_some hok
      cases h
      exact .claimed i locked accountId now c u m m' hphase hchanges hclaim
    · rename_i t hok
      cases h
      exact .nothingDue i locked t (claimLoop_none hok)
    · cases h; exact .retired _ i
  · cases h

theorem respectRateLimit_effect {i : ι} {now : Time} {groupInterval : Int}
    (h : w.respectRateLimit setup i now groupInterval = some w') :
    Effect w (.respectRateLimit i now groupInterval) w' := by
  unfold World.respectRateLimit at h
  split at h
  · rename_i c hphase
    dsimp only at h
    split at h
    · cases h; exact .advanced _ i _ (hphase ▸ .paced c)
    · cases h; exact .advanced _ i _ (hphase ▸ .delayed c _)
  · cases h

theorem extendClaimLease_effect {i : ι} {now : Time}
    (h : w.extendClaimLease setup i now = some w') : Effect w (.extendClaimLease i now) w' := by
  unfold World.extendClaimLease at h
  split at h
  · rename_i c delay hphase
    cases h
    exact .extended i now c delay _ hphase (extend_changes _ _ _ _ _)
  · cases h

theorem authorizationGuard_effect [Fintype κ] {i : ι} (h : w.authorizationGuard i = some w') :
    Effect w (.authorizationGuard i) w' := by
  unfold World.authorizationGuard at h
  split at h
  · rename_i c hphase
    split at h
    · rename_i hfree
      cases h; exact .guarded i c hphase hfree
    · cases h
  · cases h

/-- Preparing commits the row to SENDING, or refuses it. -/
theorem prepareSend_effect [Fintype ι] {i : ι} {now policyNow : Time}
    (h : w.prepareSend setup i now policyNow = some w') :
    Effect w (.prepareSend i now policyNow) w' := by
  unfold World.prepareSend at h
  split at h
  · rename_i id fence hphase
    split at h
    · split at h
      · rename_i t send hok
        obtain ⟨m, m', hprepared⟩ := prepareSend_some hok
        cases h
        exact .prepared i now policyNow id fence t send m m' hphase hprepared
      · rename_i t hok
        cases h
        exact .refused i now policyNow id fence t hphase (prepareSend_none hok)
      · cases h; exact .retired _ i
    · cases h
  · cases h

theorem startPost_effect {i : ι} (h : w.startPost i = some w') : Effect w (.startPost i) w' := by
  unfold World.startPost at h
  split at h
  · rename_i send fence hphase
    cases h; exact .postStarted i send fence hphase
  · cases h

theorem failBeforePost_effect {i : ι} {outcome : PostOutcome}
    (h : w.failBeforePost i outcome = some w') : Effect w (.failBeforePost i outcome) w' := by
  unfold World.failBeforePost at h
  split at h
  · rename_i send fence hphase
    split at h
    · cases h
    · cases h; exact .postFailed i outcome send fence hphase
  · cases h

/-- The end of a call writes its outcome into the record of the call. -/
theorem endPost_effect {i : ι} {outcome : PostOutcome} (h : w.endPost i outcome = some w') :
    Effect w (.endPost i outcome) w' := by
  unfold World.endPost at h
  split at h
  · rename_i send fence call hphase
    cases h; exact .postEnded i outcome send fence call hphase
  · cases h

/-- Finishing writes at most the row of the task's own call. -/
theorem finish_effect {i : ι} {now : Time} {jitter : Int}
    (h : w.finish setup i now jitter = some w') : Effect w (.finish i now jitter) w' := by
  unfold World.finish at h
  split at h
  · rename_i send fence outcome hphase
    split at h
    · rename_i t hok
      cases h
      exact .settled i now jitter outcome send fence t hphase (finish_cases hok)
    · cases h; exact .retired _ i
  · cases h

theorem leaveGuard_effect {i : ι} (h : w.leaveGuard i = some w') : Effect w (.leaveGuard i) w' := by
  unfold World.leaveGuard at h
  split at h
  · cases h; exact .retired _ i
  · cases h

/-- An administrator gets the fence of a workspace that nobody holds. -/
theorem lockFence_effect [Fintype ι] [Fintype κ] {k : κ} (h : w.lockFence k = some w') :
    Effect w (.lockFence k) w' := by
  unfold World.lockFence at h
  split at h
  · rename_i revocation hphase
    split at h
    · cases h
    · rename_i workspaceId hworkspace
      split at h
      · rename_i hok
        cases h; exact .fenceLocked k revocation workspaceId hphase hworkspace hok.2
      · cases h
  · cases h

theorem commitRevocation_effect {k : κ} {now : Time} (h : w.commitRevocation k now = some w') :
    Effect w (.commitRevocation k now) w' := by
  unfold World.commitRevocation at h
  split at h
  · cases h
  · rename_i revocation hphase
    split at h
    · rename_i hunfenced
      cases h; exact .revoked k now revocation (.inl ⟨hphase, hunfenced⟩)
    · cases h
  · rename_i revocation workspaceId hphase
    cases h; exact .revoked k now revocation (.inr ⟨workspaceId, hphase⟩)

omit [DecidableEq ι] [DecidableEq κ] in
/-- A transaction that rolls back when it raises either committed or left the state. -/
theorem commit_cases {ε : Type} (w : World ι κ) (result : Except ε Outbox) :
    (∃ t, result = .ok t ∧ w.commit result = { w with outbox := t }) ∨ w.commit result = w := by
  cases result with
  | ok t => exact .inl ⟨t, rfl, rfl⟩
  | error e => exact .inr rfl

/-- A request changes the outbox only, and only by the row it inserts. -/
theorem enqueue_effect (request : EnqueueRequest) (now : Time) (id : UUID) :
    Effect w (.enqueue request now id)
      (w.commit ((enqueueText setup.sha256 (fun a => (w.around.botAccount a).isSome) w.outbox
        request now id).map Prod.fst)) := by
  rcases commit_cases w ((enqueueText setup.sha256
    (fun a => (w.around.botAccount a).isSome) w.outbox request now id).map Prod.fst) with
    ⟨t, hok, hw⟩ | hw
  · obtain ⟨⟨t', m⟩, henqueue, rfl⟩ := Results.map_ok.mp hok
    rw [hw]
    rcases enqueue_cases henqueue with rfl | ⟨hinsert, -, hpending, -⟩
    · exact .same _
    · exact .enqueued request now id t' m hinsert hpending
  · rw [hw]
    exact .same _

/-- Every step does what its action's effect says. -/
theorem step_effect [Fintype ι] [Fintype κ] {a : Action ι κ} (h : step setup w a = some w') :
    Effect w a w' := by
  cases a with
  | enqueue request now id =>
    cases h
    exact enqueue_effect request now id
  | recoverExpiredLeases now ids =>
    simp only [step] at h
    split at h
    · cases h
      rcases commit_cases w (recoverExpiredLeases now w.outbox ids) with
        ⟨t, hok, hw⟩ | hw
      · rw [hw]; exact .recovered now ids t hok
      · rw [hw]; exact .same _
    · cases h
  | cancelMessage id reason now =>
    simp only [step] at h
    split at h
    · cases h
      rcases commit_cases w (cancelMessage w.outbox id reason now) with
        ⟨t, hok, hw⟩ | hw
      · rw [hw]; exact .cancelled id reason now t (cancel_changes hok)
      · rw [hw]; exact .same _
    · cases h
  | reconcileUnknown id resolution reason now =>
    simp only [step] at h
    split at h
    · cases h
      rcases commit_cases w
        (reconcileUnknown w.outbox id resolution reason now) with ⟨t, hok, hw⟩ | hw
      · rw [hw]; exact .reconciled id resolution reason now t (reconcile_changes hok)
      · rw [hw]; exact .same _
    · cases h
  | lockAccount i accountId now => exact lockAccount_effect h
  | countInFlight i => exact countInFlight_effect h
  | claimNext i locked => exact claimNext_effect h
  | respectRateLimit i now groupInterval => exact respectRateLimit_effect h
  | extendClaimLease i now => exact extendClaimLease_effect h
  | authorizationGuard i => exact authorizationGuard_effect h
  | prepareSend i now policyNow => exact prepareSend_effect h
  | startPost i => exact startPost_effect h
  | failBeforePost i outcome => exact failBeforePost_effect h
  | endPost i outcome => exact endPost_effect h
  | finish i now jitter => exact finish_effect h
  | leaveGuard i => exact leaveGuard_effect h
  | crash i => cases h; exact .retired _ i
  | beginRevocation k revocation =>
    simp only [step, World.beginRevocation] at h
    split at h
    · cases h; exact .revocationBegun k revocation
    · cases h
  | lockFence k => exact lockFence_effect h
  | commitRevocation k now => exact commitRevocation_effect h
  | rollbackRevocation k => cases h; exact .rolledBack k
  | change change =>
    simp only [step, Option.map_eq_some_iff] at h
    obtain ⟨around, happly, rfl⟩ := h
    exact .changed change around happly

end WechatBot.SenderSteps
