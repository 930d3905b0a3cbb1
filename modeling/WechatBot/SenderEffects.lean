import WechatBot.Results
import WechatBot.Sender

/-!
# What each transaction does to the outbox

One lemma for each transaction, which says everything the proofs about runs need of
it: which statuses it can move and along which edges.
-/
namespace WechatBot.SenderEffects

open PyData OutboxState OutboxService Sender GeweErrors Policy Results
open Tables (Table)

abbrev Edges := List (OutboxStatus × OutboxStatus)

def recoveryEdges : Edges := [(.CLAIMED, .PENDING), (.SENDING, .UNKNOWN)]

def expiryEdges : Edges := [(.PENDING, .CANCELLED), (.FAILED_RETRYABLE, .CANCELLED)]

def refusalEdges : Edges :=
  [(.CLAIMED, .CANCELLED), (.CLAIMED, .FAILED_FINAL), (.CLAIMED, .FAILED_RETRYABLE)]

def cancelEdges : Edges :=
  [(.PENDING, .CANCELLED), (.CLAIMED, .CANCELLED), (.FAILED_RETRYABLE, .CANCELLED)]

def reconcileEdges : Edges := [(.UNKNOWN, .SENT), (.UNKNOWN, .FAILED_FINAL)]

/-- The recovery of one row goes along a recovery edge. -/
theorem recoverOne_changes {now : Time} {t t' : Outbox} {id : UUID}
    (h : recoverOne now t id = .ok t') : Changes recoveryEdges t t' := by
  unfold recoverOne at h
  split at h
  · cases h; exact Changes.refl _ t
  · rename_i message hm
    split at h
    · rename_i hclaimed
      obtain ⟨message', htrans, rfl⟩ := map_ok.mp h
      exact changes_transition hm htrans (by simp [hclaimed, recoveryEdges])
    · obtain ⟨message', htrans, rfl⟩ := map_ok.mp h
      have hallowed := (transition_ok htrans).1
      have hsending : message.status = .SENDING := by
        cases hs : message.status <;> simp_all [allowedTransitions]
      exact changes_transition hm htrans (by simp [hsending, recoveryEdges])

theorem recoverOne_other {now : Time} {t t' : Outbox} {id : UUID}
    (h : recoverOne now t id = .ok t') {other : UUID} (hne : other ≠ id) :
    t'.find other = t.find other := by
  unfold recoverOne at h
  split at h
  · cases h; rfl
  · rename_i message hm
    have hid : message.id = id := Table.find_key hm
    have hsave : ∀ message', SameAction message message' →
        (t.save message').find other = t.find other := by
      intro message' hsame
      rw [Table.find_save_of (hsame.id ▸ hid ▸ hm), if_neg]
      rw [hsame.id, hid]
      exact hne
    split at h <;>
    · obtain ⟨message', htrans, rfl⟩ := map_ok.mp h
      exact hsave message' (transition_ok htrans).2.2.2

/-- The recovery of expired leases goes along recovery edges only. -/
theorem recover_changes {now : Time} {ids : List UUID} {t t' : Outbox}
    (h : recoverExpiredLeases now t ids = .ok t') : Changes recoveryEdges t t' := by
  unfold recoverExpiredLeases at h
  induction ids generalizing t with
  | nil => cases h; exact Changes.refl _ _
  | cons id ids ih =>
    rw [List.foldlM_cons, bind_ok] at h
    obtain ⟨u, hone, hrest⟩ := h
    exact Changes.trans (by decide) (recoverOne_changes hone) (ih hrest)

/-- Only the rows of the query are touched. -/
theorem recover_other {now : Time} {ids : List UUID} {t t' : Outbox}
    (h : recoverExpiredLeases now t ids = .ok t') {other : UUID} (hnot : other ∉ ids) :
    t'.find other = t.find other := by
  unfold recoverExpiredLeases at h
  induction ids generalizing t with
  | nil => cases h; rfl
  | cons id ids ih =>
    rw [List.foldlM_cons, bind_ok] at h
    obtain ⟨u, hone, hrest⟩ := h
    simp only [List.mem_cons, not_or] at hnot
    rw [ih hrest hnot.2, recoverOne_other hone hnot.1]

/-- The earliest of some rows is one of them. -/
theorem earliest_mem {rows : List OutboxMessage} {m : OutboxMessage}
    (h : earliest rows = some m) : m ∈ rows := by
  induction rows generalizing m with
  | nil => cases h
  | cons r rest ih =>
    unfold earliest at h
    cases he : earliest rest with
    | none =>
      simp only [he, Option.some.injEq] at h
      exact List.mem_cons.mpr (.inl h.symm)
    | some b =>
      simp only [he] at h
      split at h
      · cases h; exact List.mem_cons_of_mem _ (ih he)
      · cases h; exact List.mem_cons_self

theorem waiting_iff {status : OutboxStatus} :
    waiting status = true ↔ status = .PENDING ∨ status = .FAILED_RETRYABLE := by
  simp [waiting]

/-- What the claim query selects. -/
theorem claim_candidate {accountId : UUID} {now : Time} {locked : UUID → Bool} {t : Outbox}
    {m : OutboxMessage} (h : earliest (t.rows.filter (claimable accountId now locked)) = some m) :
    t.find m.id = some m ∧ m.botAccountId = accountId ∧ waiting m.status = true := by
  obtain ⟨hmem, hok⟩ := List.mem_filter.mp (earliest_mem h)
  simp only [claimable, Bool.and_eq_true, decide_eq_true_eq] at hok
  exact ⟨Table.mem_iff_find.mp hmem, hok.1.1.1, hok.1.1.2⟩

/-- The row that a claim saves: a waiting message of the account, now CLAIMED. -/
structure ClaimOf (accountId : UUID) (c : ClaimedMessage) (u : Outbox) (m m' : OutboxMessage) :
    Prop where
  found : u.find c.id = some m
  account : m.botAccountId = accountId
  claimAccount : c.botAccountId = accountId
  waiting : waiting m.status = true
  claimed : m'.status = .CLAIMED
  same : SameAction m m'

/-- A claim without a candidate has only expired rows. -/
theorem claimLoop_none {options : SenderOptions} {accountId : UUID} {now : Time}
    {locked : UUID → Bool} {fuel : Nat} {t t' : Outbox}
    (h : claimLoop options accountId now locked fuel t = .ok (t', none)) :
    Changes expiryEdges t t' := by
  induction fuel generalizing t with
  | zero => cases h; exact Changes.refl _ _
  | succ fuel ih =>
    unfold claimLoop at h
    split at h
    · cases h; exact Changes.refl _ _
    · rename_i message hm
      obtain ⟨hfind, -, hwaiting⟩ := claim_candidate hm
      split at h
      · obtain ⟨cancelled, htrans, hrest⟩ := bind_ok.mp h
        have hedge : (message.status, OutboxStatus.CANCELLED) ∈ expiryEdges := by
          rcases waiting_iff.mp hwaiting with hs | hs <;> simp [hs, expiryEdges]
        exact Changes.trans (by decide) (changes_transition hfind htrans hedge) (ih hrest)
      · obtain ⟨claimed, -, hend⟩ := bind_ok.mp h
        cases hend

/-- A claim has expired some rows and then taken a row of the account. -/
theorem claimLoop_some {options : SenderOptions} {accountId : UUID} {now : Time}
    {locked : UUID → Bool} {fuel : Nat} {t t' : Outbox} {c : ClaimedMessage}
    (h : claimLoop options accountId now locked fuel t = .ok (t', some c)) :
    ∃ u m m', Changes expiryEdges t u ∧ ClaimOf accountId c u m m' ∧ t' = u.save m' := by
  induction fuel generalizing t with
  | zero => cases h
  | succ fuel ih =>
    unfold claimLoop at h
    split at h
    · cases h
    · rename_i message hm
      obtain ⟨hfind, haccount, hwaiting⟩ := claim_candidate hm
      split at h
      · obtain ⟨cancelled, htrans, hrest⟩ := bind_ok.mp h
        have hedge : (message.status, OutboxStatus.CANCELLED) ∈ expiryEdges := by
          rcases waiting_iff.mp hwaiting with hs | hs <;> simp [hs, expiryEdges]
        obtain ⟨u, m, m', hchanges, hclaim, rfl⟩ := ih hrest
        exact ⟨u, m, m', Changes.trans (by decide) (changes_transition hfind htrans hedge) hchanges,
          hclaim, rfl⟩
      · obtain ⟨claimed, htrans, hend⟩ := bind_ok.mp h
        obtain ⟨-, hstatus, -, hsame⟩ := transition_ok htrans
        cases hend
        exact ⟨_, message, claimed, Changes.refl _ _,
          ⟨hfind, haccount, haccount, hwaiting, hstatus, hsame⟩, rfl⟩

/-- Extending a lease changes no status. -/
theorem extend_changes (options : SenderOptions) (t : Outbox) (messageId : UUID) (delay : Int)
    (now : Time) : Changes [] t (extendClaimLease options t messageId delay now) := by
  unfold extendClaimLease
  split
  · exact Changes.refl _ t
  · rename_i message hm
    split
    · have hid : message.id = messageId := Table.find_key hm
      subst hid
      exact changes_save hm ⟨rfl, rfl, rfl, rfl, rfl, rfl, rfl, rfl, rfl, rfl, rfl⟩ (.inl rfl)
    · exact Changes.refl _ t

/-- Every refusal is an edge of its own out of CLAIMED. -/
theorem refusal_edge {options : SenderOptions} {now policyNow : Time} {around : Surroundings}
    {message : OutboxMessage} {account : Records.BotAccount} {connection : Records.GeweConnection}
    {status : OutboxStatus} {code : String} {availableAt : Option Time}
    (h : refusal options now policyNow around message account connection =
      some (status, code, availableAt)) : (OutboxStatus.CLAIMED, status) ∈ refusalEdges := by
  unfold refusal at h
  repeat' split at h
  all_goals first
    | (cases h; decide)
    | cases h

/-- What is not refused is still authorized. -/
theorem refusal_none {options : SenderOptions} {now policyNow : Time} {around : Surroundings}
    {message : OutboxMessage} {account : Records.BotAccount} {connection : Records.GeweConnection}
    (h : refusal options now policyNow around message account connection = none) :
    authorizationStillValid around message policyNow = true := by
  unfold refusal at h
  split at h
  · cases h
  split at h
  · cases h
  split at h
  · cases h
  split at h
  · cases h
  · rename_i hvalid
    simpa using hvalid

theorem joinedRow_find {around : Surroundings} {t : Outbox} {messageId : UUID}
    {message : OutboxMessage} {account : Records.BotAccount} {connection : Records.GeweConnection}
    (h : joinedRow around t messageId = some (message, account, connection)) :
    t.find messageId = some message := by
  unfold joinedRow at h
  simp only [Option.bind_eq_bind, Option.bind_eq_some_iff, Option.pure_def, Option.some.injEq,
    Prod.mk.injEq] at h
  obtain ⟨m, hm, a, -, c, -, rfl, -, -⟩ := h
  exact hm

/-- What a preparation that lets the message through did. -/
structure PreparedBy (around : Surroundings) (policyNow : Time) (t t' : Outbox) (messageId : UUID)
    (p : PreparedSend) (m m' : OutboxMessage) : Prop where
  found : t.find messageId = some m
  claimed : m.status = .CLAIMED
  sending : m'.status = .SENDING
  attempt : m'.attemptCount = m.attemptCount + 1
  same : SameAction m m'
  saved : t' = t.save m'
  message : p.messageId = messageId
  account : p.botAccountId = m.botAccountId
  authorized : authorizationStillValid around m policyNow = true

/-- A message that is not prepared is refused, or left as it is. -/
theorem prepareSend_none {options : SenderOptions} {now policyNow : Time} {around : Surroundings}
    {t t' : Outbox} {messageId : UUID}
    (h : prepareSend options now policyNow around t messageId = .ok (t', none)) :
    Changes refusalEdges t t' := by
  unfold prepareSend at h
  split at h
  · cases h; exact Changes.refl _ t
  · rename_i message account connection hrow
    have hm := joinedRow_find hrow
    split at h
    · cases h; exact Changes.refl _ t
    · rename_i hclaimed
      have hclaimed : message.status = .CLAIMED := by simpa using hclaimed
      unfold prepareClaimed at h
      split at h
      · rename_i status code availableAt hrefusal
        obtain ⟨message', htrans, heq⟩ := map_ok.mp h
        cases heq
        exact changes_transition hm htrans (hclaimed ▸ refusal_edge hrefusal)
      · split at h
        · obtain ⟨message', -, heq⟩ := map_ok.mp h
          cases heq
        · cases h; exact Changes.refl _ t

/-- A prepared message is a row that went from CLAIMED to SENDING. -/
theorem prepareSend_some {options : SenderOptions} {now policyNow : Time} {around : Surroundings}
    {t t' : Outbox} {messageId : UUID} {p : PreparedSend}
    (h : prepareSend options now policyNow around t messageId = .ok (t', some p)) :
    ∃ m m', PreparedBy around policyNow t t' messageId p m m' := by
  unfold prepareSend at h
  split at h
  · cases h
  · rename_i message account connection hrow
    have hm := joinedRow_find hrow
    split at h
    · cases h
    · rename_i hclaimed
      have hclaimed : message.status = .CLAIMED := by simpa using hclaimed
      unfold prepareClaimed at h
      split at h
      · obtain ⟨message', -, heq⟩ := map_ok.mp h
        cases heq
      · rename_i hrefusal
        split at h
        · rename_i payload token _ _
          obtain ⟨message', htrans, heq⟩ := map_ok.mp h
          obtain ⟨-, hstatus, hcount, hsame⟩ := transition_ok htrans
          have hid : message.id = messageId := Table.find_key hm
          cases heq
          exact ⟨message, beginAttempt message' now, hm, hclaimed, hstatus,
            by simp [beginAttempt, hcount],
            hsame.trans ⟨rfl, rfl, rfl, rfl, rfl, rfl, rfl, rfl, rfl, rfl, rfl⟩, rfl,
            hid, rfl, refusal_none hrefusal⟩
        · cases h

/-- The statuses in which a finishing transaction may leave a message. -/
def Settles (outcome : PostOutcome) (status : OutboxStatus) : Prop :=
  status ∈ [OutboxStatus.SENT, .UNKNOWN, .FAILED_FINAL] ∨
    status = .FAILED_RETRYABLE ∧ outcome.Retryable

/-- The row a finishing transaction saves, if it does anything. -/
structure SettledBy (outcome : PostOutcome) (t t' : Outbox) (messageId : UUID)
    (m m' : OutboxMessage) : Prop where
  found : t.find messageId = some m
  sending : m.status = .SENDING
  settled : Settles outcome m'.status
  attempt : m'.attemptCount = m.attemptCount
  same : SameAction m m'
  saved : t' = t.save m'

/-- A finished row has the status that its outcome settles. -/
theorem finishWith_cases {t t' : Outbox} {messageId : UUID}
    {body : OutboxMessage → Except TransitionError OutboxMessage} {outcome : PostOutcome}
    (hbody : ∀ m m', body m = .ok m' →
      Settles outcome m'.status ∧ m'.attemptCount = m.attemptCount ∧ SameAction m m')
    (h : finishWith t messageId body = .ok t') :
    t' = t ∨ ∃ m m', SettledBy outcome t t' messageId m m' := by
  unfold finishWith at h
  split at h
  · cases h; exact .inl rfl
  · rename_i message hm
    split at h
    · rename_i hsending
      obtain ⟨message', hok, rfl⟩ := map_ok.mp h
      obtain ⟨hsettled, hcount, hsame⟩ := hbody message message' hok
      exact .inr ⟨message, message', hm, hsending, hsettled, hcount, hsame, rfl⟩
    · cases h; exact .inl rfl

theorem finishUnknown_cases {t t' : Outbox} {messageId : UUID} {errorCode : String} {now : Time}
    (outcome : PostOutcome) (h : finishUnknown t messageId errorCode now = .ok t') :
    t' = t ∨ ∃ m m', SettledBy outcome t t' messageId m m' := by
  refine finishWith_cases ?_ h
  intro m m' hok
  have hfinished : SameAction m { m with lastAttemptFinishedAt := some now } :=
    ⟨rfl, rfl, rfl, rfl, rfl, rfl, rfl, rfl, rfl, rfl, rfl⟩
  obtain ⟨-, hstatus, hcount, hsame⟩ := transition_ok hok
  exact ⟨.inl (by simp [hstatus]), hcount, hfinished.trans hsame⟩

theorem finishSent_cases {t t' : Outbox} {messageId : UUID} {result : SentTextData} {now : Time}
    (h : finishSent t messageId result now = .ok t') :
    t' = t ∨ ∃ m m', SettledBy (.sent result) t t' messageId m m' := by
  refine finishWith_cases ?_ h
  intro m m' hok
  obtain ⟨sent, htrans, hend⟩ := bind_ok.mp hok
  obtain ⟨-, hstatus, hcount, hsame⟩ := transition_ok htrans
  cases hend
  exact ⟨.inl (by simp [hstatus]), hcount,
    hsame.trans ⟨rfl, rfl, rfl, rfl, rfl, rfl, rfl, rfl, rfl, rfl, rfl⟩⟩

theorem finishFailure_cases {options : SenderOptions} {t t' : Outbox} {messageId : UUID}
    {error : GeWeClientError} {now : Time} {jitter : Int}
    (h : finishFailure options t messageId (classifyGeweError error).1 (classifyGeweError error).2
      now jitter = .ok t') :
    t' = t ∨ ∃ m m', SettledBy (.geweError error) t t' messageId m m' := by
  unfold finishFailure at h
  split at h
  · exact finishUnknown_cases _ h
  · refine finishWith_cases ?_ h
    intro m m' hok
    have hfinished : SameAction m { m with lastAttemptFinishedAt := some now } :=
      ⟨rfl, rfl, rfl, rfl, rfl, rfl, rfl, rfl, rfl, rfl, rfl⟩
    dsimp only at hok
    split at hok
    · rename_i hretry
      obtain ⟨-, hstatus, hcount, hsame⟩ := transition_ok hok
      exact ⟨.inr ⟨hstatus, hretry.1⟩, hcount, hfinished.trans hsame⟩
    · obtain ⟨-, hstatus, hcount, hsame⟩ := transition_ok hok
      exact ⟨.inl (by simp [hstatus]), hcount, hfinished.trans hsame⟩

/-- Whatever the outcome, finishing leaves the outbox or settles the row of the call. -/
theorem finish_cases {options : SenderOptions} {t t' : Outbox} {messageId : UUID}
    {outcome : PostOutcome} {now : Time} {jitter : Int}
    (h : finish options t messageId outcome now jitter = .ok t') :
    t' = t ∨ ∃ m m', SettledBy outcome t t' messageId m m' := by
  unfold finish at h
  split at h
  · exact finishSent_cases h
  · exact finishFailure_cases h
  · exact finishUnknown_cases _ h
  · exact finishUnknown_cases _ h

theorem saved_ok {t t' : Outbox} {result : Except TransitionError OutboxMessage}
    (h : saved t result = .ok t') : ∃ m, result = .ok m ∧ t' = t.save m := by
  unfold saved at h
  split at h
  · cases h
  · cases h; exact ⟨_, rfl, rfl⟩

/-- Cancelling goes along a cancel edge. -/
theorem cancel_changes {t t' : Outbox} {messageId : UUID} {reason : Str} {now : Time}
    (h : cancelMessage t messageId reason now = .ok t') : Changes cancelEdges t t' := by
  unfold cancelMessage at h
  obtain ⟨-, -, h⟩ := bind_ok.mp h
  split at h
  · cases h
  · rename_i message hm
    split at h
    · cases h
    · rename_i hin
      obtain ⟨message', htrans, rfl⟩ := saved_ok h
      refine changes_transition hm htrans ?_
      cases hs : message.status <;> simp_all [cancelEdges]

/-- A reconciliation goes along a reconcile edge. -/
theorem reconcile_changes {t t' : Outbox} {messageId : UUID} {resolution : OutboxStatus}
    {reason : Str} {now : Time} (h : reconcileUnknown t messageId resolution reason now = .ok t') :
    Changes reconcileEdges t t' := by
  unfold reconcileUnknown at h
  by_cases hresolution : resolution = .SENT ∨ resolution = .FAILED_FINAL
  · have hin : resolution ∈ [OutboxStatus.SENT, .FAILED_FINAL] := by simpa using hresolution
    simp only [hin, not_true_eq_false, if_false, bind_ok] at h
    obtain ⟨-, -, h⟩ := h
    split at h
    · cases h
    · rename_i message hm
      by_cases hunknown : message.status = .UNKNOWN
      · simp only [ne_eq, hunknown, not_true_eq_false, if_false] at h
        obtain ⟨message', htrans, rfl⟩ := saved_ok h
        refine changes_transition hm htrans ?_
        rw [hunknown]
        rcases hresolution with rfl | rfl <;> decide
      · simp only [ne_eq, hunknown, not_false_eq_true, if_true] at h
        cases h
  · have hnot : resolution ∉ [OutboxStatus.SENT, .FAILED_FINAL] := by simpa using hresolution
    simp only [hnot] at h
    cases h

/-- An enqueued message is one that was there, or a new PENDING row without an attempt. -/
theorem enqueue_cases {sha256 : CanonicalAction → Str} {accountExists : UUID → Bool}
    {t t' : Outbox} {request : EnqueueRequest} {now : Time} {id : UUID} {message : OutboxMessage}
    (h : enqueueText sha256 accountExists t request now id = .ok (t', message)) :
    t' = t ∨ (t.insert message = some t' ∧ message.id = id ∧ message.status = .PENDING ∧
      message.attemptCount = 0) := by
  unfold enqueueText at h
  obtain ⟨⟨key, target, expiry, payload⟩, -, h⟩ := bind_ok.mp h
  obtain ⟨hash, -, h⟩ := bind_ok.mp h
  obtain ⟨found, -, h⟩ := bind_ok.mp h
  split at h
  · obtain ⟨existing, -, h⟩ := bind_ok.mp h
    cases h
    exact .inl rfl
  · split at h
    · cases h
    · unfold insertMessage at h
      split at h
      · cases h
      · split at h
        · cases h
        · rename_i t'' hinsert
          cases h
          exact .inr ⟨hinsert, rfl, rfl, rfl⟩

end WechatBot.SenderEffects
