import WechatBot.SenderSteps

/-!
# What a transaction writes into a row

Every transaction of the sender and every manual operation stamps a row it changes with
its own reading of the clock, and only the step to `SENDING` counts an attempt. `Rewrites`
says which rows a transaction may have changed, `step_written` which rewriting a step of
the system is.
-/
namespace WechatBot.OutboxStamps

open PyData OutboxState OutboxService Sender SenderEffects SenderSystem GeweErrors Results
open Tables (Table)

/-- The change of one row by a transaction that read the clock as `now`. -/
structure Stamped (edges : Edges) (now : Time) (m m' : OutboxMessage) : Prop where
  same : SameAction m m'
  edge : (m.status, m'.status) ∈ edges
  updated : m'.updatedAt = now
  attempts : m'.attemptCount = m.attemptCount + if m'.status = .SENDING then 1 else 0
  lease : m'.status = .CLAIMED → now ≤ m'.availableAt

/-- The rows of `t'` are the rows of `t`; a row that changed did so as `R` says. -/
structure Rewrites (R : OutboxMessage → OutboxMessage → Prop) (t t' : Outbox) : Prop where
  kept : ∀ id m, t.find id = some m → ∃ m', t'.find id = some m' ∧ (m' = m ∨ R m m')
  noNew : ∀ id, t.find id = none → t'.find id = none

variable {R : OutboxMessage → OutboxMessage → Prop} {t t' u : Outbox}

theorem Rewrites.refl (R : OutboxMessage → OutboxMessage → Prop) (t : Outbox) : Rewrites R t t :=
  ⟨fun _ m h => ⟨m, h, .inl rfl⟩, fun _ h => h⟩

theorem Rewrites.trans (hR : ∀ a b c, R a b → R b c → R a c) (h : Rewrites R t u)
    (h' : Rewrites R u t') : Rewrites R t t' := by
  refine ⟨?_, fun id hid => h'.noNew id (h.noNew id hid)⟩
  intro id m hm
  obtain ⟨a, ha, hfirst⟩ := h.kept id m hm
  obtain ⟨b, hb, hsecond⟩ := h'.kept id a ha
  refine ⟨b, hb, ?_⟩
  rcases hfirst with rfl | hfirst
  · exact hsecond
  · rcases hsecond with rfl | hsecond
    · exact .inr hfirst
    · exact .inr (hR m a b hfirst hsecond)

theorem Rewrites.mono {R' : OutboxMessage → OutboxMessage → Prop} (hR : ∀ a b, R a b → R' a b)
    (h : Rewrites R t t') : Rewrites R' t t' := by
  refine ⟨?_, h.noNew⟩
  intro id m hm
  obtain ⟨a, ha, hchange⟩ := h.kept id m hm
  exact ⟨a, ha, hchange.imp_right (hR m a)⟩

/-- A row of the rewritten outbox comes from a row of the old one. -/
theorem Rewrites.back (h : Rewrites R t t') {id : UUID} {m' : OutboxMessage}
    (hm' : t'.find id = some m') : ∃ m, t.find id = some m ∧ (m' = m ∨ R m m') := by
  cases hm : t.find id with
  | none =>
    rw [h.noNew id hm] at hm'
    cases hm'
  | some m =>
    obtain ⟨a, ha, hchange⟩ := h.kept id m hm
    rw [hm'] at ha
    cases ha
    exact ⟨m, rfl, hchange⟩

/-- Saving one row rewrites the outbox. -/
theorem rewrites_save {m m' : OutboxMessage} (hm : t.find m.id = some m) (hid : m'.id = m.id)
    (hR : R m m') : Rewrites R t (t.save m') := by
  have hfind := Table.find_save_of (t := t) (a := m') (hid ▸ hm)
  refine ⟨?_, ?_⟩
  · intro id a ha
    rw [hfind id]
    split
    · rename_i he
      rw [he, hid, hm] at ha
      cases ha
      exact ⟨m', rfl, .inr hR⟩
    · exact ⟨a, ha, .inl rfl⟩
  · intro id hnone
    rw [hfind id]
    split
    · rename_i he
      rw [he, hid, hm] at hnone
      cases hnone
    · exact hnone

/-- An accepted transition; one that claims also sets a lease. -/
theorem transition_stamps {m m' : OutboxMessage} {target : OutboxStatus} {now : Time}
    {errorCode : Option String} {availableAt : Option Time} {edges : Edges}
    (h : transitionOutbox m target now errorCode availableAt = .ok m')
    (hedge : (m.status, target) ∈ edges) (hsending : target ≠ .SENDING)
    (hlease : target = .CLAIMED → ∃ lease ∈ availableAt, now ≤ lease) : Stamped edges now m m' := by
  obtain ⟨-, hstatus, hcount, hsame⟩ := transition_ok h
  unfold transitionOutbox at h
  split at h
  · cases h
  split at h
  · cases h
  cases h
  refine ⟨hsame, hedge, rfl, ?_, ?_⟩
  · rw [if_neg hsending]
    rfl
  · intro hclaimed
    obtain ⟨lease, hmem, hle⟩ := hlease hclaimed
    cases hmem
    exact hle

/-- Where no edge ends at the start of another, no row is stamped twice. -/
theorem stamped_absurd {edges : Edges} {now : Time} (hapart : ∀ e ∈ edges, ∀ e' ∈ edges, e.2 ≠ e'.1)
    {a b c : OutboxMessage} (h : Stamped edges now a b) (h' : Stamped edges now b c) : False :=
  hapart _ h.edge _ h'.edge rfl

/-- A transition along an edge rewrites the outbox by a stamped row. -/
theorem transition_rewrites {m m' : OutboxMessage} {target : OutboxStatus} {now : Time}
    {errorCode : Option String} {availableAt : Option Time} {edges : Edges} {id : UUID}
    {P : OutboxMessage → Prop} (hm : t.find id = some m)
    (h : transitionOutbox m target now errorCode availableAt = .ok m')
    (hedge : (m.status, target) ∈ edges) (hsending : target ≠ .SENDING)
    (hlease : target = .CLAIMED → ∃ lease ∈ availableAt, now ≤ lease) (hP : P m) :
    Rewrites (fun a b => P a ∧ Stamped edges now a b) t (t.save m') := by
  have hstamped := transition_stamps h hedge hsending hlease
  have hid : m.id = id := Table.find_key hm
  exact rewrites_save (hid ▸ hm) hstamped.same.id ⟨hP, hstamped⟩

theorem recoverOne_rewrites {now : Time} {id : UUID} (h : recoverOne now t id = .ok t') :
    Rewrites (fun a b => a.id = id ∧ Stamped recoveryEdges now a b) t t' := by
  unfold recoverOne at h
  split at h
  · cases h
    exact .refl _ _
  · rename_i m hm
    have hid : m.id = id := Table.find_key hm
    split at h
    · rename_i hclaimed
      obtain ⟨m', htrans, rfl⟩ := map_ok.mp h
      exact transition_rewrites hm htrans (by simp [hclaimed, recoveryEdges]) (by decide) (fun h => by cases h) hid
    · obtain ⟨m', htrans, rfl⟩ := map_ok.mp h
      have hallowed := (transition_ok htrans).1
      have hsending : m.status = .SENDING := by
        cases hs : m.status <;> simp_all [allowedTransitions]
      exact transition_rewrites hm htrans (by simp [hsending, recoveryEdges]) (by decide) (fun h => by cases h) hid

/-- A recovery stamps the rows that it is given, along recovery edges. -/
theorem recover_rewrites {now : Time} {ids : List UUID}
    (h : recoverExpiredLeases now t ids = .ok t') :
    Rewrites (fun a b => a.id ∈ ids ∧ Stamped recoveryEdges now a b) t t' := by
  unfold recoverExpiredLeases at h
  induction ids generalizing t with
  | nil =>
    cases h
    exact .refl _ _
  | cons id ids ih =>
    rw [List.foldlM_cons, bind_ok] at h
    obtain ⟨u, hone, hrest⟩ := h
    have hfirst : Rewrites (fun a b => a.id ∈ id :: ids ∧ Stamped recoveryEdges now a b) t u :=
      (recoverOne_rewrites hone).mono fun a b hab => ⟨List.mem_cons.mpr (.inl hab.1), hab.2⟩
    have hsecond : Rewrites (fun a b => a.id ∈ id :: ids ∧ Stamped recoveryEdges now a b) u t' :=
      (ih hrest).mono fun a b hab => ⟨List.mem_cons_of_mem _ hab.1, hab.2⟩
    apply hfirst.trans _ hsecond
    intro a b c hab hbc
    exact (stamped_absurd (by decide) hab.2 hbc.2).elim

def claimEdges : Edges :=
  expiryEdges ++ [(.PENDING, .CLAIMED), (.FAILED_RETRYABLE, .CLAIMED)]

/-- A claim stamps rows of its account only. -/
theorem claimLoop_rewrites {options : SenderOptions} {accountId : UUID} {now : Time}
    {locked : UUID → Bool} {fuel : Nat} {result : Option ClaimedMessage}
    (h : claimLoop options accountId now locked fuel t = .ok (t', result)) :
    Rewrites (fun a b => a.botAccountId = accountId ∧ Stamped claimEdges now a b) t t' := by
  induction fuel generalizing t with
  | zero =>
    cases h
    exact .refl _ _
  | succ fuel ih =>
    unfold claimLoop at h
    split at h
    · cases h
      exact .refl _ _
    · rename_i m hm
      obtain ⟨hfind, haccount, hwaiting⟩ := claim_candidate hm
      split at h
      · obtain ⟨cancelled, htrans, hrest⟩ := bind_ok.mp h
        have hedge : (m.status, OutboxStatus.CANCELLED) ∈ claimEdges := by
          rcases waiting_iff.mp hwaiting with hs | hs <;> rw [hs] <;> decide
        have hfirst := transition_rewrites (P := fun a => a.botAccountId = accountId) hfind htrans
          hedge (by decide) nofun haccount
        apply hfirst.trans _ (ih hrest)
        intro a b c hab hbc
        exact (stamped_absurd (by decide) hab.2 hbc.2).elim
      · obtain ⟨claimed, htrans, hend⟩ := bind_ok.mp h
        cases hend
        have hedge : (m.status, OutboxStatus.CLAIMED) ∈ claimEdges := by
          rcases waiting_iff.mp hwaiting with hs | hs <;> rw [hs] <;> decide
        have hlease := options.positive.2.2.2.2.2.2.1
        exact transition_rewrites hfind htrans hedge (by decide)
          (fun _ => ⟨now + options.lease, rfl, Int.le_add_of_nonneg_right hlease.le⟩) haccount

/-- The row that a claim names. -/
structure NamedBy (t : Outbox) (accountId : UUID) (claim : ClaimedMessage) (m : OutboxMessage) :
    Prop where
  found : t.find claim.id = some m
  account : m.botAccountId = accountId
  claimAccount : claim.botAccountId = accountId
  target : m.targetWxid = claim.targetWxid
  claimed : m.status = .CLAIMED

/-- What a claim returns names a row of the outbox it leaves. -/
theorem claimLoop_names {options : SenderOptions} {accountId : UUID} {now : Time}
    {locked : UUID → Bool} {fuel : Nat} {claim : ClaimedMessage}
    (h : claimLoop options accountId now locked fuel t = .ok (t', some claim)) :
    ∃ m, NamedBy t' accountId claim m := by
  induction fuel generalizing t with
  | zero => cases h
  | succ fuel ih =>
    unfold claimLoop at h
    split at h
    · cases h
    · rename_i m hm
      obtain ⟨hfind, haccount, -⟩ := claim_candidate hm
      split at h
      · obtain ⟨cancelled, -, hrest⟩ := bind_ok.mp h
        exact ih hrest
      · obtain ⟨claimed, htrans, hend⟩ := bind_ok.mp h
        obtain ⟨-, hstatus, -, hsame⟩ := transition_ok htrans
        cases hend
        refine ⟨claimed, ?_, hsame.account.trans haccount, haccount, hsame.target, hstatus⟩
        rw [Table.find_save_of (hsame.id ▸ hfind), if_pos hsame.id.symm]

def extendEdges : Edges := [(.CLAIMED, .CLAIMED)]

theorem extend_rewrites (options : SenderOptions) (t : Outbox) (messageId : UUID) (delay : Int)
    (now : Time) : Rewrites (fun a b => a.id = messageId ∧ Stamped extendEdges now a b) t
      (extendClaimLease options t messageId delay now) := by
  unfold extendClaimLease
  split
  · exact .refl _ _
  · rename_i m hm
    have hid : m.id = messageId := Table.find_key hm
    subst hid
    split
    · rename_i hclaimed
      have hlease := options.positive.2.2.2.2.2.2.1
      apply rewrites_save hm
      · rfl
      · refine ⟨rfl, ⟨rfl, rfl, rfl, rfl, rfl, rfl, rfl, rfl, rfl, rfl, rfl⟩, ?_, rfl, ?_, ?_⟩
        · simp [hclaimed, extendEdges]
        · simp [hclaimed]
        · intro _
          have hextension : 0 ≤ max options.lease (delay + options.lease) :=
            hlease.le.trans (le_max_left _ _)
          exact Int.le_add_of_nonneg_right hextension
    · exact .refl _ _

def prepareEdges : Edges := (.CLAIMED, .SENDING) :: refusalEdges

theorem prepareSend_rewrites {options : SenderOptions} {now policyNow : Time}
    {around : Policy.Surroundings} {messageId : UUID} {result : Option PreparedSend}
    (h : prepareSend options now policyNow around t messageId = .ok (t', result)) :
    Rewrites (fun a b => a.id = messageId ∧ Stamped prepareEdges now a b) t t' := by
  unfold prepareSend at h
  split at h
  · cases h
    exact .refl _ _
  · rename_i m account connection hrow
    have hm := joinedRow_find hrow
    have hid : m.id = messageId := Table.find_key hm
    split at h
    · cases h
      exact .refl _ _
    · rename_i hclaimed
      have hclaimed : m.status = .CLAIMED := by simpa using hclaimed
      unfold prepareClaimed at h
      split at h
      · rename_i status code availableAt hrefusal
        obtain ⟨m', htrans, heq⟩ := map_ok.mp h
        cases heq
        have hedge := refusal_edge hrefusal
        have hother : status ≠ .SENDING ∧ status ≠ .CLAIMED := by
          cases status <;> revert hedge <;> decide
        exact transition_rewrites hm htrans (hclaimed ▸ List.mem_cons_of_mem _ hedge) hother.1
          (fun habsurd => absurd habsurd hother.2) hid
      · split at h
        · obtain ⟨m', htrans, heq⟩ := map_ok.mp h
          obtain ⟨-, hstatus, hcount, hsame⟩ := transition_ok htrans
          have hupdated : m'.updatedAt = now := by
            unfold transitionOutbox at htrans
            split at htrans
            · cases htrans
            split at htrans
            · cases htrans
            cases htrans
            rfl
          cases heq
          have hbegun : (beginAttempt m' now).status = .SENDING := hstatus
          apply rewrites_save (hid ▸ hm)
          · exact hsame.id
          · refine ⟨hid, hsame.trans ⟨rfl, rfl, rfl, rfl, rfl, rfl, rfl, rfl, rfl, rfl, rfl⟩, ?_,
              hupdated, ?_, ?_⟩
            · rw [hbegun, hclaimed]
              decide
            · rw [if_pos hbegun, ← hcount]
              rfl
            · rw [hbegun]
              exact nofun
        · cases h
          exact .refl _ _

/-- The request of a prepared send goes to the target of its row. -/
theorem prepareSend_target {options : SenderOptions} {now policyNow : Time}
    {around : Policy.Surroundings} {messageId : UUID} {send : PreparedSend}
    (h : prepareSend options now policyNow around t messageId = .ok (t', some send)) :
    ∃ m, t.find messageId = some m ∧ send.request.toWxid = m.targetWxid := by
  unfold prepareSend at h
  split at h
  · cases h
  · rename_i m account connection hrow
    have hm := joinedRow_find hrow
    split at h
    · cases h
    · unfold prepareClaimed at h
      split at h
      · obtain ⟨m', -, heq⟩ := map_ok.mp h
        cases heq
      · split at h
        · obtain ⟨m', -, heq⟩ := map_ok.mp h
          cases heq
          exact ⟨m, hm, rfl⟩
        · cases h

def settleEdges : Edges :=
  [(.SENDING, .SENT), (.SENDING, .UNKNOWN), (.SENDING, .FAILED_FINAL), (.SENDING, .FAILED_RETRYABLE)]

/-- A finished attempt; only one below the limit may be tried again. -/
def Finished (options : SenderOptions) (messageId : UUID) (now : Time) (a b : OutboxMessage) : Prop :=
  a.id = messageId ∧ (b.status = .FAILED_RETRYABLE → a.attemptCount < options.maxAttempts) ∧
    Stamped settleEdges now a b

/-- Finishing stamps the row of the call, if it is still in SENDING. -/
theorem finishWith_rewrites {options : SenderOptions} {messageId : UUID} {now : Time}
    {body : OutboxMessage → Except TransitionError OutboxMessage}
    (hbody : ∀ a b, a.status = .SENDING → body a = .ok b →
      (b.status = .FAILED_RETRYABLE → a.attemptCount < options.maxAttempts) ∧
        Stamped settleEdges now a b)
    (h : finishWith t messageId body = .ok t') :
    Rewrites (Finished options messageId now) t t' := by
  unfold finishWith at h
  split at h
  · cases h
    exact .refl _ _
  · rename_i m hm
    have hid : m.id = messageId := Table.find_key hm
    split at h
    · rename_i hsending
      obtain ⟨m', hok, rfl⟩ := map_ok.mp h
      obtain ⟨hretry, hstamped⟩ := hbody m m' hsending hok
      exact rewrites_save (hid ▸ hm) hstamped.same.id ⟨hid, hretry, hstamped⟩
    · cases h
      exact .refl _ _

/-- `last_attempt_finished_at` is no part of what a stamp says. -/
theorem stamped_of_finished {edges : Edges} {now finishedAt : Time} {m m' : OutboxMessage}
    (h : Stamped edges now { m with lastAttemptFinishedAt := some finishedAt } m') :
    Stamped edges now m m' :=
  ⟨⟨h.same.id, h.same.account, h.same.key, h.same.action, h.same.target, h.same.payload,
    h.same.context, h.same.hash, h.same.priority, h.same.expires, h.same.created⟩, h.edge, h.updated,
    h.attempts, h.lease⟩

theorem finishUnknown_rewrites {options : SenderOptions} {messageId : UUID} {errorCode : String}
    {now : Time} (h : finishUnknown t messageId errorCode now = .ok t') :
    Rewrites (Finished options messageId now) t t' := by
  apply finishWith_rewrites _ h
  intro a b hsending hok
  have hstatus := (transition_ok hok).2.1
  refine ⟨by simp [hstatus], stamped_of_finished (transition_stamps hok ?_ (by decide) nofun)⟩
  simp [hsending, settleEdges]

theorem finishSent_rewrites {options : SenderOptions} {messageId : UUID} {result : SentTextData}
    {now : Time} (h : finishSent t messageId result now = .ok t') :
    Rewrites (Finished options messageId now) t t' := by
  apply finishWith_rewrites _ h
  intro a b hsending hok
  obtain ⟨sent, htrans, hend⟩ := bind_ok.mp hok
  have hstatus := (transition_ok htrans).2.1
  have hstamped : Stamped settleEdges now a sent := by
    apply transition_stamps htrans _ (by decide) nofun
    simp [hsending, settleEdges]
  cases hend
  refine ⟨by simp [hstatus], ?_⟩
  exact ⟨hstamped.same.trans ⟨rfl, rfl, rfl, rfl, rfl, rfl, rfl, rfl, rfl, rfl, rfl⟩, hstamped.edge,
    hstamped.updated, hstamped.attempts, hstamped.lease⟩

theorem finishFailure_rewrites {options : SenderOptions} {messageId : UUID}
    {disposition : Disposition} {errorCode : String} {now : Time} {jitter : Int}
    (h : finishFailure options t messageId disposition errorCode now jitter = .ok t') :
    Rewrites (Finished options messageId now) t t' := by
  unfold finishFailure at h
  split at h
  · exact finishUnknown_rewrites h
  · apply finishWith_rewrites _ h
    intro a b hsending hok
    dsimp only at hok
    split at hok
    · rename_i hretry
      refine ⟨fun _ => hretry.2, stamped_of_finished (transition_stamps hok ?_ (by decide) nofun)⟩
      simp [hsending, settleEdges]
    · have hstatus := (transition_ok hok).2.1
      refine ⟨by simp [hstatus], stamped_of_finished (transition_stamps hok ?_ (by decide) nofun)⟩
      simp [hsending, settleEdges]

/-- Whatever the outcome, finishing stamps the row of the call or none. -/
theorem finish_rewrites {options : SenderOptions} {messageId : UUID} {outcome : PostOutcome}
    {now : Time} {jitter : Int} (h : finish options t messageId outcome now jitter = .ok t') :
    Rewrites (Finished options messageId now) t t' := by
  unfold finish at h
  split at h
  · exact finishSent_rewrites h
  · exact finishFailure_rewrites h
  · exact finishUnknown_rewrites h
  · exact finishUnknown_rewrites h

theorem cancel_rewrites {messageId : UUID} {reason : Str} {now : Time}
    (h : cancelMessage t messageId reason now = .ok t') :
    Rewrites (fun a b => a.id = messageId ∧ Stamped cancelEdges now a b) t t' := by
  unfold cancelMessage at h
  obtain ⟨-, -, h⟩ := bind_ok.mp h
  split at h
  · cases h
  · rename_i m hm
    have hid : m.id = messageId := Table.find_key hm
    split at h
    · cases h
    · rename_i hin
      obtain ⟨m', htrans, rfl⟩ := saved_ok h
      refine transition_rewrites hm htrans ?_ (by decide) nofun hid
      cases hs : m.status <;> simp_all [cancelEdges]

theorem reconcile_rewrites {messageId : UUID} {resolution : OutboxStatus} {reason : Str} {now : Time}
    (h : reconcileUnknown t messageId resolution reason now = .ok t') :
    Rewrites (fun a b => a.id = messageId ∧ Stamped reconcileEdges now a b) t t' := by
  unfold reconcileUnknown at h
  by_cases hresolution : resolution = .SENT ∨ resolution = .FAILED_FINAL
  · have hin : resolution ∈ [OutboxStatus.SENT, .FAILED_FINAL] := by simpa using hresolution
    simp only [hin, not_true_eq_false, if_false, bind_ok] at h
    obtain ⟨-, -, h⟩ := h
    split at h
    · cases h
    · rename_i m hm
      have hid : m.id = messageId := Table.find_key hm
      by_cases hunknown : m.status = .UNKNOWN
      · simp only [ne_eq, hunknown, not_true_eq_false, if_false] at h
        obtain ⟨m', htrans, rfl⟩ := saved_ok h
        have hother : resolution ≠ .SENDING ∧ resolution ≠ .CLAIMED := by
          rcases hresolution with rfl | rfl <;> decide
        refine transition_rewrites hm htrans ?_ hother.1 (fun habsurd => absurd habsurd hother.2) hid
        rw [hunknown]
        rcases hresolution with rfl | rfl <;> decide
      · simp only [ne_eq, hunknown, not_false_eq_true, if_true] at h
        cases h
  · have hnot : resolution ∉ [OutboxStatus.SENT, .FAILED_FINAL] := by simpa using hresolution
    simp only [hnot] at h
    cases h

variable {ι κ : Type} [DecidableEq ι] [DecidableEq κ]

/-- The outbox that a step leaves. -/
inductive Written (setup : Setup ι) (w : World ι κ) : SenderSystem.Action ι κ → Outbox → Prop where
  | untouched (a : SenderSystem.Action ι κ) : Written setup w a w.outbox
  | enqueued (request : EnqueueRequest) (now : Time) (id : UUID) (t : Outbox) (m : OutboxMessage)
      (insert : w.outbox.insert m = some t) (pending : m.status = .PENDING)
      (unattempted : m.attemptCount = 0) : Written setup w (.enqueue request now id) t
  | recovered (now : Time) (ids : List UUID) (t : Outbox)
      (due : recoverable now w.outbox ids = true)
      (rewrites : Rewrites (fun a b => a.id ∈ ids ∧ Stamped recoveryEdges now a b) w.outbox t) :
      Written setup w (.recoverExpiredLeases now ids) t
  | cancelled (id : UUID) (reason : Str) (now : Time) (t : Outbox)
      (rewrites : Rewrites (fun a b => a.id = id ∧ Stamped cancelEdges now a b) w.outbox t) :
      Written setup w (.cancelMessage id reason now) t
  | reconciled (id : UUID) (resolution : OutboxStatus) (reason : Str) (now : Time) (t : Outbox)
      (rewrites : Rewrites (fun a b => a.id = id ∧ Stamped reconcileEdges now a b) w.outbox t) :
      Written setup w (.reconcileUnknown id resolution reason now) t
  | claimed (i : ι) (locked : UUID → Bool) (accountId : UUID) (now : Time) (t : Outbox)
      (phase : w.pipeline i = .counted accountId now)
      (rewrites : Rewrites (fun a b => a.botAccountId = accountId ∧ Stamped claimEdges now a b)
        w.outbox t) : Written setup w (.claimNext i locked) t
  | extended (i : ι) (now : Time) (claim : ClaimedMessage) (delay : Int) (t : Outbox)
      (phase : w.pipeline i = .delayed claim delay)
      (rewrites : Rewrites (fun a b => a.id = claim.id ∧ Stamped extendEdges now a b) w.outbox t) :
      Written setup w (.extendClaimLease i now) t
  | prepared (i : ι) (now policyNow : Time) (id : UUID) (fence : Option UUID) (t : Outbox)
      (phase : w.pipeline i = .guarded id fence)
      (rewrites : Rewrites (fun a b => a.id = id ∧ Stamped prepareEdges now a b) w.outbox t) :
      Written setup w (.prepareSend i now policyNow) t
  | finished (i : ι) (now : Time) (jitter : Int) (send : PreparedSend) (fence : Option UUID)
      (outcome : PostOutcome) (t : Outbox) (phase : w.pipeline i = .posted send fence outcome)
      (rewrites : Rewrites (Finished (setup.options i) send.messageId now) w.outbox t) :
      Written setup w (.finish i now jitter) t

variable [Fintype ι] [Fintype κ] {setup : Setup ι} {w w' : World ι κ}

omit [DecidableEq ι] [DecidableEq κ] [Fintype ι] [Fintype κ] in
theorem commit_written {ε : Type} {a : SenderSystem.Action ι κ} (result : Except ε Outbox)
    (h : ∀ t, result = .ok t → Written setup w a t) : Written setup w a (w.commit result).outbox := by
  rcases SenderSteps.commit_cases w result with ⟨t, hok, hw⟩ | hw
  · rw [hw]
    exact h t hok
  · rw [hw]
    exact .untouched a

theorem enqueue_written (request : EnqueueRequest) (now : Time) (id : UUID)
    (h : step setup w (.enqueue request now id) = some w') :
    Written setup w (.enqueue request now id) w'.outbox := by
  cases h
  apply commit_written
  intro t hok
  obtain ⟨⟨t', m⟩, henqueue, rfl⟩ := map_ok.mp hok
  rcases enqueue_cases henqueue with rfl | ⟨hinsert, -, hpending, hcount⟩
  · exact .untouched _
  · exact .enqueued request now id t' m hinsert hpending hcount

omit [DecidableEq κ] [Fintype ι] [Fintype κ] in
theorem claimNext_written {i : ι} {locked : UUID → Bool} (h : w.claimNext setup i locked = some w') :
    Written setup w (.claimNext i locked) w'.outbox := by
  unfold World.claimNext at h
  split at h
  · rename_i accountId now hphase
    split at h
    · rename_i t c hok
      cases h
      exact .claimed i locked accountId now t hphase (claimLoop_rewrites hok)
    · rename_i t hok
      cases h
      exact .claimed i locked accountId now t hphase (claimLoop_rewrites hok)
    · cases h
      exact .untouched _
  · cases h

omit [DecidableEq κ] [Fintype κ] in
theorem prepareSend_written {i : ι} {now policyNow : Time}
    (h : w.prepareSend setup i now policyNow = some w') :
    Written setup w (.prepareSend i now policyNow) w'.outbox := by
  unfold World.prepareSend at h
  split at h
  · rename_i id fence hphase
    split at h
    · split at h
      · rename_i t send hok
        cases h
        exact .prepared i now policyNow id fence t hphase (prepareSend_rewrites hok)
      · rename_i t hok
        cases h
        exact .prepared i now policyNow id fence t hphase (prepareSend_rewrites hok)
      · cases h
        exact .untouched _
    · cases h
  · cases h

omit [DecidableEq κ] [Fintype ι] [Fintype κ] in
theorem finish_written {i : ι} {now : Time} {jitter : Int}
    (h : w.finish setup i now jitter = some w') :
    Written setup w (.finish i now jitter) w'.outbox := by
  unfold World.finish at h
  split at h
  · rename_i send fence outcome hphase
    split at h
    · rename_i t hok
      cases h
      exact .finished i now jitter send fence outcome t hphase (finish_rewrites hok)
    · cases h
      exact .untouched _
  · cases h

omit [DecidableEq κ] [Fintype ι] [Fintype κ] in
theorem extendClaimLease_written {i : ι} {now : Time}
    (h : w.extendClaimLease setup i now = some w') :
    Written setup w (.extendClaimLease i now) w'.outbox := by
  unfold World.extendClaimLease at h
  split at h
  · rename_i claim delay hphase
    cases h
    exact .extended i now claim delay _ hphase (extend_rewrites _ _ _ _ _)
  · cases h

/-- Every step writes the outbox in one of the ways of `Written`. -/
theorem step_written {a : SenderSystem.Action ι κ} (h : step setup w a = some w') :
    Written setup w a w'.outbox := by
  have heffect := SenderSteps.step_effect h
  cases a with
  | enqueue request now id => exact enqueue_written request now id h
  | recoverExpiredLeases now ids =>
    simp only [step] at h
    split at h
    · rename_i hdue
      cases h
      exact commit_written _ fun t hok => .recovered now ids t hdue (recover_rewrites hok)
    · cases h
  | cancelMessage id reason now =>
    simp only [step] at h
    split at h
    · cases h
      exact commit_written _ fun t hok => .cancelled id reason now t (cancel_rewrites hok)
    · cases h
  | reconcileUnknown id resolution reason now =>
    simp only [step] at h
    split at h
    · cases h
      exact commit_written _ fun t hok =>
        .reconciled id resolution reason now t (reconcile_rewrites hok)
    · cases h
  | claimNext i locked => exact claimNext_written h
  | extendClaimLease i now => exact extendClaimLease_written h
  | prepareSend i now policyNow => exact prepareSend_written h
  | finish i now jitter => exact finish_written h
  | _ =>
    cases heffect <;> exact .untouched _

end WechatBot.OutboxStamps
