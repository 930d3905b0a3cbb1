import WechatBot.AtMostOnce

/-!
# One message in flight for each account

The row lock of the claim transaction makes its count hold until its claim, so an
account never has two messages CLAIMED or SENDING; and while no lease is recovered
under a task, its message stays SENDING, so the calls of an account do not overlap.
-/
namespace WechatBot.AccountSerial

open PyData OutboxState OutboxService Sender SenderEffects SenderSystem SenderSteps GeweErrors Runs
open Policy AtMostOnce
open Tables (Table)

variable {ι κ : Type} [DecidableEq ι] [DecidableEq κ]

/-- At most one row of each account is in flight. -/
def Single (t : Outbox) : Prop :=
  ∀ id id' m m', t.find id = some m → t.find id' = some m' → inFlight m.status = true →
    inFlight m'.status = true → m.botAccountId = m'.botAccountId → id = id'

/-- No row of the account is in flight. -/
def Landed (t : Outbox) (accountId : UUID) : Prop :=
  ∀ id m, t.find id = some m → m.botAccountId = accountId → inFlight m.status = false

/-- A count of zero finds no row of the account in flight. -/
theorem landed_of_count {t : Outbox} {accountId : UUID} (h : inFlightCount t accountId = 0) :
    Landed t accountId := by
  intro id m hm haccount
  have hnil := List.length_eq_zero_iff.mp h
  have hnot := List.filter_eq_nil_iff.mp hnil m (Table.find_mem hm)
  simpa [haccount] using hnot

theorem length_le_one {α : Type} {l : List α} (hn : l.Nodup) (h : ∀ a ∈ l, ∀ b ∈ l, a = b) :
    l.length ≤ 1 := by
  match l with
  | [] => simp
  | [a] => simp
  | a :: b :: rest =>
    have hab : a = b := h a (by simp) b (by simp)
    simp [hab] at hn

theorem count_of_single {t : Outbox} (h : Single t) (accountId : UUID) :
    inFlightCount t accountId ≤ 1 := by
  refine length_le_one ((List.Nodup.of_map _ t.nodup).filter _) ?_
  intro a ha b hb
  simp only [List.mem_filter, Bool.and_eq_true, decide_eq_true_eq] at ha hb
  have hfa := Table.mem_iff_find.mp ha.1
  have hfb := Table.mem_iff_find.mp hb.1
  have hid := h a.id b.id a b hfa hfb ha.2.2 hb.2.2 (ha.2.1.trans hb.2.1.symm)
  rw [hid, hfb] at hfa
  exact (Option.some.inj hfa).symm

/-- Edges along which no message gets into flight. -/
def NoTakeOff (edges : Edges) : Prop :=
  ∀ e ∈ edges, inFlight e.2 = true → inFlight e.1 = true

instance (edges : Edges) : Decidable (NoTakeOff edges) :=
  inferInstanceAs (Decidable (∀ e ∈ edges, inFlight e.2 = true → inFlight e.1 = true))

/-- What is in flight has been in flight, unless a claim took it off. -/
theorem in_flight_before {edges : Edges} (hedges : NoTakeOff edges) {t t' : Outbox}
    (h : Changes edges t t') {id : UUID} {m' : OutboxMessage} (hm' : t'.find id = some m')
    (hflight : inFlight m'.status = true) :
    ∃ m, t.find id = some m ∧ m.botAccountId = m'.botAccountId ∧ inFlight m.status = true := by
  obtain ⟨m, hm, hsame, hstatus⟩ := h.back hm'
  refine ⟨m, hm, hsame.account.symm, ?_⟩
  rcases hstatus with hstatus | hedge
  · rwa [← hstatus]
  · exact hedges _ hedge hflight

/-- Moves without a take-off leave at most one message of an account in flight. -/
theorem single_changes {edges : Edges} (hedges : NoTakeOff edges) {t t' : Outbox}
    (h : Changes edges t t') (hs : Single t) : Single t' := by
  intro id id' m m' hm hm' hf hf' haccount
  obtain ⟨n, hn, hna, hnf⟩ := in_flight_before hedges h hm hf
  obtain ⟨n', hn', hna', hnf'⟩ := in_flight_before hedges h hm' hf'
  exact hs id id' n n' hn hn' hnf hnf' (by rw [hna, hna', haccount])

theorem landed_changes {edges : Edges} (hedges : NoTakeOff edges) {t t' : Outbox}
    (h : Changes edges t t') {accountId : UUID} (hl : Landed t accountId) :
    Landed t' accountId := by
  intro id m hm haccount
  by_contra hf
  obtain ⟨n, hn, hna, hnf⟩ := in_flight_before hedges h hm (by simpa using hf)
  rw [hl id n hn (hna.trans haccount)] at hnf
  cases hnf

/-- A claim puts one message of an account into flight that had none there. -/
theorem single_claim {accountId : UUID} {c : ClaimedMessage} {u : Outbox} {m m' : OutboxMessage}
    (h : ClaimOf accountId c u m m') (hl : Landed u accountId) (hs : Single u) :
    Single (u.save m') := by
  have hid : m'.id = c.id := h.same.id.trans (Table.find_key h.found)
  have hfind := Table.find_save_of (t := u) (a := m') (hid.symm ▸ h.found)
  rw [hid] at hfind
  have hold : ∀ id a, id ≠ c.id → (u.save m').find id = some a → inFlight a.status = true →
      a.botAccountId ≠ accountId := by
    intro id a hne ha hf haccount
    rw [hfind id, if_neg hne] at ha
    rw [hl id a ha haccount] at hf
    cases hf
  have hnew : ∀ a, (u.save m').find c.id = some a → a.botAccountId = accountId := by
    intro a ha
    rw [hfind c.id, if_pos rfl] at ha
    cases ha
    exact h.same.account.trans h.account
  intro id id' a a' ha ha' hf hf' haccount
  by_cases hc : id = c.id <;> by_cases hc' : id' = c.id
  · rw [hc, hc']
  · exact absurd (haccount ▸ hnew a (hc ▸ ha)) (hold id' a' hc' ha' hf')
  · exact absurd (haccount.symm ▸ hnew a' (hc' ▸ ha')) (hold id a hc ha hf)
  · rw [hfind id, if_neg hc] at ha
    rw [hfind id', if_neg hc'] at ha'
    exact hs id id' a a' ha ha' hf hf' haccount

/-- A claim puts a message of its own account in flight only. -/
theorem landed_claim {accountId other : UUID} {c : ClaimedMessage} {u : Outbox}
    {m m' : OutboxMessage} (h : ClaimOf accountId c u m m') (hne : other ≠ accountId)
    (hl : Landed u other) : Landed (u.save m') other := by
  have hid : m'.id = c.id := h.same.id.trans (Table.find_key h.found)
  have hfind := Table.find_save_of (t := u) (a := m') (hid.symm ▸ h.found)
  intro id a ha haccount
  rw [hfind id] at ha
  split at ha
  · cases ha
    exact absurd (haccount.symm.trans (h.same.account.trans h.account)) hne
  · exact hl id a ha haccount

theorem single_insert {t t' : Outbox} {m : OutboxMessage} (h : t.insert m = some t')
    (hpending : m.status = .PENDING) (hs : Single t) : Single t' := by
  have hold : ∀ id a, t'.find id = some a → inFlight a.status = true → t.find id = some a := by
    intro id a ha hf
    rw [Table.find_insert h] at ha
    split at ha
    · cases ha
      rw [hpending] at hf
      cases hf
    · exact ha
  intro id id' a a' ha ha' hf hf' haccount
  exact hs id id' a a' (hold id a ha hf) (hold id' a' ha' hf') hf hf' haccount

theorem landed_insert {t t' : Outbox} {m : OutboxMessage} (h : t.insert m = some t')
    (hpending : m.status = .PENDING) {accountId : UUID} (hl : Landed t accountId) :
    Landed t' accountId := by
  intro id a ha haccount
  rw [Table.find_insert h] at ha
  split at ha
  · cases ha
    rw [hpending]
    rfl
  · exact hl id a ha haccount

/-- The end of an attempt moves one SENDING row out of flight. -/
theorem settled_changes {outcome : PostOutcome} {t t' : Outbox} {id : UUID} {m m' : OutboxMessage}
    (h : SettledBy outcome t t' id m m') :
    Changes [(.SENDING, .SENT), (.SENDING, .UNKNOWN), (.SENDING, .FAILED_FINAL),
      (.SENDING, .FAILED_RETRYABLE)] t t' := by
  rw [h.saved]
  have hid : m.id = id := Table.find_key h.found
  refine changes_save (m := m) (hid ▸ h.found) h.same (.inr ?_)
  rw [h.sending]
  rcases h.settled with hs | ⟨hs, -⟩
  · simp only [List.mem_cons, List.not_mem_nil, or_false] at hs
    rcases hs with hs | hs | hs <;> simp [hs]
  · simp [hs]

theorem prepared_changes {around : Surroundings} {policyNow : Time} {t t' : Outbox} {id : UUID}
    {send : PreparedSend} {m m' : OutboxMessage}
    (h : PreparedBy around policyNow t t' id send m m') :
    Changes [(.CLAIMED, .SENDING)] t t' := by
  rw [h.saved]
  have hid : m.id = id := Table.find_key h.found
  refine changes_save (m := m) (hid ▸ h.found) h.same (.inr ?_)
  simp [h.claimed, h.sending]

structure ClaimInv (w : World ι κ) : Prop where
  single : Single w.outbox
  counted : ∀ i accountId now, w.pipeline i = .counted accountId now → Landed w.outbox accountId
  exclusive : ∀ i j accountId, (w.pipeline i).lockedAccount = some accountId →
    (w.pipeline j).lockedAccount = some accountId → i = j

omit [DecidableEq ι] [DecidableEq κ] in
theorem atRest_claimInv (around : Surroundings) :
    ClaimInv (atRest (Table.empty _) around : World ι κ) := by
  refine ⟨?_, ?_, ?_⟩
  · intro id id' m m' hm
    simp [atRest, Table.find_empty] at hm
  · intro i accountId now h
    cases h
  · intro i j accountId h
    cases h

omit [DecidableEq ι] [DecidableEq κ] in
/-- The outbox changed without a message getting into flight. -/
theorem claimInv_outbox {edges : Edges} (hedges : NoTakeOff edges) {w : World ι κ} {t : Outbox}
    (h : Changes edges w.outbox t) (hw : ClaimInv w) : ClaimInv { w with outbox := t } :=
  ⟨single_changes hedges h hw.single,
    fun i accountId now hi => landed_changes hedges h (hw.counted i accountId now hi),
    hw.exclusive⟩

omit [DecidableEq κ] in
/-- A task moved on to a phase that holds no account. -/
theorem claimInv_moveTo {w : World ι κ} {i : ι} {phase : Phase}
    (hphase : phase.lockedAccount = none) (hw : ClaimInv w) : ClaimInv (w.moveTo i phase) := by
  refine ⟨hw.single, ?_, ?_⟩
  · intro j accountId now hj
    by_cases hji : j = i
    · subst hji
      rw [moveTo_self] at hj
      rw [hj] at hphase
      cases hphase
    · rw [moveTo_other w phase hji] at hj
      exact hw.counted j accountId now hj
  · intro j k accountId hj hk
    have hne : ∀ l, ((w.moveTo i phase).pipeline l).lockedAccount = some accountId → l ≠ i := by
      rintro l hl rfl
      rw [moveTo_self, hphase] at hl
      cases hl
    rw [moveTo_other w phase (hne j hj)] at hj
    rw [moveTo_other w phase (hne k hk)] at hk
    exact hw.exclusive j k accountId hj hk

omit [DecidableEq κ] in
/-- A task that locks an account nobody else has locked is the only one. -/
theorem exclusive_update {w : World ι κ} {i : ι} {phase : Phase} {accountId : UUID}
    (hphase : phase.lockedAccount = some accountId)
    (hothers : ∀ j, j ≠ i → (w.pipeline j).lockedAccount ≠ some accountId) (hw : ClaimInv w)
    (j k : ι) (other : UUID) (hj : ((w.moveTo i phase).pipeline j).lockedAccount = some other)
    (hk : ((w.moveTo i phase).pipeline k).lockedAccount = some other) : j = k := by
  by_cases hji : j = i <;> by_cases hki : k = i
  · rw [hji, hki]
  · subst hji
    rw [moveTo_self, hphase] at hj
    rw [moveTo_other w phase hki, ← hj] at hk
    exact absurd hk (hothers k hki)
  · subst hki
    rw [moveTo_self, hphase] at hk
    rw [moveTo_other w phase hji, ← hk] at hj
    exact absurd hj (hothers j hji)
  · rw [moveTo_other w phase hji] at hj
    rw [moveTo_other w phase hki] at hk
    exact hw.exclusive j k other hj hk

/-- Every step keeps the claim invariant. -/
theorem effect_claimInv {w w' : World ι κ} {a : SenderSystem.Action ι κ} (h : Effect w a w')
    (hw : ClaimInv w) : ClaimInv w' := by
  cases h with
  | same => exact hw
  | enqueued request now id t m hinsert hpending =>
    exact ⟨single_insert hinsert hpending hw.single,
      fun i accountId now hi => landed_insert hinsert hpending (hw.counted i accountId now hi),
      hw.exclusive⟩
  | recovered now ids t hok => exact claimInv_outbox (by decide) (recover_changes hok) hw
  | cancelled id reason now t hchanges => exact claimInv_outbox (by decide) hchanges hw
  | reconciled id resolution reason now t hchanges =>
    exact claimInv_outbox (by decide) hchanges hw
  | accountLocked i accountId now hfree =>
    refine ⟨hw.single, ?_, exclusive_update rfl (fun j _ => hfree j) hw⟩
    intro j other now' hj
    by_cases hji : j = i
    · subst hji
      rw [moveTo_self] at hj
      cases hj
    · rw [moveTo_other w _ hji] at hj
      exact hw.counted j other now' hj
  | counted i accountId now hphase hnone =>
    have hothers : ∀ j, j ≠ i → (w.pipeline j).lockedAccount ≠ some accountId := by
      intro j hji hj
      exact hji (hw.exclusive j i accountId hj (by rw [hphase]; rfl))
    refine ⟨hw.single, ?_, exclusive_update rfl hothers hw⟩
    intro j other now' hj
    by_cases hji : j = i
    · subst hji
      rw [moveTo_self] at hj
      cases hj
      exact landed_of_count hnone
    · rw [moveTo_other w _ hji] at hj
      exact hw.counted j other now' hj
  | claimed i locked accountId now c u m m' hphase hchanges hclaim =>
    have hlanded := landed_changes (by decide) hchanges (hw.counted i accountId now hphase)
    have hsingle := single_claim hclaim hlanded (single_changes (by decide) hchanges hw.single)
    have hmoved : ClaimInv (w.moveTo i (.claimed c)) := claimInv_moveTo rfl hw
    refine ⟨hsingle, ?_, hmoved.exclusive⟩
    intro j other now' hj
    by_cases hji : j = i
    · subst hji
      rw [moveTo_self] at hj
      cases hj
    · rw [moveTo_other _ _ hji] at hj
      have hne : other ≠ accountId := by
        rintro rfl
        exact hji (hw.exclusive j i other (by rw [hj]; rfl) (by rw [hphase]; rfl))
      exact landed_claim hclaim hne
        (landed_changes (by decide) hchanges (hw.counted j other now' hj))
  | nothingDue i locked t hchanges =>
    exact claimInv_moveTo rfl (claimInv_outbox (by decide) hchanges hw)
  | retired a i => exact claimInv_moveTo rfl hw
  | advanced a i phase hphase =>
    have hnone : phase.lockedAccount = none := by
      generalize w.pipeline i = before at hphase
      cases hphase <;> rfl
    exact claimInv_moveTo hnone hw
  | extended i now c delay t hphase hchanges =>
    exact claimInv_moveTo rfl (claimInv_outbox (by decide) hchanges hw)
  | guarded i c hphase hfree => exact claimInv_moveTo rfl hw
  | refused i now policyNow id fence t hphase hchanges =>
    exact claimInv_moveTo rfl (claimInv_outbox (by decide) hchanges hw)
  | prepared i now policyNow id fence t send m m' hphase hprepared =>
    exact claimInv_moveTo rfl (claimInv_outbox (by decide) (prepared_changes hprepared) hw)
  | postStarted i send fence hphase =>
    exact claimInv_moveTo rfl ⟨hw.single, hw.counted, hw.exclusive⟩
  | postFailed i outcome send fence hphase => exact claimInv_moveTo rfl hw
  | postEnded i outcome send fence call hphase =>
    exact claimInv_moveTo rfl ⟨hw.single, hw.counted, hw.exclusive⟩
  | settled i now jitter outcome send fence t hphase hsettled =>
    rcases hsettled with rfl | ⟨m, m', hsettled⟩
    · exact claimInv_moveTo rfl hw
    · exact claimInv_moveTo rfl (claimInv_outbox (by decide) (settled_changes hsettled) hw)
  | revocationBegun | fenceLocked | revoked | rolledBack | changed =>
    exact ⟨hw.single, hw.counted, hw.exclusive⟩

/-- The step recovers no lease of a message between its SENDING commit and the end of
its call. -/
def LeaseKept (w : World ι κ) : SenderSystem.Action ι κ → Prop
  | .recoverExpiredLeases _ ids =>
    ∀ i send, (w.pipeline i).window = some send → send.messageId ∉ ids
  | _ => True

/-- The message of the send is SENDING. -/
def Sending (t : Outbox) (send : PreparedSend) : Prop :=
  ∃ m, t.find send.messageId = some m ∧ m.status = .SENDING ∧ m.botAccountId = send.botAccountId

def Backed (w : World ι κ) : Prop :=
  ∀ i send, (w.pipeline i).window = some send → Sending w.outbox send

def KeepsSending (edges : Edges) : Prop := ∀ e ∈ edges, e.1 ≠ OutboxStatus.SENDING

instance (edges : Edges) : Decidable (KeepsSending edges) :=
  inferInstanceAs (Decidable (∀ e ∈ edges, e.1 ≠ OutboxStatus.SENDING))

/-- Edges that keep SENDING leave the row of a send there. -/
theorem sending_changes {edges : Edges} (hedges : KeepsSending edges) {t t' : Outbox}
    (h : Changes edges t t') {send : PreparedSend} (hs : Sending t send) : Sending t' send := by
  obtain ⟨m, hm, hstatus, haccount⟩ := hs
  obtain ⟨m', hm', hsame, hkept⟩ := h.kept _ m hm
  refine ⟨m', hm', ?_, hsame.account.trans haccount⟩
  rcases hkept with hkept | hedge
  · rw [hkept, hstatus]
  · exact absurd hstatus (hedges _ hedge)

theorem sending_insert {t t' : Outbox} {m : OutboxMessage} (h : t.insert m = some t')
    {send : PreparedSend} (hs : Sending t send) : Sending t' send := by
  obtain ⟨m', hm', hstatus, haccount⟩ := hs
  refine ⟨m', ?_, hstatus, haccount⟩
  rw [Table.find_insert h, if_neg, hm']
  intro hid
  rw [hid, Table.insert_fresh h] at hm'
  cases hm'

theorem sending_other {t : Outbox} {id : UUID} {m m' : OutboxMessage} (hm : t.find id = some m)
    (hsame : SameAction m m') {send : PreparedSend} (hne : send.messageId ≠ id)
    (hs : Sending t send) : Sending (t.save m') send := by
  obtain ⟨n, hn, hstatus⟩ := hs
  have hid : m'.id = id := hsame.id.trans (Table.find_key hm)
  refine ⟨n, ?_, hstatus⟩
  rw [Table.find_save_of (t := t) (a := m') (hid.symm ▸ hm), hid, if_neg hne, hn]

omit [DecidableEq ι] [DecidableEq κ] in
theorem backed_outbox {edges : Edges} (hedges : KeepsSending edges) {w : World ι κ} {t : Outbox}
    (h : Changes edges w.outbox t) (hw : Backed w) : Backed { w with outbox := t } :=
  fun i send hi => sending_changes hedges h (hw i send hi)

omit [DecidableEq κ] in
theorem backed_moveTo {w : World ι κ} {i : ι} {phase : Phase}
    (hphase : ∀ send, phase.window = some send → Sending w.outbox send) (hw : Backed w) :
    Backed (w.moveTo i phase) := by
  intro j send hj
  by_cases hji : j = i
  · subst hji
    rw [moveTo_self] at hj
    exact hphase send hj
  · rw [moveTo_other w phase hji] at hj
    exact hw j send hj

omit [DecidableEq κ] in
/-- A task moved on to a phase outside the window. -/
theorem backed_leave {w : World ι κ} {i : ι} {phase : Phase} (hphase : phase.window = none)
    (hw : Backed w) : Backed (w.moveTo i phase) := by
  refine backed_moveTo ?_ hw
  intro send hsend
  rw [hphase] at hsend
  cases hsend

omit [DecidableEq ι] [DecidableEq κ] in
/-- The other tasks in their window are sending other messages. -/
theorem window_apart {w : World ι κ} (hinv : Delivery.Inv PostOutcome.Retryable (delivery w))
    {i j : ι} {send send' : PreparedSend} (hne : j ≠ i)
    (hi : ∃ progress, attemptOf (w.pipeline i) = some ⟨send.messageId, progress⟩)
    (hj : (w.pipeline j).window = some send') : send'.messageId ≠ send.messageId := by
  obtain ⟨progress, hi⟩ := hi
  have hj' : ∃ progress', attemptOf (w.pipeline j) = some ⟨send'.messageId, progress'⟩ := by
    cases hphase : w.pipeline j <;> simp [hphase, Phase.window] at hj <;> subst hj
    · exact ⟨_, rfl⟩
    · exact ⟨_, rfl⟩
  obtain ⟨progress', hj'⟩ := hj'
  intro he
  exact hne (hinv.unique j i _ _ hj' hi he)

/-- A step that recovers no lease under a call keeps every call backed by its row. -/
theorem effect_backed {w w' : World ι κ} {a : SenderSystem.Action ι κ} (h : Effect w a w')
    (hinv : Delivery.Inv PostOutcome.Retryable (delivery w)) (hlease : LeaseKept w a)
    (hw : Backed w) : Backed w' := by
  cases h with
  | same => exact hw
  | enqueued request now id t m hinsert hpending =>
    exact fun i send hi => sending_insert hinsert (hw i send hi)
  | recovered now ids t hok =>
    intro i send hi
    obtain ⟨m, hm, hstatus⟩ := hw i send hi
    exact ⟨m, (recover_other hok (hlease i send hi)).trans hm, hstatus⟩
  | cancelled id reason now t hchanges => exact backed_outbox (by decide) hchanges hw
  | reconciled id resolution reason now t hchanges => exact backed_outbox (by decide) hchanges hw
  | accountLocked i accountId now hfree => exact backed_leave rfl hw
  | counted i accountId now hphase hnone => exact backed_leave rfl hw
  | claimed i locked accountId now c u m m' hphase hchanges hclaim =>
    have hu : Backed { w with outbox := u } := backed_outbox (by decide) hchanges hw
    exact backed_leave rfl (backed_outbox (w := { w with outbox := u }) (by decide)
      (claim_passive hclaim) hu)
  | nothingDue i locked t hchanges =>
    exact backed_leave rfl (backed_outbox (by decide) hchanges hw)
  | retired a i => exact backed_leave rfl hw
  | advanced a i phase hphase =>
    have hnone : phase.window = none := by
      generalize w.pipeline i = before at hphase
      cases hphase <;> rfl
    exact backed_leave hnone hw
  | extended i now c delay t hphase hchanges =>
    exact backed_leave rfl (backed_outbox (by decide) hchanges hw)
  | guarded i c hphase hfree => exact backed_leave rfl hw
  | refused i now policyNow id fence t hphase hchanges =>
    exact backed_leave rfl (backed_outbox (by decide) hchanges hw)
  | prepared i now policyNow id fence t send m m' hphase hprepared =>
    refine backed_moveTo ?_ (backed_outbox (by decide) (prepared_changes hprepared) hw)
    intro send' hsend
    cases hsend
    have hid : m'.id = id := hprepared.same.id.trans (Table.find_key hprepared.found)
    refine ⟨m', ?_, hprepared.sending, hprepared.same.account.trans hprepared.account.symm⟩
    simp only [hprepared.saved, hprepared.message]
    rw [Table.find_save_of (t := w.outbox) (a := m') (hid.symm ▸ hprepared.found), if_pos hid.symm]
  | postStarted i send fence hphase =>
    refine backed_moveTo ?_ hw
    intro send' hsend
    cases hsend
    exact hw i send (by rw [hphase]; rfl)
  | postFailed i outcome send fence hphase => exact backed_leave rfl hw
  | postEnded i outcome send fence call hphase => exact backed_leave rfl hw
  | settled i now jitter outcome send fence t hphase hsettled =>
    intro j send' hj
    by_cases hji : j = i
    · subst hji
      rw [moveTo_self] at hj
      cases hj
    · rw [moveTo_other _ _ hji] at hj
      rcases hsettled with rfl | ⟨m, m', hsettled⟩
      · exact hw j send' hj
      · have hne : send'.messageId ≠ send.messageId :=
          window_apart hinv hji ⟨.ended outcome, by rw [hphase]; rfl⟩ hj
        simp only [moveTo_outbox, hsettled.saved]
        exact sending_other hsettled.found hsettled.same hne (hw j send' hj)
  | revocationBegun | fenceLocked | revoked | rolledBack | changed => exact hw

omit [DecidableEq κ] in
/-- While no lease is recovered under a task, two tasks in their window are at work for
different accounts. -/
theorem window_account {w : World ι κ} (hclaim : ClaimInv w)
    (hinv : Delivery.Inv PostOutcome.Retryable (delivery w)) (hw : Backed w) {i j : ι}
    {send send' : PreparedSend} {progress : Delivery.Progress PostOutcome}
    (hattempt : attemptOf (w.pipeline i) = some ⟨send.messageId, progress⟩)
    (hi : (w.pipeline i).window = some send) (hj : (w.pipeline j).window = some send')
    (haccount : send.botAccountId = send'.botAccountId) : i = j := by
  obtain ⟨m, hm, hs, ha⟩ := hw i send hi
  obtain ⟨m', hm', hs', ha'⟩ := hw j send' hj
  by_contra hne
  have happart := window_apart hinv (Ne.symm hne) ⟨progress, hattempt⟩ hj
  have hflight : ∀ status, status = OutboxStatus.SENDING → inFlight status = true := by
    rintro _ rfl; rfl
  exact happart (hclaim.single _ _ m m' hm hm' (hflight _ hs) (hflight _ hs')
    (by rw [ha, ha', haccount])).symm

variable [Fintype ι] [Fintype κ] {setup : Setup ι}

/-- Every run from the empty outbox keeps the claim invariant. -/
theorem run_claimInv {around : Surroundings} {actions : List (SenderSystem.Action ι κ)} {w : World ι κ}
    (h : run (step setup) (atRest (Table.empty _) around) actions = some w) : ClaimInv w :=
  run_invariant ClaimInv (fun _ _ _ hs hstep => effect_claimInv (step_effect hstep) hs)
    (atRest_claimInv around) h

/-- In a run that keeps the leases every call is backed by its row. -/
theorem run_backed {outbox : Outbox} {around : Surroundings} {actions : List (SenderSystem.Action ι κ)}
    {w : World ι κ} (h : run (step setup) (atRest outbox around) actions = some w)
    (hlease : EachStep (step setup) LeaseKept (atRest outbox around) actions) : Backed w := by
  have hstart : Delivery.Inv PostOutcome.Retryable (delivery (atRest outbox around : World ι κ)) :=
    Delivery.start_inv _ _
  have hboth := run_invariant_of_each LeaseKept
    (fun w : World ι κ => Delivery.Inv PostOutcome.Retryable (delivery w) ∧ Backed w) ?_
    ⟨hstart, fun i send hi => by cases hi⟩ hlease h
  · exact hboth.2
  · rintro s a t ⟨hinv, hbacked⟩ hkept hstep
    have heffect := step_effect hstep
    exact ⟨Delivery.steps_inv hinv (effect_simulates heffect),
      effect_backed heffect hinv hkept hbacked⟩

theorem window_of_inCall {phase : Phase} {send : PreparedSend} (h : phase.inCall = some send) :
    phase.window = some send ∧ ∃ progress, attemptOf phase = some ⟨send.messageId, progress⟩ := by
  cases phase <;> simp [Phase.inCall] at h
  subst h
  exact ⟨rfl, _, rfl⟩

/-- In every reachable state an account has at most one message CLAIMED or SENDING. In a
run in which no lease is recovered between a SENDING commit and the end of its call, no
two tasks are in a call for the same account. -/
theorem account_serialization (setup : Setup ι) (around : Surroundings)
    (actions : List (SenderSystem.Action ι κ)) (w : World ι κ)
    (hrun : run (step setup) (atRest (Table.empty _) around) actions = some w) :
    (∀ accountId, inFlightCount w.outbox accountId ≤ 1) ∧
    (EachStep (step setup) LeaseKept (atRest (Table.empty _) around) actions →
      ∀ i j send send', (w.pipeline i).inCall = some send → (w.pipeline j).inCall = some send' →
        send.botAccountId = send'.botAccountId → i = j) := by
  have hclaim := run_claimInv hrun
  refine ⟨count_of_single hclaim.single, ?_⟩
  intro hlease i j send send' hi hj haccount
  obtain ⟨hwindow, progress, hattempt⟩ := window_of_inCall hi
  exact window_account hclaim (delivery_inv hrun) (run_backed hrun hlease) hattempt hwindow
    (window_of_inCall hj).1 haccount

/-- The step recovers no lease of a message whose call is running. -/
def NotDuringCall (w : World ι κ) : SenderSystem.Action ι κ → Prop
  | .recoverExpiredLeases _ ids =>
    ∀ i send, (w.pipeline i).inCall = some send → send.messageId ∉ ids
  | _ => True

/-- A condition on the recovered messages alone is decided on them. -/
def decidableRecovered (P : List UUID → Prop) [DecidablePred P] (a : SenderSystem.Action ι κ) :
    Decidable (match a with | .recoverExpiredLeases _ ids => P ids | _ => True) :=
  match a with
  | .recoverExpiredLeases _ ids => inferInstanceAs (Decidable (P ids))
  | .enqueue .. | .cancelMessage .. | .reconcileUnknown .. | .lockAccount .. | .countInFlight ..
  | .claimNext .. | .respectRateLimit .. | .extendClaimLease .. | .authorizationGuard ..
  | .prepareSend .. | .startPost .. | .failBeforePost .. | .endPost .. | .finish .. | .leaveGuard ..
  | .crash .. | .beginRevocation .. | .lockFence .. | .commitRevocation .. | .rollbackRevocation ..
  | .change .. => instDecidableTrue

instance (w : World ι κ) (ids : List UUID) (i : ι) :
    Decidable (∀ send, (w.pipeline i).inCall = some send → send.messageId ∉ ids) :=
  optionAllDecidable (w.pipeline i).inCall fun send => send.messageId ∉ ids

instance (w : World ι κ) (a : SenderSystem.Action ι κ) : Decidable (NotDuringCall w a) :=
  decidableRecovered
    (fun ids => ∀ i send, (w.pipeline i).inCall = some send → send.messageId ∉ ids) a

def sampleRequest (key : String) : EnqueueRequest :=
  ⟨1, 1, py key, py "g@chatroom", py "hello", none, 100, [], "message.send.text", none⟩

/-- The lease of the first task runs out between its SENDING commit and its call. After the
recovery a second task sends the account's next message, and then the first one calls. -/
def overtaking : List (SenderSystem.Action Bool Unit) :=
  [.enqueue (sampleRequest "first") 0 1, .enqueue (sampleRequest "second") 0 2] ++
    toBoundary false 1 0 [] 0 ++ [.recoverExpiredLeases (100 * second) [1]] ++
    toBoundary true 1 (100 * second) [.extendClaimLease true (100 * second)] (103 * second) ++
    [.startPost true, .startPost false]

def overtakingRun : Option (World Bool Unit) :=
  run (step (sampleSetup Bool)) (atRest (Table.empty _) sampleSurroundings) overtaking

theorem overtakingRun_isSome : overtakingRun.isSome := by decide +kernel

def overtakingWorld : World Bool Unit := overtakingRun.get overtakingRun_isSome

theorem overtaking_run : run (step (sampleSetup Bool)) (atRest (Table.empty _) sampleSurroundings)
    overtaking = some overtakingWorld := (Option.some_get overtakingRun_isSome).symm

/-- No lease expires during its call, and still two calls of the account overlap. -/
theorem calls_overlap :
    ¬ ∀ (setup : Setup Bool) (around : Surroundings) (actions : List (SenderSystem.Action Bool Unit))
      (w : World Bool Unit),
      run (step setup) (atRest (Table.empty _) around) actions = some w →
      EachStep (step setup) NotDuringCall (atRest (Table.empty _) around) actions →
      ∀ i j send send', (w.pipeline i).inCall = some send → (w.pipeline j).inCall = some send' →
        send.botAccountId = send'.botAccountId → i = j := by
  intro h
  have hkept : EachStep (step (sampleSetup Bool)) NotDuringCall
      (atRest (Table.empty _) sampleSurroundings) overtaking := by decide +kernel
  have hcalls : ∃ send send', (overtakingWorld.pipeline false).inCall = some send ∧
      (overtakingWorld.pipeline true).inCall = some send' ∧
      send.botAccountId = send'.botAccountId := by
    have hsends : (overtakingWorld.pipeline false).inCall.map (·.botAccountId) = some 1 ∧
        (overtakingWorld.pipeline true).inCall.map (·.botAccountId) = some 1 := by decide +kernel
    simp only [Option.map_eq_some_iff] at hsends
    obtain ⟨⟨send, hi, ha⟩, send', hj, ha'⟩ := hsends
    exact ⟨send, send', hi, hj, ha.trans ha'.symm⟩
  obtain ⟨send, send', hi, hj, haccount⟩ := hcalls
  have hsame := h (sampleSetup Bool) sampleSurroundings overtaking overtakingWorld overtaking_run
    hkept false true send send' hi hj haccount
  cases hsame

instance (w : World ι κ) (ids : List UUID) (i : ι) :
    Decidable (∀ send, (w.pipeline i).window = some send → send.messageId ∉ ids) :=
  optionAllDecidable (w.pipeline i).window fun send => send.messageId ∉ ids

instance (w : World ι κ) (a : SenderSystem.Action ι κ) : Decidable (LeaseKept w a) :=
  decidableRecovered
    (fun ids => ∀ i send, (w.pipeline i).window = some send → send.messageId ∉ ids) a

/-- The first worker dies before its call, and its lease is recovered. The second one calls
for the next message, and the first one, which is back, finds the account in flight. -/
def recovering : List (SenderSystem.Action Bool Unit) :=
  [.enqueue (sampleRequest "first") 0 1, .enqueue (sampleRequest "second") 0 2] ++
    toBoundary false 1 0 [] 0 ++ [.crash false, .recoverExpiredLeases (100 * second) [1]] ++
    toBoundary true 1 (100 * second) [.extendClaimLease true (100 * second)] (103 * second) ++
    [.startPost true, .lockAccount false 1 (104 * second), .countInFlight false]

theorem recoveringRun_isSome : (run (step (sampleSetup Bool))
    (atRest (Table.empty _) sampleSurroundings) recovering).isSome := by decide +kernel

theorem account_serialization_recovered :
    ∃ w, run (step (sampleSetup Bool)) (atRest (Table.empty _) sampleSurroundings) recovering =
        some w ∧ (w.pipeline true).inCall.isSome = true ∧ inFlightCount w.outbox 1 ≤ 1 ∧
      ∀ j send send', (w.pipeline true).inCall = some send → (w.pipeline j).inCall = some send' →
        send.botAccountId = send'.botAccountId → true = j := by
  have hw := (Option.some_get recoveringRun_isSome).symm
  have hboth := account_serialization (sampleSetup Bool) sampleSurroundings recovering _ hw
  exact ⟨_, hw, by decide +kernel, hboth.1 1, hboth.2 (by decide +kernel) true⟩

end WechatBot.AccountSerial
