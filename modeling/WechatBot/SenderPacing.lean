import Mathlib.Tactic.Linarith
import WechatBot.SenderClock

/-!
# What the limiter promises until the call

The limiter reads the message rows, so its answer is about the calls that were started
only as far as the rows tell them: a row's `updated_at` is not before the last call of its
message, unless the row is `SENDING`. From the limiter's answer to the start of the call
the task is the only one that could start another call of its account, so a promise about
the earlier calls of the account holds when the call starts.
-/
namespace WechatBot.SenderPacing

open PyData OutboxState OutboxService Sender SenderEffects SenderSystem OutboxStamps SenderClock
open GeweErrors (PostOutcome)
open Tables (Table)

variable {ι κ : Type}

def NoSending (t : Outbox) (accountId : UUID) : Prop :=
  ∀ id m, t.find id = some m → m.botAccountId = accountId → m.status ≠ .SENDING

/-- A row of the account. -/
def Row (t : Outbox) (accountId messageId : UUID) (P : OutboxMessage → Prop) : Prop :=
  ∃ m, t.find messageId = some m ∧ m.botAccountId = accountId ∧ P m

/-- A count of zero finds no row of the account in SENDING. -/
theorem noSending_of_count {t : Outbox} {accountId : UUID} (h : inFlightCount t accountId = 0) :
    NoSending t accountId := by
  intro id m hm haccount hsending
  have hnone : t.rows.filter (fun m => decide (m.botAccountId = accountId) && inFlight m.status) = [] :=
    List.length_eq_zero_iff.mp h
  have hflying := List.filter_eq_nil_iff.mp hnone m (Table.find_mem hm)
  exact hflying (by simp [haccount, hsending, inFlight])

/-- The column values that no step takes from a row. -/
structure Kept (m m' : OutboxMessage) : Prop where
  account : m'.botAccountId = m.botAccountId
  target : m'.targetWxid = m.targetWxid
  attempts : m.attemptCount ≤ m'.attemptCount

theorem Kept.refl (m : OutboxMessage) : Kept m m := ⟨rfl, rfl, le_refl _⟩

/-- A stamped move keeps what is promised about a row. -/
theorem kept_of_stamped {edges : Edges} {now : Time} {m m' : OutboxMessage}
    (h : Stamped edges now m m') : Kept m m' := by
  refine ⟨h.same.account, h.same.target, ?_⟩
  rw [h.attempts]
  omega

theorem rewrites_row {R : OutboxMessage → OutboxMessage → Prop} {t t' : Outbox}
    (hR : ∀ a b, R a b → Kept a b) (h : Rewrites R t t') {id : UUID} {m : OutboxMessage}
    (hm : t.find id = some m) : ∃ m', t'.find id = some m' ∧ Kept m m' := by
  obtain ⟨m', hm', hchange⟩ := h.kept id m hm
  refine ⟨m', hm', ?_⟩
  rcases hchange with rfl | hchange
  · exact .refl _
  · exact hR m m' hchange

variable {setup : Setup ι} {w : World ι κ} {a : SenderSystem.Action ι κ} {t : Outbox}

/-- A row is still there after any write, with what is promised about it. -/
theorem written_row (h : Written setup w a t) {id : UUID} {m : OutboxMessage}
    (hm : w.outbox.find id = some m) : ∃ m', t.find id = some m' ∧ Kept m m' := by
  cases h with
  | untouched => exact ⟨m, hm, .refl m⟩
  | enqueued _ _ _ _ _ insert => exact ⟨m, Table.insert_keeps insert hm, .refl m⟩
  | recovered _ _ _ _ rewrites =>
    exact rewrites_row (fun _ _ hab => kept_of_stamped hab.2) rewrites hm
  | cancelled _ _ _ _ rewrites =>
    exact rewrites_row (fun _ _ hab => kept_of_stamped hab.2) rewrites hm
  | reconciled _ _ _ _ _ rewrites =>
    exact rewrites_row (fun _ _ hab => kept_of_stamped hab.2) rewrites hm
  | claimed _ _ _ _ _ _ rewrites =>
    exact rewrites_row (fun _ _ hab => kept_of_stamped hab.2) rewrites hm
  | extended _ _ _ _ _ _ rewrites =>
    exact rewrites_row (fun _ _ hab => kept_of_stamped hab.2) rewrites hm
  | prepared _ _ _ _ _ _ _ rewrites =>
    exact rewrites_row (fun _ _ hab => kept_of_stamped hab.2) rewrites hm
  | finished _ _ _ _ _ _ _ _ rewrites =>
    exact rewrites_row (fun _ _ hab => kept_of_stamped hab.2.2) rewrites hm

theorem rewrites_noSending {R : OutboxMessage → OutboxMessage → Prop} {t t' : Outbox}
    {accountId : UUID} (hR : ∀ a b, R a b → a.botAccountId = accountId → b.status ≠ .SENDING)
    (hsame : ∀ a b, R a b → SameAction a b) (h : Rewrites R t t') (ht : NoSending t accountId) :
    NoSending t' accountId := by
  intro id m' hm' haccount
  obtain ⟨m, hm, hchange⟩ := h.back hm'
  rcases hchange with rfl | hchange
  · exact ht id m' hm haccount
  · exact hR m m' hchange ((hsame m m' hchange).account.symm.trans haccount)

/-- An edge that does not lead to SENDING leaves no row there. -/
theorem not_sending_of_edge {edges : Edges} (hedges : ∀ e ∈ edges, e.2 ≠ OutboxStatus.SENDING)
    {now : Time} {m m' : OutboxMessage} (h : Stamped edges now m m') : m'.status ≠ .SENDING :=
  hedges _ h.edge

/-- Only a preparation of one of its messages gives an account a SENDING row. -/
theorem written_noSending (h : Written setup w a t) {accountId : UUID}
    (hother : ∀ i now policyNow id fence, a = .prepareSend i now policyNow →
      w.pipeline i = .guarded id fence → ∀ m, w.outbox.find id = some m → m.botAccountId ≠ accountId)
    (hw : NoSending w.outbox accountId) : NoSending t accountId := by
  cases h with
  | untouched => exact hw
  | enqueued _ _ _ _ m insert pending =>
    intro id m' hm' haccount
    rw [Table.find_insert insert] at hm'
    split at hm'
    · obtain rfl := Option.some.inj hm'
      rw [pending]
      decide
    · exact hw id m' hm' haccount
  | recovered _ _ _ _ rewrites =>
    exact rewrites_noSending (fun _ _ hab _ => not_sending_of_edge (by decide) hab.2)
      (fun _ _ hab => hab.2.same) rewrites hw
  | cancelled _ _ _ _ rewrites =>
    exact rewrites_noSending (fun _ _ hab _ => not_sending_of_edge (by decide) hab.2)
      (fun _ _ hab => hab.2.same) rewrites hw
  | reconciled _ _ _ _ _ rewrites =>
    exact rewrites_noSending (fun _ _ hab _ => not_sending_of_edge (by decide) hab.2)
      (fun _ _ hab => hab.2.same) rewrites hw
  | claimed _ _ _ _ _ _ rewrites =>
    exact rewrites_noSending (fun _ _ hab _ => not_sending_of_edge (by decide) hab.2)
      (fun _ _ hab => hab.2.same) rewrites hw
  | extended _ _ _ _ _ _ rewrites =>
    exact rewrites_noSending (fun _ _ hab _ => not_sending_of_edge (by decide) hab.2)
      (fun _ _ hab => hab.2.same) rewrites hw
  | prepared i now policyNow id fence _ phase rewrites =>
    intro other m' hm' haccount
    obtain ⟨m, hm, hchange⟩ := rewrites.back hm'
    rcases hchange with rfl | ⟨hid, hstamped⟩
    · exact hw other m' hm haccount
    · have hkey : m.id = other := Table.find_key hm
      rw [← hkey, hid] at hm
      exact absurd (hstamped.same.account.symm.trans haccount)
        (hother i now policyNow id fence rfl phase m hm)
  | finished _ _ _ _ _ _ _ _ rewrites =>
    exact rewrites_noSending (fun _ _ hab _ => not_sending_of_edge (by decide) hab.2.2)
      (fun _ _ hab => hab.2.2.same) rewrites hw

/-- A SENDING row stays SENDING until it is recovered or its attempt is finished. -/
theorem written_sending (h : Written setup w a t) {id : UUID} {m : OutboxMessage}
    (hm : w.outbox.find id = some m) (hsending : m.status = .SENDING)
    (hunrecovered : ∀ now ids, a = .recoverExpiredLeases now ids → id ∉ ids)
    (hunfinished : ∀ i now jitter send fence outcome, a = .finish i now jitter →
      w.pipeline i = .posted send fence outcome → send.messageId ≠ id) :
    t.find id = some m := by
  have hrewrites : ∀ {R : OutboxMessage → OutboxMessage → Prop}, Rewrites R w.outbox t →
      (∀ b, ¬ R m b) → t.find id = some m := by
    intro R hrewrites hnot
    obtain ⟨m', hm', hchange⟩ := hrewrites.kept id m hm
    rcases hchange with rfl | hchange
    · exact hm'
    · exact absurd hchange (hnot m')
  have hkey : m.id = id := Table.find_key hm
  have hedge : ∀ {edges : Edges} {now : Time} {b : OutboxMessage}, Stamped edges now m b →
      (∀ e ∈ edges, e.1 ≠ OutboxStatus.SENDING) → False := by
    intro edges now b hstamped hedges
    exact hedges _ hstamped.edge hsending
  cases h with
  | untouched => exact hm
  | enqueued _ _ _ _ _ insert => exact Table.insert_keeps insert hm
  | recovered now ids _ _ rewrites =>
    exact hrewrites rewrites fun b hb => hunrecovered now ids rfl (hkey ▸ hb.1)
  | cancelled _ _ _ _ rewrites => exact hrewrites rewrites fun b hb => hedge hb.2 (by decide)
  | reconciled _ _ _ _ _ rewrites => exact hrewrites rewrites fun b hb => hedge hb.2 (by decide)
  | claimed _ _ _ _ _ _ rewrites => exact hrewrites rewrites fun b hb => hedge hb.2 (by decide)
  | extended _ _ _ _ _ _ rewrites => exact hrewrites rewrites fun b hb => hedge hb.2 (by decide)
  | prepared _ _ _ _ _ _ _ rewrites => exact hrewrites rewrites fun b hb => hedge hb.2 (by decide)
  | finished i now jitter send fence outcome _ phase rewrites =>
    exact hrewrites rewrites fun b hb =>
      hunfinished i now jitter send fence outcome rfl phase (hb.1.symm.trans hkey)

/-- The phase that the acting task enters, with the outbox that its step leaves. -/
inductive Moved (setup : Setup ι) (w : World ι κ) :
    SenderSystem.Action ι κ → Outbox → ι → Phase → Prop where
  | retired (a : SenderSystem.Action ι κ) (t : Outbox) (i : ι) (acts : actor a = some i) :
      Moved setup w a t i .idle
  | leaving (a : SenderSystem.Action ι κ) (t : Outbox) (i : ι) (fence : Option UUID)
      (acts : actor a = some i) : Moved setup w a t i (.leaving fence)
  | locked (i : ι) (accountId : UUID) (now : Time) :
      Moved setup w (.lockAccount i accountId now) w.outbox i (.accountLocked accountId now)
  | counted (i : ι) (accountId : UUID) (now : Time)
      (phase : w.pipeline i = .accountLocked accountId now)
      (landed : inFlightCount w.outbox accountId = 0) :
      Moved setup w (.countInFlight i) w.outbox i (.counted accountId now)
  | claimed (i : ι) (locked : UUID → Bool) (accountId : UUID) (now : Time) (claim : ClaimedMessage)
      (t : Outbox) (m : OutboxMessage) (phase : w.pipeline i = .counted accountId now)
      (named : NamedBy t accountId claim m) :
      Moved setup w (.claimNext i locked) t i (.claimed claim)
  | unlimited (i : ι) (now : Time) (groupInterval : Int) (claim : ClaimedMessage)
      (phase : w.pipeline i = .claimed claim)
      (limit : rateLimitDelay (setup.options i) w.outbox claim now groupInterval ≤ 0) :
      Moved setup w (.respectRateLimit i now groupInterval) w.outbox i (.paced claim)
  | limited (i : ι) (now : Time) (groupInterval : Int) (claim : ClaimedMessage)
      (phase : w.pipeline i = .claimed claim) :
      Moved setup w (.respectRateLimit i now groupInterval) w.outbox i
        (.delayed claim (rateLimitDelay (setup.options i) w.outbox claim now groupInterval))
  | extended (i : ι) (now : Time) (claim : ClaimedMessage) (delay : Int) (t : Outbox)
      (phase : w.pipeline i = .delayed claim delay) :
      Moved setup w (.extendClaimLease i now) t i (.paced claim)
  | guarded (i : ι) (claim : ClaimedMessage) (phase : w.pipeline i = .paced claim) :
      Moved setup w (.authorizationGuard i) w.outbox i
        (.guarded claim.id (fenceOf w.outbox claim.id))
  | prepared (i : ι) (now policyNow : Time) (id : UUID) (fence : Option UUID) (t : Outbox)
      (send : PreparedSend) (m m' : OutboxMessage) (phase : w.pipeline i = .guarded id fence)
      (prepared : PreparedBy w.around policyNow w.outbox t id send m m')
      (target : send.request.toWxid = m.targetWxid) :
      Moved setup w (.prepareSend i now policyNow) t i (.prepared send fence)
  | posting (i : ι) (send : PreparedSend) (fence : Option UUID) (call : Nat)
      (phase : w.pipeline i = .prepared send fence) :
      Moved setup w (.startPost i) w.outbox i (.posting send fence call)
  | unposted (i : ι) (outcome : PostOutcome) (send : PreparedSend) (fence : Option UUID)
      (phase : w.pipeline i = .prepared send fence) :
      Moved setup w (.failBeforePost i outcome) w.outbox i (.posted send fence outcome)
  | posted (i : ι) (outcome : PostOutcome) (send : PreparedSend) (fence : Option UUID) (call : Nat)
      (phase : w.pipeline i = .posting send fence call) :
      Moved setup w (.endPost i outcome) w.outbox i (.posted send fence outcome)

/-- A step moves its task, or it moves nobody; a task that acts and stays leaves the outbox
as it was. -/
def Moves [DecidableEq ι] (setup : Setup ι) (w w' : World ι κ) (a : SenderSystem.Action ι κ) : Prop :=
  (w'.pipeline = w.pipeline ∧ ∀ i, actor a = some i → a ≠ .startPost i ∧ w'.outbox = w.outbox) ∨
    ∃ i phase, w'.pipeline = Function.update w.pipeline i phase ∧ actor a = some i ∧
      Moved setup w a w'.outbox i phase

variable {w' : World ι κ}

/-- A claim names a row of the account that was counted. -/
theorem claimNext_moves [DecidableEq ι] {i : ι} {locked : UUID → Bool}
    (h : w.claimNext setup i locked = some w') :
    Moves setup w w' (.claimNext i locked) := by
  unfold World.claimNext at h
  split at h
  · rename_i accountId now hphase
    split at h
    · rename_i t claim hok
      cases h
      obtain ⟨m, hnamed⟩ := claimLoop_names hok
      exact .inr ⟨i, _, rfl, rfl, .claimed i locked accountId now claim t m hphase hnamed⟩
    · cases h
      exact .inr ⟨i, _, rfl, rfl, .retired _ _ i rfl⟩
    · cases h
      exact .inr ⟨i, _, rfl, rfl, .retired _ _ i rfl⟩
  · cases h

/-- The limiter lets the claim through, or sets a delay. -/
theorem respectRateLimit_moves [DecidableEq ι] {i : ι} {now : Time} {groupInterval : Int}
    (h : w.respectRateLimit setup i now groupInterval = some w') :
    Moves setup w w' (.respectRateLimit i now groupInterval) := by
  unfold World.respectRateLimit at h
  split at h
  · rename_i claim hphase
    dsimp only at h
    split at h
    · rename_i hlimit
      cases h
      exact .inr ⟨i, _, rfl, rfl, .unlimited i now groupInterval claim hphase hlimit⟩
    · cases h
      exact .inr ⟨i, _, rfl, rfl, .limited i now groupInterval claim hphase⟩
  · cases h

/-- A send that is prepared has its row in SENDING. -/
theorem prepareSend_moves [DecidableEq ι] [Fintype ι] {i : ι} {now policyNow : Time}
    (h : w.prepareSend setup i now policyNow = some w') :
    Moves setup w w' (.prepareSend i now policyNow) := by
  unfold World.prepareSend at h
  split at h
  · rename_i id fence hphase
    split at h
    · split at h
      · rename_i t send hok
        cases h
        obtain ⟨m, m', hprepared⟩ := prepareSend_some hok
        obtain ⟨n, hn, htarget⟩ := prepareSend_target hok
        obtain rfl : m = n := Option.some.inj (hprepared.found.symm.trans hn)
        exact .inr ⟨i, _, rfl, rfl,
          .prepared i now policyNow id fence t send m m' hphase hprepared htarget⟩
      · cases h
        exact .inr ⟨i, _, rfl, rfl, .leaving _ _ i fence rfl⟩
      · cases h
        exact .inr ⟨i, _, rfl, rfl, .retired _ _ i rfl⟩
    · cases h
  · cases h

theorem commit_pipeline {ε : Type} (w : World ι κ) (result : Except ε Outbox) :
    (w.commit result).pipeline = w.pipeline := by
  cases result with
  | ok t => rfl
  | error e => rfl

/-- A step of no task that leaves the tasks where they are. -/
theorem quiet_moves [DecidableEq ι] (hnone : actor a = none)
    (hpipeline : w'.pipeline = w.pipeline) :
    Moves setup w w' a :=
  .inl ⟨hpipeline, fun i hi => absurd (hnone.symm.trans hi) (fun h => by cases h)⟩

theorem lockAccount_moves [DecidableEq ι] [Fintype ι] {i : ι} {accountId : UUID} {now : Time}
    (h : w.lockAccount i accountId now = some w') :
    Moves setup w w' (.lockAccount i accountId now) := by
  unfold World.lockAccount at h
  split at h
  · split at h
    · -- the account is locked by another task, and this one looks at the next
      cases h
      left
      refine ⟨rfl, ?_⟩
      intro j _
      exact ⟨(fun h => by cases h), rfl⟩
    · cases h
      exact .inr ⟨i, _, rfl, rfl, .locked i accountId now⟩
  · cases h

theorem countInFlight_moves [DecidableEq ι] {i : ι} (h : w.countInFlight i = some w') :
    Moves setup w w' (.countInFlight i) := by
  unfold World.countInFlight at h
  split at h
  · rename_i accountId now hphase
    split at h
    · rename_i hlanded
      cases h
      exact .inr ⟨i, _, rfl, rfl, .counted i accountId now hphase hlanded⟩
    · cases h
      exact .inr ⟨i, _, rfl, rfl, .retired _ _ i rfl⟩
  · cases h

theorem extendClaimLease_moves [DecidableEq ι] {i : ι} {now : Time}
    (h : w.extendClaimLease setup i now = some w') :
    Moves setup w w' (.extendClaimLease i now) := by
  unfold World.extendClaimLease at h
  split at h
  · rename_i claim delay hphase
    cases h
    exact .inr ⟨i, _, rfl, rfl, .extended i now claim delay _ hphase⟩
  · cases h

theorem authorizationGuard_moves [DecidableEq ι] [Fintype κ] {i : ι}
    (h : w.authorizationGuard i = some w') :
    Moves setup w w' (.authorizationGuard i) := by
  unfold World.authorizationGuard at h
  split at h
  · rename_i claim hphase
    split at h
    · cases h
      exact .inr ⟨i, _, rfl, rfl, .guarded i claim hphase⟩
    · cases h
  · cases h

theorem startPost_moves [DecidableEq ι] {i : ι} (h : w.startPost i = some w') :
    Moves setup w w' (.startPost i) := by
  unfold World.startPost at h
  split at h
  · rename_i send fence hphase
    cases h
    exact .inr ⟨i, _, rfl, rfl, .posting i send fence _ hphase⟩
  · cases h

theorem failBeforePost_moves [DecidableEq ι] {i : ι} {outcome : PostOutcome}
    (h : w.failBeforePost i outcome = some w') : Moves setup w w' (.failBeforePost i outcome) := by
  unfold World.failBeforePost at h
  split at h
  · rename_i send fence hphase
    split at h
    · cases h
    · cases h
      exact .inr ⟨i, _, rfl, rfl, .unposted i outcome send fence hphase⟩
  · cases h

theorem endPost_moves [DecidableEq ι] {i : ι} {outcome : PostOutcome}
    (h : w.endPost i outcome = some w') :
    Moves setup w w' (.endPost i outcome) := by
  unfold World.endPost at h
  split at h
  · rename_i send fence call hphase
    cases h
    exact .inr ⟨i, _, rfl, rfl, .posted i outcome send fence call hphase⟩
  · cases h

theorem finish_moves [DecidableEq ι] {i : ι} {now : Time} {jitter : Int}
    (h : w.finish setup i now jitter = some w') :
    Moves setup w w' (.finish i now jitter) := by
  unfold World.finish at h
  split at h
  · split at h
    · cases h
      exact .inr ⟨i, _, rfl, rfl, .leaving _ _ i _ rfl⟩
    · cases h
      exact .inr ⟨i, _, rfl, rfl, .retired _ _ i rfl⟩
  · cases h

theorem leaveGuard_moves [DecidableEq ι] {i : ι} (h : w.leaveGuard i = some w') :
    Moves setup w w' (.leaveGuard i) := by
  unfold World.leaveGuard at h
  split at h
  · cases h
    exact .inr ⟨i, _, rfl, rfl, .retired _ _ i rfl⟩
  · cases h

/-- An administrator leaves the tasks alone. -/
theorem lockFence_pipeline [DecidableEq κ] [Fintype ι] [Fintype κ] {k : κ}
    (h : w.lockFence k = some w') : w'.pipeline = w.pipeline := by
  unfold World.lockFence at h
  split at h
  · split at h
    · cases h
    · split at h
      · cases h
        rfl
      · cases h
  · cases h

theorem commitRevocation_pipeline [DecidableEq κ] {k : κ} {now : Time}
    (h : w.commitRevocation k now = some w') :
    w'.pipeline = w.pipeline := by
  unfold World.commitRevocation at h
  split at h
  · cases h
  · split at h
    · cases h
      rfl
    · cases h
  · cases h
    rfl

/-- What a step does to the tasks, operation by operation. -/
theorem step_moves [DecidableEq ι] [DecidableEq κ] [Fintype ι] [Fintype κ]
    (h : step setup w a = some w') : Moves setup w w' a := by
  cases a with
  | enqueue request now id =>
    cases h
    exact quiet_moves rfl (commit_pipeline _ _)
  | recoverExpiredLeases now ids =>
    simp only [step] at h
    split at h
    · cases h
      exact quiet_moves rfl (commit_pipeline _ _)
    · cases h
  | cancelMessage id reason now =>
    simp only [step] at h
    split at h
    · cases h
      exact quiet_moves rfl (commit_pipeline _ _)
    · cases h
  | reconcileUnknown id resolution reason now =>
    simp only [step] at h
    split at h
    · cases h
      exact quiet_moves rfl (commit_pipeline _ _)
    · cases h
  | lockAccount i accountId now => exact lockAccount_moves h
  | countInFlight i => exact countInFlight_moves h
  | claimNext i locked => exact claimNext_moves h
  | respectRateLimit i now groupInterval => exact respectRateLimit_moves h
  | extendClaimLease i now => exact extendClaimLease_moves h
  | authorizationGuard i => exact authorizationGuard_moves h
  | prepareSend i now policyNow => exact prepareSend_moves h
  | startPost i => exact startPost_moves h
  | failBeforePost i outcome => exact failBeforePost_moves h
  | endPost i outcome => exact endPost_moves h
  | finish i now jitter => exact finish_moves h
  | leaveGuard i => exact leaveGuard_moves h
  | crash i =>
    cases h
    exact .inr ⟨i, _, rfl, rfl, .retired _ _ i rfl⟩
  | beginRevocation k revocation =>
    simp only [step, World.beginRevocation] at h
    split at h
    · cases h
      exact quiet_moves rfl rfl
    · cases h
  | lockFence k => exact quiet_moves rfl (lockFence_pipeline h)
  | commitRevocation k now => exact quiet_moves rfl (commitRevocation_pipeline h)
  | rollbackRevocation k =>
    cases h
    exact quiet_moves rfl rfl
  | change change =>
    simp only [step, Option.map_eq_some_iff] at h
    obtain ⟨around, -, rfl⟩ := h
    exact quiet_moves rfl rfl

def Past (posts : List Post) (accountId : UUID) (now : Time) : Prop :=
  ∀ post ∈ posts, post.accountId = accountId → post.startedAt ≤ now

/-- What the phase of a task says about its account. -/
def PhaseOk (accountId : UUID) (t : Outbox) (posts : List Post) : Phase → Prop
  | .accountLocked id now => id = accountId ∧ Past posts accountId now
  | .counted id now => id = accountId ∧ Past posts accountId now ∧ NoSending t accountId
  | .claimed claim => claim.botAccountId = accountId ∧ NoSending t accountId ∧
      Row t accountId claim.id fun m => m.targetWxid = claim.targetWxid
  | .delayed claim _ => claim.botAccountId = accountId ∧ NoSending t accountId ∧
      Row t accountId claim.id fun m => m.targetWxid = claim.targetWxid
  | .paced claim => claim.botAccountId = accountId ∧ NoSending t accountId ∧
      Row t accountId claim.id fun m => m.targetWxid = claim.targetWxid
  | .guarded id _ => NoSending t accountId ∧ Row t accountId id fun _ => True
  | .prepared send _ => send.botAccountId = accountId ∧ Row t accountId send.messageId fun m =>
      m.targetWxid = send.request.toWxid ∧ 0 < m.attemptCount ∧ m.status = .SENDING
  | .posting send _ _ => Row t accountId send.messageId fun _ => True
  | .posted send _ _ => Row t accountId send.messageId fun _ => True
  | _ => True

/-- The promise that a task has until its call starts: a call at any later instant fits the
calls before it. -/
def Promised (Fits : List Post → Post → Prop) (accountId : UUID) (t : Outbox) (posts : List Post)
    (last wake : Time) : Phase → Prop
  | .delayed claim delay => ∀ at_, last + delay ≤ at_ →
      Fits posts ⟨accountId, claim.id, claim.targetWxid, at_⟩
  | .paced claim => ∀ at_, last ≤ at_ → wake ≤ at_ →
      Fits posts ⟨accountId, claim.id, claim.targetWxid, at_⟩
  | .guarded id _ => ∀ m, t.find id = some m → ∀ at_, last ≤ at_ →
      Fits posts ⟨accountId, id, m.targetWxid, at_⟩
  | .prepared send _ => ∀ at_, last ≤ at_ →
      Fits posts ⟨accountId, send.messageId, send.request.toWxid, at_⟩
  | _ => True

/-- The row of a started call. -/
structure PostRow (t : Outbox) (post : Post) (m : OutboxMessage) : Prop where
  found : t.find post.messageId = some m
  account : m.botAccountId = post.accountId
  target : m.targetWxid = post.targetWxid
  attempted : 0 < m.attemptCount
  noted : post.startedAt ≤ m.updatedAt ∨ m.status = .SENDING
  leased : m.status = .CLAIMED → post.startedAt ≤ m.availableAt

/-- Calls in the order of their starts, each of which fits the ones before it. -/
inductive Admitted (Fits : List Post → Post → Prop) : List Post → Prop where
  | nil : Admitted Fits []
  | snoc {posts : List Post} {post : Post} (before : Admitted Fits posts)
      (later : ∀ other ∈ posts, other.startedAt ≤ post.startedAt) (fits : Fits posts post) :
      Admitted Fits (posts ++ [post])

structure Paced (worker : Worker ι) (Fits : List Post → Post → Prop) (s : Clocked ι κ) : Prop where
  lastLe : ∀ i, s.last i ≤ s.clock
  row : ∀ post ∈ s.posts, ∃ m, PostRow s.world.outbox post m
  owner : ∀ post ∈ s.posts, ∃ i, post.accountId = worker.serves i ∧ post.startedAt ≤ s.last i
  phase : ∀ i, PhaseOk (worker.serves i) s.world.outbox s.posts (s.world.pipeline i)
  promised : ∀ i, Promised Fits (worker.serves i) s.world.outbox s.posts (s.last i) (s.wake i)
    (s.world.pipeline i)
  admitted : Admitted Fits s.posts

/-- No lease of a SENDING row is recovered before the call of its attempt has started. -/
def RecoveredAfterStart (s : Clocked ι κ) (tick : Tick ι κ) : Prop :=
  ∀ now ids, tick.action = .recoverExpiredLeases now ids → ∀ id ∈ ids, ∀ m,
    s.world.outbox.find id = some m → m.status = .SENDING →
      (∀ i send fence, s.world.pipeline i = .prepared send fence → send.messageId ≠ id) ∧
      ∀ post ∈ s.posts, post.messageId = id → post.startedAt ≤ now

variable {worker : Worker ι} {Fits : List Post → Post → Prop} {s s' : Clocked ι κ} {tick : Tick ι κ}

/-- All calls of an account lie before the last instant of its task. -/
theorem Paced.past (hs : Paced worker Fits s) (i : ι) :
    Past s.posts (worker.serves i) (s.last i) := by
  intro post hpost haccount
  obtain ⟨j, hj, hle⟩ := hs.owner post hpost
  have hsame : j = i := worker.distinct (hj.symm.trans haccount)
  exact hsame ▸ hle

/-- The reading that a transaction stamps into the row of a started call. -/
theorem stamp_covers (hs : Paced worker Fits s) (htimely : Timely worker s tick)
    (hrecovered : RecoveredAfterStart s tick)
    (h : Written worker.setup s.world tick.action t) {post : Post} (hpost : post ∈ s.posts)
    {m m' : OutboxMessage} (hrow : PostRow s.world.outbox post m)
    (hm' : t.find post.messageId = some m') :
    m' = m ∨ ∃ edges now, Stamped edges now m m' ∧ post.startedAt ≤ now := by
  have hkey : m.id = post.messageId := Table.find_key hrow.found
  have hchange : ∀ {R : OutboxMessage → OutboxMessage → Prop}, Rewrites R s.world.outbox t →
      (R m m' → ∃ edges now, Stamped edges now m m' ∧ post.startedAt ≤ now) →
      m' = m ∨ ∃ edges now, Stamped edges now m m' ∧ post.startedAt ≤ now := by
    intro R hrewrites hR
    obtain ⟨b, hb, hchange⟩ := hrewrites.kept _ m hrow.found
    rw [hm'] at hb
    cases hb
    exact hchange.imp_right hR
  have hlocked : ∀ {now : Time}, m.updatedAt ≤ now → m.status ≠ .SENDING → post.startedAt ≤ now := by
    intro now hle hother
    rcases hrow.noted with hnoted | hsending
    · exact hnoted.trans hle
    · exact absurd hsending hother
  have hown : ∀ {i : ι} {id : UUID} {P : OutboxMessage → Prop} {now : Time},
      Row s.world.outbox (worker.serves i) id P → m.id = id → Reads s tick i now →
      post.startedAt ≤ now := by
    rintro i id P now ⟨n, hn, haccount, -⟩ hid hreads
    rw [← hid, hkey, hrow.found] at hn
    obtain rfl := Option.some.inj hn
    exact (hs.past i post hpost (hrow.account.symm.trans haccount)).trans hreads.1
  obtain ⟨-, hontime⟩ := htimely
  rcases tick with ⟨instant, action⟩
  dsimp only at h hontime
  cases h with
  | untouched => exact .inl (Option.some.inj (hm'.symm.trans hrow.found))
  | enqueued _ _ _ _ _ insert =>
    exact .inl (Option.some.inj (hm'.symm.trans (Table.insert_keeps insert hrow.found)))
  | recovered now ids _ due rewrites =>
    apply hchange rewrites
    rintro ⟨hmem, hstamped⟩
    refine ⟨_, now, hstamped, ?_⟩
    have hedge := hstamped.edge
    by_cases hsending : m.status = .SENDING
    · exact (hrecovered now ids rfl m.id hmem m (hkey ▸ hrow.found) hsending).2 post hpost hkey.symm
    · have hclaimed : m.status = .CLAIMED := by
        cases hstatus : m.status <;> simp_all [recoveryEdges]
      simp only [recoverable, Bool.and_eq_true, List.all_eq_true] at due
      have hexpired := due.2 m.id hmem
      rw [hkey, hrow.found] at hexpired
      simp only [Option.any_some, leaseExpired, Bool.and_eq_true, decide_eq_true_eq] at hexpired
      exact (hrow.leased hclaimed).trans hexpired.2
  | cancelled id _ now _ rewrites =>
    apply hchange rewrites
    rintro ⟨hid, hstamped⟩
    refine ⟨_, now, hstamped, hlocked (hontime.1 m ?_) ?_⟩
    · rw [← hid, hkey]
      exact hrow.found
    · intro hsending
      have hedge := hstamped.edge
      rw [hsending] at hedge
      cases hstatus : m'.status <;> rw [hstatus] at hedge <;> revert hedge <;> decide
  | reconciled id _ _ now _ rewrites =>
    apply hchange rewrites
    rintro ⟨hid, hstamped⟩
    refine ⟨_, now, hstamped, hlocked (hontime.1 m ?_) ?_⟩
    · rw [← hid, hkey]
      exact hrow.found
    · intro hsending
      have hedge := hstamped.edge
      rw [hsending] at hedge
      cases hstatus : m'.status <;> rw [hstatus] at hedge <;> revert hedge <;> decide
  | claimed i _ accountId now _ phase rewrites =>
    apply hchange rewrites
    rintro ⟨haccount, hstamped⟩
    have hphase := hs.phase i
    rw [phase] at hphase
    obtain ⟨rfl, hpast, -⟩ := hphase
    exact ⟨_, now, hstamped, hpast post hpost (hrow.account.symm.trans haccount)⟩
  | extended i now claim delay _ phase rewrites =>
    apply hchange rewrites
    rintro ⟨hid, hstamped⟩
    have hphase := hs.phase i
    rw [phase] at hphase
    exact ⟨_, now, hstamped, hown hphase.2.2 hid hontime⟩
  | prepared i now policyNow id fence _ phase rewrites =>
    apply hchange rewrites
    rintro ⟨hid, hstamped⟩
    have hphase := hs.phase i
    rw [phase] at hphase
    exact ⟨_, now, hstamped, hown hphase.2 hid hontime.1⟩
  | finished i now jitter send fence outcome _ phase rewrites =>
    apply hchange rewrites
    rintro ⟨hid, -, hstamped⟩
    have hphase := hs.phase i
    rw [phase] at hphase
    exact ⟨_, now, hstamped, hown hphase hid hontime⟩

def FitsOther (Fits : List Post → Post → Prop) : Prop :=
  ∀ posts post new, (∀ other ∈ new, other.accountId ≠ post.accountId) →
    Fits posts post → Fits (posts ++ new) post

/-- What is known of a row, and survives every write, is known after the step. -/
theorem row_kept {accountId id : UUID} {P : OutboxMessage → Prop} (hwritten : Written setup w a t)
    (hP : ∀ m m', Kept m m' → P m → P m') (h : Row w.outbox accountId id P) :
    Row t accountId id P := by
  obtain ⟨m, hm, haccount, hrow⟩ := h
  obtain ⟨m', hm', hkept⟩ := written_row hwritten hm
  exact ⟨m', hm', hkept.account.trans haccount, hP m m' hkept hrow⟩

/-- The calls of other accounts do not count. -/
theorem past_append {posts new : List Post} {accountId : UUID} {now : Time}
    (h : Past posts accountId now) (hnew : ∀ post ∈ new, post.accountId ≠ accountId) :
    Past (posts ++ new) accountId now := by
  intro post hpost haccount
  rcases List.mem_append.mp hpost with hold | hlast
  · exact h post hold haccount
  · exact absurd haccount (hnew post hlast)

/-- A phase stays sound while another task steps. -/
theorem phaseOk_kept {accountId : UUID} {posts new : List Post} {phase : Phase}
    (hphase : PhaseOk accountId w.outbox posts phase) (hwritten : Written setup w a t)
    (hnosending : NoSending w.outbox accountId → NoSending t accountId)
    (hsending : ∀ send fence, phase = .prepared send fence → ∀ m,
      w.outbox.find send.messageId = some m → m.botAccountId = accountId → m.status = .SENDING →
        t.find send.messageId = some m)
    (hnew : ∀ post ∈ new, post.accountId ≠ accountId) :
    PhaseOk accountId t (posts ++ new) phase := by
  have htarget : ∀ {id : UUID} {target : Str},
      Row w.outbox accountId id (fun m => m.targetWxid = target) →
        Row t accountId id fun m => m.targetWxid = target := fun hrow =>
    row_kept hwritten (fun m m' hkept hm => hkept.target.trans hm) hrow
  cases phase with
  | idle => trivial
  | accountLocked id now => exact ⟨hphase.1, past_append hphase.2 hnew⟩
  | counted id now => exact ⟨hphase.1, past_append hphase.2.1 hnew, hnosending hphase.2.2⟩
  | claimed claim => exact ⟨hphase.1, hnosending hphase.2.1, htarget hphase.2.2⟩
  | delayed claim delay => exact ⟨hphase.1, hnosending hphase.2.1, htarget hphase.2.2⟩
  | paced claim => exact ⟨hphase.1, hnosending hphase.2.1, htarget hphase.2.2⟩
  | guarded id fence => exact ⟨hnosending hphase.1, row_kept hwritten (fun _ _ _ h => h) hphase.2⟩
  | prepared send fence =>
    obtain ⟨haccount, m, hm, howner, htarget, hattempt, hstatus⟩ := hphase
    exact ⟨haccount, m, hsending send fence rfl m hm howner hstatus, howner, htarget, hattempt, hstatus⟩
  | posting send fence call => exact row_kept hwritten (fun _ _ _ h => h) hphase
  | posted send fence outcome => exact row_kept hwritten (fun _ _ _ h => h) hphase
  | leaving fence => trivial

/-- The promise of a delay survives the steps of the other tasks. -/
theorem promised_kept {accountId : UUID} {posts new : List Post} {last last' wake wake' : Time}
    {phase : Phase} (hother : FitsOther Fits)
    (hphase : PhaseOk accountId w.outbox posts phase) (hwritten : Written setup w a t)
    (hnew : ∀ post ∈ new, post.accountId ≠ accountId) (hlast : last ≤ last')
    (hwake : wake' = wake ∨ ∃ claim delay, phase = .delayed claim delay)
    (h : Promised Fits accountId w.outbox posts last wake phase) :
    Promised Fits accountId t (posts ++ new) last' wake' phase := by
  cases phase with
  | delayed claim delay =>
    intro at_ hat
    exact hother _ _ _ hnew (h at_ (by linarith))
  | paced claim =>
    rcases hwake with rfl | ⟨_, _, habsurd⟩
    · intro at_ hat hwake
      exact hother _ _ _ hnew (h at_ (hlast.trans hat) hwake)
    · cases habsurd
  | guarded id fence =>
    intro m' hm' at_ hat
    obtain ⟨-, m, hm, -, -⟩ := hphase
    obtain ⟨n, hn, hkept⟩ := written_row hwritten hm
    obtain rfl : m' = n := Option.some.inj (hm'.symm.trans hn)
    rw [hkept.target]
    exact hother _ _ _ hnew (h m hm at_ (hlast.trans hat))
  | prepared send fence =>
    intro at_ hat
    exact hother _ _ _ hnew (h at_ (hlast.trans hat))
  | _ => trivial

variable (worker Fits s tick) in
/-- What the limiter owes: after the delay a call fits the ones before it. -/
def Limits : Prop :=
  ∀ i now groupInterval claim, tick.action = .respectRateLimit i now groupInterval →
    s.world.pipeline i = .claimed claim → ∀ at_,
      now + rateLimitDelay worker.options s.world.outbox claim now groupInterval ≤ at_ →
        Fits s.posts ⟨worker.serves i, claim.id, claim.targetWxid, at_⟩

/-- The phase that a step leads to is sound. -/
theorem moved_phase (hs : Paced worker Fits s) (htimely : Timely worker s tick)
    (hwritten : Written worker.setup s.world tick.action t) {i : ι} {phase : Phase}
    (hmoved : Moved worker.setup s.world tick.action t i phase) :
    PhaseOk (worker.serves i) t (s.posts ++ started s tick) phase := by
  obtain ⟨-, hontime⟩ := htimely
  have hphase := hs.phase i
  rcases tick with ⟨instant, action⟩
  dsimp only at hmoved hontime hwritten
  cases hmoved with
  | retired => trivial
  | leaving => trivial
  | locked i accountId now =>
    obtain ⟨rfl, hreads⟩ := hontime
    refine ⟨rfl, ?_⟩
    intro post hpost haccount
    rw [started, List.append_nil] at hpost
    exact (hs.past i post hpost haccount).trans hreads.1
  | counted i accountId now phase landed =>
    rw [phase] at hphase
    obtain ⟨rfl, hpast⟩ := hphase
    rw [started, List.append_nil]
    exact ⟨rfl, hpast, noSending_of_count landed⟩
  | claimed i locked accountId now claim t m phase named =>
    rw [phase] at hphase
    obtain ⟨rfl, -, hnone⟩ := hphase
    exact ⟨named.claimAccount, written_noSending hwritten nofun hnone, m, named.found, named.account,
      named.target⟩
  | unlimited i now groupInterval claim phase =>
    rw [phase] at hphase
    exact hphase
  | limited i now groupInterval claim phase =>
    rw [phase] at hphase
    exact hphase
  | extended i now claim delay t phase =>
    rw [phase] at hphase
    obtain ⟨haccount, hnone, hrow⟩ := hphase
    exact ⟨haccount, written_noSending hwritten nofun hnone,
      row_kept hwritten (fun _ _ hkept hm => hkept.target.trans hm) hrow⟩
  | guarded i claim phase =>
    rw [phase] at hphase
    obtain ⟨-, hnone, m, hm, haccount, -⟩ := hphase
    exact ⟨hnone, m, hm, haccount, trivial⟩
  | prepared i now policyNow id fence t send m m' phase prepared target =>
    rw [phase] at hphase
    obtain ⟨-, n, hn, haccount, -⟩ := hphase
    obtain rfl : n = m := Option.some.inj (hn.symm.trans prepared.found)
    have hkey : n.id = id := Table.find_key hn
    have hsaved : t.find id = some m' := by
      rw [prepared.saved, Table.find_save_of (prepared.same.id ▸ hkey ▸ hn), prepared.same.id, hkey,
        if_pos rfl]
    refine ⟨prepared.account.trans haccount, m', prepared.message ▸ hsaved,
      prepared.same.account.trans haccount, prepared.same.target.trans target.symm, ?_,
      prepared.sending⟩
    rw [prepared.attempt]
    omega
  | posting i send fence call phase =>
    rw [phase] at hphase
    obtain ⟨-, m, hm, haccount, -⟩ := hphase
    exact ⟨m, hm, haccount, trivial⟩
  | unposted i outcome send fence phase =>
    rw [phase] at hphase
    obtain ⟨-, m, hm, haccount, -⟩ := hphase
    exact ⟨m, hm, haccount, trivial⟩
  | posted i outcome send fence call phase =>
    rw [phase] at hphase
    exact hphase

/-- The phase that a step leads to keeps its promise at the instant of the step. -/
theorem moved_promised [DecidableEq ι] (hs : Paced worker Fits s) (htimely : Timely worker s tick)
    (hlimits : Limits worker Fits s tick) {i : ι} {phase : Phase}
    (hmoved : Moved worker.setup s.world tick.action t i phase) :
    Promised Fits (worker.serves i) t (s.posts ++ started s tick) tick.instant (slept s tick i)
      phase := by
  obtain ⟨hclock, hontime⟩ := htimely
  have hpromised := hs.promised i
  have hphase := hs.phase i
  have hlast := (hs.lastLe i).trans hclock
  rcases tick with ⟨instant, action⟩
  dsimp only at hmoved hontime hlast
  cases hmoved with
  | unlimited i now groupInterval claim phase limit =>
    intro at_ hat _
    rw [started, List.append_nil]
    have hlimit : rateLimitDelay worker.options s.world.outbox claim now groupInterval ≤ 0 := limit
    have hnow : now ≤ instant := hontime.1.2
    exact hlimits i now groupInterval claim rfl phase at_ (by dsimp only at hat; linarith)
  | limited i now groupInterval claim phase =>
    intro at_ hat
    rw [started, List.append_nil]
    have hnow : now ≤ instant := hontime.1.2
    have hwait : instant + rateLimitDelay worker.options s.world.outbox claim now groupInterval ≤ at_ :=
      hat
    exact hlimits i now groupInterval claim rfl phase at_ (by linarith)
  | extended i now claim delay t phase =>
    intro at_ _ hwake
    rw [started, List.append_nil]
    rw [phase] at hpromised
    have hslept : slept s ⟨instant, .extendClaimLease i now⟩ i = instant + delay := by
      simp [slept, phase]
    rw [hslept] at hwake
    exact hpromised at_ (by linarith)
  | guarded i claim phase =>
    intro m hm at_ hat
    rw [started, List.append_nil]
    rw [phase] at hpromised hphase
    obtain ⟨-, -, n, hn, -, htarget⟩ := hphase
    obtain rfl : m = n := Option.some.inj (hm.symm.trans hn)
    rw [htarget]
    exact hpromised at_ (hlast.trans hat) (hontime.trans hat)
  | prepared i now policyNow id fence t send m m' phase prepared target =>
    intro at_ hat
    rw [started, List.append_nil]
    rw [phase] at hpromised
    rw [prepared.message, target]
    exact hpromised m prepared.found at_ (hlast.trans hat)
  | _ => trivial

/-- The last instant of a task does not run back, nor ahead of the clock. -/
theorem stamped_le [DecidableEq ι] (hs : Paced worker Fits s) (hclock : s.clock ≤ tick.instant)
    (i : ι) :
    s.last i ≤ stamped s tick i ∧ stamped s tick i ≤ tick.instant := by
  have hlast := (hs.lastLe i).trans hclock
  cases hj : actor tick.action with
  | none =>
    have hsame : stamped s tick = s.last := by
      simp only [stamped, hj]
    rw [hsame]
    exact ⟨le_refl _, hlast⟩
  | some j =>
    have hupdate : stamped s tick = Function.update s.last j tick.instant := by
      simp only [stamped, hj]
    rw [hupdate]
    by_cases hij : i = j
    · subst hij
      rw [Function.update_self]
      exact ⟨hlast, le_refl _⟩
    · rw [Function.update_of_ne hij]
      exact ⟨le_refl _, hlast⟩

theorem slept_other [DecidableEq ι] (i : ι) :
    slept s tick i = s.wake i ∨ ∃ claim delay, s.world.pipeline i = .delayed claim delay := by
  rcases tick with ⟨instant, action⟩
  cases action with
  | extendClaimLease j now =>
    cases hphase : s.world.pipeline j with
    | delayed claim delay =>
      have hupdate : slept s ⟨instant, .extendClaimLease j now⟩ =
          Function.update s.wake j (instant + delay) := by
        simp only [slept, hphase]
      rw [hupdate]
      by_cases hij : i = j
      · exact .inr ⟨claim, delay, hij ▸ hphase⟩
      · exact .inl (Function.update_of_ne hij _ _)
    | _ =>
      left
      simp only [slept, hphase]
  | _ => exact .inl rfl

/-- A call that starts is the one that its task has prepared. -/
theorem mem_started {post : Post} (h : post ∈ started s tick) :
    ∃ i send fence, tick.action = .startPost i ∧ s.world.pipeline i = .prepared send fence ∧
      post = ⟨send.botAccountId, send.messageId, send.request.toWxid, tick.instant⟩ := by
  unfold started at h
  split at h
  · rename_i i haction
    split at h
    · rename_i send fence hphase
      exact ⟨i, send, fence, haction, hphase, by simpa using h⟩
    · cases h
  · cases h

/-- A call that starts is made by the task that serves its account. -/
theorem started_owner (hs : Paced worker Fits s) {post : Post} (h : post ∈ started s tick) :
    ∃ i, actor tick.action = some i ∧ post.accountId = worker.serves i ∧
      post.startedAt = tick.instant := by
  obtain ⟨i, send, fence, haction, hphase, rfl⟩ := mem_started h
  have hok := hs.phase i
  rw [hphase] at hok
  exact ⟨i, by rw [haction]; rfl, hok.1, rfl⟩

theorem unmoved_phase [DecidableEq ι] (hother : FitsOther Fits) (hs : Paced worker Fits s)
    (hclock : s.clock ≤ tick.instant) (hrecovered : RecoveredAfterStart s tick)
    (hwritten : Written worker.setup s.world tick.action t) {j : ι}
    (hj : actor tick.action ≠ some j ∨ t = s.world.outbox)
    (hnew : ∀ post ∈ started s tick, post.accountId ≠ worker.serves j) :
    PhaseOk (worker.serves j) t (s.posts ++ started s tick) (s.world.pipeline j) ∧
      Promised Fits (worker.serves j) t (s.posts ++ started s tick) (stamped s tick j)
        (slept s tick j) (s.world.pipeline j) := by
  have hrow : ∀ {i : ι} {id : UUID} {P : OutboxMessage → Prop} {m : OutboxMessage},
      actor tick.action = some i → t ≠ s.world.outbox → Row s.world.outbox (worker.serves i) id P →
        s.world.outbox.find id = some m → m.botAccountId ≠ worker.serves j := by
    rintro i id P m hi hchanged ⟨n, hn, haccount, -⟩ hm hsame
    obtain rfl := Option.some.inj (hm.symm.trans hn)
    have hij : i = j := worker.distinct (haccount.symm.trans hsame)
    rcases hj with hj | hsame
    · exact hj (hij ▸ hi)
    · exact hchanged hsame
  constructor
  · apply phaseOk_kept (hs.phase j) hwritten
    · intro hnone
      by_cases hchanged : t = s.world.outbox
      · exact hchanged ▸ hnone
      · apply written_noSending hwritten _ hnone
        intro i now policyNow id fence haction hphase m hm
        have hguarded := hs.phase i
        rw [hphase] at hguarded
        exact hrow (by rw [haction]; rfl) hchanged hguarded.2 hm
    · intro send fence hphase m hm haccount hsending
      by_cases hchanged : t = s.world.outbox
      · exact hchanged ▸ hm
      · apply written_sending hwritten hm hsending
        · intro now ids haction hmem
          exact (hrecovered now ids haction send.messageId hmem m hm hsending).1 j send fence hphase rfl
        · intro i now jitter other fence' outcome haction hposted hid
          have hok := hs.phase i
          rw [hposted] at hok
          exact hrow (by rw [haction]; rfl) hchanged hok (hid ▸ hm) haccount
    · exact hnew
  · exact promised_kept hother (hs.phase j) hwritten hnew (stamped_le hs hclock j).1 (slept_other j)
      (hs.promised j)

/-- A call that starts has its row. -/
theorem started_row (hs : Paced worker Fits s)
    (hwritten : Written worker.setup s.world tick.action t) {post : Post}
    (h : post ∈ started s tick) : ∃ m, PostRow t post m := by
  obtain ⟨i, send, fence, haction, hphase, rfl⟩ := mem_started h
  have hok := hs.phase i
  rw [hphase] at hok
  obtain ⟨haccount, m, hm, howner, htarget, hattempt, hsending⟩ := hok
  rw [haction] at hwritten
  cases hwritten with
  | untouched =>
    refine ⟨m, hm, howner.trans haccount.symm, htarget, hattempt, .inr hsending, ?_⟩
    rw [hsending]
    exact nofun

/-- The call that starts fits the ones before it. -/
theorem started_admitted (hs : Paced worker Fits s) (hclock : s.clock ≤ tick.instant) :
    Admitted Fits (s.posts ++ started s tick) := by
  cases hnew : started s tick with
  | nil =>
    rw [List.append_nil]
    exact hs.admitted
  | cons post rest =>
    have hmem : post ∈ started s tick := by
      rw [hnew]
      exact List.mem_cons_self
    obtain ⟨i, send, fence, haction, hphase, rfl⟩ := mem_started hmem
    have hrest : rest = [] := by
      simpa [started, haction, hphase] using hnew.symm
    rw [hrest]
    apply hs.admitted.snoc
    · intro other hother
      obtain ⟨j, -, hle⟩ := hs.owner other hother
      exact hle.trans ((hs.lastLe j).trans hclock)
    · have hok := hs.phase i
      have hpromised := hs.promised i
      rw [hphase] at hok hpromised
      rw [hok.1]
      exact hpromised tick.instant ((hs.lastLe i).trans hclock)

/-- A step keeps the pace of every account. -/
theorem paced_step [DecidableEq ι] [DecidableEq κ] [Fintype ι] [Fintype κ]
    (hother : FitsOther Fits) (hs : Paced worker Fits s)
    (hrecovered : RecoveredAfterStart s tick) (hlimits : Limits worker Fits s tick)
    (h : tickStep worker s tick = some s') : Paced worker Fits s' := by
  obtain ⟨htimely, world, hstep, rfl⟩ := tickStep_some.mp h
  have hwritten := step_written hstep
  have hclock := htimely.1
  have hphases : ∀ j, PhaseOk (worker.serves j) world.outbox (s.posts ++ started s tick)
      (world.pipeline j) ∧ Promised Fits (worker.serves j) world.outbox (s.posts ++ started s tick)
        (stamped s tick j) (slept s tick j) (world.pipeline j) := by
    intro j
    rcases step_moves hstep with ⟨hpipeline, hquiet⟩ | ⟨i, phase, hpipeline, hacts, hmoved⟩
    · rw [hpipeline]
      apply unmoved_phase hother hs hclock hrecovered hwritten
      · by_cases hj : actor tick.action = some j
        · exact .inr (hquiet j hj).2
        · exact .inl hj
      · intro post hpost
        obtain ⟨i, send, fence, haction, -, -⟩ := mem_started hpost
        exact absurd haction (hquiet i (by rw [haction]; rfl)).1
    · rw [hpipeline]
      by_cases hij : j = i
      · subst hij
        have hnow : stamped s tick j = tick.instant := by
          simp [stamped, hacts]
        rw [Function.update_self, hnow]
        exact ⟨moved_phase hs htimely hwritten hmoved, moved_promised hs htimely hlimits hmoved⟩
      · rw [Function.update_of_ne hij]
        apply unmoved_phase hother hs hclock hrecovered hwritten
        · left
          intro hj
          exact hij (Option.some.inj (hj.symm.trans hacts))
        · intro post hpost hsame
          obtain ⟨k, hk, haccount, -⟩ := started_owner hs hpost
          have hki : k = i := Option.some.inj (hk.symm.trans hacts)
          exact hij (worker.distinct (hsame.symm.trans (hki ▸ haccount)))
  constructor
  · exact fun i => (stamped_le hs hclock i).2
  · intro post hpost
    rcases List.mem_append.mp hpost with hold | hnew
    · obtain ⟨m, hrow⟩ := hs.row post hold
      obtain ⟨m', hm', hkept⟩ := written_row hwritten hrow.found
      refine ⟨m', hm', hkept.account.trans hrow.account, hkept.target.trans hrow.target,
        hrow.attempted.trans_le hkept.attempts, ?_, ?_⟩
      · rcases stamp_covers hs htimely hrecovered hwritten hold hrow hm' with rfl | ⟨_, now, hst, hle⟩
        · exact hrow.noted
        · exact .inl (hst.updated ▸ hle)
      · intro hclaimed
        rcases stamp_covers hs htimely hrecovered hwritten hold hrow hm' with rfl | ⟨_, now, hst, hle⟩
        · exact hrow.leased hclaimed
        · exact hle.trans (hst.lease hclaimed)
    · exact started_row hs hwritten hnew
  · intro post hpost
    rcases List.mem_append.mp hpost with hold | hnew
    · obtain ⟨i, haccount, hle⟩ := hs.owner post hold
      exact ⟨i, haccount, hle.trans (stamped_le hs hclock i).1⟩
    · obtain ⟨i, hi, haccount, hat⟩ := started_owner hs hnew
      refine ⟨i, haccount, ?_⟩
      simp [stamped, hi, hat]
  · exact fun j => (hphases j).1
  · exact fun j => (hphases j).2
  · exact started_admitted hs hclock

end WechatBot.SenderPacing
