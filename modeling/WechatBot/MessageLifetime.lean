import Mathlib.Data.Fintype.Card
import WechatBot.AttemptCount
import WechatBot.SentContent

/-!
# The life of a message

A message is posted at most once for each attempt that its row counts, and no row that has
reached its end is written again.
-/
namespace WechatBot.MessageLifetime

open PyData Policy OutboxState OutboxService Sender SenderEffects SenderSystem SenderSteps
open OutboxStamps AttemptCount SentContent Provenance
open Tables (Table)
open Runs (run run_invariant run_history)

variable {ι κ : Type} [DecidableEq ι] [DecidableEq κ] [Fintype ι] [Fintype κ]
  {setup : Setup ι} {w w' : World ι κ} {a : SenderSystem.Action ι κ} {id : UUID}

/-- The attempts that the row of a message counts. -/
def attempts (t : Outbox) (id : UUID) : Nat := ((t.find id).map (·.attemptCount)).getD 0

theorem attempts_row {t : Outbox} {m : OutboxMessage} (hm : t.find id = some m) :
    attempts t id = m.attemptCount := by
  simp [attempts, hm]

theorem attempts_rewrites {R : OutboxMessage → OutboxMessage → Prop} {t t' : Outbox}
    (hR : ∀ m m', R m m' → m.attemptCount ≤ m'.attemptCount) (h : Rewrites R t t') (id : UUID) :
    attempts t id ≤ attempts t' id := by
  cases hm : t.find id with
  | none => simp [attempts, hm]
  | some m =>
    obtain ⟨m', hm', hchange⟩ := h.kept id m hm
    rw [attempts_row hm, attempts_row hm']
    rcases hchange with rfl | hchange
    · exact le_refl _
    · exact hR m m' hchange

theorem stamped_attempts {edges : Edges} {now : Time} {m m' : OutboxMessage}
    (h : Stamped edges now m m') : m.attemptCount ≤ m'.attemptCount := by
  rw [h.attempts]
  exact Nat.le_add_right _ _

omit [DecidableEq ι] [DecidableEq κ] [Fintype ι] [Fintype κ] in
/-- No write takes back an attempt. -/
theorem written_attempts {t : Outbox} (h : Written setup w a t) (id : UUID) :
    attempts w.outbox id ≤ attempts t id := by
  cases h with
  | untouched => exact le_refl _
  | enqueued _ _ _ _ m insert =>
    cases hm : w.outbox.find id with
    | none => simp [attempts, hm]
    | some m =>
      rw [attempts_row hm, attempts_row (Table.insert_keeps insert hm)]
  | recovered _ _ _ _ rewrites =>
    exact attempts_rewrites (fun _ _ hab => stamped_attempts hab.2) rewrites id
  | cancelled _ _ _ _ rewrites =>
    exact attempts_rewrites (fun _ _ hab => stamped_attempts hab.2) rewrites id
  | reconciled _ _ _ _ _ rewrites =>
    exact attempts_rewrites (fun _ _ hab => stamped_attempts hab.2) rewrites id
  | claimed _ _ _ _ _ _ rewrites =>
    exact attempts_rewrites (fun _ _ hab => stamped_attempts hab.2) rewrites id
  | extended _ _ _ _ _ _ rewrites =>
    exact attempts_rewrites (fun _ _ hab => stamped_attempts hab.2) rewrites id
  | prepared _ _ _ _ _ _ _ rewrites =>
    exact attempts_rewrites (fun _ _ hab => stamped_attempts hab.2) rewrites id
  | finished _ _ _ _ _ _ _ _ rewrites =>
    exact attempts_rewrites (fun _ _ hab => stamped_attempts hab.2.2) rewrites id

/-- A row saved with one more attempt counts one more. -/
theorem saved_attempts {t : Outbox} {id : UUID} {m m' : OutboxMessage} (hm : t.find id = some m)
    (hsame : SameAction m m') (hcount : m'.attemptCount = m.attemptCount + 1) :
    attempts (t.save m') id = attempts t id + 1 := by
  have hid : m.id = id := Table.find_key hm
  subst hid
  have hsaved := Table.find_save_of (t := t) (a := m') (hsame.id ▸ hm) m.id
  rw [if_pos hsame.id.symm] at hsaved
  rw [attempts_row hm, attempts_row hsaved, hcount]

/-- A preparation that lets a message through counts an attempt. -/
theorem prepared_attempts {i : ι} {now policyNow : Time} {send : PreparedSend}
    (h : step setup w (.prepareSend i now policyNow) = some w')
    (hready : readySend (w'.pipeline i) = some send) :
    attempts w.outbox send.messageId < attempts w'.outbox send.messageId := by
  change w.prepareSend setup i now policyNow = some w' at h
  unfold World.prepareSend at h
  split at h
  · split at h
    · split at h
      · rename_i t prepared hok
        obtain ⟨m, m', hprepared⟩ := prepareSend_some hok
        cases h
        rw [moveTo_self] at hready
        obtain rfl := Option.some.inj hready
        rw [moveTo_outbox, hprepared.saved, hprepared.message,
          saved_attempts hprepared.found hprepared.same hprepared.attempt]
        exact Nat.lt_succ_self _
      · cases h
        rw [moveTo_self] at hready
        cases hready
      · cases h
        rw [moveTo_self] at hready
        cases hready
    · cases h
  · cases h

/-- The slots that hold a send of the message. -/
def heldFor (id : UUID) (w : World ι κ) (k : Nat ⊕ ι) : Option PreparedSend :=
  (held w k).filter fun send => decide (send.messageId = id)

omit [DecidableEq ι] [DecidableEq κ] [Fintype ι] [Fintype κ] in
theorem heldFor_some {k : Nat ⊕ ι} {send : PreparedSend} :
    heldFor id w k = some send ↔ held w k = some send ∧ send.messageId = id := by
  simp [heldFor, Option.filter_eq_some_iff]

omit [DecidableEq κ] [Fintype ι] [Fintype κ] in
/-- A send that is gained is the message's own, or the message gains nothing. -/
theorem gains_for (id : UUID) {k : Nat ⊕ ι} {send : PreparedSend} (h : Gains (held w) (held w') k send) :
    (send.messageId = id ∧ Gains (heldFor id w) (heldFor id w') k send) ∨
      ∀ l other, heldFor id w' l = some other → heldFor id w l = some other := by
  have hold : ∀ l other, l ≠ k → heldFor id w' l = some other → heldFor id w l = some other := by
    intro l other hl hother
    obtain ⟨hheld, hid⟩ := heldFor_some.mp hother
    exact heldFor_some.mpr ⟨h.2 l other hl hheld, hid⟩
  by_cases hid : send.messageId = id
  · exact .inl ⟨hid, heldFor_some.mpr ⟨h.1, hid⟩, hold⟩
  · refine .inr fun l other hother => ?_
    by_cases hl : l = k
    · subst hl
      obtain ⟨hheld, hother'⟩ := heldFor_some.mp hother
      rw [h.1] at hheld
      exact absurd (Option.some.inj hheld ▸ hother') hid
    · exact hold l other hl hother

/-- Every send of the message has a number of its own below the attempts of the row. -/
def Numbered (id : UUID) (w : World ι κ) : Prop :=
  ∃ number, Traced (fun n _ => n < attempts w.outbox id) (heldFor id w) number

/-- A step keeps the sends of a message numbered by its attempts. -/
theorem numbered_step (hrunning : Running w) (hw : Numbered id w) (h : step setup w a = some w') :
    Numbered id w' := by
  obtain ⟨number, htraced⟩ := hw
  have hgrows := written_attempts (step_written h) id
  have hlater : Traced (fun n _ => n < attempts w'.outbox id) (heldFor id w) number :=
    htraced.mono fun n _ hn => hn.trans_le hgrows
  cases effect_passes (step_effect h) hrunning with
  | lost _ _ less =>
    refine ⟨number, hlater.lose fun k send hk => ?_⟩
    obtain ⟨hheld, hid⟩ := heldFor_some.mp hk
    exact heldFor_some.mpr ⟨less k send hheld, hid⟩
  | begun _ i send _ ready gains left =>
    rcases gains_for id gains with ⟨hid, hgains⟩ | hless
    · refine ⟨_, hlater.move (heldFor_some.mpr ⟨ready, hid⟩) hgains fun _ => ?_⟩
      rw [heldFor, left]
      rfl
    · exact ⟨number, hlater.lose hless⟩
  | made i now policyNow send _ gains =>
    rcases gains_for id gains with ⟨rfl, hgains⟩ | hless
    · -- the numbers given so far are below the count that this attempt raises
      have hcounted := prepared_attempts h gains.1
      refine ⟨_, hlater.make hgains hcounted fun k hk => ?_⟩
      obtain ⟨other, hother⟩ := Option.isSome_iff_exists.mp hk
      exact (htraced.known k other hother).ne
    · exact ⟨number, hlater.lose hless⟩

omit [DecidableEq ι] [DecidableEq κ] [Fintype ι] [Fintype κ] in
theorem running_start (around : Surroundings) :
    Running (atRest (Table.empty _) around : World ι κ) := by
  intro i send fence call hi
  cases hi

omit [DecidableEq ι] [DecidableEq κ] [Fintype ι] [Fintype κ] in
theorem numbered_start (id : UUID) (around : Surroundings) :
    Numbered id (atRest (Table.empty _) around : World ι κ) := by
  refine ⟨fun _ => 0, (traced_nothing _ _).lose fun k send hk => ?_⟩
  have hheld := (heldFor_some.mp hk).1
  cases k with
  | inl n => cases hheld
  | inr i => cases hheld

/-- The calls that post the message. -/
def postsOf (id : UUID) (w : World ι κ) : Finset (Fin w.calls.length) :=
  Finset.univ.filter fun n => (w.calls.get n).send.messageId = id

omit [DecidableEq ι] [DecidableEq κ] [Fintype ι] [Fintype κ] in
/-- A message has no more calls than attempts. -/
theorem posts_numbered (hw : Numbered id w) : (postsOf id w).card ≤ attempts w.outbox id := by
  obtain ⟨number, htraced⟩ := hw
  have hheld : ∀ n ∈ postsOf id w, heldFor id w (.inl n) = some (w.calls.get n).send := by
    intro n hn
    apply heldFor_some.mpr
    exact ⟨by simp [held], (Finset.mem_filter.mp hn).2⟩
  rw [← Finset.card_range (attempts w.outbox id)]
  apply Finset.card_le_card_of_injOn fun n : Fin w.calls.length => number (.inl n)
  · intro n hn
    exact Finset.mem_coe.mpr (Finset.mem_range.mpr (htraced.known _ _ (hheld n hn)))
  · intro n hn m hm heq
    have hsame := htraced.distinct (.inl n) (.inl m) (by rw [hheld n hn]; rfl)
      (by rw [hheld m hm]; rfl) heq
    exact Fin.ext (Sum.inl.inj hsame)

variable {sha256 : CanonicalAction → Str} {options : SenderOptions} {around : Surroundings}
  {actions : List (SenderSystem.Action ι κ)}

/-- The counts of a run without its ghosts are balanced too. -/
theorem run_balanced (hrun : run (step (equalSetup ι sha256 options))
    (atRest (Table.empty _) around) actions = some w) :
    ∃ sendings, Balanced options w.outbox sendings := by
  apply run_invariant (fun v : World ι κ => ∃ sendings, Balanced options v.outbox sendings) _
    ⟨_, balanced_start options⟩ hrun
  rintro v a v' ⟨sendings, hv⟩ hstep
  have hcounted : countedStep (equalSetup ι sha256 options) ⟨v, sendings⟩ a = some
      ⟨v', fun id => sendings id + (entered v.outbox v'.outbox id).toNat⟩ := by
    simp [countedStep, hstep]
  exact ⟨_, balanced_step hv hcounted⟩

/-- Workers with equal options post a message no more often than its row counts attempts,
and that is no more often than the options allow. -/
theorem posts_within_attempts (id : UUID) (hrun : run (step (equalSetup ι sha256 options))
    (atRest (Table.empty _) around) actions = some w) :
    (postsOf id w).card ≤ attempts w.outbox id ∧ attempts w.outbox id ≤ options.maxAttempts := by
  constructor
  · apply posts_numbered
    have hboth := run_invariant (fun v : World ι κ => Running v ∧ Numbered id v) (fun v a v' hv h =>
      ⟨effect_running (step_effect h) hv.1, numbered_step hv.1 hv.2 h⟩)
      ⟨running_start around, numbered_start id around⟩ hrun
    exact hboth.2
  · obtain ⟨sendings, hbalanced⟩ := run_balanced hrun
    cases hm : w.outbox.find id with
    | none => simp [attempts, hm]
    | some m =>
      rw [attempts_row hm]
      exact (hbalanced.row id m hm).bounded

/-- A post that fails and the one that is tried after it. -/
def retriedSample : List (SenderSystem.Action Unit Empty) :=
  twoClaims ++ [.respectRateLimit () (4 * second) (3 * second), .extendClaimLease () (4 * second),
    .authorizationGuard (), .prepareSend () (8 * second) (8 * second), .startPost ()]

def retriedRun : Option (World Unit Empty) :=
  run (step (equalSetup Unit (fun _ => []) .default)) (atRest (Table.empty _) sampleSurroundings)
    retriedSample

theorem retriedRun_isSome : retriedRun.isSome = true := by decide +kernel

def retriedWorld : World Unit Empty := retriedRun.get retriedRun_isSome

theorem posts_within_attempts_retried : retriedWorld.calls.length = 2 ∧
    (postsOf 1 retriedWorld).card ≤ attempts retriedWorld.outbox 1 ∧
      attempts retriedWorld.outbox 1 ≤ SenderOptions.default.maxAttempts :=
  ⟨by decide +kernel, posts_within_attempts 1 (Option.some_get retriedRun_isSome).symm⟩

/-- Edges that do not leave UNKNOWN or a status without transitions. -/
def KeepsSettled (edges : Edges) : Prop :=
  ∀ e ∈ edges, e.1 ≠ OutboxStatus.UNKNOWN ∧ allowedTransitions e.1 ≠ []

instance (edges : Edges) : Decidable (KeepsSettled edges) :=
  List.decidableBAll (fun e : OutboxStatus × OutboxStatus =>
    e.1 ≠ OutboxStatus.UNKNOWN ∧ allowedTransitions e.1 ≠ []) edges

/-- What a step may do to a row: nothing once the row is settled, unless an operator
reconciles it. -/
structure Lasts (a : SenderSystem.Action ι κ) (m m' : OutboxMessage) : Prop where
  same : SameAction m m'
  settled : allowedTransitions m.status = [] → m' = m
  unknown : m.status = .UNKNOWN → m' = m ∨ ∃ resolution reason now,
    a = .reconcileUnknown m.id resolution reason now ∧ m'.status = resolution ∧
      resolution ∈ [OutboxStatus.SENT, .FAILED_FINAL]

omit [DecidableEq ι] [DecidableEq κ] [Fintype ι] [Fintype κ] in
theorem lasts_refl (a : SenderSystem.Action ι κ) (m : OutboxMessage) : Lasts a m m :=
  ⟨.refl m, fun _ => rfl, fun _ => .inl rfl⟩

omit [DecidableEq ι] [DecidableEq κ] [Fintype ι] [Fintype κ] in
/-- Edges that keep the settled rows let a row last. -/
theorem lasts_rewrites {R : OutboxMessage → OutboxMessage → Prop} {t t' : Outbox} {edges : Edges}
    {now : Time} {m : OutboxMessage} (hedges : KeepsSettled edges)
    (hR : ∀ a b, R a b → Stamped edges now a b) (h : Rewrites R t t')
    (hm : t.find id = some m) : ∃ m', t'.find id = some m' ∧ Lasts a m m' := by
  obtain ⟨m', hm', rfl | hchange⟩ := h.kept id m hm
  · exact ⟨m', hm', lasts_refl a m'⟩
  · have hstamped := hR m m' hchange
    obtain ⟨hknown, hopen⟩ := hedges _ hstamped.edge
    exact ⟨m', hm', hstamped.same, fun hend => absurd hend hopen,
      fun hunknown => absurd hunknown hknown⟩

/-- The row that an operator has reconciled. -/
theorem reconcile_row {t t' : Outbox} {messageId : UUID} {resolution : OutboxStatus} {reason : Str}
    {now : Time} (h : reconcileUnknown t messageId resolution reason now = .ok t') :
    ∃ m m', t.find messageId = some m ∧ m.status = .UNKNOWN ∧ t' = t.save m' ∧
      m'.status = resolution ∧ SameAction m m' ∧
      resolution ∈ [OutboxStatus.SENT, .FAILED_FINAL] := by
  unfold reconcileUnknown at h
  by_cases hresolution : resolution ∈ [OutboxStatus.SENT, .FAILED_FINAL]
  · simp only [hresolution, not_true_eq_false, if_false, Results.bind_ok] at h
    obtain ⟨-, -, h⟩ := h
    split at h
    · cases h
    · rename_i m hm
      by_cases hunknown : m.status = .UNKNOWN
      · simp only [ne_eq, hunknown, not_true_eq_false, if_false] at h
        obtain ⟨m', htrans, rfl⟩ := saved_ok h
        obtain ⟨-, hstatus, -, hsame⟩ := transition_ok htrans
        exact ⟨m, m', hm, hunknown, rfl, hstatus, hsame, hresolution⟩
      · simp only [ne_eq, hunknown, not_false_eq_true, if_true] at h
        cases h
  · simp only [hresolution, not_false_eq_true, if_true] at h
    exact absurd h Results.throw_bind_ne

/-- A reconciliation lets every row last but the UNKNOWN one that it settles. -/
theorem lasts_reconciled {messageId : UUID} {resolution : OutboxStatus} {reason : Str} {now : Time}
    {m : OutboxMessage}
    (h : step setup w (.reconcileUnknown messageId resolution reason now) = some w')
    (hm : w.outbox.find id = some m) :
    ∃ m', w'.outbox.find id = some m' ∧
      Lasts (.reconcileUnknown (ι := ι) (κ := κ) messageId resolution reason now) m m' := by
  simp only [step] at h
  split at h
  · cases h
    rcases commit_cases w (reconcileUnknown w.outbox messageId resolution reason now) with
      ⟨t, hok, hw⟩ | hw
    · rw [hw]
      obtain ⟨n, n', hn, hunknown, rfl, hstatus, hsame, hresolution⟩ := reconcile_row hok
      have hkey : n.id = messageId := Table.find_key hn
      subst hkey
      have hfind := Table.find_save_of (t := w.outbox) (a := n') (hsame.id ▸ hn) id
      by_cases hid : id = n'.id
      · rw [if_pos hid] at hfind
        rw [hid, hsame.id, hn] at hm
        obtain rfl := Option.some.inj hm
        refine ⟨n', hfind, hsame, ?_, ?_⟩
        · intro hend
          rw [hunknown] at hend
          cases hend
        · intro _
          exact .inr ⟨resolution, reason, now, rfl, hstatus, hresolution⟩
      · rw [if_neg hid] at hfind
        exact ⟨m, hfind.trans hm, lasts_refl _ m⟩
    · rw [hw]
      exact ⟨m, hm, lasts_refl _ m⟩
  · cases h

omit [DecidableEq ι] [DecidableEq κ] [Fintype ι] [Fintype κ] in
theorem lasts_written {t : Outbox} {m : OutboxMessage} (h : Written setup w a t)
    (hother : ∀ id resolution reason now, a ≠ .reconcileUnknown id resolution reason now)
    (hm : w.outbox.find id = some m) : ∃ m', t.find id = some m' ∧ Lasts a m m' := by
  cases h with
  | untouched => exact ⟨m, hm, lasts_refl a m⟩
  | enqueued _ _ _ _ n insert => exact ⟨m, Table.insert_keeps insert hm, lasts_refl _ m⟩
  | recovered _ _ _ _ rewrites =>
    exact lasts_rewrites (by decide) (fun _ _ hab => hab.2) rewrites hm
  | cancelled _ _ _ _ rewrites =>
    exact lasts_rewrites (by decide) (fun _ _ hab => hab.2) rewrites hm
  | reconciled id resolution reason now => exact absurd rfl (hother id resolution reason now)
  | claimed _ _ _ _ _ _ rewrites =>
    exact lasts_rewrites (by decide) (fun _ _ hab => hab.2) rewrites hm
  | extended _ _ _ _ _ _ rewrites =>
    exact lasts_rewrites (by decide) (fun _ _ hab => hab.2) rewrites hm
  | prepared _ _ _ _ _ _ _ rewrites =>
    exact lasts_rewrites (by decide) (fun _ _ hab => hab.2) rewrites hm
  | finished _ _ _ _ _ _ _ _ rewrites =>
    exact lasts_rewrites (by decide) (fun _ _ hab => hab.2.2) rewrites hm

/-- Every row lasts through a step. -/
theorem lasts_step {m : OutboxMessage} (h : step setup w a = some w')
    (hm : w.outbox.find id = some m) : ∃ m', w'.outbox.find id = some m' ∧ Lasts a m m' := by
  by_cases hreconcile : ∃ id resolution reason now, a = .reconcileUnknown id resolution reason now
  · obtain ⟨messageId, resolution, reason, now, rfl⟩ := hreconcile
    exact lasts_reconciled h hm
  · apply lasts_written (step_written h) _ hm
    intro messageId resolution reason now heq
    exact hreconcile ⟨messageId, resolution, reason, now, heq⟩

/-- What a reconciliation may choose is settled for good. -/
theorem reconciled_settled {resolution : OutboxStatus}
    (h : resolution ∈ [OutboxStatus.SENT, .FAILED_FINAL]) : allowedTransitions resolution = [] := by
  rcases List.mem_pair.mp h with rfl | rfl <;> rfl

/-- No message is lost and none changes its action. One that is SENT, FAILED_FINAL or
CANCELLED is never written again; one that is UNKNOWN stays as it is until an operator
reconciles it, and then has the operator's resolution for ever. -/
theorem settled_rows_final {actions : List (SenderSystem.Action ι κ)} {m : OutboxMessage}
    (hrun : run (step setup) w actions = some w') (hm : w.outbox.find id = some m) :
    ∃ m', w'.outbox.find id = some m' ∧ SameAction m m' ∧
      (allowedTransitions m.status = [] → m' = m) ∧
      (m.status = .UNKNOWN → m' = m ∨ ∃ resolution reason now,
        .reconcileUnknown id resolution reason now ∈ actions ∧ m'.status = resolution ∧
          resolution ∈ [OutboxStatus.SENT, .FAILED_FINAL]) := by
  have hid : m.id = id := Table.find_key hm
  apply run_history (s := w) (fun actions v => ∃ m', v.outbox.find id = some m' ∧ SameAction m m' ∧
      (allowedTransitions m.status = [] → m' = m) ∧
      (m.status = .UNKNOWN → m' = m ∨ ∃ resolution reason now,
        .reconcileUnknown id resolution reason now ∈ actions ∧ m'.status = resolution ∧
          resolution ∈ [OutboxStatus.SENT, .FAILED_FINAL])) _ _ hrun
  · exact ⟨m, hm, .refl m, fun _ => rfl, fun _ => .inl rfl⟩
  · rintro actions v a v' - ⟨m', hm', hsame, hsettled, hunknown⟩ hstep
    obtain ⟨m'', hm'', hlasts⟩ := lasts_step hstep hm'
    refine ⟨m'', hm'', hsame.trans hlasts.same, ?_, ?_⟩
    · intro hend
      have hbefore := hsettled hend
      rw [hlasts.settled (hbefore ▸ hend), hbefore]
    · intro hwas
      rcases hunknown hwas with rfl | ⟨resolution, reason, now, hmem, hstatus, hresolution⟩
      · rcases hlasts.unknown hwas with rfl | ⟨resolution, reason, now, rfl, hstatus, hresolution⟩
        · exact .inl rfl
        · exact .inr ⟨resolution, reason, now, by simp [hid], hstatus, hresolution⟩
      · -- a row that is reconciled has reached its end
        have hsame'' := hlasts.settled (hstatus ▸ reconciled_settled hresolution)
        exact .inr ⟨resolution, reason, now, List.mem_append_left _ hmem, hsame'' ▸ hstatus,
          hresolution⟩

/-- A cancelled message after a worker has looked for something to send. -/
def cancelledSample : List (SenderSystem.Action Unit Empty) :=
  [.lockAccount () 1 second, .countInFlight (), .claimNext () fun _ => false]

def cancelledMessage : OutboxMessage := { sampleMessage 1 none with status := .CANCELLED }

def cancelledStart : World Unit Empty :=
  atRest ⟨[cancelledMessage], by simp⟩ sampleSurroundings

def cancelledRun : Option (World Unit Empty) :=
  run (step (sampleSetup Unit)) cancelledStart cancelledSample

theorem cancelledRun_isSome : cancelledRun.isSome = true := by decide +kernel

theorem settled_rows_final_cancelled :
    ∃ m', (cancelledRun.get cancelledRun_isSome).outbox.find 1 = some m' ∧ m' = cancelledMessage := by
  have hm : cancelledStart.outbox.find 1 = some cancelledMessage := by decide +kernel
  obtain ⟨m', hm', -, hsettled, -⟩ :=
    settled_rows_final (Option.some_get cancelledRun_isSome).symm hm
  exact ⟨m', hm', hsettled rfl⟩

end WechatBot.MessageLifetime
