import WechatBot.Delivery
import WechatBot.SenderSteps

/-!
# At-most-once delivery of outbox messages

The sender system refines the delivery protocol: a message's stage is read off its
status and a task's attempt off its phase. What holds of every run of the protocol
then holds of every run of the system.
-/
namespace WechatBot.AtMostOnce

open PyData OutboxState OutboxService Sender SenderEffects SenderSystem SenderSteps GeweErrors Runs
open Records Policy
open Delivery (Stage Progress Attempt Call Passive Steps Clean Over)
open Tables (Table)

variable {ι κ : Type} [DecidableEq ι] [DecidableEq κ]

def stageOf : OutboxStatus → Stage
  | .PENDING => .open
  | .CLAIMED => .open
  | .FAILED_RETRYABLE => .open
  | .SENDING => .attempted
  | .CANCELLED => .withdrawn
  | .SENT => .closed
  | .UNKNOWN => .closed
  | .FAILED_FINAL => .closed

/-- The stage of the row that a lookup found. -/
def stageOfRow : Option OutboxMessage → Stage
  | none => .missing
  | some m => stageOf m.status

def attemptOf : Phase → Option (Attempt UUID PostOutcome)
  | .prepared send _ => some ⟨send.messageId, .ready⟩
  | .posting send _ call => some ⟨send.messageId, .running call⟩
  | .posted send _ outcome => some ⟨send.messageId, .ended outcome⟩
  | _ => none

def callOf (call : PostCall) : Call UUID PostOutcome := ⟨call.send.messageId, call.outcome⟩

def delivery (w : World ι κ) : Delivery.State ι UUID PostOutcome where
  stage := fun id => stageOfRow (w.outbox.find id)
  attempt := fun i => attemptOf (w.pipeline i)
  calls := w.calls.map callOf

omit [DecidableEq κ] in
theorem delivery_moveTo (w : World ι κ) (i : ι) (phase : Phase) :
    delivery (w.moveTo i phase) = { delivery w with
      attempt := Function.update (delivery w).attempt i (attemptOf phase) } := by
  have hattempt : (fun j => attemptOf ((w.moveTo i phase).pipeline j)) =
      Function.update (fun j => attemptOf (w.pipeline j)) i (attemptOf phase) := by
    funext j
    by_cases hj : j = i
    · subst hj; simp
    · simp [moveTo_other w phase hj, hj]
  simp only [delivery, moveTo_outbox, moveTo_calls]
  rw [hattempt]

def PassiveEdges (edges : Edges) : Prop := ∀ e ∈ edges, Passive (stageOf e.1) (stageOf e.2)

/-- A recovery begins no attempt; one that was begun it closes. -/
theorem recovery_passive : PassiveEdges recoveryEdges := by
  simp only [PassiveEdges, recoveryEdges, List.forall_mem_cons, stageOf]
  exact ⟨.same _, .expire, by simp⟩

theorem expiry_passive : PassiveEdges expiryEdges := by
  simp only [PassiveEdges, expiryEdges, List.forall_mem_cons, stageOf]
  exact ⟨.withdraw, .withdraw, by simp⟩

theorem refusal_passive : PassiveEdges refusalEdges := by
  simp only [PassiveEdges, refusalEdges, List.forall_mem_cons, stageOf]
  exact ⟨.withdraw, .abandon, .same _, by simp⟩

theorem cancel_passive : PassiveEdges cancelEdges := by
  simp only [PassiveEdges, cancelEdges, List.forall_mem_cons, stageOf]
  exact ⟨.withdraw, .withdraw, .withdraw, by simp⟩

theorem reconcile_passive : PassiveEdges reconcileEdges := by
  simp only [PassiveEdges, reconcileEdges, List.forall_mem_cons, stageOf]
  exact ⟨.same _, .same _, by simp⟩

/-- Along passive edges no message begins an attempt. -/
theorem changes_passive {edges : Edges} (hedges : PassiveEdges edges) {t t' : Outbox}
    (h : Changes edges t t') (id : UUID) :
    Passive (stageOfRow (t.find id)) (stageOfRow (t'.find id)) := by
  cases hm : t.find id with
  | none => rw [h.noNew id hm]; exact .same _
  | some m =>
    obtain ⟨m', hm', -, hstatus⟩ := h.kept id m hm
    rw [hm']
    rcases hstatus with hstatus | hedge
    · simp only [stageOfRow, hstatus]; exact .same _
    · exact hedges _ hedge

omit [DecidableEq κ] in
/-- A passive change of the outbox is at most a step of the delivery. -/
theorem delivery_move {edges : Edges} (hedges : PassiveEdges edges) {w : World ι κ} {t : Outbox}
    (h : Changes edges w.outbox t) :
    Delivery.Step PostOutcome.Retryable (delivery w) (delivery { w with outbox := t }) :=
  .move (delivery w) _ (changes_passive hedges h)

omit [DecidableEq κ] in
/-- A new message is one that has not been tried. -/
theorem delivery_insert {w : World ι κ} {t : Outbox} {m : OutboxMessage}
    (h : w.outbox.insert m = some t) (hpending : m.status = .PENDING) :
    Delivery.Step PostOutcome.Retryable (delivery w) (delivery { w with outbox := t }) := by
  refine .move (delivery w) _ ?_
  intro id
  simp only [delivery]
  rw [Table.find_insert h]
  split
  · rename_i hid
    rw [hid, Table.insert_fresh h]
    simp only [stageOfRow, hpending, stageOf]
    exact .create
  · exact .same _

/-- The row a claim saves stays open. -/
theorem claim_passive {accountId : UUID} {c : ClaimedMessage} {u : Outbox} {m m' : OutboxMessage}
    (h : ClaimOf accountId c u m m') : Changes [(.PENDING, .CLAIMED), (.FAILED_RETRYABLE, .CLAIMED)]
      u (u.save m') := by
  have hid : m.id = c.id := Table.find_key h.found
  refine changes_save (m := m) (hid ▸ h.found) h.same (.inr ?_)
  rw [h.claimed]
  rcases waiting_iff.mp h.waiting with hs | hs <;> simp [hs]

theorem stage_save {t : Outbox} {id : UUID} {m m' : OutboxMessage} (hm : t.find id = some m)
    (hsame : SameAction m m') :
    (fun k => stageOfRow ((t.save m').find k)) =
      Function.update (fun k => stageOfRow (t.find k)) id (stageOf m'.status) := by
  have hid : m'.id = id := hsame.id.trans (Table.find_key hm)
  funext k
  rw [Table.find_save_of (t := t) (a := m') (hid.symm ▸ hm), hid]
  by_cases hk : k = id
  · simp [hk, stageOfRow]
  · simp [hk]

omit [DecidableEq κ] in
/-- A task may drop its attempt at any time. -/
theorem vanish_moveTo (w : World ι κ) (i : ι) {phase : Phase} (h : attemptOf phase = none) :
    Delivery.Step PostOutcome.Retryable (delivery w) (delivery (w.moveTo i phase)) := by
  rw [delivery_moveTo, h]
  exact .vanish (delivery w) i

omit [DecidableEq κ] in
/-- A passive change of the outbox by a task that then has no attempt. -/
theorem move_and_vanish {edges : Edges} (hedges : PassiveEdges edges) {w : World ι κ} {t : Outbox}
    (h : Changes edges w.outbox t) (i : ι) {phase : Phase} (hphase : attemptOf phase = none) :
    Steps PostOutcome.Retryable (delivery w) (delivery ({ w with outbox := t }.moveTo i phase)) :=
  .tail (.single (delivery_move hedges h)) (vanish_moveTo { w with outbox := t } i hphase)

omit [DecidableEq κ] in
/-- The commit to SENDING begins an attempt. -/
theorem prepared_begins {w : World ι κ} {policyNow : Time} {i : ι} {id : UUID} {fence : Option UUID}
    {t : Outbox} {send : PreparedSend} {m m' : OutboxMessage}
    (hphase : w.pipeline i = .guarded id fence)
    (h : PreparedBy w.around policyNow w.outbox t id send m m') :
    Delivery.Step PostOutcome.Retryable (delivery w)
      (delivery ({ w with outbox := t }.moveTo i (.prepared send fence))) := by
  have hidle : (delivery w).attempt i = none := by simp [delivery, hphase, attemptOf]
  have hopen : (delivery w).stage id = .open := by
    simp [delivery, h.found, stageOfRow, h.claimed, stageOf]
  have hstep : Delivery.Step PostOutcome.Retryable _ _ :=
    Delivery.Step.begin (delivery w) i id hidle hopen
  have hstage : (delivery { w with outbox := t }).stage =
      Function.update (delivery w).stage id .attempted := by
    simp only [delivery, h.saved]
    rw [stage_save h.found h.same, h.sending]
    rfl
  have hend : delivery ({ w with outbox := t }.moveTo i (.prepared send fence)) =
      { delivery w with
        stage := Function.update (delivery w).stage id .attempted
        attempt := Function.update (delivery w).attempt i (some ⟨id, .ready⟩) } := by
    rw [delivery_moveTo]
    simp only [attemptOf, h.message, ← hstage]
    rfl
  rw [hend]
  exact hstep

omit [DecidableEq κ] in
/-- Finishing records the outcome of an attempt, unless the row has been taken away. -/
theorem settled_steps {w : World ι κ} {i : ι} {outcome : PostOutcome} {send : PreparedSend}
    {fence : Option UUID} {t : Outbox} (hphase : w.pipeline i = .posted send fence outcome)
    (h : t = w.outbox ∨ ∃ m m', SettledBy outcome w.outbox t send.messageId m m') :
    Delivery.Step PostOutcome.Retryable (delivery w)
      (delivery ({ w with outbox := t }.moveTo i (.leaving fence))) := by
  rcases h with rfl | ⟨m, m', h⟩
  · exact vanish_moveTo w i rfl
  · have hended : (delivery w).attempt i = some ⟨send.messageId, .ended outcome⟩ := by
      simp [delivery, hphase, attemptOf]
    have hattempted : (delivery w).stage send.messageId = .attempted := by
      simp [delivery, h.found, stageOfRow, h.sending, stageOf]
    have hstage : stageOf m'.status = .closed ∨
        stageOf m'.status = .open ∧ outcome.Retryable := by
      rcases h.settled with hs | ⟨hs, hretry⟩
      · left
        simp only [List.mem_cons, List.not_mem_nil, or_false] at hs
        rcases hs with hs | hs | hs <;> simp [hs, stageOf]
      · right
        exact ⟨by simp [hs, stageOf], hretry⟩
    have hstep := Delivery.Step.settle (delivery w) i send.messageId outcome _ hended hattempted
      hstage
    have hend : delivery ({ w with outbox := t }.moveTo i (.leaving fence)) =
        { delivery w with
          stage := Function.update (delivery w).stage send.messageId (stageOf m'.status)
          attempt := Function.update (delivery w).attempt i none } := by
      rw [delivery_moveTo]
      simp only [delivery, h.saved, attemptOf]
      rw [stage_save h.found h.same]
    rw [hend]
    exact hstep

theorem advance_quiet {phase phase' : Phase} (h : Advance phase phase') :
    attemptOf phase' = none := by
  cases h <;> rfl

/-- One step of the system is some steps of the protocol. -/
theorem effect_simulates {w w' : World ι κ} {a : SenderSystem.Action ι κ} (h : Effect w a w') :
    Steps PostOutcome.Retryable (delivery w) (delivery w') := by
  cases h with
  | same => exact .refl
  | enqueued request now id t m hinsert hpending => exact .single (delivery_insert hinsert hpending)
  | recovered now ids t hok => exact .single (delivery_move recovery_passive (recover_changes hok))
  | cancelled id reason now t hchanges => exact .single (delivery_move cancel_passive hchanges)
  | reconciled id resolution reason now t hchanges =>
    exact .single (delivery_move reconcile_passive hchanges)
  | accountLocked i accountId now hfree => exact .single (vanish_moveTo w i rfl)
  | counted i accountId now hphase hnone => exact .single (vanish_moveTo w i rfl)
  | claimed i locked accountId now c u m m' hphase hchanges hclaim =>
    have hclaims : PassiveEdges [(.PENDING, .CLAIMED), (.FAILED_RETRYABLE, .CLAIMED)] := by
      simp only [PassiveEdges, List.forall_mem_cons, stageOf]
      exact ⟨.same _, .same _, by simp⟩
    exact .head (delivery_move expiry_passive hchanges)
      (move_and_vanish (w := { w with outbox := u }) hclaims (claim_passive hclaim) i rfl)
  | nothingDue i locked t hchanges => exact move_and_vanish expiry_passive hchanges i rfl
  | retired a i => exact .single (vanish_moveTo w i rfl)
  | advanced a i phase hphase =>
    exact .single (vanish_moveTo w i (advance_quiet hphase))
  | extended i now c delay t hphase hchanges =>
    exact move_and_vanish (by simp [PassiveEdges]) hchanges i rfl
  | guarded i c hphase hfree => exact .single (vanish_moveTo w i rfl)
  | refused i now policyNow id fence t hphase hchanges =>
    exact move_and_vanish refusal_passive hchanges i rfl
  | prepared i now policyNow id fence t send m m' hphase hprepared =>
    exact .single (prepared_begins hphase hprepared)
  | postStarted i send fence hphase =>
    have hready : (delivery w).attempt i = some ⟨send.messageId, .ready⟩ := by
      simp [delivery, hphase, attemptOf]
    have hstep : Delivery.Step PostOutcome.Retryable _ _ :=
      Delivery.Step.post (delivery w) i _ hready
    rw [delivery_moveTo]
    simpa [delivery, attemptOf, callOf] using Relation.ReflTransGen.single hstep
  | postFailed i outcome send fence hphase =>
    have hready : (delivery w).attempt i = some ⟨send.messageId, .ready⟩ := by
      simp [delivery, hphase, attemptOf]
    rw [delivery_moveTo]
    exact .single (.giveUp (delivery w) i _ outcome hready)
  | postEnded i outcome send fence call hphase =>
    have hrunning : (delivery w).attempt i = some ⟨send.messageId, .running call⟩ := by
      simp [delivery, hphase, attemptOf]
    have hstep : Delivery.Step PostOutcome.Retryable _ _ :=
      Delivery.Step.answer (delivery w) i _ call outcome hrunning
    rw [delivery_moveTo]
    simpa [delivery, attemptOf, callOf, List.map_set] using Relation.ReflTransGen.single hstep
  | settled i now jitter outcome send fence t hphase hsettled =>
    exact .single (settled_steps hphase hsettled)
  | revocationBegun | fenceLocked | revoked | rolledBack | changed => exact .refl

variable [Fintype ι] [Fintype κ] {setup : Setup ι}

/-- Every run of the sender is a run of the delivery. -/
theorem run_simulates {w w' : World ι κ} {actions : List (SenderSystem.Action ι κ)}
    (h : run (step setup) w actions = some w') :
    Steps PostOutcome.Retryable (delivery w) (delivery w') :=
  run_relation (fun w w' => Steps PostOutcome.Retryable (delivery w) (delivery w'))
    (fun _ => .refl) (fun _ _ _ => .trans)
    (fun _ _ _ hstep => effect_simulates (step_effect hstep)) h

/-- The protocol's invariant holds of every run that starts at rest. -/
theorem delivery_inv {outbox : Outbox} {around : Surroundings} {actions : List (SenderSystem.Action ι κ)}
    {w : World ι κ} (h : run (step setup) (atRest outbox around) actions = some w) :
    Delivery.Inv PostOutcome.Retryable (delivery w) :=
  Delivery.steps_inv (Delivery.start_inv _ _) (run_simulates h)

/-- The statuses of a message whose delivery is over. -/
def Ended (status : OutboxStatus) : Prop :=
  status ∈ [OutboxStatus.SENT, .UNKNOWN, .FAILED_FINAL, .CANCELLED]

instance (status : OutboxStatus) : Decidable (Ended status) :=
  inferInstanceAs (Decidable (status ∈ _))

omit [DecidableEq ι] [DecidableEq κ] [Fintype ι] [Fintype κ] in
theorem over_of_ended {w : World ι κ} {id : UUID} {m : OutboxMessage}
    (hm : w.outbox.find id = some m) (h : Ended m.status) : Over ((delivery w).stage id) := by
  simp only [delivery, hm, stageOfRow]
  simp only [Ended, List.mem_cons, List.not_mem_nil, or_false] at h
  rcases h with hs | hs | hs | hs <;> simp [hs, stageOf, Over]

omit [DecidableEq ι] [DecidableEq κ] [Fintype ι] [Fintype κ] in
/-- In a clean history every call of the message has ended in a retryable outcome. -/
theorem clean_calls {w : World ι κ} {id : UUID} (h : Clean PostOutcome.Retryable (delivery w) id) :
    ∀ c ∈ w.calls, c.send.messageId = id → ∃ o, c.outcome = some o ∧ o.Retryable := by
  intro c hc hid
  exact h (callOf c) (List.mem_map_of_mem hc) hid

omit [DecidableEq ι] [DecidableEq κ] [Fintype ι] [Fintype κ] in
theorem prepared_of_ready {w : World ι κ} {i : ι} {id : UUID}
    (h : (delivery w).attempt i = some ⟨id, .ready⟩) :
    ∃ send fence, w.pipeline i = .prepared send fence ∧ send.messageId = id := by
  simp only [delivery] at h
  cases hphase : w.pipeline i <;> simp [hphase, attemptOf] at h
  exact ⟨_, _, rfl, h⟩

theorem startPost_possible (setup : Setup ι) {w : World ι κ} {i : ι} {send : PreparedSend} {fence : Option UUID}
    (h : w.pipeline i = .prepared send fence) :
    ∃ w', step setup w (.startPost i) = some w' ∧
      w'.pipeline i = .posting send fence w.calls.length := by
  simp [step, World.startPost, h]

theorem startPost_phase {w w' : World ι κ} {i : ι} {send : PreparedSend} {fence : Option UUID}
    {call : Nat} (hstart : step setup w (.startPost i) = some w')
    (hsend : w'.pipeline i = .posting send fence call) : w.pipeline i = .prepared send fence := by
  simp only [step, World.startPost] at hstart
  split at hstart
  · rename_i send' fence' hphase
    cases hstart
    simp only [moveTo_self, Phase.posting.injEq] at hsend
    rw [hphase, hsend.1, hsend.2.1]
  · cases hstart

/-- A `post_text` call starts only if every earlier call for its message ended with an
error of disposition RETRYABLE. Once the delivery of a message is over no new attempt
begins: a call for it that starts later is one whose task had committed SENDING before,
no call for it started or ended since, and there is none if it was cancelled. -/
theorem at_most_once (setup : Setup ι) (outbox : Outbox) (around : Surroundings)
    (before after : List (SenderSystem.Action ι κ)) (w₀ w w' : World ι κ) (i : ι) (send : PreparedSend)
    (fence : Option UUID) (call : Nat)
    (hbefore : run (step setup) (atRest outbox around) before = some w₀)
    (hafter : run (step setup) w₀ after = some w) (hstart : step setup w (.startPost i) = some w')
    (hsend : w'.pipeline i = .posting send fence call) :
    (∀ c ∈ w.calls, c.send.messageId = send.messageId →
      ∃ outcome, c.outcome = some outcome ∧ outcome.Retryable) ∧
    ∀ m, w₀.outbox.find send.messageId = some m → Ended m.status →
      m.status ≠ .CANCELLED ∧
      (∃ send₀ fence₀, w₀.pipeline i = .prepared send₀ fence₀ ∧
        send₀.messageId = send.messageId) ∧
      ∀ (k : Nat) (c : PostCall), c.send.messageId = send.messageId → w.calls[k]? = some c →
        ∃ c₀, w₀.calls[k]? = some c₀ ∧ callOf c₀ = callOf c := by
  have hrun : run (step setup) (atRest outbox around) (before ++ after) = some w :=
    (run_append _ _ _ _ _).mpr ⟨w₀, hbefore, hafter⟩
  have hinv₀ := delivery_inv hbefore
  have hphase : w.pipeline i = .prepared send fence := startPost_phase hstart hsend
  have hready : (delivery w).attempt i = some ⟨send.messageId, .ready⟩ := by
    simp [delivery, hphase, attemptOf]
  refine ⟨clean_calls ((delivery_inv hrun).ready i _ hready), ?_⟩
  intro m hm hended
  obtain ⟨hready₀, hsame⟩ := Delivery.steps_ready hinv₀ (run_simulates hafter)
    (over_of_ended hm hended) hready
  refine ⟨?_, prepared_of_ready hready₀, ?_⟩
  · intro hcancelled
    have hengaged := hinv₀.engaged i _ hready₀
    simp [delivery, hm, stageOfRow, hcancelled, stageOf] at hengaged
  · intro k c hid hc
    have hmapped : (delivery w).calls[k]? = some (callOf c) := by simp [delivery, hc]
    have hold := (hsame k (callOf c) hid).mp hmapped
    simpa [delivery, List.getElem?_map, Option.map_eq_some_iff] using hold

def refusedOnce : List (SenderSystem.Action Unit Unit) :=
  toBoundary () 1 0 [] 0 ++
    [.startPost (), .endPost () (.geweError (.http 503 true)), .finish () 0 0, .leaveGuard ()]

/-- The lease of the second attempt runs out between its SENDING commit and its call, and is
recovered. -/
def stalled : List (SenderSystem.Action Unit Unit) :=
  refusedOnce ++
    toBoundary () 1 (100 * second) [.extendClaimLease () (100 * second)] (103 * second) ++
    [.recoverExpiredLeases (200 * second) [1]]

def stalledRun : Option (World Unit Unit) :=
  run (step (sampleSetup Unit)) (atRest (oneMessage none) sampleSurroundings) stalled

def stalledSend : PreparedSend :=
  ⟨1, 1, py "https://api", py "token", ⟨py "app", py "g@chatroom", py "hello", none⟩⟩

/-- The second attempt is past its SENDING commit, and its message UNKNOWN and posted before. -/
theorem stalledRun_evaluated :
    stalledRun.map (fun w => (w.pipeline (),
      (w.outbox.find 1).any fun m => decide (Ended m.status),
      w.calls.any fun c => decide (c.send.messageId = stalledSend.messageId))) =
    some (.prepared stalledSend none, true, true) := by
  decide +kernel

theorem stalledRun_isSome : stalledRun.isSome := (get_of_map stalledRun_evaluated).1

def stalledWorld : World Unit Unit := stalledRun.get stalledRun_isSome

theorem stalled_run : run (step (sampleSetup Unit)) (atRest (oneMessage none) sampleSurroundings)
    stalled = some stalledWorld := (Option.some_get stalledRun_isSome).symm

theorem stalled_values : stalledWorld.pipeline () = .prepared stalledSend none ∧
    ((stalledWorld.outbox.find 1).any fun m => decide (Ended m.status)) = true ∧
    (stalledWorld.calls.any fun c => decide (c.send.messageId = stalledSend.messageId)) = true := by
  obtain ⟨hphase, hrest⟩ := Prod.mk.inj (get_of_map stalledRun_evaluated).2
  exact ⟨hphase, Prod.mk.inj hrest⟩

theorem stalled_phase : stalledWorld.pipeline () = .prepared stalledSend none := stalled_values.1

theorem stalled_ended : ∃ m, stalledWorld.outbox.find 1 = some m ∧ Ended m.status := by
  simpa [Option.any_eq_true] using stalled_values.2.1

/-- The stalled task posts a message that was posted before and is UNKNOWN by now. -/
theorem posted_again_after_unknown :
    ¬ ∀ (setup : Setup Unit) (outbox : Outbox) (around : Surroundings)
      (before after : List (SenderSystem.Action Unit Unit)) (w₀ w w' : World Unit Unit) (send : PreparedSend)
      (fence : Option UUID) (call : Nat) (m : OutboxMessage),
      run (step setup) (atRest outbox around) before = some w₀ →
      run (step setup) w₀ after = some w →
      (∃ c ∈ w₀.calls, c.send.messageId = send.messageId) →
      w₀.outbox.find send.messageId = some m → Ended m.status →
      step setup w (.startPost ()) = some w' → w'.pipeline () ≠ .posting send fence call := by
  intro h
  obtain ⟨m, hm, hended⟩ := stalled_ended
  obtain ⟨w', hw', hphase⟩ := startPost_possible (sampleSetup Unit) stalled_phase
  have hposted : ∃ c ∈ stalledWorld.calls, c.send.messageId = stalledSend.messageId := by
    simpa using stalled_values.2.2
  exact h (sampleSetup Unit) (oneMessage none) sampleSurroundings stalled [] stalledWorld
    stalledWorld w' stalledSend none _ m stalled_run rfl hposted hm hended hw' hphase

/-- The stalled task's own call is within what the theorem allows. -/
theorem at_most_once_stalled : ∃ w', step (sampleSetup Unit) stalledWorld (.startPost ()) = some w' ∧
    ∀ c ∈ stalledWorld.calls, c.send.messageId = stalledSend.messageId →
      ∃ outcome, c.outcome = some outcome ∧ outcome.Retryable := by
  obtain ⟨w', hw', hphase⟩ := startPost_possible (sampleSetup Unit) stalled_phase
  exact ⟨w', hw', (at_most_once (sampleSetup Unit) (oneMessage none) sampleSurroundings stalled []
    stalledWorld stalledWorld w' () stalledSend none _ stalled_run rfl hw' hphase).1⟩

end WechatBot.AtMostOnce
