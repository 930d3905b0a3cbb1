import WechatBot.AccountSerial
import WechatBot.OutboxStamps

/-!
# Attempts and transitions into SENDING

`attempt_count` is one column of the row; here the transitions into `SENDING` are counted
beside the system, and the two counts agree in every reachable state.
-/
namespace WechatBot.AttemptCount

open PyData OutboxState OutboxService Sender SenderEffects SenderSystem OutboxStamps
open Tables (Table)
open Runs (run run_invariant)

/-- The statuses from which a message may still be sent. -/
def sendable (status : OutboxStatus) : Bool :=
  decide (status ∈ [OutboxStatus.PENDING, .CLAIMED, .FAILED_RETRYABLE])

/-- The system with the number of each message's transitions into SENDING. -/
structure Counted (ι κ : Type) where
  world : World ι κ
  sendings : UUID → Nat

def sending (t : Outbox) (id : UUID) : Bool :=
  (t.find id).any fun m => decide (m.status = .SENDING)

/-- A step moved the message into SENDING. -/
def entered (t t' : Outbox) (id : UUID) : Bool := sending t' id && !sending t id

variable {ι κ : Type} [DecidableEq ι] [DecidableEq κ] [Fintype ι] [Fintype κ]

def countedStep (setup : Setup ι) (s : Counted ι κ) (a : SenderSystem.Action ι κ) :
    Option (Counted ι κ) :=
  (step setup s.world a).map fun w =>
    ⟨w, fun id => s.sendings id + (entered s.world.outbox w.outbox id).toNat⟩

/-- An empty outbox and nobody at work. -/
def Counted.start (around : Policy.Surroundings) : Counted ι κ :=
  ⟨atRest (Table.empty _) around, fun _ => 0⟩

/-- Workers with equal options. -/
def equalSetup (ι : Type) (sha256 : CanonicalAction → Str) (options : SenderOptions) : Setup ι :=
  ⟨sha256, fun _ => options⟩

/-- The count of a row agrees with the number of its transitions, and leaves an attempt to
every message that may still be sent. -/
structure Accounted (options : SenderOptions) (sendings : Nat) (m : OutboxMessage) : Prop where
  counted : m.attemptCount = sendings
  bounded : m.attemptCount ≤ options.maxAttempts
  left : sendable m.status = true → m.attemptCount < options.maxAttempts

/-- What a step may do to a row. -/
structure Attempted (options : SenderOptions) (m m' : OutboxMessage) : Prop where
  attempts : m'.attemptCount = m.attemptCount + if m'.status = .SENDING then 1 else 0
  claimed : m'.status = .SENDING → m.status = .CLAIMED
  left : sendable m'.status = true →
    sendable m.status = true ∨ m.attemptCount < options.maxAttempts

variable {options : SenderOptions} {m m' : OutboxMessage} {edges : Edges} {now : Time}

/-- The edges along which only a claimed message gets into SENDING, and none becomes sendable
again. -/
def Spending (edges : Edges) : Prop :=
  ∀ e ∈ edges, (e.2 = OutboxStatus.SENDING → e.1 = OutboxStatus.CLAIMED) ∧
    (sendable e.2 = true → sendable e.1 = true)

instance (edges : Edges) : Decidable (Spending edges) :=
  List.decidableBAll (fun e : OutboxStatus × OutboxStatus =>
    (e.2 = OutboxStatus.SENDING → e.1 = OutboxStatus.CLAIMED) ∧
      (sendable e.2 = true → sendable e.1 = true)) edges

/-- A stamped move counts an attempt just when it enters SENDING. -/
theorem attempted_of_stamped (hedges : Spending edges) (h : Stamped edges now m m') :
    Attempted options m m' := by
  obtain ⟨hclaimed, hsendable⟩ := hedges _ h.edge
  exact ⟨h.attempts, hclaimed, fun hleft => .inl (hsendable hleft)⟩

/-- An attempt that ends leaves SENDING; only FAILED_RETRYABLE is sendable again. -/
theorem settle_edge : ∀ e ∈ settleEdges, e.2 ≠ OutboxStatus.SENDING ∧
    (sendable e.2 = true → e.2 = OutboxStatus.FAILED_RETRYABLE) := by
  decide

/-- A finished call counts no further attempt. -/
theorem attempted_of_finished {messageId : UUID} (h : Finished options messageId now m m') :
    Attempted options m m' := by
  obtain ⟨-, hretry, hstamped⟩ := h
  obtain ⟨hnot, honly⟩ := settle_edge _ hstamped.edge
  exact ⟨hstamped.attempts, fun hsending => absurd hsending hnot,
    fun hleft => .inr (hretry (honly hleft))⟩

/-- The books stay right when a row changes. -/
theorem accounted_attempted {sendings : Nat} (hm : Accounted options sendings m)
    (h : Attempted options m m') :
    Accounted options (sendings + if m'.status = .SENDING then 1 else 0) m' := by
  have hcount := h.attempts
  have hcounted := hm.counted
  have hbounded := hm.bounded
  by_cases hsending : m'.status = .SENDING
  · have hlast : m.attemptCount < options.maxAttempts := by
      apply hm.left
      rw [h.claimed hsending]
      rfl
    rw [if_pos hsending] at hcount ⊢
    refine ⟨by omega, by omega, ?_⟩
    intro hleft
    rw [hsending] at hleft
    cases hleft
  · rw [if_neg hsending] at hcount ⊢
    refine ⟨by omega, by omega, ?_⟩
    intro hleft
    rcases h.left hleft with hbefore | hbelow
    · have hbelow := hm.left hbefore
      omega
    · omega

/-- The rows of an outbox with the counts beside them. -/
structure Balanced (options : SenderOptions) (t : Outbox) (sendings : UUID → Nat) : Prop where
  row : ∀ id m, t.find id = some m → Accounted options (sendings id) m
  absent : ∀ id, t.find id = none → sendings id = 0

variable {t t' : Outbox} {id : UUID}

theorem sending_find (hm : t.find id = some m) : sending t id = decide (m.status = .SENDING) := by
  simp [sending, hm]

theorem entered_same (hm : t.find id = some m) (hm' : t'.find id = some m) :
    entered t t' id = false := by
  unfold entered
  rw [sending_find hm, sending_find hm']
  cases decide (m.status = .SENDING) <;> rfl

/-- A row enters SENDING exactly when its attempt is counted. -/
theorem entered_attempted (hm : t.find id = some m) (hm' : t'.find id = some m')
    (h : Attempted options m m') :
    (entered t t' id).toNat = if m'.status = .SENDING then 1 else 0 := by
  unfold entered
  rw [sending_find hm, sending_find hm']
  by_cases hsending : m'.status = .SENDING
  · simp [hsending, h.claimed hsending]
  · simp [hsending]

/-- A rewritten outbox stays balanced with the transitions that it counts. -/
theorem balanced_rewrites {sendings : UUID → Nat} (h : Rewrites (Attempted options) t t')
    (hb : Balanced options t sendings) :
    Balanced options t' fun id => sendings id + (entered t t' id).toNat := by
  constructor
  · intro id m' hm'
    obtain ⟨m, hm, hchange⟩ := h.back hm'
    rcases hchange with rfl | hchange
    · rw [entered_same hm hm']
      exact hb.row id m' hm
    · rw [entered_attempted hm hm' hchange]
      exact accounted_attempted (hb.row id m hm) hchange
  · intro id hnone
    have hbefore : t.find id = none := by
      by_contra hsome
      obtain ⟨m, hm⟩ := Option.ne_none_iff_exists'.mp hsome
      obtain ⟨m', hm', -⟩ := h.kept id m hm
      exact absurd (hnone.symm.trans hm') nofun
    have habsent : entered t t' id = false := by
      simp [entered, sending, hnone]
    show sendings id + (entered t t' id).toNat = 0
    rw [habsent, hb.absent id hbefore]
    rfl

/-- A new row starts with no attempt and no transition. -/
theorem balanced_inserted {sendings : UUID → Nat} (hinsert : t.insert m = some t')
    (hpending : m.status = .PENDING) (hcount : m.attemptCount = 0) (hb : Balanced options t sendings) :
    Balanced options t' fun id => sendings id + (entered t t' id).toNat := by
  have hpositive := options.positive.2.2.2.1
  constructor
  · intro id n hn
    have hfind := Table.find_insert hinsert id
    by_cases hid : id = m.id
    · rw [hn, if_pos hid] at hfind
      obtain rfl := Option.some.inj hfind
      have hnone : t.find id = none := hid ▸ Table.insert_fresh hinsert
      have hquiet : entered t t' id = false := by
        unfold entered
        rw [sending_find hn, hpending]
        rfl
      rw [hquiet, hb.absent id hnone]
      exact ⟨hcount, by omega, fun _ => by omega⟩
    · rw [hn, if_neg hid] at hfind
      rw [entered_same hfind.symm hn]
      exact hb.row id n hfind.symm
  · intro id hnone
    have hbefore : t.find id = none := by
      by_contra hsome
      obtain ⟨n, hn⟩ := Option.ne_none_iff_exists'.mp hsome
      exact absurd (hnone.symm.trans (Table.insert_keeps hinsert hn)) nofun
    have habsent : entered t t' id = false := by
      simp [entered, sending, hnone]
    show sendings id + (entered t t' id).toNat = 0
    rw [habsent, hb.absent id hbefore]
    rfl

variable {sha256 : CanonicalAction → Str} {w w' : World ι κ} {a : SenderSystem.Action ι κ}
  {sendings : UUID → Nat}

omit [DecidableEq ι] [DecidableEq κ] [Fintype ι] [Fintype κ] in
/-- A step counts attempts in the rows it changes, or adds a row without one. -/
theorem written_attempted (h : Written (equalSetup ι sha256 options) w a t) :
    Rewrites (Attempted options) w.outbox t ∨
      ∃ m, w.outbox.insert m = some t ∧ m.status = .PENDING ∧ m.attemptCount = 0 := by
  cases h with
  | untouched => exact .inl (.refl _ _)
  | enqueued _ _ _ _ m insert pending unattempted => exact .inr ⟨m, insert, pending, unattempted⟩
  | recovered _ _ _ _ rewrites =>
    exact .inl (rewrites.mono fun _ _ hab => attempted_of_stamped (by decide) hab.2)
  | cancelled _ _ _ _ rewrites =>
    exact .inl (rewrites.mono fun _ _ hab => attempted_of_stamped (by decide) hab.2)
  | reconciled _ _ _ _ _ rewrites =>
    exact .inl (rewrites.mono fun _ _ hab => attempted_of_stamped (by decide) hab.2)
  | claimed _ _ _ _ _ _ rewrites =>
    exact .inl (rewrites.mono fun _ _ hab => attempted_of_stamped (by decide) hab.2)
  | extended _ _ _ _ _ _ rewrites =>
    exact .inl (rewrites.mono fun _ _ hab => attempted_of_stamped (by decide) hab.2)
  | prepared _ _ _ _ _ _ _ rewrites =>
    exact .inl (rewrites.mono fun _ _ hab => attempted_of_stamped (by decide) hab.2)
  | finished _ _ _ _ _ _ _ _ rewrites =>
    exact .inl (rewrites.mono fun _ _ hab => attempted_of_finished hab)

/-- A message that a step does not move into SENDING keeps its count. -/
theorem unsent_keeps (h : step (equalSetup ι sha256 options) w a = some w')
    (hm : w.outbox.find id = some m) (hm' : w'.outbox.find id = some m')
    (hunsent : m'.status ≠ .SENDING) : m'.attemptCount = m.attemptCount := by
  rcases written_attempted (step_written h) with hrewrites | ⟨n, hinsert, -, -⟩
  · obtain ⟨n, hn, hchange⟩ := hrewrites.kept id m hm
    obtain rfl : m' = n := Option.some.inj (hm'.symm.trans hn)
    rcases hchange with rfl | hchange
    · rfl
    · have hcount := hchange.attempts
      rw [if_neg hunsent] at hcount
      exact hcount
  · have hkept := Table.insert_keeps hinsert hm
    rw [Option.some.inj (hm'.symm.trans hkept)]

/-- A step keeps the books balanced. -/
theorem balanced_step {s s' : Counted ι κ} (hs : Balanced options s.world.outbox s.sendings)
    (h : countedStep (equalSetup ι sha256 options) s a = some s') :
    Balanced options s'.world.outbox s'.sendings := by
  obtain ⟨w, hstep, rfl⟩ := Option.map_eq_some_iff.mp h
  rcases written_attempted (step_written hstep) with hrewrites | ⟨m, hinsert, hpending, hcount⟩
  · exact balanced_rewrites hrewrites hs
  · exact balanced_inserted hinsert hpending hcount hs

theorem balanced_start (options : SenderOptions) :
    Balanced options (Table.empty OutboxMessage.id) fun _ => 0 := by
  constructor
  · intro id m hm
    rw [Table.find_empty] at hm
    cases hm
  · intro id _
    rfl

/-- In every run a message has as many attempts as transitions into SENDING, at most the maximum
and fewer while it can still be sent, and a claim that ends elsewhere leaves the count. -/
theorem attempt_accounting {around : Policy.Surroundings}
    {actions : List (SenderSystem.Action ι κ)} {s : Counted ι κ}
    (hrun : run (countedStep (equalSetup ι sha256 options)) (Counted.start around) actions = some s) :
    (∀ id m, s.world.outbox.find id = some m → m.attemptCount = s.sendings id ∧
      m.attemptCount ≤ options.maxAttempts ∧
      (m.status ∈ [OutboxStatus.PENDING, .CLAIMED, .FAILED_RETRYABLE] →
        m.attemptCount < options.maxAttempts)) ∧
    ∀ a w, step (equalSetup ι sha256 options) s.world a = some w → ∀ id m m',
      s.world.outbox.find id = some m → w.outbox.find id = some m' → m.status = .CLAIMED →
        m'.status ≠ .SENDING → m'.attemptCount = m.attemptCount := by
  have hbalanced : Balanced options s.world.outbox s.sendings := by
    apply run_invariant (fun v : Counted ι κ => Balanced options v.world.outbox v.sendings) _
      (balanced_start options) hrun
    intro v a v' hv hstep
    exact balanced_step hv hstep
  constructor
  · intro id m hm
    obtain ⟨hcounted, hbounded, hleft⟩ := hbalanced.row id m hm
    refine ⟨hcounted, hbounded, ?_⟩
    intro hin
    apply hleft
    simpa [sendable] using hin
  · intro a w hstep id m m' hm hm' _ hunsent
    exact unsent_keeps hstep hm hm' hunsent

/-- One attempt that may be tried again, and the next claim. -/
def twoClaims : List (SenderSystem.Action Unit Empty) :=
  [.enqueue (AccountSerial.sampleRequest "key") 0 1] ++ toBoundary () 1 0 [] 0 ++
    [.startPost (), .endPost () (.geweError (.transport (some .connectError) true)),
      .finish () second 0, .leaveGuard (), .lockAccount () 1 (4 * second), .countInFlight (),
      .claimNext () fun _ => false]

def twoClaimsRun : Option (Counted Unit Empty) :=
  run (countedStep (equalSetup Unit (fun _ => []) .default)) (Counted.start sampleSurroundings)
    twoClaims

theorem twoClaimsRun_isSome : twoClaimsRun.isSome = true := by decide +kernel

theorem attempt_accounting_claimed :
    ((twoClaimsRun.get twoClaimsRun_isSome).world.outbox.find 1).isSome = true ∧
      ∀ m, (twoClaimsRun.get twoClaimsRun_isSome).world.outbox.find 1 = some m →
        m.attemptCount = (twoClaimsRun.get twoClaimsRun_isSome).sendings 1 ∧
          m.attemptCount ≤ SenderOptions.default.maxAttempts := by
  constructor
  · decide +kernel
  intro m hm
  have hrun : run (countedStep (equalSetup Unit (fun _ => []) .default))
      (Counted.start sampleSurroundings) twoClaims = some (twoClaimsRun.get twoClaimsRun_isSome) :=
    (Option.some_get _).symm
  obtain ⟨hcounted, hbounded, -⟩ := (attempt_accounting hrun).1 1 m hm
  exact ⟨hcounted, hbounded⟩

end WechatBot.AttemptCount
