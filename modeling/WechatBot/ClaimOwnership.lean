import WechatBot.SenderPacing

/-!
# Whose claim a preparation uses

A task claims a message in one transaction and prepares it in a later one, which reads the
status only. The status says CLAIMED, not by whom: the two transactions belong together as
long as no lease is recovered between them.
-/
namespace WechatBot.ClaimOwnership

open PyData OutboxState OutboxService Sender SenderEffects SenderSystem SenderSteps OutboxStamps
  SenderClock SenderPacing
open Tables (Table)
open Runs (run EachStep each_of_invariant)

/-- The message that a task has in hand between its claim and its preparation. -/
def inHand : Phase → Option UUID
  | .claimed claim => some claim.id
  | .delayed claim _ => some claim.id
  | .paced claim => some claim.id
  | .guarded id _ => some id
  | _ => none

/-- The system with the task of each message's last claim. -/
structure Owned (ι κ : Type) where
  world : World ι κ
  claimedBy : UUID → Option ι

variable {ι κ : Type} [DecidableEq ι] [DecidableEq κ] [Fintype ι] [Fintype κ]

def noted (claimedBy : UUID → Option ι) (a : SenderSystem.Action ι κ) (w : World ι κ) :
    UUID → Option ι :=
  match a with
  | .claimNext i _ =>
    match inHand (w.pipeline i) with
    | some id => Function.update claimedBy id (some i)
    | none => claimedBy
  | _ => claimedBy

def ownedStep (setup : Setup ι) (s : Owned ι κ) (a : SenderSystem.Action ι κ) :
    Option (Owned ι κ) :=
  (step setup s.world a).map fun w => ⟨w, noted s.claimedBy a w⟩

def Owned.start (outbox : Outbox) (around : Policy.Surroundings) : Owned ι κ :=
  ⟨atRest outbox around, fun _ => none⟩

def recoveredIds : SenderSystem.Action ι κ → List UUID
  | .recoverExpiredLeases _ ids => ids
  | _ => []

/-- No lease is recovered of a message that a task has in hand. -/
def NotInHand (s : Owned ι κ) (a : SenderSystem.Action ι κ) : Prop :=
  ∀ id ∈ recoveredIds a, ∀ i, inHand (s.world.pipeline i) ≠ some id

instance (s : Owned ι κ) (a : SenderSystem.Action ι κ) : Decidable (NotInHand s a) :=
  List.decidableBAll (fun id => ∀ i, inHand (s.world.pipeline i) ≠ some id) (recoveredIds a)

/-- A preparation that moves a message to SENDING finds it CLAIMED by a claim of its own task. -/
def PreparesOwn (setup : Setup ι) (s : Owned ι κ) (a : SenderSystem.Action ι κ) : Prop :=
  ∀ i now policyNow w, a = .prepareSend i now policyNow → step setup s.world a = some w →
    ∀ id m m', s.world.outbox.find id = some m → w.outbox.find id = some m' →
      m.status ≠ .SENDING → m'.status = .SENDING →
        m.status = .CLAIMED ∧ s.claimedBy id = some i

/-- A message in hand is CLAIMED, or was cancelled. -/
def Waits (t : Outbox) (id : UUID) : Prop :=
  ∃ m, t.find id = some m ∧ (m.status = .CLAIMED ∨ m.status = .CANCELLED)

structure Owns (s : Owned ι κ) (i : ι) (id : UUID) : Prop where
  claimed : s.claimedBy id = some i
  waits : Waits s.world.outbox id

def HandsOwn (s : Owned ι κ) : Prop :=
  ∀ i id, inHand (s.world.pipeline i) = some id → Owns s i id

variable {setup : Setup ι} {s : Owned ι κ} {a : SenderSystem.Action ι κ} {w : World ι κ}
  {t : Outbox}

omit [DecidableEq ι] [DecidableEq κ] [Fintype ι] [Fintype κ] in
theorem handsOwn_unique (hs : HandsOwn s) {i j : ι} {id : UUID}
    (hi : inHand (s.world.pipeline i) = some id) (hj : inHand (s.world.pipeline j) = some id) :
    i = j :=
  Option.some.inj ((hs i id hi).claimed.symm.trans (hs j id hj).claimed)

/-- The edges that leave a claim where it is. -/
def Gentle (edges : Edges) : Prop :=
  ∀ e ∈ edges, e.1 ≠ .CANCELLED ∧ (e.1 = .CLAIMED → e.2 = .CLAIMED ∨ e.2 = .CANCELLED)

instance (edges : Edges) : Decidable (Gentle edges) :=
  inferInstanceAs (Decidable (∀ e ∈ edges, _ ∧ (_ → _)))

theorem waits_gentle {edges : Edges} (hedges : Gentle edges) {now : Time} {m m' : OutboxMessage}
    (h : Stamped edges now m m') (hm : m.status = .CLAIMED ∨ m.status = .CANCELLED) :
    m'.status = .CLAIMED ∨ m'.status = .CANCELLED := by
  obtain ⟨hnot, hclaimed⟩ := hedges _ h.edge
  rcases hm with hm | hm
  · exact hclaimed hm
  · exact absurd hm hnot

theorem waits_rewrites {R : OutboxMessage → OutboxMessage → Prop} {t t' : Outbox} {id : UUID}
    (hR : ∀ m m', m.id = id → R m m' → (m.status = .CLAIMED ∨ m.status = .CANCELLED) →
      m'.status = .CLAIMED ∨ m'.status = .CANCELLED)
    (h : Rewrites R t t') (hw : Waits t id) : Waits t' id := by
  obtain ⟨m, hm, hstatus⟩ := hw
  obtain ⟨m', hm', hchange⟩ := h.kept id m hm
  refine ⟨m', hm', ?_⟩
  rcases hchange with rfl | hchange
  · exact hstatus
  · exact hR m m' (Table.find_key hm) hchange hstatus

omit [DecidableEq ι] [DecidableEq κ] [Fintype ι] [Fintype κ] in
/-- A step takes a claim only out of the hand of the task that takes the step. -/
theorem waits_written (hs : HandsOwn s) (hkept : NotInHand s a)
    (h : Written setup s.world a t) {j : ι} {id : UUID}
    (hj : inHand (s.world.pipeline j) = some id) (hother : actor a ≠ some j) : Waits t id := by
  obtain ⟨-, hwaits⟩ := hs j id hj
  cases h with
  | untouched => exact hwaits
  | enqueued _ _ _ _ _ insert =>
    obtain ⟨m, hm, hstatus⟩ := hwaits
    exact ⟨m, Table.insert_keeps insert hm, hstatus⟩
  | recovered now ids _ _ rewrites =>
    apply waits_rewrites _ rewrites hwaits
    intro m m' hid hrecovered _
    exact absurd hj (hkept id (hid ▸ hrecovered.1) j)
  | cancelled _ _ _ _ rewrites =>
    exact waits_rewrites (fun _ _ _ h => waits_gentle (by decide) h.2) rewrites hwaits
  | reconciled _ _ _ _ _ rewrites =>
    exact waits_rewrites (fun _ _ _ h => waits_gentle (by decide) h.2) rewrites hwaits
  | claimed _ _ _ _ _ _ rewrites =>
    exact waits_rewrites (fun _ _ _ h => waits_gentle (by decide) h.2) rewrites hwaits
  | extended _ _ _ _ _ _ rewrites =>
    exact waits_rewrites (fun _ _ _ h => waits_gentle (by decide) h.2) rewrites hwaits
  | prepared i now policyNow held fence _ phase rewrites =>
    apply waits_rewrites _ rewrites hwaits
    intro m m' hid hprepared _
    have hheld : inHand (s.world.pipeline i) = some id := by
      rw [phase, ← hid, hprepared.1]
      rfl
    exact absurd (congrArg some (handsOwn_unique hs hheld hj)) hother
  | finished _ _ _ _ _ _ _ _ rewrites =>
    exact waits_rewrites (fun _ _ _ h => waits_gentle (by decide) h.2.2) rewrites hwaits

omit [DecidableEq ι] [DecidableEq κ] [Fintype ι] [Fintype κ] in
/-- What a task has in hand after its step is what it had, or what it has claimed. -/
theorem moved_inHand {i : ι} {phase : Phase} {id : UUID} (h : Moved setup s.world a t i phase)
    (hid : inHand phase = some id) :
    (inHand (s.world.pipeline i) = some id ∧ ∀ locked, a ≠ .claimNext i locked) ∨
      ∃ locked, a = .claimNext i locked ∧ ∃ m, t.find id = some m ∧ m.status = .CLAIMED := by
  cases h with
  | claimed _ locked accountId now claim _ m phase named =>
    cases hid
    exact .inr ⟨locked, rfl, m, named.found, named.claimed⟩
  | unlimited _ now groupInterval claim phase =>
    left
    rw [phase]
    exact ⟨hid, nofun⟩
  | limited _ now groupInterval claim phase =>
    left
    rw [phase]
    exact ⟨hid, nofun⟩
  | extended _ now claim delay _ phase =>
    left
    rw [phase]
    exact ⟨hid, nofun⟩
  | guarded _ claim phase =>
    left
    rw [phase]
    exact ⟨hid, nofun⟩
  | _ => cases hid

omit [DecidableEq ι] [DecidableEq κ] [Fintype ι] [Fintype κ] in
/-- The outbox that a step of another kind than a preparation or an extension leaves keeps the
rows in hand. -/
theorem waits_mover (hs : HandsOwn s) {i : ι} {phase : Phase} {id : UUID}
    (hmoved : Moved setup s.world a t i phase) (hwritten : Written setup s.world a t)
    (hid : inHand phase = some id) (hheld : inHand (s.world.pipeline i) = some id) : Waits t id := by
  obtain ⟨-, hwaits⟩ := hs i id hheld
  cases hmoved with
  | extended _ now claim delay _ hphase =>
    cases hwritten with
    | untouched => exact hwaits
    | extended _ _ _ _ _ _ rewrites =>
      exact waits_rewrites (fun _ _ _ h => waits_gentle (by decide) h.2) rewrites hwaits
  | claimed _ _ _ _ _ _ _ hphase =>
    rw [hphase] at hheld
    cases hheld
  | unlimited => exact hwaits
  | limited => exact hwaits
  | guarded => exact hwaits
  | _ => cases hid

/-- A claim takes a message that nobody has in hand. -/
theorem claim_fresh (hs : HandsOwn s) {i : ι} {locked : UUID → Bool} {id : UUID}
    (h : step setup s.world (.claimNext i locked) = some w)
    (hid : inHand (w.pipeline i) = some id) (j : ι) : inHand (s.world.pipeline j) ≠ some id := by
  have hidle : inHand ((s.world.moveTo i .idle).pipeline i) = none := by
    rw [moveTo_self]
    rfl
  simp only [step, World.claimNext] at h
  split at h
  · split at h
    · rename_i t c hok
      cases h
      obtain ⟨u, n, n', hchanges, hclaim, -⟩ := claimLoop_some hok
      rw [moveTo_self] at hid
      cases hid
      intro hj
      obtain ⟨-, m, hm, hstatus⟩ := hs j c.id hj
      obtain ⟨n₀, hn₀, -, hback⟩ := hchanges.back hclaim.found
      obtain rfl : m = n₀ := Option.some.inj (hm.symm.trans hn₀)
      have hwaiting := waiting_iff.mp hclaim.waiting
      rcases hback with hsame | hedge
      · rw [hsame] at hwaiting
        rcases hstatus with hs | hs <;> simp [hs] at hwaiting
      · rcases hwaiting with hn | hn <;> simp [hn, expiryEdges] at hedge
    · cases h
      exact absurd (hidle.symm.trans hid) (fun h => by cases h)
    · cases h
      exact absurd (hidle.symm.trans hid) (fun h => by cases h)
  · cases h

theorem noted_other {j : ι} {id : UUID} (hs : HandsOwn s) (h : step setup s.world a = some w)
    (hj : inHand (s.world.pipeline j) = some id) : noted s.claimedBy a w id = s.claimedBy id := by
  cases a with
  | claimNext i locked =>
    cases hother : inHand (w.pipeline i) with
    | none => simp only [noted, hother]
    | some other =>
      simp only [noted, hother]
      apply Function.update_of_ne
      intro he
      exact claim_fresh hs h hother j (he ▸ hj)
  | _ => rfl

theorem handsOwn_step {s' : Owned ι κ} (hs : HandsOwn s) (hkept : NotInHand s a)
    (h : ownedStep setup s a = some s') : HandsOwn s' := by
  obtain ⟨w, hstep, rfl⟩ := Option.map_eq_some_iff.mp h
  have hwritten := step_written hstep
  intro j id hj
  dsimp only at hj
  rcases step_moves hstep with ⟨hpipeline, hquiet⟩ | ⟨i, phase, hpipeline, hacts, hmoved⟩
  · rw [hpipeline] at hj
    refine ⟨(noted_other hs hstep hj).trans (hs j id hj).claimed, ?_⟩
    by_cases hactor : actor a = some j
    · have hsame : w.outbox = s.world.outbox := (hquiet j hactor).2
      exact hsame ▸ (hs j id hj).waits
    · exact waits_written hs hkept hwritten hj hactor
  · by_cases hij : j = i
    · subst hij
      rw [hpipeline, Function.update_self] at hj
      rcases moved_inHand hmoved hj with ⟨hheld, hnot⟩ | ⟨locked, rfl, m, hm, hclaimed⟩
      · refine ⟨(noted_other hs hstep hheld).trans (hs j id hheld).claimed, ?_⟩
        exact waits_mover hs hmoved hwritten hj hheld
      · refine ⟨?_, m, hm, .inl hclaimed⟩
        have hphase : inHand (w.pipeline j) = some id := by
          rw [hpipeline, Function.update_self]
          exact hj
        simp only [noted, hphase]
        exact Function.update_self id (some j) s.claimedBy
    · rw [hpipeline, Function.update_of_ne hij] at hj
      refine ⟨(noted_other hs hstep hj).trans (hs j id hj).claimed, ?_⟩
      apply waits_written hs hkept hwritten hj
      intro he
      exact hij (Option.some.inj (he.symm.trans hacts))

omit [DecidableEq ι] [DecidableEq κ] [Fintype ι] [Fintype κ] in
theorem prepared_own (hs : HandsOwn s) {i : ι} {now policyNow : Time}
    (h : Written setup s.world (.prepareSend i now policyNow) t) {id : UUID} {m m' : OutboxMessage}
    (hm : s.world.outbox.find id = some m) (hm' : t.find id = some m') (hbefore : m.status ≠ .SENDING)
    (hafter : m'.status = .SENDING) : m.status = .CLAIMED ∧ s.claimedBy id = some i := by
  have hchanged : m' ≠ m := by
    rintro rfl
    exact hbefore hafter
  cases h with
  | untouched => exact absurd (Option.some.inj (hm'.symm.trans hm)) hchanged
  | prepared _ _ _ held fence _ phase rewrites =>
    obtain ⟨n, hn, hchange⟩ := rewrites.kept id m hm
    obtain rfl : m' = n := Option.some.inj (hm'.symm.trans hn)
    obtain ⟨hid, hstamped⟩ := hchange.resolve_left hchanged
    have hheld : inHand (s.world.pipeline i) = some id := by
      rw [phase, ← Table.find_key hm, hid]
      rfl
    have hedge := hstamped.edge
    rw [hafter] at hedge
    constructor
    · cases hstatus : m.status <;> rw [hstatus] at hedge <;> first | rfl | (revert hedge; decide)
    · exact (hs i id hheld).claimed

theorem prepares_own (hs : HandsOwn s) (a : SenderSystem.Action ι κ) : PreparesOwn setup s a := by
  rintro i now policyNow w rfl hstep id m m' hm hm' hbefore hafter
  exact prepared_own hs (step_written hstep) hm hm' hbefore hafter

omit [DecidableEq ι] [DecidableEq κ] [Fintype ι] [Fintype κ] in
theorem handsOwn_start (outbox : Outbox) (around : Policy.Surroundings) :
    HandsOwn (Owned.start outbox around : Owned ι κ) := nofun

/-- Claim ownership, in the runs in which a claim lasts until its preparation. -/
theorem claim_ownership (setup : Setup ι) (outbox : Outbox) (around : Policy.Surroundings)
    (actions : List (SenderSystem.Action ι κ))
    (hkept : EachStep (ownedStep setup) NotInHand (Owned.start outbox around) actions) :
    EachStep (ownedStep setup) (PreparesOwn setup) (Owned.start outbox around) actions := by
  apply each_of_invariant HandsOwn _ _ (handsOwn_start outbox around) hkept
  · intro v b v' hv hnot hstep
    exact handsOwn_step hv hnot hstep
  · intro v b hv _
    exact prepares_own hv b

/-- One worker claims the message; its lease is recovered after 100 seconds, and the other
worker claims the message before the first one goes on. -/
def claimedTwice : List (SenderSystem.Action Bool Empty) :=
  [.lockAccount false 1 0, .countInFlight false, .claimNext false fun _ => false,
    .respectRateLimit false 0 (3 * second), .recoverExpiredLeases (100 * second) [1],
    .lockAccount true 1 (100 * second), .countInFlight true, .claimNext true fun _ => false,
    .authorizationGuard false]

def prepareFirst : SenderSystem.Action Bool Empty :=
  .prepareSend false (101 * second) (101 * second)

def startOwned : Owned Bool Empty := Owned.start (oneMessage none) sampleSurroundings

/-- The preparation of the first worker uses the claim of the second one. -/
theorem prepares_others_claim : ¬ EachStep (ownedStep (sampleSetup Bool))
    (PreparesOwn (sampleSetup Bool)) startOwned (claimedTwice ++ [prepareFirst]) := by
  have hlast : (run (ownedStep (sampleSetup Bool)) startOwned claimedTwice).bind (fun s =>
        (step (sampleSetup Bool) s.world prepareFirst).map fun w =>
          ((s.world.outbox.find 1).map OutboxMessage.status,
            (w.outbox.find 1).map OutboxMessage.status, s.claimedBy 1)) =
      some (some .CLAIMED, some .SENDING, some true) := by decide +kernel
  obtain ⟨s, hrun, hprepare⟩ := Option.bind_eq_some_iff.mp hlast
  obtain ⟨w, hstep, hrows⟩ := Option.map_eq_some_iff.mp hprepare
  simp only [Prod.mk.injEq, Option.map_eq_some_iff] at hrows
  obtain ⟨⟨m, hm, hclaimed⟩, ⟨m', hm', hsending⟩, hother⟩ := hrows
  intro heach
  have hbefore : m.status ≠ .SENDING := by
    rw [hclaimed]
    decide
  obtain ⟨-, hfirst⟩ := heach.last hrun false _ _ w rfl hstep 1 m m' hm hm' hbefore hsending
  rw [hother] at hfirst
  cases hfirst

/-- A recovery after a crash: the second worker prepares what it claimed itself. -/
theorem claim_ownership_crash : EachStep (ownedStep (sampleSetup Bool))
    (PreparesOwn (sampleSetup Bool)) startOwned
      ([.lockAccount false 1 0, .countInFlight false, .claimNext false fun _ => false, .crash false,
        .recoverExpiredLeases (100 * second) [1]] ++
        toBoundary true 1 (100 * second) [] (100 * second)) :=
  claim_ownership (sampleSetup Bool) (oneMessage none) sampleSurroundings _ (by decide +kernel)

end WechatBot.ClaimOwnership
