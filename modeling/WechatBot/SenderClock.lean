import WechatBot.OutboxStamps

/-!
# One worker on the clock

The tasks of a single `SenderWorker`, one for each account that it serves, with the
instants of their steps. A task reads the clock after its last step and before its next
one; a sleep lasts at least as long as it was asked to. The starts of the `post_text`
calls are recorded.
-/
namespace WechatBot.SenderClock

open PyData OutboxState OutboxService Sender SenderEffects SenderSystem OutboxStamps
open Tables (Table)

/-- The start of a `post_text` call. -/
structure Post where
  accountId : UUID
  messageId : UUID
  targetWxid : Str
  startedAt : Time
  deriving DecidableEq, Repr

/-- `serves` names the account of a task: the worker's account locks admit one task for
each account. -/
structure Worker (ι : Type) where
  sha256 : CanonicalAction → Str
  options : SenderOptions
  serves : ι → UUID
  distinct : Function.Injective serves

def Worker.setup {ι : Type} (worker : Worker ι) : Setup ι := ⟨worker.sha256, fun _ => worker.options⟩

/-- `last` is the instant of a task's last step and `wake` the end of its last sleep. -/
structure Clocked (ι κ : Type) where
  world : World ι κ
  clock : Time
  last : ι → Time
  wake : ι → Time
  posts : List Post

structure Tick (ι κ : Type) where
  instant : Time
  action : SenderSystem.Action ι κ

variable {ι κ : Type} [DecidableEq ι] [DecidableEq κ]

/-- The task that takes the step. -/
def actor : SenderSystem.Action ι κ → Option ι
  | .lockAccount i _ _ => some i
  | .countInFlight i => some i
  | .claimNext i _ => some i
  | .respectRateLimit i _ _ => some i
  | .extendClaimLease i _ => some i
  | .authorizationGuard i => some i
  | .prepareSend i _ _ => some i
  | .startPost i => some i
  | .failBeforePost i _ => some i
  | .endPost i _ => some i
  | .finish i _ _ => some i
  | .leaveGuard i => some i
  | .crash i => some i
  | _ => none

/-- A reading of a task's clock between its last step and this one. -/
def Reads (s : Clocked ι κ) (tick : Tick ι κ) (i : ι) (now : Time) : Prop :=
  s.last i ≤ now ∧ now ≤ tick.instant

/-- A manual operation reads the clock when it holds the row lock. -/
def ReadsLocked (s : Clocked ι κ) (tick : Tick ι κ) (messageId : UUID) (now : Time) : Prop :=
  (∀ m, s.world.outbox.find messageId = some m → m.updatedAt ≤ now) ∧ now ≤ tick.instant

/-- The readings and the waking times of an action. -/
abbrev OnTime (worker : Worker ι) (s : Clocked ι κ) (tick : Tick ι κ) :
    SenderSystem.Action ι κ → Prop
  | .lockAccount i accountId now => accountId = worker.serves i ∧ Reads s tick i now
  | .respectRateLimit i now groupInterval =>
    Reads s tick i now ∧ worker.options.groupIntervalMin ≤ groupInterval ∧
      groupInterval ≤ worker.options.groupIntervalMax
  | .extendClaimLease i now => Reads s tick i now
  | .authorizationGuard i => s.wake i ≤ tick.instant
  | .prepareSend i now policyNow => Reads s tick i now ∧ now ≤ policyNow
  | .finish i now _ => Reads s tick i now
  | .cancelMessage messageId _ now => ReadsLocked s tick messageId now
  | .reconcileUnknown messageId _ _ now => ReadsLocked s tick messageId now
  | .recoverExpiredLeases now _ => now ≤ tick.instant
  | .enqueue _ now _ => now ≤ tick.instant
  | _ => True

def Timely (worker : Worker ι) (s : Clocked ι κ) (tick : Tick ι κ) : Prop :=
  s.clock ≤ tick.instant ∧ OnTime worker s tick tick.action

instance (o : Option OutboxMessage) (now : Time) : Decidable (∀ m, o = some m → m.updatedAt ≤ now) :=
  Runs.optionAllDecidable o fun m => m.updatedAt ≤ now

instance (s : Clocked ι κ) (tick : Tick ι κ) (messageId : UUID) (now : Time) :
    Decidable (ReadsLocked s tick messageId now) := inferInstanceAs (Decidable (_ ∧ _))

instance (s : Clocked ι κ) (tick : Tick ι κ) (i : ι) (now : Time) : Decidable (Reads s tick i now) :=
  inferInstanceAs (Decidable (_ ∧ _))

instance (worker : Worker ι) (s : Clocked ι κ) (tick : Tick ι κ) (a : SenderSystem.Action ι κ) :
    Decidable (OnTime worker s tick a) := by
  cases a <;> exact inferInstance

instance (worker : Worker ι) (s : Clocked ι κ) (tick : Tick ι κ) : Decidable (Timely worker s tick) :=
  inferInstanceAs (Decidable (_ ∧ OnTime worker s tick tick.action))

/-- The end of the sleep that a step begins. -/
def slept (s : Clocked ι κ) (tick : Tick ι κ) : ι → Time :=
  match tick.action with
  | .extendClaimLease i _ =>
    match s.world.pipeline i with
    | .delayed _ delay => Function.update s.wake i (tick.instant + delay)
    | _ => s.wake
  | _ => s.wake

/-- The call that a step starts. -/
def started (s : Clocked ι κ) (tick : Tick ι κ) : List Post :=
  match tick.action with
  | .startPost i =>
    match s.world.pipeline i with
    | .prepared send _ => [⟨send.botAccountId, send.messageId, send.request.toWxid, tick.instant⟩]
    | _ => []
  | _ => []

def stamped (s : Clocked ι κ) (tick : Tick ι κ) : ι → Time :=
  match actor tick.action with
  | some i => Function.update s.last i tick.instant
  | none => s.last

variable [Fintype ι] [Fintype κ]

def tickStep (worker : Worker ι) (s : Clocked ι κ) (tick : Tick ι κ) : Option (Clocked ι κ) :=
  if Timely worker s tick then
    (step worker.setup s.world tick.action).map fun world =>
      ⟨world, tick.instant, stamped s tick, slept s tick, s.posts ++ started s tick⟩
  else none

/-- The worker before its first step. -/
def Clocked.start (outbox : Outbox) (around : Policy.Surroundings) (now : Time) : Clocked ι κ :=
  ⟨atRest outbox around, now, fun _ => now, fun _ => now, []⟩

theorem tickStep_some {worker : Worker ι} {s s' : Clocked ι κ} {tick : Tick ι κ} :
    tickStep worker s tick = some s' ↔ Timely worker s tick ∧
      ∃ world, step worker.setup s.world tick.action = some world ∧
        s' = ⟨world, tick.instant, stamped s tick, slept s tick, s.posts ++ started s tick⟩ := by
  unfold tickStep
  split
  · rename_i htimely
    simp only [Option.map_eq_some_iff, htimely, true_and]
    constructor
    · rintro ⟨world, hstep, rfl⟩
      exact ⟨world, hstep, rfl⟩
    · rintro ⟨world, hstep, rfl⟩
      exact ⟨world, hstep, rfl⟩
  · rename_i hlate
    simp [hlate]

end WechatBot.SenderClock
