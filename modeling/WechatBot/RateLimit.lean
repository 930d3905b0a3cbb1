import Mathlib.Data.List.Sort
import WechatBot.SenderPacing

/-!
# Sends per minute

The limiter counts message rows. A row stands for the last call of its message only, so
the answer bounds the calls of the last minute when these are calls of different messages.
-/
namespace WechatBot.RateLimit

open PyData OutboxState OutboxService Sender SenderEffects SenderSystem SenderClock SenderPacing
open GeweErrors (PostOutcome)
open Tables (Table)
open Runs (run EachStep run_invariant_of_each each_of_invariant)

/-- In a descending list at most `k` entries are greater than the entry at `k`. -/
theorem count_above {l : List Int} {k : Nat} {x : Int} (hsorted : l.Pairwise (· ≥ ·))
    (hx : l[k]? = some x) : (l.filter fun a => decide (x < a)).length ≤ k := by
  induction l generalizing k with
  | nil => cases hx
  | cons a l ih =>
    obtain ⟨hhead, htail⟩ := List.pairwise_cons.mp hsorted
    cases k with
    | zero =>
      obtain rfl : a = x := by simpa using hx
      have hnone : (a :: l).filter (fun b => decide (a < b)) = [] := by
        apply List.filter_eq_nil_iff.mpr
        intro b hb
        rcases List.mem_cons.mp hb with rfl | hb
        · simp
        · simpa using hhead b hb
      rw [hnone]
      exact le_refl _
    | succ k =>
      have hrest := ih htail (by simpa using hx)
      rw [List.filter_cons]
      split
      · rw [List.length_cons]
        omega
      · omega

theorem le_foldl_max (l : List Int) (a : Int) : a ≤ l.foldl max a ∧ ∀ x ∈ l, x ≤ l.foldl max a := by
  induction l generalizing a with
  | nil => exact ⟨le_refl a, nofun⟩
  | cons b l ih =>
    obtain ⟨hmax, hall⟩ := ih (max a b)
    constructor
    · exact (le_max_left a b).trans hmax
    · intro x hx
      rcases List.mem_cons.mp hx with rfl | hx
      · exact (le_max_right a x).trans hmax
      · exact hall x hx

variable {options : SenderOptions} {t : Outbox} {claimed : ClaimedMessage} {now at_ : Time}
  {groupInterval : Int}

/-- No claim is held back by a negative delay. -/
theorem rateLimitDelay_nonneg : 0 ≤ rateLimitDelay options t claimed now groupInterval :=
  (le_foldl_max _ 0).1

/-- The threshold of a full minute. -/
theorem threshold_le {threshold : Time}
    (hfull : options.perMinuteLimit ≤ (recentAttempts t claimed.botAccountId now).length)
    (hthreshold : (((recentAttempts t claimed.botAccountId now).map Prod.fst).insertionSort
      (· ≥ ·))[options.perMinuteLimit - 1]? = some threshold) :
    60 * second - (now - threshold) ≤ rateLimitDelay options t claimed now groupInterval := by
  unfold rateLimitDelay
  apply (le_foldl_max _ 0).2
  simp [hfull, hthreshold]

/-- Fewer rows than the limit are younger than a minute when the delay is over. -/
theorem rows_below_limit (h : now + rateLimitDelay options t claimed now groupInterval ≤ at_) :
    ((recentAttempts t claimed.botAccountId now).filter fun a =>
      decide (at_ - 60 * second < a.1)).length < options.perMinuteLimit := by
  have hpositive := options.positive.2.2.1
  by_cases hfull : options.perMinuteLimit ≤ (recentAttempts t claimed.botAccountId now).length
  · have hindex : options.perMinuteLimit - 1 <
        (((recentAttempts t claimed.botAccountId now).map Prod.fst).insertionSort (· ≥ ·)).length := by
      rw [List.length_insertionSort, List.length_map]
      omega
    have hthreshold := List.getElem?_eq_getElem hindex
    have hdelay := @threshold_le _ _ _ _ groupInterval _ hfull hthreshold
    have hcount := count_above (List.pairwise_insertionSort (· ≥ ·) _) hthreshold
    have hperm := List.perm_insertionSort (· ≥ ·)
      ((recentAttempts t claimed.botAccountId now).map Prod.fst)
    rw [(hperm.filter _).length_eq, List.filter_map, List.length_map] at hcount
    have hfewer : ((recentAttempts t claimed.botAccountId now).filter fun a =>
        decide (at_ - 60 * second < a.1)).length ≤ options.perMinuteLimit - 1 := by
      refine le_trans (List.Sublist.length_le ?_) hcount
      apply List.monotone_filter_right
      intro a ha
      simp only [Function.comp, decide_eq_true_eq] at ha ⊢
      linarith
    omega
  · have hfilter := List.length_filter_le (fun a : Time × Str => decide (at_ - 60 * second < a.1))
      (recentAttempts t claimed.botAccountId now)
    omega

/-- The calls of an account that started after an instant. -/
def callsAfter (posts : List Post) (accountId : UUID) (instant : Time) : List Post :=
  posts.filter fun post => decide (post.accountId = accountId ∧ instant < post.startedAt)

theorem mem_callsAfter {posts : List Post} {accountId : UUID} {instant : Time} {post : Post} :
    post ∈ callsAfter posts accountId instant ↔
      post ∈ posts ∧ post.accountId = accountId ∧ instant < post.startedAt := by
  simp [callsAfter]

/-- A later instant leaves fewer calls. -/
theorem callsAfter_sublist (posts : List Post) (accountId : UUID) {early late : Time}
    (h : early ≤ late) : List.Sublist (callsAfter posts accountId late)
      (callsAfter posts accountId early) := by
  apply List.monotone_filter_right
  intro post hpost
  simp only [decide_eq_true_eq] at hpost ⊢
  exact ⟨hpost.1, h.trans_lt hpost.2⟩

/-- One row is counted for each message. -/
theorem calls_le_rows {posts : List Post} {accountId : UUID} {instant : Time}
    (hinstant : now - 60 * second ≤ instant)
    (hapart : ((callsAfter posts accountId instant).map Post.messageId).Nodup)
    (hrow : ∀ post ∈ posts, ∃ m, PostRow t post m) (hlanded : NoSending t accountId) :
    (callsAfter posts accountId instant).length ≤
      ((recentAttempts t accountId now).filter fun a => decide (instant < a.1)).length := by
  let counted : OutboxMessage → Bool := fun m =>
    decide (m.botAccountId = accountId) && decide (0 < m.attemptCount) &&
      decide (now - 60 * second ≤ m.updatedAt)
  have hrows : (recentAttempts t accountId now).filter (fun a => decide (instant < a.1)) =
      (((t.rows.filter counted).filter fun m => decide (instant < m.updatedAt)).map
        fun m => (m.updatedAt, m.targetWxid)) := by
    unfold recentAttempts
    rw [List.filter_map]
    rfl
  rw [hrows, List.length_map, ← List.length_map Post.messageId,
    ← List.length_map OutboxMessage.id]
  apply List.Subperm.length_le
  apply hapart.subperm
  intro id hid
  obtain ⟨post, hpost, rfl⟩ := List.mem_map.mp hid
  obtain ⟨hmem, haccount, hlate⟩ := mem_callsAfter.mp hpost
  obtain ⟨m, hm⟩ := hrow post hmem
  have howner : m.botAccountId = accountId := hm.account.trans haccount
  have hnoted : post.startedAt ≤ m.updatedAt :=
    hm.noted.resolve_right (hlanded _ m hm.found howner)
  have hfresh : instant < m.updatedAt := hlate.trans_le hnoted
  refine List.mem_map.mpr ⟨m, ?_, Table.find_key hm.found⟩
  simp only [List.mem_filter, decide_eq_true_eq, counted, Bool.and_eq_true]
  exact ⟨⟨Table.find_mem hm.found, ⟨howner, hm.attempted⟩, hinstant.trans hfresh.le⟩, hfresh⟩

/-- A call with fewer than `limit` calls of its account in the minute before it. -/
def BelowLimit (limit : Nat) (posts : List Post) (post : Post) : Prop :=
  (callsAfter posts post.accountId (post.startedAt - 60 * second)).length < limit

/-- The limit of one account does not look at the calls of another. -/
theorem belowLimit_other (limit : Nat) : FitsOther (BelowLimit limit) := by
  intro posts post new hnew h
  have hnone : callsAfter new post.accountId (post.startedAt - 60 * second) = [] := by
    apply List.filter_eq_nil_iff.mpr
    intro other hother
    simp [hnew other hother]
  have happend : callsAfter (posts ++ new) post.accountId (post.startedAt - 60 * second) =
      callsAfter posts post.accountId (post.startedAt - 60 * second) ++ [] := by
    rw [← hnone]
    exact List.filter_append _ _
  unfold BelowLimit
  rw [happend, List.append_nil]
  exact h

variable {ι κ : Type} [DecidableEq ι] [DecidableEq κ] [Fintype ι] [Fintype κ]

/-- The calls of the account in the minute before the limiter's reading were made for
messages that differ. -/
def SeenApart (s : Clocked ι κ) (tick : Tick ι κ) : Prop :=
  ∀ i now groupInterval claim, tick.action = .respectRateLimit i now groupInterval →
    s.world.pipeline i = .claimed claim →
      ((callsAfter s.posts claim.botAccountId (now - 60 * second)).map Post.messageId).Nodup

variable {worker : Worker ι} {s s' : Clocked ι κ} {tick : Tick ι κ}

omit [DecidableEq ι] [DecidableEq κ] [Fintype ι] [Fintype κ] in
/-- The limiter keeps the limit as long as it sees the calls in its rows. -/
theorem limits_of_seenApart (hs : Paced worker (BelowLimit worker.options.perMinuteLimit) s)
    (hapart : SeenApart s tick) : Limits worker (BelowLimit worker.options.perMinuteLimit) s tick := by
  intro i now groupInterval claim haction hphase at_ hat
  have hok := hs.phase i
  rw [hphase] at hok
  obtain ⟨haccount, hlanded, -⟩ := hok
  have hnonneg := @rateLimitDelay_nonneg worker.options s.world.outbox claim now groupInterval
  have hinstant : now - 60 * second ≤ at_ - 60 * second := by linarith
  have hnodup := (hapart i now groupInterval claim haction hphase).sublist
    ((callsAfter_sublist s.posts claim.botAccountId hinstant).map Post.messageId)
  have hbelow := rows_below_limit hat
  rw [haccount] at hnodup hbelow
  exact (calls_le_rows hinstant hnodup hs.row hlanded).trans_lt hbelow

omit [DecidableEq ι] [DecidableEq κ] [Fintype ι] [Fintype κ] in
/-- Before the first step nothing has been called. -/
theorem paced_start (worker : Worker ι) (Fits : List Post → Post → Prop) (outbox : Outbox)
    (around : Policy.Surroundings) (now : Time) :
    Paced worker Fits (Clocked.start outbox around now : Clocked ι κ) :=
  ⟨fun _ => le_refl now, nofun, nofun, fun _ => trivial, fun _ => trivial, .nil⟩

/-- In every half-open minute at most `limit` calls of an account start. -/
def WithinLimit (limit : Nat) (posts : List Post) : Prop :=
  ∀ accountId begin_, (posts.filter fun post => decide (post.accountId = accountId ∧
    begin_ ≤ post.startedAt ∧ post.startedAt < begin_ + 60 * second)).length ≤ limit

/-- The last call of a window has all the others of the window in the minute before it. -/
theorem withinLimit_of_admitted {limit : Nat} {posts : List Post}
    (h : Admitted (BelowLimit limit) posts) : WithinLimit limit posts := by
  intro accountId begin_
  induction h with
  | nil => exact Nat.zero_le limit
  | @snoc posts post before later fits ih =>
    rw [List.filter_append, List.length_append]
    by_cases hin : post.accountId = accountId ∧ begin_ ≤ post.startedAt ∧
        post.startedAt < begin_ + 60 * second
    · have hwindow : (posts.filter fun other => decide (other.accountId = accountId ∧
          begin_ ≤ other.startedAt ∧ other.startedAt < begin_ + 60 * second)).length ≤
          (callsAfter posts post.accountId (post.startedAt - 60 * second)).length := by
        apply List.Sublist.length_le
        apply List.monotone_filter_right
        intro other hother
        simp only [decide_eq_true_eq] at hother ⊢
        refine ⟨hother.1.trans hin.1.symm, ?_⟩
        linarith [hother.2.1, hin.2.2]
      have hlast : ([post].filter fun other => decide (other.accountId = accountId ∧
          begin_ ≤ other.startedAt ∧ other.startedAt < begin_ + 60 * second)).length ≤ 1 :=
        List.length_filter_le _ _
      have hfits : (callsAfter posts post.accountId (post.startedAt - 60 * second)).length < limit :=
        fits
      omega
    · have hnone : [post].filter (fun other => decide (other.accountId = accountId ∧
          begin_ ≤ other.startedAt ∧ other.startedAt < begin_ + 60 * second)) = [] := by
        simp [hin]
      rw [hnone]
      exact ih

/-- The limiter's rows stand for all the calls of the last minute, and no attempt loses its
lease before its call has started. -/
def RowForEachCall (s : Clocked ι κ) (tick : Tick ι κ) : Prop :=
  SeenApart s tick ∧ RecoveredAfterStart s tick

/-- In every run in which the rows stand for the calls, no account starts more than the limit of
calls in any window of sixty seconds. -/
theorem per_minute_limit {outbox : Outbox} {around : Policy.Surroundings} {now : Time}
    {ticks : List (Tick ι κ)}
    (heach : EachStep (tickStep worker) RowForEachCall (Clocked.start outbox around now) ticks)
    (hrun : run (tickStep worker) (Clocked.start outbox around now) ticks = some s) :
    WithinLimit worker.options.perMinuteLimit s.posts := by
  have hpaced : Paced worker (BelowLimit worker.options.perMinuteLimit) s := by
    apply run_invariant_of_each RowForEachCall _ _ (paced_start worker _ outbox around now) heach hrun
    intro v tick v' hv hcondition hstep
    exact paced_step (belowLimit_other _) hv hcondition.2 (limits_of_seenApart hv hcondition.1) hstep
  exact withinLimit_of_admitted hpaced.admitted

def limitedOptions : SenderOptions :=
  { SenderOptions.default with perMinuteLimit := 2, positive := by decide }

def limitedWorker : Worker Unit := ⟨fun _ => [], limitedOptions, fun _ => 1, fun _ _ _ => rfl⟩

/-- A claim of the account's next message and its call. -/
def attempt (claimAt : Time) (pause : List (Tick Unit Empty)) (callAt : Time)
    (outcome : PostOutcome) : List (Tick Unit Empty) :=
  [⟨claimAt, .lockAccount () 1 claimAt⟩, ⟨claimAt, .countInFlight ()⟩,
    ⟨claimAt, .claimNext () fun _ => false⟩, ⟨claimAt, .respectRateLimit () claimAt (3 * second)⟩] ++
  pause ++
  [⟨callAt, .authorizationGuard ()⟩, ⟨callAt, .prepareSend () callAt callAt⟩,
    ⟨callAt, .startPost ()⟩, ⟨callAt, .endPost () outcome⟩, ⟨callAt, .finish () callAt 0⟩,
    ⟨callAt, .leaveGuard ()⟩]

/-- The sleep of a limited task begins when its lease is extended. -/
def pauseAt (now : Time) : List (Tick Unit Empty) := [⟨now, .extendClaimLease () now⟩]

/-- The action recovers expired leases. -/
def recovers : SenderSystem.Action Unit Empty → Bool
  | .recoverExpiredLeases _ _ => true
  | _ => false

def accepted : PostOutcome := .sent ⟨py "g@chatroom", 0, py "1", py "2", 1⟩

def threeMessages : Outbox :=
  ⟨[sampleMessage 1 none, sampleMessage 2 none, sampleMessage 3 none], by decide⟩

/-- The third message waits until the first call is a minute old. -/
def threeSends : List (Tick Unit Empty) :=
  attempt 0 [] second accepted ++ attempt (5 * second) [] (5 * second) accepted ++
    attempt (9 * second) (pauseAt (9 * second)) (61 * second) accepted

/-- Calls of different messages, and no lease recovered. -/
def OncePerMessage (s : Clocked Unit Empty) (tick : Tick Unit Empty) : Prop :=
  (s.posts.map Post.messageId).Nodup ∧ recovers tick.action = false

instance (s : Clocked Unit Empty) (tick : Tick Unit Empty) : Decidable (OncePerMessage s tick) :=
  inferInstanceAs (Decidable (_ ∧ _))

/-- Messages that are called at most once have a row for each call. -/
theorem rowForEachCall_of_once {s : Clocked Unit Empty} {tick : Tick Unit Empty}
    (h : OncePerMessage s tick) : RowForEachCall s tick := by
  constructor
  · intro i now groupInterval claim _ _
    exact h.1.sublist ((List.filter_sublist).map Post.messageId)
  · intro now ids haction
    have hquiet := h.2
    rw [haction] at hquiet
    cases hquiet

theorem threeSends_isSome : (run (tickStep limitedWorker)
    (Clocked.start threeMessages sampleSurroundings 0) threeSends).isSome = true := by
  decide +kernel

theorem threeSends_once : EachStep (tickStep limitedWorker) OncePerMessage
    (Clocked.start threeMessages sampleSurroundings 0) threeSends := by
  decide +kernel

theorem per_minute_limit_three : WithinLimit limitedWorker.options.perMinuteLimit
    ((run (tickStep limitedWorker) (Clocked.start threeMessages sampleSurroundings 0)
      threeSends).get threeSends_isSome).posts :=
  per_minute_limit
    (each_of_invariant (fun _ => True) (fun _ _ _ _ _ _ => trivial)
      (fun _ _ _ => rowForEachCall_of_once) trivial threeSends_once)
    (Option.some_get _).symm

def refused : PostOutcome := .geweError (.transport (some .connectError) true)

/-- Two refusals that may be retried and a third call, all within 20 seconds. -/
def threeAttempts : List (Tick Unit Empty) :=
  attempt 0 [] second refused ++ attempt (4 * second) (pauseAt (4 * second)) (7 * second) refused ++
    attempt (12 * second) (pauseAt (12 * second)) (15 * second) refused

/-- The three calls of the message have one row: the limiter counts one of them. -/
theorem retries_outrun_limit :
    (∀ m ∈ (oneMessage none).rows, m.attemptCount = 0) ∧
      ∃ s, run (tickStep limitedWorker) (Clocked.start (oneMessage none) sampleSurroundings 0)
        threeAttempts = some s ∧ ¬ WithinLimit limitedWorker.options.perMinuteLimit s.posts := by
  refine ⟨by decide, ?_⟩
  have hposts : (run (tickStep limitedWorker) (Clocked.start (oneMessage none) sampleSurroundings 0)
      threeAttempts).map Clocked.posts = some ([second, 7 * second, 15 * second].map fun startedAt =>
        ⟨1, 1, py "g@chatroom", startedAt⟩) := by decide +kernel
  obtain ⟨s, hrun, hs⟩ := Option.map_eq_some_iff.mp hposts
  refine ⟨s, hrun, fun hwithin => ?_⟩
  have hminute := hwithin 1 0
  rw [hs] at hminute
  revert hminute
  decide

end WechatBot.RateLimit
