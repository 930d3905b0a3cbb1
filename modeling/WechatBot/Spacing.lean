import WechatBot.RateLimit

/-!
# Spacing of sends

The limiter takes the last attempt of a target, or of all the chatrooms, from the rows of
the last minute. It keeps an interval as long as no call that the cutoff hides is younger
than that.
-/
namespace WechatBot.Spacing

open PyData OutboxState OutboxService Sender SenderEffects SenderSystem SenderClock SenderPacing
  RateLimit
open Tables (Table)
open Runs (run EachStep run_invariant_of_each each_of_invariant)

/-- The pause reaches from the last of the attempts. -/
theorem pauseSince_covers {interval : Int} {now : Time} {attempts : List (Time × Str)}
    {a : Time × Str} (ha : a ∈ attempts) :
    ∃ last, a.1 ≤ last ∧ interval - (now - last) ∈ pauseSince interval now attempts := by
  have hmem : a.1 ∈ attempts.map Prod.fst := List.mem_map_of_mem ha
  obtain ⟨last, hlast⟩ := Option.isSome_iff_exists.mp (List.isSome_max?_of_mem hmem)
  refine ⟨last, (List.max?_le_iff hlast).mp (le_refl last) a.1 hmem, ?_⟩
  simp [pauseSince, hlast]

variable {options : SenderOptions} {t : Outbox} {claimed : ClaimedMessage} {now at_ : Time}
  {groupInterval : Int}

/-- After the delay a call keeps the interval of its target. -/
theorem target_pause {a : Time × Str} (ha : a ∈ recentAttempts t claimed.botAccountId now)
    (htarget : a.2 = claimed.targetWxid)
    (h : now + rateLimitDelay options t claimed now groupInterval ≤ at_) :
    a.1 + options.targetInterval ≤ at_ := by
  have hmem : a ∈ (recentAttempts t claimed.botAccountId now).filter fun b =>
      decide (b.2 = claimed.targetWxid) := by
    simpa [htarget] using ha
  obtain ⟨last, hle, hpause⟩ :=
    @pauseSince_covers options.targetInterval now _ _ hmem
  have hdelay : options.targetInterval - (now - last) ≤
      rateLimitDelay options t claimed now groupInterval := by
    apply (le_foldl_max _ 0).2
    exact List.mem_append_left _ (List.mem_append_right _ hpause)
  linarith

/-- After the delay a call to a group keeps the interval of the groups. -/
theorem group_pause {a : Time × Str} (ha : a ∈ recentAttempts t claimed.botAccountId now)
    (hfrom : isChatroom a.2 = true) (hto : isChatroom claimed.targetWxid = true)
    (h : now + rateLimitDelay options t claimed now groupInterval ≤ at_) :
    a.1 + groupInterval ≤ at_ := by
  have hmem : a ∈ (recentAttempts t claimed.botAccountId now).filter fun b => isChatroom b.2 := by
    simpa [hfrom] using ha
  obtain ⟨last, hle, hpause⟩ := @pauseSince_covers groupInterval now _ _ hmem
  have hdelay : groupInterval - (now - last) ≤
      rateLimitDelay options t claimed now groupInterval := by
    apply (le_foldl_max _ 0).2
    apply List.mem_append_right
    rw [if_pos hto]
    exact hpause
  linarith

/-- The distance of two calls, `b` after `a`. -/
def Apart (options : SenderOptions) (a b : Post) : Prop :=
  a.accountId = b.accountId →
    (a.targetWxid = b.targetWxid → a.startedAt + options.targetInterval ≤ b.startedAt) ∧
    (isChatroom a.targetWxid = true → isChatroom b.targetWxid = true →
      a.startedAt + options.groupIntervalMin ≤ b.startedAt)

instance (options : SenderOptions) (a b : Post) : Decidable (Apart options a b) :=
  inferInstanceAs (Decidable (_ → _ ∧ _))

/-- A call that is apart from all the calls before it. -/
def KeepsApart (options : SenderOptions) (posts : List Post) (post : Post) : Prop :=
  ∀ other ∈ posts, Apart options other post

/-- The spacing of one account does not look at the calls of another. -/
theorem keepsApart_other (options : SenderOptions) : FitsOther (KeepsApart options) := by
  intro posts post new hnew h other hother
  rcases List.mem_append.mp hother with hold | hlast
  · exact h other hold
  · intro haccount
    exact absurd haccount (hnew other hlast)

variable {ι κ : Type} [DecidableEq ι] [DecidableEq κ] [Fintype ι] [Fintype κ]

/-- The calls that the limiter's cutoff hides are old enough for the intervals. -/
def CutoffCovers (worker : Worker ι) (s : Clocked ι κ) (tick : Tick ι κ) : Prop :=
  ∀ i now groupInterval claim, tick.action = .respectRateLimit i now groupInterval →
    s.world.pipeline i = .claimed claim → ∀ post ∈ s.posts, ∀ m,
      s.world.outbox.find post.messageId = some m → m.updatedAt < now - 60 * second →
        Apart worker.options post ⟨claim.botAccountId, claim.id, claim.targetWxid, now⟩

variable {worker : Worker ι} {s s' : Clocked ι κ} {tick : Tick ι κ}

omit [DecidableEq ι] [DecidableEq κ] [Fintype ι] [Fintype κ] in
/-- Intervals of at most a minute are covered in every state. -/
theorem cutoffCovers_of_short (hs : ∀ post ∈ s.posts, ∃ m, PostRow s.world.outbox post m)
    (hlanded : ∀ i claim, s.world.pipeline i = .claimed claim →
      NoSending s.world.outbox claim.botAccountId)
    (htarget : worker.options.targetInterval ≤ 60 * second)
    (hgroup : worker.options.groupIntervalMin ≤ 60 * second) : CutoffCovers worker s tick := by
  intro i now groupInterval claim _ hphase post hpost m hm hhidden haccount
  obtain ⟨n, hn⟩ := hs post hpost
  obtain rfl : m = n := Option.some.inj (hm.symm.trans hn.found)
  have hnoted : post.startedAt ≤ m.updatedAt :=
    hn.noted.resolve_right (hlanded i claim hphase _ m hm (hn.account.trans haccount))
  constructor
  · intro _
    dsimp only
    linarith
  · intro _ _
    dsimp only
    linarith

omit [DecidableEq ι] [DecidableEq κ] [Fintype ι] [Fintype κ] in
/-- The limiter keeps the calls apart that its cutoff lets it see. -/
theorem limits_of_cutoffCovers (hs : Paced worker (KeepsApart worker.options) s)
    (htimely : Timely worker s tick) (hcovers : CutoffCovers worker s tick) :
    Limits worker (KeepsApart worker.options) s tick := by
  intro i now groupInterval claim haction hphase at_ hat post hpost haccount
  have hok := hs.phase i
  rw [hphase] at hok
  obtain ⟨hclaim, hlanded, -⟩ := hok
  have hontime := htimely.2
  rw [haction] at hontime
  obtain ⟨m, hm⟩ := hs.row post hpost
  have howner : m.botAccountId = worker.serves i := hm.account.trans haccount
  have hnoted : post.startedAt ≤ m.updatedAt :=
    hm.noted.resolve_right (hlanded _ m hm.found howner)
  have hnonneg := @rateLimitDelay_nonneg worker.options s.world.outbox claim now groupInterval
  by_cases hhidden : m.updatedAt < now - 60 * second
  · have happart := hcovers i now groupInterval claim haction hphase post hpost m hm.found hhidden
      (haccount.trans hclaim.symm)
    dsimp only at happart ⊢
    constructor
    · intro htarget
      linarith [happart.1 htarget]
    · intro hfrom hto
      linarith [happart.2 hfrom hto]
  · have hseen : (m.updatedAt, m.targetWxid) ∈
        recentAttempts s.world.outbox claim.botAccountId now := by
      apply List.mem_map.mpr
      refine ⟨m, ?_, rfl⟩
      simp only [List.mem_filter, Bool.and_eq_true, decide_eq_true_eq]
      exact ⟨Table.find_mem hm.found, ⟨howner.trans hclaim.symm, hm.attempted⟩, not_lt.mp hhidden⟩
    constructor
    · intro htarget
      have hpause := target_pause hseen (hm.target.trans htarget) hat
      dsimp only at hpause ⊢
      linarith
    · intro hfrom hto
      have hpause := group_pause hseen (hm.target ▸ hfrom) hto hat
      dsimp only at hpause ⊢
      linarith [hontime.2.1]

/-- The condition on a step: the cutoff hides no call that the intervals concern, and no
attempt loses its lease before its call has started. -/
def CutoffHarmless (worker : Worker ι) (s : Clocked ι κ) (tick : Tick ι κ) : Prop :=
  CutoffCovers worker s tick ∧ RecoveredAfterStart s tick

theorem apart_of_admitted {posts : List Post} (h : Admitted (KeepsApart options) posts) :
    posts.Pairwise (Apart options) := by
  induction h with
  | nil => exact .nil
  | snoc before later fits ih =>
    rw [List.pairwise_append]
    refine ⟨ih, List.pairwise_singleton _ _, ?_⟩
    intro a ha b hb
    rw [List.mem_singleton] at hb
    exact hb ▸ fits a ha

/-- Every run whose cutoff hides nothing is paced. -/
theorem paced_of_harmless {outbox : Outbox} {around : Policy.Surroundings} {now : Time}
    {ticks : List (Tick ι κ)}
    (heach : EachStep (tickStep worker) (CutoffHarmless worker) (Clocked.start outbox around now) ticks)
    (hrun : run (tickStep worker) (Clocked.start outbox around now) ticks = some s) :
    Paced worker (KeepsApart worker.options) s := by
  apply run_invariant_of_each (CutoffHarmless worker) _ _ (paced_start worker _ outbox around now)
    heach hrun
  intro v tick v' hv hcondition hstep
  have htimely := (tickStep_some.mp hstep).1
  exact paced_step (keepsApart_other _) hv hcondition.2
    (limits_of_cutoffCovers hv htimely hcondition.1) hstep

/-- With intervals of at most a minute only the leases are left of the condition. -/
theorem harmless_of_short (htarget : worker.options.targetInterval ≤ 60 * second)
    (hgroup : worker.options.groupIntervalMin ≤ 60 * second) {outbox : Outbox}
    {around : Policy.Surroundings} {now : Time} {ticks : List (Tick ι κ)}
    (heach : EachStep (tickStep worker) RecoveredAfterStart (Clocked.start outbox around now) ticks) :
    EachStep (tickStep worker) (CutoffHarmless worker) (Clocked.start outbox around now) ticks := by
  have hgives : ∀ (v : Clocked ι κ) tick, Paced worker (KeepsApart worker.options) v →
      RecoveredAfterStart v tick → CutoffHarmless worker v tick := by
    intro v tick hv hrecovered
    refine ⟨cutoffCovers_of_short hv.row ?_ htarget hgroup, hrecovered⟩
    intro i claim hphase
    have hok := hv.phase i
    rw [hphase] at hok
    exact hok.1 ▸ hok.2.1
  apply each_of_invariant (Paced worker (KeepsApart worker.options)) _ hgives
    (paced_start worker _ outbox around now) heach
  intro v tick v' hv hrecovered hstep
  have htimely := (tickStep_some.mp hstep).1
  exact paced_step (keepsApart_other _) hv hrecovered
    (limits_of_cutoffCovers hv htimely (hgives v tick hv hrecovered).1) hstep

/-- In every run whose cutoff hides nothing, two calls of one account are apart by the interval of
their target, and by the interval of the groups. -/
theorem minimum_spacing {outbox : Outbox} {around : Policy.Surroundings} {now : Time}
    {ticks : List (Tick ι κ)}
    (heach : EachStep (tickStep worker) (CutoffHarmless worker) (Clocked.start outbox around now) ticks)
    (hrun : run (tickStep worker) (Clocked.start outbox around now) ticks = some s) :
    s.posts.Pairwise (Apart worker.options) :=
  apart_of_admitted (paced_of_harmless heach hrun).admitted

theorem minimum_spacing_three : ((run (tickStep limitedWorker)
    (Clocked.start threeMessages sampleSurroundings 0) threeSends).get
      threeSends_isSome).posts.Pairwise (Apart limitedWorker.options) :=
  minimum_spacing
    (harmless_of_short (by decide) (by decide)
      (each_of_invariant (fun _ => True) (fun _ _ _ _ _ _ => trivial)
        (fun _ _ _ honce => (rowForEachCall_of_once honce).2) trivial threeSends_once))
    (Option.some_get _).symm

def patientOptions : SenderOptions :=
  { SenderOptions.default with targetInterval := 100 * second, intervals := by decide }

def patientWorker : Worker Unit := ⟨fun _ => [], patientOptions, fun _ => 1, fun _ _ _ => rfl⟩

/-- The second call comes 69 seconds after the first one. -/
def twoSends : List (Tick Unit Empty) :=
  attempt 0 [] second accepted ++ attempt (70 * second) [] (70 * second) accepted

/-- After a minute the limiter does not see the first call any more. -/
theorem cutoff_hides_call :
    ∃ s, run (tickStep patientWorker) (Clocked.start threeMessages sampleSurroundings 0)
      twoSends = some s ∧ (s.posts.map Post.messageId).Nodup ∧
        ¬ s.posts.Pairwise (Apart patientWorker.options) := by
  have hposts : (run (tickStep patientWorker) (Clocked.start threeMessages sampleSurroundings 0)
      twoSends).map Clocked.posts = some [⟨1, 1, py "g@chatroom", second⟩,
        ⟨1, 2, py "g@chatroom", 70 * second⟩] := by decide +kernel
  obtain ⟨s, hrun, hs⟩ := Option.map_eq_some_iff.mp hposts
  refine ⟨s, hrun, ?_, ?_⟩
  · rw [hs]
    decide
  · rw [hs]
    decide

end WechatBot.Spacing
