import Mathlib.Data.Finset.Card
import WechatBot.SupervisorTables

/-!
# Draining a plugin before it is stopped

A task that waits for the drain of a plugin has taken it out of the table of the active ones,
so no call is admitted to it, and those that are in flight are counted.
-/
namespace WechatBot.SupervisorDrain

open Dictionaries (Dict)
open PyData (Str)
open PluginSupervisor SupervisorSteps SupervisorTables

def usage (s : Supervisor) (a : Nat) : Int × Event := ((s.plugins a).inFlight, (s.plugins a).drained)

theorem usage_setAccepting (s : Supervisor) (accepting : Bool) (plugin : Option Nat) :
    usage (s.setAccepting accepting plugin) = usage s := by
  cases plugin with
  | none => rfl
  | some b =>
    funext a
    by_cases ha : a = b
    · subst ha
      simp [usage, Supervisor.setAccepting, Supervisor.setPlugin]
    · simp [usage, Supervisor.setAccepting, Supervisor.setPlugin, ha]

theorem usage_commitActivation (s : Supervisor) (preparation a : Nat) :
    usage (s.commitActivation preparation) a = if a = s.next then (0, ⟨true, 0⟩) else usage s a := by
  have hkept := usage_setAccepting s false (s.active.get (s.preparations preparation).deploymentId)
  have hnext : (s.setAccepting false
      (s.active.get (s.preparations preparation).deploymentId)).next = s.next :=
    congrArg Tables.next (tables_setAccepting s false _)
  unfold Supervisor.commitActivation
  dsimp only
  rw [← hkept]
  simp only [Supervisor.install, usage, hnext]
  by_cases ha : a = s.next
  · subst ha
    simp
  · simp [ha]

theorem usage_setPlugin (s : Supervisor) (a b : Nat) (plugin : ActivePlugin) :
    usage (s.setPlugin a plugin) b = if b = a then (plugin.inFlight, plugin.drained) else usage s b := by
  by_cases hb : b = a
  · subst hb
    simp [usage, Supervisor.setPlugin]
  · simp [usage, Supervisor.setPlugin, hb]

/-- The task has been admitted to the plugin and has not left it. -/
def Holds : Await → Nat → Prop
  | .calling a _, b | .invalidating a _, b | .release a _ _, b => a = b
  | _, _ => False

theorem not_holds_of_plain {await : Await} (h : plain await = true) (a : Nat) : ¬ Holds await a := by
  cases await <;> simp_all [plain, Holds]

theorem not_drained_of_plain {await : Await} (h : plain await = true) (a : Nat) (since : Option Nat) :
    await ≠ .drained a since := by
  rintro rfl
  cases h

/-- The plugin is out of use. -/
def Retired (T : Tables) (a : Nat) : Prop := Made T a ∧ ∀ d, T.active.get d ≠ some a

theorem Retired.transition {T T' : Tables} {a : Nat} (h : Retired T a) (hsound : Sound T)
    (htransition : Transition T T') : Retired T' a :=
  ⟨(htransition.made hsound h.1).1, htransition.retired hsound h.1 h.2⟩

/-- The wait for the drain is over only when no call is counted. -/
def Waits (s : Supervisor) (a : Nat) (since : Option Nat) : Prop :=
  (usage s a).2.ready since = true → (usage s a).1 = 0

/-- The tasks that hold the plugin are among as many as it counts. -/
def Counted (s : Supervisor) (tasks : Nat → Task) (a : Nat) : Prop :=
  ∃ holders : Finset Nat, (∀ t, Holds (tasks t).await a → t ∈ holders) ∧
    (holders.card : Int) ≤ (usage s a).1

structure Drains (w : World) : Prop where
  sound : Sound (tables w.supervisor)
  held : ∀ t a, Holds (w.tasks t).await a → Made (tables w.supervisor) a
  waiting : ∀ t a since, (w.tasks t).await = .drained a since →
    Retired (tables w.supervisor) a ∧ Waits w.supervisor a since
  counted : ∀ a, Made (tables w.supervisor) a → Counted w.supervisor w.tasks a
  flagged : ∀ a, Made (tables w.supervisor) a →
    (usage w.supervisor a).2.flag = true → (usage w.supervisor a).1 = 0

theorem drains_new : Drains World.new where
  sound := sound_new
  held := fun _ _ h => h.elim
  waiting := fun _ _ _ h => nomatch h
  counted := fun _ ⟨_, h, _⟩ => nomatch h
  flagged := fun _ ⟨_, h, _⟩ => nomatch h

theorem await_put (w : World) (s : Supervisor) (t : Nat) (task : Task) (u : Nat) :
    ((w.put s t task).tasks u).await = if u = t then task.await else (w.tasks u).await := by
  by_cases hu : u = t
  · subst hu
    simp [World.put]
  · simp [World.put, hu]

/-- Nobody is counted for a plugin that nobody holds. -/
theorem counted_unused {s : Supervisor} {tasks : Nat → Task} {a : Nat}
    (hnobody : ∀ t, ¬ Holds (tasks t).await a) (husage : 0 ≤ (usage s a).1) : Counted s tasks a :=
  ⟨∅, fun t ht => absurd ht (hnobody t), by simpa using husage⟩

/-- The counts of the plugins that have been active are kept, and a new plugin has none. -/
def Keeps (s s' : Supervisor) : Prop :=
  ∀ a, Made (tables s') a → (Made (tables s) a ∧ usage s' a = usage s a) ∨
    (¬ Made (tables s) a ∧ usage s' a = (0, ⟨true, 0⟩))

/-- A step that admits no call and counts none. -/
theorem Drains.put {w : World} (h : Drains w) {t : Nat} {s : Supervisor} {task : Task}
    (htransition : Transition (tables w.supervisor) (tables s)) (hkeeps : Keeps w.supervisor s)
    (hholds : ∀ a, Holds task.await a → Holds (w.tasks t).await a)
    (hwaits : ∀ a since, task.await = .drained a since →
      Retired (tables s) a ∧ Waits s a since) : Drains (w.put s t task) := by
  have hbefore : ∀ u a, Holds ((w.put s t task).tasks u).await a → Holds (w.tasks u).await a := by
    intro u a hu
    rw [await_put] at hu
    split at hu
    · rename_i hut
      exact hut ▸ hholds a hu
    · exact hu
  refine ⟨h.sound.transition htransition, ?_, ?_, ?_, ?_⟩
  · intro u a hu
    exact (htransition.made h.sound (h.held u a (hbefore u a hu))).1
  · intro u a since hawait
    rw [await_put] at hawait
    split at hawait
    · exact hwaits a since hawait
    · obtain ⟨hretired, hwait⟩ := h.waiting u a since hawait
      refine ⟨hretired.transition h.sound htransition, ?_⟩
      rcases hkeeps a (htransition.made h.sound hretired.1).1 with ⟨-, hsame⟩ | ⟨hnew, -⟩
      · change (usage s a).2.ready since = true → (usage s a).1 = 0
        rwa [hsame]
      · exact absurd hretired.1 hnew
  · intro a ha
    rcases hkeeps a ha with ⟨hmade, hsame⟩ | ⟨hnew, hzero⟩
    · obtain ⟨holders, hmem, hcard⟩ := h.counted a hmade
      refine ⟨holders, fun u hu => hmem u (hbefore u a hu), ?_⟩
      change (holders.card : Int) ≤ (usage s a).1
      rwa [hsame]
    · apply counted_unused
      · exact fun u hu => hnew (h.held u a (hbefore u a hu))
      · change 0 ≤ (usage s a).1
        rw [hzero]
  · intro a ha hflag
    change (usage s a).2.flag = true at hflag
    change (usage s a).1 = 0
    rcases hkeeps a ha with ⟨hmade, hsame⟩ | ⟨-, hzero⟩
    · rw [hsame] at hflag ⊢
      exact h.flagged a hmade hflag
    · rw [hzero]

theorem Keeps.of_usage {s s' : Supervisor} (htables : ∀ a, Made (tables s') a → Made (tables s) a)
    (husage : usage s' = usage s) : Keeps s s' :=
  fun a ha => .inl ⟨htables a ha, congrFun husage a⟩

theorem keeps_commitActivation {s : Supervisor} (hsound : Sound (tables s)) (preparation : Nat) :
    Keeps s (s.commitActivation preparation) := by
  intro a ha
  rw [tables_commitActivation, made_commit] at ha
  rw [usage_commitActivation]
  rcases ha with ha | rfl
  · exact .inl ⟨ha, if_neg (Nat.ne_of_lt (hsound.made a ha).1)⟩
  · exact .inr ⟨fun ha => Nat.lt_irrefl _ (hsound.made _ ha).1, if_pos rfl⟩

/-- A call is admitted to a plugin that is in use. -/
theorem Drains.beginCall {w : World} (h : Drains w) {t a : Nat} {deploymentId : Str} {task : Task}
    (hactive : w.supervisor.active.get deploymentId = some a)
    (htask : task.await = .calling a deploymentId) : Drains (w.put (w.supervisor.beginCall a) t task) := by
  have hmade := (h.sound.active deploymentId a hactive).made
  have husage := usage_setPlugin w.supervisor a
  refine ⟨?_, ?_, ?_, ?_, ?_⟩
  · change Sound (tables (w.supervisor.beginCall a))
    rw [tables_beginCall]
    exact h.sound
  · intro u b hu
    change Made (tables (w.supervisor.beginCall a)) b
    rw [tables_beginCall]
    rw [await_put] at hu
    split at hu
    · rw [htask] at hu
      cases hu
      exact hmade
    · exact h.held u b hu
  · intro u b since hawait
    rw [await_put] at hawait
    split at hawait
    · rw [htask] at hawait
      cases hawait
    · obtain ⟨hretired, hwait⟩ := h.waiting u b since hawait
      change Retired (tables (w.supervisor.beginCall a)) b ∧ Waits (w.supervisor.beginCall a) b since
      rw [tables_beginCall]
      refine ⟨hretired, ?_⟩
      have hne : b ≠ a := by
        rintro rfl
        exact hretired.2 deploymentId hactive
      rw [Waits, Supervisor.beginCall, husage, if_neg hne]
      exact hwait
  · intro b hb
    change Made (tables (w.supervisor.beginCall a)) b at hb
    rw [tables_beginCall] at hb
    obtain ⟨holders, hmem, hcard⟩ := h.counted b hb
    have hcount : (usage (w.put (w.supervisor.beginCall a) t task).supervisor b).1 =
        if b = a then (w.supervisor.plugins a).inFlight + 1 else (usage w.supervisor b).1 := by
      change (usage (w.supervisor.beginCall a) b).1 = _
      rw [Supervisor.beginCall, husage]
      split <;> rfl
    by_cases hba : b = a
    · subst hba
      refine ⟨insert t holders, ?_, ?_⟩
      · intro u hu
        rw [await_put] at hu
        split at hu
        · rename_i hut
          exact Finset.mem_insert.2 (.inl hut)
        · exact Finset.mem_insert_of_mem (hmem u hu)
      · rw [hcount, if_pos rfl]
        have hinsert := Finset.card_insert_le t holders
        change (holders.card : Int) ≤ (w.supervisor.plugins b).inFlight at hcard
        omega
    · refine ⟨holders, ?_, by rwa [hcount, if_neg hba]⟩
      intro u hu
      rw [await_put] at hu
      split at hu
      · rw [htask] at hu
        exact absurd hu.symm hba
      · exact hmem u hu
  · intro b hb hflag
    change Made (tables (w.supervisor.beginCall a)) b at hb
    rw [tables_beginCall] at hb
    change (usage (w.supervisor.beginCall a) b).2.flag = true at hflag
    change (usage (w.supervisor.beginCall a) b).1 = 0
    rw [Supervisor.beginCall, husage] at hflag ⊢
    split at hflag
    · cases hflag
    · rename_i hne
      rw [if_neg hne]
      exact h.flagged b hb hflag

/-- A call that leaves was counted. -/
theorem Drains.leave {w : World} (h : Drains w) {t a : Nat} {deploymentId : Str} {completed : Bool}
    {task : Task} (hawait : (w.tasks t).await = .release a deploymentId completed)
    (htask : task.await = .check a deploymentId ∨ plain task.await = true) :
    Drains (w.put (w.supervisor.leave a) t task) := by
  have hholds : Holds (w.tasks t).await a := by
    rw [hawait]
    rfl
  have hafter : ∀ b, ¬ Holds task.await b := by
    rcases htask with htask | htask
    · rw [htask]
      exact fun _ hb => hb.elim
    · exact not_holds_of_plain htask
  have hmade := h.held t a hholds
  obtain ⟨holders, hmem, hcard⟩ := h.counted a hmade
  have hin := hmem t hholds
  have hpositive : 1 ≤ (w.supervisor.plugins a).inFlight := by
    have hpos := Finset.card_pos.2 ⟨t, hin⟩
    change (holders.card : Int) ≤ (w.supervisor.plugins a).inFlight at hcard
    omega
  have husage := usage_setPlugin w.supervisor a
  refine ⟨?_, ?_, ?_, ?_, ?_⟩
  · change Sound (tables (w.supervisor.leave a))
    rw [tables_leave]
    exact h.sound
  · intro u b hu
    change Made (tables (w.supervisor.leave a)) b
    rw [tables_leave]
    rw [await_put] at hu
    split at hu
    · exact absurd hu (hafter b)
    · exact h.held u b hu
  · intro u b since hwaiting
    rw [await_put] at hwaiting
    split at hwaiting
    · rcases htask with htask | htask
      · rw [htask] at hwaiting
        cases hwaiting
      · exact absurd hwaiting (not_drained_of_plain htask b since)
    · obtain ⟨hretired, hwait⟩ := h.waiting u b since hwaiting
      change Retired (tables (w.supervisor.leave a)) b ∧ Waits (w.supervisor.leave a) b since
      rw [tables_leave]
      refine ⟨hretired, ?_⟩
      rw [Waits, Supervisor.leave, husage]
      by_cases hba : b = a
      · subst hba
        rw [if_pos rfl]
        intro hready
        dsimp only at hready ⊢
        by_contra hne
        rw [if_neg hne] at hready
        have hzero : (w.supervisor.plugins b).inFlight = 0 := hwait hready
        omega
      · rw [if_neg hba]
        exact hwait
  · intro b hb
    change Made (tables (w.supervisor.leave a)) b at hb
    rw [tables_leave] at hb
    have hothers : ∀ u, Holds ((w.put (w.supervisor.leave a) t task).tasks u).await b →
        u ≠ t ∧ Holds (w.tasks u).await b := by
      intro u hu
      rw [await_put] at hu
      split at hu
      · exact absurd hu (hafter b)
      · rename_i hut
        exact ⟨hut, hu⟩
    have hcount : (usage (w.put (w.supervisor.leave a) t task).supervisor b).1 =
        if b = a then (w.supervisor.plugins a).inFlight - 1 else (usage w.supervisor b).1 := by
      change (usage (w.supervisor.leave a) b).1 = _
      rw [Supervisor.leave, husage]
      split <;> rfl
    by_cases hba : b = a
    · subst hba
      refine ⟨holders.erase t, ?_, ?_⟩
      · intro u hu
        obtain ⟨hut, hu⟩ := hothers u hu
        exact Finset.mem_erase.2 ⟨hut, hmem u hu⟩
      · rw [hcount, if_pos rfl, Finset.card_erase_of_mem hin]
        have hpos := Finset.card_pos.2 ⟨t, hin⟩
        change (holders.card : Int) ≤ (w.supervisor.plugins b).inFlight at hcard
        omega
    · obtain ⟨others, hothersMem, hothersCard⟩ := h.counted b hb
      exact ⟨others, fun u hu => hothersMem u (hothers u hu).2, by rwa [hcount, if_neg hba]⟩
  · intro b hb hflag
    change Made (tables (w.supervisor.leave a)) b at hb
    rw [tables_leave] at hb
    change (usage (w.supervisor.leave a) b).2.flag = true at hflag
    change (usage (w.supervisor.leave a) b).1 = 0
    rw [Supervisor.leave, husage] at hflag ⊢
    by_cases hba : b = a
    · subst hba
      rw [if_pos rfl] at hflag ⊢
      dsimp only at hflag ⊢
      by_contra hne
      rw [if_neg hne] at hflag
      have hzero : (w.supervisor.plugins b).inFlight = 0 := h.flagged b hb hflag
      omega
    · rw [if_neg hba] at hflag ⊢
      exact h.flagged b hb hflag

/-- A wait for a drain begins when the plugin is no longer active. -/
theorem waits_new {s s' : Supervisor} {a : Nat}
    (husage : usage s' a = usage s a)
    (hflagged : (usage s a).2.flag = true → (usage s a).1 = 0) :
    Waits s' a (s.plugins a).drained.wait := by
  intro hready
  rw [husage] at hready ⊢
  unfold Event.wait at hready
  split at hready
  · rename_i hflag
    exact hflagged hflag
  · simp [Event.ready, usage] at hready

/-- The plugin that a commit replaces is retired. -/
theorem retired_commit {T : Tables} (h : Sound T) {preparation a : Nat}
    (hactive : T.active.get (T.preparations preparation).deploymentId = some a) :
    Retired (T.commitActivation preparation) a := by
  have hmade := h.active _ a hactive
  refine ⟨made_commit.2 (.inl hmade.made), ?_⟩
  intro d hd
  simp only [Tables.commitActivation, Dict.get_set] at hd
  split at hd
  · cases hd
    exact Nat.lt_irrefl _ (h.made _ hmade.made).1
  · rename_i hne
    exact hne (h.home a d _ (h.active d a hd) hmade)

/-- The plugin that a deactivation has stopped is retired by its commit. -/
theorem retired_deactivated {s : Supervisor} (h : Sound (tables s)) {preparation a : Nat}
    (hstored : (s.deactivations preparation).active = some a) :
    Retired (tables (s.commitDeactivation preparation)) a := by
  have hmade : MadeFor (tables s) a (s.deactivations preparation).deploymentId :=
    h.stored preparation a hstored
  rw [tables_commitDeactivation]
  refine ⟨hmade.made, ?_⟩
  intro d hd
  by_cases hstill : s.active.get (s.deactivations preparation).deploymentId = some a
  · have hsome : (s.stillActive preparation).isSome = true := by
      simp [Supervisor.stillActive, hstored, hstill]
    simp only [Tables.closeDeactivation, hsome, if_true] at hd
    obtain ⟨hne, hd⟩ := Dict.get_of_pop hd
    exact hne (h.home a d _ (h.active d a hd) hmade)
  · have hnone : (s.stillActive preparation).isSome = false := by
      simp [Supervisor.stillActive, hstored, hstill]
    simp only [Tables.closeDeactivation, hnone, Bool.false_eq_true, if_false] at hd
    have hsame := h.home a d _ (h.active d a hd) hmade
    exact hstill (hsame ▸ hd)

theorem drains_change {w : World} (h : Drains w) {t : Nat} {s : Supervisor} {task : Task}
    (hchange : Change w.supervisor (w.tasks t).await s task.await) : Drains (w.put s t task) := by
  have htransition := transition_of_change hchange
  generalize hbefore : (w.tasks t).await = before at hchange
  generalize hafter : task.await = after at hchange
  -- a task that has nothing in hand
  have hidle : Keeps w.supervisor s → plain after = true → Drains (w.put s t task) := by
    intro hkeeps hplain
    apply h.put htransition hkeeps
    · exact fun a ha => absurd ha (not_holds_of_plain (hafter ▸ hplain) a)
    · exact fun a since ha => absurd ha (not_drained_of_plain (hafter ▸ hplain) a since)
  -- a task that holds what it held
  have hcarry : Keeps w.supervisor s → (∀ a, Holds after a → Holds before a) →
      (∀ a since, after ≠ .drained a since) → Drains (w.put s t task) := by
    intro hkeeps hholds hwaits
    apply h.put htransition hkeeps
    · exact fun a ha => hbefore ▸ hholds a (hafter ▸ ha)
    · exact fun a since ha => absurd (hafter.symm.trans ha) (hwaits a since)
  have hsame : ∀ {s'}, usage s' = usage w.supervisor →
      (∀ a, Made (tables s') a → Made (tables w.supervisor) a) → Keeps w.supervisor s' :=
    fun husage hmade => .of_usage hmade husage
  cases hchange with
  | plain _ _ hspent hplain => exact hidle (hsame rfl fun _ ha => ha) hplain
  | probed | unready | outdated | drained | prepared | created | closed | aborted =>
    exact hcarry (hsame rfl fun _ ha => ha) (fun _ ha => ha.elim) (fun _ _ => nofun)
  | called a deploymentId completed =>
    exact hcarry (hsame rfl fun _ ha => ha) (fun _ ha => ha) (fun _ _ => nofun)
  | invalidated a deploymentId hended =>
    exact hcarry (hsame rfl fun _ ha => ha) (fun _ ha => ha) (fun _ _ => nofun)
  | hungUp a deploymentId hattached =>
    exact hcarry (hsame rfl fun _ ha => ha) (fun _ ha => ha) (fun _ _ => nofun)
  | committed preparation _ hpending hawait =>
    have hkeeps := keeps_commitActivation h.sound preparation
    rcases hawait with ⟨a, hactive, rfl⟩ | ⟨-, hplain⟩
    · apply h.put htransition hkeeps
      · intro b hb
        rw [hafter] at hb
        exact hb.elim
      · intro b since hb
        rw [hafter] at hb
        cases hb
        have hmade := (h.sound.active _ a hactive).made
        refine ⟨?_, ?_⟩
        · rw [tables_commitActivation]
          exact retired_commit h.sound hactive
        · apply waits_new _ (h.flagged a hmade)
          have hlt : a < w.supervisor.next := (h.sound.made a hmade).1
          rw [usage_commitActivation, if_neg (Nat.ne_of_lt hlt)]
    · exact hidle hkeeps hplain
  | preparedDown deploymentId _ hfree hplain =>
    refine hidle (hsame (usage_setAccepting w.supervisor false _) fun a ha => ?_) hplain
    rwa [tables_prepareDeactivation] at ha
  | removed preparation _ hpending hawait =>
    have hkeeps : Keeps w.supervisor (w.supervisor.commitDeactivation preparation) :=
      hsame rfl fun _ ha => ha
    rcases hawait with ⟨a, hstored, rfl⟩ | ⟨-, hplain⟩
    · apply h.put htransition hkeeps
      · intro b hb
        rw [hafter] at hb
        exact hb.elim
      · intro b since hb
        rw [hafter] at hb
        cases hb
        have hmade : Made (tables w.supervisor) a := (h.sound.stored preparation a hstored).made
        exact ⟨retired_deactivated h.sound hstored, waits_new rfl (h.flagged a hmade)⟩
    · exact hidle hkeeps hplain
  | reopened preparation _ hpending hplain =>
    refine hidle (hsame (usage_setAccepting w.supervisor true _) fun a ha => ?_) hplain
    rwa [tables_abortDeactivation] at ha
  | admitted a deploymentId hactive haccepting => exact h.beginCall hactive hafter
  | released a deploymentId completed _ hawait =>
    subst hafter
    exact h.leave hbefore hawait
  | answered a deploymentId _ hactive hplain => exact hidle (hsame rfl fun _ ha => ha) hplain

theorem drains_step {w w' : World} {act : Action} (h : Drains w) (hstep : step w act = some w') :
    Drains w' := by
  cases turn_of_step hstep with
  | started t operation hidle hknown =>
    apply h.put .same (.of_usage (fun _ ha => ha) rfl)
    · intro a ha
      cases operation <;> exact ha.elim
    · intro a since ha
      cases operation <;> cases ha
  | resumed t reply s task hchange => exact drains_change h hchange
  | threw t hbusy =>
    apply h.put .same (.of_usage (fun _ ha => ha) rfl)
    · intro a ha
      rcases thrown_await (w.tasks t) with hplain | ⟨p, -, hp⟩ | ⟨b, deploymentId, hcall, hb⟩
      · exact absurd ha (not_holds_of_plain hplain a)
      · rw [hp] at ha
        exact ha.elim
      · rw [hb] at ha
        rcases hcall with hcall | hcall <;> rw [hcall] <;> exact ha
    · intro a since ha
      rcases thrown_await (w.tasks t) with hplain | ⟨p, -, hp⟩ | ⟨b, deploymentId, hcall, hb⟩
      · exact absurd ha (not_drained_of_plain hplain a since)
      · rw [hp] at ha
        cases ha
      · rw [hb] at ha
        cases ha
  | exited p => exact ⟨h.sound, h.held, h.waiting, h.counted, h.flagged⟩

theorem drains_run {as : List Action} {w : World}
    (hrun : Runs.run step World.new as = some w) : Drains w :=
  Runs.run_invariant Drains (fun _ _ _ h hstep => drains_step h hstep) drains_new hrun

/-- A call of the task is in flight on the process. -/
def InFlight (w : World) (t p : Nat) : Prop :=
  ∃ a, Holds (w.tasks t).await a ∧ (w.supervisor.plugins a).process = p

/-- The step is the one in which a wait for a drain returns and the graceful stop begins. -/
def BeginsStop (w : World) (act : Action) (p : Nat) : Prop :=
  ∃ t reply a since, act = .resume t reply ∧ (w.tasks t).await = .drained a since ∧
    (w.supervisor.plugins a).drained.ready since = true ∧ (w.supervisor.plugins a).process = p

/-- The step admits a call to the process. -/
def Admits (w : World) (act : Action) (p : Nat) : Prop :=
  ∃ t reply a deploymentId, act = .resume t reply ∧ (w.tasks t).await = .acquire deploymentId ∧
    w.supervisor.active.get deploymentId = some a ∧ (w.supervisor.plugins a).accepting = true ∧
    (w.supervisor.plugins a).process = p

/-- A process whose plugin is out of use. -/
def RetiredProcess (T : Tables) (p : Nat) : Prop := ∃ a, Retired T a ∧ T.process a = p

theorem retiredProcess_step {w w' : World} {act : Action} {p : Nat}
    (h : Sound (tables w.supervisor)) (hretired : RetiredProcess (tables w.supervisor) p)
    (hstep : step w act = some w') : RetiredProcess (tables w'.supervisor) p := by
  have htransition := transition_of_turn (turn_of_step hstep)
  obtain ⟨a, ha, rfl⟩ := hretired
  exact ⟨a, ha.transition h htransition, (htransition.made h ha.1).2⟩

theorem not_admits_retired {w : World} {act : Action} {p : Nat} (h : Sound (tables w.supervisor))
    (hretired : RetiredProcess (tables w.supervisor) p) : ¬ Admits w act p := by
  obtain ⟨a, ⟨hmade, hout⟩, hprocess⟩ := hretired
  rintro ⟨t, reply, b, deploymentId, -, -, hactive, -, hsame⟩
  have hb := (h.active deploymentId b hactive).made
  obtain rfl := h.unique a b hmade hb (hprocess.trans hsame.symm)
  exact hout deploymentId hactive

theorem Drains.stop {w : World} (h : Drains w) {act : Action} {p : Nat} (hbegins : BeginsStop w act p) :
    (∀ t, ¬ InFlight w t p) ∧ RetiredProcess (tables w.supervisor) p := by
  obtain ⟨t, reply, a, since, -, hawait, hready, rfl⟩ := hbegins
  obtain ⟨hretired, hwait⟩ := h.waiting t a since hawait
  refine ⟨?_, a, hretired, rfl⟩
  rintro u ⟨b, hholds, hsame⟩
  obtain rfl := h.sound.unique a b hretired.1 (h.held u b hholds) hsame.symm
  -- nobody holds the plugin, since it counts none
  obtain ⟨holders, hmem, hcard⟩ := h.counted a hretired.1
  have hpos := Finset.card_pos.2 ⟨u, hmem u hholds⟩
  rw [hwait hready] at hcard
  omega

/-- In every run a deployment has at most one pending transition, the graceful stop of a
process that was active begins only when no call is in flight on it, and no call is admitted
to it afterwards. -/
theorem drain_safety (as : List Action) (w : World)
    (hrun : Runs.run step World.new as = some w) :
    (∀ d, w.supervisor.pendingActivations.get d = none ∨
      w.supervisor.pendingDeactivations.get d = none) ∧
    ∀ act p, BeginsStop w act p →
      (∀ t, ¬ InFlight w t p) ∧
      ∀ w', step w act = some w' → ∀ bs u, Runs.run step w' bs = some u →
        ∀ act', ¬ Admits u act' p := by
  have h := drains_run hrun
  refine ⟨h.sound.apart, ?_⟩
  intro act p hbegins
  obtain ⟨hidle, hretired⟩ := h.stop hbegins
  refine ⟨hidle, ?_⟩
  intro w' hstep bs u hrest act'
  have hlater := Runs.run_invariant
    (fun v : World => Sound (tables v.supervisor) ∧ RetiredProcess (tables v.supervisor) p)
    (fun _ _ _ hv hv' => ⟨sound_step hv.1 hv', retiredProcess_step hv.1 hv.2 hv'⟩)
    ⟨sound_step h.sound hstep, retiredProcess_step h.sound hretired hstep⟩ hrest
  exact not_admits_retired hlater.1 hlater.2

/-- A plugin is replaced while task 1 calls it; the call ends, and task 2 has been woken. -/
def drainedCall : List Action :=
  activation 0 (PyData.py "echo") ++ .start 1 (.call (PyData.py "echo")) :: resumes 1 1 ++
    activation 2 (PyData.py "echo") ++ resumes 1 2

theorem drainedRun_isSome : (Runs.run step World.new drainedCall).isSome = true := by decide +kernel

def drainedWorld : World := (Runs.run step World.new drainedCall).get drainedRun_isSome

theorem drain_safety_drained :
    BeginsStop drainedWorld (.resume 2 .ok) 0 ∧
    (∀ d, drainedWorld.supervisor.pendingActivations.get d = none ∨
      drainedWorld.supervisor.pendingDeactivations.get d = none) ∧
    ∀ act p, BeginsStop drainedWorld act p →
      (∀ t, ¬ InFlight drainedWorld t p) ∧
      ∀ w', step drainedWorld act = some w' → ∀ bs u, Runs.run step w' bs = some u →
        ∀ act', ¬ Admits u act' p :=
  ⟨⟨2, .ok, 1, some 0, rfl, by decide +kernel, by decide +kernel, by decide +kernel⟩,
    drain_safety drainedCall drainedWorld (Option.some_get _).symm⟩

end WechatBot.SupervisorDrain
