import WechatBot.SupervisorTables

/-!
# Activation epochs fence results

The epochs of the commits of a deployment increase, and a result carries the epoch of the
plugin that is installed when it is returned.
-/
namespace WechatBot.SupervisorEpochs

open Dictionaries (Dict)
open PyData (Str)
open PluginSupervisor SupervisorSteps SupervisorTables

/-- The epochs of the commits of a deployment, in their order. -/
def commitEpochs (s : Supervisor) (deploymentId : Str) : List Int :=
  (s.committed.filter fun c => decide (c.deploymentId = deploymentId)).map (·.activationEpoch)

/-- The epochs of the results of a deployment, in their order. -/
def answerEpochs (s : Supervisor) (deploymentId : Str) : List Int :=
  (s.answered.filter fun answer => decide (answer.1 = deploymentId)).map Prod.snd

structure Ordered (T : Tables) : Prop where
  ahead : ∀ d p, T.pendingActivations.get d = some p → T.lastEpoch d < (T.preparations p).activationEpoch
  installed : ∀ d a, T.active.get d = some a → T.epoch a = T.lastEpoch d
  last : ∀ c ∈ T.committed, c.activationEpoch ≤ T.lastEpoch c.deploymentId
  increasing : ∀ d, ((T.committed.filter fun c => decide (c.deploymentId = d)).map
    (·.activationEpoch)).Pairwise (· < ·)

theorem ordered_new : Ordered (tables Supervisor.new) where
  ahead := fun _ _ h => nomatch h
  installed := fun _ _ h => nomatch h
  last := fun _ h => nomatch h
  increasing := fun _ => List.Pairwise.nil

/-- A commit raises the last epoch of its deployment. -/
theorem Ordered.lt_commit {T : Tables} (h : Ordered T) {preparation : Nat}
    (hpending : T.pendingActivations.get (T.preparations preparation).deploymentId =
      some preparation) (d : Str) :
    T.lastEpoch d ≤ (T.commitActivation preparation).lastEpoch d := by
  simp only [Tables.commitActivation]
  by_cases hd : d = (T.preparations preparation).deploymentId
  · subst hd
    rw [Function.update_self]
    exact Int.le_of_lt (h.ahead _ _ hpending)
  · exact Int.le_of_eq (Function.update_of_ne hd ..).symm

theorem Ordered.commitActivation {T : Tables} (h : Ordered T) (hsound : Sound T) {preparation : Nat}
    (hpending : T.pendingActivations.get (T.preparations preparation).deploymentId =
      some preparation) : Ordered (T.commitActivation preparation) where
  ahead := by
    intro d p hp
    obtain ⟨hne, hp⟩ := Dict.get_of_pop hp
    simp only [Tables.commitActivation, Function.update_of_ne hne]
    exact h.ahead d p hp
  installed := by
    intro d a ha
    simp only [Tables.commitActivation, Dict.get_set] at ha ⊢
    split at ha
    · rename_i hd
      cases ha
      rw [hd, Function.update_self, Function.update_self]
    · rename_i hne
      have hlt := (hsound.made a (hsound.active d a ha).made).1
      rw [Function.update_of_ne (Nat.ne_of_lt hlt), Function.update_of_ne hne]
      exact h.installed d a ha
  last := by
    intro c hc
    rcases List.mem_append.1 hc with hc | hc
    · exact Int.le_trans (h.last c hc) (h.lt_commit hpending _)
    · obtain rfl := List.mem_singleton.1 hc
      simp [Tables.commitActivation]
  increasing := by
    intro d
    simp only [Tables.commitActivation, List.filter_append, List.map_append, List.pairwise_append]
    refine ⟨h.increasing d, ?_, ?_⟩
    · exact (List.pairwise_singleton (· < ·) _).sublist
        ((List.filter_sublist.map _).trans (List.Sublist.refl _))
    · intro x hx y hy
      obtain ⟨c, hc, rfl⟩ := List.mem_map.1 hx
      obtain ⟨e, he, rfl⟩ := List.mem_map.1 hy
      simp only [List.mem_filter, decide_eq_true_eq, List.mem_singleton] at hc he
      obtain ⟨rfl, hd⟩ := he
      have hle := h.last c hc.1
      rw [hc.2, ← hd] at hle
      exact Int.lt_of_le_of_lt hle (h.ahead _ _ hpending)

theorem Ordered.transition {T T' : Tables} (h : Ordered T) (hsound : Sound T)
    (htransition : Transition T T') : Ordered T' := by
  cases htransition with
  | same => exact h
  | prepared deploymentId epoch hactivation hdeactivation hepoch =>
    refine ⟨?_, h.installed, h.last, h.increasing⟩
    intro d p hp
    simp only [Tables.prepareActivation, Dict.get_set] at hp ⊢
    split at hp
    · rename_i hd
      cases hp
      rw [hd, Function.update_self]
      exact hepoch
    · rw [Function.update_of_ne (Nat.ne_of_lt (hsound.keyed d p hp).1)]
      exact h.ahead d p hp
  | aborted preparation hpending =>
    exact ⟨fun d p hp => h.ahead d p (Dict.get_of_pop hp).2, h.installed, h.last, h.increasing⟩
  | committed preparation hpending => exact h.commitActivation hsound hpending
  | preparedDown deploymentId hactivation hdeactivation =>
    exact ⟨h.ahead, h.installed, h.last, h.increasing⟩
  | closedDown deploymentId active hactive =>
    exact ⟨h.ahead, fun d a ha => h.installed d a (hactive d a ha), h.last, h.increasing⟩

/-- The last epoch of a deployment only rises. -/
theorem Transition.lastEpoch_le {T T' : Tables} (htransition : Transition T T') (h : Ordered T)
    (d : Str) : T.lastEpoch d ≤ T'.lastEpoch d := by
  cases htransition with
  | same | prepared | aborted | preparedDown | closedDown => exact Int.le_refl _
  | committed preparation hpending => exact h.lt_commit hpending d

structure Fenced (w : World) : Prop where
  sound : Sound (tables w.supervisor)
  ordered : Ordered (tables w.supervisor)
  answered : ∀ answer ∈ w.supervisor.answered, answer.2 ≤ w.supervisor.lastEpoch answer.1
  monotone : ∀ d, (answerEpochs w.supervisor d).Pairwise (· ≤ ·)

theorem answered_setAccepting (s : Supervisor) (accepting : Bool) (a : Option Nat) :
    (s.setAccepting accepting a).answered = s.answered := by
  cases a <;> rfl

/-- A result is returned by the plugin that is installed, and nothing else is recorded. -/
theorem answered_change {s s' : Supervisor} {await await' : Await} (h : Change s await s' await') :
    s'.answered = s.answered ∨
      ∃ a deploymentId, await = .check a deploymentId ∧ s.active.get deploymentId = some a ∧
        s' = s.answer deploymentId a := by
  cases h with
  | answered a deploymentId _ hactive hplain => exact .inr ⟨a, deploymentId, rfl, hactive, rfl⟩
  | committed preparation _ hpending hawait =>
    exact .inl (answered_setAccepting s _ _)
  | preparedDown deploymentId _ hfree hplain =>
    exact .inl (answered_setAccepting s _ _)
  | reopened preparation _ hpending hplain =>
    exact .inl (answered_setAccepting s _ _)
  | _ => exact .inl rfl

theorem answered_step {w w' : World} {act : Action} (h : step w act = some w') :
    w'.supervisor.answered = w.supervisor.answered ∨
      ∃ t reply a deploymentId, act = .resume t reply ∧
        (w.tasks t).await = .check a deploymentId ∧
        w.supervisor.active.get deploymentId = some a ∧
        w'.supervisor = w.supervisor.answer deploymentId a := by
  cases turn_of_step h with
  | started => exact .inl rfl
  | resumed t reply s task hchange =>
    rcases answered_change hchange with hsame | ⟨a, deploymentId, hawait, hactive, hs⟩
    · exact .inl hsame
    · exact .inr ⟨t, reply, a, deploymentId, rfl, hawait, hactive, hs⟩
  | threw => exact .inl rfl
  | exited p => exact .inl rfl

theorem fenced_new : Fenced World.new where
  sound := sound_new
  ordered := ordered_new
  answered := fun _ h => nomatch h
  monotone := fun _ => List.Pairwise.nil

theorem fenced_step {w w' : World} {act : Action} (h : Fenced w) (hstep : step w act = some w') :
    Fenced w' := by
  have htransition := transition_of_turn (turn_of_step hstep)
  have hsound := h.sound.transition htransition
  have hordered := h.ordered.transition h.sound htransition
  have hrises : ∀ d, w.supervisor.lastEpoch d ≤ w'.supervisor.lastEpoch d :=
    Transition.lastEpoch_le htransition h.ordered
  rcases answered_step hstep with hsame | ⟨t, reply, a, deploymentId, -, -, hactive, hs⟩
  · refine ⟨hsound, hordered, ?_, ?_⟩
    · intro answer hanswer
      rw [hsame] at hanswer
      exact Int.le_trans (h.answered answer hanswer) (hrises _)
    · intro d
      rw [answerEpochs, hsame]
      exact h.monotone d
  · have hepoch : (w.supervisor.plugins a).activationEpoch = w.supervisor.lastEpoch deploymentId :=
      h.ordered.installed deploymentId a hactive
    have hlist : w'.supervisor.answered =
        w.supervisor.answered ++ [(deploymentId, w.supervisor.lastEpoch deploymentId)] := by
      rw [hs, ← hepoch]
      rfl
    refine ⟨hsound, hordered, ?_, ?_⟩
    · intro answer hanswer
      rw [hlist, List.mem_append, List.mem_singleton] at hanswer
      rcases hanswer with hanswer | rfl
      · exact Int.le_trans (h.answered answer hanswer) (hrises _)
      · exact hrises _
    · intro d
      rw [answerEpochs, hlist, List.filter_append, List.map_append, List.pairwise_append]
      refine ⟨h.monotone d, ?_, ?_⟩
      · exact (List.pairwise_singleton (· ≤ ·) _).sublist (List.filter_sublist.map _)
      · intro x hx y hy
        obtain ⟨answer, hanswer, rfl⟩ := List.mem_map.1 hx
        obtain ⟨other, hother, rfl⟩ := List.mem_map.1 hy
        simp only [List.mem_filter, decide_eq_true_eq, List.mem_singleton] at hanswer hother
        obtain ⟨rfl, hd⟩ := hother
        have hle := h.answered answer hanswer.1
        rw [hanswer.2, ← hd] at hle
        exact hle

theorem fenced_run {as : List Action} {w : World}
    (hrun : Runs.run step World.new as = some w) : Fenced w :=
  Runs.run_invariant Fenced (fun _ _ _ h hstep => fenced_step h hstep) fenced_new hrun

/-- In every run the epochs of the commits of a deployment strictly increase, the epochs of
its results never decrease, and a call returns its result only while the plugin that has
answered it is the installed one. -/
theorem epochs_fence_results (as : List Action) (w : World)
    (hrun : Runs.run step World.new as = some w) :
    (∀ d, (commitEpochs w.supervisor d).Pairwise (· < ·)) ∧
      (∀ d, (answerEpochs w.supervisor d).Pairwise (· ≤ ·)) ∧
      ∀ act w', step w act = some w' → w'.supervisor.answered ≠ w.supervisor.answered →
        ∃ t reply a deploymentId, act = .resume t reply ∧
          (w.tasks t).await = .check a deploymentId ∧
          w'.supervisor.active.get deploymentId = some a ∧
          w'.supervisor.answered = w.supervisor.answered ++
            [(deploymentId, (w'.supervisor.plugins a).activationEpoch)] := by
  have h := fenced_run hrun
  refine ⟨h.ordered.increasing, h.monotone, ?_⟩
  intro act w' hstep hchanged
  rcases answered_step hstep with hsame | ⟨t, reply, a, deploymentId, hact, hawait, hactive, hs⟩
  · exact absurd hsame hchanged
  · refine ⟨t, reply, a, deploymentId, hact, hawait, ?_, ?_⟩
    · rw [hs]
      exact hactive
    · rw [hs]
      rfl

/-- The plugin of a deployment is replaced between two calls. -/
def replaced : List Action :=
  activation 0 (PyData.py "echo") ++ invocation 1 (PyData.py "echo") ++
    activation 0 (PyData.py "echo") ++ invocation 1 (PyData.py "echo")

theorem replacedRun_isSome : (Runs.run step World.new replaced).isSome = true := by decide +kernel

def replacedWorld : World := (Runs.run step World.new replaced).get replacedRun_isSome

theorem epochs_fence_results_replaced :
    answerEpochs replacedWorld.supervisor (PyData.py "echo") = [1, 2] ∧
    (∀ d, (commitEpochs replacedWorld.supervisor d).Pairwise (· < ·)) ∧
      (∀ d, (answerEpochs replacedWorld.supervisor d).Pairwise (· ≤ ·)) ∧
      ∀ act w', step replacedWorld act = some w' →
        w'.supervisor.answered ≠ replacedWorld.supervisor.answered →
        ∃ t reply a deploymentId, act = .resume t reply ∧
          (replacedWorld.tasks t).await = .check a deploymentId ∧
          w'.supervisor.active.get deploymentId = some a ∧
          w'.supervisor.answered = replacedWorld.supervisor.answered ++
            [(deploymentId, (w'.supervisor.plugins a).activationEpoch)] :=
  ⟨by decide +kernel, epochs_fence_results replaced replacedWorld (Option.some_get _).symm⟩

end WechatBot.SupervisorEpochs
