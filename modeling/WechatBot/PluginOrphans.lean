import WechatBot.SupervisorDrain

/-!
# Processes without an owner

A process that runs is the one of an active plugin, the candidate of a pending preparation,
or in the hands of a task that is going to stop it. An exception that takes it out of those
hands leaves it to itself.
-/
namespace WechatBot.PluginOrphans

open Dictionaries (Dict)
open PyData (Str)
open PluginSupervisor SupervisorSteps SupervisorTables SupervisorDrain

/-- The tables know the process. -/
def Accounted (s : Supervisor) (p : Nat) : Prop :=
  (∃ d a, s.active.get d = some a ∧ (s.plugins a).process = p) ∨
    ∃ d, s.pendingActivations.get d = some p

/-- The task is going to stop the process, as long as it is attached. -/
def Stops (s : Supervisor) : Await → Nat → Prop
  | .probing q, p | .stopping q, p | .recheck q, p => q = p
  | .drained a _, p => (s.plugins a).process = p
  | _, _ => False

/-- The task waits for the end of the process, which it has detached. -/
def Ends (s : Supervisor) : Await → Nat → Prop
  | .closing q, p => q = p
  | .invalidating a _, p => (s.plugins a).process = p
  | _, _ => False

/-- The process is in the hands of the task. -/
def Charged (s : Supervisor) (await : Await) (p : Nat) : Prop :=
  if (s.processes p).attached then Stops s await p else Ends s await p

/-- Somebody knows of the process. -/
def Guarded (w : World) (p : Nat) : Prop :=
  ((w.supervisor.processes p).attached = true ∧ Accounted w.supervisor p) ∨
    ∃ t, Charged w.supervisor (w.tasks t).await p

structure Kept (w : World) : Prop where
  drains : Drains w
  guarded : ∀ p, (w.supervisor.processes p).running = true → Guarded w p

/-- The awaits of a task that has no process in hand. -/
def emptyHanded : Await → Bool
  | .probing _ | .recheck _ | .stopping _ | .closing _ | .drained .. | .invalidating .. => false
  | _ => true

/-- A task with empty hands is in charge of no process. -/
theorem not_charged {s : Supervisor} {await : Await} (h : emptyHanded await = true) (p : Nat) :
    ¬ Charged s await p := by
  unfold Charged
  split <;> cases await <;> simp_all [emptyHanded, Stops, Ends]

theorem kept_new : Kept World.new where
  drains := drains_new
  guarded := fun _ h => nomatch h

/-- What a step of a task owes a process that it does not take in hand itself. -/
structure Passes (s s' : Supervisor) (await await' : Await) (p : Nat) : Prop where
  running : (s'.processes p).running = true → (s.processes p).running = true
  attached : (s'.processes p).attached = (s.processes p).attached
  accounted : (s'.processes p).attached = true → Accounted s p →
    Accounted s' p ∨ Stops s' await' p
  charged : (s'.processes p).running = true → Charged s await p →
    ((s'.processes p).attached = true ∧ Accounted s' p) ∨ Charged s' await' p

/-- A process that a step passes on stays guarded. -/
theorem Guarded.put {w : World} (hdrains : Drains w) {p : Nat} (h : Guarded w p) {t : Nat}
    {s : Supervisor} {task : Task}
    (hplugins : ∀ a, Made (tables w.supervisor) a →
      (s.plugins a).process = (w.supervisor.plugins a).process)
    (hrunning : (s.processes p).running = true)
    (hpasses : Passes w.supervisor s (w.tasks t).await task.await p) :
    Guarded (w.put s t task) p := by
  have hprocess := hpasses.attached
  have hself : Charged s task.await p → Guarded (w.put s t task) p := by
    intro hnew
    refine .inr ⟨t, ?_⟩
    rw [await_put, if_pos rfl]
    exact hnew
  rcases h with ⟨hattached, hold⟩ | ⟨u, hold⟩
  · rw [← hprocess] at hattached
    rcases hpasses.accounted hattached hold with hnew | hnew
    · exact .inl ⟨hattached, hnew⟩
    · apply hself
      rwa [Charged, if_pos hattached]
  · by_cases hu : u = t
    · subst hu
      rcases hpasses.charged hrunning hold with hnew | hnew
      · exact .inl hnew
      · exact hself hnew
    · refine .inr ⟨u, ?_⟩
      rw [await_put, if_neg hu]
      change Charged s (w.tasks u).await p
      have hmade : ∀ a, ((∃ since, (w.tasks u).await = .drained a since) ∨
          ∃ d, (w.tasks u).await = .invalidating a d) → Made (tables w.supervisor) a := by
        rintro a (⟨since, hawait⟩ | ⟨d, hawait⟩)
        · exact (hdrains.waiting u a since hawait).1.1
        · apply hdrains.held u a
          rw [hawait]
          rfl
      unfold Charged at hold ⊢
      rw [hprocess]
      split at hold
      · rename_i hattached
        rw [if_pos hattached]
        cases hawait : (w.tasks u).await <;> rw [hawait] at hold <;> try exact hold
        rename_i a since
        exact (hplugins a (hmade a (.inl ⟨since, hawait⟩))).trans hold
      · rename_i hdetached
        rw [if_neg hdetached]
        cases hawait : (w.tasks u).await <;> rw [hawait] at hold <;> try exact hold
        rename_i a d
        exact (hplugins a (hmade a (.inr ⟨d, hawait⟩))).trans hold

/-- A preparation where nothing is pending leaves the other processes accounted. -/
theorem accounted_prepared {s : Supervisor} {deploymentId : Str} {epoch : Int} {p : Nat}
    (hfree : s.free deploymentId = true) (h : Accounted s p) :
    Accounted (s.prepareActivation deploymentId epoch) p := by
  rcases h with hactive | ⟨d, hd⟩
  · exact .inl hactive
  · refine .inr ⟨d, ?_⟩
    have hne : d ≠ deploymentId := by
      rintro rfl
      rw [(free_iff.1 hfree).1] at hd
      cases hd
    simp only [Supervisor.prepareActivation, Dict.get_set, if_neg hne]
    exact hd

/-- An abort leaves every process accounted but its own. -/
theorem accounted_aborted {s : Supervisor} {preparation p : Nat}
    (hpending : s.pendingActivation preparation = true) (h : Accounted s p) :
    Accounted (s.abortActivation preparation) p ∨ preparation = p := by
  rcases h with hactive | ⟨d, hd⟩
  · exact .inl (.inl hactive)
  · by_cases hkey : d = (s.preparations preparation).deploymentId
    · right
      rw [hkey, pendingActivation_iff.1 hpending] at hd
      exact Option.some.inj hd
    · refine .inl (.inr ⟨d, ?_⟩)
      simp only [Supervisor.abortActivation, Dict.get_pop, if_neg hkey]
      exact hd

/-- A commit keeps every process but that of the plugin it replaces. -/
theorem accounted_committed {s : Supervisor} (hsound : Sound (tables s)) {preparation p : Nat}
    (hpending : s.pendingActivation preparation = true) (h : Accounted s p) :
    Accounted (s.commitActivation preparation) p ∨
      ∃ a, s.active.get (s.preparations preparation).deploymentId = some a ∧
        (s.plugins a).process = p := by
  have htables := tables_commitActivation s preparation
  have hactive : (s.commitActivation preparation).active =
      s.active.set (s.preparations preparation).deploymentId s.next :=
    congrArg Tables.active htables
  have hpendings : (s.commitActivation preparation).pendingActivations =
      s.pendingActivations.pop (s.preparations preparation).deploymentId :=
    congrArg Tables.pendingActivations htables
  have hprocess : ∀ a, ((s.commitActivation preparation).plugins a).process =
      Function.update (tables s).process s.next preparation a :=
    fun a => congrFun (congrArg Tables.process htables) a
  rcases h with ⟨d, a, ha, rfl⟩ | ⟨d, hd⟩
  · by_cases hkey : d = (s.preparations preparation).deploymentId
    · exact .inr ⟨a, hkey ▸ ha, rfl⟩
    · refine .inl (.inl ⟨d, a, ?_, ?_⟩)
      · rw [hactive, Dict.get_set, if_neg hkey]
        exact ha
      · have hlt := (hsound.made a (hsound.active d a ha).made).1
        rw [hprocess]
        exact Function.update_of_ne (Nat.ne_of_lt hlt) _ _
  · by_cases hkey : d = (s.preparations preparation).deploymentId
    · -- the candidate of the preparation is the process of the new plugin
      rw [hkey, pendingActivation_iff.1 hpending] at hd
      cases hd
      refine .inl (.inl ⟨(s.preparations preparation).deploymentId, s.next, ?_, ?_⟩)
      · rw [hactive, Dict.get_set_self]
      · rw [hprocess, Function.update_self]
    · refine .inl (.inr ⟨d, ?_⟩)
      rw [hpendings, Dict.get_pop, if_neg hkey]
      exact hd

/-- A deactivation leaves every process accounted but that of its plugin. -/
theorem accounted_removed {s : Supervisor} {preparation p : Nat} (h : Accounted s p) :
    Accounted (s.commitDeactivation preparation) p ∨
      ∃ a, (s.deactivations preparation).active = some a ∧ (s.plugins a).process = p := by
  rcases h with ⟨d, a, ha, rfl⟩ | hpending
  · by_cases hstill : (s.stillActive preparation).isSome = true
    · obtain ⟨b, hb⟩ := Option.isSome_iff_exists.1 hstill
      obtain ⟨hstored, hactive⟩ := Option.filter_eq_some_iff.1 hb
      rw [decide_eq_true_eq] at hactive
      by_cases hkey : d = (s.deactivations preparation).deploymentId
      · right
        rw [hkey, hactive] at ha
        cases ha
        exact ⟨a, hstored, rfl⟩
      · refine .inl (.inl ⟨d, a, ?_, rfl⟩)
        simp only [Supervisor.commitDeactivation, hstill, if_true, Dict.get_pop, if_neg hkey]
        exact ha
    · refine .inl (.inl ⟨d, a, ?_, rfl⟩)
      simp only [Supervisor.commitDeactivation, hstill, Bool.false_eq_true, if_false]
      exact ha
  · exact .inl (.inr hpending)

theorem accounted_congr {s s' : Supervisor} {p : Nat} (hactive : s'.active = s.active)
    (hpending : s'.pendingActivations = s.pendingActivations)
    (hprocess : ∀ a, (s'.plugins a).process = (s.plugins a).process) (h : Accounted s p) :
    Accounted s' p := by
  simpa only [Accounted, hactive, hpending, hprocess] using h

theorem processes_setAccepting (s : Supervisor) (accepting : Bool) (plugin : Option Nat) :
    (s.setAccepting accepting plugin).processes = s.processes := by
  cases plugin <;> rfl

theorem processes_setProcess (s : Supervisor) (p q : Nat) (process : PluginProcess) :
    (s.setProcess p process).processes q = if q = p then process else s.processes q := by
  simp only [Supervisor.setProcess, Function.update_apply]

section Changes

variable {s s' : Supervisor} {await await' : Await} {p : Nat}

/-- A step that leaves the processes alone. -/
theorem passes_of_processes (hprocesses : s'.processes = s.processes)
    (haccounted : Accounted s p → Accounted s' p ∨ Stops s' await' p)
    (hcharged : (s.processes p).running = true → Charged s await p →
      ((s.processes p).attached = true ∧ Accounted s' p) ∨ Charged s' await' p) :
    Passes s s' await await' p where
  running h := hprocesses ▸ h
  attached := by rw [hprocesses]
  accounted _ := haccounted
  charged h hold := by
    rw [hprocesses] at h ⊢
    exact hcharged h hold

/-- A task that has nothing in hand changes neither the tables of the processes nor these. -/
theorem passes_of_tables {T : Tables} (hprocesses : s'.processes = s.processes)
    (htables : tables s' = T) (hactive : T.active = s.active)
    (hpending : T.pendingActivations = s.pendingActivations)
    (hprocess : T.process = (tables s).process) (hnone : ¬ Charged s await p) :
    Passes s s' await await' p := by
  subst htables
  exact passes_of_processes hprocesses
    (fun h => .inl (accounted_congr hactive hpending (fun a => congrFun hprocess a) h))
    (fun _ hcharged => absurd hcharged hnone)

/-- A task lets go of a process only when that has ended, or when the tables know it. -/
theorem passes_plain (hspent : Spent s await) : Passes s s await await' p := by
  refine passes_of_processes rfl .inl fun hrunning hcharged => .inl ?_
  unfold Charged at hcharged
  split at hcharged
  · rename_i hattached
    refine ⟨hattached, ?_⟩
    cases await with
    | stopping q =>
      obtain rfl : q = p := hcharged
      rw [show _ = false from hspent] at hattached
      cases hattached
    | recheck q =>
      obtain rfl : q = p := hcharged
      exact .inr ⟨_, pendingActivation_iff.1 hspent⟩
    | probing q => exact hspent.elim
    | drained a since => exact hspent.elim
    | _ => exact hcharged.elim
  · cases await with
    | closing q =>
      obtain rfl : q = p := hcharged
      rw [show _ = false from hspent] at hrunning
      cases hrunning
    | invalidating a d => exact hspent.elim
    | _ => exact hcharged.elim

/-- The task goes on to another await for the same process. -/
theorem passes_on (h : Charged s await p → Charged s await' p) : Passes s s await await' p :=
  passes_of_processes rfl .inl fun _ hcharged => .inr (h hcharged)

/-- The process of an invalidated plugin has ended. -/
theorem passes_invalidated {a : Nat} {deploymentId : Str}
    (hended : (s.processes (s.plugins a).process).running = false) :
    Passes s s (.invalidating a deploymentId) await' p := by
  refine passes_of_processes rfl .inl fun hrunning hcharged => ?_
  unfold Charged at hcharged
  split at hcharged
  · exact hcharged.elim
  · rw [show (s.plugins a).process = p from hcharged, hrunning] at hended
    cases hended

/-- The object of the new candidate is not a process yet. -/
theorem passes_prepared {deploymentId : Str} {requestedEpoch : Option Int} {epoch : Int}
    (hfree : s.free deploymentId = true)
    (hrunning : ((s.prepareActivation deploymentId epoch).processes p).running = true) :
    Passes s (s.prepareActivation deploymentId epoch)
      (.prepareActivation deploymentId requestedEpoch) await' p := by
  have hne : p ≠ s.next := by
    rintro rfl
    simp [Supervisor.prepareActivation] at hrunning
  have hprocess : (s.prepareActivation deploymentId epoch).processes p = s.processes p :=
    Function.update_of_ne hne _ _
  refine ⟨fun h => hprocess ▸ h, by rw [hprocess], fun _ ha => .inl (accounted_prepared hfree ha), ?_⟩
  exact fun _ hcharged => absurd hcharged (not_charged rfl p)

/-- A step that writes one process passes on the others. -/
theorem passes_setProcess {q : Nat} {process : PluginProcess} (hpq : p ≠ q)
    (hnone : ¬ Charged s await p) : Passes s (s.setProcess q process) await await' p := by
  have hprocess := processes_setProcess s q p process
  rw [if_neg hpq] at hprocess
  exact ⟨fun h => hprocess ▸ h, by rw [hprocess], fun _ ha => .inl ha,
    fun _ hcharged => absurd hcharged hnone⟩

/-- Who creates a process is in charge of it. -/
theorem charged_created (s : Supervisor) (p : Nat) :
    Charged (s.setProcess p ⟨true, true⟩) (.probing p) p := by
  rw [Charged, processes_setProcess, if_pos rfl, if_pos rfl]
  rfl

/-- Who detaches a process waits for its end. -/
theorem charged_detached {q : Nat} (hends : Ends (s.detach q) await' q) :
    Charged (s.detach q) await' q := by
  rw [Charged, Supervisor.detach, processes_setProcess, if_pos rfl, if_neg Bool.false_ne_true]
  exact hends

/-- A commit is in charge of the plugin that it replaces. -/
theorem passes_committed (hsound : Sound (tables s)) {preparation : Nat}
    (hpending : s.pendingActivation preparation = true)
    (hawait : (∃ a, s.active.get (s.preparations preparation).deploymentId = some a ∧
        await' = .drained a (s.plugins a).drained.wait) ∨
      (s.active.get (s.preparations preparation).deploymentId = none ∧ plain await' = true))
    (hplugins : ∀ a, Made (tables s) a →
      ((s.commitActivation preparation).plugins a).process = (s.plugins a).process) :
    Passes s (s.commitActivation preparation) (.commitActivation preparation) await' p := by
  refine passes_of_processes (processes_setAccepting s false _) (fun ha => ?_)
    fun _ hcharged => absurd hcharged (not_charged rfl p)
  rcases accounted_committed hsound hpending ha with hnew | ⟨a, hactive, rfl⟩
  · exact .inl hnew
  · -- the process of the plugin that is replaced, which the task is going to stop
    right
    rcases hawait with ⟨b, hb, rfl⟩ | ⟨hnone, -⟩
    · rw [hactive] at hb
      cases hb
      exact hplugins a (hsound.active _ a hactive).made
    · rw [hactive] at hnone
      cases hnone

/-- An abort is in charge of its process until it is stopped. -/
theorem passes_aborted {preparation : Nat} (hpending : s.pendingActivation preparation = true) :
    Passes s (s.abortActivation preparation) (.abortActivation preparation)
      (.stopping preparation) p :=
  passes_of_processes rfl (fun ha => accounted_aborted hpending ha)
    fun _ hcharged => absurd hcharged (not_charged rfl p)

/-- A deactivation is in charge of the plugin that it takes out. -/
theorem passes_removed {preparation : Nat}
    (hawait : (∃ a, (s.deactivations preparation).active = some a ∧
        await' = .drained a (s.plugins a).drained.wait) ∨
      ((s.deactivations preparation).active = none ∧ plain await' = true)) :
    Passes s (s.commitDeactivation preparation) (.commitDeactivation preparation) await' p := by
  refine passes_of_processes rfl (fun ha => ?_)
    fun _ hcharged => absurd hcharged (not_charged rfl p)
  rcases (accounted_removed ha : Accounted (s.commitDeactivation preparation) p ∨ _) with hnew | ⟨a, hstored, rfl⟩
  · exact .inl hnew
  · right
    rcases hawait with ⟨b, hb, rfl⟩ | ⟨hnone, -⟩
    · rw [hstored] at hb
      cases hb
      rfl
    · rw [hstored] at hnone
      cases hnone

/-- A step passes on every running process, or takes it in hand. -/
theorem passes_change (hsound : Sound (tables s)) (hchange : Change s await s' await')
    (hrunning : (s'.processes p).running = true) :
    Charged s' await' p ∨ Passes s s' await await' p := by
  have htransition := transition_of_change hchange
  cases hchange with
  | plain _ _ hspent hplain => exact .inr (passes_plain hspent)
  | probed q => exact .inr (passes_on id)
  | unready q => exact .inr (passes_on id)
  | outdated q hpending => exact .inr (passes_on id)
  | drained a since hready => exact .inr (passes_on id)
  | called a deploymentId completed =>
    exact .inr (passes_on fun hcharged => absurd hcharged (not_charged rfl p))
  | invalidated a deploymentId hended => exact .inr (passes_invalidated hended)
  | prepared deploymentId requestedEpoch epoch hfree hepoch =>
    exact .inr (passes_prepared hfree hrunning)
  | created q =>
    by_cases hpq : p = q
    · subst hpq
      exact .inl (charged_created s p)
    · exact .inr (passes_setProcess hpq (not_charged rfl p))
  | closed q hattached =>
    by_cases hpq : p = q
    · subst hpq
      exact .inl (charged_detached rfl)
    · refine .inr (passes_setProcess hpq fun hcharged => ?_)
      unfold Charged at hcharged
      split at hcharged
      · exact hpq (show q = p from hcharged).symm
      · exact hcharged
  | hungUp a deploymentId hattached =>
    by_cases hpq : p = (s.plugins a).process
    · subst hpq
      exact .inl (charged_detached rfl)
    · exact .inr (passes_setProcess hpq (not_charged rfl p))
  | committed preparation _ hpending hawait =>
    exact .inr (passes_committed hsound hpending hawait fun a ha => (htransition.made hsound ha).2)
  | aborted preparation hpending => exact .inr (passes_aborted hpending)
  | preparedDown deploymentId _ _ hplain =>
    exact .inr (passes_of_tables (processes_setAccepting s false _)
      (tables_prepareDeactivation s deploymentId) rfl rfl rfl (not_charged rfl p))
  | removed preparation _ hpending hawait => exact .inr (passes_removed hawait)
  | reopened preparation _ hpending hplain =>
    exact .inr (passes_of_tables (processes_setAccepting s true _)
      (tables_abortDeactivation s preparation) rfl rfl rfl (not_charged rfl p))
  | admitted a deploymentId hactive haccepting =>
    exact .inr (passes_of_tables rfl (tables_beginCall s a) rfl rfl rfl (not_charged rfl p))
  | released a deploymentId completed _ hawait =>
    exact .inr (passes_of_tables rfl (tables_leave s a) rfl rfl rfl (not_charged rfl p))
  | answered a deploymentId _ hactive hplain =>
    exact .inr (passes_of_tables rfl rfl rfl rfl rfl (not_charged rfl p))

end Changes

/-- Every change of the supervisor keeps the running processes guarded. -/
theorem guarded_change {w : World} (h : Kept w) {t : Nat} {s : Supervisor} {task : Task}
    (hchange : Change w.supervisor (w.tasks t).await s task.await) (p : Nat)
    (hrunning : (s.processes p).running = true) : Guarded (w.put s t task) p := by
  have hsound := h.drains.sound
  rcases passes_change hsound hchange hrunning with hcharged | hpasses
  · refine .inr ⟨t, ?_⟩
    rw [await_put, if_pos rfl]
    exact hcharged
  · have htransition := transition_of_change hchange
    exact (h.guarded p (hpasses.running hrunning)).put h.drains
      (fun a ha => (htransition.made hsound ha).2) hrunning hpasses

/-- The process needs no more: it has ended, it is closed already and whoever has closed it
waits for its end, or another operation is on its way to stop it. -/
def Cared (w : World) (t p : Nat) : Prop :=
  (w.supervisor.processes p).running = false ∨ (w.supervisor.processes p).attached = false ∨
    ∃ u, u ≠ t ∧ Stops w.supervisor (w.tasks u).await p

/-- The awaits that no exception may end: the wait for the last calls of an old plugin; the
stop of a process, and the second entry of the lock in `prepare_activation`, unless the
preparation is still the pending one; the wait for the end of a process that the task has
closed, be it in `stop` or in a call. -/
def Spares (w : World) : Action → Prop
  | .throw t =>
    match (w.tasks t).await with
    | .drained a _ => Cared w t (w.supervisor.plugins a).process
    | .stopping p | .recheck p => w.supervisor.pendingActivation p = true ∨ Cared w t p
    | .closing p => (w.supervisor.processes p).running = false
    | .invalidating a _ =>
      (w.supervisor.processes (w.supervisor.plugins a).process).running = false
    | _ => True
  | _ => True

/-- Whoever else is on its way to stop an attached process has it in hand. -/
theorem Cared.charged {w : World} {t p : Nat} (h : Cared w t p)
    (hrunning : (w.supervisor.processes p).running = true)
    (hattached : (w.supervisor.processes p).attached = true) :
    ∃ u, u ≠ t ∧ Charged w.supervisor (w.tasks u).await p := by
  rcases h with hended | hclosed | ⟨u, hne, hu⟩
  · rw [hrunning] at hended
    cases hended
  · rw [hattached] at hclosed
    cases hclosed
  · refine ⟨u, hne, ?_⟩
    rwa [Charged, if_pos hattached]

/-- An exception that ends none of those awaits leaves a running process to the tables, to the
start that it belongs to, or to another task. -/
theorem Spares.charged {w : World} {t p : Nat} (h : Spares w (.throw t))
    (hrunning : (w.supervisor.processes p).running = true)
    (hcharged : Charged w.supervisor (w.tasks t).await p) :
    (w.tasks t).await = .probing p ∨
      ((w.supervisor.processes p).attached = true ∧ Accounted w.supervisor p) ∨
      ∃ u, u ≠ t ∧ Charged w.supervisor (w.tasks u).await p := by
  have hpending : ∀ {q : Nat}, q = p → (w.supervisor.processes p).attached = true →
      w.supervisor.pendingActivation q = true ∨ Cared w t q →
      ((w.supervisor.processes p).attached = true ∧ Accounted w.supervisor p) ∨
        ∃ u, u ≠ t ∧ Charged w.supervisor (w.tasks u).await p := by
    rintro q rfl hattached (hstill | hcared)
    · exact .inl ⟨hattached, .inr ⟨_, pendingActivation_iff.1 hstill⟩⟩
    · exact .inr (hcared.charged hrunning hattached)
  unfold Charged at hcharged
  simp only [Spares] at h
  split at hcharged
  · rename_i hattached
    cases hawait : (w.tasks t).await with
    | probing q =>
      rw [hawait] at hcharged
      obtain rfl : q = p := hcharged
      exact .inl rfl
    | stopping q =>
      rw [hawait] at hcharged h
      exact .inr (hpending hcharged hattached h)
    | recheck q =>
      rw [hawait] at hcharged h
      exact .inr (hpending hcharged hattached h)
    | drained a since =>
      rw [hawait] at hcharged h
      obtain rfl : (w.supervisor.plugins a).process = p := hcharged
      exact .inr (.inr (Cared.charged h hrunning hattached))
    | _ =>
      rw [hawait] at hcharged
      exact hcharged.elim
  · cases hawait : (w.tasks t).await with
    | closing q =>
      rw [hawait] at hcharged h
      obtain rfl : q = p := hcharged
      have hended : (w.supervisor.processes q).running = false := h
      rw [hrunning] at hended
      cases hended
    | invalidating a d =>
      rw [hawait] at hcharged h
      obtain rfl : (w.supervisor.plugins a).process = p := hcharged
      have hended : (w.supervisor.processes (w.supervisor.plugins a).process).running = false := h
      rw [hrunning] at hended
      cases hended
    | _ =>
      rw [hawait] at hcharged
      exact hcharged.elim

/-- A task that is cancelled in its probe goes on to stop the process. -/
theorem thrown_probing {task : Task} {p : Nat} (h : task.await = .probing p) :
    (thrown task).await = .stopping p := by
  obtain ⟨await, frames⟩ := task
  obtain rfl : await = .probing p := h
  rfl

/-- Every step that spares the awaits keeps the processes guarded. -/
theorem kept_step {w w' : World} {act : Action} (h : Kept w) (hspares : Spares w act)
    (hstep : step w act = some w') : Kept w' := by
  refine ⟨drains_step h.drains hstep, ?_⟩
  intro p hrunning
  cases turn_of_step hstep with
  | started t operation hidle hknown =>
    refine (h.guarded p hrunning).put h.drains (fun _ _ => rfl) hrunning (passes_on ?_)
    intro hcharged
    rw [hidle] at hcharged
    exact absurd hcharged (not_charged rfl p)
  | resumed t reply s task hchange => exact guarded_change h hchange p hrunning
  | threw t hbusy =>
    rcases h.guarded p hrunning with haccounted | ⟨u, hu⟩
    · exact .inl haccounted
    · by_cases hut : u = t
      · subst hut
        rcases hspares.charged hrunning hu with hprobing | haccounted | ⟨v, hne, hv⟩
        · -- the candidate is stopped by its own start
          refine .inr ⟨u, ?_⟩
          rw [await_put, if_pos rfl]
          rw [thrown_probing hprobing]
          rw [hprobing] at hu
          exact hu
        · exact .inl haccounted
        · refine .inr ⟨v, ?_⟩
          rw [await_put, if_neg hne]
          exact hv
      · refine .inr ⟨u, ?_⟩
        rw [await_put, if_neg hut]
        exact hu
  | exited q =>
    have hprocess := processes_setProcess w.supervisor q p
      { w.supervisor.processes q with running := false }
    by_cases hpq : p = q
    · rw [if_pos hpq] at hprocess
      rw [hprocess] at hrunning
      cases hrunning
    · rw [if_neg hpq] at hprocess
      rw [hprocess] at hrunning
      rcases h.guarded p hrunning with ⟨hattached, haccounted⟩ | ⟨t, ht⟩
      · refine .inl ⟨?_, haccounted⟩
        rw [hprocess]
        exact hattached
      · refine .inr ⟨t, ?_⟩
        unfold Charged at ht ⊢
        rw [hprocess]
        exact ht

/-- No operation of the supervisor is in progress. -/
def Idle (w : World) : Prop := ∀ t, (w.tasks t).await = .idle

/-- Every process that runs is the one of an active plugin or the candidate of a pending
preparation. -/
def NoOrphan (w : World) : Prop :=
  ∀ p, (w.supervisor.processes p).running = true → Accounted w.supervisor p

/-- In a run in which no exception ends an await that a running process depends on, no process
is an orphan when nothing is in progress. -/
theorem no_plugin_orphaned (as : List Action) (w : World)
    (hspares : Runs.EachStep step Spares World.new as)
    (hrun : Runs.run step World.new as = some w) (hidle : Idle w) : NoOrphan w := by
  have h := Runs.run_invariant_of_each Spares Kept
    (fun _ _ _ h hspares hstep => kept_step h hspares hstep) kept_new hspares hrun
  intro p hrunning
  rcases h.guarded p hrunning with ⟨-, haccounted⟩ | ⟨t, ht⟩
  · exact haccounted
  · rw [hidle t] at ht
    exact absurd ht (not_charged rfl p)

/-- The task that an action is about. -/
def Concerns (t : Nat) : Action → Prop
  | .start u _ | .resume u _ | .throw u => u = t
  | .exit _ => False

/-- A task that no action is about stays as it is. -/
theorem untouched_run {as : List Action} {w w' : World} {t : Nat} (has : ∀ a ∈ as, ¬ Concerns t a)
    (hrun : Runs.run step w as = some w') : w'.tasks t = w.tasks t := by
  induction as generalizing w with
  | nil =>
    cases hrun
    rfl
  | cons a as ih =>
    obtain ⟨v, hstep, hrest⟩ := (Runs.run_cons _ _ _ _ _).1 hrun
    have hne := has a (List.mem_cons_self ..)
    have hfirst : v.tasks t = w.tasks t := by
      cases turn_of_step hstep with
      | started u operation => exact Function.update_of_ne (fun h => hne h.symm) _ _
      | resumed u reply s task => exact Function.update_of_ne (fun h => hne h.symm) _ _
      | threw u => exact Function.update_of_ne (fun h => hne h.symm) _ _
      | exited p => rfl
    rw [ih (fun b hb => has b (List.mem_cons_of_mem _ hb)) hrest, hfirst]

/-- Three tasks work, and in the end they are idle. -/
theorem idle_of_three {as : List Action} {w : World} (hrun : Runs.run step World.new as = some w)
    (has : ∀ a ∈ as, ∀ t, Concerns t a → t < 3) (hthree : ∀ t < 3, (w.tasks t).await = .idle) :
    Idle w := by
  intro t
  by_cases ht : t < 3
  · exact hthree t ht
  · rw [untouched_run (fun a ha hc => ht (has a ha t hc)) hrun]
    rfl

/-- Task 1 calls the first plugin of a deployment while task 2 replaces it. -/
def calledSwap : List Action :=
  activation 0 (PyData.py "echo") ++ .start 1 (.call (PyData.py "echo")) :: resumes 1 1 ++
    activation 2 (PyData.py "echo")

/-- Task 2 is cancelled while it waits for the drain, and then the call ends. -/
def cancelledSwap : List Action := calledSwap ++ .throw 2 :: resumes 2 1 ++ resumes 1 3

def swapRun (as : List Action) : Option World := Runs.run step World.new as

theorem cancelledRun_isSome : (swapRun cancelledSwap).isSome = true := by decide +kernel

theorem concerns_of_all {as : List Action}
    (h : (as.all fun a => match a with
      | .start t _ | .resume t _ | .throw t => decide (t < 3)
      | .exit _ => true) = true) : ∀ a ∈ as, ∀ t, Concerns t a → t < 3 := by
  intro a ha t hc
  have hone := List.all_eq_true.1 h a ha
  cases a with
  | start u operation => exact hc ▸ of_decide_eq_true hone
  | resume u reply => exact hc ▸ of_decide_eq_true hone
  | throw u => exact hc ▸ of_decide_eq_true hone
  | exit p => exact hc.elim

/-- Task 2 is cancelled while the new candidate starts, and stops it. It tries again and is
cancelled while it waits for the drain of the old plugin, whose process has crashed. -/
def cancelledTwice : List Action :=
  activation 0 (PyData.py "echo") ++ .start 1 (.call (PyData.py "echo")) :: resumes 1 1 ++
    .start 2 (.activate (PyData.py "echo") none) :: resumes 2 2 ++ .throw 2 :: resumes 2 1 ++
    .exit 2 :: resumes 2 3 ++ .start 2 (.activate (PyData.py "echo") none) :: resumes 2 5 ++
    .exit 0 :: .throw 2 :: resumes 2 1 ++ resumes 1 3

theorem cancelledTwice_isSome : (swapRun cancelledTwice).isSome = true := by decide +kernel

/-- The processes that an exception would leave alone have ended. -/
def sparesEnded (w : World) : Action → Bool
  | .throw t =>
    match (w.tasks t).await with
    | .drained a _ | .invalidating a _ =>
      !(w.supervisor.processes (w.supervisor.plugins a).process).running
    | .stopping p | .recheck p | .closing p => !(w.supervisor.processes p).running
    | _ => true
  | _ => true

theorem spares_of_ended {w : World} {a : Action} (h : sparesEnded w a = true) : Spares w a := by
  cases a with
  | throw t =>
    simp only [sparesEnded] at h
    simp only [Spares]
    cases hawait : (w.tasks t).await <;> rw [hawait] at h <;>
      first | trivial | simp_all [Cared]
  | start | resume | exit => trivial

theorem no_plugin_orphaned_cancelled :
    ((swapRun cancelledTwice).get cancelledTwice_isSome).supervisor.processes 3 = ⟨true, true⟩ ∧
      NoOrphan ((swapRun cancelledTwice).get cancelledTwice_isSome) := by
  refine ⟨by decide +kernel, ?_⟩
  have hrun : Runs.run step World.new cancelledTwice =
      some ((swapRun cancelledTwice).get cancelledTwice_isSome) := (Option.some_get _).symm
  have hended : Runs.EachStep step (fun w a => sparesEnded w a = true) World.new cancelledTwice := by
    decide +kernel
  apply no_plugin_orphaned cancelledTwice _ _ hrun
  · exact idle_of_three hrun (concerns_of_all (by decide)) (by decide +kernel)
  · exact Runs.each_of_invariant (fun _ => True) (fun _ _ _ _ _ _ => trivial)
      (fun _ _ _ h => spares_of_ended h) trivial hended

/-- The old process runs on, and neither table knows it. -/
theorem cancelled_swap_orphans :
    Idle ((swapRun cancelledSwap).get cancelledRun_isSome) ∧
      ¬ NoOrphan ((swapRun cancelledSwap).get cancelledRun_isSome) := by
  have hrun : Runs.run step World.new cancelledSwap = some ((swapRun cancelledSwap).get cancelledRun_isSome) :=
    (Option.some_get _).symm
  refine ⟨idle_of_three hrun (concerns_of_all (by decide)) (by decide +kernel), ?_⟩
  intro hnone
  rcases hnone 0 (by decide +kernel) with ⟨d, a, hactive, hprocess⟩ | ⟨d, hpending⟩
  · have hothers : (((swapRun cancelledSwap).get cancelledRun_isSome).supervisor.active.values.all
        fun a => decide ((((swapRun cancelledSwap).get cancelledRun_isSome).supervisor.plugins a).process
          ≠ 0)) = true := by decide +kernel
    exact of_decide_eq_true (List.all_eq_true.1 hothers a (Dict.mem_values hactive)) hprocess
  · have hempty : ((swapRun cancelledSwap).get cancelledRun_isSome).supervisor.pendingActivations.values
        = [] := by decide +kernel
    have hmem := Dict.mem_values hpending
    rw [hempty] at hmem
    cases hmem

end WechatBot.PluginOrphans
