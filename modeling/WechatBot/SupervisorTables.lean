import WechatBot.SupervisorSteps

/-!
# The tables of the supervisor

What the dictionaries of the supervisor say about its objects in every state: the plugins
that were ever active have processes of their own, a pending preparation has one that no
plugin has, and a deployment has at most one pending transition.
-/
namespace WechatBot.SupervisorTables

open Dictionaries (Dict)
open PyData (Str)
open PluginSupervisor SupervisorSteps

/-- The supervisor without what calls and processes change. -/
structure Tables where
  active : Dict Str Nat
  lastEpoch : Str → Int
  pendingActivations : Dict Str Nat
  pendingDeactivations : Dict Str Nat
  process : Nat → Nat
  epoch : Nat → Int
  preparations : Nat → ActivationPreparation
  deactivations : Nat → DeactivationPreparation
  next : Nat
  committed : List Commit

def tables (s : Supervisor) : Tables where
  active := s.active
  lastEpoch := s.lastEpoch
  pendingActivations := s.pendingActivations
  pendingDeactivations := s.pendingDeactivations
  process a := (s.plugins a).process
  epoch a := (s.plugins a).activationEpoch
  preparations := s.preparations
  deactivations := s.deactivations
  next := s.next
  committed := s.committed

theorem tables_setPlugin {s : Supervisor} {a : Nat} {plugin : ActivePlugin}
    (hprocess : plugin.process = (s.plugins a).process)
    (hepoch : plugin.activationEpoch = (s.plugins a).activationEpoch) :
    tables (s.setPlugin a plugin) = tables s := by
  have hp : (fun b => (Function.update s.plugins a plugin b).process) = fun b => (s.plugins b).process := by
    funext b
    by_cases hb : b = a
    · subst hb
      simp [hprocess]
    · simp [hb]
  have he : (fun b => (Function.update s.plugins a plugin b).activationEpoch) =
      fun b => (s.plugins b).activationEpoch := by
    funext b
    by_cases hb : b = a
    · subst hb
      simp [hepoch]
    · simp [hb]
  simp only [tables, Supervisor.setPlugin, hp, he]

@[simp] theorem tables_setAccepting (s : Supervisor) (accepting : Bool) (a : Option Nat) :
    tables (s.setAccepting accepting a) = tables s := by
  cases a with
  | none => rfl
  | some a => exact tables_setPlugin rfl rfl

@[simp] theorem tables_beginCall (s : Supervisor) (a : Nat) : tables (s.beginCall a) = tables s :=
  tables_setPlugin rfl rfl

@[simp] theorem tables_leave (s : Supervisor) (a : Nat) : tables (s.leave a) = tables s :=
  tables_setPlugin rfl rfl

@[simp] theorem tables_answer (s : Supervisor) (deploymentId : Str) (a : Nat) :
    tables (s.answer deploymentId a) = tables s := rfl

@[simp] theorem tables_setProcess (s : Supervisor) (p : Nat) (process : PluginProcess) :
    tables (s.setProcess p process) = tables s := rfl

@[simp] theorem tables_detach (s : Supervisor) (p : Nat) : tables (s.detach p) = tables s := rfl

namespace Tables

def prepareActivation (T : Tables) (deploymentId : Str) (epoch : Int) : Tables :=
  { T with
    pendingActivations := T.pendingActivations.set deploymentId T.next
    preparations := Function.update T.preparations T.next ⟨deploymentId, epoch⟩
    next := T.next + 1 }

def abortActivation (T : Tables) (preparation : Nat) : Tables :=
  { T with pendingActivations := T.pendingActivations.pop (T.preparations preparation).deploymentId }

def commitActivation (T : Tables) (preparation : Nat) : Tables :=
  let deploymentId := (T.preparations preparation).deploymentId
  let epoch := (T.preparations preparation).activationEpoch
  { T with
    pendingActivations := T.pendingActivations.pop deploymentId
    lastEpoch := Function.update T.lastEpoch deploymentId epoch
    active := T.active.set deploymentId T.next
    process := Function.update T.process T.next preparation
    epoch := Function.update T.epoch T.next epoch
    next := T.next + 1
    committed := T.committed ++ [⟨deploymentId, epoch, T.next⟩] }

def prepareDeactivation (T : Tables) (deploymentId : Str) : Tables :=
  { T with
    pendingDeactivations := T.pendingDeactivations.set deploymentId T.next
    deactivations := Function.update T.deactivations T.next ⟨deploymentId, T.active.get deploymentId⟩
    next := T.next + 1 }

/-- A deactivation is over; `active` is what is left of the active plugins. -/
def closeDeactivation (T : Tables) (deploymentId : Str) (active : Dict Str Nat) : Tables :=
  { T with
    pendingDeactivations := T.pendingDeactivations.pop deploymentId
    active := active }

end Tables

theorem tables_prepareActivation (s : Supervisor) (deploymentId : Str) (epoch : Int) :
    tables (s.prepareActivation deploymentId epoch) =
      (tables s).prepareActivation deploymentId epoch := rfl

theorem tables_abortActivation (s : Supervisor) (preparation : Nat) :
    tables (s.abortActivation preparation) = (tables s).abortActivation preparation := rfl

/-- Installing a plugin files it under its deployment and ends the preparation. -/
theorem tables_install (s : Supervisor) (deploymentId : Str) (preparation : Nat) (epoch : Int) :
    tables (s.install deploymentId preparation epoch) =
      { tables s with
        pendingActivations := s.pendingActivations.pop deploymentId
        lastEpoch := Function.update s.lastEpoch deploymentId epoch
        active := s.active.set deploymentId s.next
        process := Function.update (tables s).process s.next preparation
        epoch := Function.update (tables s).epoch s.next epoch
        next := s.next + 1
        committed := s.committed ++ [⟨deploymentId, epoch, s.next⟩] } := by
  have hp : (fun b => (Function.update s.plugins s.next
      (⟨preparation, epoch, 0, true, ⟨true, 0⟩⟩ : ActivePlugin) b).process) =
      Function.update (tables s).process s.next preparation := by
    funext b
    by_cases hb : b = s.next
    · subst hb
      simp
    · simp [hb, tables]
  have he : (fun b => (Function.update s.plugins s.next
      (⟨preparation, epoch, 0, true, ⟨true, 0⟩⟩ : ActivePlugin) b).activationEpoch) =
      Function.update (tables s).epoch s.next epoch := by
    funext b
    by_cases hb : b = s.next
    · subst hb
      simp
    · simp [hb, tables]
  rw [← hp, ← he]
  rfl

theorem tables_commitActivation (s : Supervisor) (preparation : Nat) :
    tables (s.commitActivation preparation) = (tables s).commitActivation preparation := by
  have hkept := tables_setAccepting s false (s.active.get (s.preparations preparation).deploymentId)
  unfold Supervisor.commitActivation
  dsimp only
  rw [tables_install, hkept]
  generalize s.setAccepting false (s.active.get (s.preparations preparation).deploymentId) = u at hkept ⊢
  simp only [tables, Tables.mk.injEq] at hkept
  obtain ⟨h1, h2, h3, h4, -, -, -, -, h9, h10⟩ := hkept
  rw [h1, h2, h3, h9, h10]
  rfl

theorem tables_prepareDeactivation (s : Supervisor) (deploymentId : Str) :
    tables (s.prepareDeactivation deploymentId) = (tables s).prepareDeactivation deploymentId := by
  have hkept := tables_setAccepting s false (s.active.get deploymentId)
  have hnew : tables (s.prepareDeactivation deploymentId) =
      { tables (s.setAccepting false (s.active.get deploymentId)) with
        pendingDeactivations := s.pendingDeactivations.set deploymentId s.next
        deactivations :=
          Function.update s.deactivations s.next ⟨deploymentId, s.active.get deploymentId⟩
        next := s.next + 1 } := rfl
  rw [hnew, hkept]
  rfl

/-- A commit of a deactivation takes the plugin out, if it is still the one. -/
theorem tables_commitDeactivation (s : Supervisor) (preparation : Nat) :
    tables (s.commitDeactivation preparation) =
      (tables s).closeDeactivation (s.deactivations preparation).deploymentId
        (if (s.stillActive preparation).isSome then
          s.active.pop (s.deactivations preparation).deploymentId else s.active) := rfl

theorem tables_abortDeactivation (s : Supervisor) (preparation : Nat) :
    tables (s.abortDeactivation preparation) =
      (tables s).closeDeactivation (s.deactivations preparation).deploymentId s.active := by
  have hkept := tables_setAccepting s true (s.stillActive preparation)
  have hnew : tables (s.abortDeactivation preparation) =
      { tables (s.setAccepting true (s.stillActive preparation)) with
        pendingDeactivations :=
          s.pendingDeactivations.pop (s.deactivations preparation).deploymentId } := rfl
  rw [hnew, hkept]
  rfl

/-- What a step does to the tables. -/
inductive Transition (T : Tables) : Tables → Prop
  | same : Transition T T
  | prepared (deploymentId : Str) (epoch : Int)
      (hactivation : T.pendingActivations.get deploymentId = none)
      (hdeactivation : T.pendingDeactivations.get deploymentId = none)
      (hepoch : T.lastEpoch deploymentId < epoch) :
    Transition T (T.prepareActivation deploymentId epoch)
  | aborted (preparation : Nat)
      (hpending : T.pendingActivations.get (T.preparations preparation).deploymentId = some preparation) :
    Transition T (T.abortActivation preparation)
  | committed (preparation : Nat)
      (hpending : T.pendingActivations.get (T.preparations preparation).deploymentId = some preparation) :
    Transition T (T.commitActivation preparation)
  | preparedDown (deploymentId : Str)
      (hactivation : T.pendingActivations.get deploymentId = none)
      (hdeactivation : T.pendingDeactivations.get deploymentId = none) :
    Transition T (T.prepareDeactivation deploymentId)
  | closedDown (deploymentId : Str) (active : Dict Str Nat)
      (hactive : ∀ k a, active.get k = some a → T.active.get k = some a) :
    Transition T (T.closeDeactivation deploymentId active)

theorem free_iff {s : Supervisor} {deploymentId : Str} : s.free deploymentId = true ↔
    s.pendingActivations.get deploymentId = none ∧ s.pendingDeactivations.get deploymentId = none := by
  simp [Supervisor.free]

theorem pendingActivation_iff {s : Supervisor} {preparation : Nat} :
    s.pendingActivation preparation = true ↔
      s.pendingActivations.get (s.preparations preparation).deploymentId = some preparation := by
  simp [Supervisor.pendingActivation]

/-- Every change of the supervisor is a transition of its tables, or leaves them. -/
theorem transition_of_change {s s' : Supervisor} {await await' : Await}
    (h : Change s await s' await') : Transition (tables s) (tables s') := by
  cases h with
  | plain | probed | unready | outdated | drained | called | invalidated => exact .same
  | prepared _ _ epoch hfree hepoch =>
    obtain ⟨hactivation, hdeactivation⟩ := free_iff.1 hfree
    rw [tables_prepareActivation]
    exact .prepared _ epoch hactivation hdeactivation hepoch
  | created p => exact .same
  | closed p hattached => exact .same
  | hungUp a deploymentId hattached => exact .same
  | committed preparation _ hpending hawait =>
    rw [tables_commitActivation]
    exact .committed preparation (pendingActivation_iff.1 hpending)
  | aborted preparation hpending =>
    rw [tables_abortActivation]
    exact .aborted preparation (pendingActivation_iff.1 hpending)
  | preparedDown deploymentId _ hfree hplain =>
    obtain ⟨hactivation, hdeactivation⟩ := free_iff.1 hfree
    rw [tables_prepareDeactivation]
    exact .preparedDown _ hactivation hdeactivation
  | removed preparation _ hpending hawait =>
    rw [tables_commitDeactivation]
    apply Transition.closedDown
    intro k a hget
    split at hget
    · exact (Dict.get_of_pop hget).2
    · exact hget
  | reopened preparation _ hpending hplain =>
    rw [tables_abortDeactivation]
    exact .closedDown _ _ fun _ _ hget => hget
  | admitted a deploymentId hactive haccepting =>
    rw [tables_beginCall]
    exact .same
  | released a deploymentId completed _ hawait =>
    rw [tables_leave]
    exact .same
  | answered a deploymentId _ hactive hplain => exact .same

/-- The plugin has been active. -/
def Made (T : Tables) (a : Nat) : Prop := ∃ c ∈ T.committed, c.plugin = a

def MadeFor (T : Tables) (a : Nat) (deploymentId : Str) : Prop :=
  ∃ c ∈ T.committed, c.plugin = a ∧ c.deploymentId = deploymentId

theorem MadeFor.made {T : Tables} {a : Nat} {deploymentId : Str} (h : MadeFor T a deploymentId) :
    Made T a := by
  obtain ⟨c, hc, ha, -⟩ := h
  exact ⟨c, hc, ha⟩

structure Sound (T : Tables) : Prop where
  active : ∀ d a, T.active.get d = some a → MadeFor T a d
  stored : ∀ x a, (T.deactivations x).active = some a → MadeFor T a (T.deactivations x).deploymentId
  home : ∀ a d d', MadeFor T a d → MadeFor T a d' → d = d'
  made : ∀ a, Made T a → a < T.next ∧ T.process a < T.next
  unique : ∀ a b, Made T a → Made T b → T.process a = T.process b → a = b
  keyed : ∀ d p, T.pendingActivations.get d = some p →
    p < T.next ∧ (T.preparations p).deploymentId = d
  unused : ∀ d p, T.pendingActivations.get d = some p → ∀ a, Made T a → T.process a ≠ p
  apart : ∀ d, T.pendingActivations.get d = none ∨ T.pendingDeactivations.get d = none

theorem sound_new : Sound (tables Supervisor.new) where
  active := fun _ _ h => nomatch h
  stored := fun _ _ h => nomatch h
  home := fun _ _ _ ⟨_, h, _⟩ => nomatch h
  made := fun _ ⟨_, h, _⟩ => nomatch h
  unique := fun _ _ ⟨_, h, _⟩ => nomatch h
  keyed := fun _ _ h => nomatch h
  unused := fun _ _ h => nomatch h
  apart := fun _ => .inl rfl

/-- A commit makes one plugin, with the next number. -/
theorem made_commit {T : Tables} {preparation a : Nat} :
    Made (T.commitActivation preparation) a ↔ Made T a ∨ a = T.next := by
  simp only [Made, Tables.commitActivation, List.mem_append, List.mem_singleton]
  constructor
  · rintro ⟨c, hc | rfl, rfl⟩
    · exact .inl ⟨c, hc, rfl⟩
    · exact .inr rfl
  · rintro (⟨c, hc, rfl⟩ | rfl)
    · exact ⟨c, .inl hc, rfl⟩
    · exact ⟨_, .inr rfl, rfl⟩

theorem madeFor_commit {T : Tables} {preparation a : Nat} {d : Str} :
    MadeFor (T.commitActivation preparation) a d ↔
      MadeFor T a d ∨ (a = T.next ∧ d = (T.preparations preparation).deploymentId) := by
  simp only [MadeFor, Tables.commitActivation, List.mem_append, List.mem_singleton]
  constructor
  · rintro ⟨c, hc | rfl, rfl, rfl⟩
    · exact .inl ⟨c, hc, rfl, rfl⟩
    · exact .inr ⟨rfl, rfl⟩
  · rintro (⟨c, hc, rfl, rfl⟩ | ⟨rfl, rfl⟩)
    · exact ⟨c, .inl hc, rfl, rfl⟩
    · exact ⟨_, .inr rfl, rfl, rfl⟩

theorem Sound.prepareActivation {T : Tables} (h : Sound T) {deploymentId : Str} (epoch : Int)
    (hdeactivation : T.pendingDeactivations.get deploymentId = none) :
    Sound (T.prepareActivation deploymentId epoch) where
  active := h.active
  stored := h.stored
  home := h.home
  made := fun a ha => ⟨Nat.lt_succ_of_lt (h.made a ha).1, Nat.lt_succ_of_lt (h.made a ha).2⟩
  unique := h.unique
  keyed := by
    intro d p hp
    simp only [Tables.prepareActivation, Dict.get_set] at hp ⊢
    split at hp
    · rename_i hd
      cases hp
      simp [hd]
    · obtain ⟨hlt, hkey⟩ := h.keyed d p hp
      exact ⟨Nat.lt_succ_of_lt hlt, by rw [Function.update_of_ne (Nat.ne_of_lt hlt), hkey]⟩
  unused := by
    intro d p hp a ha
    simp only [Tables.prepareActivation, Dict.get_set] at hp
    split at hp
    · cases hp
      exact Nat.ne_of_lt (h.made a ha).2
    · exact h.unused d p hp a ha
  apart := by
    intro d
    by_cases hd : d = deploymentId
    · exact .inr (hd ▸ hdeactivation)
    · simp only [Tables.prepareActivation, Dict.get_set, if_neg hd]
      exact h.apart d

/-- Giving a preparation up keeps the tables sound. -/
theorem Sound.abortActivation {T : Tables} (h : Sound T) (preparation : Nat) :
    Sound (T.abortActivation preparation) where
  active := h.active
  stored := h.stored
  home := h.home
  made := h.made
  unique := h.unique
  keyed := fun d p hp => h.keyed d p (Dict.get_of_pop hp).2
  unused := fun d p hp => h.unused d p (Dict.get_of_pop hp).2
  apart := by
    intro d
    simp only [Tables.abortActivation, Dict.get_pop]
    split
    · exact .inl rfl
    · exact h.apart d

/-- A commit takes the process of the preparation, which no plugin had. -/
theorem Sound.commitActivation {T : Tables} (h : Sound T) {preparation : Nat}
    (hpending : T.pendingActivations.get (T.preparations preparation).deploymentId =
      some preparation) : Sound (T.commitActivation preparation) := by
  have hlt := (h.keyed _ _ hpending).1
  have hold : ∀ a, Made T a → Function.update T.process T.next preparation a = T.process a :=
    fun a ha => Function.update_of_ne (Nat.ne_of_lt (h.made a ha).1) _ _
  refine ⟨?_, ?_, ?_, ?_, ?_, ?_, ?_, ?_⟩
  · intro d a ha
    simp only [Tables.commitActivation, Dict.get_set] at ha
    rw [madeFor_commit]
    split at ha
    · rename_i hd
      cases ha
      exact .inr ⟨rfl, hd⟩
    · exact .inl (h.active d a ha)
  · intro x a ha
    exact madeFor_commit.2 (.inl (h.stored x a ha))
  · intro a d d' hd hd'
    rcases madeFor_commit.1 hd with hd | ⟨rfl, rfl⟩ <;>
      rcases madeFor_commit.1 hd' with hd' | ⟨hnew, rfl⟩
    · exact h.home a d d' hd hd'
    · exact absurd hnew (Nat.ne_of_lt (h.made a hd.made).1)
    · exact absurd (h.made _ hd'.made).1 (Nat.lt_irrefl _)
    · rfl
  · intro a ha
    change a < T.next + 1 ∧ Function.update T.process T.next preparation a < T.next + 1
    rcases made_commit.1 ha with ha | rfl
    · rw [hold a ha]
      exact ⟨Nat.lt_succ_of_lt (h.made a ha).1, Nat.lt_succ_of_lt (h.made a ha).2⟩
    · rw [Function.update_self]
      exact ⟨Nat.lt_succ_self _, Nat.lt_succ_of_lt hlt⟩
  · intro a b ha hb hsame
    change Function.update T.process T.next preparation a =
      Function.update T.process T.next preparation b at hsame
    rcases made_commit.1 ha with ha | rfl <;> rcases made_commit.1 hb with hb | rfl
    · rw [hold a ha, hold b hb] at hsame
      exact h.unique a b ha hb hsame
    · rw [hold a ha, Function.update_self] at hsame
      exact absurd hsame (h.unused _ _ hpending a ha)
    · rw [hold b hb, Function.update_self] at hsame
      exact absurd hsame.symm (h.unused _ _ hpending b hb)
    · rfl
  · intro d p hp
    obtain ⟨-, hp⟩ := Dict.get_of_pop hp
    exact ⟨Nat.lt_succ_of_lt (h.keyed d p hp).1, (h.keyed d p hp).2⟩
  · intro d p hp a ha
    obtain ⟨hne, hp⟩ := Dict.get_of_pop hp
    change Function.update T.process T.next preparation a ≠ p
    rcases made_commit.1 ha with ha | rfl
    · rw [hold a ha]
      exact h.unused d p hp a ha
    · rw [Function.update_self]
      rintro rfl
      exact hne (h.keyed d _ hp).2.symm
  · intro d
    simp only [Tables.commitActivation, Dict.get_pop]
    split
    · exact .inl rfl
    · exact h.apart d

theorem Sound.prepareDeactivation {T : Tables} (h : Sound T) {deploymentId : Str}
    (hactivation : T.pendingActivations.get deploymentId = none) :
    Sound (T.prepareDeactivation deploymentId) where
  active := h.active
  stored := by
    intro x a ha
    simp only [Tables.prepareDeactivation] at ha
    by_cases hx : x = T.next
    · subst hx
      rw [Function.update_self] at ha
      simp only [Tables.prepareDeactivation, Function.update_self]
      exact h.active deploymentId a ha
    · rw [Function.update_of_ne hx] at ha
      simp only [Tables.prepareDeactivation, Function.update_of_ne hx]
      exact h.stored x a ha
  home := h.home
  made := fun a ha => ⟨Nat.lt_succ_of_lt (h.made a ha).1, Nat.lt_succ_of_lt (h.made a ha).2⟩
  unique := h.unique
  keyed := fun d p hp => ⟨Nat.lt_succ_of_lt (h.keyed d p hp).1, (h.keyed d p hp).2⟩
  unused := h.unused
  apart := by
    intro d
    by_cases hd : d = deploymentId
    · exact .inl (hd ▸ hactivation)
    · simp only [Tables.prepareDeactivation, Dict.get_set, if_neg hd]
      exact h.apart d

/-- Ending a deactivation keeps the tables sound as long as it installs nothing. -/
theorem Sound.closeDeactivation {T : Tables} (h : Sound T) (deploymentId : Str) {active : Dict Str Nat}
    (hactive : ∀ k a, active.get k = some a → T.active.get k = some a) :
    Sound (T.closeDeactivation deploymentId active) where
  active := fun d a ha => h.active d a (hactive d a ha)
  stored := h.stored
  home := h.home
  made := h.made
  unique := h.unique
  keyed := h.keyed
  unused := h.unused
  apart := by
    intro d
    simp only [Tables.closeDeactivation, Dict.get_pop]
    split
    · exact .inr rfl
    · exact h.apart d

/-- Every transition keeps the tables sound. -/
theorem Sound.transition {T T' : Tables} (h : Sound T) (htransition : Transition T T') : Sound T' := by
  cases htransition with
  | same => exact h
  | prepared deploymentId epoch hactivation hdeactivation hepoch =>
    exact h.prepareActivation epoch hdeactivation
  | aborted preparation hpending => exact h.abortActivation preparation
  | committed preparation hpending => exact h.commitActivation hpending
  | preparedDown deploymentId hactivation hdeactivation => exact h.prepareDeactivation hactivation
  | closedDown deploymentId active hactive => exact h.closeDeactivation deploymentId hactive

/-- A plugin that was active has been so ever since, and has kept its process. -/
theorem Transition.made {T T' : Tables} (h : Transition T T') (hsound : Sound T) {a : Nat}
    (ha : Made T a) : Made T' a ∧ T'.process a = T.process a := by
  cases h with
  | same | prepared | aborted | preparedDown | closedDown => exact ⟨ha, rfl⟩
  | committed preparation hpending =>
    exact ⟨made_commit.2 (.inl ha), Function.update_of_ne (Nat.ne_of_lt (hsound.made a ha).1) _ _⟩

/-- A plugin that is no longer active is never active again. -/
theorem Transition.retired {T T' : Tables} (h : Transition T T') (hsound : Sound T) {a : Nat}
    (ha : Made T a) (hretired : ∀ d, T.active.get d ≠ some a) : ∀ d, T'.active.get d ≠ some a := by
  cases h with
  | same | prepared | aborted | preparedDown => exact hretired
  | closedDown deploymentId active hactive => exact fun d hd => hretired d (hactive d a hd)
  | committed preparation hpending =>
    intro d hd
    simp only [Tables.commitActivation, Dict.get_set] at hd
    split at hd
    · cases hd
      exact Nat.lt_irrefl _ (hsound.made _ ha).1
    · exact hretired d hd

/-- The tables along a turn. -/
theorem transition_of_turn {w w' : World} {a : Action} (h : Turn w a w') :
    Transition (tables w.supervisor) (tables w'.supervisor) := by
  cases h with
  | started => exact .same
  | resumed t reply s task hchange => exact transition_of_change hchange
  | threw => exact .same
  | exited p => exact .same

/-- Every step keeps the tables sound. -/
theorem sound_step {w w' : World} {a : Action} (h : Sound (tables w.supervisor))
    (hstep : step w a = some w') : Sound (tables w'.supervisor) :=
  h.transition (transition_of_turn (turn_of_step hstep))

end WechatBot.SupervisorTables
