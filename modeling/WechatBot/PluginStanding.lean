import WechatBot.PluginSteps

/-!
# How a plugin deployment stands in both stores

What both stores hold about one deployment, and how it stands with the transition that
is pending for it. A step of one call concerns one deployment; what it owes is stated
for that deployment only, and one lemma carries the others over.
-/
namespace WechatBot.PluginStanding

open PyData Records PluginScope PluginCatalog PluginSystem PluginSteps DirtyWrite
open Tables (Table)

structure View where
  row : Option PluginDeployment
  activeRows : List PluginRevisionActivation
  active : Option ActivePlugin
  pending : Option Pending

def view (c : Catalog) (s : Supervisor) (id : UUID) : View :=
  ⟨c.deployments.find id, activeRows c id, s.active id, s.pending id⟩

namespace View

/-- The rows say that the revision runs in the epoch. -/
def RunsAs (v : View) (revisionId : UUID) (epoch : Nat) : Prop :=
  ∃ deployment row, v.row = some deployment ∧ deployment.status = .RUNNING ∧
    deployment.activeRevisionId = some revisionId ∧ v.activeRows = [row] ∧
    row.activationEpoch = epoch

def NotRunning (v : View) : Prop := ∀ deployment, v.row = some deployment →
  deployment.status ≠ .RUNNING

/-- The rows and the process agree, except that the process may have stopped accepting. -/
def Settled (v : View) (accepting : Bool) : Prop :=
  (∃ revisionId epoch, v.RunsAs revisionId epoch ∧
    v.active = some ⟨revisionId, epoch, accepting⟩) ∨ v.NotRunning ∧ v.active = none

/-- Which statuses a deployment with an active revision can have. -/
structure Regular (v : View) : Prop where
  running : ∀ deployment, v.row = some deployment → deployment.status = .RUNNING →
    deployment.activeRevisionId ≠ none
  active : ∀ deployment, v.row = some deployment → deployment.activeRevisionId ≠ none →
    deployment.status = .RUNNING ∨ deployment.status = .FAILED

/-- The second view differs in nothing that the agreement reads. -/
structure Same (v v' : View) : Prop where
  runs : ∀ revisionId epoch, v.RunsAs revisionId epoch → v'.RunsAs revisionId epoch
  stopped : v.NotRunning → v'.NotRunning
  active : v'.active = v.active
  pending : v'.pending = v.pending

theorem Settled.same {v v' : View} {accepting : Bool} (h : v.Settled accepting) (hsame : Same v v') :
    v'.Settled accepting := by
  rcases h with ⟨revisionId, epoch, hruns, hactive⟩ | ⟨hstopped, hactive⟩
  · exact .inl ⟨revisionId, epoch, hsame.runs _ _ hruns, hsame.active.trans hactive⟩
  · exact .inr ⟨hsame.stopped hstopped, hsame.active.trans hactive⟩

end View

/-- How a deployment stands with its pending transition and the call that owns it. -/
inductive Standing (phase : Nat → Phase) (id : UUID) (v : View) : Prop where
  | settled (hpending : v.pending = none) (hsettled : v.Settled true)
  | activating (owner epoch : Nat) (deployment : PluginDeployment) (candidate : Candidate)
      (hpending : v.pending = some (.activation owner epoch candidate.1.id))
      (hid : deployment.id = id) (hphase : phase owner = .starting deployment candidate epoch ∨
        phase owner = .prepared deployment candidate epoch) (hsettled : v.Settled true)
  | activated (owner epoch : Nat) (revisionId : UUID)
      (hpending : v.pending = some (.activation owner epoch revisionId))
      (hphase : phase owner = .activated id) (hruns : v.RunsAs revisionId epoch)
  | draining (owner : Nat) (hpending : v.pending = some (.deactivation owner))
      (hphase : phase owner = .draining id) (hsettled : v.Settled false)
  | drained (owner : Nat) (hpending : v.pending = some (.deactivation owner))
      (hphase : phase owner = .drained id) (hstopped : v.NotRunning)

/-- What is said of a deployment depends on its view only. -/
theorem Standing.same {phase : Nat → Phase} {id : UUID} {v v' : View} (h : Standing phase id v)
    (hsame : v.Same v') : Standing phase id v' := by
  cases h with
  | settled hpending hsettled =>
    exact .settled (hsame.pending.trans hpending) (hsettled.same hsame)
  | activating owner epoch deployment candidate hpending hid hphase hsettled =>
    exact .activating owner epoch deployment candidate (hsame.pending.trans hpending) hid hphase
      (hsettled.same hsame)
  | activated owner epoch revisionId hpending hphase hruns =>
    exact .activated owner epoch revisionId (hsame.pending.trans hpending) hphase
      (hsame.runs _ _ hruns)
  | draining owner hpending hphase hsettled =>
    exact .draining owner (hsame.pending.trans hpending) hphase (hsettled.same hsame)
  | drained owner hpending hphase hstopped =>
    exact .drained owner (hsame.pending.trans hpending) hphase (hsame.stopped hstopped)

/-- The deployment whose pending transition the call has prepared. -/
def transition : Phase → Option UUID
  | .starting deployment _ _ => some deployment.id
  | .prepared deployment _ _ => some deployment.id
  | .activated deploymentId => some deploymentId
  | .draining deploymentId => some deploymentId
  | .drained deploymentId => some deploymentId
  | _ => none

def lockedDeployment : Phase → Option UUID
  | .starting deployment _ _ => some deployment.id
  | .failing deployment _ _ => some deployment.id
  | .prepared deployment _ _ => some deployment.id
  | .draining deploymentId => some deploymentId
  | _ => none

def loadedRow : Phase → Option PluginDeployment
  | .loaded deployment _ => some deployment
  | .starting deployment _ _ => some deployment
  | .failing deployment _ _ => some deployment
  | .prepared deployment _ _ => some deployment
  | _ => none

def ownerOf : Pending → Nat
  | .activation owner _ _ => owner
  | .deactivation owner => owner

def pendingOwner (s : Supervisor) (id : UUID) : Option Nat := (s.pending id).map ownerOf

/-- The active revision of the stored row, if there is a row. -/
def storedRevision (c : Catalog) (id : UUID) : Option (Option UUID) :=
  (c.deployments.find id).map (·.activeRevisionId)

/-- What a call in the phase holds: locks, the pending transition, and a loaded row that
is still stored, under its lock with the same active revision. -/
structure Owned (w : World) (call : Nat) (phase : Phase) : Prop where
  lock : ∀ id, lockedDeployment phase = some id → w.deploymentLock id = some call
  pending : ∀ id, transition phase = some id → pendingOwner w.supervisor id = some call
  present : ∀ deployment, loadedRow phase = some deployment →
    (storedRevision w.catalog deployment.id).isSome
  fresh : ∀ deployment, loadedRow phase = some deployment →
    lockedDeployment phase = some deployment.id →
      storedRevision w.catalog deployment.id = some deployment.activeRevisionId

theorem owned_idle (w : World) (call : Nat) : Owned w call .idle where
  lock := fun _ h => nomatch h
  pending := fun _ h => nomatch h
  present := fun _ h => nomatch h
  fresh := fun _ h => nomatch h

/-- The invariant of a serving process. -/
structure Serving (w : World) : Prop where
  standing : ∀ id, Standing w.phase id (view w.catalog w.supervisor id)
  regular : ∀ id, (view w.catalog w.supervisor id).Regular
  owned : ∀ call, Owned w call (w.phase call)

/-- The step of a call concerns the deployment `id` only. -/
structure Touch (w w' : World) (call : Nat) (id : UUID) (phase : Phase) : Prop where
  phase : w'.phase = Function.update w.phase call phase
  views : ∀ other, other ≠ id →
    view w'.catalog w'.supervisor other = view w.catalog w.supervisor other
  locks : ∀ other key, other ≠ call → w.deploymentLock key = some other →
    w'.deploymentLock key = some other
  owners : ∀ other, other ≠ call → pendingOwner w.supervisor id = some other →
    pendingOwner w'.supervisor id = some other
  rows : storedRevision w'.catalog id = storedRevision w.catalog id ∨
    w.deploymentLock id = some call ∧ (storedRevision w'.catalog id).isSome

theorem Touch.storedRevision_other {w w' : World} {call : Nat} {id other : UUID} {phase : Phase}
    (h : Touch w w' call id phase) (hne : other ≠ id) :
    storedRevision w'.catalog other = storedRevision w.catalog other :=
  congrArg (fun v : View => v.row.map PluginDeployment.activeRevisionId) (h.views other hne)

theorem Touch.pendingOwner_other {w w' : World} {call : Nat} {id other : UUID} {phase : Phase}
    (h : Touch w w' call id phase) (hne : other ≠ id) :
    pendingOwner w'.supervisor other = pendingOwner w.supervisor other :=
  congrArg (fun v : View => v.pending.map ownerOf) (h.views other hne)

/-- A call that works on another deployment leaves this one standing. -/
theorem Standing.frame {phase : Nat → Phase} {call : Nat} {id : UUID} {v : View}
    (h : Standing phase id v) (hapart : transition (phase call) ≠ some id) (next : Phase) :
    Standing (Function.update phase call next) id v := by
  have hkept : ∀ owner, transition (phase owner) = some id →
      Function.update phase call next owner = phase owner := by
    intro owner howner
    refine Function.update_of_ne ?_ next phase
    rintro rfl
    exact hapart howner
  cases h with
  | settled hpending hsettled => exact .settled hpending hsettled
  | activating owner epoch deployment candidate hpending hid hphase hsettled =>
    refine .activating owner epoch deployment candidate hpending hid ?_ hsettled
    rw [hkept owner (by rcases hphase with h | h <;> rw [h, ← hid] <;> rfl)]
    exact hphase
  | activated owner epoch revisionId hpending hphase hruns =>
    exact .activated owner epoch revisionId hpending
      ((hkept owner (by rw [hphase]; rfl)).trans hphase) hruns
  | draining owner hpending hphase hsettled =>
    exact .draining owner hpending ((hkept owner (by rw [hphase]; rfl)).trans hphase) hsettled
  | drained owner hpending hphase hstopped =>
    exact .drained owner hpending ((hkept owner (by rw [hphase]; rfl)).trans hphase) hstopped

/-- A call keeps what it owns through the step of another call. -/
theorem Owned.other {w w' : World} {call other : Nat} {id : UUID} {next phase : Phase}
    (h : Owned w other phase) (ht : Touch w w' call id next) (hne : other ≠ call) :
    Owned w' other phase where
  lock := fun key hkey => ht.locks other key hne (h.lock key hkey)
  pending := by
    intro key hkey
    by_cases hid : key = id
    · subst hid
      exact ht.owners other hne (h.pending key hkey)
    · rw [ht.pendingOwner_other hid]
      exact h.pending key hkey
  present := by
    intro deployment hrow
    by_cases hid : deployment.id = id
    · rcases ht.rows with hsame | ⟨-, hsome⟩
      · rw [hid, hsame, ← hid]
        exact h.present deployment hrow
      · rw [hid]
        exact hsome
    · rw [ht.storedRevision_other hid]
      exact h.present deployment hrow
  fresh := by
    intro deployment hrow hlock
    by_cases hid : deployment.id = id
    · rcases ht.rows with hsame | ⟨hmine, -⟩
      · rw [hid, hsame, ← hid]
        exact h.fresh deployment hrow hlock
      · -- the row is written under its lock, which the other call would hold
        have htheirs := h.lock _ hlock
        rw [hid, hmine] at htheirs
        exact absurd (Option.some.inj htheirs).symm hne
    · rw [ht.storedRevision_other hid]
      exact h.fresh deployment hrow hlock

/-- A step of a call keeps the invariant when it keeps it for its own deployment. -/
theorem Serving.touched {w w' : World} {call : Nat} {id : UUID} {next : Phase} (h : Serving w)
    (ht : Touch w w' call id next)
    (hmine : ∀ other, transition (w.phase call) = some other → other = id)
    (hstanding : Standing w'.phase id (view w'.catalog w'.supervisor id))
    (hregular : (view w'.catalog w'.supervisor id).Regular) (howned : Owned w' call next) :
    Serving w' where
  standing := by
    intro other
    by_cases hid : other = id
    · subst hid
      exact hstanding
    · rw [ht.views other hid, ht.phase]
      exact (h.standing other).frame (fun hother => hid (hmine other hother)) next
  regular := by
    intro other
    by_cases hid : other = id
    · subst hid
      exact hregular
    · rw [ht.views other hid]
      exact h.regular other
  owned := by
    intro other
    rw [ht.phase]
    by_cases hcall : other = call
    · subst hcall
      rw [Function.update_self]
      exact howned
    · rw [Function.update_of_ne hcall]
      exact (h.owned other).other ht hcall

/-- What a phase says about the deployment whose pending transition the call owns. -/
def Holds (call : Nat) (v : View) : Phase → Prop
  | .starting _ candidate epoch =>
    v.pending = some (.activation call epoch candidate.1.id) ∧ v.Settled true
  | .prepared _ candidate epoch =>
    v.pending = some (.activation call epoch candidate.1.id) ∧ v.Settled true
  | .activated _ => ∃ epoch revisionId,
    v.pending = some (.activation call epoch revisionId) ∧ v.RunsAs revisionId epoch
  | .draining _ => v.pending = some (.deactivation call) ∧ v.Settled false
  | .drained _ => v.pending = some (.deactivation call) ∧ v.NotRunning
  | _ => False

/-- The owner of a pending transition holds it in the phase it is in. -/
theorem Standing.holds {phase : Nat → Phase} {call : Nat} {id : UUID} {v : View}
    (h : Standing phase id v) (howner : v.pending.map ownerOf = some call) :
    Holds call v (phase call) := by
  cases h with
  | settled hpending _ =>
    rw [hpending] at howner
    cases howner
  | activating owner epoch deployment candidate hpending _ hphase hsettled =>
    rw [hpending] at howner
    obtain rfl : owner = call := Option.some.inj howner
    rcases hphase with hphase | hphase <;> rw [hphase] <;> exact ⟨hpending, hsettled⟩
  | activated owner epoch revisionId hpending hphase hruns =>
    rw [hpending] at howner
    obtain rfl : owner = call := Option.some.inj howner
    rw [hphase]
    exact ⟨epoch, revisionId, hpending, hruns⟩
  | draining owner hpending hphase hsettled =>
    rw [hpending] at howner
    obtain rfl : owner = call := Option.some.inj howner
    rw [hphase]
    exact ⟨hpending, hsettled⟩
  | drained owner hpending hphase hstopped =>
    rw [hpending] at howner
    obtain rfl : owner = call := Option.some.inj howner
    rw [hphase]
    exact ⟨hpending, hstopped⟩

theorem Serving.holds {w : World} (h : Serving w) {call : Nat} {id : UUID} {phase : Phase}
    (hphase : w.phase call = phase) (htransition : transition phase = some id) :
    Holds call (view w.catalog w.supervisor id) phase := by
  have howner := (h.owned call).pending id (hphase ▸ htransition)
  exact hphase ▸ (h.standing id).holds howner

/-- A deployment without a pending transition is settled. -/
theorem Serving.settled {w : World} (h : Serving w) {id : UUID}
    (hpending : w.supervisor.pending id = none) :
    (view w.catalog w.supervisor id).Settled true := by
  have hview : (view w.catalog w.supervisor id).pending = none := hpending
  cases h.standing id with
  | settled _ hsettled => exact hsettled
  | activating _ _ _ _ hsome => rw [hview] at hsome; cases hsome
  | activated _ _ _ hsome => rw [hview] at hsome; cases hsome
  | draining _ hsome => rw [hview] at hsome; cases hsome
  | drained _ hsome => rw [hview] at hsome; cases hsome

/-- An activation is prepared only where nothing is pending. -/
theorem prepareActivation_some {s s' : Supervisor} {id revisionId : UUID} {owner epoch : Nat}
    (h : prepareActivation s id owner epoch revisionId = some s') : s.pending id = none ∧
      s' = s.setPending id (some (.activation owner epoch revisionId)) := by
  unfold prepareActivation at h
  split at h
  · cases h
  · rename_i hpending
    split at h
    · cases h
    · cases h
      exact ⟨not_not.mp hpending, rfl⟩

/-- An owner's abort takes its own activation back. -/
theorem abortActivation_own {s : Supervisor} {id revisionId : UUID} {owner epoch : Nat}
    (h : s.pending id = some (.activation owner epoch revisionId)) :
    abortActivation s id owner = s.setPending id none := by
  simp [abortActivation, h]

/-- A commit installs the activation that its owner has pending. -/
theorem commitActivation_some {s s' : Supervisor} {id : UUID} {owner : Nat}
    (h : commitActivation s id owner = some s') : ∃ epoch revisionId,
      s.pending id = some (.activation owner epoch revisionId) ∧
      s'.active = Function.update s.active id (some ⟨revisionId, epoch, true⟩) ∧
      s'.pending = Function.update s.pending id none := by
  unfold commitActivation at h
  split at h
  · rename_i owner' epoch revisionId hpending
    split at h
    · rename_i heq
      cases h
      exact ⟨epoch, revisionId, heq ▸ hpending, rfl, rfl⟩
    · cases h
  · cases h

/-- A deactivation is prepared only where nothing is pending, and stops the intake. -/
theorem prepareDeactivation_some {s s' : Supervisor} {id : UUID} {owner : Nat}
    (h : prepareDeactivation s id owner = some s') : s.pending id = none ∧
      s' = (s.setAccepting id false).setPending id (some (.deactivation owner)) := by
  unfold prepareDeactivation at h
  split at h
  · cases h
  · rename_i hpending
    cases h
    exact ⟨not_not.mp hpending, rfl⟩

theorem commitDeactivation_some {s s' : Supervisor} {id : UUID} {owner : Nat}
    (h : commitDeactivation s id owner = some s') :
      s'.active = Function.update s.active id none ∧
      s'.pending = Function.update s.pending id none := by
  unfold commitDeactivation at h
  split at h
  · cases h
    exact ⟨rfl, rfl⟩
  · cases h

section Views

variable {c : Catalog} {s : Supervisor} {id other : UUID}

/-- The view through a supervisor that differs at `id` only. -/
theorem view_update {s' : Supervisor} {active : Option ActivePlugin} {pending : Option Pending}
    (hactive : s'.active = Function.update s.active id active)
    (hpending : s'.pending = Function.update s.pending id pending) (hne : other ≠ id) :
    view c s' other = view c s other := by
  simp [view, hactive, hpending, Function.update_of_ne hne]

theorem view_setPending (pending : Option Pending) (hne : other ≠ id) :
    view c (s.setPending id pending) other = view c s other := by
  simp [view, Supervisor.setPending, Function.update_of_ne hne]

theorem view_setPending_self (pending : Option Pending) :
    view c (s.setPending id pending) id = { view c s id with pending := pending } := by
  simp [view, Supervisor.setPending]

theorem view_setAccepting (accepting : Bool) (hne : other ≠ id) :
    view c (s.setAccepting id accepting) other = view c s other := by
  simp [view, Supervisor.setAccepting, Function.update_of_ne hne]

theorem view_setAccepting_self (accepting : Bool) :
    view c (s.setAccepting id accepting) id =
      { view c s id with
        active := (s.active id).map fun plugin => { plugin with accepting := accepting } } := by
  simp [view, Supervisor.setAccepting]

end Views

theorem View.Settled.setAccepting {v : View} {accepting : Bool} (h : v.Settled accepting)
    (next : Bool) : View.Settled { v with
      active := v.active.map fun plugin => { plugin with accepting := next } } next := by
  rcases h with ⟨revisionId, epoch, hruns, hactive⟩ | ⟨hstopped, hactive⟩
  · refine .inl ⟨revisionId, epoch, hruns, ?_⟩
    simp only [hactive, Option.map_some]
  · refine .inr ⟨hstopped, ?_⟩
    simp only [hactive, Option.map_none]

theorem View.Settled.setPending {v : View} {accepting : Bool} (h : v.Settled accepting)
    (pending : Option Pending) : View.Settled { v with pending := pending } accepting := h

theorem View.Regular.setPending {v : View} (h : v.Regular) (pending : Option Pending) :
    View.Regular { v with pending := pending } := ⟨h.running, h.active⟩

section Steps

variable {w w' : World} {call : Nat}

theorem release_keeps {other : Nat} {key : UUID} (hne : other ≠ call)
    (h : w.deploymentLock key = some other) : (w.release call).deploymentLock key = some other := by
  have hother : ¬ w.deploymentLock key = some call := by
    rw [h]
    exact fun heq => hne (Option.some.inj heq)
  exact (if_neg hother).trans h

/-- A lock that is taken leaves the locks of the others. -/
theorem locked_keeps {deployment : PluginDeployment} (hfree : World.unlocked w deployment)
    {other : Nat} {key : UUID} (h : w.deploymentLock key = some other) :
    (w.locked call deployment).deploymentLock key = some other := by
  have hne : key ≠ deployment.id := by
    rintro rfl
    rw [hfree.2] at h
    cases h
  exact (Function.update_of_ne hne _ _).trans h

/-- A step that changes neither the rows nor the runtime. -/
theorem touch_unchanged {next : Phase} (id : UUID)
    (hphase : w'.phase = Function.update w.phase call next) (hcatalog : w'.catalog = w.catalog)
    (hsupervisor : w'.supervisor = w.supervisor)
    (hlocks : ∀ other key, other ≠ call → w.deploymentLock key = some other →
      w'.deploymentLock key = some other) : Touch w w' call id next where
  phase := hphase
  views := fun other _ => by rw [hcatalog, hsupervisor]
  locks := hlocks
  owners := fun other _ h => by rw [hsupervisor]; exact h
  rows := .inl (by rw [hcatalog])

/-- A step that changes the runtime only, where nobody else owns the pending transition. -/
theorem touch_runtime {next : Phase} {id : UUID}
    (hphase : w'.phase = Function.update w.phase call next) (hcatalog : w'.catalog = w.catalog)
    (hviews : ∀ other, other ≠ id →
      view w.catalog w'.supervisor other = view w.catalog w.supervisor other)
    (hlocks : ∀ other key, other ≠ call → w.deploymentLock key = some other →
      w'.deploymentLock key = some other)
    (howner : ∀ other, pendingOwner w.supervisor id = some other → other = call) :
    Touch w w' call id next where
  phase := hphase
  views := fun other hne => by rw [hcatalog]; exact hviews other hne
  locks := hlocks
  owners := fun other hne h => absurd (howner other h) hne
  rows := .inl (by rw [hcatalog])

theorem Serving.unowned {id : UUID} (hpending : w.supervisor.pending id = none) (other : Nat)
    (h : pendingOwner w.supervisor id = some other) : other = call := by
  simp [pendingOwner, hpending] at h

/-- Nobody but the call in transition owns what is pending of its deployment. -/
theorem Serving.ownedBy (h : Serving w) (id : UUID) (htransition : transition (w.phase call) = some id)
    (other : Nat) (hother : pendingOwner w.supervisor id = some other) : other = call :=
  Option.some.inj (hother.symm.trans ((h.owned call).pending id htransition))

theorem transition_only {phase : Phase} {id : UUID} (hphase : w.phase call = phase)
    (htransition : transition phase = some id) (other : UUID)
    (h : transition (w.phase call) = some other) : other = id := by
  rw [hphase, htransition] at h
  exact (Option.some.inj h).symm

theorem no_transition {phase : Phase} (hphase : w.phase call = phase)
    (htransition : transition phase = none) {id : UUID} (other : UUID)
    (h : transition (w.phase call) = some other) : other = id := by
  rw [hphase, htransition] at h
  cases h

/-- A catalog that only grows keeps the runtime serving. -/
theorem serving_grown {catalog : Catalog} (h : Serving w) (hgrown : Grown w.catalog catalog) :
    Serving { w with catalog := catalog } := by
  have hrows : ∀ id, activeRows catalog id = activeRows w.catalog id := by
    intro id
    simp only [activeRows, hgrown.activations]
  have hsame : ∀ id, (view w.catalog w.supervisor id).Same (view catalog w.supervisor id) := by
    intro id
    refine ⟨?_, ?_, rfl, rfl⟩
    · rintro revisionId epoch ⟨deployment, row, hfind, hrest⟩
      refine ⟨deployment, row, hgrown.find hfind, ?_⟩
      simpa only [view, hrows] using hrest
    · intro hstopped deployment hfind
      rcases hgrown.find_new hfind with hold | ⟨-, hstatus, -⟩
      · exact hstopped deployment hold
      · rw [hstatus]
        decide
  have hkept : ∀ id revisionId, storedRevision w.catalog id = some revisionId →
      storedRevision catalog id = some revisionId := by
    intro id revisionId hstored
    obtain ⟨deployment, hfind, hactive⟩ := Option.map_eq_some_iff.mp hstored
    exact Option.map_eq_some_iff.mpr ⟨deployment, hgrown.find hfind, hactive⟩
  refine ⟨fun id => (h.standing id).same (hsame id), fun id => ⟨?_, ?_⟩, fun call => ?_⟩
  · intro deployment hfind hstatus
    rcases hgrown.find_new hfind with hold | ⟨-, hnew, -⟩
    · exact (h.regular id).running deployment hold hstatus
    · rw [hnew] at hstatus
      cases hstatus
  · intro deployment hfind hactive
    rcases hgrown.find_new hfind with hold | ⟨-, -, hnew⟩
    · exact (h.regular id).active deployment hold hactive
    · exact absurd hnew hactive
  · refine ⟨(h.owned call).lock, (h.owned call).pending, ?_, ?_⟩
    · intro deployment hrow
      obtain ⟨revisionId, hstored⟩ := Option.isSome_iff_exists.mp
        ((h.owned call).present deployment hrow)
      exact Option.isSome_iff_exists.mpr ⟨revisionId, hkept _ _ hstored⟩
    · exact fun deployment hrow hlock => hkept _ _ ((h.owned call).fresh deployment hrow hlock)

/-- Steps between phases that own nothing. -/
theorem serving_to {phase next : Phase} (h : Serving w) (hphase : w.phase call = phase)
    (hfrom : transition phase = none) (howned : Owned (w.to call next) call next) :
    Serving (w.to call next) := by
  -- no deployment is concerned, so any identifier will do
  have ht : Touch w (w.to call next) call 0 next := touch_unchanged 0 rfl rfl rfl fun _ _ _ h => h
  exact h.touched ht (no_transition hphase hfrom)
    ((h.standing 0).frame (by rw [hphase, hfrom]; exact nofun) next) (h.regular 0) howned

theorem serving_rejected {deployment : PluginDeployment} {candidate : Candidate} (h : Serving w)
    (hphase : w.phase call = .loaded deployment candidate) : Serving (w.to call .idle) :=
  serving_to h hphase rfl (owned_idle _ call)

theorem serving_loaded {deployment : PluginDeployment} {candidate : Candidate} (h : Serving w)
    (hphase : w.phase call = .idle)
    (hfind : w.catalog.deployments.find deployment.id = some deployment) :
    Serving (w.to call (.loaded deployment candidate)) := by
  refine serving_to h hphase rfl ⟨fun _ h => (nomatch h), fun _ h => (nomatch h), ?_, ?_⟩
  · rintro _ ⟨⟩
    exact Option.isSome_iff_exists.mpr ⟨_, Option.map_eq_some_iff.mpr ⟨deployment, hfind, rfl⟩⟩
  · intro _ _ hlock
    cases hlock

/-- The row of a sound activation, under its lock. -/
theorem locked_row {deployment : PluginDeployment} {candidate : Candidate} {launchable : Bool}
    (h : Serving w) (hphase : w.phase call = .loaded deployment candidate)
    (hsound : Sound w (.lock call launchable)) :
    storedRevision w.catalog deployment.id = some deployment.activeRevisionId := by
  simp only [Sound, hphase] at hsound
  have hsome := (h.owned call).present deployment (by rw [hphase]; rfl)
  obtain ⟨revisionId, hstored⟩ := Option.isSome_iff_exists.mp hsome
  obtain ⟨stored, hfind, rfl⟩ := Option.map_eq_some_iff.mp hstored
  exact hstored.trans (congrArg some (hsound stored hfind))

theorem serving_starting {deployment : PluginDeployment} {candidate : Candidate}
    {launchable : Bool} {supervisor : Supervisor} {epoch : Nat} (h : Serving w)
    (hphase : w.phase call = .loaded deployment candidate)
    (hsound : Sound w (.lock call launchable)) (hfree : World.unlocked w deployment)
    (hprepare : prepareActivation w.supervisor deployment.id call epoch candidate.1.id =
      some supervisor) :
    Serving { (w.locked call deployment).to call (.starting deployment candidate epoch) with
      supervisor := supervisor } := by
  obtain ⟨hpending, rfl⟩ := prepareActivation_some hprepare
  have hrow := locked_row h hphase hsound
  refine h.touched (touch_runtime rfl rfl (fun other hne => view_setPending _ hne)
    (fun other key _ => locked_keeps hfree) (Serving.unowned hpending))
    (no_transition hphase rfl) ?_ ?_ ?_
  · refine .activating call epoch deployment candidate (Function.update_self _ _ _) rfl
      (.inl (Function.update_self _ _ _)) ?_
    exact (h.settled hpending).setPending _
  · exact (h.regular deployment.id).setPending _
  · refine ⟨?_, ?_, ?_, ?_⟩
    · rintro _ ⟨⟩
      exact Function.update_self _ _ _
    · rintro _ ⟨⟩
      simp [pendingOwner, Supervisor.setPending, ownerOf]
    · rintro _ ⟨⟩
      exact Option.isSome_iff_exists.mpr ⟨_, hrow⟩
    · rintro _ ⟨⟩ -
      exact hrow

theorem serving_failing {deployment : PluginDeployment} {candidate : Candidate}
    {launchable : Bool} {epoch : Nat} (h : Serving w)
    (hphase : w.phase call = .loaded deployment candidate)
    (hsound : Sound w (.lock call launchable)) (hfree : World.unlocked w deployment) :
    Serving ((w.locked call deployment).to call (.failing deployment candidate epoch)) := by
  have hrow := locked_row h hphase hsound
  refine h.touched (touch_unchanged deployment.id rfl rfl rfl
    fun other key _ => locked_keeps hfree) (no_transition hphase rfl) ?_ (h.regular _) ?_
  · exact (h.standing deployment.id).frame (by rw [hphase]; exact nofun) _
  · refine ⟨?_, fun _ h => (nomatch h), ?_, ?_⟩
    · rintro _ ⟨⟩
      exact Function.update_self _ _ _
    · rintro _ ⟨⟩
      exact Option.isSome_iff_exists.mpr ⟨_, hrow⟩
    · rintro _ ⟨⟩ -
      exact hrow

theorem serving_started {deployment : PluginDeployment} {candidate : Candidate} {epoch : Nat}
    (h : Serving w) (hphase : w.phase call = .starting deployment candidate epoch) :
    Serving (w.to call (.prepared deployment candidate epoch)) := by
  obtain ⟨hpending, hsettled⟩ := h.holds hphase rfl
  have howned := h.owned call
  rw [hphase] at howned
  refine h.touched (touch_unchanged deployment.id rfl rfl rfl fun _ _ _ h => h)
    (transition_only hphase rfl) ?_ (h.regular _) ⟨howned.lock, howned.pending, howned.present,
      howned.fresh⟩
  exact .activating call epoch deployment candidate hpending rfl
    (.inr (Function.update_self _ _ _)) hsettled

/-- The pending activation of a call is given up. -/
theorem touch_aborted {deployment : PluginDeployment} {candidate : Candidate} {epoch : Nat}
    {next : Phase} (h : Serving w)
    (hphase : w.phase call = .starting deployment candidate epoch ∨
      w.phase call = .prepared deployment candidate epoch)
    (hnext : w'.phase = Function.update w.phase call next) (hcatalog : w'.catalog = w.catalog)
    (hsupervisor : w'.supervisor = abortActivation w.supervisor deployment.id call)
    (hlocks : ∀ other key, other ≠ call → w.deploymentLock key = some other →
      w'.deploymentLock key = some other)
    (howned : Owned w' call next) : Serving w' := by
  have htransition : transition (w.phase call) = some deployment.id := by
    rcases hphase with hphase | hphase <;> rw [hphase] <;> rfl
  have hholds : (view w.catalog w.supervisor deployment.id).pending =
      some (.activation call epoch candidate.1.id) ∧
      (view w.catalog w.supervisor deployment.id).Settled true := by
    rcases hphase with hphase | hphase <;> exact h.holds hphase rfl
  rw [abortActivation_own hholds.1] at hsupervisor
  refine h.touched (touch_runtime hnext hcatalog ?_ hlocks (h.ownedBy _ htransition))
    (transition_only rfl htransition) ?_ ?_ howned
  · intro other hne
    rw [hsupervisor]
    exact view_setPending _ hne
  · rw [hcatalog, hsupervisor, view_setPending_self]
    exact .settled rfl (hholds.2.setPending _)
  · rw [hcatalog, hsupervisor, view_setPending_self]
    exact (h.regular _).setPending _

theorem serving_startFailed {deployment : PluginDeployment} {candidate : Candidate} {epoch : Nat}
    (h : Serving w) (hphase : w.phase call = .starting deployment candidate epoch) :
    Serving { w.to call (.failing deployment candidate epoch) with
      supervisor := abortActivation w.supervisor deployment.id call } := by
  have howned := h.owned call
  rw [hphase] at howned
  exact touch_aborted h (.inl hphase) rfl rfl rfl (fun _ _ _ h => h)
    ⟨howned.lock, fun _ h => (nomatch h), howned.present, howned.fresh⟩

theorem serving_aborted {deployment : PluginDeployment} {candidate : Candidate} {epoch : Nat}
    (h : Serving w) (hphase : w.phase call = .prepared deployment candidate epoch) :
    Serving { (w.release call).to call .idle with
      supervisor := abortActivation w.supervisor deployment.id call } :=
  touch_aborted h (.inr hphase) rfl rfl rfl (fun _ _ => release_keeps) (owned_idle _ call)

/-- A deactivation begins with its lock, its transition and a stopped intake. -/
theorem serving_draining {stored : PluginDeployment} {supervisor : Supervisor} (h : Serving w)
    (hphase : w.phase call = .idle) (hfree : w.deploymentLock stored.id = none)
    (hprepare : prepareDeactivation w.supervisor stored.id call = some supervisor) :
    Serving { w.to call (.draining stored.id) with
      supervisor := supervisor
      deploymentLock := Function.update w.deploymentLock stored.id (some call) } := by
  obtain ⟨hpending, rfl⟩ := prepareDeactivation_some hprepare
  have hlocks : ∀ other key, other ≠ call → w.deploymentLock key = some other →
      Function.update w.deploymentLock stored.id (some call) key = some other := by
    intro other key _ hother
    refine (Function.update_of_ne ?_ _ _).trans hother
    rintro rfl
    rw [hfree] at hother
    cases hother
  refine h.touched (touch_runtime rfl rfl ?_ hlocks (Serving.unowned hpending))
    (no_transition hphase rfl) ?_ ?_ ?_
  · exact fun other hne => (view_setPending _ hne).trans (view_setAccepting _ hne)
  · refine .draining call (Function.update_self _ _ _) (Function.update_self _ _ _) ?_
    rw [view_setPending_self, view_setAccepting_self]
    exact ((h.settled hpending).setAccepting false).setPending _
  · rw [view_setPending_self, view_setAccepting_self]
    exact ⟨(h.regular stored.id).running, (h.regular stored.id).active⟩
  · refine ⟨?_, ?_, fun _ h => (nomatch h), fun _ h => (nomatch h)⟩
    · rintro _ ⟨⟩
      exact Function.update_self _ _ _
    · rintro _ ⟨⟩
      simp [pendingOwner, Supervisor.setPending, ownerOf]

/-- An abort takes the intake up again. -/
theorem serving_resumed {deploymentId : UUID} (h : Serving w)
    (hphase : w.phase call = .draining deploymentId) :
    Serving { (w.release call).to call .idle with
      supervisor := abortDeactivation w.supervisor deploymentId call } := by
  obtain ⟨hpending, hsettled⟩ := h.holds hphase rfl
  have hpending : w.supervisor.pending deploymentId = some (.deactivation call) := hpending
  have habort : abortDeactivation w.supervisor deploymentId call =
      (w.supervisor.setAccepting deploymentId true).setPending deploymentId none := if_pos hpending
  refine h.touched (touch_runtime rfl rfl ?_ (fun _ _ => release_keeps)
    (h.ownedBy deploymentId (by rw [hphase]; rfl)))
    (transition_only hphase rfl) ?_ ?_ (owned_idle _ call)
  · intro other hne
    simp only [habort]
    exact (view_setPending _ hne).trans (view_setAccepting _ hne)
  · simp only [habort]
    refine .settled (Function.update_self _ _ _) ?_
    change (view w.catalog _ deploymentId).Settled true
    rw [view_setPending_self, view_setAccepting_self]
    exact (hsettled.setAccepting true).setPending _
  · simp only [habort]
    change (view w.catalog _ deploymentId).Regular
    rw [view_setPending_self, view_setAccepting_self]
    exact ⟨(h.regular deploymentId).running, (h.regular deploymentId).active⟩

/-- A call that gives its failure up leaves nothing pending. -/
theorem serving_abandoned {deployment : PluginDeployment} {candidate : Candidate} {epoch : Nat}
    (h : Serving w) (hphase : w.phase call = .failing deployment candidate epoch) :
    Serving ((w.release call).to call .idle) := by
  refine h.touched (touch_unchanged deployment.id rfl rfl rfl fun _ _ => release_keeps)
    (no_transition hphase rfl) ?_ (h.regular _) (owned_idle _ call)
  exact (h.standing deployment.id).frame (by rw [hphase]; exact nofun) _

/-- A commit of the rows of one deployment, under its lock. -/
theorem touch_commit (next : Phase) {catalog : Catalog} {row stored : PluginDeployment}
    (hlock : w.deploymentLock stored.id = some call)
    (hrows : ∀ id, catalog.deployments.find id =
      if id = stored.id then some row else w.catalog.deployments.find id)
    (hactive : ∀ id, id ≠ stored.id → activeRows catalog id = activeRows w.catalog id) :
    Touch w { (w.release call).to call next with catalog := catalog } call stored.id next where
  phase := rfl
  views := by
    intro other hne
    change view catalog w.supervisor other = _
    simp only [view, hrows, if_neg hne, hactive other hne]
  locks := fun _ _ => release_keeps
  owners := fun _ _ h => h
  rows := by
    refine .inr ⟨hlock, ?_⟩
    change (storedRevision catalog stored.id).isSome
    simp [storedRevision, hrows]

/-- The commit of an activation leaves the runtime one step behind. -/
theorem serving_activated {rowId : UUID} {deployment stored : PluginDeployment}
    {candidate : Candidate} {epoch : Nat} (h : Serving w)
    (hphase : w.phase call = .prepared deployment candidate epoch)
    (hfind : w.catalog.deployments.find stored.id = some stored) (hid : deployment.id = stored.id) :
    Serving { (w.release call).to call (.activated stored.id) with
      catalog := writeActivated w.catalog rowId deployment stored candidate.1.id epoch } := by
  obtain ⟨hpending, -⟩ := h.holds hphase rfl
  rw [hid] at hpending
  have howned := h.owned call
  rw [hphase] at howned
  have hlock : w.deploymentLock stored.id = some call := hid ▸ howned.lock _ rfl
  have hfresh : stored.activeRevisionId = deployment.activeRevisionId := by
    have hrow := howned.fresh deployment rfl rfl
    rw [hid, storedRevision, hfind] at hrow
    exact Option.some.inj hrow
  have hrevision : (activatedRow deployment stored candidate.1.id).activeRevisionId =
      some candidate.1.id := column_of_fresh hfresh _
  have hrows := find_writeActivated deployment hfind rowId candidate.1.id epoch
  have hactive := activeRows_writeActivated w.catalog rowId deployment stored candidate.1.id epoch
  have ht := touch_commit (.activated stored.id) hlock hrows
    (fun id hne => by rw [hactive, if_neg hne])
  refine h.touched ht (transition_only hphase (by rw [← hid]; rfl)) ?_ ⟨?_, ?_⟩ ⟨fun _ h => (nomatch h), ?_,
    fun _ h => (nomatch h), fun _ h => (nomatch h)⟩
  · refine .activated call epoch candidate.1.id hpending (Function.update_self _ _ _) ?_
    refine ⟨activatedRow deployment stored candidate.1.id,
      activationRow rowId stored.id candidate.1.id epoch .ACTIVE, ?_, by simp, hrevision, ?_, rfl⟩
    · exact (hrows stored.id).trans (if_pos rfl)
    · exact (hactive stored.id).trans (if_pos rfl)
  · intro row hrow _
    obtain rfl := Option.some.inj (hrow.symm.trans ((hrows stored.id).trans (if_pos rfl)))
    rw [hrevision]
    exact nofun
  · intro row hrow _
    obtain rfl := Option.some.inj (hrow.symm.trans ((hrows stored.id).trans (if_pos rfl)))
    exact .inl (by simp)
  · rintro _ ⟨⟩
    exact (congrArg (Option.map ownerOf) hpending).trans rfl

/-- The commit of a deactivation leaves the runtime one step behind. -/
theorem serving_drained {stored : PluginDeployment} (h : Serving w)
    (hphase : w.phase call = .draining stored.id)
    (hfind : w.catalog.deployments.find stored.id = some stored) :
    Serving { (w.release call).to call (.drained stored.id) with
      catalog := writeDeactivated w.catalog stored } := by
  obtain ⟨hpending, -⟩ := h.holds hphase rfl
  have howned := h.owned call
  rw [hphase] at howned
  have hrows := find_writeDeactivated hfind
  have ht := touch_commit (.drained stored.id) (howned.lock _ rfl) hrows
    (fun id hne => by rw [activeRows_writeDeactivated, if_neg hne])
  refine h.touched ht (transition_only hphase rfl) ?_ ⟨?_, ?_⟩ ⟨fun _ h => (nomatch h), ?_,
    fun _ h => (nomatch h), fun _ h => (nomatch h)⟩
  · refine .drained call hpending (Function.update_self _ _ _) ?_
    intro row hrow
    obtain rfl := Option.some.inj (hrow.symm.trans ((hrows stored.id).trans (if_pos rfl)))
    exact nofun
  · intro row hrow hstatus
    obtain rfl := Option.some.inj (hrow.symm.trans ((hrows stored.id).trans (if_pos rfl)))
    cases hstatus
  · intro row hrow hactive
    obtain rfl := Option.some.inj (hrow.symm.trans ((hrows stored.id).trans (if_pos rfl)))
    exact absurd rfl hactive
  · rintro _ ⟨⟩
    exact (congrArg (Option.map ownerOf) hpending).trans rfl

/-- A failed candidate leaves a deployment running exactly when it was. -/
theorem status_failedRow {deployment stored : PluginDeployment} {v : View} (h : v.Regular)
    (hrow : v.row = some stored) (hfresh : stored.activeRevisionId = deployment.activeRevisionId)
    (hsound : stored.status = .FAILED → stored.activeRevisionId = none) :
    (failedRow deployment stored).status = .RUNNING ↔ stored.status = .RUNNING := by
  rw [failedRow_status, failedStatus, ← hfresh]
  constructor
  · intro hstatus
    split at hstatus
    · cases hstatus
    · rename_i hactive
      rcases h.active stored hrow hactive with hrunning | hfailed
      · exact hrunning
      · exact absurd (hsound hfailed) hactive
  · intro hstatus
    exact if_neg (h.running stored hrow hstatus)

/-- The commit of a failure leaves the deployment as it serves. -/
theorem serving_failed {rowId : UUID} {deployment stored : PluginDeployment}
    {candidate : Candidate} {epoch : Nat} (h : Serving w)
    (hphase : w.phase call = .failing deployment candidate epoch)
    (hsound : Sound w (.commit call rowId))
    (hfind : w.catalog.deployments.find stored.id = some stored) (hid : deployment.id = stored.id) :
    Serving { (w.release call).to call .idle with
      catalog := writeFailed w.catalog rowId deployment stored candidate.1.id epoch } := by
  simp only [Sound, hphase] at hsound
  have howned := h.owned call
  rw [hphase] at howned
  have hlock : w.deploymentLock stored.id = some call := hid ▸ howned.lock _ rfl
  have hfresh : stored.activeRevisionId = deployment.activeRevisionId := by
    have hrow := howned.fresh deployment rfl rfl
    rw [hid, storedRevision, hfind] at hrow
    exact Option.some.inj hrow
  have hstatus := status_failedRow (h.regular stored.id) hfind hfresh
    (hsound stored (hid ▸ hfind))
  have hrows := find_writeFailed deployment hfind rowId candidate.1.id epoch
  have hactive := activeRows_writeFailed w.catalog rowId deployment stored candidate.1.id epoch
  have ht := touch_commit .idle hlock hrows (fun id _ => hactive id)
  have hself := (hrows stored.id).trans (if_pos rfl)
  have hsame : (view w.catalog w.supervisor stored.id).Same
      (view (writeFailed w.catalog rowId deployment stored candidate.1.id epoch) w.supervisor
        stored.id) := by
    refine ⟨?_, ?_, rfl, rfl⟩
    · rintro revisionId epoch' ⟨found, row, hfound, hrunning, hrevision, hactiveRows, hepoch⟩
      obtain rfl := Option.some.inj (hfound.symm.trans hfind)
      exact ⟨_, row, hself, hstatus.mpr hrunning, by simpa using hrevision,
        (hactive _).trans hactiveRows, hepoch⟩
    · intro hstopped row hrow hrunning
      obtain rfl := Option.some.inj (hrow.symm.trans hself)
      exact hstopped stored hfind (hstatus.mp hrunning)
  refine h.touched ht (no_transition hphase rfl) ?_ ⟨?_, ?_⟩ (owned_idle _ call)
  · exact ((h.standing stored.id).frame (by rw [hphase]; exact fun h => by cases h) _).same hsame
  · intro row hrow hrunning
    obtain rfl := Option.some.inj (hrow.symm.trans hself)
    simpa using (h.regular stored.id).running stored hfind (hstatus.mp hrunning)
  · intro row hrow hne
    obtain rfl := Option.some.inj (hrow.symm.trans hself)
    rw [failedRow_activeRevisionId, hfresh] at hne
    exact .inl ((failedRow_status deployment stored).trans (if_neg hne))

/-- The runtime catches up with a committed activation. -/
theorem serving_running {deploymentId : UUID} {supervisor : Supervisor} (h : Serving w)
    (hphase : w.phase call = .activated deploymentId)
    (hcommit : commitActivation w.supervisor deploymentId call = some supervisor) :
    Serving { w.to call .idle with supervisor := supervisor } := by
  obtain ⟨epoch, revisionId, hpending, hruns⟩ := h.holds hphase rfl
  obtain ⟨epoch', revisionId', hpending', hactive, hnone⟩ := commitActivation_some hcommit
  cases hpending.symm.trans hpending'
  refine h.touched (touch_runtime rfl rfl (fun other hne => view_update hactive hnone hne)
    (fun _ _ _ h => h) (h.ownedBy deploymentId (by rw [hphase]; rfl)))
    (transition_only hphase rfl) ?_
    ⟨(h.regular deploymentId).running, (h.regular deploymentId).active⟩ (owned_idle _ call)
  refine .settled (by simp [view, hnone]) (.inl ⟨revisionId, epoch, hruns, ?_⟩)
  simp [view, hactive]

/-- The runtime catches up with a committed deactivation. -/
theorem serving_stopped {deploymentId : UUID} {supervisor : Supervisor} (h : Serving w)
    (hphase : w.phase call = .drained deploymentId)
    (hcommit : commitDeactivation w.supervisor deploymentId call = some supervisor) :
    Serving { w.to call .idle with supervisor := supervisor } := by
  obtain ⟨-, hstopped⟩ := h.holds hphase rfl
  obtain ⟨hactive, hnone⟩ := commitDeactivation_some hcommit
  refine h.touched (touch_runtime rfl rfl (fun other hne => view_update hactive hnone hne)
    (fun _ _ _ h => h) (h.ownedBy deploymentId (by rw [hphase]; rfl)))
    (transition_only hphase rfl) ?_
    ⟨(h.regular deploymentId).running, (h.regular deploymentId).active⟩ (owned_idle _ call)
  exact .settled (by simp [view, hnone]) (.inr ⟨hstopped, by simp [view, hactive]⟩)

/-- Every sound step keeps the runtime serving what the database says. -/
theorem serving_effect {casefold : Str → Str} {a : Action} (h : Serving w) (hsound : Sound w a)
    (heffect : Effect casefold w a w') : Serving w' := by
  cases heffect with
  | refused => exact h
  | grown a catalog hgrown => exact serving_grown h hgrown
  | loaded a call deployment candidate revisionId hphase hfind _ =>
    exact serving_loaded h hphase hfind
  | rejected a call deployment candidate hphase => exact serving_rejected h hphase
  | starting call launchable deployment candidate supervisor hphase hfree _ hprepare =>
    exact serving_starting h hphase hsound hfree hprepare
  | failing call launchable deployment candidate hphase hfree _ =>
    exact serving_failing h hphase hsound hfree
  | started a call deployment candidate epoch hphase => exact serving_started h hphase
  | startFailed a call deployment candidate epoch hphase => exact serving_startFailed h hphase
  | draining a call stored supervisor hphase _ hfree hprepare =>
    exact serving_draining h hphase hfree hprepare
  | failed call rowId deployment stored candidate epoch hphase hfind hid =>
    exact serving_failed h hphase hsound hfind hid
  | activated call rowId deployment stored candidate epoch hphase hfind hid =>
    exact serving_activated h hphase hfind hid
  | drained call rowId stored hphase hfind => exact serving_drained h hphase hfind
  | abandoned a call deployment candidate epoch hphase => exact serving_abandoned h hphase
  | aborted a call deployment candidate epoch hphase => exact serving_aborted h hphase
  | resumed a call deploymentId hphase => exact serving_resumed h hphase
  | running a call deploymentId supervisor hphase hcommit => exact serving_running h hphase hcommit
  | stopped a call deploymentId supervisor hphase hcommit => exact serving_stopped h hphase hcommit

end Steps

end WechatBot.PluginStanding
