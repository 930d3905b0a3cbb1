import WechatBot.CommandRoutes
import WechatBot.PluginAgreement

/-!
# Activations keep command words apart

An activation holds the lock of its workspace from the check for running deployments to
its commit, so the check still holds when the candidate becomes the active revision. A
failed candidate makes its deployment RUNNING again without a check.
-/
namespace WechatBot.CommandRouting

open PyData Records PluginScope PluginCatalog PluginSystem PluginSteps CommandRoutes DirtyWrite
open Tables (Table)

def loadedDeployment : Phase → Option PluginDeployment
  | .loaded deployment _ => some deployment
  | .starting deployment _ _ => some deployment
  | .failing deployment _ _ => some deployment
  | .prepared deployment _ _ => some deployment
  | _ => none

def loadedCandidate : Phase → Option Candidate
  | .loaded _ candidate => some candidate
  | .starting _ candidate _ => some candidate
  | .prepared _ candidate _ => some candidate
  | _ => none

def lockedWorkspace : Phase → Option UUID
  | .starting deployment _ _ => some deployment.workspaceId
  | .failing deployment _ _ => some deployment.workspaceId
  | .prepared deployment _ _ => some deployment.workspaceId
  | _ => none

/-- The candidate that has passed the check for running deployments. -/
def checkedCandidate : Phase → Option (PluginDeployment × Candidate)
  | .starting deployment candidate _ => some (deployment, candidate)
  | .prepared deployment candidate _ => some (deployment, candidate)
  | _ => none

/-- A commit makes the deployment RUNNING with the active revision that is stored, and not
with a candidate that the call has checked. -/
def revives : Phase → PluginDeployment → Bool
  | .failing deployment _ _, _ => decide (deployment.activeRevisionId ≠ none)
  | .prepared deployment candidate _, stored =>
    decide (deployment.activeRevisionId = some candidate.1.id ∧
      stored.activeRevisionId ≠ some candidate.1.id)
  | _, _ => false

section Guards

variable (casefold : Str → Str)

/-- No commit revives a deployment whose active revision conflicts with a running one. -/
def Rechecked (w : World) : Action → Prop
  | .commit call _ => ∀ deployment, loadedDeployment (w.phase call) = some deployment →
      ∀ stored, w.catalog.deployments.find deployment.id = some stored →
        revives (w.phase call) stored = true → stored.status ≠ .RUNNING →
          (activeRevision w.catalog stored).any (conflictsWithRunning casefold w.catalog stored) =
            false
  | _ => True

/-- What a call keeps from its load and from its check to its commit. -/
structure Guarded (w : World) (call : Nat) (phase : Phase) : Prop where
  lock : ∀ id, lockedWorkspace phase = some id → w.workspaceLock id = some call
  place : ∀ deployment, loadedDeployment phase = some deployment →
    ∃ stored, w.catalog.deployments.find deployment.id = some stored ∧
      stored.workspaceId = deployment.workspaceId
  candidate : ∀ candidate, loadedCandidate phase = some candidate → Known w.catalog candidate
  clear : ∀ deployment candidate, checkedCandidate phase = some (deployment, candidate) →
    conflictsWithRunning casefold w.catalog deployment candidate = false

/-- The invariant of the system. -/
structure Routed (w : World) : Prop where
  apart : Apart casefold w.catalog
  linked : Linked w.catalog
  guarded : ∀ call, Guarded casefold w call (w.phase call)
  rest : w.mode ≠ .serving → ∀ call, w.phase call = .idle

end Guards

section Steps

variable {casefold : Str → Str} {w w' : World} {call : Nat}

theorem guarded_free {phase : Phase} (hrow : loadedDeployment phase = none) :
    Guarded casefold w call phase := by
  have hlock : lockedWorkspace phase = none := by cases phase <;> first | rfl | cases hrow
  have hcandidate : loadedCandidate phase = none := by cases phase <;> first | rfl | cases hrow
  have hchecked : checkedCandidate phase = none := by cases phase <;> first | rfl | cases hrow
  constructor
  · simp [hlock]
  · simp [hrow]
  · simp [hcandidate]
  · simp [hchecked]

theorem release_workspace {other : Nat} {id : UUID} (hne : other ≠ call)
    (h : w.workspaceLock id = some other) : (w.release call).workspaceLock id = some other := by
  have hother : ¬ w.workspaceLock id = some call := by
    rw [h]
    exact fun heq => hne (Option.some.inj heq)
  exact (if_neg hother).trans h

theorem locked_workspace {deployment : PluginDeployment} (hfree : World.unlocked w deployment)
    {other : Nat} {id : UUID} (h : w.workspaceLock id = some other) :
    (w.locked call deployment).workspaceLock id = some other := by
  have hne : id ≠ deployment.workspaceId := by
    rintro rfl
    rw [hfree.1] at h
    cases h
  exact (Function.update_of_ne hne _ _).trans h

theorem guarded_updated {next : Phase} (hphase : w'.phase = Function.update w.phase call next)
    (hmine : Guarded casefold w' call next)
    (hothers : ∀ other, other ≠ call → Guarded casefold w' other (w.phase other)) (other : Nat) :
    Guarded casefold w' other (w'.phase other) := by
  rw [hphase]
  by_cases hne : other = call
  · subst hne
    rw [Function.update_self]
    exact hmine
  · rw [Function.update_of_ne hne]
    exact hothers other hne

/-- A step of a call that writes no row. -/
theorem routed_unwritten {next : Phase} (h : Routed casefold w) (hmode : w.mode = .serving)
    (hmode' : w'.mode = w.mode) (hcatalog : w'.catalog = w.catalog)
    (hphase : w'.phase = Function.update w.phase call next)
    (hlocks : ∀ other id, other ≠ call → w.workspaceLock id = some other →
      w'.workspaceLock id = some other)
    (hmine : Guarded casefold w' call next) : Routed casefold w' where
  apart := hcatalog ▸ h.apart
  linked := hcatalog ▸ h.linked
  guarded := by
    refine guarded_updated hphase hmine fun other hne => ?_
    have hold := h.guarded other
    exact ⟨fun id hid => hlocks other id hne (hold.lock id hid), hcatalog ▸ hold.place,
      hcatalog ▸ hold.candidate, hcatalog ▸ hold.clear⟩
  rest := fun hne => absurd (hmode'.trans hmode) hne

/-- A commit of a call that writes one row. -/
theorem routed_written {next : Phase} {stored row : PluginDeployment} (h : Routed casefold w)
    (hmode : w.mode = .serving) (hmode' : w'.mode = w.mode)
    (hsaved : Saved w.catalog w'.catalog stored row)
    (hphase : w'.phase = Function.update w.phase call next)
    (hlocks : w'.workspaceLock = (w.release call).workspaceLock)
    (hlock : row.status = .RUNNING → w.workspaceLock stored.workspaceId = some call)
    (hclear : row.status = .RUNNING → ∀ active, activeRevision w.catalog row = some active →
      conflictsWithRunning casefold w.catalog stored active = false)
    (hlinked : row.activeRevisionId ≠ none → (activeRevision w.catalog row).isSome)
    (hnext : loadedDeployment next = none) : Routed casefold w' where
  apart := apart_saved h.apart hsaved hclear
  linked := linked_saved h.linked hsaved hlinked
  guarded := by
    refine guarded_updated hphase (guarded_free hnext) fun other hne => ?_
    have hold := h.guarded other
    constructor
    · intro id hid
      rw [hlocks]
      exact release_workspace hne (hold.lock id hid)
    · intro deployment hrow
      obtain ⟨found, hfind, hworkspace⟩ := hold.place deployment hrow
      rw [hsaved.rows]
      by_cases hid : deployment.id = stored.id
      · rw [if_pos hid]
        rw [hid, hsaved.before] at hfind
        cases hfind
        exact ⟨row, rfl, hsaved.workspace.trans hworkspace⟩
      · rw [if_neg hid]
        exact ⟨found, hfind, hworkspace⟩
    · intro candidate hcandidate
      obtain ⟨hfind, hpackage⟩ := hold.candidate candidate hcandidate
      exact ⟨hsaved.revisions ▸ hfind, hsaved.packages ▸ hpackage⟩
    · intro deployment candidate hchecked
      refine clear_saved (hold.clear deployment candidate hchecked) hsaved fun hrunning heq => ?_
      -- both calls would hold the lock of the workspace
      have htheirs : w.workspaceLock deployment.workspaceId = some other := by
        cases hother : w.phase other <;> rw [hother] at hchecked <;> cases hchecked <;>
          exact hold.lock _ (by rw [hother]; rfl)
      rw [← heq, hlock hrunning] at htheirs
      exact hne (Option.some.inj htheirs).symm
  rest := fun hne => absurd (hmode'.trans hmode) hne

theorem routed_grown {catalog : Catalog} (h : Routed casefold w)
    (hgrown : Grown w.catalog catalog) : Routed casefold { w with catalog := catalog } where
  apart := apart_grown h.apart h.linked hgrown
  linked := linked_grown h.linked hgrown
  guarded := by
    intro call
    have hold := h.guarded call
    refine ⟨hold.lock, ?_, fun candidate hcandidate => (hold.candidate candidate hcandidate).grown hgrown,
      fun deployment candidate hchecked =>
        clear_grown h.linked (hold.clear deployment candidate hchecked) hgrown⟩
    intro deployment hrow
    obtain ⟨stored, hfind, hworkspace⟩ := hold.place deployment hrow
    exact ⟨stored, hgrown.find hfind, hworkspace⟩
  rest := h.rest

/-- The stored row that a commit writes is the one the call has loaded. -/
theorem stored_place (h : Routed casefold w) {deployment stored : PluginDeployment}
    (hrow : loadedDeployment (w.phase call) = some deployment)
    (hfind : w.catalog.deployments.find stored.id = some stored) (hid : deployment.id = stored.id) :
    stored.workspaceId = deployment.workspaceId := by
  obtain ⟨found, hfound, hworkspace⟩ := (h.guarded call).place deployment hrow
  rw [hid, hfind] at hfound
  cases hfound
  exact hworkspace

theorem any_false {α : Type*} {o : Option α} {p : α → Bool} (h : o.any p = false) {a : α}
    (ha : o = some a) : p a = false := by
  simpa [ha] using h

theorem routed_failed {rowId : UUID} {deployment stored : PluginDeployment} {candidate : Candidate}
    {epoch : Nat} (h : Routed casefold w) (hmode : w.mode = .serving)
    (hphase : w.phase call = .failing deployment candidate epoch)
    (hrechecked : Rechecked casefold w (.commit call rowId))
    (hfind : w.catalog.deployments.find stored.id = some stored) (hid : deployment.id = stored.id) :
    Routed casefold { (w.release call).to call .idle with
      catalog := writeFailed w.catalog rowId deployment stored candidate.1.id epoch } := by
  have hrow : loadedDeployment (w.phase call) = some deployment := by rw [hphase]; rfl
  have hworkspace := stored_place h hrow hfind hid
  have hsame : activeRevision w.catalog (failedRow deployment stored) =
      activeRevision w.catalog stored := activeRevision_congr rfl rfl (by simp)
  refine routed_written h hmode rfl ⟨hfind, find_writeFailed deployment hfind rowId _ epoch,
    by simp, rfl, rfl⟩ rfl rfl ?_ ?_ ?_ rfl
  · intro _
    rw [hworkspace]
    exact (h.guarded call).lock _ (by rw [hphase]; rfl)
  · intro hrunning active hactive
    rw [hsame] at hactive
    have hloaded : deployment.activeRevisionId ≠ none := by
      rw [failedRow_status, failedStatus] at hrunning
      intro hnone
      rw [if_pos hnone] at hrunning
      cases hrunning
    by_cases hstatus : stored.status = .RUNNING
    · exact clear_of_running h.apart hfind hstatus hactive
    · have hcheck := hrechecked deployment hrow stored (hid ▸ hfind)
        (by rw [hphase]; exact decide_eq_true hloaded) hstatus
      exact any_false hcheck hactive
  · intro hactive
    rw [hsame]
    exact h.linked stored hfind (by simpa using hactive)

theorem routed_activated {rowId : UUID} {deployment stored : PluginDeployment}
    {candidate : Candidate} {epoch : Nat} (h : Routed casefold w) (hmode : w.mode = .serving)
    (hphase : w.phase call = .prepared deployment candidate epoch)
    (hrechecked : Rechecked casefold w (.commit call rowId))
    (hfind : w.catalog.deployments.find stored.id = some stored) (hid : deployment.id = stored.id) :
    Routed casefold { (w.release call).to call (.activated stored.id) with
      catalog := writeActivated w.catalog rowId deployment stored candidate.1.id epoch } := by
  have hrow : loadedDeployment (w.phase call) = some deployment := by rw [hphase]; rfl
  have hworkspace := stored_place h hrow hfind hid
  have hknown := (h.guarded call).candidate candidate (by rw [hphase]; rfl)
  have hchecked := (h.guarded call).clear deployment candidate (by rw [hphase]; rfl)
  -- the row keeps the stored revision when the call has loaded the candidate as active
  have hcolumn := activatedRow_activeRevisionId deployment stored candidate.1.id
  have hclear : conflictsWithRunning casefold w.catalog stored candidate = false := by
    rw [conflictsWithRunning_false] at hchecked ⊢
    rw [hworkspace, ← hid]
    exact hchecked
  refine routed_written h hmode rfl ⟨hfind, find_writeActivated deployment hfind rowId _ epoch,
    by simp, rfl, rfl⟩ rfl rfl ?_ ?_ ?_ rfl
  · intro _
    rw [hworkspace]
    exact (h.guarded call).lock _ (by rw [hphase]; rfl)
  · intro _ active hactive
    by_cases hsame : some candidate.1.id = deployment.activeRevisionId
    · rw [column_of_unchanged hsame] at hcolumn
      rw [activeRevision_congr rfl rfl hcolumn] at hactive
      by_cases hstored : stored.activeRevisionId = some candidate.1.id
      · rw [hknown.activeRevision hstored] at hactive
        cases hactive
        exact hclear
      · by_cases hstatus : stored.status = .RUNNING
        · exact clear_of_running h.apart hfind hstatus hactive
        · have hcheck := hrechecked deployment hrow stored (hid ▸ hfind)
            (by rw [hphase]; exact decide_eq_true ⟨hsame.symm, hstored⟩) hstatus
          exact any_false hcheck hactive
    · rw [column_of_changed hsame] at hcolumn
      rw [hknown.activeRevision hcolumn] at hactive
      cases hactive
      exact hclear
  · intro hactive
    by_cases hsame : some candidate.1.id = deployment.activeRevisionId
    · rw [column_of_unchanged hsame] at hcolumn
      rw [activeRevision_congr rfl rfl hcolumn]
      exact h.linked stored hfind (hcolumn ▸ hactive)
    · rw [column_of_changed hsame] at hcolumn
      rw [hknown.activeRevision hcolumn]
      rfl

theorem routed_effect {a : Action} (h : Routed casefold w) (hmode : w.mode = .serving)
    (hrechecked : Rechecked casefold w a) (heffect : Effect casefold w a w') :
    Routed casefold w' := by
  cases heffect with
  | refused => exact h
  | grown a catalog hgrown => exact routed_grown h hgrown
  | loaded a call deployment candidate revisionId hphase hfind hcandidate =>
    obtain ⟨hrevision, hid, hpackage⟩ := activatable_some hcandidate
    refine routed_unwritten h hmode rfl rfl rfl (fun _ _ _ h => h) ⟨fun _ h => (nomatch h), ?_, ?_,
      fun _ _ h => (nomatch h)⟩
    · rintro _ ⟨⟩
      exact ⟨deployment, hfind, rfl⟩
    · rintro _ ⟨⟩
      exact ⟨hid ▸ hrevision, hpackage⟩
  | rejected a call deployment candidate hphase =>
    exact routed_unwritten h hmode rfl rfl rfl (fun _ _ _ h => h) (guarded_free rfl)
  | starting call launchable deployment candidate supervisor hphase hfree hconflict hprepare =>
    have hold := h.guarded call
    rw [hphase] at hold
    refine routed_unwritten h hmode rfl rfl rfl (fun _ _ _ => locked_workspace hfree) ⟨?_, hold.place,
      hold.candidate, ?_⟩
    · rintro _ ⟨⟩
      exact Function.update_self _ _ _
    · rintro _ _ ⟨⟩
      exact hconflict
  | failing call launchable deployment candidate hphase hfree hconflict =>
    have hold := h.guarded call
    rw [hphase] at hold
    refine routed_unwritten h hmode rfl rfl rfl (fun _ _ _ => locked_workspace hfree) ⟨?_, hold.place,
      fun _ h => (nomatch h), fun _ _ h => (nomatch h)⟩
    rintro _ ⟨⟩
    exact Function.update_self _ _ _
  | started a call deployment candidate epoch hphase =>
    have hold := h.guarded call
    rw [hphase] at hold
    exact routed_unwritten h hmode rfl rfl rfl (fun _ _ _ h => h) ⟨hold.lock, hold.place,
      hold.candidate, hold.clear⟩
  | startFailed a call deployment candidate epoch hphase =>
    have hold := h.guarded call
    rw [hphase] at hold
    exact routed_unwritten h hmode rfl rfl rfl (fun _ _ _ h => h) ⟨hold.lock, hold.place,
      fun _ h => (nomatch h), fun _ _ h => (nomatch h)⟩
  | draining a call stored supervisor hphase =>
    exact routed_unwritten h hmode rfl rfl rfl (fun _ _ _ h => h) (guarded_free rfl)
  | failed call rowId deployment stored candidate epoch hphase hfind hid =>
    exact routed_failed h hmode hphase hrechecked hfind hid
  | activated call rowId deployment stored candidate epoch hphase hfind hid =>
    exact routed_activated h hmode hphase hrechecked hfind hid
  | drained call rowId stored hphase hfind =>
    refine routed_written h hmode rfl ⟨hfind, find_writeDeactivated hfind, rfl, rfl, rfl⟩ rfl rfl
      ?_ ?_ ?_ rfl
    · exact fun hrunning => (nomatch hrunning)
    · exact fun hrunning => (nomatch hrunning)
    · exact fun hactive => absurd rfl hactive
  | abandoned a call deployment candidate epoch hphase =>
    exact routed_unwritten h hmode rfl rfl rfl (fun _ _ => release_workspace) (guarded_free rfl)
  | aborted a call deployment candidate epoch hphase =>
    exact routed_unwritten h hmode rfl rfl rfl (fun _ _ => release_workspace) (guarded_free rfl)
  | resumed a call deploymentId hphase =>
    exact routed_unwritten h hmode rfl rfl rfl (fun _ _ => release_workspace) (guarded_free rfl)
  | running a call deploymentId supervisor hphase hcommit =>
    exact routed_unwritten h hmode rfl rfl rfl (fun _ _ _ h => h) (guarded_free rfl)
  | stopped a call deploymentId supervisor hphase hcommit =>
    exact routed_unwritten h hmode rfl rfl rfl (fun _ _ _ h => h) (guarded_free rfl)

end Steps

section Restore

variable {casefold : Str → Str}

theorem saved_restoreFailed {c : Catalog} {stored : PluginDeployment}
    (hfind : c.deployments.find stored.id = some stored) :
    Saved c (writeRestoreFailed c stored) stored (unrestoredRow stored) :=
  ⟨hfind, find_writeRestoreFailed hfind, rfl, rfl, rfl⟩

/-- A row that does not run keeps the deployments apart. -/
theorem kept_saved {c c' : Catalog} {stored row : PluginDeployment}
    (h : Apart casefold c ∧ Linked c) (hs : Saved c c' stored row)
    (hclear : row.status = .RUNNING → stored.status = .RUNNING)
    (hactive : row.activeRevisionId = stored.activeRevisionId) :
    Apart casefold c' ∧ Linked c' := by
  have hsame : activeRevision c row = activeRevision c stored := activeRevision_congr rfl rfl hactive
  constructor
  · refine apart_saved h.1 hs fun hrunning active hrevision => ?_
    rw [hsame] at hrevision
    exact clear_of_running h.1 hs.before (hclear hrunning) hrevision
  · refine linked_saved h.2 hs fun hne => ?_
    rw [hsame]
    exact h.2 stored hs.before (hactive ▸ hne)

theorem routed_restoreTurn {s s' : RestoreState} {stored : PluginDeployment}
    (h : Apart casefold s.catalog ∧ Linked s.catalog)
    (hfind : s.catalog.deployments.find stored.id = some stored)
    (hturn : RestoreTurn casefold s stored s') :
    Apart casefold s'.catalog ∧ Linked s'.catalog := by
  cases hturn with
  | conflicting => exact kept_saved h (saved_restoreFailed hfind) (fun h => nomatch h) rfl
  | prepared rowId candidate supervisor hrevision hcandidate hconflict _ =>
    obtain ⟨hfound, hid, hpackage⟩ := activatable_some hcandidate
    have hknown : Known s.catalog candidate := ⟨hfound, hpackage⟩
    have hactive : (activatedRow stored stored candidate.1.id).activeRevisionId =
        some candidate.1.id := column_of_fresh rfl _
    have hsaved : Saved s.catalog (writeActivated s.catalog rowId stored stored candidate.1.id
        (nextEpoch s.catalog stored.id)) stored (activatedRow stored stored candidate.1.id) :=
      ⟨hfind, find_writeActivated stored hfind rowId candidate.1.id _, by simp, rfl, rfl⟩
    constructor
    · refine apart_saved h.1 hsaved fun _ active hrow => ?_
      rw [hknown.activeRevision hactive] at hrow
      cases hrow
      exact hconflict
    · refine linked_saved h.2 hsaved fun _ => ?_
      rw [hknown.activeRevision hactive]
      rfl
  | failed rowId revisionId epoch =>
    have hrows := find_writeFailed stored hfind rowId revisionId epoch
    have hfirst : Saved s.catalog (writeFailed s.catalog rowId stored stored revisionId epoch) stored
        (failedRow stored stored) := ⟨hfind, hrows, by simp, rfl, rfl⟩
    have hself := (hrows stored.id).trans (if_pos rfl)
    have hsecond : Saved s.catalog (writeRestoreFailed (writeFailed s.catalog rowId stored stored
        revisionId epoch) (failedRow stored stored)) stored
        (unrestoredRow (failedRow stored stored)) := by
      refine ⟨hfind, fun id => ?_, by simp [unrestoredRow], rfl, rfl⟩
      refine (@find_writeRestoreFailed _ (failedRow stored stored) hself id).trans ?_
      rw [failedRow_id, hrows]
      by_cases hid : id = stored.id
      · rw [if_pos hid, if_pos hid]
        rfl
      · rw [if_neg hid, if_neg hid, if_neg hid]
    exact kept_saved h hsecond (fun h => nomatch h) (by simp [unrestoredRow])

theorem routed_restoreLoop {starts : UUID → Bool} {rowIds : UUID → UUID} {todo : List UUID}
    {s s' : RestoreState} (h : Apart casefold s.catalog ∧ Linked s.catalog)
    (hloop : restoreLoop casefold starts rowIds s todo = some s') :
    Apart casefold s'.catalog ∧ Linked s'.catalog := by
  induction todo generalizing s with
  | nil =>
    cases hloop
    exact h
  | cons id todo ih =>
    obtain ⟨t, hone, hrest⟩ := Option.bind_eq_some_iff.mp hloop
    obtain ⟨stored, hfind, rfl, hturn⟩ := restoreOne_turn hone
    exact ih (routed_restoreTurn h hfind hturn) hrest

theorem routed_step {w w' : World} {a : Action} (h : Routed casefold w)
    (hrechecked : Rechecked casefold w a) (hstep : step casefold w a = some w') :
    Routed casefold w' := by
  cases step_turn hstep with
  | crashed => exact ⟨h.apart, h.linked, fun _ => guarded_free rfl, fun _ _ => rfl⟩
  | restored starts rowIds s hmode hrestore =>
    have hidle := h.rest (by rw [hmode]; decide)
    obtain ⟨hapart, hlinked⟩ := routed_restoreLoop ⟨h.apart, h.linked⟩ hrestore
    refine ⟨hapart, hlinked, fun call => ?_, fun _ => hidle⟩
    change Guarded casefold _ call (w.phase call)
    rw [hidle call]
    exact guarded_free rfl
  | served prepared supervisor hmode hcommit =>
    have hidle := h.rest (by rw [hmode]; exact nofun)
    refine ⟨h.apart, h.linked, fun call => ?_, fun hne => absurd rfl hne⟩
    change Guarded casefold _ call (w.phase call)
    rw [hidle call]
    exact guarded_free rfl
  | serving a w' hmode heffect => exact routed_effect h hmode hrechecked heffect

theorem routed_firstStart (plugins : UUID → Option Plugin)
    (packages : UUID → Option PluginPackageVersion) :
    Routed casefold (firstStart plugins packages) where
  apart := fun _ _ _ _ h => nomatch h
  linked := fun _ h => nomatch h
  guarded := fun _ => guarded_free rfl
  rest := fun h => absurd rfl h

/-- In every state of a run without such a commit a command word has at most one
deployment that answers it. -/
theorem commands_unambiguous (casefold : Str → Str) (plugins : UUID → Option Plugin)
    (packages : UUID → Option PluginPackageVersion) (as : List Action) (w : World)
    (hrechecked : Runs.EachStep (step casefold) (Rechecked casefold)
      (firstStart plugins packages) as)
    (hrun : Runs.run (step casefold) (firstStart plugins packages) as = some w) :
    Unambiguous casefold w.catalog :=
  unambiguous_of_apart (Runs.run_invariant_of_each (Rechecked casefold) (Routed casefold)
    (fun _ _ _ h hr hstep => routed_step h hr hstep) (routed_firstStart plugins packages)
    hrechecked hrun).apart

end Restore

/-- Package 1 declares the command `weather`, package 2 declares none. -/
def commandPackages : UUID → Option PluginPackageVersion := fun id =>
  if id = 1 then some ⟨1, 1, ⟨py "weather", [⟨py "weather", []⟩], []⟩, true⟩
  else if id = 2 then some ⟨2, 1, ⟨py "weather", [], []⟩, true⟩
  else none

def deployAnd (id revisionId : UUID) (name : Str) : List Action :=
  [.createDeployment id revisionId ⟨1, 1, name, ⟨1, PluginAgreement.everywhere, []⟩⟩,
    .load 0 id revisionId, .lock 0 true, .started 0, .commit 0 (revisionId + 1), .commitRuntime 0]

/-- Deployment 2 is not restored, deployment 12 takes over its command, and then a candidate
without commands fails for deployment 2. -/
def reviveSample : List Action :=
  deployAnd 2 3 (py "first") ++ [.createRevision 23 2 ⟨2, PluginAgreement.everywhere, []⟩, .crash,
    .restore (fun _ => false) (fun _ => 5), .serve] ++ deployAnd 12 13 (py "second") ++
    [.load 0 2 23, .lock 0 true, .startFailed 0, .commit 0 24]

def commandRun (as : List Action) : Option World :=
  Runs.run (step id) (firstStart PluginAgreement.samplePlugins commandPackages) as

theorem reviveRun_isSome : (commandRun reviveSample).isSome = true := by decide +kernel

def reviveWorld : World := (commandRun reviveSample).get reviveRun_isSome

instance (casefold : Str → Str) (w : World) (a : Action) : Decidable (Rechecked casefold w a) :=
  match a with
  | .commit .. => @Runs.optionAllDecidable _ _ _ fun _ => Runs.optionAllDecidable _ _
  | .createDeployment .. | .createRevision .. | .load .. | .lock .. | .started .. | .startFailed ..
  | .deactivate .. | .commitFails .. | .commitRuntime .. | .crash | .restore .. | .serve =>
    instDecidableTrue

/-- Deployment 12 is refused while it has the command of deployment 2, and runs beside it
with a revision that has none. -/
def deployTwice : List Action :=
  deployAnd 2 3 (py "first") ++
    [.createDeployment 12 13 ⟨1, 1, py "second", ⟨1, PluginAgreement.everywhere, []⟩⟩,
      .load 0 12 13, .lock 0 true, .createRevision 23 12 ⟨2, PluginAgreement.everywhere, []⟩,
      .load 0 12 23, .lock 0 true, .started 0, .commit 0 24, .commitRuntime 0]

theorem deployTwice_isSome : (commandRun deployTwice).isSome = true := by decide +kernel

def deployedWorld : World := (commandRun deployTwice).get deployTwice_isSome

theorem commands_unambiguous_deployed :
    (pluginRoutes deployedWorld.catalog ⟨1, 9, none, none⟩).length = 2 ∧
      Unambiguous id deployedWorld.catalog :=
  ⟨by decide +kernel, commands_unambiguous id PluginAgreement.samplePlugins commandPackages
    deployTwice deployedWorld (by decide +kernel) (Option.some_get _).symm⟩

/-- Both deployments run and answer the same command. -/
theorem failed_candidate_revives_command :
    ∃ (as : List Action) (w : World),
      Runs.run (step id) (firstStart PluginAgreement.samplePlugins commandPackages) as = some w ∧
        (commandRoutes id (pluginRoutes w.catalog ⟨1, 9, none, none⟩) (py "/weather")).length = 2 ∧
        ¬ Unambiguous id w.catalog := by
  have hroutes : (commandRoutes id (pluginRoutes reviveWorld.catalog ⟨1, 9, none, none⟩)
      (py "/weather")).length = 2 := by
    decide +kernel
  refine ⟨reviveSample, reviveWorld, (Option.some_get _).symm, hroutes, ?_⟩
  intro hunambiguous
  have hbound := hunambiguous.branch ⟨1, 9, none, none⟩ (py "/weather")
  rw [hroutes] at hbound
  omega

end WechatBot.CommandRouting
