import WechatBot.PluginSystem
import WechatBot.Results

/-!
# What one plugin operation can do

One lemma for each function that writes the plugin rows, and the effect of one step of
the system with the state it was taken in. The invariants over runs are derived from
these alone.
-/
namespace WechatBot.PluginSteps

open PyData Records PluginScope PluginCatalog PluginSystem DirtyWrite
open Tables (Table)

/-- The catalog after one of the create calls. A new deployment is stopped. -/
structure Grown (c c' : Catalog) : Prop where
  deployments : c'.deployments = c.deployments ∨ ∃ deployment,
    c.deployments.insert deployment = some c'.deployments ∧
      deployment.status = .STOPPED ∧ deployment.activeRevisionId = none
  revisions : ∀ id revision, c.revisions.find id = some revision →
    c'.revisions.find id = some revision
  packages : c'.packages = c.packages
  activations : c'.activations = c.activations

theorem addRevision_ok {c c' : Catalog} {id : UUID} {deployment : PluginDeployment}
    {package : PluginPackageVersion} {request : RevisionRequest}
    (h : addRevision c id deployment package request = .ok c') :
    ∃ revision revisions, c.revisions.insert revision = some revisions ∧
      c' = { c with revisions := revisions } := by
  simp only [addRevision] at h
  split at h
  · cases h
  · split at h
    · cases h
    · rename_i revisions hinsert
      cases h
      exact ⟨_, revisions, hinsert, rfl⟩

/-- A new revision only adds to the catalog. -/
theorem grown_createRevision {c c' : Catalog} {id deploymentId : UUID} {request : RevisionRequest}
    (h : createRevision c id deploymentId request = .ok c') : Grown c c' := by
  simp only [createRevision] at h
  split at h
  · cases h
  · split at h
    · cases h
    · split at h
      · cases h
      · obtain ⟨revision, revisions, hinsert, rfl⟩ := addRevision_ok h
        exact ⟨.inl rfl, fun _ _ hfind => Table.insert_keeps hinsert hfind, rfl, rfl⟩

/-- A new deployment only adds to the catalog. -/
theorem grown_createDeployment {c c' : Catalog} {id revisionId : UUID} {request : DeploymentRequest}
    (h : createDeployment c id revisionId request = .ok c') : Grown c c' := by
  simp only [createDeployment] at h
  split at h
  · cases h
  · split at h
    · cases h
    · split at h
      · cases h
      · split at h
        · cases h
        · split at h
          · cases h
          · rename_i deployments hdeployment
            obtain ⟨revision, revisions, hinsert, rfl⟩ := addRevision_ok h
            exact ⟨.inr ⟨_, hdeployment, rfl, rfl⟩,
              fun _ _ hfind => Table.insert_keeps hinsert hfind, rfl, rfl⟩

theorem grown_refl (c : Catalog) : Grown c c := ⟨.inl rfl, fun _ _ h => h, rfl, rfl⟩

/-- No row is lost or changed. -/
theorem Grown.find {c c' : Catalog} (h : Grown c c') {id : UUID} {deployment : PluginDeployment}
    (hfind : c.deployments.find id = some deployment) :
    c'.deployments.find id = some deployment := by
  rcases h.deployments with heq | ⟨created, hinsert, -, -⟩
  · rw [heq]
    exact hfind
  · exact Table.insert_keeps hinsert hfind

/-- A row that was not there before is stopped. -/
theorem Grown.find_new {c c' : Catalog} (h : Grown c c') {id : UUID} {deployment : PluginDeployment}
    (hfind : c'.deployments.find id = some deployment) :
    c.deployments.find id = some deployment ∨ c.deployments.find id = none ∧
      deployment.status = .STOPPED ∧ deployment.activeRevisionId = none := by
  rcases h.deployments with heq | ⟨created, hinsert, hstatus, hactive⟩
  · exact .inl (heq ▸ hfind)
  · rw [Table.find_insert hinsert] at hfind
    by_cases hid : id = created.id
    · rw [if_pos hid] at hfind
      cases hfind
      exact .inr ⟨hid ▸ Table.insert_fresh hinsert, hstatus, hactive⟩
    · rw [if_neg hid] at hfind
      exact .inl hfind

theorem grown_orKeep (w : World) (result : Except CatalogError Catalog)
    (h : ∀ c, result = .ok c → Grown w.catalog c) :
    ∃ catalog, Grown w.catalog catalog ∧ orKeep w result = { w with catalog := catalog } := by
  cases result with
  | error _ => exact ⟨w.catalog, grown_refl _, rfl⟩
  | ok c => exact ⟨c, h c rfl, rfl⟩

theorem workspaceId_writeDeployment {loaded current stored : PluginDeployment}
    (h : current.workspaceId = loaded.workspaceId) :
    (writeDeployment loaded current stored).workspaceId = stored.workspaceId :=
  column_of_unchanged h stored.workspaceId

/-- The row a candidate that has started leaves, over the row as it is stored. -/
def activatedRow (loaded stored : PluginDeployment) (revisionId : UUID) : PluginDeployment :=
  writeDeployment (starting loaded)
    { loaded with activeRevisionId := some revisionId, status := .RUNNING, lastError := none } stored

/-- The row a candidate that has failed leaves. -/
def failedRow (loaded stored : PluginDeployment) : PluginDeployment :=
  writeDeployment (starting loaded)
    { loaded with
      status := failedStatus loaded
      lastError := some (py "candidate activation failed") } stored

section Rows

variable (loaded stored : PluginDeployment) (revisionId : UUID)

@[simp] theorem activatedRow_id : (activatedRow loaded stored revisionId).id = stored.id := rfl

@[simp] theorem activatedRow_workspaceId :
    (activatedRow loaded stored revisionId).workspaceId = stored.workspaceId :=
  workspaceId_writeDeployment rfl

@[simp] theorem activatedRow_status :
    (activatedRow loaded stored revisionId).status = .RUNNING := by
  have hne : PluginDeploymentStatus.RUNNING ≠ .STARTING := by decide
  exact column_of_changed hne stored.status

theorem activatedRow_activeRevisionId :
    (activatedRow loaded stored revisionId).activeRevisionId =
      column loaded.activeRevisionId (some revisionId) stored.activeRevisionId := rfl

@[simp] theorem failedRow_id : (failedRow loaded stored).id = stored.id := rfl

@[simp] theorem failedRow_workspaceId :
    (failedRow loaded stored).workspaceId = stored.workspaceId :=
  workspaceId_writeDeployment rfl

@[simp] theorem failedRow_status : (failedRow loaded stored).status = failedStatus loaded := by
  refine column_of_changed ?_ stored.status
  simp only [starting, failedStatus]
  split <;> decide

@[simp] theorem failedRow_activeRevisionId :
    (failedRow loaded stored).activeRevisionId = stored.activeRevisionId :=
  column_of_unchanged rfl stored.activeRevisionId

end Rows

/-- A saved row replaces the row with its key. -/
theorem find_saved {c : Catalog} (row : PluginDeployment) {stored : PluginDeployment}
    (hfind : c.deployments.find stored.id = some stored) (hid : row.id = stored.id) (id : UUID) :
    (c.deployments.save row).find id = if id = stored.id then some row else c.deployments.find id := by
  rw [Table.find_save_of (r := stored) (by rw [hid, hfind]), hid]

/-- An activation writes the row of its deployment only. -/
theorem find_writeActivated {c : Catalog} (loaded : PluginDeployment) {stored : PluginDeployment}
    (hfind : c.deployments.find stored.id = some stored) (rowId revisionId : UUID) (epoch : Nat)
    (id : UUID) :
    (writeActivated c rowId loaded stored revisionId epoch).deployments.find id =
      if id = stored.id then some (activatedRow loaded stored revisionId)
      else c.deployments.find id :=
  find_saved (activatedRow loaded stored revisionId) hfind rfl id

/-- A failure writes the row of its deployment only. -/
theorem find_writeFailed {c : Catalog} (loaded : PluginDeployment) {stored : PluginDeployment}
    (hfind : c.deployments.find stored.id = some stored) (rowId revisionId : UUID) (epoch : Nat)
    (id : UUID) :
    (writeFailed c rowId loaded stored revisionId epoch).deployments.find id =
      if id = stored.id then some (failedRow loaded stored) else c.deployments.find id :=
  find_saved (failedRow loaded stored) hfind rfl id

/-- A deactivation writes the row of its deployment only. -/
theorem find_writeDeactivated {c : Catalog} {stored : PluginDeployment}
    (hfind : c.deployments.find stored.id = some stored) (id : UUID) :
    (writeDeactivated c stored).deployments.find id =
      if id = stored.id then some { stored with activeRevisionId := none, status := .STOPPED }
      else c.deployments.find id :=
  find_saved { stored with activeRevisionId := none, status := .STOPPED } hfind rfl id

theorem find_writeRestoreFailed {c : Catalog} {stored : PluginDeployment}
    (hfind : c.deployments.find stored.id = some stored) (id : UUID) :
    (writeRestoreFailed c stored).deployments.find id =
      if id = stored.id then some { stored with
        status := .FAILED
        lastError := some (py "startup activation restore failed") }
      else c.deployments.find id :=
  find_saved { stored with
    status := .FAILED
    lastError := some (py "startup activation restore failed") } hfind rfl id

theorem filter_stopActive (deploymentId id : UUID) (activations : List PluginRevisionActivation) :
    (stopActive deploymentId activations).filter
        (fun a => decide (a.deploymentId = id ∧ a.status = .ACTIVE)) =
      if id = deploymentId then []
      else activations.filter fun a => decide (a.deploymentId = id ∧ a.status = .ACTIVE) := by
  induction activations with
  | nil => split <;> rfl
  | cons a activations ih =>
    simp only [stopActive, List.map_cons, List.filter_cons] at ih ⊢
    rw [ih]
    by_cases hid : id = deploymentId
    · by_cases ha : a.deploymentId = deploymentId ∧ a.status = .ACTIVE
      · simp [hid, ha]
      · simp [hid, ha]
    · by_cases ha : a.deploymentId = deploymentId ∧ a.status = .ACTIVE
      · have hne : ¬ deploymentId = id := fun h => hid h.symm
        simp [hid, ha, hne]
      · simp [hid, ha]

/-- After an activation its deployment has the new active row and no other. -/
theorem activeRows_writeActivated (c : Catalog) (rowId : UUID) (loaded stored : PluginDeployment)
    (revisionId : UUID) (epoch : Nat) (id : UUID) :
    activeRows (writeActivated c rowId loaded stored revisionId epoch) id =
      if id = stored.id then [activationRow rowId stored.id revisionId epoch .ACTIVE]
      else activeRows c id := by
  simp only [activeRows, writeActivated, List.filter_append, filter_stopActive]
  by_cases hid : id = stored.id
  · simp [hid, activationRow]
  · have hne : ¬ stored.id = id := fun h => hid h.symm
    simp [hid, hne, activationRow]

/-- A failure leaves the active rows. -/
theorem activeRows_writeFailed (c : Catalog) (rowId : UUID) (loaded stored : PluginDeployment)
    (revisionId : UUID) (epoch : Nat) (id : UUID) :
    activeRows (writeFailed c rowId loaded stored revisionId epoch) id = activeRows c id := by
  simp [activeRows, writeFailed, List.filter_append, activationRow]

/-- A deactivation leaves its deployment no active row. -/
theorem activeRows_writeDeactivated (c : Catalog) (stored : PluginDeployment) (id : UUID) :
    activeRows (writeDeactivated c stored) id = if id = stored.id then [] else activeRows c id :=
  filter_stopActive stored.id id c.activations

/-- Nobody has locked the workspace or the deployment. -/
def World.unlocked (w : World) (deployment : PluginDeployment) : Prop :=
  w.workspaceLock deployment.workspaceId = none ∧ w.deploymentLock deployment.id = none

/-- The ways a step of a serving process can end. -/
inductive Effect (casefold : Str → Str) (w : World) : Action → World → Prop where
  | refused (a : Action) : Effect casefold w a w
  | grown (a : Action) (catalog : Catalog) : Grown w.catalog catalog →
      Effect casefold w a { w with catalog := catalog }
  | loaded (a : Action) (call : Nat) (deployment : PluginDeployment) (candidate : Candidate)
      (revisionId : UUID) : w.phase call = .idle →
      w.catalog.deployments.find deployment.id = some deployment →
      activatable w.catalog deployment revisionId = some candidate →
      Effect casefold w a (w.to call (.loaded deployment candidate))
  | rejected (a : Action) (call : Nat) (deployment : PluginDeployment) (candidate : Candidate) :
      w.phase call = .loaded deployment candidate → Effect casefold w a (w.to call .idle)
  | starting (call : Nat) (launchable : Bool) (deployment : PluginDeployment)
      (candidate : Candidate) (supervisor : Supervisor) :
      w.phase call = .loaded deployment candidate → World.unlocked w deployment →
      conflictsWithRunning casefold w.catalog deployment candidate = false →
      prepareActivation w.supervisor deployment.id call (nextEpoch w.catalog deployment.id)
        candidate.1.id = some supervisor →
      Effect casefold w (.lock call launchable) { (w.locked call deployment).to call
        (.starting deployment candidate (nextEpoch w.catalog deployment.id)) with
          supervisor := supervisor }
  | failing (call : Nat) (launchable : Bool) (deployment : PluginDeployment)
      (candidate : Candidate) : w.phase call = .loaded deployment candidate →
      World.unlocked w deployment →
      conflictsWithRunning casefold w.catalog deployment candidate = false →
      Effect casefold w (.lock call launchable) ((w.locked call deployment).to call
        (.failing deployment candidate (nextEpoch w.catalog deployment.id)))
  | started (a : Action) (call : Nat) (deployment : PluginDeployment) (candidate : Candidate)
      (epoch : Nat) : w.phase call = .starting deployment candidate epoch →
      Effect casefold w a (w.to call (.prepared deployment candidate epoch))
  | startFailed (a : Action) (call : Nat) (deployment : PluginDeployment) (candidate : Candidate)
      (epoch : Nat) : w.phase call = .starting deployment candidate epoch →
      Effect casefold w a { w.to call (.failing deployment candidate epoch) with
        supervisor := abortActivation w.supervisor deployment.id call }
  | draining (a : Action) (call : Nat) (stored : PluginDeployment) (supervisor : Supervisor) :
      w.phase call = .idle → w.catalog.deployments.find stored.id = some stored →
      w.deploymentLock stored.id = none →
      prepareDeactivation w.supervisor stored.id call = some supervisor →
      Effect casefold w a { w.to call (.draining stored.id) with
        supervisor := supervisor
        deploymentLock := Function.update w.deploymentLock stored.id (some call) }
  | failed (call : Nat) (rowId : UUID) (deployment stored : PluginDeployment)
      (candidate : Candidate) (epoch : Nat) : w.phase call = .failing deployment candidate epoch →
      w.catalog.deployments.find stored.id = some stored → deployment.id = stored.id →
      Effect casefold w (.commit call rowId) { (w.release call).to call .idle with
        catalog := writeFailed w.catalog rowId deployment stored candidate.1.id epoch }
  | activated (call : Nat) (rowId : UUID) (deployment stored : PluginDeployment)
      (candidate : Candidate) (epoch : Nat) : w.phase call = .prepared deployment candidate epoch →
      w.catalog.deployments.find stored.id = some stored → deployment.id = stored.id →
      Effect casefold w (.commit call rowId) { (w.release call).to call (.activated stored.id) with
        catalog := writeActivated w.catalog rowId deployment stored candidate.1.id epoch }
  | drained (call : Nat) (rowId : UUID) (stored : PluginDeployment) :
      w.phase call = .draining stored.id → w.catalog.deployments.find stored.id = some stored →
      Effect casefold w (.commit call rowId) { (w.release call).to call (.drained stored.id) with
        catalog := writeDeactivated w.catalog stored }
  | abandoned (a : Action) (call : Nat) (deployment : PluginDeployment) (candidate : Candidate)
      (epoch : Nat) : w.phase call = .failing deployment candidate epoch →
      Effect casefold w a ((w.release call).to call .idle)
  | aborted (a : Action) (call : Nat) (deployment : PluginDeployment) (candidate : Candidate)
      (epoch : Nat) : w.phase call = .prepared deployment candidate epoch →
      Effect casefold w a { (w.release call).to call .idle with
        supervisor := abortActivation w.supervisor deployment.id call }
  | resumed (a : Action) (call : Nat) (deploymentId : UUID) :
      w.phase call = .draining deploymentId →
      Effect casefold w a { (w.release call).to call .idle with
        supervisor := abortDeactivation w.supervisor deploymentId call }
  | running (a : Action) (call : Nat) (deploymentId : UUID) (supervisor : Supervisor) :
      w.phase call = .activated deploymentId →
      commitActivation w.supervisor deploymentId call = some supervisor →
      Effect casefold w a { w.to call .idle with supervisor := supervisor }
  | stopped (a : Action) (call : Nat) (deploymentId : UUID) (supervisor : Supervisor) :
      w.phase call = .drained deploymentId →
      commitDeactivation w.supervisor deploymentId call = some supervisor →
      Effect casefold w a { w.to call .idle with supervisor := supervisor }

section Effects

variable {casefold : Str → Str} {w w' : World}

theorem stepLoad_effect {a : Action} {call : Nat} {deploymentId revisionId : UUID}
    (h : stepLoad w call deploymentId revisionId = some w') : Effect casefold w a w' := by
  unfold stepLoad at h
  split at h
  · rename_i hphase
    split at h
    · cases h
      exact .refused a
    · rename_i deployment hfind
      split at h
      · cases h
        exact .refused a
      · rename_i candidate hcandidate
        cases h
        have hid := Table.find_key hfind
        exact .loaded a call deployment candidate revisionId hphase (hid ▸ hfind) hcandidate
  · cases h

/-- Under its lock a call judges its candidate again. -/
theorem stepLock_effect {call : Nat} {launchable : Bool}
    (h : stepLock casefold w call launchable = some w') :
    Effect casefold w (.lock call launchable) w' := by
  unfold stepLock at h
  split at h
  · rename_i deployment candidate hphase
    split at h
    · cases h
    · rename_i hlocks
      have hfree : World.unlocked w deployment := by
        constructor
        · by_contra hne
          exact hlocks (.inl hne)
        · by_contra hne
          exact hlocks (.inr hne)
      split at h
      · cases h
        exact .rejected _ call deployment candidate hphase
      · rename_i hconflict
        rw [Bool.not_eq_true] at hconflict
        simp only at h
        split at h
        · rename_i supervisor hprepare
          cases h
          split at hprepare
          · exact .starting call launchable deployment candidate supervisor hphase hfree hconflict
              hprepare
          · cases hprepare
        · cases h
          exact .failing call launchable deployment candidate hphase hfree hconflict
  · cases h

theorem stepDeactivate_effect {a : Action} {call : Nat} {deploymentId : UUID}
    (h : stepDeactivate w call deploymentId = some w') : Effect casefold w a w' := by
  unfold stepDeactivate at h
  split at h
  · rename_i hphase
    split at h
    · cases h
      exact .refused a
    · rename_i stored hfind
      split at h
      · cases h
      · rename_i hfree
        rw [not_not] at hfree
        split at h
        · cases h
          exact .refused a
        · rename_i supervisor hprepare
          cases h
          obtain rfl := Table.find_key hfind
          exact .draining a call stored supervisor hphase hfind hfree hprepare
  · cases h

/-- A commit writes the rows of its phase. -/
theorem stepCommit_effect {call : Nat} {rowId : UUID} (h : stepCommit w call rowId = some w') :
    Effect casefold w (.commit call rowId) w' := by
  unfold stepCommit at h
  split at h
  · rename_i deployment candidate epoch hphase
    obtain ⟨stored, hfind, rfl⟩ := Option.map_eq_some_iff.mp h
    have hid := Table.find_key hfind
    exact .failed call rowId deployment stored candidate epoch hphase (hid ▸ hfind) hid.symm
  · rename_i deployment candidate epoch hphase
    obtain ⟨stored, hfind, rfl⟩ := Option.map_eq_some_iff.mp h
    have hid := Table.find_key hfind
    rw [← hid]
    exact .activated call rowId deployment stored candidate epoch hphase (hid ▸ hfind) hid.symm
  · rename_i deploymentId hphase
    obtain ⟨stored, hfind, rfl⟩ := Option.map_eq_some_iff.mp h
    obtain rfl := Table.find_key hfind
    exact .drained call rowId stored hphase hfind
  · cases h

theorem stepCommitFails_effect {a : Action} {call : Nat} (h : stepCommitFails w call = some w') :
    Effect casefold w a w' := by
  unfold stepCommitFails at h
  split at h
  · rename_i deployment candidate epoch hphase
    cases h
    exact .abandoned a call deployment candidate epoch hphase
  · rename_i deployment candidate epoch hphase
    cases h
    exact .aborted a call deployment candidate epoch hphase
  · rename_i deploymentId hphase
    cases h
    exact .resumed a call deploymentId hphase
  · cases h

theorem stepCommitRuntime_effect {a : Action} {call : Nat}
    (h : stepCommitRuntime w call = some w') : Effect casefold w a w' := by
  unfold stepCommitRuntime at h
  split at h
  · rename_i deploymentId hphase
    obtain ⟨supervisor, hcommit, rfl⟩ := Option.map_eq_some_iff.mp h
    exact .running a call deploymentId supervisor hphase hcommit
  · rename_i deploymentId hphase
    obtain ⟨supervisor, hcommit, rfl⟩ := Option.map_eq_some_iff.mp h
    exact .stopped a call deploymentId supervisor hphase hcommit
  · cases h

theorem stepStarted_effect {a : Action} {call : Nat} (h : stepStarted w call = some w') :
    Effect casefold w a w' := by
  unfold stepStarted at h
  split at h
  · rename_i deployment candidate epoch hphase
    cases h
    exact .started a call deployment candidate epoch hphase
  · cases h

theorem stepStartFailed_effect {a : Action} {call : Nat} (h : stepStartFailed w call = some w') :
    Effect casefold w a w' := by
  unfold stepStartFailed at h
  split at h
  · rename_i deployment candidate epoch hphase
    cases h
    exact .startFailed a call deployment candidate epoch hphase
  · cases h

/-- Every action of a serving runtime has an effect. -/
theorem stepServing_effect {a : Action} (h : stepServing casefold w a = some w') :
    Effect casefold w a w' := by
  cases a with
  | createDeployment id revisionId request =>
    obtain ⟨catalog, hgrown, hworld⟩ := grown_orKeep w
      (createDeployment w.catalog id revisionId request) fun _ => grown_createDeployment
    rw [stepServing, hworld] at h
    cases h
    exact .grown _ catalog hgrown
  | createRevision id deploymentId request =>
    obtain ⟨catalog, hgrown, hworld⟩ := grown_orKeep w
      (createRevision w.catalog id deploymentId request) fun _ => grown_createRevision
    rw [stepServing, hworld] at h
    cases h
    exact .grown _ catalog hgrown
  | load call deploymentId revisionId => exact stepLoad_effect h
  | lock call launchable => exact stepLock_effect h
  | started call => exact stepStarted_effect h
  | startFailed call => exact stepStartFailed_effect h
  | deactivate call deploymentId => exact stepDeactivate_effect h
  | commit call rowId => exact stepCommit_effect h
  | commitFails call => exact stepCommitFails_effect h
  | commitRuntime call => exact stepCommitRuntime_effect h
  | crash => cases h
  | restore starts rowIds => cases h
  | serve => cases h

/-- The ways a step of the system can end. -/
inductive Turn (casefold : Str → Str) (w : World) : Action → World → Prop where
  | crashed : Turn casefold w .crash w.stopped
  | restored (starts : UUID → Bool) (rowIds : UUID → UUID) (s : RestoreState) : w.mode = .down →
      restoreActiveDeployments casefold starts rowIds w.catalog = some s →
      Turn casefold w (.restore starts rowIds)
        { w with catalog := s.catalog, supervisor := s.supervisor, mode := .restored s.prepared }
  | served (prepared : List UUID) (supervisor : Supervisor) : w.mode = .restored prepared →
      commitPrepared w.supervisor prepared = some supervisor →
      Turn casefold w .serve { w with supervisor := supervisor, mode := .serving }
  | serving (a : Action) (w' : World) : w.mode = .serving → Effect casefold w a w' →
      Turn casefold w a w'

/-- A step is an effect of the serving runtime, or a crash or a restart. -/
theorem step_turn {a : Action} (h : step casefold w a = some w') : Turn casefold w a w' := by
  cases a with
  | crash =>
    cases h
    exact .crashed
  | restore starts rowIds =>
    simp only [step] at h
    split at h
    · rename_i hmode
      obtain ⟨s, hrestore, rfl⟩ := Option.map_eq_some_iff.mp h
      exact .restored starts rowIds s hmode hrestore
    · cases h
  | serve =>
    simp only [step] at h
    split at h
    · rename_i prepared hmode
      obtain ⟨supervisor, hcommit, rfl⟩ := Option.map_eq_some_iff.mp h
      exact .served prepared supervisor hmode hcommit
    · cases h
  | _ =>
    simp only [step] at h
    split at h
    · rename_i hmode
      exact .serving _ w' hmode (stepServing_effect h)
    · cases h

end Effects

/-- The row of a deployment that could not be restored. -/
def unrestoredRow (stored : PluginDeployment) : PluginDeployment :=
  { stored with
    status := .FAILED
    lastError := some (py "startup activation restore failed") }

/-- The ways a turn of the restore's loop can end, over the row as it was read. -/
inductive RestoreTurn (casefold : Str → Str) (s : RestoreState) (stored : PluginDeployment) :
    RestoreState → Prop where
  | conflicting : RestoreTurn casefold s stored
      { s with catalog := writeRestoreFailed s.catalog stored }
  | prepared (rowId : UUID) (candidate : Candidate) (supervisor : Supervisor) :
      stored.activeRevisionId = some candidate.1.id →
      activatable s.catalog stored candidate.1.id = some candidate →
      conflictsWithRunning casefold s.catalog stored candidate = false →
      prepareActivation s.supervisor stored.id 0 (nextEpoch s.catalog stored.id) candidate.1.id =
        some supervisor →
      RestoreTurn casefold s stored {
        catalog := writeActivated s.catalog rowId stored stored candidate.1.id
          (nextEpoch s.catalog stored.id)
        supervisor := supervisor
        prepared := s.prepared ++ [stored.id] }
  | failed (rowId revisionId : UUID) (epoch : Nat) : RestoreTurn casefold s stored
      { s with
        catalog := writeRestoreFailed (writeFailed s.catalog rowId stored stored revisionId epoch)
          (failedRow stored stored) }

theorem activatable_some {c : Catalog} {deployment : PluginDeployment} {revisionId : UUID}
    {candidate : Candidate} (h : activatable c deployment revisionId = some candidate) :
    c.revisions.find revisionId = some candidate.1 ∧ candidate.1.id = revisionId ∧
      c.packages candidate.1.packageVersionId = some candidate.2 := by
  simp only [activatable, availablePackage, Option.bind_eq_bind, Option.bind_eq_some_iff,
    Option.filter_eq_some_iff, Option.pure_def, Option.some.injEq] at h
  obtain ⟨revision, ⟨hfind, -⟩, package, ⟨hpackage, -⟩, rfl⟩ := h
  exact ⟨hfind, Table.find_key hfind, hpackage⟩

/-- A turn of the restore concerns the deployment that it names. -/
theorem restoreOne_turn {casefold : Str → Str} {starts : UUID → Bool} {rowIds : UUID → UUID}
    {s s' : RestoreState} {deploymentId : UUID}
    (h : restoreOne casefold starts rowIds s deploymentId = some s') :
    ∃ stored, s.catalog.deployments.find stored.id = some stored ∧ stored.id = deploymentId ∧
      RestoreTurn casefold s stored s' := by
  simp only [restoreOne, Option.bind_eq_bind, Option.bind_eq_some_iff] at h
  obtain ⟨stored, hfind, revisionId, hrevision, candidate, hcandidate, h⟩ := h
  obtain rfl := Table.find_key hfind
  obtain ⟨-, rfl, -⟩ := activatable_some hcandidate
  refine ⟨stored, hfind, rfl, ?_⟩
  split at h
  · cases h
    exact .conflicting
  · rename_i hconflict
    rw [Bool.not_eq_true] at hconflict
    split at h
    · rename_i supervisor hprepare
      cases h
      split at hprepare
      · exact .prepared _ candidate supervisor hrevision hcandidate hconflict hprepare
      · cases hprepare
    · rw [find_writeFailed stored hfind, if_pos rfl, Option.bind_some] at h
      cases h
      exact .failed _ _ _

end WechatBot.PluginSteps
