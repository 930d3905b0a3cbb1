import WechatBot.PluginStanding

/-!
# The plugin rows and the plugin processes agree

The restore rebuilds the agreement from the rows alone, and with it every run of sound
steps keeps it. A candidate that fails after a failed restore breaks it.
-/
namespace WechatBot.PluginAgreement

open PyData Records PluginScope PluginCatalog PluginSystem PluginSteps PluginStanding DirtyWrite
open Tables (Table)

/-- A deployment is RUNNING exactly when a process accepts its calls, and the process was
launched from the active revision in the epoch of the only ACTIVE row. -/
structure Agreed (w : World) : Prop where
  running : ∀ id, (∃ deployment, w.catalog.deployments.find id = some deployment ∧
      deployment.status = .RUNNING) ↔
    ∃ plugin, w.supervisor.active id = some plugin ∧ plugin.accepting = true
  launched : ∀ id plugin, w.supervisor.active id = some plugin → plugin.accepting = true →
    ∃ deployment row, w.catalog.deployments.find id = some deployment ∧
      deployment.activeRevisionId = some plugin.revisionId ∧
      activeRows w.catalog id = [row] ∧ row.activationEpoch = plugin.activationEpoch

/-- How a deployment stands while the deployments of `todo` wait for their restore and
those of `prepared` for their runtime commit. -/
structure Reloading (todo prepared : List UUID) (id : UUID) (v : View) : Prop where
  active : v.active = none
  regular : v.Regular
  apart : id ∈ todo → id ∉ prepared
  waiting : id ∉ prepared → v.pending = none
  launched : id ∈ prepared → ∃ epoch revisionId,
    v.pending = some (.activation 0 epoch revisionId) ∧ v.RunsAs revisionId epoch
  stopped : id ∉ todo → id ∉ prepared → v.NotRunning

def Restoring (todo : List UUID) (s : RestoreState) : Prop :=
  ∀ id, Reloading todo s.prepared id (view s.catalog s.supervisor id)

/-- A deployment whose turn is over without a process is not running. -/
theorem reloading_failed {todo prepared : List UUID} {id : UUID} {v v' : View}
    (stored : PluginDeployment) (h : Reloading (id :: todo) prepared id v) (hid : id ∉ todo)
    (hrow : v'.row = some (unrestoredRow stored)) (hactive : v'.active = v.active)
    (hpending : v'.pending = v.pending) : Reloading todo prepared id v' where
  active := hactive.trans h.active
  regular := by
    constructor
    · intro row hfind hrunning
      obtain rfl := Option.some.inj (hfind.symm.trans hrow)
      cases hrunning
    · intro row hfind _
      obtain rfl := Option.some.inj (hfind.symm.trans hrow)
      exact .inr rfl
  apart := fun hmem => absurd hmem hid
  waiting := fun hmem => hpending.trans (h.waiting hmem)
  launched := fun hmem => absurd hmem (h.apart (by simp))
  stopped := by
    intro _ _ row hfind
    obtain rfl := Option.some.inj (hfind.symm.trans hrow)
    exact nofun

theorem reloading_other {todo prepared prepared' : List UUID} {id other : UUID} {v : View}
    (h : Reloading (id :: todo) prepared other v) (hne : other ≠ id)
    (hprepared : other ∈ prepared' ↔ other ∈ prepared) : Reloading todo prepared' other v where
  active := h.active
  regular := h.regular
  apart := fun hmem => hprepared.not.mpr (h.apart (by simp [hmem]))
  waiting := fun hmem => h.waiting (hprepared.not.mp hmem)
  launched := fun hmem => h.launched (hprepared.mp hmem)
  stopped := fun htodo hmem => h.stopped (by simp [htodo, hne]) (hprepared.not.mp hmem)

theorem activeRows_writeRestoreFailed (c : Catalog) (stored : PluginDeployment) (id : UUID) :
    activeRows (writeRestoreFailed c stored) id = activeRows c id := rfl

theorem restoring_turn {casefold : Str → Str} {todo : List UUID} {s s' : RestoreState}
    {stored : PluginDeployment} (h : Restoring (stored.id :: todo) s) (hid : stored.id ∉ todo)
    (hfind : s.catalog.deployments.find stored.id = some stored)
    (hturn : RestoreTurn casefold s stored s') : Restoring todo s' := by
  intro other
  have hold := h other
  cases hturn with
  | conflicting =>
    by_cases hne : other = stored.id
    · subst hne
      refine reloading_failed stored hold hid ?_ rfl rfl
      exact (find_writeRestoreFailed hfind _).trans (if_pos rfl)
    · refine reloading_other ?_ hne Iff.rfl
      simpa only [view, find_writeRestoreFailed hfind, if_neg hne,
        activeRows_writeRestoreFailed] using hold
  | failed rowId revisionId epoch =>
    have hfailed := find_writeFailed stored hfind rowId revisionId epoch
    have hself := (hfailed stored.id).trans (if_pos rfl)
    by_cases hne : other = stored.id
    · subst hne
      refine reloading_failed (failedRow stored stored) hold hid ?_ rfl rfl
      exact (@find_writeRestoreFailed _ (failedRow stored stored) hself _).trans (if_pos rfl)
    · refine reloading_other ?_ hne Iff.rfl
      have hrow := (@find_writeRestoreFailed _ (failedRow stored stored) hself other).trans
        (if_neg hne)
      simpa only [view, hrow, hfailed, if_neg hne, activeRows_writeRestoreFailed,
        activeRows_writeFailed] using hold
  | prepared rowId candidate supervisor hrevision _ _ hprepare =>
    obtain ⟨hpending, rfl⟩ := prepareActivation_some hprepare
    have hrows := find_writeActivated stored hfind rowId candidate.1.id
      (nextEpoch s.catalog stored.id)
    have hactive := activeRows_writeActivated s.catalog rowId stored stored candidate.1.id
      (nextEpoch s.catalog stored.id)
    by_cases hne : other = stored.id
    · subst hne
      have hself := (hrows stored.id).trans (if_pos rfl)
      have hactiveRevision : (activatedRow stored stored candidate.1.id).activeRevisionId =
          some candidate.1.id := column_of_fresh rfl _
      refine ⟨hold.active, ⟨?_, ?_⟩, fun hmem => absurd hmem hid, fun hmem => by simp at hmem, ?_,
        fun _ hmem => by simp at hmem⟩
      · intro row hrow _
        obtain rfl := Option.some.inj (hrow.symm.trans hself)
        rw [hactiveRevision]
        exact fun h => by cases h
      · intro row hrow _
        obtain rfl := Option.some.inj (hrow.symm.trans hself)
        exact .inl (by simp)
      · intro _
        refine ⟨_, candidate.1.id, Function.update_self _ _ _, _, _, hself, by simp,
          hactiveRevision, (hactive stored.id).trans (if_pos rfl), rfl⟩
    · have hother : Reloading (stored.id :: todo) s.prepared other (view (writeActivated s.catalog
          rowId stored stored candidate.1.id (nextEpoch s.catalog stored.id)) s.supervisor other) := by
        simpa only [view, hrows, if_neg hne, hactive] using hold
      have hmem : other ∈ s.prepared ++ [stored.id] ↔ other ∈ s.prepared := by simp [hne]
      refine reloading_other ?_ hne hmem
      rw [view_setPending _ hne]
      exact hother

theorem restoring_loop {casefold : Str → Str} {starts : UUID → Bool} {rowIds : UUID → UUID}
    {todo : List UUID} {s s' : RestoreState} (hnodup : todo.Nodup) (h : Restoring todo s)
    (hloop : restoreLoop casefold starts rowIds s todo = some s') : Restoring [] s' := by
  induction todo generalizing s with
  | nil =>
    cases hloop
    exact h
  | cons id todo ih =>
    rw [List.nodup_cons] at hnodup
    obtain ⟨t, hone, hrest⟩ := Option.bind_eq_some_iff.mp hloop
    obtain ⟨stored, hfind, rfl, hturn⟩ := restoreOne_turn hone
    exact ih hnodup.2 (restoring_turn h hnodup.1 hfind hturn) hrest

/-- Between two runs of the process: the rows alone. -/
structure Down (w : World) : Prop where
  phase : w.phase = fun _ => .idle
  supervisor : w.supervisor = Supervisor.empty
  regular : ∀ id, (view w.catalog w.supervisor id).Regular

theorem mem_restorable {c : Catalog} {id : UUID} : id ∈ restorable c ↔ ∃ deployment,
    c.deployments.find id = some deployment ∧ deployment.status = .RUNNING ∧
      deployment.activeRevisionId ≠ none := by
  simp only [restorable, List.mem_map, List.mem_filter, decide_eq_true_eq]
  constructor
  · rintro ⟨deployment, ⟨hmem, hrunning⟩, rfl⟩
    exact ⟨deployment, Table.mem_iff_find.mp hmem, hrunning⟩
  · rintro ⟨deployment, hfind, hrunning⟩
    exact ⟨deployment, ⟨Table.find_mem hfind, hrunning⟩, Table.find_key hfind⟩

theorem nodup_restorable (c : Catalog) : (restorable c).Nodup :=
  c.deployments.nodup.sublist (List.filter_sublist.map _)

theorem restoring_start {w : World} (h : Down w) :
    Restoring (restorable w.catalog) ⟨w.catalog, Supervisor.empty, []⟩ := by
  intro id
  refine ⟨rfl, ?_, fun _ => by simp, fun _ => rfl, fun hmem => by simp at hmem, ?_⟩
  · have hregular := h.regular id
    rwa [h.supervisor] at hregular
  · intro hmem _ deployment hfind hrunning
    refine hmem (mem_restorable.mpr ⟨deployment, hfind, hrunning, ?_⟩)
    exact (h.regular id).running deployment hfind hrunning

/-- The invariant of a process whose restore has committed its rows. -/
structure Restored (w : World) (prepared : List UUID) : Prop where
  phase : w.phase = fun _ => .idle
  reloading : ∀ id, Reloading [] prepared id (view w.catalog w.supervisor id)

/-- While the runtime commits: what is still pending is in the list. -/
def Committing (c : Catalog) (s : Supervisor) (prepared : List UUID) : Prop :=
  ∀ id, (view c s id).pending = none ∧ (view c s id).Settled true ∨ id ∈ prepared ∧
    ∃ epoch revisionId, (view c s id).pending = some (.activation 0 epoch revisionId) ∧
      (view c s id).RunsAs revisionId epoch

theorem committing_loop {c : Catalog} {prepared : List UUID} {s s' : Supervisor}
    (h : Committing c s prepared) (hcommit : commitPrepared s prepared = some s') :
    Committing c s' [] := by
  induction prepared generalizing s with
  | nil =>
    cases hcommit
    exact h
  | cons id prepared ih =>
    obtain ⟨t, hone, hrest⟩ := Option.bind_eq_some_iff.mp hcommit
    obtain ⟨epoch, revisionId, hpending, hactive, hnone⟩ := commitActivation_some hone
    refine ih (fun other => ?_) hrest
    by_cases hne : other = id
    · subst hne
      have hruns : (view c s other).RunsAs revisionId epoch := by
        rcases h other with ⟨hsettled, -⟩ | ⟨-, epoch', revisionId', hpending', hruns⟩
        · rw [show (view c s other).pending = s.pending other from rfl, hpending] at hsettled
          cases hsettled
        · cases hpending'.symm.trans hpending
          exact hruns
      refine .inl ⟨by simp [view, hnone], .inl ⟨revisionId, epoch, hruns, ?_⟩⟩
      simp [view, hactive]
    · rw [view_update hactive hnone hne]
      rcases h other with hsettled | ⟨hmem, hpending⟩
      · exact .inl hsettled
      · exact .inr ⟨(List.mem_cons.mp hmem).resolve_left hne, hpending⟩

theorem serving_served {w : World} {prepared : List UUID} {supervisor : Supervisor}
    (h : Restored w prepared) (hcommit : commitPrepared w.supervisor prepared = some supervisor) :
    Serving { w with supervisor := supervisor, mode := .serving } := by
  have hstart : Committing w.catalog w.supervisor prepared := by
    intro id
    have hid := h.reloading id
    by_cases hmem : id ∈ prepared
    · exact .inr ⟨hmem, hid.launched hmem⟩
    · exact .inl ⟨hid.waiting hmem, .inr ⟨hid.stopped (by simp) hmem, hid.active⟩⟩
  have hend := committing_loop hstart hcommit
  refine ⟨fun id => ?_, fun id => ?_, fun call => ?_⟩
  · rcases hend id with ⟨hpending, hsettled⟩ | ⟨hmem, -⟩
    · exact .settled hpending hsettled
    · cases hmem
  · exact ⟨(h.reloading id).regular.running, (h.reloading id).regular.active⟩
  · change Owned _ call (w.phase call)
    rw [h.phase]
    exact owned_idle _ call

/-- The invariant of the whole system. -/
def Inv (w : World) : Prop :=
  match w.mode with
  | .serving => Serving w
  | .down => Down w
  | .restored prepared => Restored w prepared

theorem Inv.regular {w : World} (h : Inv w) (id : UUID) :
    (view w.catalog w.supervisor id).Regular := by
  unfold Inv at h
  split at h
  · exact h.regular id
  · exact h.regular id
  · exact (h.reloading id).regular

theorem inv_step {casefold : Str → Str} {w w' : World} {a : Action} (h : Inv w)
    (hsound : Sound w a) (hstep : step casefold w a = some w') : Inv w' := by
  cases step_turn hstep with
  | crashed =>
    exact ⟨rfl, rfl, fun id => ⟨(h.regular id).running, (h.regular id).active⟩⟩
  | restored starts rowIds s hmode hrestore =>
    simp only [Inv, hmode] at h
    exact ⟨h.phase, restoring_loop (nodup_restorable _) (restoring_start h) hrestore⟩
  | served prepared supervisor hmode hcommit =>
    simp only [Inv, hmode] at h
    exact serving_served h hcommit
  | serving a w' hmode heffect =>
    simp only [Inv, hmode] at h
    have hmode' : w'.mode = .serving := by
      cases heffect <;> exact hmode
    simp only [Inv, hmode']
    exact serving_effect h hsound heffect

theorem inv_firstStart (plugins : UUID → Option Plugin)
    (packages : UUID → Option PluginPackageVersion) : Inv (firstStart plugins packages) := by
  refine ⟨fun id => ?_, fun id => ⟨fun _ h => (nomatch h), fun _ h => (nomatch h)⟩,
    fun call => owned_idle _ call⟩
  exact .settled rfl (.inr ⟨fun _ h => (nomatch h), rfl⟩)

theorem agreed_of_settled {w : World}
    (h : ∀ id, (view w.catalog w.supervisor id).Settled true) : Agreed w where
  running := by
    intro id
    rcases h id with ⟨revisionId, epoch, ⟨deployment, -, hfind, hrunning, -⟩, hactive⟩ |
      ⟨hstopped, hactive⟩
    · exact ⟨fun _ => ⟨_, hactive, rfl⟩, fun _ => ⟨deployment, hfind, hrunning⟩⟩
    · constructor
      · rintro ⟨deployment, hfind, hrunning⟩
        exact absurd hrunning (hstopped deployment hfind)
      · rintro ⟨plugin, hplugin, -⟩
        cases hplugin.symm.trans hactive
  launched := by
    intro id plugin hplugin _
    rcases h id with ⟨revisionId, epoch, ⟨deployment, row, hfind, -, hrevision, hrows, hepoch⟩,
      hactive⟩ | ⟨-, hactive⟩
    · cases hplugin.symm.trans hactive
      exact ⟨deployment, row, hfind, hrevision, hrows, hepoch⟩
    · cases hplugin.symm.trans hactive

/-- With no operation in progress nothing is pending. -/
theorem serving_agreed {w : World} (h : Serving w) (hquiet : ∀ call, w.phase call = .idle) :
    Agreed w := by
  refine agreed_of_settled fun id => ?_
  cases h.standing id with
  | settled _ hsettled => exact hsettled
  | activating owner _ _ _ _ _ hphase =>
    rcases hphase with hphase | hphase <;> cases (hquiet owner).symm.trans hphase
  | activated owner _ _ _ hphase => cases (hquiet owner).symm.trans hphase
  | draining owner _ hphase => cases (hquiet owner).symm.trans hphase
  | drained owner _ hphase => cases (hquiet owner).symm.trans hphase

/-- In every run of sound steps the rows and the processes agree whenever no plugin
operation is in progress. -/
theorem runtime_agrees (casefold : Str → Str) (plugins : UUID → Option Plugin)
    (packages : UUID → Option PluginPackageVersion) (as : List Action) (w : World)
    (hsound : Runs.EachStep (step casefold) Sound (firstStart plugins packages) as)
    (hrun : Runs.run (step casefold) (firstStart plugins packages) as = some w)
    (hquiet : Quiet w) : Agreed w := by
  have hinv := Runs.run_invariant_of_each Sound Inv (fun _ _ _ h hs hstep => inv_step h hs hstep)
    (inv_firstStart plugins packages) hsound hrun
  simp only [Inv, hquiet.1] at hinv
  exact serving_agreed hinv hquiet.2

def samplePlugins : UUID → Option Plugin := fun id => if id = 1 then some ⟨1, 1⟩ else none

def samplePackages : UUID → Option PluginPackageVersion := fun id =>
  if id = 1 then some ⟨1, 1, ⟨py "weather", [], []⟩, true⟩ else none

def everywhere : PluginScope where
  workspaceId := none
  botAccountIds := none
  chatroomIds := none
  contactIds := none
  conversationIds := none

def activateSample : List Action :=
  [.createDeployment 2 3 ⟨1, 1, py "weather", ⟨1, everywhere, []⟩⟩, .load 0 2 3, .lock 0 true,
    .started 0, .commit 0 4, .commitRuntime 0]

/-- The process restarts, its plugin does not start, and neither does it for the next
activation of the same revision. -/
def failTwice : List Action :=
  [.crash, .restore (fun _ => false) (fun _ => 5), .serve, .load 0 2 3, .lock 0 true,
    .startFailed 0, .commit 0 6]

def sampleRun (as : List Action) : Option World :=
  Runs.run (step id) (firstStart samplePlugins samplePackages) as

theorem failRun_isSome : (sampleRun (activateSample ++ failTwice)).isSome = true := by
  decide +kernel

def failWorld : World := (sampleRun (activateSample ++ failTwice)).get failRun_isSome

theorem failWorld_quiet : Quiet failWorld := by
  refine ⟨by decide +kernel, fun call => ?_⟩
  cases call with
  | zero => rfl
  | succ n => rfl

instance (w : World) (a : Action) : Decidable (Sound w a) := by
  unfold Sound
  split
  · split
    · exact Runs.optionAllDecidable _ _
    · exact instDecidableTrue
  · split
    · exact Runs.optionAllDecidable _ _
    · exact instDecidableTrue
  · exact instDecidableTrue

/-- The candidate of a second revision does not start, and the process restarts and restores
the first one. -/
def recoverSample : List Action :=
  activateSample ++ [.createRevision 23 2 ⟨1, everywhere, []⟩, .load 0 2 23, .lock 0 true,
    .startFailed 0, .commit 0 24, .crash, .restore (fun _ => true) (fun _ => 25), .serve]

theorem recoverRun_isSome : (sampleRun recoverSample).isSome = true := by decide +kernel

def recoverWorld : World := (sampleRun recoverSample).get recoverRun_isSome

theorem recoverWorld_quiet : Quiet recoverWorld := by
  refine ⟨by decide +kernel, fun call => ?_⟩
  cases call with
  | zero => rfl
  | succ n => rfl

theorem runtime_agrees_restored :
    (recoverWorld.supervisor.active 2).isSome = true ∧ Agreed recoverWorld :=
  ⟨by decide +kernel, runtime_agrees id samplePlugins samplePackages recoverSample recoverWorld
    (by decide +kernel) (Option.some_get _).symm recoverWorld_quiet⟩

/-- The failed candidate makes the deployment RUNNING again, and no process runs it. -/
theorem failed_candidate_breaks_agreement :
    ∃ (as : List Action) (w : World),
      Runs.run (step id) (firstStart samplePlugins samplePackages) as = some w ∧ Quiet w ∧
        (w.catalog.deployments.find 2).map (·.status) = some .RUNNING ∧
        w.supervisor.active 2 = none ∧ ¬ Agreed w := by
  have hstatus : (failWorld.catalog.deployments.find 2).map (·.status) = some .RUNNING := by
    decide +kernel
  have hactive : failWorld.supervisor.active 2 = none := by decide +kernel
  refine ⟨activateSample ++ failTwice, failWorld, (Option.some_get _).symm, failWorld_quiet,
    hstatus, hactive, ?_⟩
  intro hagreed
  obtain ⟨deployment, hfind, hrunning⟩ := Option.map_eq_some_iff.mp hstatus
  obtain ⟨plugin, hplugin, -⟩ := (hagreed.running 2).mp ⟨deployment, hfind, hrunning⟩
  rw [hactive] at hplugin
  cases hplugin

end WechatBot.PluginAgreement
