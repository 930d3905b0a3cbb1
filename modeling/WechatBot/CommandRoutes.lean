import WechatBot.PluginSteps

/-!
# Command words and running deployments

The routes of an event are the running deployments of its workspace whose active
revision has a matching scope. While no two running deployments of a workspace have
conflicting revisions, a command word has at most one route.
-/
namespace WechatBot.CommandRoutes

open PyData Records PluginScope PluginCatalog PluginSystem PluginSteps DirtyWrite
open Tables (Table)

structure Route where
  deployment : PluginDeployment
  revision : PluginDeploymentRevision
  manifest : PluginManifest

structure CommandRoute where
  route : Route
  command : PluginCommand
  arguments : Str

/-- The route of a deployment, if it is running in the context's workspace and its scope
matches; the joins drop a deployment whose plugin, revision or package is missing. -/
def routeOf (c : Catalog) (context : EventContext) (deployment : PluginDeployment) : Option Route :=
  if deployment.workspaceId = context.workspaceId ∧ deployment.status = .RUNNING then do
    let _plugin ← c.plugins deployment.pluginId
    let active ← activeRevision c deployment
    if scopeMatches active.1.scope context then
      some ⟨deployment, active.1, active.2.manifest⟩
    else
      none
  else
    none

def pluginRoutes (c : Catalog) (context : EventContext) : List Route :=
  c.deployments.rows.filterMap (routeOf c context)

section Words

variable (casefold : Str → Str)

def commandRoutes (routes : List Route) (messageText : Str) : List CommandRoute :=
  match parseCommand messageText with
  | none => []
  | some (word, arguments) => routes.filterMap fun route =>
      (commandFor casefold route.manifest word).map fun command => ⟨route, command, arguments⟩

/-- The deployment is routed for the context and declares the word. -/
def Answers (c : Catalog) (context : EventContext) (word : Str) (deployment : PluginDeployment) :
    Prop :=
  deployment.workspaceId = context.workspaceId ∧ deployment.status = .RUNNING ∧
    ∃ active, activeRevision c deployment = some active ∧
      scopeMatches active.1.scope context = true ∧
      casefold word ∈ commandNames casefold active.2.manifest

/-- Every context and every word have at most one deployment that answers, and the branch
for several command routes is never taken. -/
structure Unambiguous (c : Catalog) : Prop where
  word : ∀ context word first second, first ∈ c.deployments.rows → second ∈ c.deployments.rows →
    Answers casefold c context word first → Answers casefold c context word second →
      first = second
  branch : ∀ context messageText,
    (commandRoutes casefold (pluginRoutes c context) messageText).length ≤ 1

/-- Two running deployments of one workspace have no conflicting active revisions. -/
def Apart (c : Catalog) : Prop :=
  ∀ first second left right, c.deployments.find first.id = some first →
    c.deployments.find second.id = some second → first.id ≠ second.id →
    first.workspaceId = second.workspaceId → first.status = .RUNNING → second.status = .RUNNING →
    activeRevision c first = some left → activeRevision c second = some right →
      revisionsConflict casefold left right = false

end Words

theorem routeOf_some {c : Catalog} {context : EventContext} {deployment : PluginDeployment}
    {route : Route} (h : routeOf c context deployment = some route) :
    deployment.workspaceId = context.workspaceId ∧ deployment.status = .RUNNING ∧
      ∃ active, activeRevision c deployment = some active ∧
        scopeMatches active.1.scope context = true ∧ route.manifest = active.2.manifest := by
  unfold routeOf at h
  split at h
  · rename_i hrunning
    obtain ⟨plugin, -, h⟩ := Option.bind_eq_some_iff.mp h
    obtain ⟨active, hactive, h⟩ := Option.bind_eq_some_iff.mp h
    split at h
    · rename_i hscope
      cases h
      exact ⟨hrunning.1, hrunning.2, active, hactive, hscope, rfl⟩
    · cases h
  · cases h

/-- Deployments that answer one word in one context have conflicting revisions. -/
theorem apart_word {casefold : Str → Str} {c : Catalog} (h : Apart casefold c)
    {context : EventContext} {word : Str} {first second : PluginDeployment}
    (hfirst : first ∈ c.deployments.rows) (hsecond : second ∈ c.deployments.rows)
    (hleft : Answers casefold c context word first)
    (hright : Answers casefold c context word second) : first = second := by
  obtain ⟨hworkspace, hrunning, left, hactive, hscope, hname⟩ := hleft
  obtain ⟨hworkspace', hrunning', right, hactive', hscope', hname'⟩ := hright
  rw [Table.mem_iff_find] at hfirst hsecond
  by_contra hne
  have hid : first.id ≠ second.id := by
    intro heq
    rw [heq, hsecond] at hfirst
    exact hne (Option.some.inj hfirst).symm
  have hconflict : revisionsConflict casefold left right = true := by
    rw [revisionsConflict, Bool.and_eq_true]
    exact ⟨overlap_of_matches hscope hscope', namesMeet_of_word hname hname'⟩
  rw [h first second left right hfirst hsecond hid (hworkspace.trans hworkspace'.symm) hrunning
    hrunning' hactive hactive'] at hconflict
  cases hconflict

theorem length_filterMap_le_one {α β : Type*} {l : List α} {f : α → Option β} (hnodup : l.Nodup)
    (hsame : ∀ a ∈ l, ∀ b ∈ l, (f a).isSome → (f b).isSome → a = b) :
    (l.filterMap f).length ≤ 1 := by
  induction l with
  | nil => simp
  | cons a l ih =>
    rw [List.nodup_cons] at hnodup
    have hrest := ih hnodup.2 fun b hb c hc => hsame b (by simp [hb]) c (by simp [hc])
    cases ha : f a with
    | none =>
      rw [List.filterMap_cons_none ha]
      exact hrest
    | some value =>
      have hnil : l.filterMap f = [] := by
        rw [List.filterMap_eq_nil_iff]
        intro b hb
        by_contra hne
        have heq := hsame a (by simp) b (by simp [hb]) (by simp [ha]) (Option.isSome_iff_ne_none.mpr hne)
        exact hnodup.1 (heq ▸ hb)
      rw [List.filterMap_cons_some ha, hnil]
      simp

theorem unambiguous_of_apart {casefold : Str → Str} {c : Catalog} (h : Apart casefold c) :
    Unambiguous casefold c where
  word := fun _ _ _ _ hfirst hsecond hleft hright => apart_word h hfirst hsecond hleft hright
  branch := by
    intro context messageText
    unfold commandRoutes
    cases parseCommand messageText with
    | none => simp
    | some parsed =>
      obtain ⟨word, arguments⟩ := parsed
      simp only [pluginRoutes, List.filterMap_filterMap]
      have hanswers : ∀ deployment, ((routeOf c context deployment).bind fun route =>
          (commandFor casefold route.manifest word).map fun command =>
            (⟨route, command, arguments⟩ : CommandRoute)).isSome →
          Answers casefold c context word deployment := by
        intro deployment hsome
        obtain ⟨found, hfound⟩ := Option.isSome_iff_exists.mp hsome
        obtain ⟨route, hroute, hcommand⟩ := Option.bind_eq_some_iff.mp hfound
        obtain ⟨command, hcommand, -⟩ := Option.map_eq_some_iff.mp hcommand
        obtain ⟨hworkspace, hrunning, active, hactive, hscope, hmanifest⟩ := routeOf_some hroute
        exact ⟨hworkspace, hrunning, active, hactive, hscope,
          hmanifest ▸ mem_commandNames hcommand⟩
      refine length_filterMap_le_one (List.Nodup.of_map _ c.deployments.nodup) ?_
      intro first hfirst second hsecond hleft hright
      exact apart_word h hfirst hsecond (hanswers first hleft) (hanswers second hright)

theorem revisionsConflict_symm {casefold : Str → Str} {left right : Candidate}
    (h : revisionsConflict casefold left right = false) :
    revisionsConflict casefold right left = false := by
  rw [Bool.eq_false_iff] at h ⊢
  intro hconflict
  rw [revisionsConflict, Bool.and_eq_true] at hconflict
  exact h (by rw [revisionsConflict, scopesOverlap_symm hconflict.1, namesMeet_symm hconflict.2]; rfl)

/-- What the check for running deployments has found. -/
theorem conflictsWithRunning_false {casefold : Str → Str} {c : Catalog}
    {deployment : PluginDeployment} {candidate : Candidate} :
    conflictsWithRunning casefold c deployment candidate = false ↔
      ∀ running, c.deployments.find running.id = some running →
        running.workspaceId = deployment.workspaceId → running.status = .RUNNING →
        running.id ≠ deployment.id → ∀ active, activeRevision c running = some active →
          revisionsConflict casefold candidate active = false := by
  simp only [conflictsWithRunning, List.any_eq_false, Table.mem_iff_find, Bool.and_eq_true,
    decide_eq_true_eq, Option.any_eq_true_iff_get, not_and, not_exists, Bool.not_eq_true]
  constructor
  · intro h running hfind hworkspace hstatus hne active hactive
    have hall := h running hfind ⟨hworkspace, hstatus, hne⟩ (by rw [hactive]; rfl)
    simpa [hactive] using hall
  · intro h running hfind hrunning hsome
    exact h running hfind hrunning.1 hrunning.2.1 hrunning.2.2 _ (Option.some_get hsome).symm

/-- The revision and its package are stored. -/
def Known (c : Catalog) (candidate : Candidate) : Prop :=
  c.revisions.find candidate.1.id = some candidate.1 ∧
    c.packages candidate.1.packageVersionId = some candidate.2

/-- Every active revision is stored with its package. -/
def Linked (c : Catalog) : Prop :=
  ∀ deployment, c.deployments.find deployment.id = some deployment →
    deployment.activeRevisionId ≠ none → (activeRevision c deployment).isSome

theorem Known.activeRevision {c : Catalog} {candidate : Candidate} (h : Known c candidate)
    {deployment : PluginDeployment} (hactive : deployment.activeRevisionId = some candidate.1.id) :
    activeRevision c deployment = some candidate := by
  simp [PluginCatalog.activeRevision, hactive, h.1, h.2]

theorem activeRevision_known {c : Catalog} {deployment : PluginDeployment} {candidate : Candidate}
    (h : activeRevision c deployment = some candidate) :
    Known c candidate ∧ deployment.activeRevisionId = some candidate.1.id := by
  simp only [activeRevision, Option.bind_eq_bind, Option.bind_eq_some_iff, Option.pure_def,
    Option.some.injEq] at h
  obtain ⟨revisionId, hactive, revision, hfind, package, hpackage, rfl⟩ := h
  have hid := Table.find_key hfind
  exact ⟨⟨hid ▸ hfind, hpackage⟩, hid ▸ hactive⟩

theorem activeRevision_congr {c c' : Catalog} {first second : PluginDeployment}
    (hrevisions : c'.revisions = c.revisions) (hpackages : c'.packages = c.packages)
    (hactive : second.activeRevisionId = first.activeRevisionId) :
    activeRevision c' second = activeRevision c first := by
  simp only [activeRevision, hrevisions, hpackages, hactive]

/-- One row of the deployments has been written. -/
structure Saved (c c' : Catalog) (stored row : PluginDeployment) : Prop where
  before : c.deployments.find stored.id = some stored
  rows : ∀ id, c'.deployments.find id = if id = stored.id then some row else c.deployments.find id
  workspace : row.workspaceId = stored.workspaceId
  revisions : c'.revisions = c.revisions
  packages : c'.packages = c.packages

section Catalogs

variable {casefold : Str → Str} {c c' : Catalog} {stored row : PluginDeployment}

/-- A row of the written table is the new row, or another one as it was. -/
theorem Saved.cases (h : Saved c c' stored row) {deployment : PluginDeployment} {id : UUID}
    (hfind : c'.deployments.find id = some deployment) :
    id = stored.id ∧ deployment = row ∨ id ≠ stored.id ∧
      c.deployments.find id = some deployment := by
  rw [h.rows] at hfind
  by_cases hid : id = stored.id
  · rw [if_pos hid] at hfind
    exact .inl ⟨hid, (Option.some.inj hfind).symm⟩
  · rw [if_neg hid] at hfind
    exact .inr ⟨hid, hfind⟩

/-- A written row keeps the deployments apart when nothing that runs conflicts with it. -/
theorem apart_saved (h : Apart casefold c) (hs : Saved c c' stored row)
    (hclear : row.status = .RUNNING → ∀ active, activeRevision c row = some active →
      conflictsWithRunning casefold c stored active = false) : Apart casefold c' := by
  have hsame : ∀ deployment, activeRevision c' deployment = activeRevision c deployment :=
    fun deployment => activeRevision_congr hs.revisions hs.packages rfl
  have hnew : ∀ other left right, c.deployments.find other.id = some other →
      other.id ≠ stored.id → row.workspaceId = other.workspaceId → row.status = .RUNNING →
      other.status = .RUNNING → activeRevision c row = some left →
      activeRevision c other = some right → revisionsConflict casefold left right = false := by
    intro other left right hfind hne hworkspace hrunning hother hleft hright
    exact conflictsWithRunning_false.mp (hclear hrunning left hleft) other hfind
      (hworkspace.symm.trans hs.workspace) hother hne right hright
  intro first second left right hfirst hsecond hid hworkspace hrunning hrunning' hleft hright
  rw [hsame] at hleft hright
  rcases hs.cases hfirst with ⟨hid₁, rfl⟩ | ⟨hne₁, hfirst⟩
  · rcases hs.cases hsecond with ⟨hid₂, rfl⟩ | ⟨hne₂, hsecond⟩
    · exact absurd (hid₁.trans hid₂.symm) hid
    · exact hnew second left right hsecond hne₂ hworkspace hrunning hrunning' hleft hright
  · rcases hs.cases hsecond with ⟨hid₂, rfl⟩ | ⟨hne₂, hsecond⟩
    · exact revisionsConflict_symm
        (hnew first right left hfirst hne₁ hworkspace.symm hrunning' hrunning hright hleft)
    · exact h first second left right hfirst hsecond hid hworkspace hrunning hrunning' hleft hright

/-- What runs does not conflict with itself. -/
theorem clear_of_running (h : Apart casefold c)
    (hfind : c.deployments.find stored.id = some stored) (hrunning : stored.status = .RUNNING)
    {active : Candidate} (hactive : activeRevision c stored = some active) :
    conflictsWithRunning casefold c stored active = false := by
  rw [conflictsWithRunning_false]
  intro running hfound hworkspace hstatus hne other hother
  exact h stored running active other hfind hfound (Ne.symm hne) hworkspace.symm hrunning hstatus
    hactive hother

theorem linked_saved (h : Linked c) (hs : Saved c c' stored row)
    (hrow : row.activeRevisionId ≠ none → (activeRevision c row).isSome) : Linked c' := by
  intro deployment hfind hactive
  rw [activeRevision_congr hs.revisions hs.packages (rfl : deployment.activeRevisionId = _)]
  rcases hs.cases hfind with ⟨-, rfl⟩ | ⟨-, hfind⟩
  · exact hrow hactive
  · exact h deployment hfind hactive

/-- The check of a candidate survives a write in another workspace. -/
theorem clear_saved {deployment : PluginDeployment} {candidate : Candidate}
    (h : conflictsWithRunning casefold c deployment candidate = false) (hs : Saved c c' stored row)
    (hapart : row.status = .RUNNING → stored.workspaceId ≠ deployment.workspaceId) :
    conflictsWithRunning casefold c' deployment candidate = false := by
  rw [conflictsWithRunning_false] at h ⊢
  intro running hfind hworkspace hstatus hne active hactive
  rw [activeRevision_congr hs.revisions hs.packages (rfl : running.activeRevisionId = _)] at hactive
  rcases hs.cases hfind with ⟨-, rfl⟩ | ⟨-, hfind⟩
  · exact absurd (hs.workspace.symm.trans hworkspace) (hapart hstatus)
  · exact h running hfind hworkspace hstatus hne active hactive

theorem activeRevision_grown (hgrown : Grown c c') (hlinked : Linked c)
    {deployment : PluginDeployment} (hfind : c.deployments.find deployment.id = some deployment) :
    activeRevision c' deployment = activeRevision c deployment := by
  by_cases hactive : deployment.activeRevisionId = none
  · simp [activeRevision, hactive]
  · obtain ⟨candidate, hcandidate⟩ := Option.isSome_iff_exists.mp (hlinked deployment hfind hactive)
    obtain ⟨hknown, hid⟩ := activeRevision_known hcandidate
    have hknown' : Known c' candidate :=
      ⟨hgrown.revisions _ _ hknown.1, hgrown.packages ▸ hknown.2⟩
    rw [hcandidate, hknown'.activeRevision hid]

theorem Known.grown {candidate : Candidate} (h : Known c candidate) (hgrown : Grown c c') :
    Known c' candidate := ⟨hgrown.revisions _ _ h.1, hgrown.packages ▸ h.2⟩

theorem running_grown (hgrown : Grown c c') {deployment : PluginDeployment} {id : UUID}
    (hfind : c'.deployments.find id = some deployment) (hrunning : deployment.status = .RUNNING) :
    c.deployments.find id = some deployment := by
  rcases hgrown.find_new hfind with hold | ⟨-, hstatus, -⟩
  · exact hold
  · rw [hstatus] at hrunning
    cases hrunning

theorem apart_grown (h : Apart casefold c) (hlinked : Linked c) (hgrown : Grown c c') :
    Apart casefold c' := by
  intro first second left right hfirst hsecond hid hworkspace hrunning hrunning' hleft hright
  have hfirst := running_grown hgrown hfirst hrunning
  have hsecond := running_grown hgrown hsecond hrunning'
  rw [activeRevision_grown hgrown hlinked hfirst] at hleft
  rw [activeRevision_grown hgrown hlinked hsecond] at hright
  exact h first second left right hfirst hsecond hid hworkspace hrunning hrunning' hleft hright

theorem linked_grown (h : Linked c) (hgrown : Grown c c') : Linked c' := by
  intro deployment hfind hactive
  rcases hgrown.find_new hfind with hold | ⟨-, -, hnone⟩
  · rw [activeRevision_grown hgrown h hold]
    exact h deployment hold hactive
  · exact absurd hnone hactive

theorem clear_grown {deployment : PluginDeployment} {candidate : Candidate} (hlinked : Linked c)
    (h : conflictsWithRunning casefold c deployment candidate = false) (hgrown : Grown c c') :
    conflictsWithRunning casefold c' deployment candidate = false := by
  rw [conflictsWithRunning_false] at h ⊢
  intro running hfind hworkspace hstatus hne active hactive
  have hold := running_grown hgrown hfind hstatus
  rw [activeRevision_grown hgrown hlinked hold] at hactive
  exact h running hold hworkspace hstatus hne active hactive

end Catalogs

end WechatBot.CommandRoutes
