import WechatBot.DirtyWrite
import WechatBot.PluginScope
import WechatBot.Tables

/-!
# The plugin catalog

The rows of the plugin tables and what `PluginCatalogService` writes to them, and the
supervisor of the plugin processes, which keeps for each deployment the process that
answers its calls and the transition that is pending.
-/
namespace WechatBot.PluginCatalog

open PyData Records PluginScope DirtyWrite
open Tables (Table)

structure PluginPackageVersion where
  id : UUID
  pluginId : UUID
  manifest : PluginManifest
  available : Bool
  deriving DecidableEq, Repr

structure Plugin where
  id : UUID
  workspaceId : UUID
  deriving DecidableEq, Repr

structure Catalog where
  plugins : UUID → Option Plugin
  packages : UUID → Option PluginPackageVersion
  deployments : Table PluginDeployment.id
  revisions : Table PluginDeploymentRevision.id
  activations : List PluginRevisionActivation

inductive CatalogError where
  | PluginCatalogError (detail : String)
  | PluginObjectNotFoundError (detail : String)
  | PluginActivationError (detail : String)
  | IntegrityError
  deriving DecidableEq, Repr

structure RevisionRequest where
  packageVersionId : UUID
  scope : PluginScope
  grants : List Str
  deriving DecidableEq, Repr

def availablePackage (c : Catalog) (packageVersionId : UUID) : Option PluginPackageVersion :=
  (c.packages packageVersionId).filter (·.available)

/-- `_create_revision`, with the scope as `_validate_scope` has returned it. -/
def addRevision (c : Catalog) (id : UUID) (deployment : PluginDeployment)
    (package : PluginPackageVersion) (request : RevisionRequest) : Except CatalogError Catalog :=
  if request.grants.any (fun grant => !package.manifest.capabilities.contains grant) then
    .error (.PluginCatalogError "deployment grants exceed manifest capabilities")
  else
    let numbers := (c.revisions.rows.filter fun r => decide (r.deploymentId = deployment.id)).map
      (·.revisionNumber)
    match c.revisions.insert {
        id := id
        deploymentId := deployment.id
        packageVersionId := package.id
        revisionNumber := numbers.max?.getD 0 + 1
        scope := request.scope
        grants := request.grants.eraseDups } with
    | none => .error .IntegrityError
    | some revisions => .ok { c with revisions := revisions }

structure DeploymentRequest where
  workspaceId : UUID
  pluginId : UUID
  name : Str
  revision : RevisionRequest
  deriving DecidableEq, Repr

def createDeployment (c : Catalog) (id revisionId : UUID) (request : DeploymentRequest) :
    Except CatalogError Catalog :=
  match (c.plugins request.pluginId).filter fun p => decide (p.workspaceId = request.workspaceId) with
  | none => .error (.PluginObjectNotFoundError "plugin not found in workspace")
  | some plugin =>
    match (availablePackage c request.revision.packageVersionId).filter fun p =>
        decide (p.pluginId = plugin.id) with
    | none => .error (.PluginObjectNotFoundError "available plugin package not found")
    | some package =>
      let named (name : Str) := c.deployments.rows.any fun d =>
        decide (d.workspaceId = request.workspaceId ∧ d.name = name)
      if named request.name then .error (.PluginCatalogError "deployment name already exists")
      else if named (strip request.name) then .error .IntegrityError
      else
        let deployment : PluginDeployment := {
          id := id
          workspaceId := request.workspaceId
          pluginId := plugin.id
          name := strip request.name
          status := .STOPPED
          activeRevisionId := none
          lastError := none }
        match c.deployments.insert deployment with
        | none => .error .IntegrityError
        | some deployments =>
          addRevision { c with deployments := deployments } revisionId deployment package
            request.revision

def createRevision (c : Catalog) (id deploymentId : UUID) (request : RevisionRequest) :
    Except CatalogError Catalog :=
  match c.deployments.find deploymentId with
  | none => .error (.PluginObjectNotFoundError "plugin deployment not found")
  | some deployment =>
    match availablePackage c request.packageVersionId with
    | none => .error (.PluginObjectNotFoundError "available plugin package not found")
    | some package =>
      if package.pluginId ≠ deployment.pluginId then
        .error (.PluginCatalogError "package belongs to a different plugin")
      else addRevision c id deployment package request

/-- The active revision of a deployment with its package, as the joins find them. -/
def activeRevision (c : Catalog) (deployment : PluginDeployment) :
    Option (PluginDeploymentRevision × PluginPackageVersion) := do
  let revisionId ← deployment.activeRevisionId
  let revision ← c.revisions.find revisionId
  let package ← c.packages revision.packageVersionId
  return (revision, package)

/-- The two revisions claim a common command in overlapping scopes. -/
def revisionsConflict (casefold : Str → Str)
    (left right : PluginDeploymentRevision × PluginPackageVersion) : Bool :=
  scopesOverlap left.1.scope right.1.scope &&
    namesMeet casefold left.2.manifest right.2.manifest

/-- `_reject_running_command_conflicts` finds a running deployment to reject for. -/
def conflictsWithRunning (casefold : Str → Str) (c : Catalog) (deployment : PluginDeployment)
    (candidate : PluginDeploymentRevision × PluginPackageVersion) : Bool :=
  c.deployments.rows.any fun running =>
    decide (running.workspaceId = deployment.workspaceId ∧ running.status = .RUNNING ∧
      running.id ≠ deployment.id) &&
      (activeRevision c running).any (revisionsConflict casefold candidate)

def activationEpochs (c : Catalog) (deploymentId : UUID) : List Nat :=
  (c.activations.filter fun a => decide (a.deploymentId = deploymentId)).map (·.activationEpoch)

def nextEpoch (c : Catalog) (deploymentId : UUID) : Nat :=
  (activationEpochs c deploymentId).max?.getD 0 + 1

def activeRows (c : Catalog) (deploymentId : UUID) : List PluginRevisionActivation :=
  c.activations.filter fun a => decide (a.deploymentId = deploymentId ∧ a.status = .ACTIVE)

def stopActive (deploymentId : UUID) (activations : List PluginRevisionActivation) :
    List PluginRevisionActivation :=
  activations.map fun a =>
    if a.deploymentId = deploymentId ∧ a.status = .ACTIVE then { a with status := .STOPPED } else a

/-- The row of the deployment after the session's UPDATE. -/
def writeDeployment (loaded current stored : PluginDeployment) : PluginDeployment where
  id := stored.id
  workspaceId := column loaded.workspaceId current.workspaceId stored.workspaceId
  pluginId := column loaded.pluginId current.pluginId stored.pluginId
  name := column loaded.name current.name stored.name
  status := column loaded.status current.status stored.status
  activeRevisionId := column loaded.activeRevisionId current.activeRevisionId stored.activeRevisionId
  lastError := column loaded.lastError current.lastError stored.lastError

/-- The session has flushed STARTING before, so the column `status` is always written. -/
def starting (loaded : PluginDeployment) : PluginDeployment := { loaded with status := .STARTING }

def activationRow (id deploymentId revisionId : UUID) (epoch : Nat) (status : PluginActivationStatus) :
    PluginRevisionActivation := ⟨id, deploymentId, revisionId, epoch, status⟩

/-- The rows of a candidate that has started, over the deployment as the session loaded it. -/
def writeActivated (c : Catalog) (rowId : UUID) (loaded stored : PluginDeployment)
    (revisionId : UUID) (epoch : Nat) : Catalog :=
  let current := { loaded with
    activeRevisionId := some revisionId
    status := .RUNNING
    lastError := none }
  { c with
    deployments := c.deployments.save (writeDeployment (starting loaded) current stored)
    activations := stopActive stored.id c.activations ++
      [activationRow rowId stored.id revisionId epoch .ACTIVE] }

/-- The status `activate_revision` gives a deployment whose candidate has failed. -/
def failedStatus (loaded : PluginDeployment) : PluginDeploymentStatus :=
  if loaded.activeRevisionId = none then .FAILED else .RUNNING

def writeFailed (c : Catalog) (rowId : UUID) (loaded stored : PluginDeployment)
    (revisionId : UUID) (epoch : Nat) : Catalog :=
  let current := { loaded with
    status := failedStatus loaded
    lastError := some (py "candidate activation failed") }
  { c with
    deployments := c.deployments.save (writeDeployment (starting loaded) current stored)
    activations := c.activations ++
      [activationRow rowId stored.id revisionId epoch .FAILED] }

/-- `deactivate` has loaded the row under its lock. -/
def writeDeactivated (c : Catalog) (stored : PluginDeployment) : Catalog :=
  { c with
    deployments := c.deployments.save { stored with activeRevisionId := none, status := .STOPPED }
    activations := stopActive stored.id c.activations }

/-- A running process; `revisionId` is the revision its launch spec was made from. -/
structure ActivePlugin where
  revisionId : UUID
  activationEpoch : Nat
  accepting : Bool
  deriving DecidableEq, Repr

/-- A pending transition and the request that prepared it. -/
inductive Pending where
  | activation (owner : Nat) (epoch : Nat) (revisionId : UUID)
  | deactivation (owner : Nat)
  deriving DecidableEq, Repr

structure Supervisor where
  active : UUID → Option ActivePlugin
  lastEpoch : UUID → Nat
  pending : UUID → Option Pending

def Supervisor.empty : Supervisor := ⟨fun _ => none, fun _ => 0, fun _ => none⟩

def Supervisor.setPending (s : Supervisor) (deploymentId : UUID) (pending : Option Pending) :
    Supervisor :=
  { s with pending := Function.update s.pending deploymentId pending }

/-- `none` is a `PluginRuntimeError`. -/
def prepareActivation (s : Supervisor) (deploymentId : UUID) (owner epoch : Nat) (revisionId : UUID) :
    Option Supervisor :=
  if s.pending deploymentId ≠ none then none
  else if epoch ≤ s.lastEpoch deploymentId then none
  else some (s.setPending deploymentId (some (.activation owner epoch revisionId)))

def abortActivation (s : Supervisor) (deploymentId : UUID) (owner : Nat) : Supervisor :=
  match s.pending deploymentId with
  | some (.activation owner' _ _) =>
    if owner' = owner then s.setPending deploymentId none else s
  | _ => s

def commitActivation (s : Supervisor) (deploymentId : UUID) (owner : Nat) : Option Supervisor :=
  match s.pending deploymentId with
  | some (.activation owner' epoch revisionId) =>
    if owner' = owner then
      some {
        active := Function.update s.active deploymentId (some ⟨revisionId, epoch, true⟩)
        lastEpoch := Function.update s.lastEpoch deploymentId epoch
        pending := Function.update s.pending deploymentId none }
    else none
  | _ => none

/-- The process, if there is one, accepts calls or stops accepting them. -/
def Supervisor.setAccepting (s : Supervisor) (deploymentId : UUID) (accepting : Bool) : Supervisor :=
  { s with
    active := Function.update s.active deploymentId
      ((s.active deploymentId).map fun plugin => { plugin with accepting := accepting }) }

def prepareDeactivation (s : Supervisor) (deploymentId : UUID) (owner : Nat) : Option Supervisor :=
  if s.pending deploymentId ≠ none then none
  else some ((s.setAccepting deploymentId false).setPending deploymentId (some (.deactivation owner)))

def abortDeactivation (s : Supervisor) (deploymentId : UUID) (owner : Nat) : Supervisor :=
  if s.pending deploymentId = some (.deactivation owner) then
    (s.setAccepting deploymentId true).setPending deploymentId none
  else s

/-- The process prepared for the deactivation is still the active one, since nothing
else can be committed for the deployment while its deactivation is pending. -/
def commitDeactivation (s : Supervisor) (deploymentId : UUID) (owner : Nat) : Option Supervisor :=
  if s.pending deploymentId = some (.deactivation owner) then
    some { s.setPending deploymentId none with
      active := Function.update s.active deploymentId none }
  else none

structure RestoreState where
  catalog : Catalog
  supervisor : Supervisor
  prepared : List UUID

def writeRestoreFailed (c : Catalog) (stored : PluginDeployment) : Catalog :=
  { c with deployments := c.deployments.save { stored with
      status := .FAILED
      lastError := some (py "startup activation restore failed") } }

/-- The revision and the package `activate_revision` asks for. -/
def activatable (c : Catalog) (deployment : PluginDeployment) (revisionId : UUID) :
    Option (PluginDeploymentRevision × PluginPackageVersion) := do
  let revision ← (c.revisions.find revisionId).filter fun r => decide (r.deploymentId = deployment.id)
  let package ← availablePackage c revision.packageVersionId
  return (revision, package)

/-- One turn of the loop of `restore_active_deployments`, all in one transaction; `none` is
an exception that ends the startup. `starts` says which candidates start. -/
def restoreOne (casefold : Str → Str) (starts : UUID → Bool) (rowIds : UUID → UUID)
    (s : RestoreState) (deploymentId : UUID) : Option RestoreState := do
  let deployment ← s.catalog.deployments.find deploymentId
  let revisionId ← deployment.activeRevisionId
  let candidate ← activatable s.catalog deployment revisionId
  if conflictsWithRunning casefold s.catalog deployment candidate then
    return { s with catalog := writeRestoreFailed s.catalog deployment }
  else
    let epoch := nextEpoch s.catalog deploymentId
    match if starts deploymentId then
        prepareActivation s.supervisor deploymentId 0 epoch revisionId else none with
    | some supervisor =>
      return {
        catalog := writeActivated s.catalog (rowIds deploymentId) deployment deployment revisionId epoch
        supervisor := supervisor
        prepared := s.prepared ++ [deploymentId] }
    | none =>
      let failed := writeFailed s.catalog (rowIds deploymentId) deployment deployment revisionId epoch
      let stored ← failed.deployments.find deploymentId
      return { s with catalog := writeRestoreFailed failed stored }

def restoreLoop (casefold : Str → Str) (starts : UUID → Bool) (rowIds : UUID → UUID) :
    RestoreState → List UUID → Option RestoreState
  | s, [] => some s
  | s, deploymentId :: rest =>
    (restoreOne casefold starts rowIds s deploymentId).bind fun s' =>
      restoreLoop casefold starts rowIds s' rest

/-- The deployments that were running. -/
def restorable (c : Catalog) : List UUID :=
  (c.deployments.rows.filter fun d =>
    decide (d.status = .RUNNING ∧ d.activeRevisionId ≠ none)).map (·.id)

def restoreActiveDeployments (casefold : Str → Str) (starts : UUID → Bool) (rowIds : UUID → UUID)
    (c : Catalog) : Option RestoreState :=
  restoreLoop casefold starts rowIds ⟨c, Supervisor.empty, []⟩ (restorable c)

/-- The runtime commits after the restore's transaction. -/
def commitPrepared : Supervisor → List UUID → Option Supervisor
  | s, [] => some s
  | s, deploymentId :: rest =>
    (commitActivation s deploymentId 0).bind fun s' => commitPrepared s' rest

end WechatBot.PluginCatalog
