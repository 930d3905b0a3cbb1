import WechatBot.PluginCatalog
import WechatBot.Runs

/-!
# Plugin operations over two stores

The API calls that activate and deactivate plugins, and the restarts of the process
with their restore. A call prepares the runtime, writes its rows, commits the
database and then commits the runtime; the calls interleave between these points,
held apart by the row locks only. A restart loses the runtime and every open
transaction.
-/
namespace WechatBot.PluginSystem

open PyData Records PluginScope PluginCatalog
open Tables (Table)

abbrev Candidate := PluginDeploymentRevision × PluginPackageVersion

/-- Where a call is. `deployment` is the row as the session loaded it, before it had any
lock; the later SELECT FOR UPDATE returns the same object without loading it again. -/
inductive Phase where
  | idle
  | loaded (deployment : PluginDeployment) (candidate : Candidate)
  | starting (deployment : PluginDeployment) (candidate : Candidate) (epoch : Nat)
  | failing (deployment : PluginDeployment) (candidate : Candidate) (epoch : Nat)
  | prepared (deployment : PluginDeployment) (candidate : Candidate) (epoch : Nat)
  | activated (deploymentId : UUID)
  | draining (deploymentId : UUID)
  | drained (deploymentId : UUID)
  deriving DecidableEq, Repr

inductive Mode where
  | serving
  | down
  | restored (prepared : List UUID)
  deriving DecidableEq, Repr

structure World where
  catalog : Catalog
  supervisor : Supervisor
  mode : Mode
  phase : Nat → Phase
  workspaceLock : UUID → Option Nat
  deploymentLock : UUID → Option Nat

inductive Action where
  | createDeployment (id revisionId : UUID) (request : DeploymentRequest)
  | createRevision (id deploymentId : UUID) (request : RevisionRequest)
  | load (call : Nat) (deploymentId revisionId : UUID)
  | lock (call : Nat) (launchable : Bool)
  | started (call : Nat)
  | startFailed (call : Nat)
  | deactivate (call : Nat) (deploymentId : UUID)
  | commit (call : Nat) (rowId : UUID)
  | commitFails (call : Nat)
  | commitRuntime (call : Nat)
  | crash
  | restore (starts : UUID → Bool) (rowIds : UUID → UUID)
  | serve

def World.to (w : World) (call : Nat) (phase : Phase) : World :=
  { w with phase := Function.update w.phase call phase }

/-- The end of a transaction releases its locks. -/
def World.release (w : World) (call : Nat) : World :=
  { w with
    workspaceLock := fun id => if w.workspaceLock id = some call then none else w.workspaceLock id
    deploymentLock := fun id =>
      if w.deploymentLock id = some call then none else w.deploymentLock id }

/-- The call has locked the workspace and the deployment. -/
def World.locked (w : World) (call : Nat) (deployment : PluginDeployment) : World :=
  { w with
    workspaceLock := Function.update w.workspaceLock deployment.workspaceId (some call)
    deploymentLock := Function.update w.deploymentLock deployment.id (some call) }

/-- The rows and the runtime with no call in progress. -/
def World.stopped (w : World) : World :=
  { w with
    supervisor := Supervisor.empty
    mode := .down
    phase := fun _ => .idle
    workspaceLock := fun _ => none
    deploymentLock := fun _ => none }

def orKeep (w : World) (result : Except CatalogError Catalog) : World :=
  match result with
  | .error _ => w
  | .ok catalog => { w with catalog := catalog }

section Steps

variable (casefold : Str → Str)

def stepLoad (w : World) (call : Nat) (deploymentId revisionId : UUID) : Option World :=
  match w.phase call with
  | .idle =>
    match w.catalog.deployments.find deploymentId with
    | none => some w
    | some deployment =>
      match activatable w.catalog deployment revisionId with
      | none => some w
      | some candidate => some (w.to call (.loaded deployment candidate))
  | _ => none

/-- The locked part of `activate_revision` up to the start of the candidate. `launchable`
is false when `_launch_spec` raises. -/
def stepLock (w : World) (call : Nat) (launchable : Bool) : Option World :=
  match w.phase call with
  | .loaded deployment candidate =>
    if w.workspaceLock deployment.workspaceId ≠ none ∨ w.deploymentLock deployment.id ≠ none then
      none
    else if conflictsWithRunning casefold w.catalog deployment candidate then
      some (w.to call .idle)
    else
      let epoch := nextEpoch w.catalog deployment.id
      match if launchable then
          prepareActivation w.supervisor deployment.id call epoch candidate.1.id else none with
      | some supervisor => some { (w.locked call deployment).to call
          (.starting deployment candidate epoch) with supervisor := supervisor }
      | none => some ((w.locked call deployment).to call (.failing deployment candidate epoch))
  | _ => none

def stepDeactivate (w : World) (call : Nat) (deploymentId : UUID) : Option World :=
  match w.phase call with
  | .idle =>
    match w.catalog.deployments.find deploymentId with
    | none => some w
    | some _ =>
      if w.deploymentLock deploymentId ≠ none then none
      else match prepareDeactivation w.supervisor deploymentId call with
        | none => some w
        | some supervisor => some { w.to call (.draining deploymentId) with
            supervisor := supervisor
            deploymentLock := Function.update w.deploymentLock deploymentId (some call) }
  | _ => none

def stepCommit (w : World) (call : Nat) (rowId : UUID) : Option World :=
  match w.phase call with
  | .failing deployment candidate epoch =>
    (w.catalog.deployments.find deployment.id).map fun stored =>
      { (w.release call).to call .idle with
        catalog := writeFailed w.catalog rowId deployment stored candidate.1.id epoch }
  | .prepared deployment candidate epoch =>
    (w.catalog.deployments.find deployment.id).map fun stored =>
      { (w.release call).to call (.activated deployment.id) with
        catalog := writeActivated w.catalog rowId deployment stored candidate.1.id epoch }
  | .draining deploymentId =>
    (w.catalog.deployments.find deploymentId).map fun stored =>
      { (w.release call).to call (.drained deploymentId) with
        catalog := writeDeactivated w.catalog stored }
  | _ => none

def stepCommitFails (w : World) (call : Nat) : Option World :=
  match w.phase call with
  | .failing _ _ _ => some ((w.release call).to call .idle)
  | .prepared deployment _ _ => some { (w.release call).to call .idle with
      supervisor := abortActivation w.supervisor deployment.id call }
  | .draining deploymentId => some { (w.release call).to call .idle with
      supervisor := abortDeactivation w.supervisor deploymentId call }
  | _ => none

def stepCommitRuntime (w : World) (call : Nat) : Option World :=
  match w.phase call with
  | .activated deploymentId => (commitActivation w.supervisor deploymentId call).map
      fun supervisor => { w.to call .idle with supervisor := supervisor }
  | .drained deploymentId => (commitDeactivation w.supervisor deploymentId call).map
      fun supervisor => { w.to call .idle with supervisor := supervisor }
  | _ => none

def stepStarted (w : World) (call : Nat) : Option World :=
  match w.phase call with
  | .starting deployment candidate epoch =>
    some (w.to call (.prepared deployment candidate epoch))
  | _ => none

def stepStartFailed (w : World) (call : Nat) : Option World :=
  match w.phase call with
  | .starting deployment candidate epoch =>
    some { w.to call (.failing deployment candidate epoch) with
      supervisor := abortActivation w.supervisor deployment.id call }
  | _ => none

def stepServing (w : World) : Action → Option World
  | .createDeployment id revisionId request =>
    some (orKeep w (createDeployment w.catalog id revisionId request))
  | .createRevision id deploymentId request =>
    some (orKeep w (createRevision w.catalog id deploymentId request))
  | .load call deploymentId revisionId => stepLoad w call deploymentId revisionId
  | .lock call launchable => stepLock casefold w call launchable
  | .started call => stepStarted w call
  | .startFailed call => stepStartFailed w call
  | .deactivate call deploymentId => stepDeactivate w call deploymentId
  | .commit call rowId => stepCommit w call rowId
  | .commitFails call => stepCommitFails w call
  | .commitRuntime call => stepCommitRuntime w call
  | _ => none

/-- The process may end at any point. While it is down only the restore runs, whose
transaction may also fail to commit: then nothing has happened. -/
def step (w : World) : Action → Option World
  | .crash => some w.stopped
  | .restore starts rowIds =>
    match w.mode with
    | .down => (restoreActiveDeployments casefold starts rowIds w.catalog).map fun s =>
        { w with catalog := s.catalog, supervisor := s.supervisor, mode := .restored s.prepared }
    | _ => none
  | .serve =>
    match w.mode with
    | .restored prepared => (commitPrepared w.supervisor prepared).map fun supervisor =>
        { w with supervisor := supervisor, mode := .serving }
    | _ => none
  | a =>
    match w.mode with
    | .serving => stepServing casefold w a
    | _ => none

end Steps

/-- A first start: packages are installed and nothing is deployed. -/
def firstStart (plugins : UUID → Option Plugin) (packages : UUID → Option PluginPackageVersion) :
    World where
  catalog := ⟨plugins, packages, Table.empty _, Table.empty _, []⟩
  supervisor := Supervisor.empty
  mode := .serving
  phase := fun _ => .idle
  workspaceLock := fun _ => none
  deploymentLock := fun _ => none

/-- The process serves and no plugin operation is in progress. -/
def Quiet (w : World) : Prop := w.mode = .serving ∧ ∀ call, w.phase call = .idle

/-- An activation works on the row that is stored, and a candidate that has failed does not
belong to a deployment that is FAILED and still has an active revision. -/
def Sound (w : World) : Action → Prop
  | .lock call _ =>
    match w.phase call with
    | .loaded deployment _ => ∀ stored, w.catalog.deployments.find deployment.id = some stored →
        stored.activeRevisionId = deployment.activeRevisionId
    | _ => True
  | .commit call _ =>
    match w.phase call with
    | .failing deployment _ _ => ∀ stored, w.catalog.deployments.find deployment.id = some stored →
        stored.status = .FAILED → stored.activeRevisionId = none
    | _ => True
  | _ => True

end WechatBot.PluginSystem
