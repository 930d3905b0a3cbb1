import WechatBot.Dictionaries
import WechatBot.PyData
import WechatBot.Runs

/-!
# The plugin supervisor and its tasks

`PluginSupervisor` as its tasks run it. A task is suspended at an await, or has none of its
operations in progress. Everything between two awaits is one step; the body of an
`async with self._lock` contains no await, so a step takes the lock and gives it back. An
await may also end with an exception, be it that the task is cancelled or that what it waits
for has failed. Objects are known by numbers; a preparation and the process made for it share
one.
-/
namespace WechatBot.PluginSupervisor

open Dictionaries (Dict)
open PyData (Str)

/-- `asyncio.Event`, with the number of times it has been set. -/
structure Event where
  flag : Bool
  sets : Nat
  deriving DecidableEq, Repr

def Event.clear (e : Event) : Event := { e with flag := false }

def Event.set (e : Event) : Event := ⟨true, if e.flag then e.sets else e.sets + 1⟩

/-- How `wait` begins: `none` when it can return at once. -/
def Event.wait (e : Event) : Option Nat := if e.flag then none else some e.sets

/-- A waiter is woken by the next `set`, whatever follows. -/
def Event.ready (e : Event) : Option Nat → Bool
  | none => true
  | some since => decide (since < e.sets)

structure ActivePlugin where
  process : Nat
  activationEpoch : Int
  inFlight : Int
  accepting : Bool
  drained : Event
  deriving DecidableEq, Repr

structure ActivationPreparation where
  deploymentId : Str
  activationEpoch : Int
  deriving DecidableEq, Repr

structure DeactivationPreparation where
  deploymentId : Str
  active : Option Nat
  deriving DecidableEq, Repr

/-- `attached` says that `_process` is not `None`; `running` is the operating system's view. -/
structure PluginProcess where
  attached : Bool
  running : Bool
  deriving DecidableEq, Repr

/-- The await that a task is suspended at. Up to `listActive` they are the entries of the
lock. -/
inductive Await where
  | idle
  | prepareActivation (deploymentId : Str) (requestedEpoch : Option Int)
  | recheck (preparation : Nat)
  | commitActivation (preparation : Nat)
  | abortActivation (preparation : Nat)
  | prepareDeactivation (deploymentId : Str)
  | commitDeactivation (preparation : Nat)
  | abortDeactivation (preparation : Nat)
  | acquire (deploymentId : Str)
  | release (plugin : Nat) (deploymentId : Str) (completed : Bool)
  | check (plugin : Nat) (deploymentId : Str)
  | listPending
  | listActive
  /-- `create_subprocess_exec` of the candidate -/
  | creating (process : Nat)
  /-- `initialize` and `health` -/
  | probing (process : Nat)
  /-- `stop` before it closes the process: the call of `shutdown`, the entry of the call lock -/
  | stopping (process : Nat)
  /-- `_close_process` has let go of the process and waits for its end -/
  | closing (process : Nat)
  | drained (plugin : Nat) (since : Option Nat)
  | calling (plugin : Nat) (deploymentId : Str)
  /-- `_invalidate` in a call -/
  | invalidating (plugin : Nat) (deploymentId : Str)
  deriving DecidableEq, Repr

/-- What is left to do around the await. -/
inductive Frame where
  | startFailed (preparation : Nat)
  | reraise
  | activateBody
  | activateGuard (preparation : Nat)
  | deactivateBody
  | deactivateGuard (preparation : Nat)
  | abortAll (activations deactivations : List Nat)
  | deactivateAll (deploymentIds : List Str)
  deriving DecidableEq, Repr

structure Task where
  await : Await
  frames : List Frame
  deriving DecidableEq, Repr

/-- What the innermost frame gets; a preparation is the value of `prepare_activation` and
`prepare_deactivation`. -/
inductive Outcome where
  | returned (value : Nat)
  | raised
  deriving DecidableEq, Repr

def unwind : Outcome → List Frame → Task
  | _, [] => ⟨.idle, []⟩
  | _, .startFailed preparation :: frames => ⟨.abortActivation preparation, .reraise :: frames⟩
  | _, .reraise :: frames => unwind .raised frames
  | .returned preparation, .activateBody :: frames =>
    ⟨.commitActivation preparation, .activateGuard preparation :: frames⟩
  | .raised, .activateBody :: frames => unwind .raised frames
  | .returned value, .activateGuard _ :: frames => unwind (.returned value) frames
  | .raised, .activateGuard preparation :: frames =>
    ⟨.abortActivation preparation, .reraise :: frames⟩
  | .returned preparation, .deactivateBody :: frames =>
    ⟨.commitDeactivation preparation, .deactivateGuard preparation :: frames⟩
  | .raised, .deactivateBody :: frames => unwind .raised frames
  | .returned value, .deactivateGuard _ :: frames => unwind (.returned value) frames
  | .raised, .deactivateGuard preparation :: frames =>
    ⟨.abortDeactivation preparation, .reraise :: frames⟩
  | .returned _, .abortAll (preparation :: activations) deactivations :: frames =>
    ⟨.abortActivation preparation, .abortAll activations deactivations :: frames⟩
  | .returned _, .abortAll [] (preparation :: deactivations) :: frames =>
    ⟨.abortDeactivation preparation, .abortAll [] deactivations :: frames⟩
  | .returned _, .abortAll [] [] :: frames => ⟨.listActive, frames⟩
  | .raised, .abortAll _ _ :: frames => unwind .raised frames
  | .returned _, .deactivateAll (deploymentId :: deploymentIds) :: frames =>
    ⟨.prepareDeactivation deploymentId, .deactivateBody :: .deactivateAll deploymentIds :: frames⟩
  | .returned value, .deactivateAll [] :: frames => unwind (.returned value) frames
  | .raised, .deactivateAll _ :: frames => unwind .raised frames

inductive Operation where
  | prepareActivation (deploymentId : Str) (requestedEpoch : Option Int)
  | commitActivation (preparation : Nat)
  | abortActivation (preparation : Nat)
  | activate (deploymentId : Str) (requestedEpoch : Option Int)
  | prepareDeactivation (deploymentId : Str)
  | commitDeactivation (preparation : Nat)
  | abortDeactivation (preparation : Nat)
  | deactivate (deploymentId : Str)
  | call (deploymentId : Str)
  | shutdown
  deriving DecidableEq, Repr

def Operation.task : Operation → Task
  | .prepareActivation deploymentId requestedEpoch => ⟨.prepareActivation deploymentId requestedEpoch, []⟩
  | .commitActivation preparation => ⟨.commitActivation preparation, []⟩
  | .abortActivation preparation => ⟨.abortActivation preparation, []⟩
  | .activate deploymentId requestedEpoch =>
    ⟨.prepareActivation deploymentId requestedEpoch, [.activateBody]⟩
  | .prepareDeactivation deploymentId => ⟨.prepareDeactivation deploymentId, []⟩
  | .commitDeactivation preparation => ⟨.commitDeactivation preparation, []⟩
  | .abortDeactivation preparation => ⟨.abortDeactivation preparation, []⟩
  | .deactivate deploymentId => ⟨.prepareDeactivation deploymentId, [.deactivateBody]⟩
  | .call deploymentId => ⟨.acquire deploymentId, []⟩
  | .shutdown => ⟨.listPending, []⟩

/-- The preparations that the caller holds exist. -/
def Operation.known (next : Nat) : Operation → Bool
  | .commitActivation preparation | .abortActivation preparation
  | .commitDeactivation preparation | .abortDeactivation preparation => decide (preparation < next)
  | _ => true

/-- A commit of an activation and the plugin it has installed. -/
structure Commit where
  deploymentId : Str
  activationEpoch : Int
  plugin : Nat
  deriving DecidableEq, Repr

/-- `committed` and `answered` record the commits and the epochs of the results, the last one
at the end. -/
structure Supervisor where
  active : Dict Str Nat
  lastEpoch : Str → Int
  pendingActivations : Dict Str Nat
  pendingDeactivations : Dict Str Nat
  plugins : Nat → ActivePlugin
  preparations : Nat → ActivationPreparation
  deactivations : Nat → DeactivationPreparation
  processes : Nat → PluginProcess
  next : Nat
  committed : List Commit
  answered : List (Str × Int)

namespace Supervisor

/-- A new supervisor; what no object is allocated for is of no account. -/
def new : Supervisor where
  active := Dict.empty
  lastEpoch _ := 0
  pendingActivations := Dict.empty
  pendingDeactivations := Dict.empty
  plugins _ := ⟨0, 0, 0, true, ⟨true, 0⟩⟩
  preparations _ := ⟨[], 0⟩
  deactivations _ := ⟨[], none⟩
  processes _ := ⟨false, false⟩
  next := 0
  committed := []
  answered := []

def setPlugin (s : Supervisor) (a : Nat) (plugin : ActivePlugin) : Supervisor :=
  { s with plugins := Function.update s.plugins a plugin }

def setProcess (s : Supervisor) (p : Nat) (process : PluginProcess) : Supervisor :=
  { s with processes := Function.update s.processes p process }

def setAccepting (s : Supervisor) (accepting : Bool) : Option Nat → Supervisor
  | some a => s.setPlugin a { s.plugins a with accepting := accepting }
  | none => s

/-- `_reject_pending_transition` passes. -/
def free (s : Supervisor) (deploymentId : Str) : Bool :=
  (s.pendingActivations.get deploymentId).isNone && (s.pendingDeactivations.get deploymentId).isNone

/-- The preparation is the pending one. -/
def pendingActivation (s : Supervisor) (preparation : Nat) : Bool :=
  decide (s.pendingActivations.get (s.preparations preparation).deploymentId = some preparation)

def pendingDeactivation (s : Supervisor) (preparation : Nat) : Bool :=
  decide (s.pendingDeactivations.get (s.deactivations preparation).deploymentId = some preparation)

/-- The body of the lock, as far as it changes the supervisor; so are the definitions that
follow for the other operations. -/
def prepareActivation (s : Supervisor) (deploymentId : Str) (epoch : Int) : Supervisor :=
  { s with
    pendingActivations := s.pendingActivations.set deploymentId s.next
    preparations := Function.update s.preparations s.next ⟨deploymentId, epoch⟩
    processes := Function.update s.processes s.next ⟨false, false⟩
    next := s.next + 1 }

def abortActivation (s : Supervisor) (preparation : Nat) : Supervisor :=
  { s with pendingActivations := s.pendingActivations.pop (s.preparations preparation).deploymentId }

/-- The new `_ActivePlugin`. -/
def install (s : Supervisor) (deploymentId : Str) (preparation : Nat) (epoch : Int) : Supervisor :=
  { s with
    pendingActivations := s.pendingActivations.pop deploymentId
    lastEpoch := Function.update s.lastEpoch deploymentId epoch
    active := s.active.set deploymentId s.next
    plugins := Function.update s.plugins s.next ⟨preparation, epoch, 0, true, ⟨true, 0⟩⟩
    next := s.next + 1
    committed := s.committed ++ [⟨deploymentId, epoch, s.next⟩] }

/-- A candidate is never `None`: it is set before `prepare_activation` is first suspended. -/
def commitActivation (s : Supervisor) (preparation : Nat) : Supervisor :=
  let deploymentId := (s.preparations preparation).deploymentId
  (s.setAccepting false (s.active.get deploymentId)).install deploymentId preparation
    (s.preparations preparation).activationEpoch

def prepareDeactivation (s : Supervisor) (deploymentId : Str) : Supervisor :=
  let stopped := s.setAccepting false (s.active.get deploymentId)
  { stopped with
    pendingDeactivations := s.pendingDeactivations.set deploymentId s.next
    deactivations := Function.update s.deactivations s.next ⟨deploymentId, s.active.get deploymentId⟩
    next := s.next + 1 }

/-- The plugin of the preparation, if it is still the active one. -/
def stillActive (s : Supervisor) (preparation : Nat) : Option Nat :=
  (s.deactivations preparation).active.filter fun a =>
    decide (s.active.get (s.deactivations preparation).deploymentId = some a)

def commitDeactivation (s : Supervisor) (preparation : Nat) : Supervisor :=
  let deploymentId := (s.deactivations preparation).deploymentId
  { s with
    pendingDeactivations := s.pendingDeactivations.pop deploymentId
    active := if (s.stillActive preparation).isSome then s.active.pop deploymentId else s.active }

def abortDeactivation (s : Supervisor) (preparation : Nat) : Supervisor :=
  { s.setAccepting true (s.stillActive preparation) with
    pendingDeactivations := s.pendingDeactivations.pop (s.deactivations preparation).deploymentId }

/-- `_acquire`, once the plugin accepts. -/
def beginCall (s : Supervisor) (a : Nat) : Supervisor :=
  s.setPlugin a { s.plugins a with
    inFlight := (s.plugins a).inFlight + 1
    drained := (s.plugins a).drained.clear }

/-- `_release`. -/
def leave (s : Supervisor) (a : Nat) : Supervisor :=
  s.setPlugin a { s.plugins a with
    inFlight := (s.plugins a).inFlight - 1
    drained := if (s.plugins a).inFlight - 1 = 0 then (s.plugins a).drained.set
      else (s.plugins a).drained }

def answer (s : Supervisor) (deploymentId : Str) (a : Nat) : Supervisor :=
  { s with answered := s.answered ++ [(deploymentId, (s.plugins a).activationEpoch)] }

def detach (s : Supervisor) (p : Nat) : Supervisor :=
  s.setProcess p { s.processes p with attached := false }

end Supervisor

structure World where
  supervisor : Supervisor
  tasks : Nat → Task

def World.new : World := ⟨.new, fun _ => ⟨.idle, []⟩⟩

/-- The supervisor has changed, and the task is at its next await. -/
def World.put (w : World) (s : Supervisor) (t : Nat) (task : Task) : World :=
  ⟨s, Function.update w.tasks t task⟩

/-- What an await on a process ends with; `invalid` is an answer or a failure for which the
process is closed. The entries of the lock do not look at it. -/
inductive Reply where
  | ok
  | failed
  | invalid
  deriving DecidableEq, Repr

/-- Where a task goes that has to drain and stop a plugin. -/
def drain (s : Supervisor) (frames : List Frame) : Option Nat → Task
  | none => unwind (.returned 0) frames
  | some a => ⟨.drained a (s.plugins a).drained.wait, frames⟩

/-- The task runs on to its next await. -/
def resume (w : World) (t : Nat) (reply : Reply) : Option World :=
  let s := w.supervisor
  let frames := (w.tasks t).frames
  match (w.tasks t).await with
  | .idle => none
  | .prepareActivation deploymentId requestedEpoch =>
    let epoch := requestedEpoch.getD (s.lastEpoch deploymentId + 1)
    if s.free deploymentId = false ∨ epoch ≤ s.lastEpoch deploymentId then
      some (w.put s t (unwind .raised frames))
    else
      some (w.put (s.prepareActivation deploymentId epoch) t ⟨.creating s.next, frames⟩)
  | .creating p =>
    if reply = .ok then some (w.put (s.setProcess p ⟨true, true⟩) t ⟨.probing p, frames⟩)
    else some (w.put s t (unwind .raised (.startFailed p :: frames)))
  | .probing p =>
    if reply = .ok then some (w.put s t ⟨.recheck p, frames⟩)
    else some (w.put s t ⟨.stopping p, .startFailed p :: frames⟩)
  | .recheck preparation =>
    if s.pendingActivation preparation then
      some (w.put s t (unwind (.returned preparation) frames))
    else some (w.put s t ⟨.stopping preparation, .reraise :: frames⟩)
  | .stopping p =>
    if (s.processes p).attached then some (w.put (s.detach p) t ⟨.closing p, frames⟩)
    else some (w.put s t (unwind (.returned 0) frames))
  | .closing p =>
    if (s.processes p).running then none else some (w.put s t (unwind (.returned 0) frames))
  | .commitActivation preparation =>
    if s.pendingActivation preparation = false then some (w.put s t (unwind .raised frames))
    else
      let old := s.active.get (s.preparations preparation).deploymentId
      some (w.put (s.commitActivation preparation) t (drain s frames old))
  | .abortActivation preparation =>
    if s.pendingActivation preparation = false then
      some (w.put s t (unwind (.returned 0) frames))
    else some (w.put (s.abortActivation preparation) t ⟨.stopping preparation, frames⟩)
  | .prepareDeactivation deploymentId =>
    if s.free deploymentId = false then some (w.put s t (unwind .raised frames))
    else some (w.put (s.prepareDeactivation deploymentId) t (unwind (.returned s.next) frames))
  | .commitDeactivation preparation =>
    if s.pendingDeactivation preparation = false then some (w.put s t (unwind .raised frames))
    else
      some (w.put (s.commitDeactivation preparation) t
        (drain s frames (s.deactivations preparation).active))
  | .abortDeactivation preparation =>
    if s.pendingDeactivation preparation = false then
      some (w.put s t (unwind (.returned 0) frames))
    else some (w.put (s.abortDeactivation preparation) t (unwind (.returned 0) frames))
  | .drained a since =>
    if (s.plugins a).drained.ready since then
      some (w.put s t ⟨.stopping (s.plugins a).process, frames⟩)
    else none
  | .acquire deploymentId =>
    match s.active.get deploymentId with
    | none => some (w.put s t (unwind .raised frames))
    | some a =>
      if (s.plugins a).accepting then
        some (w.put (s.beginCall a) t ⟨.calling a deploymentId, frames⟩)
      else some (w.put s t (unwind .raised frames))
  | .calling a deploymentId =>
    let p := (s.plugins a).process
    if reply = .invalid ∧ (s.processes p).attached = true then
      some (w.put (s.detach p) t ⟨.invalidating a deploymentId, frames⟩)
    else some (w.put s t ⟨.release a deploymentId (decide (reply = .ok)), frames⟩)
  | .invalidating a deploymentId =>
    if (s.processes (s.plugins a).process).running then none
    else some (w.put s t ⟨.release a deploymentId false, frames⟩)
  | .release a deploymentId completed =>
    some (w.put (s.leave a) t
      (if completed then ⟨.check a deploymentId, frames⟩ else unwind .raised frames))
  | .check a deploymentId =>
    if s.active.get deploymentId = some a then
      some (w.put (s.answer deploymentId a) t (unwind (.returned 0) frames))
    else some (w.put s t (unwind .raised frames))
  | .listPending =>
    some (w.put s t (unwind (.returned 0)
      (.abortAll s.pendingActivations.values s.pendingDeactivations.values :: frames)))
  | .listActive => some (w.put s t (unwind (.returned 0) (.deactivateAll s.active.keys :: frames)))

/-- The await ends with an exception. `start` stops the process it has created, and a call
is released. -/
def thrown : Task → Task
  | ⟨.creating p, frames⟩ => unwind .raised (.startFailed p :: frames)
  | ⟨.probing p, frames⟩ => ⟨.stopping p, .startFailed p :: frames⟩
  | ⟨.calling a deploymentId, frames⟩ => ⟨.release a deploymentId false, frames⟩
  | ⟨.invalidating a deploymentId, frames⟩ => ⟨.release a deploymentId false, frames⟩
  | ⟨_, frames⟩ => unwind .raised frames

inductive Action where
  | start (t : Nat) (operation : Operation)
  | resume (t : Nat) (reply : Reply)
  | throw (t : Nat)
  /-- the operating system's process ends -/
  | exit (p : Nat)
  deriving DecidableEq, Repr

def step (w : World) : Action → Option World
  | .start t operation =>
    if (w.tasks t).await = .idle ∧ operation.known w.supervisor.next = true then
      some (w.put w.supervisor t operation.task)
    else none
  | .resume t reply => resume w t reply
  | .throw t =>
    if (w.tasks t).await = .idle then none else some (w.put w.supervisor t (thrown (w.tasks t)))
  | .exit p =>
    some { w with
      supervisor := w.supervisor.setProcess p { w.supervisor.processes p with running := false } }

/-- The task is resumed so many times, and every await on a process goes well. -/
def resumes (t n : Nat) : List Action := List.replicate n (.resume t .ok)

/-- A whole `activate` of a deployment that has no plugin yet. -/
def activation (t : Nat) (deploymentId : Str) : List Action :=
  .start t (.activate deploymentId none) :: resumes t 5

/-- A whole `call`. -/
def invocation (t : Nat) (deploymentId : Str) : List Action :=
  .start t (.call deploymentId) :: resumes t 4

end WechatBot.PluginSupervisor
