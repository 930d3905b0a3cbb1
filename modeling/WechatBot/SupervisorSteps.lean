import WechatBot.PluginSupervisor

/-!
# What a step of the supervisor does

Every step is one of a few changes of the shared state together with a move of one task.
-/
namespace WechatBot.SupervisorSteps

open Dictionaries (Dict)
open PyData (Str)
open PluginSupervisor

/-- The awaits of a task that has nothing in hand. -/
def plain : Await → Bool
  | .idle | .commitActivation _ | .abortActivation _ | .prepareDeactivation _
  | .commitDeactivation _ | .abortDeactivation _ | .listActive => true
  | _ => false

/-- A task that unwinds has nothing in hand. -/
theorem unwind_plain (frames : List Frame) (outcome : Outcome) :
    plain (unwind outcome frames).await = true := by
  induction frames generalizing outcome with
  | nil => rfl
  | cons frame frames ih =>
    cases frame with
    | startFailed preparation => cases outcome <;> rfl
    | reraise =>
      cases outcome <;> exact ih .raised
    | activateBody =>
      cases outcome with
      | returned value => rfl
      | raised => exact ih .raised
    | activateGuard preparation =>
      cases outcome with
      | returned value => exact ih (.returned value)
      | raised => rfl
    | deactivateBody =>
      cases outcome with
      | returned value => rfl
      | raised => exact ih .raised
    | deactivateGuard preparation =>
      cases outcome with
      | returned value => exact ih (.returned value)
      | raised => rfl
    | abortAll activations deactivations =>
      cases outcome with
      | returned value => cases activations <;> cases deactivations <;> rfl
      | raised => simpa only [unwind] using ih .raised
    | deactivateAll deploymentIds =>
      cases outcome with
      | returned value =>
        cases deploymentIds with
        | nil => exact ih (.returned value)
        | cons deploymentId deploymentIds => rfl
      | raised => simpa only [unwind] using ih .raised

/-- A drain waits for the calls of the old plugin, if there is one. -/
theorem drain_await (s : Supervisor) (frames : List Frame) (old : Option Nat) :
    (∃ a, old = some a ∧ (drain s frames old).await = .drained a (s.plugins a).drained.wait) ∨
      (old = none ∧ plain (drain s frames old).await = true) := by
  cases old with
  | none => exact .inr ⟨rfl, unwind_plain _ _⟩
  | some a => exact .inl ⟨a, rfl, rfl⟩

/-- Nothing is lost when a task leaves the await for a plain one. -/
def Spent (s : Supervisor) : Await → Prop
  | .stopping p => (s.processes p).attached = false
  | .closing p => (s.processes p).running = false
  | .recheck preparation => s.pendingActivation preparation = true
  | .idle | .probing _ | .drained _ _ | .calling _ _ | .invalidating _ _ | .release _ _ _ => False
  | _ => True

/-- What a task does to the supervisor on its way from one await to the next. -/
inductive Change (s : Supervisor) : Await → Supervisor → Await → Prop
  | plain (await await' : Await) (hspent : Spent s await) (hplain : plain await' = true) :
    Change s await s await'
  | probed (p : Nat) : Change s (.probing p) s (.recheck p)
  | unready (p : Nat) : Change s (.probing p) s (.stopping p)
  | outdated (p : Nat) (hpending : s.pendingActivation p = false) :
    Change s (.recheck p) s (.stopping p)
  | drained (a : Nat) (since : Option Nat) (hready : (s.plugins a).drained.ready since = true) :
    Change s (.drained a since) s (.stopping (s.plugins a).process)
  | called (a : Nat) (deploymentId : Str) (completed : Bool) :
    Change s (.calling a deploymentId) s (.release a deploymentId completed)
  | invalidated (a : Nat) (deploymentId : Str)
      (hended : (s.processes (s.plugins a).process).running = false) :
    Change s (.invalidating a deploymentId) s (.release a deploymentId false)
  | prepared (deploymentId : Str) (requestedEpoch : Option Int) (epoch : Int)
      (hfree : s.free deploymentId = true) (hepoch : s.lastEpoch deploymentId < epoch) :
    Change s (.prepareActivation deploymentId requestedEpoch) (s.prepareActivation deploymentId epoch)
      (.creating s.next)
  | created (p : Nat) : Change s (.creating p) (s.setProcess p ⟨true, true⟩) (.probing p)
  | closed (p : Nat) (hattached : (s.processes p).attached = true) :
    Change s (.stopping p) (s.detach p) (.closing p)
  | hungUp (a : Nat) (deploymentId : Str)
      (hattached : (s.processes (s.plugins a).process).attached = true) :
    Change s (.calling a deploymentId) (s.detach (s.plugins a).process) (.invalidating a deploymentId)
  | committed (preparation : Nat) (await' : Await)
      (hpending : s.pendingActivation preparation = true)
      (hawait : (∃ a, s.active.get (s.preparations preparation).deploymentId = some a ∧
          await' = .drained a (s.plugins a).drained.wait) ∨
        (s.active.get (s.preparations preparation).deploymentId = none ∧ SupervisorSteps.plain await' = true)) :
    Change s (.commitActivation preparation) (s.commitActivation preparation) await'
  | aborted (preparation : Nat) (hpending : s.pendingActivation preparation = true) :
    Change s (.abortActivation preparation) (s.abortActivation preparation) (.stopping preparation)
  | preparedDown (deploymentId : Str) (await' : Await) (hfree : s.free deploymentId = true)
      (hplain : SupervisorSteps.plain await' = true) :
    Change s (.prepareDeactivation deploymentId) (s.prepareDeactivation deploymentId) await'
  | removed (preparation : Nat) (await' : Await)
      (hpending : s.pendingDeactivation preparation = true)
      (hawait : (∃ a, (s.deactivations preparation).active = some a ∧
          await' = .drained a (s.plugins a).drained.wait) ∨
        ((s.deactivations preparation).active = none ∧ SupervisorSteps.plain await' = true)) :
    Change s (.commitDeactivation preparation) (s.commitDeactivation preparation) await'
  | reopened (preparation : Nat) (await' : Await)
      (hpending : s.pendingDeactivation preparation = true) (hplain : SupervisorSteps.plain await' = true) :
    Change s (.abortDeactivation preparation) (s.abortDeactivation preparation) await'
  | admitted (a : Nat) (deploymentId : Str) (hactive : s.active.get deploymentId = some a)
      (haccepting : (s.plugins a).accepting = true) :
    Change s (.acquire deploymentId) (s.beginCall a) (.calling a deploymentId)
  | released (a : Nat) (deploymentId : Str) (completed : Bool) (await' : Await)
      (hawait : await' = .check a deploymentId ∨ SupervisorSteps.plain await' = true) :
    Change s (.release a deploymentId completed) (s.leave a) await'
  | answered (a : Nat) (deploymentId : Str) (await' : Await)
      (hactive : s.active.get deploymentId = some a) (hplain : SupervisorSteps.plain await' = true) :
    Change s (.check a deploymentId) (s.answer deploymentId a) await'

inductive Turn (w : World) : Action → World → Prop
  | started (t : Nat) (operation : Operation) (hidle : (w.tasks t).await = .idle)
      (hknown : operation.known w.supervisor.next = true) :
    Turn w (.start t operation) (w.put w.supervisor t operation.task)
  | resumed (t : Nat) (reply : Reply) (s : Supervisor) (task : Task)
      (hchange : Change w.supervisor (w.tasks t).await s task.await) :
    Turn w (.resume t reply) (w.put s t task)
  | threw (t : Nat) (hbusy : (w.tasks t).await ≠ .idle) :
    Turn w (.throw t) (w.put w.supervisor t (thrown (w.tasks t)))
  | exited (p : Nat) :
    Turn w (.exit p) { w with
      supervisor := w.supervisor.setProcess p { w.supervisor.processes p with running := false } }

section Resumed

variable {w w' : World} {t : Nat} {reply : Reply}

/-- A task that only goes on to a plain await. -/
theorem turn_went (hspent : Spent w.supervisor (w.tasks t).await) (outcome : Outcome)
    (frames : List Frame) :
    Turn w (.resume t reply) (w.put w.supervisor t (unwind outcome frames)) :=
  .resumed t reply _ _ (.plain _ _ hspent (unwind_plain frames outcome))

/-- A turn that only changes the supervisor is one of the changes. -/
theorem turn_changed {await : Await} {s : Supervisor} {task : Task}
    (hawait : (w.tasks t).await = await) (hchange : Change w.supervisor await s task.await) :
    Turn w (.resume t reply) (w.put s t task) :=
  .resumed t reply s task (hawait ▸ hchange)

/-- A preparation refuses, or registers its process before it is created. -/
theorem turn_prepareActivation {deploymentId : Str} {requestedEpoch : Option Int}
    (hawait : (w.tasks t).await = .prepareActivation deploymentId requestedEpoch)
    (h : resume w t reply = some w') : Turn w (.resume t reply) w' := by
  simp only [resume, hawait] at h
  split at h
  · cases h
    exact turn_went (by rw [hawait]; trivial) _ _
  · rename_i hpasses
    cases h
    rw [not_or, Bool.not_eq_false, Int.not_le] at hpasses
    exact turn_changed hawait (.prepared deploymentId requestedEpoch _ hpasses.1 hpasses.2)

/-- A process that is created goes to its probe; one that is not goes to its abort. -/
theorem turn_creating {p : Nat} (hawait : (w.tasks t).await = .creating p)
    (h : resume w t reply = some w') : Turn w (.resume t reply) w' := by
  simp only [resume, hawait] at h
  split at h
  · cases h
    exact turn_changed hawait (.created p)
  · cases h
    exact turn_went (by rw [hawait]; trivial) _ _

theorem turn_probing {p : Nat} (hawait : (w.tasks t).await = .probing p)
    (h : resume w t reply = some w') : Turn w (.resume t reply) w' := by
  simp only [resume, hawait] at h
  split at h
  · cases h
    exact turn_changed hawait (.probed p)
  · cases h
    exact turn_changed hawait (.unready p)

theorem turn_recheck {preparation : Nat} (hawait : (w.tasks t).await = .recheck preparation)
    (h : resume w t reply = some w') : Turn w (.resume t reply) w' := by
  simp only [resume, hawait] at h
  split at h
  · rename_i hpending
    cases h
    exact turn_went (by rw [hawait]; exact hpending) _ _
  · rename_i hpending
    cases h
    exact turn_changed hawait (.outdated preparation (by simpa using hpending))

/-- A stopped process leaves its task free. -/
theorem turn_stopping {p : Nat} (hawait : (w.tasks t).await = .stopping p)
    (h : resume w t reply = some w') : Turn w (.resume t reply) w' := by
  simp only [resume, hawait] at h
  split at h
  · rename_i hattached
    cases h
    exact turn_changed hawait (.closed p hattached)
  · rename_i hdetached
    cases h
    exact turn_went (by rw [hawait]; simpa [Spent] using hdetached) _ _

theorem turn_closing {p : Nat} (hawait : (w.tasks t).await = .closing p)
    (h : resume w t reply = some w') : Turn w (.resume t reply) w' := by
  simp only [resume, hawait] at h
  split at h
  · cases h
  · rename_i hended
    cases h
    exact turn_went (by rw [hawait]; simpa [Spent] using hended) _ _

/-- A commit installs the plugin and drains the old one. -/
theorem turn_commitActivation {preparation : Nat}
    (hawait : (w.tasks t).await = .commitActivation preparation)
    (h : resume w t reply = some w') : Turn w (.resume t reply) w' := by
  simp only [resume, hawait] at h
  split at h
  · cases h
    exact turn_went (by rw [hawait]; trivial) _ _
  · rename_i hpending
    cases h
    exact turn_changed hawait
      (.committed preparation _ (by simpa using hpending) (drain_await _ _ _))

theorem turn_abortActivation {preparation : Nat}
    (hawait : (w.tasks t).await = .abortActivation preparation)
    (h : resume w t reply = some w') : Turn w (.resume t reply) w' := by
  simp only [resume, hawait] at h
  split at h
  · cases h
    exact turn_went (by rw [hawait]; trivial) _ _
  · rename_i hpending
    cases h
    exact turn_changed hawait (.aborted preparation (by simpa using hpending))

theorem turn_prepareDeactivation {deploymentId : Str}
    (hawait : (w.tasks t).await = .prepareDeactivation deploymentId)
    (h : resume w t reply = some w') : Turn w (.resume t reply) w' := by
  simp only [resume, hawait] at h
  split at h
  · cases h
    exact turn_went (by rw [hawait]; trivial) _ _
  · rename_i hfree
    cases h
    exact turn_changed hawait
      (.preparedDown deploymentId _ (by simpa using hfree) (unwind_plain _ _))

/-- A commit takes the plugin out and drains it. -/
theorem turn_commitDeactivation {preparation : Nat}
    (hawait : (w.tasks t).await = .commitDeactivation preparation)
    (h : resume w t reply = some w') : Turn w (.resume t reply) w' := by
  simp only [resume, hawait] at h
  split at h
  · cases h
    exact turn_went (by rw [hawait]; trivial) _ _
  · rename_i hpending
    cases h
    exact turn_changed hawait
      (.removed preparation _ (by simpa using hpending) (drain_await _ _ _))

theorem turn_abortDeactivation {preparation : Nat}
    (hawait : (w.tasks t).await = .abortDeactivation preparation)
    (h : resume w t reply = some w') : Turn w (.resume t reply) w' := by
  simp only [resume, hawait] at h
  split at h
  · cases h
    exact turn_went (by rw [hawait]; trivial) _ _
  · rename_i hpending
    cases h
    exact turn_changed hawait
      (.reopened preparation _ (by simpa using hpending) (unwind_plain _ _))

theorem turn_drained {a : Nat} {since : Option Nat} (hawait : (w.tasks t).await = .drained a since)
    (h : resume w t reply = some w') : Turn w (.resume t reply) w' := by
  simp only [resume, hawait] at h
  split at h
  · rename_i hready
    cases h
    exact turn_changed hawait (.drained a since hready)
  · cases h

theorem turn_acquire {deploymentId : Str} (hawait : (w.tasks t).await = .acquire deploymentId)
    (h : resume w t reply = some w') : Turn w (.resume t reply) w' := by
  simp only [resume, hawait] at h
  split at h
  · cases h
    exact turn_went (by rw [hawait]; trivial) _ _
  · rename_i a hactive
    split at h
    · rename_i haccepting
      cases h
      exact turn_changed hawait (.admitted a deploymentId hactive haccepting)
    · cases h
      exact turn_went (by rw [hawait]; trivial) _ _

/-- A call that ends badly invalidates its plugin. -/
theorem turn_calling {a : Nat} {deploymentId : Str}
    (hawait : (w.tasks t).await = .calling a deploymentId)
    (h : resume w t reply = some w') : Turn w (.resume t reply) w' := by
  simp only [resume, hawait] at h
  split at h
  · rename_i hinvalid
    cases h
    exact turn_changed hawait (.hungUp a deploymentId hinvalid.2)
  · cases h
    exact turn_changed hawait (.called a deploymentId _)

theorem turn_invalidating {a : Nat} {deploymentId : Str}
    (hawait : (w.tasks t).await = .invalidating a deploymentId)
    (h : resume w t reply = some w') : Turn w (.resume t reply) w' := by
  simp only [resume, hawait] at h
  split at h
  · cases h
  · rename_i hended
    cases h
    exact turn_changed hawait (.invalidated a deploymentId (by simpa using hended))

theorem turn_release {a : Nat} {deploymentId : Str} {completed : Bool}
    (hawait : (w.tasks t).await = .release a deploymentId completed)
    (h : resume w t reply = some w') : Turn w (.resume t reply) w' := by
  simp only [resume, hawait] at h
  cases h
  refine turn_changed hawait (.released a deploymentId completed _ ?_)
  cases completed with
  | true => exact .inl rfl
  | false => exact .inr (unwind_plain _ _)

theorem turn_check {a : Nat} {deploymentId : Str}
    (hawait : (w.tasks t).await = .check a deploymentId)
    (h : resume w t reply = some w') : Turn w (.resume t reply) w' := by
  simp only [resume, hawait] at h
  split at h
  · rename_i hactive
    cases h
    exact turn_changed hawait (.answered a deploymentId _ hactive (unwind_plain _ _))
  · cases h
    exact turn_went (by rw [hawait]; trivial) _ _

/-- What a task does when its await is over, await by await. -/
theorem turn_resume (h : resume w t reply = some w') : Turn w (.resume t reply) w' := by
  cases hawait : (w.tasks t).await with
  | idle =>
    simp only [resume, hawait] at h
    cases h
  | prepareActivation deploymentId requestedEpoch => exact turn_prepareActivation hawait h
  | recheck preparation => exact turn_recheck hawait h
  | commitActivation preparation => exact turn_commitActivation hawait h
  | abortActivation preparation => exact turn_abortActivation hawait h
  | prepareDeactivation deploymentId => exact turn_prepareDeactivation hawait h
  | commitDeactivation preparation => exact turn_commitDeactivation hawait h
  | abortDeactivation preparation => exact turn_abortDeactivation hawait h
  | acquire deploymentId => exact turn_acquire hawait h
  | release a deploymentId completed => exact turn_release hawait h
  | check a deploymentId => exact turn_check hawait h
  | listPending =>
    simp only [resume, hawait] at h
    cases h
    exact turn_went (by rw [hawait]; trivial) _ _
  | listActive =>
    simp only [resume, hawait] at h
    cases h
    exact turn_went (by rw [hawait]; trivial) _ _
  | creating p => exact turn_creating hawait h
  | probing p => exact turn_probing hawait h
  | stopping p => exact turn_stopping hawait h
  | closing p => exact turn_closing hawait h
  | drained a since => exact turn_drained hawait h
  | calling a deploymentId => exact turn_calling hawait h
  | invalidating a deploymentId => exact turn_invalidating hawait h

end Resumed

/-- Every step is a turn. -/
theorem turn_of_step {w w' : World} {a : Action} (h : step w a = some w') : Turn w a w' := by
  cases a with
  | start t operation =>
    rw [step] at h
    split at h
    · rename_i hcan
      cases h
      exact .started t operation hcan.1 hcan.2
    · cases h
  | resume t reply => exact turn_resume h
  | throw t =>
    rw [step] at h
    split at h
    · cases h
    · rename_i hbusy
      cases h
      exact .threw t hbusy
  | exit p =>
    cases h
    exact .exited p

/-- Where an exception leads. -/
theorem thrown_await (task : Task) :
    plain (thrown task).await = true ∨
      (∃ p, task.await = .probing p ∧ (thrown task).await = .stopping p) ∨
      ∃ a deploymentId, (task.await = .calling a deploymentId ∨ task.await = .invalidating a deploymentId) ∧
        (thrown task).await = .release a deploymentId false := by
  obtain ⟨await, frames⟩ := task
  cases await with
  | probing p => exact .inr (.inl ⟨p, rfl, rfl⟩)
  | calling a deploymentId => exact .inr (.inr ⟨a, deploymentId, .inl rfl, rfl⟩)
  | invalidating a deploymentId => exact .inr (.inr ⟨a, deploymentId, .inr rfl, rfl⟩)
  | _ => exact .inl (unwind_plain _ _)

end WechatBot.SupervisorSteps
