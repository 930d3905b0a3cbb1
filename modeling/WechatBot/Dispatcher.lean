import WechatBot.Policy
import WechatBot.SubmissionBatch

/-!
# Dispatching one event to its plugins

The loop of `EventDispatcher.dispatch` over the selected routes, in the one
transaction that the worker commits when the loop ends, and rolls back when an
exception leaves it.
-/
namespace WechatBot.Dispatcher

open PyData Records OutboxState OutboxService PluginActions SubmissionBatch
open Policy (AclDecisionView)

inductive PluginEventDispatchStatus where
  | PENDING | SUCCEEDED | DENIED | REJECTED | FAILED_RETRYABLE
  deriving DecidableEq, Repr

structure PluginEventDispatch where
  deploymentId : UUID
  revisionId : UUID
  status : PluginEventDispatchStatus
  attemptCount : Nat
  acceptedActionCount : Nat
  lastErrorType : Option String
  lastAttemptAt : Option Time
  completedAt : Option Time
  deriving DecidableEq, Repr

def terminalPluginDispatchStatuses : List PluginEventDispatchStatus := [.SUCCEEDED, .DENIED, .REJECTED]

/-- A selected route with what the rest of the system answers for it: the policy's
decision, and the plugin's result or the type name of the exception of the call. -/
structure Selected where
  route : PluginRoute
  decision : AclDecisionView
  call : Except String Json
  stamps : Nat → Stamp
  now : Time

/-- An event whose context is resolved, with the routes selected for it. The account was
read in the same transaction, and the routes come from different deployment rows. -/
structure EventDispatch where
  event : NormalizedEvent
  conversation : Str
  addressed : event.conversationId = some conversation
  traceId : UUID
  context : ResolvedContext
  accountExists : UUID → Bool
  accountFound : accountExists context.accountId = true
  sha256 : CanonicalAction → Str
  selected : List Selected
  distinct : (selected.map (·.route.deploymentId)).Nodup

def EventDispatch.origin (d : EventDispatch) (route : PluginRoute) : ReplyOrigin :=
  ⟨d.event, d.traceId, d.context, route⟩

/-- The rows of the session: the outbox, and the event's dispatch records by deployment. -/
structure DispatchState where
  outbox : Outbox
  records : UUID → Option PluginEventDispatch
  retryableFailures : List UUID

def dispatchRecord (records : UUID → Option PluginEventDispatch) (route : PluginRoute) :
    PluginEventDispatch :=
  (records route.deploymentId).getD {
    deploymentId := route.deploymentId
    revisionId := route.revisionId
    status := .PENDING
    attemptCount := 0
    acceptedActionCount := 0
    lastErrorType := none
    lastAttemptAt := none
    completedAt := none }

def DispatchState.saveRecord (s : DispatchState) (deploymentId : UUID)
    (record : PluginEventDispatch) : DispatchState :=
  { s with records := Function.update s.records deploymentId (some record) }

def DispatchState.record (s : DispatchState) (route : PluginRoute) : PluginEventDispatch :=
  dispatchRecord s.records route

/-- The record at the start of an attempt. -/
def attempted (record : PluginEventDispatch) (route : PluginRoute) (now : Time) :
    PluginEventDispatch :=
  { record with
    revisionId := route.revisionId
    attemptCount := record.attemptCount + 1
    lastAttemptAt := some now
    completedAt := none
    lastErrorType := none }

/-- One turn of the loop. -/
def dispatchRoute (d : EventDispatch) (s : DispatchState) (selected : Selected) :
    Except UncaughtError DispatchState :=
  let route := selected.route
  let record := s.record route
  if record.status ∈ terminalPluginDispatchStatuses then .ok s
  else if selected.decision.allowed = false then
    .ok (s.saveRecord route.deploymentId { record with
      revisionId := route.revisionId
      status := .DENIED
      completedAt := some selected.now
      lastErrorType := none })
  else
    let record := attempted record route selected.now
    match selected.call with
    | .error errorType =>
      .ok { s.saveRecord route.deploymentId { record with
          status := .FAILED_RETRYABLE
          lastErrorType := some errorType } with
        retryableFailures := s.retryableFailures ++ [route.deploymentId] }
    | .ok result =>
      match handleResult d.sha256 d.accountExists s.outbox (d.origin route) selected.stamps
          result with
      | .succeeded outbox count =>
        .ok { s.saveRecord route.deploymentId { record with
            status := .SUCCEEDED
            acceptedActionCount := count
            completedAt := some selected.now } with
          outbox := outbox }
      | .rejected outbox _ =>
        .ok { s.saveRecord route.deploymentId { record with
            status := .REJECTED
            completedAt := some selected.now
            lastErrorType := some "InvalidPluginActionError" } with
          outbox := outbox }
      | .raised error => .error error

def dispatchRoutes (d : EventDispatch) : DispatchState → List Selected →
    Except UncaughtError DispatchState
  | s, [] => .ok s
  | s, selected :: rest =>
    match dispatchRoute d s selected with
    | .error error => .error error
    | .ok s' => dispatchRoutes d s' rest

/-- How the transaction of a dispatch ends: committed, with the signal to retry when a
deployment failed, or rolled back by an exception. -/
inductive DispatchEnd where
  | committed (state : DispatchState) (retry : Bool)
  | rolledBack (error : UncaughtError)

def dispatch (d : EventDispatch) (outbox : Outbox) (records : UUID → Option PluginEventDispatch) :
    DispatchEnd :=
  match dispatchRoutes d ⟨outbox, records, []⟩ d.selected with
  | .error error => .rolledBack error
  | .ok s => .committed s (!s.retryableFailures.isEmpty)

/-- The plugin of the route is called in this dispatch and returns the result. -/
def Returns (records : UUID → Option PluginEventDispatch) (selected : Selected) (result : Json) :
    Prop :=
  (dispatchRecord records selected.route).status ∉ terminalPluginDispatchStatuses ∧
    selected.decision.allowed = true ∧ selected.call = .ok result

def EventDispatch.front (d : EventDispatch) (route : PluginRoute) : Str :=
  pairKey route.deploymentId d.event.id

/-- The submissions whose checks have passed are ready for the outbox. -/
theorem ready_of_checked (d : EventDispatch) {route : PluginRoute} {result : Json}
    {actions : List Fields} {submissions : List TextActionSubmission}
    (h : checkedSubmissions (d.origin route) result = .ok (actions, submissions)) :
    submissions.length = actions.length ∧
      Ready d.accountExists (d.front route) submissions := by
  obtain ⟨actions', -, h⟩ := Results.bind_ok.mp h
  obtain ⟨submissions', hsubmissions, h⟩ := Results.bind_ok.mp h
  split at h
  · exact absurd h Results.throw_bind_ne
  · cases h
    obtain ⟨hlength, hmem⟩ := textSubmissions_ok hsubmissions
    refine ⟨hlength, ?_⟩
    intro submission hsubmission
    obtain ⟨position, action, hpassed⟩ := hmem submission hsubmission
    obtain ⟨hchecked, haccount⟩ := checked_of_passed d.addressed hpassed
    exact ⟨hchecked, haccount ▸ d.accountFound⟩

/-- What the handling of one result does to the rows, if it raises nothing. -/
theorem handleResult_effect (d : EventDispatch) (route : PluginRoute) (stamps : Nat → Stamp)
    (result : Json) {t : Outbox} (hunique : UniqueKeys t) :
    (∃ error, handleResult d.sha256 d.accountExists t (d.origin route) stamps result =
        .raised error) ∨
      ∃ t', Extends (d.front route) t t' ∧ UniqueKeys t' ∧
        ((∃ count, handleResult d.sha256 d.accountExists t (d.origin route) stamps result =
            .succeeded t' count) ∨
          ∃ reason, handleResult d.sha256 d.accountExists t (d.origin route) stamps result =
            .rejected t' reason) := by
  have hresulted := handleResult_resulted d.sha256 d.accountExists t (d.origin route) stamps result
  cases hend : handleResult d.sha256 d.accountExists t (d.origin route) stamps result with
  | raised error => exact .inl ⟨error, rfl⟩
  | rejected u reason =>
    rw [hend] at hresulted
    cases hresulted with
    | refused _ hchecked =>
      exact .inr ⟨t, Extends.refl _ t, hunique, .inr ⟨reason, rfl⟩⟩
    | stopped actions submissions _ _ hchecked hsubmit =>
      have hready := (ready_of_checked d hchecked).2
      have hextends := submitTexts_extends d.sha256 hready stamps 0 t
      have hunique' := submitTexts_unique d.sha256 hready stamps 0 hunique
      rw [hsubmit] at hextends hunique'
      exact .inr ⟨u, hextends, hunique', .inr ⟨reason, rfl⟩⟩
  | succeeded u count =>
    rw [hend] at hresulted
    cases hresulted with
    | accepted actions submissions _ hchecked hsubmit =>
      have hready := (ready_of_checked d hchecked).2
      have hextends := submitTexts_extends d.sha256 hready stamps 0 t
      have hunique' := submitTexts_unique d.sha256 hready stamps 0 hunique
      rw [hsubmit] at hextends hunique'
      exact .inr ⟨u, hextends, hunique', .inl ⟨_, rfl⟩⟩

/-- The ways a turn of the loop can end. -/
inductive Turn (d : EventDispatch) (s : DispatchState) (selected : Selected) :
    Except UncaughtError DispatchState → Prop where
  | skipped : (s.record selected.route).status ∈ terminalPluginDispatchStatuses →
      Turn d s selected (.ok s)
  | closed (record : PluginEventDispatch) (retryable : List UUID) :
      (¬ ∃ result, Returns s.records selected result) →
      Turn d s selected (.ok { s.saveRecord selected.route.deploymentId record with
        retryableFailures := retryable })
  | ended (result : Json) (record : PluginEventDispatch) (outbox : Outbox) :
      Returns s.records selected result →
      ((∃ count, handleResult d.sha256 d.accountExists s.outbox (d.origin selected.route)
          selected.stamps result = .succeeded outbox count ∧ record.status = .SUCCEEDED ∧
          record.acceptedActionCount = count) ∨
        (∃ reason, handleResult d.sha256 d.accountExists s.outbox (d.origin selected.route)
          selected.stamps result = .rejected outbox reason ∧ record.status = .REJECTED)) →
      Turn d s selected (.ok { s.saveRecord selected.route.deploymentId record with
        outbox := outbox })
  | raised (result : Json) (error : UncaughtError) : Returns s.records selected result →
      handleResult d.sha256 d.accountExists s.outbox (d.origin selected.route) selected.stamps
        result = .raised error →
      Turn d s selected (.error error)

theorem dispatchRoute_turn (d : EventDispatch) (s : DispatchState) (selected : Selected) :
    Turn d s selected (dispatchRoute d s selected) := by
  unfold dispatchRoute
  by_cases hdone : (s.record selected.route).status ∈ terminalPluginDispatchStatuses
  · simp only [if_pos hdone]
    exact .skipped hdone
  · by_cases hdenied : selected.decision.allowed = false
    · simp only [if_neg hdone, if_pos hdenied]
      refine .closed _ s.retryableFailures ?_
      rintro ⟨result, -, hallowed, -⟩
      rw [hdenied] at hallowed
      cases hallowed
    · simp only [if_neg hdone, if_neg hdenied]
      have hallowed : selected.decision.allowed = true := by simpa using hdenied
      cases hcall : selected.call with
      | error errorType =>
        refine .closed _ _ ?_
        rintro ⟨result, -, -, hok⟩
        rw [hcall] at hok
        cases hok
      | ok result =>
        have hreturns : Returns s.records selected result := ⟨hdone, hallowed, hcall⟩
        cases hend : handleResult d.sha256 d.accountExists s.outbox (d.origin selected.route)
            selected.stamps result with
        | succeeded t' count =>
          simp only [hend]
          exact .ended result _ t' hreturns (.inl ⟨count, hend, rfl, rfl⟩)
        | rejected t' reason =>
          simp only [hend]
          exact .ended result _ t' hreturns (.inr ⟨reason, hend, rfl⟩)
        | raised error =>
          simp only [hend]
          exact .raised result error hreturns hend

/-- A turn leaves the record of every other deployment alone and adds only rows under
its own front. -/
structure TurnFrame (d : EventDispatch) (selected : Selected) (s s' : DispatchState) : Prop where
  records : ∀ deploymentId, deploymentId ≠ selected.route.deploymentId →
    s'.records deploymentId = s.records deploymentId
  outbox : Extends (d.front selected.route) s.outbox s'.outbox
  unique : UniqueKeys s'.outbox

theorem saveRecord_other {s : DispatchState} {deploymentId other : UUID}
    {record : PluginEventDispatch} (hne : other ≠ deploymentId) :
    (s.saveRecord deploymentId record).records other = s.records other :=
  Function.update_of_ne hne _ _

theorem dispatchRoute_frame {d : EventDispatch} {s s' : DispatchState} {selected : Selected}
    (hunique : UniqueKeys s.outbox) (h : dispatchRoute d s selected = .ok s') :
    TurnFrame d selected s s' := by
  have hturn := dispatchRoute_turn d s selected
  rw [h] at hturn
  cases hturn with
  | skipped hdone => exact ⟨fun _ _ => rfl, Extends.refl _ _, hunique⟩
  | closed record retryable hnone =>
    exact ⟨fun _ hne => saveRecord_other hne, Extends.refl _ _, hunique⟩
  | ended result record t' hreturns hend =>
    rcases handleResult_effect d selected.route selected.stamps
        result hunique with ⟨error, hraised⟩ | ⟨u, hextends, hunique', hu⟩
    · rw [hraised] at hend
      rcases hend with ⟨_, hend, -⟩ | ⟨_, hend, -⟩ <;> cases hend
    · have hsame : u = t' := by
        rcases hend with ⟨_, hend, -⟩ | ⟨_, hend, -⟩ <;> rcases hu with ⟨_, hu⟩ | ⟨_, hu⟩ <;>
          rw [hend] at hu <;> cases hu <;> rfl
      subst hsame
      exact ⟨fun _ hne => saveRecord_other hne, hextends, hunique'⟩

theorem dispatchRoutes_cons {d : EventDispatch} {s u : DispatchState} {selected : Selected}
    {rest : List Selected} :
    dispatchRoutes d s (selected :: rest) = .ok u ↔
      ∃ t, dispatchRoute d s selected = .ok t ∧ dispatchRoutes d t rest = .ok u := by
  rw [dispatchRoutes]
  cases dispatchRoute d s selected <;> simp

theorem dispatchRoutes_append {d : EventDispatch} {s u : DispatchState}
    {before after : List Selected} :
    dispatchRoutes d s (before ++ after) = .ok u ↔
      ∃ t, dispatchRoutes d s before = .ok t ∧ dispatchRoutes d t after = .ok u := by
  induction before generalizing s with
  | nil => simp [dispatchRoutes]
  | cons selected before ih =>
    rw [List.cons_append, dispatchRoutes_cons]
    constructor
    · rintro ⟨v, hfirst, hrest⟩
      obtain ⟨t, hbefore, hafter⟩ := ih.mp hrest
      exact ⟨t, dispatchRoutes_cons.mpr ⟨v, hfirst, hbefore⟩, hafter⟩
    · rintro ⟨t, hbefore, hafter⟩
      obtain ⟨v, hfirst, hrest⟩ := dispatchRoutes_cons.mp hbefore
      exact ⟨v, hfirst, ih.mpr ⟨t, hrest, hafter⟩⟩

/-- The turns of other deployments change neither the record of a deployment nor the
rows under its front. -/
theorem dispatchRoutes_frame {d : EventDispatch} {route : PluginRoute} {turns : List Selected}
    (hapart : ∀ selected ∈ turns, selected.route.deploymentId ≠ route.deploymentId)
    {s s' : DispatchState} (hunique : UniqueKeys s.outbox)
    (h : dispatchRoutes d s turns = .ok s') :
    s'.records route.deploymentId = s.records route.deploymentId ∧
      rowsUnder (d.front route) s'.outbox = rowsUnder (d.front route) s.outbox ∧
      UniqueKeys s'.outbox := by
  induction turns generalizing s with
  | nil =>
    cases h
    exact ⟨rfl, rfl, hunique⟩
  | cons selected turns ih =>
    obtain ⟨u, hfirst, hrest⟩ := dispatchRoutes_cons.mp h
    have hne : selected.route.deploymentId ≠ route.deploymentId := hapart selected (by simp)
    have hframe := dispatchRoute_frame hunique hfirst
    obtain ⟨hrecords, hrows, hunique'⟩ :=
      ih (fun other hother => hapart other (by simp [hother])) hframe.unique hrest
    refine ⟨hrecords.trans (hframe.records _ (Ne.symm hne)), hrows.trans ?_, hunique'⟩
    exact hframe.outbox.rowsUnder fun key => pairKey_apart hne key

def DispatchEnd.committedState : DispatchEnd → Option (DispatchState × Bool)
  | .committed state retry => some (state, retry)
  | .rolledBack _ => none

theorem DispatchEnd.eq_committed {e : DispatchEnd} (h : e.committedState.isSome = true) :
    e = .committed (e.committedState.get h).1 (e.committedState.get h).2 := by
  cases e with
  | committed state retry => rfl
  | rolledBack error => cases h

theorem DispatchEnd.eq_rolledBack {e : DispatchEnd} (h : e.committedState.isNone = true) :
    ∃ error, e = .rolledBack error := by
  cases e with
  | committed state retry => cases h
  | rolledBack error => exact ⟨error, rfl⟩

theorem sampleFriend_fits (conversation : Str) (h : some (py "wxid_friend") = some conversation) :
    FitsColumn 255 conversation := by
  rw [← Option.some.inj h]
  exact ⟨by decide, by decide, by decide⟩

def sampleEvent : NormalizedEvent where
  id := 7
  conversationId := some (py "wxid_friend")
  stored := sampleFriend_fits

def sampleContext : ResolvedContext where
  workspaceId := 1
  accountId := 2
  chatroomId := none
  contactId := some 3
  principalId := some 4

def sampleRoute (deploymentId : UUID) : PluginRoute where
  deploymentId := deploymentId
  revisionId := 5
  pluginId := py "demo.echo"
  grants := [py "message.reply.text"]
  command := none
  pluginIdOk := ⟨by decide, by decide, by decide, by decide⟩
  commandOk := by simp

def sampleStamps (deploymentId : UUID) (index : Nat) : Stamp :=
  ⟨deploymentId * 1000 + BitVec.ofNat 128 index, 0⟩

def sampleSelected (deploymentId : UUID) (result : Json) : Selected where
  route := sampleRoute deploymentId
  decision := ⟨.ALLOW, true, "matched highest-specificity ALLOW rule", 1, []⟩
  call := .ok result
  stamps := sampleStamps deploymentId
  now := 0

def replyAction (key text : String) : Json :=
  .obj [(py "type", .str (py "reply.text")), (py "content", .str (py text)),
    (py "action_key", .str (py key))]

def resultOf (actions : List Json) : Json := .obj [(py "actions", .arr actions)]

/-- The dispatch of the sample event to deployments 10 and 11, which return these results. -/
def sampleDispatch (first second : Json) : EventDispatch where
  event := sampleEvent
  conversation := py "wxid_friend"
  addressed := rfl
  traceId := 6
  context := sampleContext
  accountExists := fun id => decide (id = 2)
  accountFound := by decide
  sha256 := fun action => action.targetWxid ++ 10 :: action.payload.text
  selected := [sampleSelected 10 first, sampleSelected 11 second]
  distinct := by simp [sampleSelected, sampleRoute]

end WechatBot.Dispatcher
