import WechatBot.OutboxService
import WechatBot.Results

/-!
# The actions a plugin returns

What `EventDispatcher.dispatch` does with the result of one plugin: the checks of
the result and of each action, and the submission of the replies through the
outbox action sink. The result is whatever JSON value the plugin process wrote.
-/
namespace WechatBot.PluginActions

open PyData Records OutboxState OutboxService
open Tables (Table)

abbrev Fields := List (Str × Json)

/-- A value of a text column of the given size. -/
structure FitsColumn (size : Nat) (s : Str) : Prop where
  encodable : encodable s = true
  storable : storable s = true
  length : s.length ≤ size

structure NormalizedEvent where
  id : UUID
  conversationId : Option Str
  stored : ∀ conversation, conversationId = some conversation → FitsColumn 255 conversation

/-- The parts of `_ResolvedContext` an action is built from. -/
structure ResolvedContext where
  workspaceId : UUID
  accountId : UUID
  chatroomId : Option UUID
  contactId : Option UUID
  principalId : Option UUID
  deriving DecidableEq, Repr

/-- A selected route and the command it was selected for. The bounds are those of the
column `plugin.plugin_id` and of `PluginCommand.name`. -/
structure PluginRoute where
  deploymentId : UUID
  revisionId : UUID
  pluginId : Str
  grants : List Str
  command : Option Str
  pluginIdOk : pluginId ≠ [] ∧ FitsColumn 160 pluginId
  commandOk : ∀ name, command = some name → encodable name = true ∧ name.length ≤ 80

/-- What is the same for every action of one result. -/
structure ReplyOrigin where
  event : NormalizedEvent
  traceId : UUID
  context : ResolvedContext
  route : PluginRoute

structure TextActionSubmission where
  botAccountId : UUID
  traceId : UUID
  idempotencyKey : Str
  targetWxid : Str
  text : Str
  authorizationContext : OutboxAuthorizationContext
  expiresAt : Option Time
  priority : Int
  deriving DecidableEq, Repr

inductive UncaughtError where
  | TypeError | ValidationError | OutboxAccountNotFoundError | DataError
  deriving DecidableEq, Repr

/-- `dispatch` catches the first kind and no other. -/
inductive ActionError where
  | InvalidPluginActionError (reason : String)
  | uncaught (error : UncaughtError)
  deriving DecidableEq, Repr

def maxPluginActions : Nat := 20
def maxReplyTextLength : Nat := 10000

/-- `dict.get` with its default `None`. -/
def fieldOf (fields : Fields) (key : String) : Json := (Json.get fields (py key)).getD .null

def asObject : Json → Option Fields
  | .obj fields => some fields
  | _ => none

def pluginActions (result : Json) : Except ActionError (List Fields) :=
  match result with
  | .obj fields =>
    match (Json.get fields (py "actions")).getD (.arr []) with
    | .arr actions =>
      if maxPluginActions < actions.length then
        .error (.InvalidPluginActionError "plugin returned too many actions")
      else
        match actions.mapM asObject with
        | none => .error (.InvalidPluginActionError "plugin action must be an object")
        | some actions => .ok actions
    | _ => .error (.InvalidPluginActionError "plugin actions must be an array")
  | _ => .error (.InvalidPluginActionError "plugin result must be an object")

def actionType (action : Fields) : Json :=
  if (fieldOf action "action_type").truthy then fieldOf action "action_type"
  else fieldOf action "type"

/-- Lists and dictionaries have no hash, so looking them up in a set raises `TypeError`. -/
def unhashable : Json → Bool
  | .arr _ => true
  | .obj _ => true
  | _ => false

def supportedType : Json → Bool
  | .str s => decide (s = py "message.reply.text" ∨ s = py "reply.text")
  | _ => false

def content (action : Fields) : Json :=
  match fieldOf action "content", fieldOf action "payload" with
  | .null, .obj payload => fieldOf payload "text"
  | value, _ => value

def replyText : Json → Except ActionError Str
  | .str text =>
    if blank text = true then
      .error (.InvalidPluginActionError "reply text must be a non-empty string")
    else if maxReplyTextLength < text.length then
      .error (.InvalidPluginActionError "reply text exceeds the maximum length")
    else .ok text
  | _ => .error (.InvalidPluginActionError "reply text must be a non-empty string")

/-- The default is the position of the action; a key that is present and null is no
default. -/
def actionKey (index : Nat) (action : Fields) : Except ActionError Str :=
  match (Json.get action (py "action_key")).getD (.str (py (toString index))) with
  | .str key =>
    if key = [] ∨ 120 < key.length then .error (.InvalidPluginActionError "action_key is invalid")
    else .ok key
  | _ => .error (.InvalidPluginActionError "action_key is invalid")

/-- `_resource`: the resource type, the resource and the parent plugin. -/
def resource (route : PluginRoute) : AclResourceType × Str × Option Str :=
  match route.command with
  | some name => (.COMMAND, py "command." ++ route.pluginId ++ py "." ++ name, some route.pluginId)
  | none => (.PLUGIN, route.pluginId, none)

/-- `none` when the model `OutboxAuthorizationContext` refuses its arguments. -/
def authorizationContext (context : ResolvedContext) (route : PluginRoute) :
    Option OutboxAuthorizationContext :=
  let (resourceType, resourceId, parentPluginId) := resource route
  if encodable resourceId = true ∧ 1 ≤ resourceId.length ∧ resourceId.length ≤ 255 ∧
      parentPluginId.all (fun parent => encodable parent && decide (parent.length ≤ 255)) = true then
    if h : context.chatroomId.isNone ≠ context.contactId.isNone then
      some {
        workspaceId := context.workspaceId
        deploymentId := route.deploymentId
        deploymentRevisionId := route.revisionId
        actorPrincipalId := context.principalId
        chatroomId := context.chatroomId
        contactId := context.contactId
        resourceType := resourceType
        resourceId := resourceId
        parentPluginId := parentPluginId
        oneConversation := h }
    else none
  else none

/-- What every idempotency key of the event and the deployment begins with. -/
def pairKey (deploymentId eventId : UUID) : Str :=
  py "plugin:" ++ uuidStr deploymentId ++ py ":event:" ++ uuidStr eventId ++ py ":action:"

def textSubmission (origin : ReplyOrigin) (index : Nat) (action : Fields) :
    Except ActionError TextActionSubmission := do
  if unhashable (actionType action) = true then throw (.uncaught .TypeError)
  if supportedType (actionType action) = false then
    throw (.InvalidPluginActionError "unsupported plugin action type")
  let text ← replyText (content action)
  let key ← actionKey index action
  match origin.event.conversationId with
  | none => throw (.InvalidPluginActionError "reply event has no conversation target")
  | some target =>
    match authorizationContext origin.context origin.route with
    | none => throw (.uncaught .ValidationError)
    | some authorization =>
      return {
        botAccountId := origin.context.accountId
        traceId := origin.traceId
        idempotencyKey := pairKey origin.route.deploymentId origin.event.id ++ key
        targetWxid := target
        text := text
        authorizationContext := authorization
        expiresAt := none
        priority := 100 }

/-- The submissions of a list of actions whose first has the given position. -/
def textSubmissions (origin : ReplyOrigin) (index : Nat) :
    List Fields → Except ActionError (List TextActionSubmission)
  | [] => .ok []
  | action :: actions => do
    let submission ← textSubmission origin index action
    let submissions ← textSubmissions origin (index + 1) actions
    return submission :: submissions

/-- The actions of a result and their submissions, when all checks pass and the revision
has the grant. -/
def checkedSubmissions (origin : ReplyOrigin) (result : Json) :
    Except ActionError (List Fields × List TextActionSubmission) := do
  let actions ← pluginActions result
  let submissions ← textSubmissions origin 0 actions
  if submissions ≠ [] ∧ py "message.reply.text" ∉ origin.route.grants then
    throw (.InvalidPluginActionError "deployment revision lacks message.reply.text grant")
  return (actions, submissions)

/-- What `uuid4` and `utc_now` return for one submission. -/
structure Stamp where
  id : UUID
  now : Time

def enqueueRequest (submission : TextActionSubmission) : EnqueueRequest where
  botAccountId := submission.botAccountId
  traceId := submission.traceId
  idempotencyKey := submission.idempotencyKey
  targetWxid := submission.targetWxid
  text := submission.text
  expiresAt := submission.expiresAt
  priority := submission.priority
  atWxids := []
  actionType := "message.reply.text"
  authorizationContext := some submission.authorizationContext

section Sink

variable (sha256 : CanonicalAction → Str) (accountExists : UUID → Bool)

/-- `OutboxTextActionSink.submit_text`. -/
def submitText (t : Outbox) (submission : TextActionSubmission) (stamp : Stamp) :
    Except ActionError Outbox :=
  match enqueueText sha256 accountExists t (enqueueRequest submission) stamp.now stamp.id with
  | .ok (t', _) => .ok t'
  | .error .idempotencyConflict =>
    .error (.InvalidPluginActionError "plugin action idempotency conflict")
  | .error (.valueError _) => .error (.InvalidPluginActionError "plugin reply action is invalid")
  | .error .accountNotFound => .error (.uncaught .OutboxAccountNotFoundError)
  | .error .dataError => .error (.uncaught .DataError)

/-- The submissions one after the other: the outbox, with the rows added before an
error, and the error. -/
def submitTexts (stamps : Nat → Stamp) (index : Nat) (t : Outbox) :
    List TextActionSubmission → Outbox × Option ActionError
  | [] => (t, none)
  | submission :: submissions =>
    match submitText sha256 accountExists t submission (stamps index) with
    | .error error => (t, some error)
    | .ok t' => submitTexts stamps (index + 1) t' submissions

/-- How the handling of one result ends: with the outbox and the count of accepted
actions, with the outbox and the reason, or with an exception that leaves `dispatch`. -/
inductive Acceptance where
  | succeeded (outbox : Outbox) (acceptedActionCount : Nat)
  | rejected (outbox : Outbox) (reason : String)
  | raised (error : UncaughtError)

def refusal (t : Outbox) : ActionError → Acceptance
  | .InvalidPluginActionError reason => .rejected t reason
  | .uncaught error => .raised error

/-- The part of `dispatch` between the return of the plugin and the record's status. -/
def handleResult (t : Outbox) (origin : ReplyOrigin) (stamps : Nat → Stamp) (result : Json) :
    Acceptance :=
  match checkedSubmissions origin result with
  | .error error => refusal t error
  | .ok (actions, submissions) =>
    match submitTexts sha256 accountExists stamps 0 t submissions with
    | (t', some error) => refusal t' error
    | (t', none) => .succeeded t' actions.length

end Sink

/-- The action passes the checks of its own fields. -/
structure WellFormed (index : Nat) (action : Fields) : Prop where
  type : supportedType (actionType action) = true
  text : ∃ text, replyText (content action) = .ok text
  key : ∃ key, actionKey index action = .ok key

theorem replyText_ok {value : Json} {text : Str} (h : replyText value = .ok text) :
    blank text = false ∧ text.length ≤ 10000 := by
  unfold replyText at h
  split at h
  · split at h
    · cases h
    · rename_i hvisible
      split at h
      · cases h
      · rename_i hlength
        cases h
        exact ⟨by simpa using hvisible, by simpa [maxReplyTextLength] using hlength⟩
  · cases h

theorem actionKey_ok {index : Nat} {action : Fields} {key : Str}
    (h : actionKey index action = .ok key) : key.length ≤ 120 := by
  unfold actionKey at h
  split at h
  · split at h
    · cases h
    · rename_i hkey
      cases h
      omega
  · cases h

theorem replyText_error {value : Json} {error : ActionError} (h : replyText value = .error error) :
    ∃ reason, error = .InvalidPluginActionError reason := by
  unfold replyText at h
  split at h
  · split at h
    · cases h
      exact ⟨_, rfl⟩
    · split at h
      · cases h
        exact ⟨_, rfl⟩
      · cases h
  · cases h
    exact ⟨_, rfl⟩

theorem actionKey_error {index : Nat} {action : Fields} {error : ActionError}
    (h : actionKey index action = .error error) :
    ∃ reason, error = .InvalidPluginActionError reason := by
  unfold actionKey at h
  split at h
  · split at h
    · cases h
      exact ⟨_, rfl⟩
    · cases h
  · cases h
    exact ⟨_, rfl⟩

theorem not_supported_of_unhashable {value : Json} (h : unhashable value = true) :
    supportedType value = false := by
  cases value <;> first | rfl | cases h

theorem pluginActions_error {result : Json} {error : ActionError}
    (h : pluginActions result = .error error) :
    ∃ reason, error = .InvalidPluginActionError reason := by
  unfold pluginActions at h
  split at h
  · split at h
    · split at h
      · cases h
        exact ⟨_, rfl⟩
      · split at h
        · cases h
          exact ⟨_, rfl⟩
        · cases h
    · cases h
      exact ⟨_, rfl⟩
  · cases h
    exact ⟨_, rfl⟩

/-- The bounds of a route keep every resource within its limits, so that only the
conversation decides. -/
theorem authorizationContext_isSome_iff (context : ResolvedContext) (route : PluginRoute) :
    (authorizationContext context route).isSome = true ↔
      context.chatroomId.isNone ≠ context.contactId.isNone := by
  have hplugin := route.pluginIdOk
  have hnonempty : 1 ≤ route.pluginId.length := List.length_pos_of_ne_nil hplugin.1
  have hlength := hplugin.2.length
  have hencodable := hplugin.2.encodable
  have hbounds : encodable (resource route).2.1 = true ∧ 1 ≤ (resource route).2.1.length ∧
      (resource route).2.1.length ≤ 255 ∧ (resource route).2.2.all (fun parent =>
        encodable parent && decide (parent.length ≤ 255)) = true := by
    unfold resource
    cases hcommand : route.command with
    | none => exact ⟨hencodable, hnonempty, by simp only; omega, by simp⟩
    | some name =>
      obtain ⟨hname, hnameLength⟩ := route.commandOk name hcommand
      have hlabel : (py "command.").length = 8 := by decide
      have hdot : (py ".").length = 1 := by decide
      have hlabelOk : encodable (py "command.") = true := by decide
      have hdotOk : encodable (py ".") = true := by decide
      refine ⟨?_, ?_, ?_, ?_⟩
      · simp only [encodable, List.all_append] at hencodable hname hlabelOk hdotOk ⊢
        rw [hencodable, hname, hlabelOk, hdotOk]
        rfl
      · simp only [List.length_append]
        omega
      · simp only [List.length_append]
        omega
      · simp only [Option.all_some, hencodable, Bool.true_and, decide_eq_true_eq]
        omega
  unfold authorizationContext
  simp only [if_pos hbounds]
  by_cases hone : context.chatroomId.isNone ≠ context.contactId.isNone
  · simp [hone]
  · simp [hone]

/-- How the checks of one action of an event with a conversation can end. -/
inductive Examined (origin : ReplyOrigin) (index : Nat) (action : Fields) (target : Str) :
    Except ActionError TextActionSubmission → Prop where
  | unhashable : unhashable (actionType action) = true →
      Examined origin index action target (.error (.uncaught .TypeError))
  | refused (reason : String) : unhashable (actionType action) = false →
      ¬ WellFormed index action →
      Examined origin index action target (.error (.InvalidPluginActionError reason))
  | unbound : WellFormed index action → authorizationContext origin.context origin.route = none →
      Examined origin index action target (.error (.uncaught .ValidationError))
  | passed (text key : Str) (authorization : OutboxAuthorizationContext) :
      WellFormed index action → replyText (content action) = .ok text →
      actionKey index action = .ok key →
      authorizationContext origin.context origin.route = some authorization →
      Examined origin index action target (.ok {
        botAccountId := origin.context.accountId
        traceId := origin.traceId
        idempotencyKey := pairKey origin.route.deploymentId origin.event.id ++ key
        targetWxid := target
        text := text
        authorizationContext := authorization
        expiresAt := none
        priority := 100 })

theorem textSubmission_examined {origin : ReplyOrigin} {target : Str}
    (htarget : origin.event.conversationId = some target) (index : Nat) (action : Fields) :
    Examined origin index action target (textSubmission origin index action) := by
  unfold textSubmission
  simp only [bind, Except.bind, pure, Except.pure, throw, throwThe, MonadExceptOf.throw]
  cases hhash : unhashable (actionType action) with
  | true => exact .unhashable hhash
  | false =>
    cases htype : supportedType (actionType action) with
    | false =>
      refine .refused _ hhash ?_
      intro hformed
      rw [hformed.type] at htype
      cases htype
    | true =>
      cases htext : replyText (content action) with
      | error error =>
        obtain ⟨reason, rfl⟩ := replyText_error htext
        refine .refused reason hhash ?_
        rintro ⟨-, ⟨text, hok⟩, -⟩
        rw [htext] at hok
        cases hok
      | ok text =>
        cases hkey : actionKey index action with
        | error error =>
          obtain ⟨reason, rfl⟩ := actionKey_error hkey
          refine .refused reason hhash ?_
          rintro ⟨-, -, ⟨key, hok⟩⟩
          rw [hkey] at hok
          cases hok
        | ok key =>
          have hformed : WellFormed index action := ⟨htype, ⟨text, htext⟩, ⟨key, hkey⟩⟩
          simp only [htarget]
          cases hauthorization : authorizationContext origin.context origin.route with
          | none => exact .unbound hformed hauthorization
          | some authorization => exact .passed text key authorization hformed htext hkey hauthorization

/-- How the handling of a result can end. -/
inductive Resulted (sha256 : CanonicalAction → Str) (accountExists : UUID → Bool) (t : Outbox)
    (origin : ReplyOrigin) (stamps : Nat → Stamp) (result : Json) : Acceptance → Prop where
  | broken (error : UncaughtError) :
      checkedSubmissions origin result = .error (.uncaught error) →
      Resulted sha256 accountExists t origin stamps result (.raised error)
  | refused (reason : String) :
      checkedSubmissions origin result = .error (.InvalidPluginActionError reason) →
      Resulted sha256 accountExists t origin stamps result (.rejected t reason)
  | spilled (actions : List Fields) (submissions : List TextActionSubmission) (t' : Outbox)
      (error : UncaughtError) : checkedSubmissions origin result = .ok (actions, submissions) →
      submitTexts sha256 accountExists stamps 0 t submissions = (t', some (.uncaught error)) →
      Resulted sha256 accountExists t origin stamps result (.raised error)
  | stopped (actions : List Fields) (submissions : List TextActionSubmission) (t' : Outbox)
      (reason : String) : checkedSubmissions origin result = .ok (actions, submissions) →
      submitTexts sha256 accountExists stamps 0 t submissions =
        (t', some (.InvalidPluginActionError reason)) →
      Resulted sha256 accountExists t origin stamps result (.rejected t' reason)
  | accepted (actions : List Fields) (submissions : List TextActionSubmission) (t' : Outbox) :
      checkedSubmissions origin result = .ok (actions, submissions) →
      submitTexts sha256 accountExists stamps 0 t submissions = (t', none) →
      Resulted sha256 accountExists t origin stamps result (.succeeded t' actions.length)

theorem handleResult_resulted (sha256 : CanonicalAction → Str) (accountExists : UUID → Bool)
    (t : Outbox) (origin : ReplyOrigin) (stamps : Nat → Stamp) (result : Json) :
    Resulted sha256 accountExists t origin stamps result
      (handleResult sha256 accountExists t origin stamps result) := by
  unfold handleResult
  cases hchecked : checkedSubmissions origin result with
  | error error =>
    cases error with
    | uncaught error => exact .broken error hchecked
    | InvalidPluginActionError reason => exact .refused reason hchecked
  | ok pair =>
    obtain ⟨actions, submissions⟩ := pair
    rcases hsubmit : submitTexts sha256 accountExists stamps 0 t submissions with ⟨t', error⟩
    simp only [hsubmit]
    cases error with
    | none => exact .accepted actions submissions t' hchecked hsubmit
    | some error =>
      cases error with
      | uncaught error => exact .spilled actions submissions t' error hchecked hsubmit
      | InvalidPluginActionError reason =>
        exact .stopped actions submissions t' reason hchecked hsubmit

/-- A list of actions passes when each action passes at its position. -/
theorem textSubmissions_ok {origin : ReplyOrigin} {index : Nat} {actions : List Fields}
    {submissions : List TextActionSubmission}
    (h : textSubmissions origin index actions = .ok submissions) :
    submissions.length = actions.length ∧ ∀ submission ∈ submissions,
      ∃ position action, textSubmission origin position action = .ok submission := by
  induction actions generalizing index submissions with
  | nil =>
    cases h
    exact ⟨rfl, by simp⟩
  | cons action actions ih =>
    obtain ⟨submission, hfirst, h⟩ := Results.bind_ok.mp h
    obtain ⟨rest, hrest, h⟩ := Results.bind_ok.mp h
    cases h
    obtain ⟨hlength, hmem⟩ := ih hrest
    refine ⟨by simp [hlength], ?_⟩
    intro other hother
    rcases List.mem_cons.mp hother with rfl | hother
    · exact ⟨index, action, hfirst⟩
    · exact hmem other hother

end WechatBot.PluginActions
