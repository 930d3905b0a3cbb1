import WechatBot.CommandRoutes
import WechatBot.Dispatcher
import WechatBot.InboxWorker
import WechatBot.MembershipEpochs

/-!
# The transaction that dispatches an event

From the normalized event to its plugins: the rows of its conversation are found or
added, the routes are selected, and each selected plugin is asked once the policy has
allowed the request that is built from these rows.
-/
namespace WechatBot.EventTransaction

open PyData Records Policy PluginScope PluginCatalog CommandRoutes PluginActions Dispatcher
open OutboxState OutboxService
open Discovery (ConversationType DrawnIds)
open InboxWorker (InboxStatus)
open MembershipEpochs (ensureMembership)
open Tables (Table)

/-- What `str.partition(":\n")` leaves before the separator, if there is one. -/
def beforeSeparator : Str → Option Str
  | 58 :: 10 :: _ => some []
  | c :: s => (beforeSeparator s).map (c :: ·)
  | [] => none

def groupActor (content : Str) : Option Str :=
  (beforeSeparator content).filter fun actor => (py "wxid_").isPrefixOf actor

def isGroupId (value : Str) : Bool := decide (value ≠ []) && (py "@chatroom").isSuffixOf value

def conversationFields (fromUser toUser : Option Str) (rawContent : Str) (isSelf : Bool) :
    ConversationType × Option Str × Option Str :=
  match (fromUser.filter isGroupId).or (toUser.filter isGroupId) with
  | some groupId =>
    let sender := if fromUser = some groupId then none else fromUser
    (.GROUP, some groupId, (groupActor rawContent).or sender)
  | none => (.PRIVATE, if isSelf then toUser else fromUser, fromUser)

/-- A normalized event; the callback verification is the only one of a SYSTEM
conversation. -/
structure IncomingEvent where
  id : UUID
  botAccountId : Option UUID
  conversationType : ConversationType
  conversationId : Option Str
  actorWxid : Option Str
  isSelf : Bool
  rawContent : Str
  normalized : conversationType = .SYSTEM ∨ ∃ fromUser toUser,
    (conversationType, conversationId, actorWxid) =
      conversationFields fromUser toUser rawContent isSelf
  stored : ∀ conversation, conversationId = some conversation → FitsColumn 255 conversation

namespace IncomingEvent

def conversation (event : IncomingEvent) : Str := event.conversationId.getD []
def actor (event : IncomingEvent) : Str := event.actorWxid.getD []

def messageText (event : IncomingEvent) : Str :=
  let front := event.actor ++ py ":\n"
  if event.conversationType = .GROUP ∧ event.actor ≠ [] ∧ front.isPrefixOf event.rawContent then
    event.rawContent.drop front.length
  else event.rawContent

end IncomingEvent

/-- The rows that a dispatch can add to. -/
structure People where
  chatrooms : Table Chatroom.id
  contacts : Table Contact.id
  principals : Table Principal.id
  memberships : List ChatroomMembership

/-- The committed rows. A deployment is activated with a revision of its own only. -/
structure Database where
  people : People
  accounts : Table BotAccount.id
  connections : Table GeweConnection.id
  policyVersion : UUID → Option Nat
  rules : List AclRule
  catalog : Catalog
  decrypt : Str → Option Str
  ownRevision : ∀ deployment ∈ catalog.deployments.rows, ∀ revisionId revision,
    deployment.activeRevisionId = some revisionId →
      catalog.revisions.find revisionId = some revision → revision.deploymentId = deployment.id

/-- The rows as the policy and the sender look them up. -/
def Database.surroundings (db : Database) : Surroundings where
  botAccount := db.accounts.find
  geweConnection := db.connections.find
  chatroom := db.people.chatrooms.find
  contact := db.people.contacts.find
  memberships := db.people.memberships
  principal := db.people.principals.find
  policyVersion := db.policyVersion
  rules := db.rules
  deployment := db.catalog.deployments.find
  revision := db.catalog.revisions.find
  decrypt := db.decrypt

def Database.withPeople (db : Database) (people : People) : Database := { db with people := people }

/-- The rows of an event's conversation. -/
structure Conversation where
  chatroom : Option Chatroom
  contact : Option Contact
  principal : Option Principal

/-- `_ResolvedContext`. -/
structure RowContext where
  workspaceId : UUID
  account : BotAccount
  chatroom : Option Chatroom
  contact : Option Contact
  principal : Option Principal

def RowContext.ids (context : RowContext) : ResolvedContext where
  workspaceId := context.workspaceId
  accountId := context.account.id
  chatroomId := context.chatroom.map (·.id)
  contactId := context.contact.map (·.id)
  principalId := context.principal.map (·.id)

def RowContext.eventContext (context : RowContext) : EventContext where
  workspaceId := context.workspaceId
  accountId := context.account.id
  chatroom := context.chatroom.map fun row => (row.id, row.chatroomId)
  contact := context.contact.map fun row => (row.id, row.externalId)

/-- The chatroom of the account with the identifier, added when there is none; `none` when
the INSERT fails. -/
def findOrAddChatroom (people : People) (accountId : UUID) (chatroomId : Str) (id : UUID) :
    Option (People × Chatroom) :=
  match people.chatrooms.rows.find? fun row =>
      decide (row.botAccountId = accountId ∧ row.chatroomId = chatroomId) with
  | some row => some (people, row)
  | none =>
    let row : Chatroom := ⟨id, accountId, chatroomId⟩
    (people.chatrooms.insert row).map fun chatrooms => ({ people with chatrooms := chatrooms }, row)

def findOrAddContact (people : People) (accountId : UUID) (externalId : Str) (id : UUID) :
    Option (People × Contact) :=
  match people.contacts.rows.find? fun row =>
      decide (row.botAccountId = accountId ∧ row.externalId = externalId) with
  | some row => some (people, row)
  | none =>
    let row : Contact := ⟨id, accountId, externalId, true⟩
    (people.contacts.insert row).map fun contacts => ({ people with contacts := contacts }, row)

def createPrincipal (people : People) (workspaceId : UUID) (principalType : PrincipalType)
    (externalId : Str) (id : UUID) : Option (People × Principal) :=
  match people.principals.rows.find? fun row => decide (row.workspaceId = workspaceId ∧
      row.principalType = principalType ∧ row.externalId = externalId) with
  | some existing =>
    let row := { existing with active := true }
    some ({ people with principals := people.principals.save row }, row)
  | none =>
    let row : Principal := ⟨id, workspaceId, principalType, externalId, true⟩
    (people.principals.insert row).map fun principals =>
      ({ people with principals := principals }, row)

/-- `_ensure_membership` in the transaction that has resolved the chatroom. -/
def ensureMember (db : Database) (people : People) (chatroomId : UUID) (actorWxid : Str)
    (id : UUID) : Option People :=
  (ensureMembership (db.withPeople people).surroundings chatroomId actorWxid id).map
    fun around => { people with memberships := around.memberships }

/-- The group branch of `_resolve_context`. -/
def resolveGroup (db : Database) (event : IncomingEvent) (accountId workspaceId : UUID)
    (ids : DrawnIds) : Option (People × Conversation) := do
  let (people, chatroom) ← findOrAddChatroom db.people accountId event.conversation ids.chatroom
  if event.actor = [] then
    return (people, ⟨some chatroom, none, none⟩)
  let people ← ensureMember db people chatroom.id event.actor ids.membership
  let (people, principal) ← createPrincipal people workspaceId .GROUP_MEMBER event.actor
    ids.principal
  return (people, ⟨some chatroom, none, some principal⟩)

/-- The private branch of `_resolve_context`. -/
def resolvePrivate (db : Database) (event : IncomingEvent) (accountId workspaceId : UUID)
    (ids : DrawnIds) : Option (People × Conversation) := do
  let externalId := if event.actor ≠ [] then event.actor else event.conversation
  let (people, contact) ← findOrAddContact db.people accountId externalId ids.contact
  let (people, principal) ← createPrincipal people workspaceId .CONTACT externalId ids.principal
  return (people, ⟨none, some contact, some principal⟩)

/-- `_resolve_context` after the account and its connection have been found. -/
def resolveContext (db : Database) (event : IncomingEvent) (accountId workspaceId : UUID)
    (ids : DrawnIds) : Option (People × Conversation) :=
  if event.conversationType = .GROUP ∧ event.conversation ≠ [] then
    resolveGroup db event accountId workspaceId ids
  else if event.conversationType = .PRIVATE ∧ event.conversation ≠ [] then
    resolvePrivate db event accountId workspaceId ids
  else some (db.people, ⟨none, none, none⟩)

structure Chosen where
  route : Route
  command : Option PluginCommand
  content : Str

section Selection

variable (casefold : Str → Str) (listens : Route → Bool)

/-- The routes that are called, `none` when several claim the command. `listens` is the
test of the event's type against the events of the manifest. -/
def selectedRoutes (routes : List Route) (messageText : Str) : Option (List Chosen) :=
  match commandRoutes casefold routes messageText with
  | _ :: _ :: _ => none
  | [only] => some [⟨only.route, some only.command, only.arguments⟩]
  | [] =>
    if (parseCommand messageText).isSome then some []
    else some ((routes.filter listens).map fun route => ⟨route, none, messageText⟩)

end Selection

/-- What `PluginManifest` and the column of the plugin's identifier guarantee. -/
structure ManifestOk (chosen : Chosen) : Prop where
  pluginId : chosen.route.manifest.pluginId ≠ [] ∧ FitsColumn 160 chosen.route.manifest.pluginId
  command : ∀ name, chosen.command.map (·.name) = some name → encodable name = true ∧
    name.length ≤ 80

instance (size : Nat) (s : Str) : Decidable (FitsColumn size s) :=
  decidable_of_iff (encodable s = true ∧ storable s = true ∧ s.length ≤ size)
    ⟨fun h => ⟨h.1, h.2.1, h.2.2⟩, fun h => ⟨h.1, h.2, h.3⟩⟩

instance (chosen : Chosen) : Decidable (ManifestOk chosen) :=
  have : Decidable (∀ name, chosen.command.map (·.name) = some name →
      encodable name = true ∧ name.length ≤ 80) := Runs.optionAllDecidable _ _
  decidable_of_iff ((chosen.route.manifest.pluginId ≠ [] ∧
      FitsColumn 160 chosen.route.manifest.pluginId) ∧ ∀ name,
        chosen.command.map (·.name) = some name → encodable name = true ∧ name.length ≤ 80)
    ⟨fun h => ⟨h.1, h.2⟩, fun h => ⟨h.1, h.2⟩⟩

/-- `none` when `PluginManifest.model_validate` raises. -/
def pluginRoute (chosen : Chosen) : Option PluginRoute :=
  if h : ManifestOk chosen then
    some {
      deploymentId := chosen.route.deployment.id
      revisionId := chosen.route.revision.id
      pluginId := chosen.route.manifest.pluginId
      grants := chosen.route.revision.grants
      command := chosen.command.map (·.name)
      pluginIdOk := h.pluginId
      commandOk := h.command }
  else none

/-- The request that `dispatch` evaluates for a route. -/
def aclRequest (context : RowContext) (route : PluginRoute) : AclEvaluationRequest where
  workspaceId := context.workspaceId
  botAccountId := context.account.id
  actorPrincipalId := context.principal.map (·.id)
  chatroomId := context.chatroom.map (·.id)
  contactId := context.contact.map (·.id)
  resourceType := (resource route).1
  resourceId := (resource route).2.1
  parentPluginId := (resource route).2.2

/-- What the clock and the plugin answer for a deployment. -/
structure Answer where
  policyNow : Time
  call : Except String Json
  stamps : Nat → Stamp
  now : Time

inductive DispatchError where
  | IntegrityError
  | ValidationError
  | policy (error : PolicyError)
  | uncaught (error : UncaughtError)
  deriving DecidableEq, Repr

/-- The parts of a dispatch that are the same for every route. -/
structure Resolved where
  sha256 : CanonicalAction → Str
  db : Database
  context : RowContext
  event : IncomingEvent
  conversation : Str
  addressed : event.conversationId = some conversation
  traceId : UUID
  accountFound : (db.accounts.find context.account.id).isSome = true

/-- The dispatch of one selected route. -/
def Resolved.dispatchOf (r : Resolved) (selected : Selected) : EventDispatch where
  event := ⟨r.event.id, r.event.conversationId, r.event.stored⟩
  conversation := r.conversation
  addressed := r.addressed
  traceId := r.traceId
  context := r.context.ids
  accountExists := fun id => (r.db.accounts.find id).isSome
  accountFound := r.accountFound
  sha256 := r.sha256
  selected := [selected]
  distinct := List.nodup_singleton _

/-- One turn of the loop with the evaluation of its request. -/
def dispatchChosen (r : Resolved) (answers : UUID → Answer) (s : DispatchState) (chosen : Chosen) :
    Except DispatchError DispatchState :=
  match pluginRoute chosen with
  | none => .error .ValidationError
  | some route =>
    let answer := answers route.deploymentId
    if (s.record route).status ∈ terminalPluginDispatchStatuses then .ok s
    else
      match evaluate r.db.surroundings (aclRequest r.context route) answer.policyNow with
      | .error error => .error (.policy error)
      | .ok decision =>
        let selected : Selected := ⟨route, decision, answer.call, answer.stamps, answer.now⟩
        (dispatchRoute (r.dispatchOf selected) s selected).mapError .uncaught

def dispatchAll (r : Resolved) (answers : UUID → Answer) (s : DispatchState)
    (chosen : List Chosen) : Except DispatchError DispatchState :=
  chosen.foldlM (dispatchChosen r answers) s

/-- How the transaction ends. The first three are committed without a call of a plugin;
`dispatched` is committed with the rows of the conversation, `raised` is rolled back. -/
inductive Outcome where
  | ignored
  | contextUnresolved
  | commandConflict
  | raised (error : DispatchError)
  | dispatched (db : Database) (context : RowContext) (chosen : List Chosen) (state : DispatchState)

/-- The account of the event with the workspace of its connection, as the join finds them. -/
def eventAccount (db : Database) (event : IncomingEvent) :
    Option { found : BotAccount × UUID // (db.accounts.find found.1.id).isSome = true } :=
  match event.botAccountId with
  | none => none
  | some accountId =>
    match haccount : db.accounts.find accountId with
    | none => none
    | some account =>
      (db.connections.find account.geweConnectionId).map fun connection =>
        ⟨(account, connection.workspaceId), by simp [Table.find_key haccount, haccount]⟩

section Dispatch

variable (sha256 : CanonicalAction → Str) (casefold : Str → Str) (listens : Route → Bool)
  (answers : UUID → Answer)

/-- `EventDispatcher.dispatch` after the context is resolved. -/
def dispatchResolved (r : Resolved) (outbox : Outbox) (records : UUID → Option PluginEventDispatch) :
    Outcome :=
  match selectedRoutes casefold listens (pluginRoutes r.db.catalog r.context.eventContext)
      r.event.messageText with
  | none => .commandConflict
  | some chosen =>
    match dispatchAll r answers ⟨outbox, records, []⟩ chosen with
    | .error error => .raised error
    | .ok state => .dispatched r.db r.context chosen state

/-- `EventDispatcher.dispatch`. -/
def dispatchEvent (db : Database) (event : IncomingEvent) (inboxStatus : InboxStatus)
    (traceId : UUID) (ids : DrawnIds) (outbox : Outbox)
    (records : UUID → Option PluginEventDispatch) : Outcome :=
  if event.isSelf = true ∨ inboxStatus = .IGNORED_SELF ∨ inboxStatus = .DISPATCHED ∨
      event.conversationType = .SYSTEM then .ignored
  else
    match eventAccount db event with
    | none => .contextUnresolved
    | some ⟨(account, workspaceId), hfound⟩ =>
      match resolveContext db event account.id workspaceId ids with
      | none => .raised .IntegrityError
      | some (people, rows) =>
        match haddressed : event.conversationId with
        | none => .contextUnresolved
        | some conversation =>
          dispatchResolved casefold listens answers
            ⟨sha256, db.withPeople people,
              ⟨workspaceId, account, rows.chatroom, rows.contact, rows.principal⟩, event,
              conversation, haddressed, traceId, hfound⟩ outbox records

end Dispatch

end WechatBot.EventTransaction
