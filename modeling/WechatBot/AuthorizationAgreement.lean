import WechatBot.EventTransaction
import WechatBot.SendFence

/-!
# Dispatch and send agree on the authorization

A message that a dispatch enqueues carries the request that its plugin was called for.
While the rows stay as the dispatch has left them, the sender finds the same conversation,
the same revision and the same verdict.
-/
namespace WechatBot.AuthorizationAgreement

open PyData Records Policy PluginScope PluginCatalog CommandRoutes PluginActions Dispatcher
open OutboxState OutboxService Sender SubmissionBatch EventTransaction
open Tables (Table)

/-- In a private conversation the sender of an event is the other side. -/
theorem actor_of_private {event : IncomingEvent} (hself : event.isSelf = false)
    (hprivate : event.conversationType = .PRIVATE) : event.actorWxid = event.conversationId := by
  rcases event.normalized with hsystem | ⟨fromUser, toUser, heq⟩
  · rw [hprivate] at hsystem
    cases hsystem
  · unfold conversationFields at heq
    split at heq
    · rw [hprivate] at heq
      simp at heq
    · rw [hself] at heq
      simp only [Bool.false_eq_true, if_false, Prod.mk.injEq] at heq
      rw [heq.2.1, heq.2.2]

/-- What a dispatch knows of the rows of its conversation. -/
structure Addressed (people : People) (accountId : UUID) (conversation : Str)
    (rows : EventTransaction.Conversation) : Prop where
  chatroom : ∀ chatroom, rows.chatroom = some chatroom →
    people.chatrooms.find chatroom.id = some chatroom ∧ chatroom.botAccountId = accountId ∧
      chatroom.chatroomId = conversation
  contact : ∀ contact, rows.contact = some contact →
    people.contacts.find contact.id = some contact ∧ contact.botAccountId = accountId ∧
      contact.externalId = conversation

/-- The chatroom that is found or added is stored. -/
theorem findOrAddChatroom_some {people people' : People} {accountId id : UUID} {chatroomId : Str}
    {row : Chatroom} (h : findOrAddChatroom people accountId chatroomId id = some (people', row)) :
    people'.chatrooms.find row.id = some row ∧ row.botAccountId = accountId ∧
      row.chatroomId = chatroomId := by
  unfold findOrAddChatroom at h
  split at h
  · rename_i found hfound
    cases h
    have hkey := List.find?_some hfound
    simp only [decide_eq_true_eq] at hkey
    exact ⟨Table.mem_iff_find.mp (List.mem_of_find?_eq_some hfound), hkey⟩
  · obtain ⟨chatrooms, hinsert, heq⟩ := Option.map_eq_some_iff.mp h
    cases heq
    refine ⟨?_, rfl, rfl⟩
    rw [Table.find_insert hinsert, if_pos rfl]

/-- The contact that is found or added is stored. -/
theorem findOrAddContact_some {people people' : People} {accountId id : UUID} {externalId : Str}
    {row : Contact} (h : findOrAddContact people accountId externalId id = some (people', row)) :
    people'.contacts.find row.id = some row ∧ row.botAccountId = accountId ∧
      row.externalId = externalId := by
  unfold findOrAddContact at h
  split at h
  · rename_i found hfound
    cases h
    have hkey := List.find?_some hfound
    simp only [decide_eq_true_eq] at hkey
    exact ⟨Table.mem_iff_find.mp (List.mem_of_find?_eq_some hfound), hkey⟩
  · obtain ⟨contacts, hinsert, heq⟩ := Option.map_eq_some_iff.mp h
    cases heq
    refine ⟨?_, rfl, rfl⟩
    rw [Table.find_insert hinsert, if_pos rfl]

theorem createPrincipal_frame {people people' : People} {workspaceId id : UUID}
    {principalType : PrincipalType} {externalId : Str} {row : Principal}
    (h : createPrincipal people workspaceId principalType externalId id = some (people', row)) :
    people'.chatrooms = people.chatrooms ∧ people'.contacts = people.contacts := by
  unfold createPrincipal at h
  split at h
  · cases h
    exact ⟨rfl, rfl⟩
  · obtain ⟨principals, -, heq⟩ := Option.map_eq_some_iff.mp h
    cases heq
    exact ⟨rfl, rfl⟩

theorem ensureMember_frame {db : Database} {people people' : People} {chatroomId id : UUID}
    {actorWxid : Str} (h : ensureMember db people chatroomId actorWxid id = some people') :
    people'.chatrooms = people.chatrooms ∧ people'.contacts = people.contacts := by
  obtain ⟨around, -, heq⟩ := Option.map_eq_some_iff.mp h
  cases heq
  exact ⟨rfl, rfl⟩

/-- A group event is resolved to rows of its own account. -/
theorem resolveGroup_addressed {db : Database} {event : IncomingEvent} {accountId workspaceId : UUID}
    {ids : Discovery.DrawnIds} {people : People} {rows : EventTransaction.Conversation}
    (h : resolveGroup db event accountId workspaceId ids = some (people, rows)) :
    Addressed people accountId event.conversation rows := by
  unfold resolveGroup at h
  obtain ⟨⟨first, chatroom⟩, hroom, h⟩ := Option.bind_eq_some_iff.mp h
  obtain ⟨hfind, haccount, hkey⟩ := findOrAddChatroom_some hroom
  simp only at h
  split at h
  · cases h
    refine ⟨?_, fun contact hcontact => (nomatch hcontact)⟩
    intro row hrow
    cases hrow
    exact ⟨hfind, haccount, hkey⟩
  · obtain ⟨second, hmember, h⟩ := Option.bind_eq_some_iff.mp h
    obtain ⟨⟨third, principal⟩, hprincipal, h⟩ := Option.bind_eq_some_iff.mp h
    cases h
    refine ⟨?_, fun contact hcontact => (nomatch hcontact)⟩
    intro row hrow
    cases hrow
    rw [(createPrincipal_frame hprincipal).1, (ensureMember_frame hmember).1]
    exact ⟨hfind, haccount, hkey⟩

/-- A private event is resolved to rows of its own account. -/
theorem resolvePrivate_addressed {db : Database} {event : IncomingEvent}
    {accountId workspaceId : UUID} {ids : Discovery.DrawnIds} {people : People}
    {rows : EventTransaction.Conversation} (hactor : event.actorWxid = event.conversationId)
    (h : resolvePrivate db event accountId workspaceId ids = some (people, rows)) :
    Addressed people accountId event.conversation rows := by
  have hexternal : (if event.actor ≠ [] then event.actor else event.conversation) =
      event.conversation := by
    have hsame : event.actor = event.conversation := by
      rw [IncomingEvent.actor, hactor, IncomingEvent.conversation]
    rw [hsame, ite_self]
  unfold resolvePrivate at h
  rw [hexternal] at h
  obtain ⟨⟨first, contact⟩, hcontact, h⟩ := Option.bind_eq_some_iff.mp h
  obtain ⟨⟨second, principal⟩, hprincipal, h⟩ := Option.bind_eq_some_iff.mp h
  cases h
  constructor
  · intro row hrow
    cases hrow
  · intro row hrow
    cases hrow
    rw [(createPrincipal_frame hprincipal).2]
    exact findOrAddContact_some hcontact

/-- The rows of an event are those of its account and its conversation. -/
theorem resolveContext_addressed {db : Database} {event : IncomingEvent}
    {accountId workspaceId : UUID} {ids : Discovery.DrawnIds} {people : People}
    {rows : EventTransaction.Conversation} (hself : event.isSelf = false)
    (h : resolveContext db event accountId workspaceId ids = some (people, rows)) :
    Addressed people accountId event.conversation rows := by
  unfold resolveContext at h
  split at h
  · exact resolveGroup_addressed h
  · split at h
    · rename_i hprivate
      exact resolvePrivate_addressed (actor_of_private hself hprivate.1) h
    · cases h
      constructor
      · intro row hrow
        cases hrow
      · intro row hrow
        cases hrow

/-- The row asks for what the submission asks for. -/
structure Carries (submission : TextActionSubmission) (m : OutboxMessage) : Prop where
  account : m.botAccountId = submission.botAccountId
  action : m.actionType = "message.reply.text"
  target : m.targetWxid = strip submission.targetWxid
  authorization : m.authorizationContext = some (.valid submission.authorizationContext)
  key : m.idempotencyKey = strip submission.idempotencyKey

theorem normalizeLimitedText_strip {value normalized : Str} {fieldName : String} {maxLength : Nat}
    (h : normalizeLimitedText value fieldName maxLength = .ok normalized) :
    normalized = strip value := by
  simp only [normalizeLimitedText] at h
  split at h
  · cases h
  · split at h
    · cases h
    · cases h
      rfl

/-- Normalizing strips the key and the target of a request. -/
theorem normalizeRequest_ok {request : EnqueueRequest} {now : Time} {key target : Str}
    {expiry : Option Time} {payload : TextOutboxPayload}
    (h : normalizeRequest request now = .ok (key, target, expiry, payload)) :
    key = strip request.idempotencyKey ∧ target = strip request.targetWxid := by
  unfold normalizeRequest at h
  obtain ⟨key', hkey, h⟩ := Results.bind_ok.mp h
  obtain ⟨target', htarget, h⟩ := Results.bind_ok.mp h
  by_cases hpriority : 0 ≤ request.priority ∧ request.priority ≤ 1000
  · by_cases haction : request.actionType ∈ textActionTypes
    · simp only [hpriority, haction, and_self, not_true_eq_false, if_false] at h
      obtain ⟨expiry', -, h⟩ := Results.bind_ok.mp h
      split at h
      · cases h
      · cases h
        exact ⟨normalizeLimitedText_strip hkey, normalizeLimitedText_strip htarget⟩
    · simp only [hpriority, haction, and_self, not_true_eq_false, not_false_eq_true, if_false,
        if_true] at h
      exact absurd h Results.throw_bind_ne
  · simp only [hpriority, not_false_eq_true, if_true] at h
    exact absurd h Results.throw_bind_ne

/-- The hash of the row is the hash of no other action than the row's. -/
def Sealed (sha256 : CanonicalAction → Str) (m : OutboxMessage) : Prop :=
  ∀ action, m.payloadSha256 = sha256 action →
    m.botAccountId = action.botAccountId ∧ m.actionType = action.actionType ∧
      m.targetWxid = action.targetWxid ∧
      m.authorizationContext = action.authorizationContext.map .valid

/-- An accepted request finds the row that its key is bound to, or adds the row it asks
for. -/
theorem enqueueText_row {sha256 : CanonicalAction → Str} {accountExists : UUID → Bool}
    {t t' : Outbox} {request : EnqueueRequest} {now : Time} {id : UUID} {message : OutboxMessage}
    (h : enqueueText sha256 accountExists t request now id = .ok (t', message)) :
    ∃ expiry payload, (t' = t ∧ message ∈ t.rows ∧
        message.idempotencyKey = strip request.idempotencyKey ∧
        message.payloadSha256 =
          sha256 (canonicalAction request (strip request.targetWxid) expiry payload)) ∨
      (message = newMessage id request (strip request.idempotencyKey)
        (strip request.targetWxid)
        (sha256 (canonicalAction request (strip request.targetWxid) expiry payload)) expiry payload
        now ∧ t.insert message = some t') := by
  unfold enqueueText at h
  obtain ⟨⟨key, target, expiry, payload⟩, hnormalized, h⟩ := Results.bind_ok.mp h
  obtain ⟨rfl, rfl⟩ := normalizeRequest_ok hnormalized
  obtain ⟨hash, hhash, h⟩ := Results.bind_ok.mp h
  have hdigest : hash = sha256 (canonicalAction request (strip request.targetWxid) expiry payload) := by
    unfold actionHash at hhash
    split at hhash
    · cases hhash
    · cases hhash
      rfl
  obtain ⟨found, hfind, h⟩ := Results.bind_ok.mp h
  refine ⟨expiry, payload, ?_⟩
  split at h
  · rename_i existing
    obtain ⟨matched, hmatch, h⟩ := Results.bind_ok.mp h
    cases h
    unfold matchExisting at hmatch
    split at hmatch
    · cases hmatch
    · rename_i hsame
      cases hmatch
      have hlookup : t.rows.find? (fun m => decide (m.idempotencyKey =
          strip request.idempotencyKey)) = some message := by
        unfold findByIdempotencyKey at hfind
        split at hfind
        · cases hfind
        · split at hfind
          · cases hfind
          · exact Except.ok.inj hfind
      refine .inl ⟨rfl, List.mem_of_find?_eq_some hlookup, ?_, ?_⟩
      · simpa using List.find?_some hlookup
      · rw [not_not.mp hsame, hdigest]
  · split at h
    · cases h
    · unfold insertMessage at h
      split at h
      · cases h
      · split at h
        · cases h
        · rename_i t'' hinsert
          cases h
          exact .inr ⟨by rw [hdigest], hinsert⟩

/-- A submission adds at most the row that carries it. -/
theorem submitText_row {sha256 : CanonicalAction → Str} {accountExists : UUID → Bool}
    {t t' : Outbox} {submission : TextActionSubmission} {stamp : Stamp}
    (h : submitText sha256 accountExists t submission stamp = .ok t') :
    ∀ m ∈ t'.rows, m ∈ t.rows ∨ Carries submission m := by
  intro m hm
  unfold submitText at h
  split at h
  · rename_i u message henqueue
    cases h
    obtain ⟨expiry, payload, ⟨rfl, -⟩ | ⟨rfl, hinsert⟩⟩ := enqueueText_row henqueue
    · exact .inl hm
    · rw [Table.insert_rows hinsert] at hm
      rcases List.mem_append.mp hm with hm | hm
      · exact .inl hm
      · rw [List.mem_singleton.mp hm]
        exact .inr ⟨rfl, rfl, rfl, rfl, rfl⟩
  all_goals cases h

/-- The message of an accepted submission asks for what the submission asks for. -/
theorem enqueued_carries {sha256 : CanonicalAction → Str} {accountExists : UUID → Bool}
    {t t' : Outbox} {submission : TextActionSubmission} {now : Time} {id : UUID}
    {message : OutboxMessage} (hsealed : ∀ m ∈ t.rows, Sealed sha256 m)
    (h : enqueueText sha256 accountExists t (enqueueRequest submission) now id =
      .ok (t', message)) : Carries submission message := by
  obtain ⟨expiry, payload, ⟨-, hmem, hkey, hhash⟩ | ⟨rfl, -⟩⟩ := enqueueText_row h
  · obtain ⟨haccount, haction, htarget, hcontext⟩ := hsealed message hmem _ hhash
    exact ⟨haccount, haction, htarget, hcontext, hkey⟩
  · exact ⟨rfl, rfl, rfl, rfl, rfl⟩

/-- Every row after the submissions is an old one or carries one of them. -/
theorem submitTexts_rows {sha256 : CanonicalAction → Str} {accountExists : UUID → Bool}
    {stamps : Nat → Stamp} {submissions : List TextActionSubmission} : ∀ {index : Nat} {t : Outbox},
    ∀ m ∈ (submitTexts sha256 accountExists stamps index t submissions).1.rows,
      m ∈ t.rows ∨ ∃ submission ∈ submissions, Carries submission m := by
  induction submissions with
  | nil =>
    intro index t m hm
    exact .inl hm
  | cons submission submissions ih =>
    intro index t m hm
    unfold submitTexts at hm
    split at hm
    · exact .inl hm
    · rename_i t' hsubmit
      rcases ih m hm with hm | ⟨other, hother, hcarries⟩
      · rcases submitText_row hsubmit m hm with hm | hcarries
        · exact .inl hm
        · exact .inr ⟨submission, List.mem_cons_self, hcarries⟩
      · exact .inr ⟨other, List.mem_cons_of_mem _ hother, hcarries⟩

/-- The rows that the handling of one result adds. -/
theorem handleResult_rows {sha256 : CanonicalAction → Str} {accountExists : UUID → Bool}
    {t t' : Outbox} {origin : ReplyOrigin} {stamps : Nat → Stamp} {result : Json}
    (h : (∃ count, handleResult sha256 accountExists t origin stamps result = .succeeded t' count) ∨
      ∃ reason, handleResult sha256 accountExists t origin stamps result = .rejected t' reason) :
    ∀ m ∈ t'.rows, m ∈ t.rows ∨ ∃ actions submissions,
      checkedSubmissions origin result = .ok (actions, submissions) ∧
        ∃ submission ∈ submissions, Carries submission m := by
  intro m hm
  have hresulted := handleResult_resulted sha256 accountExists t origin stamps result
  rcases h with ⟨count, hend⟩ | ⟨reason, hend⟩
  · rw [hend] at hresulted
    cases hresulted with
    | accepted actions submissions _ hchecked hsubmit =>
      have hrows := @submitTexts_rows sha256 accountExists stamps submissions 0 t m
      rw [hsubmit] at hrows
      exact (hrows hm).imp_right fun hcarried => ⟨actions, submissions, hchecked, hcarried⟩
  · rw [hend] at hresulted
    cases hresulted with
    | refused _ hchecked => exact .inl hm
    | stopped actions submissions _ _ hchecked hsubmit =>
      have hrows := @submitTexts_rows sha256 accountExists stamps submissions 0 t m
      rw [hsubmit] at hrows
      exact (hrows hm).imp_right fun hcarried => ⟨actions, submissions, hchecked, hcarried⟩

/-- The context of authorization is taken from the resolved rows and the route. -/
theorem authorizationContext_some {context : ResolvedContext} {route : PluginRoute}
    {authorization : OutboxAuthorizationContext}
    (h : authorizationContext context route = some authorization) :
    authorization.workspaceId = context.workspaceId ∧
      authorization.deploymentId = route.deploymentId ∧
      authorization.deploymentRevisionId = route.revisionId ∧
      authorization.actorPrincipalId = context.principalId ∧
      authorization.chatroomId = context.chatroomId ∧
      authorization.contactId = context.contactId ∧
      authorization.resourceType = (resource route).1 ∧
      authorization.resourceId = (resource route).2.1 ∧
      authorization.parentPluginId = (resource route).2.2 := by
  simp only [authorizationContext] at h
  split at h
  · split at h
    · cases h
      exact ⟨rfl, rfl, rfl, rfl, rfl, rfl, rfl, rfl, rfl⟩
    · cases h
  · cases h

/-- A submission that has passed the checks names the account, the conversation and the
request of its event. -/
theorem checked_submission {origin : ReplyOrigin} {result : Json} {actions : List Fields}
    {submissions : List TextActionSubmission} {conversation : Str}
    (haddressed : origin.event.conversationId = some conversation)
    (h : checkedSubmissions origin result = .ok (actions, submissions))
    {submission : TextActionSubmission} (hmem : submission ∈ submissions) :
    submission.botAccountId = origin.context.accountId ∧ submission.targetWxid = conversation ∧
      authorizationContext origin.context origin.route = some submission.authorizationContext ∧
      py "message.reply.text" ∈ origin.route.grants ∧
      pairKey origin.route.deploymentId origin.event.id <+: strip submission.idempotencyKey := by
  obtain ⟨actions', -, h⟩ := Results.bind_ok.mp h
  obtain ⟨submissions', hsubmissions, h⟩ := Results.bind_ok.mp h
  split at h
  · exact absurd h Results.throw_bind_ne
  · rename_i hgrant
    cases h
    obtain ⟨position, action, hpassed⟩ := (textSubmissions_ok hsubmissions).2 submission hmem
    have hfront := (checked_of_passed haddressed hpassed).1.front
    have hexamined := textSubmission_examined haddressed position action
    rw [hpassed] at hexamined
    cases hexamined with
    | passed text key authorization hformed htext hkey hauthorization =>
      refine ⟨rfl, rfl, hauthorization, ?_, hfront⟩
      by_contra hmissing
      exact hgrant ⟨List.ne_nil_of_mem hmem, hmissing⟩

/-- The policy has allowed the request of the route, and its revision may reply. -/
structure Granted (r : Resolved) (answers : UUID → Answer) (chosen : Chosen) (route : PluginRoute) :
    Prop where
  built : pluginRoute chosen = some route
  grant : py "message.reply.text" ∈ route.grants
  allowed : ∃ decision, evaluate r.db.surroundings (aclRequest r.context route)
    (answers route.deploymentId).policyNow = .ok decision ∧ decision.allowed = true

/-- The row is a reply to the event that was authorized for the route. -/
structure RowFor (r : Resolved) (answers : UUID → Answer) (chosen : Chosen) (m : OutboxMessage) :
    Prop where
  account : m.botAccountId = r.context.account.id
  action : m.actionType = "message.reply.text"
  target : m.targetWxid = strip r.conversation
  key : pairKey chosen.route.deployment.id r.event.id <+: m.idempotencyKey
  authorized : ∃ route authorization, Granted r answers chosen route ∧
    authorizationContext r.context.ids route = some authorization ∧
      m.authorizationContext = some (.valid authorization)

theorem RowFor.same {r : Resolved} {answers : UUID → Answer} {chosen : Chosen}
    {m m' : OutboxMessage} (h : RowFor r answers chosen m) (hsame : SameAction m m') :
    RowFor r answers chosen m' := by
  obtain ⟨route, authorization, hgranted, hcontext, hrow⟩ := h.authorized
  exact ⟨hsame.account.trans h.account, hsame.action.trans h.action, hsame.target.trans h.target,
    hsame.key ▸ h.key, route, authorization, hgranted, hcontext, hsame.context.trans hrow⟩

/-- The plugin of the route is called in the dispatch and its result passes the checks. -/
structure Called (db : Database) (context : RowContext) (event : IncomingEvent) (traceId : UUID)
    (answers : UUID → Answer) (chosen : Chosen) (route : PluginRoute)
    (submissions : List TextActionSubmission) : Prop where
  built : pluginRoute chosen = some route
  allowed : ∃ decision, evaluate db.surroundings (aclRequest context route)
    (answers route.deploymentId).policyNow = .ok decision ∧ decision.allowed = true
  checked : ∃ result actions, (answers route.deploymentId).call = .ok result ∧
    checkedSubmissions ⟨⟨event.id, event.conversationId, event.stored⟩, traceId, context.ids,
      route⟩ result = .ok (actions, submissions)

theorem deploymentId_of_built {chosen : Chosen} {route : PluginRoute}
    (h : pluginRoute chosen = some route) : route.deploymentId = chosen.route.deployment.id := by
  unfold pluginRoute at h
  split at h
  · cases h
    rfl
  · cases h

theorem rowFor_of_carries {r : Resolved} {answers : UUID → Answer} {chosen : Chosen}
    {route : PluginRoute} {submissions : List TextActionSubmission}
    (h : Called r.db r.context r.event r.traceId answers chosen route submissions)
    {submission : TextActionSubmission} (hmem : submission ∈ submissions) {m : OutboxMessage}
    (hcarries : Carries submission m) : RowFor r answers chosen m := by
  obtain ⟨result, actions, -, hchecked⟩ := h.checked
  obtain ⟨haccount, htarget, hcontext, hgrant, hfront⟩ :=
    checked_submission r.addressed hchecked hmem
  refine ⟨hcarries.account.trans haccount, hcarries.action, by rw [hcarries.target, htarget], ?_,
    route, submission.authorizationContext, ⟨h.built, hgrant, h.allowed⟩, hcontext,
    hcarries.authorization⟩
  rw [hcarries.key, ← deploymentId_of_built h.built]
  exact hfront

theorem mapError_ok {ε ε' α : Type} {x : Except ε α} {f : ε → ε'} {a : α}
    (h : x.mapError f = .ok a) : x = .ok a := by
  cases x with
  | error e => cases h
  | ok b => exact congrArg Except.ok (Except.ok.inj h)

theorem dispatchChosen_rows {r : Resolved} {answers : UUID → Answer} {s s' : DispatchState}
    {chosen : Chosen} (h : dispatchChosen r answers s chosen = .ok s') :
    ∀ m ∈ s'.outbox.rows, m ∈ s.outbox.rows ∨ RowFor r answers chosen m := by
  intro m hm
  unfold dispatchChosen at h
  split at h
  · cases h
  · rename_i route hroute
    simp only at h
    split at h
    · cases h
      exact .inl hm
    · split at h
      · cases h
      · rename_i decision hdecision
        have hturn := dispatchRoute_turn (r.dispatchOf ⟨route, decision,
          (answers route.deploymentId).call, (answers route.deploymentId).stamps,
          (answers route.deploymentId).now⟩) s ⟨route, decision,
          (answers route.deploymentId).call, (answers route.deploymentId).stamps,
          (answers route.deploymentId).now⟩
        rw [mapError_ok h] at hturn
        cases hturn with
        | skipped hdone => exact .inl hm
        | closed record retryable hnone => exact .inl hm
        | ended result record outbox hreturns hend =>
          obtain ⟨-, hallowed, hcall⟩ := hreturns
          have hends := hend.imp
            (fun h : ∃ count, _ ∧ _ => h.imp fun _ => And.left)
            (fun h : ∃ reason, _ ∧ _ => h.imp fun _ => And.left)
          rcases handleResult_rows hends m hm with hm | ⟨actions, submissions, hchecked, hcarried⟩
          · exact .inl hm
          · obtain ⟨submission, hmem, hcarries⟩ := hcarried
            exact .inr (rowFor_of_carries
              ⟨hroute, ⟨decision, hdecision, hallowed⟩, result, actions, hcall, hchecked⟩ hmem
              hcarries)

theorem dispatchAll_rows {r : Resolved} {answers : UUID → Answer} {chosen : List Chosen} :
    ∀ {s s' : DispatchState}, dispatchAll r answers s chosen = .ok s' →
      ∀ m ∈ s'.outbox.rows, m ∈ s.outbox.rows ∨ ∃ turn ∈ chosen, RowFor r answers turn m := by
  induction chosen with
  | nil =>
    intro s s' h m hm
    cases h
    exact .inl hm
  | cons turn chosen ih =>
    intro s s' h m hm
    rw [dispatchAll, List.foldlM_cons] at h
    obtain ⟨t, hturn, hrest⟩ := Results.bind_ok.mp h
    rcases ih hrest m hm with hm | ⟨other, hother, hrow⟩
    · rcases dispatchChosen_rows hturn m hm with hm | hrow
      · exact .inl hm
      · exact .inr ⟨turn, List.mem_cons_self, hrow⟩
    · exact .inr ⟨other, List.mem_cons_of_mem _ hother, hrow⟩

theorem chosen_route {casefold : Str → Str} {listens : Route → Bool} {routes : List Route}
    {messageText : Str} {chosen : List Chosen}
    (h : selectedRoutes casefold listens routes messageText = some chosen) {turn : Chosen}
    (hmem : turn ∈ chosen) : turn.route ∈ routes := by
  unfold selectedRoutes at h
  split at h
  · cases h
  · rename_i only honly
    cases h
    rw [List.mem_singleton.mp hmem]
    have hcommand : only ∈ commandRoutes casefold routes messageText := by rw [honly]; simp
    unfold commandRoutes at hcommand
    split at hcommand
    · cases hcommand
    · obtain ⟨route, hroute, heq⟩ := List.mem_filterMap.mp hcommand
      obtain ⟨command, -, rfl⟩ := Option.map_eq_some_iff.mp heq
      exact hroute
  · split at h
    · cases h
      cases hmem
    · cases h
      obtain ⟨route, hroute, rfl⟩ := List.mem_map.mp hmem
      exact List.mem_of_mem_filter hroute

/-- The sender finds the deployment and the revision of a route. -/
theorem route_rows {db : Database} {context : EventContext} {route : Route}
    (h : route ∈ pluginRoutes db.catalog context) :
    Sender.activeRevision db.surroundings route.deployment.id =
        some (route.deployment, route.revision) ∧
      route.deployment.workspaceId = context.workspaceId ∧ route.deployment.status = .RUNNING ∧
      route.deployment.activeRevisionId = some route.revision.id ∧
      route.revision.deploymentId = route.deployment.id := by
  obtain ⟨deployment, hmem, hroute⟩ := List.mem_filterMap.mp h
  unfold routeOf at hroute
  split at hroute
  · rename_i hrunning
    obtain ⟨plugin, -, hroute⟩ := Option.bind_eq_some_iff.mp hroute
    obtain ⟨active, hactive, hroute⟩ := Option.bind_eq_some_iff.mp hroute
    split at hroute
    · cases hroute
      obtain ⟨revisionId, hrevisionId, hactive⟩ := Option.bind_eq_some_iff.mp hactive
      obtain ⟨revision, hrevision, hactive⟩ := Option.bind_eq_some_iff.mp hactive
      obtain ⟨package, -, hactive⟩ := Option.bind_eq_some_iff.mp hactive
      cases hactive
      have hid : revision.id = revisionId := Table.find_key hrevision
      have hfind : db.surroundings.deployment deployment.id = some deployment :=
        Table.mem_iff_find.mp hmem
      have hrow : db.surroundings.revision revisionId = some revision := hrevision
      refine ⟨?_, hrunning.1, hrunning.2, by rw [hrevisionId, hid],
        db.ownRevision deployment hmem revisionId revision hrevisionId hrevision⟩
      simp [Sender.activeRevision, hfind, hrevisionId, hrow]
    · cases hroute
  · cases hroute

theorem target_matches {r : Resolved} {m : OutboxMessage}
    {authorization : OutboxAuthorizationContext} {route : PluginRoute}
    (hrows : Addressed r.db.people r.context.account.id r.conversation
      ⟨r.context.chatroom, r.context.contact, r.context.principal⟩)
    (htrim : strip r.conversation = r.conversation)
    (hactive : ∀ contact, r.context.contact = some contact → contact.active = true)
    (haccount : m.botAccountId = r.context.account.id) (htarget : m.targetWxid = strip r.conversation)
    (hcontext : authorizationContext r.context.ids route = some authorization) :
    targetMatchesAuthorization r.db.surroundings m authorization = true := by
  obtain ⟨-, -, -, -, hroom, hcontact, -⟩ := authorizationContext_some hcontext
  have hone := authorization.oneConversation
  rw [hroom, hcontact] at hone
  have hauthorized : authorizedTarget r.db.surroundings m authorization = some r.conversation := by
    unfold authorizedTarget
    rw [hroom, hcontact, haccount]
    simp only [RowContext.ids] at hone ⊢
    cases hchatroom : r.context.chatroom with
    | some chatroom =>
      obtain ⟨hfind, howner, hname⟩ := hrows.chatroom chatroom hchatroom
      have hrow : r.db.surroundings.chatroom chatroom.id = some chatroom := hfind
      simp [hrow, howner, hname, Option.filter]
    | none =>
      cases hrow : r.context.contact with
      | none => simp [hchatroom, hrow] at hone
      | some contact =>
        obtain ⟨hfind, howner, hname⟩ := hrows.contact contact hrow
        have hstored : r.db.surroundings.contact contact.id = some contact := hfind
        simp [hstored, howner, hname, hactive contact hrow, Option.filter]
  rw [targetMatchesAuthorization, hauthorized, htarget, htrim, decide_eq_true_eq]

/-- The sender evaluates the request that the dispatch has evaluated. -/
theorem sameRequest {context : RowContext} {route : PluginRoute} {m : OutboxMessage}
    {authorization : OutboxAuthorizationContext}
    (hcontext : authorizationContext context.ids route = some authorization)
    (haccount : m.botAccountId = context.account.id) :
    evaluationRequest m authorization = aclRequest context route := by
  obtain ⟨hws, -, -, hactor, hroom, hcontact, htype, hid, hparent⟩ :=
    authorizationContext_some hcontext
  unfold evaluationRequest aclRequest
  rw [hws, haccount, hactor, hroom, hcontact, htype, hid, hparent]
  rfl

/-- The authorization of a row that a dispatch has added is still valid. -/
theorem valid_of_rowFor {r : Resolved} {answers : UUID → Answer} {chosen : Chosen}
    {m : OutboxMessage}
    (hrows : Addressed r.db.people r.context.account.id r.conversation
      ⟨r.context.chatroom, r.context.contact, r.context.principal⟩)
    (hroute : chosen.route ∈ pluginRoutes r.db.catalog r.context.eventContext)
    (htrim : strip r.conversation = r.conversation)
    (hactive : ∀ contact, r.context.contact = some contact → contact.active = true)
    (h : RowFor r answers chosen m) :
    authorizationStillValid r.db.surroundings m
      (answers chosen.route.deployment.id).policyNow = true := by
  obtain ⟨route, authorization, hgranted, hcontext, hrow⟩ := h.authorized
  obtain ⟨hactiveRevision, hworkspace, hrunning, hrevision, howned⟩ := route_rows hroute
  have hbuilt := hgranted.built
  unfold pluginRoute at hbuilt
  split at hbuilt
  · cases hbuilt
    obtain ⟨hws, hdeployment, hrev, -⟩ := authorizationContext_some hcontext
    have htarget := target_matches hrows htrim hactive h.account h.target hcontext
    obtain ⟨decision, hdecision, hallowed⟩ := hgranted.allowed
    have hrequest := sameRequest hcontext h.account
    simp only [authorizationStillValid, hrow, Document.modelValidate, contextStillValid, htarget,
      hdeployment, hactiveRevision, Bool.true_and, Bool.and_eq_true]
    constructor
    · have hgrant := hgranted.grant
      simp only [deploymentAuthorizes, hws, hrev, h.action, Bool.and_eq_true, decide_eq_true_eq]
      exact ⟨⟨⟨⟨⟨hworkspace, hrunning⟩, hrevision⟩, trivial⟩, howned⟩, hgrant⟩
    · rw [policyAllows, hrequest, hdecision]
      exact hallowed
  · cases hbuilt

/-- The dispatch behind a committed outcome. -/
theorem dispatched_resolved {sha256 : CanonicalAction → Str} {casefold : Str → Str}
    {listens : Route → Bool} {answers : UUID → Answer} {db db' : Database} {event : IncomingEvent}
    {inboxStatus : InboxWorker.InboxStatus} {traceId : UUID} {ids : Discovery.DrawnIds}
    {outbox : Outbox} {records : UUID → Option PluginEventDispatch} {context : RowContext}
    {chosen : List Chosen} {s : DispatchState}
    (h : dispatchEvent sha256 casefold listens answers db event inboxStatus traceId ids outbox
      records = .dispatched db' context chosen s) :
    ∃ r : Resolved, r.db = db' ∧ r.context = context ∧ r.event = event ∧ r.traceId = traceId ∧
      Addressed db'.people context.account.id r.conversation
        ⟨context.chatroom, context.contact, context.principal⟩ ∧
      (∀ turn ∈ chosen, turn.route ∈ pluginRoutes db'.catalog context.eventContext) ∧
      dispatchAll r answers ⟨outbox, records, []⟩ chosen = .ok s := by
  unfold dispatchEvent at h
  split at h
  · cases h
  · rename_i hguard
    have hself : event.isSelf = false := by
      cases hvalue : event.isSelf with
      | false => rfl
      | true => exact absurd (.inl hvalue) hguard
    split at h
    · cases h
    · rename_i account workspaceId hfound _
      split at h
      · cases h
      · rename_i people rows hresolve
        split at h
        · cases h
        · rename_i conversation haddressed
          unfold dispatchResolved at h
          split at h
          · cases h
          · rename_i routes hselected
            split at h
            · cases h
            · rename_i state hall
              cases h
              have hrows := resolveContext_addressed hself hresolve
              have hconversation : event.conversation = conversation := by
                rw [IncomingEvent.conversation, haddressed, Option.getD_some]
              rw [hconversation] at hrows
              exact ⟨_, rfl, rfl, rfl, rfl, hrows, fun turn hturn => chosen_route hselected hturn,
                hall⟩

/-- The sender accepts the authorization of the message at the time, and does not cancel it
for a change of the policy. -/
def Accepts (db : Database) (policyNow : Time) (m : OutboxMessage) : Prop :=
  authorizationStillValid db.surroundings m policyNow = true ∧
    ∀ options now account connection status code availableAt,
      Sender.refusal options now policyNow db.surroundings m account connection =
        some (status, code, availableAt) → code ≠ "POLICY_CHANGED"

theorem accepts_of_valid {db : Database} {policyNow : Time} {m : OutboxMessage}
    (h : authorizationStillValid db.surroundings m policyNow = true) : Accepts db policyNow m := by
  refine ⟨h, ?_⟩
  intro options now account connection status code availableAt hrefusal
  simp only [Sender.refusal, h, Bool.true_eq_false, if_false] at hrefusal
  split at hrefusal
  · cases hrefusal
    decide
  · split at hrefusal
    · cases hrefusal
      decide
    · split at hrefusal
      · cases hrefusal
        decide
      · split at hrefusal
        · cases hrefusal
          decide
        · split at hrefusal
          · cases hrefusal
            decide
          · split at hrefusal
            · cases hrefusal
              decide
            · cases hrefusal

/-- While the rows are those that the dispatch has left, the sender accepts every message
that the dispatch has added, and the message of every action that it has accepted, at the
time of the evaluation for the plugin's route. -/
theorem authorization_agrees {sha256 : CanonicalAction → Str} {casefold : Str → Str}
    {listens : Route → Bool} {answers : UUID → Answer} {db db' : Database} {event : IncomingEvent}
    {inboxStatus : InboxWorker.InboxStatus} {traceId : UUID} {ids : Discovery.DrawnIds}
    {outbox : Outbox} {records : UUID → Option PluginEventDispatch} {context : RowContext}
    {chosen : List Chosen} {s : DispatchState}
    (h : dispatchEvent sha256 casefold listens answers db event inboxStatus traceId ids outbox
      records = .dispatched db' context chosen s)
    (htrim : ∀ conversation, event.conversationId = some conversation →
      strip conversation = conversation)
    (hactive : ∀ contact, context.contact = some contact → contact.active = true) :
    (∀ m ∈ s.outbox.rows, m ∈ outbox.rows ∨ ∃ turn ∈ chosen,
      pairKey turn.route.deployment.id event.id <+: m.idempotencyKey ∧
        ∀ m', SameAction m m' →
          Accepts db' (answers turn.route.deployment.id).policyNow m') ∧
    (∀ turn ∈ chosen, ∀ route submissions,
      Called db' context event traceId answers turn route submissions →
        ∀ submission ∈ submissions, ∀ accountExists t t' now id message,
          (∀ m ∈ t.rows, Sealed sha256 m) →
            enqueueText sha256 accountExists t (enqueueRequest submission) now id =
              .ok (t', message) →
            ∀ m', SameAction message m' →
              Accepts db' (answers turn.route.deployment.id).policyNow m') := by
  obtain ⟨r, rfl, rfl, rfl, rfl, hrows, hroutes, hall⟩ := dispatched_resolved h
  have hstrip := htrim r.conversation r.addressed
  constructor
  · intro m hm
    rcases dispatchAll_rows hall m hm with hm | ⟨turn, hturn, hrow⟩
    · exact .inl hm
    · refine .inr ⟨turn, hturn, hrow.key, fun m' hsame => accepts_of_valid ?_⟩
      exact valid_of_rowFor hrows (hroutes turn hturn) hstrip hactive (hrow.same hsame)
  · intro turn hturn route submissions hcalled submission hmem accountExists t t' now id message
      hsealed henqueue m' hsame
    have hrow := rowFor_of_carries hcalled hmem (enqueued_carries hsealed henqueue)
    exact accepts_of_valid
      (valid_of_rowFor hrows (hroutes turn hturn) hstrip hactive (hrow.same hsame))

/-- Every row comes from a row with the same action. -/
def Stems (t t' : Outbox) : Prop := ∀ m' ∈ t'.rows, ∃ m ∈ t.rows, SameAction m m'

theorem stems_refl (t : Outbox) : Stems t t := fun m hm => ⟨m, hm, SameAction.refl m⟩

/-- What stems from a row that stems from another stems from the other. -/
theorem stems_trans {t u v : Outbox} (h : Stems t u) (h' : Stems u v) : Stems t v := by
  intro m' hm'
  obtain ⟨n, hn, hsame'⟩ := h' m' hm'
  obtain ⟨m, hm, hsame⟩ := h n hn
  exact ⟨m, hm, hsame.trans hsame'⟩

theorem stems_changes {edges : List (OutboxStatus × OutboxStatus)} {t t' : Outbox}
    (h : Changes edges t t') : Stems t t' := by
  intro m' hm'
  obtain ⟨m, hm, hsame, -⟩ := h.back (Table.mem_iff_find.mp hm')
  exact ⟨m, Table.find_mem hm, hsame⟩

section Runs

open SenderSystem SenderSteps SenderEffects

variable {ι κ : Type} [DecidableEq ι] [DecidableEq κ]

/-- No step of the sender makes rows of its own. -/
theorem effect_stems {w w' : SenderSystem.World ι κ} {a : SenderSystem.Action ι κ}
    (h : SenderSteps.Effect w a w') (hother : ∀ request now id, a ≠ .enqueue request now id) :
    Stems w.outbox w'.outbox := by
  cases h with
  | enqueued request now id t m hinsert hpending => exact absurd rfl (hother request now id)
  | recovered now ids t hok => exact stems_changes (recover_changes hok)
  | cancelled id reason now t hchanges => exact stems_changes hchanges
  | reconciled id resolution reason now t hchanges => exact stems_changes hchanges
  | claimed i locked accountId now c u m m' hphase hchanges hclaim =>
    exact stems_trans (stems_changes hchanges) (stems_changes (AtMostOnce.claim_passive hclaim))
  | nothingDue i locked t hchanges => exact stems_changes hchanges
  | extended i now c delay t hphase hchanges => exact stems_changes hchanges
  | refused i now policyNow id fence t hphase hchanges => exact stems_changes hchanges
  | prepared i now policyNow id fence t send m m' hphase hprepared =>
    exact stems_changes (AccountSerial.prepared_changes hprepared)
  | settled i now jitter outcome send fence t hphase hsettled =>
    rcases hsettled with rfl | ⟨m, m', hsettled⟩
    · exact stems_refl _
    · exact stems_changes (AccountSerial.settled_changes hsettled)
  | _ => exact stems_refl _

/-- A row stays sealed as long as it keeps its action. -/
theorem sealed_same {sha256 : CanonicalAction → Str} {m m' : OutboxMessage}
    (h : Sealed sha256 m) (hsame : SameAction m m') : Sealed sha256 m' := by
  intro action hhash
  rw [hsame.hash] at hhash
  obtain ⟨haccount, haction, htarget, hcontext⟩ := h action hhash
  exact ⟨hsame.account.trans haccount, hsame.action.trans haction, hsame.target.trans htarget,
    hsame.context.trans hcontext⟩

/-- A request leaves sealed rows only. -/
theorem sealed_enqueue {sha256 : CanonicalAction → Str} (hinjective : Function.Injective sha256)
    {accountExists : UUID → Bool} {t t' : Outbox} {request : EnqueueRequest} {now : Time} {id : UUID}
    {message : OutboxMessage} (hsealed : ∀ m ∈ t.rows, Sealed sha256 m)
    (h : enqueueText sha256 accountExists t request now id = .ok (t', message)) :
    ∀ m ∈ t'.rows, Sealed sha256 m := by
  intro m hm
  obtain ⟨expiry, payload, ⟨rfl, -⟩ | ⟨rfl, hinsert⟩⟩ := enqueueText_row h
  · exact hsealed m hm
  · rw [Table.insert_rows hinsert] at hm
    rcases List.mem_append.mp hm with hm | hm
    · exact hsealed m hm
    · rw [List.mem_singleton.mp hm]
      intro action hhash
      have hsame := hinjective hhash
      subst hsame
      exact ⟨rfl, rfl, rfl, rfl⟩

variable [Fintype ι] [Fintype κ]

/-- Whatever the senders do, the hash of a row stays the hash of its action. -/
theorem sealed_run {setup : SenderSystem.Setup ι} (hinjective : Function.Injective setup.sha256)
    {w w' : SenderSystem.World ι κ} {as : List (SenderSystem.Action ι κ)}
    (hstart : ∀ m ∈ w.outbox.rows, Sealed setup.sha256 m)
    (hrun : WechatBot.Runs.run (SenderSystem.step setup) w as = some w') :
    ∀ m ∈ w'.outbox.rows, Sealed setup.sha256 m := by
  refine WechatBot.Runs.run_invariant (fun v => ∀ m ∈ v.outbox.rows, Sealed setup.sha256 m) ?_ hstart
    hrun
  intro v a u hv hstep
  by_cases henqueue : ∃ request now id, a = .enqueue request now id
  · obtain ⟨request, now, id, rfl⟩ := henqueue
    cases hstep
    rcases commit_cases v ((enqueueText setup.sha256 (fun a => (v.around.botAccount a).isSome)
      v.outbox request now id).map Prod.fst) with ⟨t, hok, hu⟩ | hu
    · rw [hu]
      obtain ⟨⟨t', message⟩, henqueued, rfl⟩ := Results.map_ok.mp hok
      exact sealed_enqueue hinjective hv henqueued
    · rw [hu]
      exact hv
  · push Not at henqueue
    intro m' hm'
    obtain ⟨m, hm, hsame⟩ := effect_stems (step_effect hstep) henqueue m' hm'
    exact sealed_same (hv m hm) hsame

end Runs

def oneRow {α : Type} (key : α → UUID) (a : α) : Table key := ⟨[a], by simp⟩

def replyDatabase : Database where
  people := ⟨Table.empty _, Table.empty _, Table.empty _, []⟩
  accounts := oneRow _ SenderSystem.sampleAccount
  connections := oneRow _ SenderSystem.sampleConnection
  policyVersion := fun _ => some 1
  rules := [⟨1, 1, none, .WORKSPACE, uuidStr 1, .PLUGIN, py "demo.echo", .ALLOW, false, none, 0,
    none, none, none⟩]
  catalog := {
    plugins := fun id => if id = 1 then some ⟨1, 1⟩ else none
    packages := fun id =>
      if id = 1 then some ⟨1, 1, ⟨py "demo.echo", [], [py "message.reply.text"]⟩, true⟩ else none
    deployments := oneRow _ ⟨10, 1, 1, py "echo", .RUNNING, some 5, none⟩
    revisions := oneRow _ ⟨5, 10, 1, 1, ⟨none, none, none, none, none⟩, [py "message.reply.text"]⟩
    activations := [] }
  decrypt := fun _ => some (py "token")
  ownRevision := by
    intro deployment hdeployment revisionId revision hactive hfind
    rw [List.mem_singleton.mp hdeployment]
    rw [List.mem_singleton.mp (Table.find_mem hfind)]

def privateEvent : IncomingEvent where
  id := 7
  botAccountId := some 1
  conversationType := .PRIVATE
  conversationId := some (py "wxid_friend")
  actorWxid := some (py "wxid_friend")
  isSelf := false
  rawContent := py "hello"
  normalized := .inr ⟨some (py "wxid_friend"), some (py "wxid_bot"), by decide⟩
  stored := Dispatcher.sampleFriend_fits

def replyAnswer : Answer where
  policyNow := 5
  call := .ok (resultOf [replyAction "a" "one"])
  stamps := sampleStamps 10
  now := 5

def Outcome.committed : Outcome → Option (Database × RowContext × List Chosen × DispatchState)
  | .dispatched db context chosen state => some (db, context, chosen, state)
  | _ => none

theorem Outcome.committed_some {outcome : Outcome} {db : Database} {context : RowContext}
    {chosen : List Chosen} {state : DispatchState}
    (h : Outcome.committed outcome = some (db, context, chosen, state)) :
    outcome = .dispatched db context chosen state := by
  cases outcome with
  | dispatched db context chosen state =>
    cases h
    rfl
  | _ => cases h

def replyOutcome : Outcome :=
  dispatchEvent (fun action => action.payload.text) id (fun _ => true) (fun _ => replyAnswer)
    replyDatabase privateEvent .NORMALIZED 6 ⟨20, 21, 22, 23⟩ (Table.empty _) fun _ => none

theorem reply_isSome : (Outcome.committed replyOutcome).isSome = true := by decide +kernel

def replied : Database × RowContext × List Chosen × DispatchState :=
  (Outcome.committed replyOutcome).get reply_isSome

theorem authorization_agrees_reply :
    replied.2.2.2.outbox.rows.length = 1 ∧
      ∀ m ∈ replied.2.2.2.outbox.rows, Accepts replied.1 5 m := by
  have hdispatched : replyOutcome = .dispatched replied.1 replied.2.1 replied.2.2.1 replied.2.2.2 :=
    Outcome.committed_some (Option.some_get reply_isSome).symm
  have hcontact : replied.2.1.contact = some ⟨22, 1, py "wxid_friend", true⟩ := by decide +kernel
  have hagrees := (authorization_agrees hdispatched
    (fun conversation h => by rw [← Option.some.inj h]; decide)
    (fun contact h => by rw [hcontact] at h; cases h; rfl)).1
  refine ⟨by decide +kernel, fun m hm => ?_⟩
  rcases hagrees m hm with hold | ⟨turn, -, -, haccepts⟩
  · cases hold
  · exact haccepts m (SameAction.refl m)

end WechatBot.AuthorizationAgreement
