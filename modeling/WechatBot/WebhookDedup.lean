import WechatBot.SelfEvents
import WechatBot.WebhookIngest

/-!
# What the deduplication of webhooks keeps

Every accepted delivery has one inbox row and one event, and a later delivery with its key
is answered by its digest: as long as the columns store the texts of the key as they are.
An identifier that is the empty text is a key like any other, so two messages without an
identifier of their own are taken for one.
-/
namespace WechatBot.WebhookDedup

open PyData GeweNormalizer UniqueRows WebhookIngest
open InboxTerminal (statusOf status_of_find)
open SelfEvents (SelfIgnored selfIgnored_effect selfIgnored_atRest keeps_effect)
open Runs (run run_cons run_invariant_of_each EachStep get_of_map)

variable {ι τ : Type} [DecidableEq ι] [DecidableEq τ]

section Backend

variable (b : Backend)

/-- The columns that the deduplication compares store the texts as they are, or refuse them. -/
structure Fits (r : Received) : Prop where
  appId : ∀ s, b.varchar 255 (r.envelope b).appId = some s → s = (r.envelope b).appId
  dedupKey : ∀ s, b.varchar 255 (r.dedupKey b) = some s → s = r.dedupKey b
  digest : ∀ s, b.varchar 64 (r.payloadSha256 b) = some s → s = r.payloadSha256 b

/-- A request whose delivery fits its columns. -/
def FittingRequest (a : Action ι τ) : Prop :=
  ∀ r, requestBody a = some r.rawBody → Loaded b r → Fits b r

/-- An accepted delivery and its rows. -/
structure Entry where
  received : Received
  inbox : WebhookInbox
  event : NormalizedEvent

structure Kept (x : Entry) : Prop where
  loaded : Loaded b x.received
  queryable : Queryable b x.received
  key : x.inbox.key = x.received.key b
  digest : x.inbox.payloadSha256 = x.received.payloadSha256 b
  stored : ∃ id traceId now, storeInbox b (x.received.inbox b id traceId now) = some x.inbox
  event : ∃ id botAccountId,
    storeEvent b (x.received.event b id x.inbox.id botAccountId) = some x.event

/-- The key of the delivery is bound to a row with the digest of its bytes. -/
def BoundSame (inboxes : List WebhookInbox) (r : Received) : Prop :=
  ∃ m ∈ inboxes, m.key = r.key b ∧ m.payloadSha256 = r.payloadSha256 b

def BoundOther (inboxes : List WebhookInbox) (r : Received) : Prop :=
  ∃ m ∈ inboxes, m.key = r.key b ∧ m.payloadSha256 ≠ r.payloadSha256 b

def Bound (inboxes : List WebhookInbox) (r : Received) : Prop := ∃ m ∈ inboxes, m.key = r.key b

def Staged (inboxes : List WebhookInbox) : Stage → Prop
  | .idle => True
  | .connected _ => True
  | .missing r => Queryable b r
  | .violated r => Queryable b r ∧ Bound b inboxes r
  | .inserted r row => Queryable b r ∧
      ∃ id traceId now, storeInbox b (r.inbox b id traceId now) = some row
  | .added r row event => Queryable b r ∧
      (∃ id traceId now, storeInbox b (r.inbox b id traceId now) = some row) ∧
      ∃ id botAccountId, event = r.event b id row.id botAccountId
  | .duplicate r => BoundSame b inboxes r
  | .raised r .conflict => BoundOther b inboxes r
  | .raised _ .database => True

def Answered (inboxes : List WebhookInbox) : Response → Prop
  | .duplicate r => Loaded b r ∧ BoundSame b inboxes r
  | .conflict r => Loaded b r ∧ BoundOther b inboxes r
  | _ => True

def acceptedOf (responses : List Response) : List Received :=
  responses.filterMap fun response => match response with
    | .accepted r => some r
    | _ => none

/-- The rows stored and the answers given come from one ledger of deliveries, no two of them
with one key; `received` finds the event of each in the rows of the workers. -/
structure Sound (w : World ι τ) : Prop where
  unique : Unique clash w.sessions
  apart : w.inboxes.Pairwise fun m n => clash m n = false
  ledger : ∃ ledger : List Entry, (∀ x ∈ ledger, Kept b x) ∧ w.inboxes = ledger.map (·.inbox) ∧
    w.events = ledger.map (·.event) ∧ acceptedOf w.responses = ledger.map (·.received)
  loaded : ∀ i r, (w.stage i).received = some r → Loaded b r ∧ Fits b r
  stages : ∀ i, Staged b w.inboxes (w.stage i)
  answers : ∀ response ∈ w.responses, Answered b w.inboxes response
  workers : SelfIgnored w.workers
  received : ∀ e ∈ w.events, ∃ row, w.workers.inbox.find e.id = some row ∧ row.isSelf = e.isSelf

end Backend

variable {b : Backend} {options : InboxWorker.WorkerOptions} {w w' : World ι τ} {i : τ}

theorem clash_symm (m n : WebhookInbox) : clash m n = clash n m := by
  simp [clash, eq_comm]

theorem clash_of_key {m n : WebhookInbox} (h : m.key = n.key) : clash m n = true := by
  simp [clash, h]

/-- A stored row has its columns as the database gives them back. -/
theorem storeInbox_spec {m row : WebhookInbox} (h : storeInbox b m = some row) :
    row.id = m.id ∧ row.geweConnectionId = m.geweConnectionId ∧
      b.varchar 255 m.appId = some row.appId ∧ b.varchar 255 m.dedupKey = some row.dedupKey ∧
      b.varchar 64 m.payloadSha256 = some row.payloadSha256 := by
  obtain ⟨appId, happ, h⟩ := Option.bind_eq_some_iff.mp h
  obtain ⟨newMsgId, -, h⟩ := Option.bind_eq_some_iff.mp h
  obtain ⟨dedupKey, hkey, h⟩ := Option.bind_eq_some_iff.mp h
  obtain ⟨digest, hdigest, h⟩ := Option.bind_eq_some_iff.mp h
  obtain ⟨schema, -, h⟩ := Option.bind_eq_some_iff.mp h
  obtain ⟨payload, -, h⟩ := Option.bind_eq_some_iff.mp h
  cases h
  exact ⟨rfl, rfl, happ, hkey, hdigest⟩

/-- The row of a delivery that fits has its key and its digest. -/
theorem stored_key {r : Received} (hfits : Fits b r) {id traceId : UUID} {now : Time}
    {row : WebhookInbox} (h : storeInbox b (r.inbox b id traceId now) = some row) :
    row.id = id ∧ row.key = r.key b ∧ row.payloadSha256 = r.payloadSha256 b := by
  obtain ⟨hid, hconnection, happ, hkey, hdigest⟩ := storeInbox_spec h
  have happ' := hfits.appId _ happ
  have hkey' := hfits.dedupKey _ hkey
  refine ⟨hid, ?_, hfits.digest _ hdigest⟩
  unfold WebhookInbox.key Received.key
  rw [hconnection, happ', hkey']
  rfl

/-- The same bytes say the same. -/
theorem same_payload {r q : Received} (hr : Loaded b r) (hq : Loaded b q)
    (h : r.rawBody = q.rawBody) : r.payload = q.payload := by
  unfold Loaded at hr hq
  rw [h, hq] at hr
  exact (Json.obj.inj (Except.ok.inj hr)).symm

/-- More rows take nothing back of what a stage has found. -/
theorem Staged.grow {inboxes more : List WebhookInbox} {stage : Stage} (h : Staged b inboxes stage) :
    Staged b (inboxes ++ more) stage := by
  cases stage with
  | violated r =>
    obtain ⟨hqueryable, m, hm, hkey⟩ := h
    exact ⟨hqueryable, m, List.mem_append_left _ hm, hkey⟩
  | duplicate r =>
    obtain ⟨m, hm, hkey⟩ := h
    exact ⟨m, List.mem_append_left _ hm, hkey⟩
  | raised r error =>
    cases error with
    | conflict =>
      obtain ⟨m, hm, hkey⟩ := h
      exact ⟨m, List.mem_append_left _ hm, hkey⟩
    | database => trivial
  | idle => trivial
  | connected r => trivial
  | missing r => exact h
  | inserted r row => exact h
  | added r row event => exact h

theorem Answered.grow {inboxes more : List WebhookInbox} {response : Response}
    (h : Answered b inboxes response) : Answered b (inboxes ++ more) response := by
  cases response with
  | duplicate r =>
    obtain ⟨hloaded, m, hm, hkey⟩ := h
    exact ⟨hloaded, m, List.mem_append_left _ hm, hkey⟩
  | conflict r =>
    obtain ⟨hloaded, m, hm, hkey⟩ := h
    exact ⟨hloaded, m, List.mem_append_left _ hm, hkey⟩
  | accepted r => trivial
  | failed r => trivial
  | rejected statusCode => trivial

omit [DecidableEq ι] in
theorem sessions_moved {next : Stage} (hinboxes : w'.inboxes = w.inboxes)
    (hstage : w'.stage = Function.update w.stage i next) : w'.sessions =
      ⟨w.inboxes, Function.update (fun j => (w.stage j).pending) i next.pending⟩ := by
  unfold World.sessions
  rw [hinboxes, hstage]
  congr 1
  funext j
  by_cases hj : j = i
  · subst hj
    rw [Function.update_self, Function.update_self]
  · rw [Function.update_of_ne hj, Function.update_of_ne hj]

omit [DecidableEq ι] in
/-- A session that keeps its uncommitted row or has none any more. -/
theorem unique_moved (h : Unique clash w.sessions) {next : Stage} (hinboxes : w'.inboxes = w.inboxes)
    (hstage : w'.stage = Function.update w.stage i next)
    (hpending : next.pending = (w.stage i).pending ∨ next.pending = []) :
    Unique clash w'.sessions := by
  rw [sessions_moved hinboxes hstage]
  rcases hpending with hsame | hnone
  · rw [hsame]
    have hself : Function.update (fun j => (w.stage j).pending) i ((w.stage i).pending) =
        fun j => (w.stage j).pending := Function.update_eq_self i _
    rw [hself]
    exact h
  · rw [hnone]
    exact unique_rollback h

omit [DecidableEq ι] [DecidableEq τ] in
theorem visible_alone (h : (w.stage i).pending = []) : w.visible i = w.inboxes := by
  change w.inboxes ++ (w.stage i).pending = w.inboxes
  rw [h, List.append_nil]

omit [DecidableEq ι] [DecidableEq τ] in
/-- The delivery at a stage is the one that the request has loaded. -/
theorem moves_received {a : Action ι τ} {next : Stage} {r : Received} (h : Moves b w a i next)
    (hr : next.received = some r) :
    (w.stage i).received = some r ∨ (requestBody a = some r.rawBody ∧ Loaded b r) := by
  cases h with
  | connected q idle body loaded =>
    cases hr
    exact .inr ⟨body, loaded⟩
  | compared q m was own seen key =>
    left
    unfold World.compare at hr
    split at hr
    · cases hr
      exact was
    · cases hr
      exact was
  | missing q was => exact .inl (by rw [was]; exact hr)
  | violated q id traceId now row m was => exact .inl (by rw [was]; exact hr)
  | inserted q id traceId now row was => exact .inl (by rw [was]; exact hr)
  | added q row id botAccountId was => exact .inl (by rw [was]; exact hr)
  | unsent q was => exact .inl (by rw [was]; exact hr)
  | unstored q id traceId now was => exact .inl (by rw [was]; exact hr)
  | unfound q was => exact .inl (by rw [was]; exact hr)

omit [DecidableEq ι] [DecidableEq τ] in
/-- Every move leads to a stage that is true of the rows. -/
theorem moves_staged (hs : Sound b w) {a : Action ι τ} {next : Stage} (h : Moves b w a i next) :
    Staged b w.inboxes next := by
  have hstage := hs.stages i
  cases h with
  | connected r => trivial
  | missing r was queryable none => exact queryable
  | compared r m was own seen key =>
    rw [visible_alone own] at seen
    unfold World.compare
    by_cases hdigest : m.payloadSha256 = r.payloadSha256 b
    · rw [if_pos hdigest]
      exact ⟨m, seen, key, hdigest⟩
    · rw [if_neg hdigest]
      exact ⟨m, seen, key, hdigest⟩
  | violated r id traceId now row m was fresh stored seen clashes =>
    have hfits := (hs.loaded i r (by rw [was]; rfl)).2
    obtain ⟨hid, hkey, -⟩ := stored_key hfits stored
    rw [visible_alone (by rw [was]; rfl)] at seen
    rw [was] at hstage
    refine ⟨hstage, m, seen, ?_⟩
    rcases Bool.or_eq_true_iff.mp clashes with hsame | hsame
    · exact absurd ((of_decide_eq_true hsame).trans hid) (fresh m seen)
    · exact (of_decide_eq_true hsame).trans hkey
  | inserted r id traceId now row was stored =>
    rw [was] at hstage
    exact ⟨hstage, id, traceId, now, stored⟩
  | added r row id botAccountId was =>
    rw [was] at hstage
    exact ⟨hstage.1, hstage.2, id, botAccountId, rfl⟩
  | unsent r => trivial
  | unstored r => trivial
  | unfound r was none =>
    rw [was] at hstage
    obtain ⟨-, m, hm, hkey⟩ := hstage
    rw [visible_alone (by rw [was]; rfl)] at none
    exact absurd hkey (none m hm)

omit [DecidableEq ι] in
/-- A move adds no second row of a key. -/
theorem moves_unique (hs : Sound b w) {a : Action ι τ} {next : Stage} (h : Moves b w a i next)
    (hinboxes : w'.inboxes = w.inboxes) (hstage : w'.stage = Function.update w.stage i next) :
    Unique clash w'.sessions := by
  have hkept := unique_moved hs.unique hinboxes hstage
  cases h with
  | connected r => exact hkept (.inr rfl)
  | missing r => exact hkept (.inr rfl)
  | compared r m =>
    apply hkept
    right
    unfold World.compare
    split <;> rfl
  | violated r => exact hkept (.inr rfl)
  | added r row id botAccountId was => exact hkept (.inl (by rw [was]; rfl))
  | unsent r => exact hkept (.inr rfl)
  | unstored r => exact hkept (.inr rfl)
  | unfound r => exact hkept (.inr rfl)
  | inserted r id traceId now row was stored unseen free =>
    have hadd := unique_add clash_symm hs.unique unseen free
    have hsessions : w'.sessions = w.sessions.add i row := by
      rw [sessions_moved hinboxes hstage]
      have hnone : (w.stage i).pending = [] := by
        rw [was]
        rfl
      have hown : w.sessions.pending i = [] := hnone
      unfold Sessions.add
      rw [hown]
      rfl
    rw [hsessions]
    exact hadd

theorem acceptedOf_append (responses more : List Response) :
    acceptedOf (responses ++ more) = acceptedOf responses ++ acceptedOf more :=
  List.filterMap_append

theorem mem_acceptedOf {responses : List Response} {r : Received} :
    r ∈ acceptedOf responses ↔ .accepted r ∈ responses := by
  unfold acceptedOf
  rw [List.mem_filterMap]
  constructor
  · rintro ⟨response, hmem, hsome⟩
    cases response with
    | accepted q =>
      cases hsome
      exact hmem
    | duplicate q => cases hsome
    | conflict q => cases hsome
    | failed q => cases hsome
    | rejected statusCode => cases hsome
  · intro hmem
    exact ⟨.accepted r, hmem, rfl⟩

omit [DecidableEq ι] in
theorem stages_updated {inboxes : List WebhookInbox} {next : Stage}
    (h : ∀ j, Staged b inboxes (w.stage j)) (hnext : Staged b inboxes next)
    (hstage : w'.stage = Function.update w.stage i next) (j : τ) : Staged b inboxes (w'.stage j) := by
  rw [hstage]
  by_cases hj : j = i
  · subst hj
    rw [Function.update_self]
    exact hnext
  · rw [Function.update_of_ne hj]
    exact h j

omit [DecidableEq ι] in
theorem loaded_updated (hs : Sound b w) {next : Stage}
    (hnext : ∀ r, next.received = some r → Loaded b r ∧ Fits b r)
    (hstage : w'.stage = Function.update w.stage i next) (j : τ) (r : Received)
    (hr : (w'.stage j).received = some r) : Loaded b r ∧ Fits b r := by
  rw [hstage] at hr
  by_cases hj : j = i
  · subst hj
    rw [Function.update_self] at hr
    exact hnext r hr
  · rw [Function.update_of_ne hj] at hr
    exact hs.loaded j r hr

omit [DecidableEq ι] in
/-- A request that moves on keeps the ledger. -/
theorem sound_moved (hs : Sound b w) {a : Action ι τ} {next : Stage} (hfits : FittingRequest b a)
    (hframe : Frame w w') (hstage : w'.stage = Function.update w.stage i next)
    (hresponses : w'.responses = w.responses) (hmoves : Moves b w a i next) : Sound b w' := by
  constructor
  · exact moves_unique hs hmoves hframe.inboxes hstage
  · rw [hframe.inboxes]
    exact hs.apart
  · rw [hframe.inboxes, hframe.events, hresponses]
    exact hs.ledger
  · apply loaded_updated hs _ hstage
    intro r hr
    rcases moves_received hmoves hr with hold | ⟨hbody, hloaded⟩
    · exact hs.loaded i r hold
    · exact ⟨hloaded, hfits r hbody hloaded⟩
  · rw [hframe.inboxes]
    exact stages_updated hs.stages (moves_staged hs hmoves) hstage
  · rw [hframe.inboxes, hresponses]
    exact hs.answers
  · rw [hframe.workers]
    exact hs.workers
  · rw [hframe.events, hframe.workers]
    exact hs.received

omit [DecidableEq ι] [DecidableEq τ] in
/-- A request that ends gives an answer that is true of the rows. -/
theorem ends_answered (hs : Sound b w) {response : Response}
    (h : Ends b (w.stage i) (some response)) : Answered b w.inboxes response := by
  have hstage := hs.stages i
  have hloaded := hs.loaded i
  generalize hwas : w.stage i = stage at h
  cases h with
  | rejected statusCode => trivial
  | duplicate r =>
    rw [hwas] at hstage hloaded
    exact ⟨(hloaded r rfl).1, hstage⟩
  | conflict r =>
    rw [hwas] at hstage hloaded
    exact ⟨(hloaded r rfl).1, hstage⟩
  | refused r => trivial
  | uncommitted r => trivial

theorem ends_accepts_none {stage : Stage} {response : Option Response} (h : Ends b stage response) :
    acceptedOf response.toList = [] := by
  cases h <;> rfl

omit [DecidableEq ι] in
/-- An answer without a new row keeps the ledger. -/
theorem sound_ended (hs : Sound b w) {response : Option Response} (hframe : Frame w w')
    (hstage : w'.stage = Function.update w.stage i .idle)
    (hresponses : w'.responses = w.responses ++ response.toList)
    (hends : Ends b (w.stage i) response) : Sound b w' := by
  constructor
  · exact unique_moved hs.unique hframe.inboxes hstage (.inr rfl)
  · rw [hframe.inboxes]
    exact hs.apart
  · rw [hframe.inboxes, hframe.events, hresponses, acceptedOf_append, ends_accepts_none hends,
      List.append_nil]
    exact hs.ledger
  · apply loaded_updated hs _ hstage
    intro r hr
    cases hr
  · rw [hframe.inboxes]
    exact stages_updated hs.stages (show Staged b w.inboxes .idle from trivial) hstage
  · rw [hframe.inboxes, hresponses]
    intro answer hanswer
    rcases List.mem_append.mp hanswer with hold | hnew
    · exact hs.answers answer hold
    · have hsome : response = some answer := by
        cases response with
        | none => cases hnew
        | some only => rw [List.mem_singleton.mp hnew]
      subst hsome
      exact ends_answered hs hends
  · rw [hframe.workers]
    exact hs.workers
  · rw [hframe.events, hframe.workers]
    exact hs.received

/-- A row that is committed with its event is a new entry of the ledger. -/
theorem sound_stored (hs : Sound b w) {r : Received} {inbox : WebhookInbox}
    {added event : NormalizedEvent} (was : w.stage i = .added r inbox added)
    (stored : storeEvent b added = some event) (hinboxes : w'.inboxes = w.inboxes ++ [inbox])
    (hevents : w'.events = w.events ++ [event])
    (hstage : w'.stage = Function.update w.stage i .idle)
    (hresponses : w'.responses = w.responses ++ [.accepted r])
    (hworkers : InboxWorker.step options w.workers (.receive event.id event.isSelf
      (needsNoPlugin event) inbox.dispatchAvailableAt) = some w'.workers) : Sound b w' := by
  have hstaged := hs.stages i
  have hloaded := hs.loaded i r (by rw [was]; rfl)
  rw [was] at hstaged
  obtain ⟨hqueryable, ⟨id, traceId, now, hrow⟩, eventId, botAccountId, rfl⟩ := hstaged
  obtain ⟨-, hkey, hdigest⟩ := stored_key hloaded.2 hrow
  have hpending : w.sessions.pending i = [inbox] := by
    change (w.stage i).pending = [inbox]
    rw [was]
    rfl
  have hcommitted : w'.sessions = w.sessions.commit i := by
    unfold Sessions.commit
    rw [hpending]
    unfold World.sessions
    rw [hinboxes, hstage]
    congr 1
    funext j
    by_cases hj : j = i
    · subst hj
      rw [Function.update_self, Function.update_self]
      rfl
    · rw [Function.update_of_ne hj, Function.update_of_ne hj]
  have heffect := InboxWorker.step_effect hworkers
  constructor
  · rw [hcommitted]
    exact unique_commit clash_symm hs.unique
  · rw [hinboxes, List.pairwise_append]
    refine ⟨hs.apart, List.pairwise_singleton _ _, ?_⟩
    intro m hm n hn
    apply hs.unique.fresh i m hm
    rw [hpending]
    exact hn
  · obtain ⟨ledger, hkept, hrows, hstored, haccepted⟩ := hs.ledger
    refine ⟨ledger ++ [⟨r, inbox, event⟩], ?_, ?_, ?_, ?_⟩
    · intro x hx
      rcases List.mem_append.mp hx with hold | hnew
      · exact hkept x hold
      · rw [List.mem_singleton.mp hnew]
        exact ⟨hloaded.1, hqueryable, hkey, hdigest, ⟨id, traceId, now, hrow⟩,
          eventId, botAccountId, stored⟩
    · rw [hinboxes, hrows, List.map_append]
      rfl
    · rw [hevents, hstored, List.map_append]
      rfl
    · rw [hresponses, acceptedOf_append, haccepted, List.map_append]
      rfl
  · apply loaded_updated hs _ hstage
    intro q hq
    cases hq
  · rw [hinboxes]
    exact stages_updated (fun j => (hs.stages j).grow)
      (show Staged b (w.inboxes ++ [inbox]) .idle from trivial) hstage
  · rw [hinboxes, hresponses]
    intro answer hanswer
    rcases List.mem_append.mp hanswer with hold | hnew
    · exact (hs.answers answer hold).grow
    · rw [List.mem_singleton.mp hnew]
      trivial
  · exact selfIgnored_effect hs.workers heffect
  · rw [hevents]
    intro e he
    rcases List.mem_append.mp he with hold | hnew
    · obtain ⟨row, hfind, hself⟩ := hs.received e hold
      obtain ⟨row', hrow', hkept, -⟩ := keeps_effect hs.workers heffect e.id row hfind
      exact ⟨row', hrow', hkept.trans hself⟩
    · rw [List.mem_singleton.mp hnew]
      obtain ⟨rows, hinsert, hafter⟩ := Option.map_eq_some_iff.mp hworkers
      refine ⟨InboxWorker.receivedRow event.id event.isSelf (needsNoPlugin event)
        inbox.dispatchAvailableAt, ?_, rfl⟩
      rw [← hafter]
      change rows.find event.id = _
      rw [Tables.Table.find_insert hinsert]
      exact if_pos rfl

/-- Every step keeps the ledger. -/
theorem sound_step [Fintype τ] (hs : Sound b w) {a : Action ι τ} (hfits : FittingRequest b a)
    (h : step b options w a = some w') : Sound b w' := by
  cases step_change h with
  | administered _ calls frame stage responses =>
    have hsessions : w'.sessions = w.sessions := by
      unfold World.sessions
      rw [frame.inboxes, stage]
    constructor
    · rw [hsessions]
      exact hs.unique
    · rw [frame.inboxes]
      exact hs.apart
    · rw [frame.inboxes, frame.events, responses]
      exact hs.ledger
    · rw [stage]
      exact hs.loaded
    · rw [frame.inboxes, stage]
      exact hs.stages
    · rw [frame.inboxes, responses]
      exact hs.answers
    · rw [frame.workers]
      exact hs.workers
    · rw [frame.events, frame.workers]
      exact hs.received
  | moved _ i next calls frame stage responses moves =>
    exact sound_moved hs hfits frame stage responses moves
  | ended _ i response calls frame stage responses ends =>
    exact sound_ended hs frame stage responses ends
  | stored i r inbox added event was stored inboxes events stage responses workers =>
    exact sound_stored hs was stored inboxes events stage responses workers
  | worked a inboxes events stage responses other workers =>
    have hsessions : w'.sessions = w.sessions := by
      unfold World.sessions
      rw [inboxes, stage]
    have heffect := InboxWorker.step_effect workers
    constructor
    · rw [hsessions]
      exact hs.unique
    · rw [inboxes]
      exact hs.apart
    · rw [inboxes, events, responses]
      exact hs.ledger
    · rw [stage]
      exact hs.loaded
    · rw [inboxes, stage]
      exact hs.stages
    · rw [inboxes, responses]
      exact hs.answers
    · exact selfIgnored_effect hs.workers heffect
    · rw [events]
      intro e he
      obtain ⟨row, hfind, hself⟩ := hs.received e he
      obtain ⟨row', hrow', hkept, -⟩ := keeps_effect hs.workers heffect e.id row hfind
      exact ⟨row', hrow', hkept.trans hself⟩

omit [DecidableEq τ] in
theorem sound_atRest : Sound b (WebhookIngest.atRest ι τ) := by
  constructor
  · constructor
    · intro m hm
      exact absurd hm List.not_mem_nil
    · intro i
      exact .nil
    · intro i m hm
      exact absurd hm List.not_mem_nil
    · intro i j hij m hm
      exact absurd hm List.not_mem_nil
  · exact .nil
  · refine ⟨[], ?_, rfl, rfl, rfl⟩
    intro x hx
    exact absurd hx List.not_mem_nil
  · intro i r hr
    cases hr
  · intro i
    trivial
  · intro response hresponse
    exact absurd hresponse List.not_mem_nil
  · exact selfIgnored_atRest
  · intro e he
    exact absurd he List.not_mem_nil

/-- Every run keeps the ledger. -/
theorem sound_run [Fintype τ] {actions : List (Action ι τ)}
    (hfits : ∀ a ∈ actions, FittingRequest b a) (hs : Sound b w)
    (hrun : run (step b options) w actions = some w') : Sound b w' := by
  induction actions generalizing w with
  | nil =>
    cases hrun
    exact hs
  | cons a actions ih =>
    obtain ⟨u, hstep, hrest⟩ := (run_cons _ _ _ _ _).mp hrun
    apply ih _ _ hrest
    · intro x hx
      exact hfits x (List.mem_cons_of_mem _ hx)
    · exact sound_step hs (hfits a List.mem_cons_self) hstep

theorem storeEvent_inbox {e stored : NormalizedEvent} (h : storeEvent b e = some stored) :
    stored.webhookInboxId = e.webhookInboxId := by
  obtain ⟨eventType, -, h⟩ := Option.bind_eq_some_iff.mp h
  obtain ⟨conversationId, -, h⟩ := Option.bind_eq_some_iff.mp h
  obtain ⟨actorWxid, -, h⟩ := Option.bind_eq_some_iff.mp h
  obtain ⟨toWxid, -, h⟩ := Option.bind_eq_some_iff.mp h
  obtain ⟨providerMessageId, -, h⟩ := Option.bind_eq_some_iff.mp h
  obtain ⟨content, -, h⟩ := Option.bind_eq_some_iff.mp h
  obtain ⟨rawRef, -, h⟩ := Option.bind_eq_some_iff.mp h
  cases h
  rfl

theorem Kept.inboxOf {x : Entry} (h : Kept b x) : x.event.webhookInboxId = x.inbox.id := by
  obtain ⟨id, botAccountId, hevent⟩ := h.event
  exact storeEvent_inbox hevent

theorem clash_false {m n : WebhookInbox} (h : clash m n = false) : m.id ≠ n.id ∧ m.key ≠ n.key := by
  unfold clash at h
  rw [Bool.or_eq_false_iff] at h
  exact ⟨of_decide_eq_false h.1, of_decide_eq_false h.2⟩

omit [DecidableEq ι] [DecidableEq τ] in
/-- The entry of a stored row. -/
theorem Sound.entry (hs : Sound b w) {m : WebhookInbox} (hm : m ∈ w.inboxes) :
    ∃ x, Kept b x ∧ x.inbox = m ∧ x.event ∈ w.events ∧ .accepted x.received ∈ w.responses := by
  obtain ⟨ledger, hkept, hinboxes, hevents, haccepted⟩ := hs.ledger
  rw [hinboxes] at hm
  obtain ⟨x, hx, rfl⟩ := List.mem_map.mp hm
  refine ⟨x, hkept x hx, rfl, ?_, ?_⟩
  · rw [hevents]
    exact List.mem_map.mpr ⟨x, hx, rfl⟩
  · rw [← mem_acceptedOf, haccepted]
    exact List.mem_map.mpr ⟨x, hx, rfl⟩

omit [DecidableEq ι] [DecidableEq τ] in
/-- An accepted delivery has exactly one row, one event and one answer of acceptance. -/
theorem Sound.one_row (hs : Sound b w) {r : Received} (h : .accepted r ∈ w.responses) :
    ∃ m e, w.inboxes.filter (asked b r) = [m] ∧
      w.events.filter (fun e => decide (e.webhookInboxId = m.id)) = [e] ∧
      (acceptedOf w.responses).filter (fun q => decide (q.key b = r.key b)) = [r] ∧
      Kept b ⟨r, m, e⟩ := by
  obtain ⟨ledger, hkept, hinboxes, hevents, haccepted⟩ := hs.ledger
  rw [← mem_acceptedOf, haccepted] at h
  obtain ⟨x, hx, rfl⟩ := List.mem_map.mp h
  have hapart := hs.apart
  rw [hinboxes, List.pairwise_map] at hapart
  refine ⟨x.inbox, x.event, ?_, ?_, ?_, hkept x hx⟩
  · apply filter_single
    · rw [hinboxes, List.pairwise_map]
      apply hapart.imp
      rintro y z hclash ⟨hy, hz⟩
      exact (clash_false hclash).2 ((of_decide_eq_true hy).trans (of_decide_eq_true hz).symm)
    · rw [hinboxes]
      exact List.mem_map.mpr ⟨x, hx, rfl⟩
    · exact decide_eq_true (hkept x hx).key
  · apply filter_single
    · rw [hevents, List.pairwise_map]
      apply hapart.imp_of_mem
      rintro y z hy hz hclash ⟨hyid, hzid⟩
      have hyin := (hkept y hy).inboxOf
      have hzin := (hkept z hz).inboxOf
      have hsame := (of_decide_eq_true hyid).trans (of_decide_eq_true hzid).symm
      exact (clash_false hclash).1 (hyin.symm.trans (hsame.trans hzin))
    · rw [hevents]
      exact List.mem_map.mpr ⟨x, hx, rfl⟩
    · exact decide_eq_true (hkept x hx).inboxOf
  · apply filter_single
    · rw [haccepted, List.pairwise_map]
      apply hapart.imp_of_mem
      rintro y z hy hz hclash ⟨hykey, hzkey⟩
      have hsame := (of_decide_eq_true hykey).trans (of_decide_eq_true hzkey).symm
      exact (clash_false hclash).2 ((hkept y hy).key.trans (hsame.trans (hkept z hz).key.symm))
    · rw [haccepted]
      exact List.mem_map.mpr ⟨x, hx, rfl⟩
    · exact decide_eq_true rfl

omit [DecidableEq ι] [DecidableEq τ] in
/-- The row of an accepted delivery, and of nothing else with its key. -/
theorem Sound.row_of (hs : Sound b w) {q : Received} (h : .accepted q ∈ w.responses) :
    ∃ m e, m ∈ w.inboxes ∧ Kept b ⟨q, m, e⟩ ∧ ∀ n ∈ w.inboxes, n.key = q.key b → n = m := by
  obtain ⟨m, e, hrow, -, -, hkept⟩ := hs.one_row h
  have hmem : ∀ n, n ∈ w.inboxes ∧ n.key = q.key b ↔ n = m := by
    intro n
    have hfilter : n ∈ w.inboxes.filter (asked b q) ↔ n = m := by rw [hrow, List.mem_singleton]
    simpa [List.mem_filter, asked] using hfilter
  exact ⟨m, e, ((hmem m).mpr rfl).1, hkept, fun n hn hkey => (hmem n).mp ⟨hn, hkey⟩⟩

inductive Verdict where
  | stored | duplicate | conflict | refused
  deriving DecidableEq, Repr

/-- What a lookup or an insert has decided. -/
def verdict : Stage → Option (Received × Verdict)
  | .inserted r _ => some (r, .stored)
  | .duplicate r => some (r, .duplicate)
  | .raised r .conflict => some (r, .conflict)
  | .raised r .database => some (r, .refused)
  | _ => none

/-- The database takes the row of the delivery. -/
def Storable (b : Backend) (r : Received) : Prop :=
  ∀ id traceId now, (storeInbox b (r.inbox b id traceId now)).isSome = true

theorem storable_same {r q : Received} {id traceId : UUID} {now : Time} {row : WebhookInbox}
    (hpayload : r.payload = q.payload) (hbody : r.rawBody = q.rawBody)
    (h : storeInbox b (q.inbox b id traceId now) = some row) : Storable b r := by
  have henvelope : r.envelope b = q.envelope b := by
    unfold Received.envelope
    rw [hpayload]
  have hdigest : r.payloadSha256 b = q.payloadSha256 b := by
    unfold Received.payloadSha256
    rw [hbody]
  have hkey : r.dedupKey b = q.dedupKey b := by
    unfold Received.dedupKey
    rw [henvelope, hdigest]
  intro id' traceId' now'
  obtain ⟨appId, happ, h⟩ := Option.bind_eq_some_iff.mp h
  obtain ⟨newMsgId, hmsg, h⟩ := Option.bind_eq_some_iff.mp h
  obtain ⟨dedupKey, hdedup, h⟩ := Option.bind_eq_some_iff.mp h
  obtain ⟨digest, hsha, h⟩ := Option.bind_eq_some_iff.mp h
  obtain ⟨schema, hschema, h⟩ := Option.bind_eq_some_iff.mp h
  obtain ⟨payload, hdoc, h⟩ := Option.bind_eq_some_iff.mp h
  simp only [Received.inbox] at happ hmsg hdedup hsha hschema hdoc
  unfold storeInbox Received.inbox
  simp only [henvelope, hdigest, hkey, hpayload]
  rw [happ, hmsg, hdedup, hsha, hschema, hdoc]
  rfl

theorem digest_inj (hdigest : Function.Injective b.sha256) {r q : Received} :
    r.payloadSha256 b = q.payloadSha256 b ↔ r.rawBody = q.rawBody :=
  hdigest.eq_iff

theorem queryable_of_key {r q : Received} (h : r.key b = q.key b) (hq : Queryable b q) :
    Queryable b r := by
  have happ : (r.envelope b).appId = (q.envelope b).appId := congrArg (fun k => k.2.1) h
  have hkey : r.dedupKey b = q.dedupKey b := congrArg (fun k => k.2.2) h
  unfold Queryable
  rw [happ, hkey]
  exact hq

omit [DecidableEq ι] [DecidableEq τ] in
theorem moves_verdict (hs : Sound b w) {a : Action ι τ} {next : Stage} {r : Received} {v : Verdict}
    {m : WebhookInbox} (h : Moves b w a i next) (hverdict : verdict next = some (r, v))
    (hm : m ∈ w.inboxes) (hkey : m.key = r.key b)
    (honly : ∀ n ∈ w.inboxes, n.key = r.key b → n = m) (hqueryable : Queryable b r) :
    (v = .duplicate ∧ m.payloadSha256 = r.payloadSha256 b) ∨
      (v = .conflict ∧ m.payloadSha256 ≠ r.payloadSha256 b) ∨ (v = .refused ∧ ¬ Storable b r) := by
  cases h with
  | connected p => cases hverdict
  | missing p => cases hverdict
  | violated p => cases hverdict
  | added p => cases hverdict
  | compared p n was own seen key =>
    rw [visible_alone own] at seen
    unfold World.compare at hverdict
    by_cases hdigest : n.payloadSha256 = p.payloadSha256 b
    · rw [if_pos hdigest] at hverdict
      cases hverdict
      obtain rfl := honly n seen key
      exact .inl ⟨rfl, hdigest⟩
    · rw [if_neg hdigest] at hverdict
      cases hverdict
      obtain rfl := honly n seen key
      exact .inr (.inl ⟨rfl, hdigest⟩)
  | inserted p id traceId now row was stored unseen =>
    cases hverdict
    have hfits := (hs.loaded i r (by rw [was]; rfl)).2
    obtain ⟨-, hrow, -⟩ := stored_key hfits stored
    have hclash := not_violates unseen m (List.mem_append_left _ hm)
    rw [clash_of_key (hkey.trans hrow.symm)] at hclash
    cases hclash
  | unsent p was unqueryable =>
    cases hverdict
    exact absurd hqueryable unqueryable
  | unstored p id traceId now was refused =>
    cases hverdict
    right
    right
    refine ⟨rfl, ?_⟩
    intro hstorable
    have hsome := hstorable id traceId now
    rw [refused] at hsome
    cases hsome
  | unfound p was none =>
    cases hverdict
    rw [visible_alone (by rw [was]; rfl)] at none
    exact absurd hkey (none m hm)

theorem step_moves [Fintype τ] {a : Action ι τ} {r : Received} {v : Verdict}
    (h : step b options w a = some w') (hcaller : caller a = some i)
    (hverdict : verdict (w'.stage i) = some (r, v)) :
    Frame w w' ∧ ∃ next, Moves b w a i next ∧ verdict next = some (r, v) := by
  cases step_change h with
  | administered _ calls frame stage =>
    rw [calls] at hcaller
    cases hcaller
  | ended _ j response calls frame stage =>
    obtain rfl := Option.some.inj (calls.symm.trans hcaller)
    rw [stage, Function.update_self] at hverdict
    cases hverdict
  | stored j p inbox added event was stored inboxes events stage =>
    obtain rfl := Option.some.inj hcaller
    rw [stage, Function.update_self] at hverdict
    cases hverdict
  | worked a => cases hcaller
  | moved _ j next calls frame stage responses moves =>
    obtain rfl := Option.some.inj (calls.symm.trans hcaller)
    rw [stage, Function.update_self] at hverdict
    exact ⟨frame, next, moves, hverdict⟩

/-- A delivery of a key that has been accepted is judged by its body. -/
theorem verdict_bound [Fintype τ] (hdigest : Function.Injective b.sha256) (hs : Sound b w)
    {a : Action ι τ} {q r : Received} {v : Verdict} (h : step b options w a = some w')
    (hcaller : caller a = some i) (hverdict : verdict (w'.stage i) = some (r, v))
    (hq : .accepted q ∈ w.responses) (hkey : r.key b = q.key b) :
    (r.rawBody = q.rawBody → Loaded b r → v = .duplicate) ∧
      (r.rawBody ≠ q.rawBody → Storable b r → v = .conflict) := by
  obtain ⟨m, e, hm, hkept, honly⟩ := hs.row_of hq
  obtain ⟨-, next, hmoves, hnext⟩ := step_moves h hcaller hverdict
  have hrow : m.key = r.key b := hkept.key.trans hkey.symm
  have honly' : ∀ n ∈ w.inboxes, n.key = r.key b → n = m := by
    intro n hn hsame
    exact honly n hn (hsame.trans hkey)
  have hsha : m.payloadSha256 = r.payloadSha256 b ↔ r.rawBody = q.rawBody := by
    rw [hkept.digest, digest_inj hdigest]
    exact eq_comm
  have hcases := moves_verdict hs hmoves hnext hm hrow honly' (queryable_of_key hkey hkept.queryable)
  constructor
  · intro hbody hloaded
    rcases hcases with ⟨hv, -⟩ | ⟨-, hother⟩ | ⟨-, hrefused⟩
    · exact hv
    · exact absurd (hsha.mpr hbody) hother
    · obtain ⟨id, traceId, now, hstored⟩ := hkept.stored
      exact absurd (storable_same (same_payload hloaded hkept.loaded hbody) hbody hstored) hrefused
  · intro hbody hstorable
    rcases hcases with ⟨-, hsame⟩ | ⟨hv, -⟩ | ⟨-, hrefused⟩
    · exact absurd (hsha.mp hsame) hbody
    · exact hv
    · exact absurd hstorable hrefused

/-- A statement that leads to a verdict has its delivery before it. -/
theorem verdict_loaded [Fintype τ] (hs : Sound b w) {a : Action ι τ} {r : Received} {v : Verdict}
    (h : step b options w a = some w') (hcaller : caller a = some i)
    (hverdict : verdict (w'.stage i) = some (r, v)) : Loaded b r := by
  obtain ⟨-, next, hmoves, hnext⟩ := step_moves h hcaller hverdict
  have hreceived : next.received = some r := by
    unfold verdict at hnext
    split at hnext <;> cases hnext <;> rfl
  rcases moves_received hmoves hreceived with hold | ⟨-, hloaded⟩
  · exact (hs.loaded i r hold).1
  · exact hloaded

/-- The request has not decided yet, and no other session keeps it from going on. -/
def Undecided (b : Backend) (w : World ι τ) (i : τ) (r : Received) : Prop :=
  (w.stage i = .connected r ∧ ∃ locked, w.lock i r = some locked) ∨
    (w.stage i = .missing r ∧ Storable b r ∧ ∃ id : UUID, id ∉ w.inboxes.map (·.id)) ∨
      w.stage i = .violated r

/-- What a delivery with the bytes of the accepted one is answered, and any other. -/
def answerTo (q r : Received) : Response :=
  if r.rawBody = q.rawBody then .duplicate r else .conflict r

omit [DecidableEq ι] in
theorem stageTo_stage (w : World ι τ) (i : τ) (stage : Stage) : (w.stageTo i stage).stage i = stage :=
  Function.update_self _ _ _

omit [DecidableEq ι] [DecidableEq τ] in
theorem find_bound {r : Received} {m : WebhookInbox} (hown : (w.stage i).pending = [])
    (hm : m ∈ w.inboxes) (hkey : m.key = r.key b)
    (honly : ∀ n ∈ w.inboxes, n.key = r.key b → n = m) :
    (w.visible i).find? (asked b r) = some m := by
  have hsome : ((w.visible i).find? (asked b r)).isSome = true := by
    rw [List.find?_isSome, visible_alone hown]
    exact ⟨m, hm, decide_eq_true hkey⟩
  obtain ⟨n, hn⟩ := Option.isSome_iff_exists.mp hsome
  obtain ⟨hseen, hnkey⟩ := asked_some hn
  rw [visible_alone hown] at hseen
  rw [hn, honly n hseen hnkey]

theorem compared_ends [Fintype τ] (options : InboxWorker.WorkerOptions) {r q : Received}
    {m : WebhookInbox} (hstage : w.stage i = World.compare b r m)
    (hsha : m.payloadSha256 = r.payloadSha256 b ↔ r.rawBody = q.rawBody) :
    ∃ a w', caller a = some i ∧ step b options w a = some w' ∧
      w'.responses = w.responses ++ [answerTo q r] := by
  by_cases hbody : r.rawBody = q.rawBody
  · have hduplicate : w.stage i = .duplicate r := by
      rw [hstage]
      exact if_pos (hsha.mpr hbody)
    obtain ⟨-, -, hresponses⟩ := writeConnection_frame w r
    refine ⟨.commit i, ((w.writeConnection r).rollback i).respond (.duplicate r), rfl, ?_, ?_⟩
    · simp only [step, World.commit, hduplicate]
    rw [answerTo, if_pos hbody]
    exact congrArg (· ++ [.duplicate r]) hresponses
  · have hconflict : w.stage i = .raised r .conflict := by
      rw [hstage]
      exact if_neg fun h => hbody (hsha.mp h)
    refine ⟨.fail i, (w.rollback i).respond (.conflict r), rfl, ?_, ?_⟩
    · simp only [step, World.fail, hconflict]
    rw [answerTo, if_neg hbody]
    rfl

theorem violated_ends [Fintype τ] (options : InboxWorker.WorkerOptions) {r q : Received}
    {m : WebhookInbox} (hstage : w.stage i = .violated r)
    (hm : m ∈ w.inboxes) (hkey : m.key = r.key b)
    (honly : ∀ n ∈ w.inboxes, n.key = r.key b → n = m)
    (hsha : m.payloadSha256 = r.payloadSha256 b ↔ r.rawBody = q.rawBody) :
    ∃ statements w', (∀ a ∈ statements, caller a = some i) ∧
      run (step b options) w statements = some w' ∧
      w'.responses = w.responses ++ [answerTo q r] := by
  have hown : (w.stage i).pending = [] := by
    rw [hstage]
    rfl
  have hlookup : step b options w (.lookupAgain i) = some (w.stageTo i (World.compare b r m)) := by
    simp only [step, World.lookupAgain, hstage, find_bound hown hm hkey honly]
  obtain ⟨a, w', hcaller, hstep, hresponses⟩ := compared_ends options (stageTo_stage w i _) hsha
  refine ⟨[.lookupAgain i, a], w', ?_, ?_, hresponses⟩
  · intro x hx
    rcases List.mem_cons.mp hx with rfl | hx
    · rfl
    · rw [List.mem_singleton.mp hx]
      exact hcaller
  · simp only [run, hlookup, Option.bind_some, hstep]

/-- A request that delivers an accepted key again can always end. -/
theorem redelivery_ends [Fintype τ] (hdigest : Function.Injective b.sha256) (hs : Sound b w)
    {q r : Received} (hq : .accepted q ∈ w.responses) (hkey : r.key b = q.key b)
    (hundecided : Undecided b w i r) : ∃ statements w', (∀ a ∈ statements, caller a = some i) ∧
      run (step b options) w statements = some w' ∧
      w'.responses = w.responses ++ [answerTo q r] := by
  obtain ⟨m, e, hm, hkept, honly⟩ := hs.row_of hq
  have hrow : m.key = r.key b := hkept.key.trans hkey.symm
  have honly' : ∀ n ∈ w.inboxes, n.key = r.key b → n = m := by
    intro n hn hsame
    exact honly n hn (hsame.trans hkey)
  have hsha : m.payloadSha256 = r.payloadSha256 b ↔ r.rawBody = q.rawBody := by
    rw [hkept.digest, digest_inj hdigest]
    exact eq_comm
  rcases hundecided with ⟨hstage, locked, hlock⟩ | ⟨hstage, hstorable, id, hfresh⟩ | hstage
  · obtain ⟨hframe, hsame, hresponses⟩ := lock_frame hlock
    have hqueryable := queryable_of_key hkey hkept.queryable
    have hown : (locked.stage i).pending = [] := by
      rw [hsame, hstage]
      rfl
    have hfind : (locked.visible i).find? (asked b r) = some m := by
      apply find_bound hown
      · rw [hframe.inboxes]
        exact hm
      · exact hrow
      · rw [hframe.inboxes]
        exact honly'
    have hlookup : step b options w (.lookup i) =
        some (locked.stageTo i (World.compare b r m)) := by
      simp only [step, World.lookup, hstage, hlock, Option.map_some, hfind]
      rw [hqueryable.1, hqueryable.2]
      rfl
    obtain ⟨a, w', hcaller, hstep, hanswer⟩ := compared_ends options (stageTo_stage locked i _) hsha
    refine ⟨[.lookup i, a], w', ?_, ?_, ?_⟩
    · intro x hx
      rcases List.mem_cons.mp hx with rfl | hx
      · rfl
      · rw [List.mem_singleton.mp hx]
        exact hcaller
    · simp only [run, hlookup, Option.bind_some, hstep]
    · rw [hanswer]
      exact congrArg (· ++ [answerTo q r]) hresponses
  · obtain ⟨row, hstored⟩ := Option.isSome_iff_exists.mp (hstorable id 0 0)
    have hfits := (hs.loaded i r (by rw [hstage]; rfl)).2
    obtain ⟨-, hrowkey, -⟩ := stored_key hfits hstored
    have hviolates : w.sessions.violates clash i row = true :=
      violates_iff.mpr ⟨m, List.mem_append_left _ hm, clash_of_key (hrow.trans hrowkey.symm)⟩
    have hinsert : step b options w (.insert i id 0 0) = some (w.stageTo i (.violated r)) := by
      simp only [step, World.insert, hstage, hstored]
      rw [if_neg hfresh, if_pos hviolates]
    obtain ⟨statements, w', hcallers, hrun, hanswer⟩ :=
      violated_ends options (stageTo_stage w i (.violated r)) hm hrow honly' hsha
    refine ⟨.insert i id 0 0 :: statements, w', ?_, ?_, hanswer⟩
    · intro x hx
      rcases List.mem_cons.mp hx with rfl | hx
      · rfl
      · exact hcallers x hx
    · simp only [run, hinsert, Option.bind_some, hrun]
  · exact violated_ends options hstage hm hrow honly' hsha

omit [DecidableEq ι] [DecidableEq τ] in
/-- Who is told `duplicate` has sent the body of the accepted delivery. -/
theorem duplicate_answer (hdigest : Function.Injective b.sha256) (hs : Sound b w) {r : Received}
    (h : .duplicate r ∈ w.responses) : ∃ q, .accepted q ∈ w.responses ∧ q.key b = r.key b ∧
      q.rawBody = r.rawBody := by
  obtain ⟨-, m, hm, hkey, hsha⟩ := hs.answers _ h
  obtain ⟨x, hkept, rfl, -, haccepted⟩ := hs.entry hm
  exact ⟨x.received, haccepted, hkept.key.symm.trans hkey,
    (digest_inj hdigest).mp (hkept.digest.symm.trans hsha)⟩

omit [DecidableEq ι] [DecidableEq τ] in
/-- Who is told `conflict` has sent another body than the accepted delivery. -/
theorem conflict_answer (hs : Sound b w) {r : Received} (h : .conflict r ∈ w.responses) :
    ∃ q, .accepted q ∈ w.responses ∧ q.key b = r.key b ∧ q.rawBody ≠ r.rawBody := by
  obtain ⟨-, m, hm, hkey, hsha⟩ := hs.answers _ h
  obtain ⟨x, hkept, rfl, -, haccepted⟩ := hs.entry hm
  refine ⟨x.received, haccepted, hkept.key.symm.trans hkey, ?_⟩
  intro hbody
  apply hsha
  rw [hkept.digest]
  exact congrArg b.sha256 hbody

/-- Stored rows stay, and only an accepted delivery adds to them. -/
theorem step_rows [Fintype τ] {a : Action ι τ} (h : step b options w a = some w') :
    (w'.inboxes = w.inboxes ∧ w'.events = w.events) ∨ ∃ r m e,
      w'.responses = w.responses ++ [.accepted r] ∧ w'.inboxes = w.inboxes ++ [m] ∧
        w'.events = w.events ++ [e] := by
  cases step_change h with
  | administered _ calls frame => exact .inl ⟨frame.inboxes, frame.events⟩
  | moved _ i next calls frame => exact .inl ⟨frame.inboxes, frame.events⟩
  | ended _ i response calls frame => exact .inl ⟨frame.inboxes, frame.events⟩
  | worked a inboxes events => exact .inl ⟨inboxes, events⟩
  | stored i r inbox added event was stored inboxes events stage responses =>
    exact .inr ⟨r, inbox, event, responses, inboxes, events⟩

omit [DecidableEq ι] [DecidableEq τ] in
/-- The events of one's own messages stay ignored. -/
theorem self_not_normalized (hs : Sound b w) {e : NormalizedEvent} (he : e ∈ w.events)
    (hself : e.isSelf = true) : statusOf w.workers.inbox e.id = some .IGNORED_SELF := by
  obtain ⟨row, hfind, hrow⟩ := hs.received e he
  rw [status_of_find hfind, hs.workers.ignored e.id row hfind (hrow.trans hself)]

/-- Deliveries of one body to one connection have one key. -/
theorem same_key {r q : Received} (hr : Loaded b r) (hq : Loaded b q)
    (hconnection : r.connection.id = q.connection.id) (hbody : r.rawBody = q.rawBody) :
    r.key b = q.key b := by
  unfold Received.key Received.dedupKey Received.payloadSha256 Received.envelope
  rw [same_payload hr hq hbody, hconnection, hbody]

/-- Deliveries that fit their columns are ingested once. -/
theorem ingestion_idempotent [Fintype τ] (hdigest : Function.Injective b.sha256)
    {actions : List (Action ι τ)} (hfits : ∀ a ∈ actions, FittingRequest b a)
    (hrun : run (step b options) (WebhookIngest.atRest ι τ) actions = some w) :
    (∀ r, .accepted r ∈ w.responses → ∃ m e, w.inboxes.filter (asked b r) = [m] ∧
      w.events.filter (fun e => decide (e.webhookInboxId = m.id)) = [e] ∧ Kept b ⟨r, m, e⟩) ∧
    (∀ m ∈ w.inboxes, ∃ r, .accepted r ∈ w.responses ∧ m.key = r.key b) ∧
    (∀ a w' i q r v, step b options w a = some w' → caller a = some i →
      verdict (w'.stage i) = some (r, v) → .accepted q ∈ w.responses →
        (r.connection.id = q.connection.id → r.rawBody = q.rawBody → v = .duplicate) ∧
        (r.key b = q.key b → r.rawBody ≠ q.rawBody → Storable b r → v = .conflict)) ∧
    (∀ i q r, .accepted q ∈ w.responses → r.key b = q.key b → Undecided b w i r →
      ∃ statements w', (∀ a ∈ statements, caller a = some i) ∧
        run (step b options) w statements = some w' ∧
        w'.responses = w.responses ++ [answerTo q r]) ∧
    (∀ a w', step b options w a = some w' →
      (w'.inboxes = w.inboxes ∧ w'.events = w.events) ∨ ∃ r m e,
        w'.responses = w.responses ++ [.accepted r] ∧ w'.inboxes = w.inboxes ++ [m] ∧
          w'.events = w.events ++ [e]) ∧
    ∀ e ∈ w.events, e.isSelf = true → statusOf w.workers.inbox e.id ≠ some .NORMALIZED := by
  have hs := sound_run hfits sound_atRest hrun
  refine ⟨?_, ?_, ?_, ?_, ?_, ?_⟩
  · intro r hr
    obtain ⟨m, e, hinbox, hevent, -, hkept⟩ := hs.one_row hr
    exact ⟨m, e, hinbox, hevent, hkept⟩
  · intro m hm
    obtain ⟨x, hkept, rfl, -, haccepted⟩ := hs.entry hm
    exact ⟨x.received, haccepted, hkept.key⟩
  · intro a w' i q r v hstep hcaller hverdict hq
    have hr := verdict_loaded hs hstep hcaller hverdict
    constructor
    · intro hconnection hbody
      obtain ⟨m, e, -, hkept, -⟩ := hs.row_of hq
      have hkey := same_key hr hkept.loaded hconnection hbody
      exact (verdict_bound hdigest hs hstep hcaller hverdict hq hkey).1 hbody hr
    · intro hkey hbody hstorable
      exact (verdict_bound hdigest hs hstep hcaller hverdict hq hkey).2 hbody hstorable
  · intro i q r hq hkey hundecided
    exact redelivery_ends hdigest hs hq hkey hundecided
  · intro a w' hstep
    exact step_rows hstep
  · intro e he hself hstatus
    rw [self_not_normalized hs he hself] at hstatus
    cases hstatus

/-- A column of at most `n` characters: blanks beyond them are cut off. -/
def postgresVarchar (n : Nat) (s : Str) : Option Str :=
  if OutboxService.storable s = false ∨ encodable s = false then none
  else if s.length ≤ n then some s
  else if (s.drop n).all (· == 32) then some (s.take n)
  else none

/-- A text that fits its column is stored as it is. -/
theorem postgresVarchar_short {n : Nat} {s t : Str} (h : postgresVarchar n s = some t)
    (hlength : s.length ≤ n) : t = s := by
  unfold postgresVarchar at h
  rw [if_pos hlength] at h
  split at h
  · cases h
  · exact (Option.some.inj h).symm

/-- A back end that reads the given payloads. -/
def sampleBackend (payloads : List (Bytes × Fields)) : Backend where
  library := ⟨id, fun _ => none⟩
  maxBodyBytes := 100
  loads := fun rawBody => match payloads.find? fun p => decide (p.1 = rawBody) with
    | some p => .ok (.obj p.2)
    | none => .error .invalid
  utf8 := fun s => s.map UInt8.ofNat
  sha256 := fun rawBody => rawBody.map UInt8.toNat
  queries := fun s => OutboxService.storable s && encodable s
  varchar := postgresVarchar
  jsonDocument := some

theorem sampleBackend_injective (payloads : List (Bytes × Fields)) :
    Function.Injective (sampleBackend payloads).sha256 :=
  List.map_injective_iff.mpr fun _ _ h => UInt8.toNat_inj.mp h

/-- A message in the second format. -/
def sampleMessage (newMsgId content : Str) : Fields :=
  [(py "appid", .str (py "app")), (py "newMsgId", .str newMsgId), (py "content", .str content)]

def sampleConnection : GeweConnection := ⟨7, [1, 2], none, none, none⟩

/-- One request after the other, each with its own session. -/
def delivered (first second : Bytes) : List (WebhookIngest.Action Empty Bool) :=
  [.register sampleConnection, .request false [1, 2] first 5, .lookup false, .insert false 1 1 5,
    .addEvent false 2 none, .commit false, .request true [1, 2] second 6, .lookup true]

/-- The second request finds its key bound. -/
def deliveredTwice (first second : Bytes) : List (WebhookIngest.Action Empty Bool) :=
  delivered first second ++ [.fail true]

/-- What was answered to whom. -/
def Response.report : Response → Option (UUID × Bytes × Verdict)
  | .accepted r => some (r.connection.id, r.rawBody, .stored)
  | .duplicate r => some (r.connection.id, r.rawBody, .duplicate)
  | .conflict r => some (r.connection.id, r.rawBody, .conflict)
  | .failed r => some (r.connection.id, r.rawBody, .refused)
  | .rejected _ => none

def reports (b : Backend) (actions : List (WebhookIngest.Action Empty Bool)) :
    Option (List (UUID × Bytes × Verdict)) :=
  (run (step b InboxWorker.defaultOptions) (WebhookIngest.atRest Empty Bool) actions).map fun w =>
    w.responses.filterMap Response.report

/-- An identifier that ends in more blanks than its column takes. -/
def longId : Str := 55 :: List.replicate 300 32

def longBackend : Backend := sampleBackend [([1], sampleMessage longId (py "hello"))]

/-- The stored key is shorter than the one that the lookups ask for. -/
theorem cut_key_conflicts : reports longBackend
    (delivered [1] [1] ++ [.insert true 3 3 6, .lookupAgain true, .fail true]) =
      some [(7, [1], .stored), (7, [1], .conflict)] := by
  decide +kernel

/-- The texts that the deduplication compares have no more characters than their columns. -/
def short (b : Backend) (r : Received) : Bool :=
  decide ((r.envelope b).appId.length ≤ 255 ∧ (r.dedupKey b).length ≤ 255 ∧
    (r.payloadSha256 b).length ≤ 64)

theorem fits_of_short {payloads : List (Bytes × Fields)} {r : Received}
    (h : short (sampleBackend payloads) r = true) : Fits (sampleBackend payloads) r := by
  obtain ⟨happ, hkey, hdigest⟩ := of_decide_eq_true h
  exact ⟨fun s hs => postgresVarchar_short hs happ, fun s hs => postgresVarchar_short hs hkey,
    fun s hs => postgresVarchar_short hs hdigest⟩

omit [DecidableEq ι] [DecidableEq τ] in
theorem sampleBackend_fits {payloads : List (Bytes × Fields)}
    (h : ∀ p ∈ payloads, short (sampleBackend payloads) ⟨sampleConnection, p.1, p.2, 0⟩ = true)
    (a : Action ι τ) : FittingRequest (sampleBackend payloads) a := by
  intro r _ hloaded
  apply fits_of_short
  unfold Loaded sampleBackend at hloaded
  simp only at hloaded
  split at hloaded
  · rename_i p hfind
    have hpayload : p.2 = r.payload := Json.obj.inj (Except.ok.inj hloaded)
    have hbody : p.1 = r.rawBody := by simpa using List.find?_some hfind
    have hshort := h p (List.mem_of_find?_eq_some hfind)
    rw [hpayload, hbody] at hshort
    exact hshort
  · cases hloaded

def shortPayloads : List (Bytes × Fields) :=
  [([1], sampleMessage (py "7") (py "hello")), ([2], sampleMessage [] (py "hello")),
    ([3], sampleMessage [] (py "bye"))]

/-- Both requests are connected before either of them has looked its key up; the second
one waits for the lock of the connection. -/
def race : List (WebhookIngest.Action Empty Bool) :=
  [.register sampleConnection, .request false [1, 2] [1] 5, .request true [1, 2] [1] 6,
    .lookup false, .insert false 1 1 5, .addEvent false 2 none, .commit false, .lookup true,
    .commit true]

def shortRun (actions : List (WebhookIngest.Action Empty Bool)) : Option (World Empty Bool) :=
  run (step (sampleBackend shortPayloads) InboxWorker.defaultOptions)
    (WebhookIngest.atRest Empty Bool) actions

/-- The race, and the deliveries of two messages with an empty identifier. -/
theorem shortRuns_evaluated :
    (∀ p ∈ shortPayloads,
      short (sampleBackend shortPayloads) ⟨sampleConnection, p.1, p.2, 0⟩ = true) ∧
      (shortRun race).map (·.responses.length) = some 2 ∧
      reports (sampleBackend shortPayloads) (deliveredTwice [2] [3]) =
        some [(7, [2], .stored), (7, [3], .conflict)] ∧
      (shortRun (delivered [2] [3]).dropLast).isSome = true := by
  decide +kernel

theorem raceRun_isSome : (shortRun race).isSome = true := (get_of_map shortRuns_evaluated.2.1).1

theorem ingestion_idempotent_race :
    ((shortRun race).get raceRun_isSome).responses.length = 2 ∧ ∀ r,
      .accepted r ∈ ((shortRun race).get raceRun_isSome).responses → ∃ m e,
        ((shortRun race).get raceRun_isSome).inboxes.filter
            (asked (sampleBackend shortPayloads) r) = [m] ∧
          ((shortRun race).get raceRun_isSome).events.filter
            (fun e => decide (e.webhookInboxId = m.id)) = [e] ∧
          Kept (sampleBackend shortPayloads) ⟨r, m, e⟩ := by
  refine ⟨(get_of_map shortRuns_evaluated.2.1).2, ?_⟩
  have hrun : run (step (sampleBackend shortPayloads) InboxWorker.defaultOptions)
      (WebhookIngest.atRest Empty Bool) race = some ((shortRun race).get raceRun_isSome) :=
    (Option.some_get _).symm
  have hfits : ∀ a ∈ race, FittingRequest (sampleBackend shortPayloads) a :=
    fun a _ => sampleBackend_fits shortRuns_evaluated.1 a
  exact (ingestion_idempotent (sampleBackend_injective _) hfits hrun).1

section Lost

variable (b : Backend)

/-- The two deliveries carry the same identifier, or the same bytes. -/
def SameMessage (r q : Received) : Prop :=
  (∃ newMsgId, newMsgId ≠ [] ∧ (r.envelope b).newMsgId = some newMsgId ∧
    (q.envelope b).newMsgId = some newMsgId) ∨ q.rawBody = r.rawBody

/-- The deliveries come from one connection and one app. -/
def SameApp (r q : Received) : Prop :=
  q.connection.id = r.connection.id ∧ (q.envelope b).appId = (r.envelope b).appId

/-- The message has been stored before. -/
def Carried (w : World ι τ) (r : Received) : Prop :=
  ∃ q, .accepted q ∈ w.responses ∧ SameApp b r q ∧ SameMessage b r q

/-- The delivery's identifier is the empty text, and so is that of a stored one with other
bytes. -/
def EmptyIdTaken (w : World ι τ) (r : Received) : Prop :=
  (r.envelope b).newMsgId = some [] ∧ ∃ q, .accepted q ∈ w.responses ∧ SameApp b r q ∧
    (q.envelope b).newMsgId = some [] ∧ q.rawBody ≠ r.rawBody

end Lost

theorem dedupKey_some {r : Received} {newMsgId : Str} (h : (r.envelope b).newMsgId = some newMsgId) :
    r.dedupKey b = py "message:" ++ newMsgId := by
  unfold Received.dedupKey
  rw [h]

theorem dedupKey_none {r : Received} (h : (r.envelope b).newMsgId = none) :
    r.dedupKey b = py "payload:" ++ r.payloadSha256 b := by
  unfold Received.dedupKey
  rw [h]

/-- The two kinds of keys never meet. -/
theorem message_ne_payload (s t : Str) : py "message:" ++ s ≠ py "payload:" ++ t := by
  intro h
  have hhead := congrArg List.head? h
  simp [py] at hhead

/-- Equal keys mean equal identifiers, or none and equal bytes. -/
theorem sameKey_cases (hdigest : Function.Injective b.sha256) {r q : Received}
    (h : q.dedupKey b = r.dedupKey b) :
    (∃ newMsgId, (r.envelope b).newMsgId = some newMsgId ∧ (q.envelope b).newMsgId = some newMsgId) ∨
      q.rawBody = r.rawBody := by
  cases hr : (r.envelope b).newMsgId with
  | none =>
    rw [dedupKey_none hr] at h
    cases hq : (q.envelope b).newMsgId with
    | none =>
      rw [dedupKey_none hq] at h
      exact .inr ((digest_inj hdigest).mp (List.append_cancel_left h))
    | some newMsgId =>
      rw [dedupKey_some hq] at h
      exact absurd h (message_ne_payload _ _)
  | some newMsgId =>
    rw [dedupKey_some hr] at h
    cases hq : (q.envelope b).newMsgId with
    | none =>
      rw [dedupKey_none hq] at h
      exact absurd h.symm (message_ne_payload _ _)
    | some other =>
      rw [dedupKey_some hq] at h
      exact .inl ⟨newMsgId, rfl, by rw [List.append_cancel_left h]⟩

omit [DecidableEq ι] [DecidableEq τ] in
/-- A delivery that is reported has its key bound. -/
theorem reported_bound (hs : Sound b w) {a : Action ι τ} {next : Stage} {r : Received} {v : Verdict}
    (h : Moves b w a i next) (hverdict : verdict next = some (r, v))
    (hreported : v = .duplicate ∨ v = .conflict) : ∃ m ∈ w.inboxes, m.key = r.key b := by
  have hstaged := moves_staged hs h
  unfold verdict at hverdict
  split at hverdict
  · cases hverdict
    rcases hreported with hv | hv <;> cases hv
  · cases hverdict
    obtain ⟨m, hm, hkey, -⟩ := hstaged
    exact ⟨m, hm, hkey⟩
  · cases hverdict
    obtain ⟨m, hm, hkey, -⟩ := hstaged
    exact ⟨m, hm, hkey⟩
  · cases hverdict
    rcases hreported with hv | hv <;> cases hv
  · cases hverdict

omit [DecidableEq ι] [DecidableEq τ] in
/-- A delivery to a bound key is carried unless an empty id has taken the key. -/
theorem carried_iff (hdigest : Function.Injective b.sha256) (hs : Sound b w) {r : Received}
    (hr : Loaded b r) (hbound : ∃ m ∈ w.inboxes, m.key = r.key b) :
    Carried b w r ↔ ¬ EmptyIdTaken b w r := by
  constructor
  · rintro ⟨q, hq, happ, hsame⟩ ⟨hempty, p, hp, hpapp, hpempty, hpbody⟩
    rcases hsame with ⟨newMsgId, hne, hid, -⟩ | hbody
    · rw [hempty] at hid
      exact hne (Option.some.inj hid).symm
    · obtain ⟨m, e, hm, hkept, honlyq⟩ := hs.row_of hq
      obtain ⟨n, f, hn, hkeptp, honly⟩ := hs.row_of hp
      have hpayload := same_payload hkept.loaded hr hbody
      have hqempty : (q.envelope b).newMsgId = some [] := by
        unfold Received.envelope at hempty ⊢
        rw [hpayload]
        exact hempty
      have hkey : q.key b = p.key b := by
        unfold Received.key
        rw [happ.1, happ.2, hpapp.1, hpapp.2, dedupKey_some hqempty, dedupKey_some hpempty]
      obtain rfl := honly m hm (hkept.key.trans hkey)
      have hbodies := (digest_inj hdigest).mp (hkept.digest.symm.trans hkeptp.digest)
      exact hpbody (hbodies.symm.trans hbody)
  · intro hfree
    obtain ⟨m, hm, hkey⟩ := hbound
    obtain ⟨x, hkept, rfl, -, haccepted⟩ := hs.entry hm
    have hsame : x.received.key b = r.key b := hkept.key.symm.trans hkey
    have happ : SameApp b r x.received :=
      ⟨congrArg Prod.fst hsame, congrArg (fun k => k.2.1) hsame⟩
    refine ⟨x.received, haccepted, happ, ?_⟩
    rcases sameKey_cases hdigest (congrArg (fun k => k.2.2) hsame) with ⟨newMsgId, hid, hxid⟩ | hbody
    · by_cases hempty : newMsgId = []
      · subst hempty
        right
        by_contra hbody
        exact hfree ⟨hid, x.received, haccepted, happ, hxid, hbody⟩
      · exact .inl ⟨newMsgId, hempty, hid, hxid⟩
    · exact .inr hbody

/-- A delivery that fits its columns is taken for a stored one exactly if it is one, except
for an empty identifier. -/
theorem lost_webhooks [Fintype τ] (hdigest : Function.Injective b.sha256)
    {actions : List (Action ι τ)} (hfits : ∀ a ∈ actions, FittingRequest b a)
    (hrun : run (step b options) (WebhookIngest.atRest ι τ) actions = some w)
    (a : Action ι τ) (w' : World ι τ) (i : τ) (r : Received) (v : Verdict)
    (hstep : step b options w a = some w') (hcaller : caller a = some i)
    (hverdict : verdict (w'.stage i) = some (r, v)) (hreported : v = .duplicate ∨ v = .conflict) :
    Carried b w r ↔ ¬ EmptyIdTaken b w r := by
  have hs := sound_run hfits sound_atRest hrun
  obtain ⟨-, next, hmoves, hnext⟩ := step_moves hstep hcaller hverdict
  have hr := verdict_loaded hs hstep hcaller hverdict
  exact carried_iff hdigest hs hr (reported_bound hs hmoves hnext hreported)

/-- Two messages with an empty identifier have one key, so that the second is a conflict. -/
theorem empty_id_lost : reports (sampleBackend shortPayloads) (deliveredTwice [2] [3]) =
    some [(7, [2], .stored), (7, [3], .conflict)] :=
  shortRuns_evaluated.2.2.1

theorem deliveredRun_isSome : (shortRun (delivered [2] [3]).dropLast).isSome = true :=
  shortRuns_evaluated.2.2.2

/-- The second delivery as its request has loaded it. -/
def byeReceived : Received where
  connection := { sampleConnection with lastCallbackAt := some 5, callbackVerifiedAt := some 5 }
  rawBody := [3]
  payload := sampleMessage [] (py "bye")
  now := 6

theorem lost_webhooks_empty :
    Carried (sampleBackend shortPayloads) ((shortRun (delivered [2] [3]).dropLast).get
        deliveredRun_isSome) byeReceived ↔
      ¬ EmptyIdTaken (sampleBackend shortPayloads) ((shortRun (delivered [2] [3]).dropLast).get
        deliveredRun_isSome) byeReceived := by
  have hrun : run (step (sampleBackend shortPayloads) InboxWorker.defaultOptions)
      (WebhookIngest.atRest Empty Bool) (delivered [2] [3]).dropLast =
        some ((shortRun (delivered [2] [3]).dropLast).get deliveredRun_isSome) :=
    (Option.some_get _).symm
  have hfits : ∀ a ∈ (delivered [2] [3]).dropLast, FittingRequest (sampleBackend shortPayloads) a :=
    fun a _ => sampleBackend_fits shortRuns_evaluated.1 a
  have hverdict : (step (sampleBackend shortPayloads) InboxWorker.defaultOptions
      ((shortRun (delivered [2] [3]).dropLast).get deliveredRun_isSome) (.lookup true)).map
        (fun w => verdict (w.stage true)) = some (some (byeReceived, .conflict)) := rfl
  obtain ⟨w', hstep, hverdict⟩ := Option.map_eq_some_iff.mp hverdict
  exact lost_webhooks (sampleBackend_injective _) hfits hrun (.lookup true) w' true byeReceived
    .conflict hstep rfl hverdict (.inr rfl)

end WechatBot.WebhookDedup
