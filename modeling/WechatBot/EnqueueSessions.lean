import WechatBot.AccountSerial
import WechatBot.ActionText
import WechatBot.OutboxStamps
import WechatBot.UniqueRows

/-!
# Enqueueing in concurrent sessions

`enqueue_text` statement by statement, in any number of database sessions beside the
senders: a lookup by key, the account, the insert in its savepoint and, after a unique
violation, a second lookup. A session may make several calls before it commits.
-/
namespace WechatBot.EnqueueSessions

open PyData OutboxState OutboxService SenderSystem OutboxStamps UniqueRows
open Sender (SenderOptions)
open ActionText (canonicalText canonicalText_injective)
open Results (bind_ok)
open Tables (Table)
open Runs (run run_cons run_invariant)

/-- What `enqueue_text` has computed before its first query. -/
structure Prepared where
  action : CanonicalAction
  message : OutboxMessage
  deriving DecidableEq, Repr

def Prepared.key (p : Prepared) : Str := p.message.idempotencyKey

def prepare (sha256 : CanonicalAction → Str) (request : EnqueueRequest) (now : Time) (id : UUID) :
    Except EnqueueError Prepared := do
  let (key, target, expiry, payload) ← normalizeRequest request now
  let action := canonicalAction request target expiry payload
  let payloadSha256 ← actionHash sha256 action
  return ⟨action, newMessage id request key target payloadSha256 expiry payload now⟩

/-- `_find_by_idempotency_key` on the rows that the session sees. -/
def findByKey (rows : List OutboxMessage) (key : Str) : Except EnqueueError (Option OutboxMessage) :=
  if encodable key = false then .error (.valueError "surrogates not allowed")
  else if storable key = false then .error .dataError
  else .ok (rows.find? fun m => decide (m.idempotencyKey = key))

/-- The database takes the texts of the row. -/
def storableRow (m : OutboxMessage) : Bool :=
  match m.payload with
  | .valid payload => storable m.targetWxid && storable payload.text && payload.atWxids.all storable
  | .invalid => false

/-- The primary key and the unique constraint on the idempotency key. -/
def clash (a b : OutboxMessage) : Bool :=
  decide (a.id = b.id) || decide (a.idempotencyKey = b.idempotencyKey)

/-- Where a call stands in its session. -/
inductive Stage where
  | idle
  | missing (p : Prepared)
  | checked (p : Prepared)
  | violated (p : Prepared)
  | answered (p : Prepared) (result : Except EnqueueError OutboxMessage)

def Stage.running : Stage → Option Prepared
  | .missing p => some p
  | .checked p => some p
  | .violated p => some p
  | _ => none

/-- `pending` are the uncommitted rows of a session. -/
structure Enqueuing (ι κ τ : Type) where
  world : World ι κ
  pending : τ → List OutboxMessage
  stage : τ → Stage

inductive Action (ι κ τ : Type) where
  | sender (a : SenderSystem.Action ι κ)
  | call (i : τ) (request : EnqueueRequest) (now : Time) (id : UUID)
  | checkAccount (i : τ)
  | insert (i : τ)
  | lookupAgain (i : τ)
  | commit (i : τ)
  | rollback (i : τ)

variable {ι κ τ : Type} [DecidableEq ι] [DecidableEq κ] [DecidableEq τ]

def Enqueuing.sessions (w : Enqueuing ι κ τ) : Sessions OutboxMessage τ :=
  ⟨w.world.outbox.rows, w.pending⟩

def Enqueuing.visible (w : Enqueuing ι κ τ) (i : τ) : List OutboxMessage := w.sessions.visible i

def Enqueuing.stageTo (w : Enqueuing ι κ τ) (i : τ) (stage : Stage) : Enqueuing ι κ τ :=
  { w with stage := Function.update w.stage i stage }

def Enqueuing.call (sha256 : CanonicalAction → Str) (w : Enqueuing ι κ τ) (i : τ)
    (request : EnqueueRequest) (now : Time) (id : UUID) : Option (Enqueuing ι κ τ) :=
  match (w.stage i).running with
  | some _ => none
  | none =>
    match prepare sha256 request now id with
    | .error _ => some (w.stageTo i .idle)
    | .ok p =>
      match findByKey (w.visible i) p.key with
      | .error error => some (w.stageTo i (.answered p (.error error)))
      | .ok (some existing) =>
        some (w.stageTo i (.answered p (matchExisting existing p.message.payloadSha256)))
      | .ok none => some (w.stageTo i (.missing p))

def Enqueuing.checkAccount (w : Enqueuing ι κ τ) (i : τ) : Option (Enqueuing ι κ τ) :=
  match w.stage i with
  | .missing p =>
    if (w.world.around.botAccount p.message.botAccountId).isSome then
      some (w.stageTo i (.checked p))
    else some (w.stageTo i (.answered p (.error .accountNotFound)))
  | _ => none

def Enqueuing.lookupAgain (w : Enqueuing ι κ τ) (i : τ) : Option (Enqueuing ι κ τ) :=
  match w.stage i with
  | .violated p =>
    match findByKey (w.visible i) p.key with
    | .error error => some (w.stageTo i (.answered p (.error error)))
    | .ok (some raced) =>
      some (w.stageTo i (.answered p (matchExisting raced p.message.payloadSha256)))
    | .ok none => some (w.stageTo i (.answered p (.error .dataError)))
  | _ => none

/-- The rows of a session that commits. -/
def insertAll (t : Outbox) (rows : List OutboxMessage) : Option Outbox := rows.foldlM Table.insert t

def Enqueuing.commit (w : Enqueuing ι κ τ) (i : τ) : Option (Enqueuing ι κ τ) :=
  match (w.stage i).running with
  | some _ => none
  | none =>
    (insertAll w.world.outbox (w.pending i)).map fun outbox =>
      ({ w with
        world := { w.world with outbox := outbox }
        pending := Function.update w.pending i [] } : Enqueuing ι κ τ).stageTo i .idle

def Enqueuing.rollback (w : Enqueuing ι κ τ) (i : τ) : Enqueuing ι κ τ :=
  ({ w with pending := Function.update w.pending i [] } : Enqueuing ι κ τ).stageTo i .idle

/-- `enqueue_text` as one step: here the sessions take its place. -/
def enqueues : SenderSystem.Action ι κ → Bool
  | .enqueue _ _ _ => true
  | _ => false

section Step

variable [Fintype ι] [Fintype κ] [Fintype τ]

/-- The insert in its savepoint; it waits for the session that has the key. -/
def Enqueuing.insert (w : Enqueuing ι κ τ) (i : τ) : Option (Enqueuing ι κ τ) :=
  match w.stage i with
  | .checked p =>
    if storableRow p.message = false then some (w.stageTo i (.answered p (.error .dataError)))
    else if w.sessions.violates clash i p.message then some (w.stageTo i (.violated p))
    else if w.sessions.Waits clash i p.message then none
    else some (({ w with pending := (w.sessions.add i p.message).pending } : Enqueuing ι κ τ).stageTo i
      (.answered p (.ok p.message)))
  | _ => none

def step (setup : Setup ι) (w : Enqueuing ι κ τ) : Action ι κ τ → Option (Enqueuing ι κ τ)
  | .sender a =>
    if enqueues a then none
    else (SenderSystem.step setup w.world a).map fun world => { w with world := world }
  | .call i request now id => w.call setup.sha256 i request now id
  | .checkAccount i => w.checkAccount i
  | .insert i => w.insert i
  | .lookupAgain i => w.lookupAgain i
  | .commit i => w.commit i
  | .rollback i => some (w.rollback i)

end Step

def Enqueuing.start (around : Policy.Surroundings) : Enqueuing ι κ τ :=
  ⟨atRest (Table.empty _) around, fun _ => [], fun _ => .idle⟩

/-- The digest of the canonical text of an action. -/
def hashedSetup (digest : Str → Str) (options : ι → SenderOptions) : Setup ι :=
  ⟨fun action => digest (canonicalText action), options⟩

/-- The action that a row was enqueued for. -/
def storedAction (m : OutboxMessage) : Option CanonicalAction :=
  match m.payload, m.authorizationContext with
  | .valid payload, none =>
    some ⟨m.actionType, none, m.botAccountId, m.expiresAt, payload, m.priority, m.targetWxid⟩
  | .valid payload, some (.valid context) =>
    some ⟨m.actionType, some context, m.botAccountId, m.expiresAt, payload, m.priority, m.targetWxid⟩
  | _, _ => none

/-- The row of an action and of its digest. -/
structure Hashed (sha256 : CanonicalAction → Str) (action : CanonicalAction) (m : OutboxMessage) :
    Prop where
  stored : storedAction m = some action
  hash : m.payloadSha256 = sha256 action

theorem storedAction_same {m m' : OutboxMessage} (h : SameAction m m') :
    storedAction m' = storedAction m := by
  unfold storedAction
  rw [h.payload, h.context, h.action, h.account, h.expires, h.priority, h.target]

/-- A row keeps its digest as long as it keeps its action. -/
theorem Hashed.same {sha256 : CanonicalAction → Str} {action : CanonicalAction} {m m' : OutboxMessage}
    (hm : Hashed sha256 action m) (h : SameAction m m') : Hashed sha256 action m' :=
  ⟨(storedAction_same h).trans hm.stored, h.hash.trans hm.hash⟩

/-- A request is prepared with its own action and digest. -/
theorem prepare_hashed {sha256 : CanonicalAction → Str} {request : EnqueueRequest} {now : Time}
    {id : UUID} {p : Prepared} (h : prepare sha256 request now id = .ok p) :
    Hashed sha256 p.action p.message := by
  obtain ⟨⟨key, target, expiry, payload⟩, -, h⟩ := bind_ok.mp h
  obtain ⟨hash, hhash, h⟩ := bind_ok.mp h
  cases h
  have hdigest : hash = sha256 (canonicalAction request target expiry payload) := by
    unfold actionHash at hhash
    split at hhash
    · cases hhash
    · exact (Except.ok.inj hhash).symm
  constructor
  · cases hcontext : request.authorizationContext <;>
      simp [storedAction, newMessage, canonicalAction, hcontext]
  · exact hdigest

/-- The comparison by digest compares the actions. -/
theorem matchExisting_hashed {sha256 : CanonicalAction → Str} (hinj : Function.Injective sha256)
    {action : CanonicalAction} {m n : OutboxMessage} {stored : CanonicalAction}
    (hm : Hashed sha256 stored m) (hn : Hashed sha256 action n) :
    matchExisting m n.payloadSha256 =
      if storedAction m = some action then .ok m else .error .idempotencyConflict := by
  unfold matchExisting
  rw [hm.hash, hn.hash, hm.stored]
  by_cases hsame : stored = action
  · simp [hsame]
  · have hdigest : sha256 stored ≠ sha256 action := fun h => hsame (hinj h)
    simp [hsame, hdigest]

theorem clash_symm (a b : OutboxMessage) : clash a b = clash b a := by
  simp [clash, eq_comm]

theorem clash_of_key {a b : OutboxMessage} (h : a.idempotencyKey = b.idempotencyKey) :
    clash a b = true := by
  simp [clash, h]

/-- Rows of the same action clash with the same rows. -/
theorem clash_same {a a' : OutboxMessage} (h : SameAction a a') (b : OutboxMessage) :
    clash a' b = clash a b := by
  unfold clash
  rw [h.id, h.key]

omit [DecidableEq ι] [DecidableEq κ] in
/-- Nothing but a request writes the action of a row. -/
theorem written_same {setup : Setup ι} {w : World ι κ} {a : SenderSystem.Action ι κ} {t : Outbox}
    (h : Written setup w a t) (ha : enqueues a = false) : Rewrites SameAction w.outbox t := by
  cases h with
  | untouched => exact .refl _ _
  | enqueued => cases ha
  | recovered _ _ _ _ rewrites => exact rewrites.mono fun _ _ hab => hab.2.same
  | cancelled _ _ _ _ rewrites => exact rewrites.mono fun _ _ hab => hab.2.same
  | reconciled _ _ _ _ _ rewrites => exact rewrites.mono fun _ _ hab => hab.2.same
  | claimed _ _ _ _ _ _ rewrites => exact rewrites.mono fun _ _ hab => hab.2.same
  | extended _ _ _ _ _ _ rewrites => exact rewrites.mono fun _ _ hab => hab.2.same
  | prepared _ _ _ _ _ _ _ rewrites => exact rewrites.mono fun _ _ hab => hab.2.same
  | finished _ _ _ _ _ _ _ _ rewrites => exact rewrites.mono fun _ _ hab => hab.2.2.same

/-- A row after a rewriting and the row that it was. -/
theorem rewrites_source {t t' : Outbox} (h : Rewrites SameAction t t') {m' : OutboxMessage}
    (hm' : m' ∈ t'.rows) : ∃ m ∈ t.rows, SameAction m m' := by
  obtain ⟨m, hm, hchange⟩ := h.back (Table.mem_iff_find.mp hm')
  refine ⟨m, Table.find_mem hm, ?_⟩
  rcases hchange with rfl | hsame
  · exact .refl _
  · exact hsame

omit [DecidableEq τ] in
theorem unique_rewrites {t t' : Outbox} {pending : τ → List OutboxMessage}
    (h : Rewrites SameAction t t') (hs : Unique clash ⟨t.rows, pending⟩) :
    Unique clash ⟨t'.rows, pending⟩ := by
  apply unique_refresh hs
  · intro a ha b hb hclash
    obtain ⟨m, hm, hma⟩ := rewrites_source h ha
    obtain ⟨n, hn, hnb⟩ := rewrites_source h hb
    rw [clash_same hma, clash_symm, clash_same hnb, clash_symm] at hclash
    obtain rfl := hs.committed m hm n hn hclash
    exact Table.eq_of_key ha hb (hma.id.trans hnb.id.symm)
  · intro a ha
    obtain ⟨m, hm, hma⟩ := rewrites_source h ha
    exact ⟨m, hm, clash_same hma⟩

/-- The rows of a commit are appended in their order. -/
theorem insertAll_rows {t t' : Outbox} {rows : List OutboxMessage}
    (h : insertAll t rows = some t') : t'.rows = t.rows ++ rows := by
  induction rows generalizing t with
  | nil =>
    obtain rfl : t = t' := Option.some.inj h
    simp
  | cons m rows ih =>
    obtain ⟨u, hinsert, hrest⟩ := Option.bind_eq_some_iff.mp h
    rw [ih hrest, Table.insert_rows hinsert, List.append_assoc]
    rfl

/-- What the database takes: the account is there, and so are no texts that it refuses. -/
structure Admissible (w : Enqueuing ι κ τ) (p : Prepared) : Prop where
  account : (w.world.around.botAccount p.message.botAccountId).isSome = true
  row : storableRow p.message = true
  keyEncodable : encodable p.key = true
  keyStorable : storable p.key = true

/-- Where a statement leaves its call, next to the rows that it saw. -/
inductive Proper (sha256 : CanonicalAction → Str) (w : Enqueuing ι κ τ) (i : τ) : Stage → Prop where
  | idle : Proper sha256 w i .idle
  | running (stage : Stage) (p : Prepared) (isRunning : stage.running = some p)
      (hashed : Hashed sha256 p.action p.message) : Proper sha256 w i stage
  | raised (p : Prepared) (error : EnqueueError)
      (excuse : Admissible w p → ∀ m ∈ w.visible i, m.idempotencyKey ≠ p.key) :
      Proper sha256 w i (.answered p (.error error))
  | compared (p : Prepared) (m : OutboxMessage) (hashed : Hashed sha256 p.action p.message)
      (seen : m ∈ w.visible i) (key : m.idempotencyKey = p.key) :
      Proper sha256 w i (.answered p (matchExisting m p.message.payloadSha256))

variable {sha256 : CanonicalAction → Str} {w w' : Enqueuing ι κ τ} {i : τ}

theorem findByKey_some {rows : List OutboxMessage} {key : Str} {m : OutboxMessage}
    (h : findByKey rows key = .ok (some m)) : m ∈ rows ∧ m.idempotencyKey = key := by
  unfold findByKey at h
  split at h
  · cases h
  split at h
  · cases h
  · have hfind := Except.ok.inj h
    exact ⟨List.mem_of_find?_eq_some hfind, by simpa using List.find?_some hfind⟩

theorem findByKey_none {rows : List OutboxMessage} {key : Str}
    (h : findByKey rows key = .ok none) : ∀ m ∈ rows, m.idempotencyKey ≠ key := by
  unfold findByKey at h
  split at h
  · cases h
  split at h
  · cases h
  · intro m hm
    simpa using List.find?_eq_none.mp (Except.ok.inj h) m hm

/-- Only a key that no column stores makes the lookup fail. -/
theorem findByKey_error {rows : List OutboxMessage} {key : Str} {error : EnqueueError}
    (h : findByKey rows key = .error error) : ¬ (encodable key = true ∧ storable key = true) := by
  rintro ⟨hencodable, hstorable⟩
  unfold findByKey at h
  rw [hencodable, hstorable] at h
  cases h

omit [DecidableEq ι] [DecidableEq κ] [DecidableEq τ] in
/-- The lookup leads to a proper stage. -/
theorem lookup_proper {p : Prepared} (hp : Hashed sha256 p.action p.message) (stage : Stage)
    (hnone : stage.running = some p ∨ ∃ error, stage = .answered p (.error error)) :
    Proper sha256 w i (match findByKey (w.visible i) p.key with
      | .error error => .answered p (.error error)
      | .ok (some found) => .answered p (matchExisting found p.message.payloadSha256)
      | .ok none => stage) := by
  split
  · rename_i error herror
    apply Proper.raised
    intro hadmissible
    exact absurd ⟨hadmissible.keyEncodable, hadmissible.keyStorable⟩ (findByKey_error herror)
  · rename_i found hfound
    obtain ⟨hseen, hkey⟩ := findByKey_some hfound
    exact .compared p found hp hseen hkey
  · rename_i hmissing
    rcases hnone with hrunning | ⟨error, rfl⟩
    · exact .running stage p hrunning hp
    · exact .raised p error fun _ => findByKey_none hmissing

omit [DecidableEq ι] [DecidableEq κ] in
/-- A call that is let in starts at a proper stage. -/
theorem call_proper {request : EnqueueRequest} {now : Time} {id : UUID}
    (h : w.call sha256 i request now id = some w') :
    ∃ stage, w' = w.stageTo i stage ∧ Proper sha256 w i stage := by
  unfold Enqueuing.call at h
  split at h
  · cases h
  split at h
  · cases h
    exact ⟨.idle, rfl, .idle⟩
  · rename_i p hprepare
    have hp := prepare_hashed hprepare
    refine ⟨_, ?_, lookup_proper hp (.missing p) (.inl rfl)⟩
    split at h <;> cases h <;> rfl

omit [DecidableEq ι] [DecidableEq κ] in
theorem checkAccount_proper (hs : ∀ j p, (w.stage j).running = some p →
    Hashed sha256 p.action p.message) (h : w.checkAccount i = some w') :
    ∃ stage, w' = w.stageTo i stage ∧ Proper sha256 w i stage := by
  unfold Enqueuing.checkAccount at h
  split at h
  · rename_i p hstage
    have hp := hs i p (by rw [hstage]; rfl)
    split at h
    · cases h
      exact ⟨_, rfl, .running _ p rfl hp⟩
    · rename_i hmissing
      cases h
      exact ⟨_, rfl, .raised p _ fun hadmissible => absurd hadmissible.account hmissing⟩
  · cases h

omit [DecidableEq ι] [DecidableEq κ] in
theorem lookupAgain_proper (hs : ∀ j p, (w.stage j).running = some p →
    Hashed sha256 p.action p.message) (h : w.lookupAgain i = some w') :
    ∃ stage, w' = w.stageTo i stage ∧ Proper sha256 w i stage := by
  unfold Enqueuing.lookupAgain at h
  split at h
  · rename_i p hstage
    have hp := hs i p (by rw [hstage]; rfl)
    refine ⟨_, ?_, lookup_proper hp (.answered p (.error .dataError)) (.inr ⟨_, rfl⟩)⟩
    split at h <;> cases h <;> rfl
  · cases h

variable [Fintype ι] [Fintype κ] [Fintype τ]

/-- A row that is added under a key that its session did not see. -/
structure Added (sha256 : CanonicalAction → Str) (w w' : Enqueuing ι κ τ) (i : τ) (p : Prepared) :
    Prop where
  hashed : Hashed sha256 p.action p.message
  fresh : w.sessions.violates clash i p.message = false
  free : ¬ w.sessions.Waits clash i p.message
  sessions : w'.sessions = w.sessions.add i p.message
  world : w'.world = w.world
  stage : w'.stage = Function.update w.stage i (.answered p (.ok p.message))

omit [DecidableEq ι] [DecidableEq κ] [Fintype ι] [Fintype κ] in
/-- An insert ends at a proper stage, or adds its row to the session. -/
theorem insert_cases (hs : ∀ j p, (w.stage j).running = some p → Hashed sha256 p.action p.message)
    (h : w.insert i = some w') :
    (∃ stage, w' = w.stageTo i stage ∧ Proper sha256 w i stage) ∨ ∃ p, Added sha256 w w' i p := by
  unfold Enqueuing.insert at h
  split at h
  · rename_i p hstage
    have hp := hs i p (by rw [hstage]; rfl)
    split at h
    · rename_i hunstorable
      cases h
      refine .inl ⟨_, rfl, .raised p _ fun hadmissible => ?_⟩
      rw [hadmissible.row] at hunstorable
      cases hunstorable
    split at h
    · cases h
      exact .inl ⟨_, rfl, .running _ p rfl hp⟩
    split at h
    · cases h
    · rename_i hfresh hfree
      cases h
      exact .inr ⟨p, hp, by simpa using hfresh, hfree, rfl, rfl, rfl⟩
  · cases h

/-- The session whose call a statement belongs to. -/
def caller : Action ι κ τ → Option τ
  | .call i _ _ _ => some i
  | .checkAccount i => some i
  | .insert i => some i
  | .lookupAgain i => some i
  | _ => none

/-- Everything a step can do. -/
inductive Change (sha256 : CanonicalAction → Str) (w w' : Enqueuing ι κ τ) : Action ι κ τ → Prop where
  | activity (a : SenderSystem.Action ι κ) (pending : w'.pending = w.pending)
      (stage : w'.stage = w.stage) (rewrites : Rewrites SameAction w.world.outbox w'.world.outbox) :
      Change sha256 w w' (.sender a)
  | staged (a : Action ι κ τ) (i : τ) (stage : Stage) (calls : caller a = some i)
      (result : w' = w.stageTo i stage) (proper : Proper sha256 w i stage) : Change sha256 w w' a
  | added (i : τ) (p : Prepared) (added : Added sha256 w w' i p) : Change sha256 w w' (.insert i)
  | committed (i : τ) (sessions : w'.sessions = w.sessions.commit i)
      (stage : w'.stage = Function.update w.stage i .idle) : Change sha256 w w' (.commit i)
  | rolledBack (i : τ) (sessions : w'.sessions = w.sessions.rollback i)
      (stage : w'.stage = Function.update w.stage i .idle) : Change sha256 w w' (.rollback i)

omit [DecidableEq ι] [DecidableEq κ] [Fintype ι] [Fintype κ] [Fintype τ] in
theorem commit_change (h : w.commit i = some w') : Change sha256 w w' (.commit i) := by
  unfold Enqueuing.commit at h
  split at h
  · cases h
  · obtain ⟨outbox, hinsert, rfl⟩ := Option.map_eq_some_iff.mp h
    refine .committed i ?_ rfl
    simp [Enqueuing.sessions, Enqueuing.stageTo, Sessions.commit, insertAll_rows hinsert]

variable {setup : Setup ι} {a : Action ι κ τ}

/-- Every step is one of the changes of `Change`. -/
theorem step_change (hs : ∀ j p, (w.stage j).running = some p →
    Hashed setup.sha256 p.action p.message) (h : step setup w a = some w') :
    Change setup.sha256 w w' a := by
  cases a with
  | sender a =>
    simp only [step] at h
    split at h
    · cases h
    · rename_i hnot
      obtain ⟨world, hstep, rfl⟩ := Option.map_eq_some_iff.mp h
      exact .activity a rfl rfl (written_same (step_written hstep) (by simpa using hnot))
  | call i request now id =>
    obtain ⟨stage, hresult, hproper⟩ := call_proper h
    exact .staged _ i stage rfl hresult hproper
  | checkAccount i =>
    obtain ⟨stage, hresult, hproper⟩ := checkAccount_proper hs h
    exact .staged _ i stage rfl hresult hproper
  | insert i =>
    rcases insert_cases hs h with ⟨stage, hresult, hproper⟩ | ⟨p, hadded⟩
    · exact .staged _ i stage rfl hresult hproper
    · exact .added i p hadded
  | lookupAgain i =>
    obtain ⟨stage, hresult, hproper⟩ := lookupAgain_proper hs h
    exact .staged _ i stage rfl hresult hproper
  | commit i => exact commit_change h
  | rollback i =>
    cases h
    exact .rolledBack i rfl rfl

structure Sound (sha256 : CanonicalAction → Str) (w : Enqueuing ι κ τ) : Prop where
  unique : Unique clash w.sessions
  rows : ∀ i, ∀ m ∈ w.visible i, ∃ action, Hashed sha256 action m
  calls : ∀ i p, (w.stage i).running = some p → Hashed sha256 p.action p.message

omit [Fintype τ] in
theorem calls_update {stages : τ → Stage} {i : τ} {stage : Stage}
    (hs : ∀ j p, (stages j).running = some p → Hashed sha256 p.action p.message)
    (hnew : ∀ p, stage.running = some p → Hashed sha256 p.action p.message) :
    ∀ j p, (Function.update stages i stage j).running = some p → Hashed sha256 p.action p.message := by
  intro j p hp
  by_cases hj : j = i
  · subst hj
    rw [Function.update_self] at hp
    exact hnew p hp
  · rw [Function.update_of_ne hj] at hp
    exact hs j p hp

omit [Fintype τ] in
theorem calls_ended {stages : τ → Stage} {i : τ} {stage : Stage}
    (hs : ∀ j p, (stages j).running = some p → Hashed sha256 p.action p.message)
    (hended : stage.running = none) :
    ∀ j p, (Function.update stages i stage j).running = some p →
      Hashed sha256 p.action p.message := by
  apply calls_update hs
  intro p hp
  rw [hended] at hp
  cases hp

omit [DecidableEq ι] [DecidableEq κ] [DecidableEq τ] [Fintype ι] [Fintype κ] [Fintype τ] in
theorem Proper.hashed {stage : Stage} (h : Proper sha256 w i stage) {p : Prepared}
    (hp : stage.running = some p) : Hashed sha256 p.action p.message := by
  cases h with
  | idle => cases hp
  | running _ q isRunning hashed =>
    obtain rfl := Option.some.inj (isRunning.symm.trans hp)
    exact hashed
  | raised => cases hp
  | compared => cases hp

/-- Every step keeps the database and the calls sound. -/
theorem sound_step (hs : Sound setup.sha256 w) (h : step setup w a = some w') :
    Sound setup.sha256 w' := by
  obtain ⟨hunique, hrows, hcalls⟩ := hs
  cases step_change hcalls h with
  | activity a pending stage rewrites =>
    refine ⟨?_, ?_, ?_⟩
    · have hkept := unique_rewrites rewrites hunique
      unfold Enqueuing.sessions
      rwa [pending]
    · intro i m hm
      unfold Enqueuing.visible Enqueuing.sessions Sessions.visible at hm
      rw [pending] at hm
      rcases List.mem_append.mp hm with hm | hm
      · obtain ⟨n, hn, hsame⟩ := rewrites_source rewrites hm
        obtain ⟨action, hhashed⟩ := hrows i n (List.mem_append_left _ hn)
        exact ⟨action, hhashed.same hsame⟩
      · exact hrows i m (List.mem_append_right _ hm)
    · rw [stage]
      exact hcalls
  | staged _ i stage calls result proper =>
    subst result
    exact ⟨hunique, hrows, calls_update hcalls fun p hp => proper.hashed hp⟩
  | added i p added =>
    refine ⟨?_, ?_, ?_⟩
    · rw [added.sessions]
      exact unique_add clash_symm hunique added.fresh added.free
    · intro j m hm
      unfold Enqueuing.visible at hm
      rw [added.sessions] at hm
      rcases List.mem_append.mp hm with hm | hm
      · exact hrows j m (List.mem_append_left _ hm)
      · rcases mem_add hm with hm | ⟨-, rfl⟩
        · exact hrows j m (List.mem_append_right _ hm)
        · exact ⟨p.action, added.hashed⟩
    · rw [added.stage]
      exact calls_ended hcalls rfl
  | committed i sessions stage =>
    refine ⟨?_, ?_, ?_⟩
    · rw [sessions]
      exact unique_commit clash_symm hunique
    · intro j m hm
      unfold Enqueuing.visible at hm
      rw [sessions] at hm
      rcases List.mem_append.mp hm with hm | hm
      · exact hrows i m hm
      · exact hrows j m (List.mem_append_right _ (mem_cleared hm).2)
    · rw [stage]
      exact calls_ended hcalls rfl
  | rolledBack i sessions stage =>
    refine ⟨?_, ?_, ?_⟩
    · rw [sessions]
      exact unique_rollback hunique
    · intro j m hm
      unfold Enqueuing.visible at hm
      rw [sessions] at hm
      rcases List.mem_append.mp hm with hm | hm
      · exact hrows j m (List.mem_append_left _ hm)
      · exact hrows j m (List.mem_append_right _ (mem_cleared hm).2)
    · rw [stage]
      exact calls_ended hcalls rfl

omit [DecidableEq τ] [Fintype τ] in
theorem unique_empty : Unique clash (⟨[], fun _ => []⟩ : Sessions OutboxMessage τ) := by
  constructor
  · intro a ha
    exact absurd ha List.not_mem_nil
  · intro i
    exact .nil
  · intro i a ha
    exact absurd ha List.not_mem_nil
  · intro i j hij a ha
    exact absurd ha List.not_mem_nil

omit [DecidableEq ι] [DecidableEq κ] [Fintype ι] [Fintype κ] [DecidableEq τ] [Fintype τ] in
theorem sound_start (sha256 : CanonicalAction → Str) (around : Policy.Surroundings) :
    Sound sha256 (Enqueuing.start around : Enqueuing ι κ τ) := by
  constructor
  · exact unique_empty
  · intro i m hm
    exact absurd hm List.not_mem_nil
  · intro i p hp
    cases hp

/-- The answer to a call whose key is bound to the row `m`. -/
def answerTo (p : Prepared) (m : OutboxMessage) : Except EnqueueError OutboxMessage :=
  if storedAction m = some p.action then .ok m else .error .idempotencyConflict

variable {p : Prepared} {m : OutboxMessage} {r : Except EnqueueError OutboxMessage}

omit [DecidableEq ι] [DecidableEq κ] [DecidableEq τ] [Fintype ι] [Fintype κ] [Fintype τ] in
/-- A key is bound to at most one of the rows that a session sees. -/
theorem Sound.bound (hs : Sound sha256 w) {a b : OutboxMessage} (ha : a ∈ w.visible i)
    (hb : b ∈ w.visible i) (h : a.idempotencyKey = b.idempotencyKey) : a = b :=
  hs.unique.visible clash_symm ha hb (clash_of_key h)

omit [DecidableEq ι] [DecidableEq κ] [Fintype ι] [Fintype κ] [Fintype τ] in
theorem staged_stage {stage : Stage} : (w.stageTo i stage).stage i = stage := by
  simp [Enqueuing.stageTo]

/-- A call that sees a row of its key answers by that row and adds none. -/
theorem answer_bound (hinj : Function.Injective setup.sha256) (hs : Sound setup.sha256 w)
    (h : step setup w a = some w') (hcaller : caller a = some i)
    (hanswer : w'.stage i = .answered p r) (hadmissible : Admissible w p)
    (hm : m ∈ w.visible i) (hkey : m.idempotencyKey = p.key) :
    w'.sessions = w.sessions ∧ r = answerTo p m := by
  cases step_change hs.calls h with
  | activity => cases hcaller
  | staged _ j stage calls result proper =>
    obtain rfl := Option.some.inj (calls.symm.trans hcaller)
    subst result
    rw [staged_stage] at hanswer
    subst hanswer
    refine ⟨rfl, ?_⟩
    cases proper with
    | running _ q isRunning => cases isRunning
    | raised _ error excuse => exact absurd hkey (excuse hadmissible m hm)
    | compared _ n hashed seen key =>
      obtain rfl := hs.bound seen hm (key.trans hkey.symm)
      obtain ⟨stored, hstored⟩ := hs.rows _ n seen
      exact matchExisting_hashed hinj hstored hashed
  | added j q added =>
    obtain rfl : j = i := Option.some.inj hcaller
    rw [added.stage, Function.update_self] at hanswer
    cases hanswer
    have hclash := not_violates added.fresh m hm
    rw [clash_of_key hkey] at hclash
    cases hclash
  | committed => cases hcaller
  | rolledBack => cases hcaller

/-- A call that sees no row of its key answers by the row that it adds. -/
theorem answer_unbound (hs : Sound setup.sha256 w) (h : step setup w a = some w')
    (hcaller : caller a = some i) (hanswer : w'.stage i = .answered p (.ok m))
    (hnone : ∀ n ∈ w.visible i, n.idempotencyKey ≠ p.key) :
    w'.sessions = w.sessions.add i m ∧ m = p.message ∧ storedAction m = some p.action := by
  cases step_change hs.calls h with
  | activity => cases hcaller
  | staged _ j stage calls result proper =>
    obtain rfl := Option.some.inj (calls.symm.trans hcaller)
    subst result
    rw [staged_stage] at hanswer
    subst hanswer
    generalize hresult : (Except.ok m : Except EnqueueError OutboxMessage) = result at proper
    cases proper with
    | running _ q isRunning => cases isRunning
    | raised => cases hresult
    | compared _ n hashed seen key => exact absurd key (hnone n seen)
  | added j q added =>
    obtain rfl : j = i := Option.some.inj hcaller
    rw [added.stage, Function.update_self] at hanswer
    cases hanswer
    exact ⟨added.sessions, rfl, added.hashed.stored⟩
  | committed => cases hcaller
  | rolledBack => cases hcaller

/-- A statement of a call changes no row; at most it adds the row of a call whose key is free. -/
theorem call_frame (hs : Sound setup.sha256 w) (h : step setup w a = some w')
    (hcaller : caller a = some i) : w'.sessions = w.sessions ∨
      ∃ p, w'.stage i = .answered p (.ok p.message) ∧ w'.sessions = w.sessions.add i p.message ∧
        ∀ n ∈ w.visible i, n.idempotencyKey ≠ p.key := by
  cases step_change hs.calls h with
  | activity => cases hcaller
  | staged _ j stage calls result proper =>
    subst result
    exact .inl rfl
  | added j q added =>
    obtain rfl : j = i := Option.some.inj hcaller
    right
    refine ⟨q, ?_, added.sessions, ?_⟩
    · rw [added.stage, Function.update_self]
    · intro n hn hkey
      have hclash := not_violates added.fresh n hn
      rw [clash_of_key hkey] at hclash
      cases hclash
  | committed => cases hcaller
  | rolledBack => cases hcaller

/-- The statements that a call with a bound key still has before it. -/
def remaining (i : τ) : Stage → List (Action ι κ τ)
  | .missing _ => [.checkAccount i, .insert i, .lookupAgain i]
  | .checked _ => [.insert i, .lookupAgain i]
  | .violated _ => [.lookupAgain i]
  | _ => []

omit [DecidableEq ι] [DecidableEq κ] [Fintype ι] [Fintype κ] [Fintype τ] in
theorem stageTo_twice (w : Enqueuing ι κ τ) (i : τ) (s t : Stage) :
    (w.stageTo i s).stageTo i t = w.stageTo i t := by
  simp [Enqueuing.stageTo]

omit [DecidableEq ι] [DecidableEq κ] [DecidableEq τ] [Fintype ι] [Fintype κ] [Fintype τ] in
theorem findByKey_bound (hs : Sound sha256 w) (hadmissible : Admissible w p) (hm : m ∈ w.visible i)
    (hkey : m.idempotencyKey = p.key) : findByKey (w.visible i) p.key = .ok (some m) := by
  have hfind : ∃ n, findByKey (w.visible i) p.key = .ok (some n) := by
    unfold findByKey
    rw [hadmissible.keyEncodable, hadmissible.keyStorable]
    have hsome : ((w.visible i).find? fun n => decide (n.idempotencyKey = p.key)).isSome = true := by
      rw [List.find?_isSome]
      exact ⟨m, hm, by simpa using hkey⟩
    obtain ⟨n, hn⟩ := Option.isSome_iff_exists.mp hsome
    exact ⟨n, by simp [hn]⟩
  obtain ⟨n, hn⟩ := hfind
  obtain ⟨hseen, hsame⟩ := findByKey_some hn
  rw [hn, hs.bound hseen hm (hsame.trans hkey.symm)]

/-- After a violation the second lookup answers. -/
theorem lookupAgain_answers (hinj : Function.Injective setup.sha256) (hs : Sound setup.sha256 w)
    (hstage : w.stage i = .violated p) (hadmissible : Admissible w p) (hm : m ∈ w.visible i)
    (hkey : m.idempotencyKey = p.key) :
    step setup w (.lookupAgain i) = some (w.stageTo i (.answered p (answerTo p m))) := by
  have hp := hs.calls i p (by rw [hstage]; rfl)
  obtain ⟨stored, hstored⟩ := hs.rows i m hm
  simp only [step, Enqueuing.lookupAgain, hstage, findByKey_bound hs hadmissible hm hkey]
  rw [matchExisting_hashed hinj hstored hp]
  rfl

/-- An insert beside a row of its key violates the constraint. -/
theorem insert_violates (hstage : w.stage i = .checked p) (hadmissible : Admissible w p)
    (hm : m ∈ w.visible i) (hkey : m.idempotencyKey = p.key) :
    step setup w (.insert i) = some (w.stageTo i (.violated p)) := by
  have hviolates : w.sessions.violates clash i p.message = true :=
    violates_iff.mpr ⟨m, hm, clash_of_key hkey⟩
  have hrow := hadmissible.row
  simp only [step, Enqueuing.insert, hstage]
  rw [hrow, hviolates]
  rfl

theorem checkAccount_passes (hstage : w.stage i = .missing p) (hadmissible : Admissible w p) :
    step setup w (.checkAccount i) = some (w.stageTo i (.checked p)) := by
  have haccount := hadmissible.account
  simp only [step, Enqueuing.checkAccount, hstage]
  rw [if_pos haccount]

/-- A call that has a row of its key to see ends in a few steps, with the answer of that row. -/
theorem call_finishes (hinj : Function.Injective setup.sha256) (hs : Sound setup.sha256 w)
    (hrunning : (w.stage i).running = some p) (hadmissible : Admissible w p) (hm : m ∈ w.visible i)
    (hkey : m.idempotencyKey = p.key) : run (step setup) w (remaining i (w.stage i)) =
      some (w.stageTo i (.answered p (answerTo p m))) := by
  have hmoved : ∀ stage, stage.running = some p → Sound setup.sha256 (w.stageTo i stage) := by
    intro stage hstage
    refine ⟨hs.unique, hs.rows, calls_update hs.calls fun q hq => ?_⟩
    obtain rfl := Option.some.inj (hstage.symm.trans hq)
    exact hs.calls i p hrunning
  have hlast : step setup (w.stageTo i (.violated p)) (.lookupAgain i) =
      some (w.stageTo i (.answered p (answerTo p m))) := by
    rw [lookupAgain_answers hinj (hmoved (.violated p) rfl) staged_stage ⟨hadmissible.1, hadmissible.2,
      hadmissible.3, hadmissible.4⟩ hm hkey, stageTo_twice]
  have hinsert : step setup (w.stageTo i (.checked p)) (.insert i) =
      some (w.stageTo i (.violated p)) := by
    rw [insert_violates staged_stage ⟨hadmissible.1, hadmissible.2, hadmissible.3, hadmissible.4⟩ hm
      hkey, stageTo_twice]
  cases hstage : w.stage i with
  | idle =>
    rw [hstage] at hrunning
    cases hrunning
  | answered q result =>
    rw [hstage] at hrunning
    cases hrunning
  | missing q =>
    rw [hstage] at hrunning
    obtain rfl := Option.some.inj hrunning
    simp only [remaining, run, checkAccount_passes hstage hadmissible, hinsert, hlast,
      Option.bind_some]
  | checked q =>
    rw [hstage] at hrunning
    obtain rfl := Option.some.inj hrunning
    simp only [remaining, run, insert_violates hstage hadmissible hm hkey, hlast, Option.bind_some]
  | violated q =>
    rw [hstage] at hrunning
    obtain rfl := Option.some.inj hrunning
    simp only [remaining, run, lookupAgain_answers hinj hs hstage hadmissible hm hkey,
      Option.bind_some]

/-- Every run from an empty outbox is sound. -/
theorem sound_run {around : Policy.Surroundings} {actions : List (Action ι κ τ)}
    (hrun : run (step setup) (Enqueuing.start around) actions = some w) : Sound setup.sha256 w :=
  run_invariant (Sound setup.sha256) (fun _ _ _ hs hstep => sound_step hs hstep)
    (sound_start setup.sha256 around) hrun

/-- In every run of any number of sessions a key has at most one row; a call that sees the row of
its key answers by it, and one that adds a row sees none; and a call with a row to see ends with
its answer. -/
theorem enqueue_idempotent {digest : Str → Str} (hdigest : Function.Injective digest)
    {options : ι → SenderOptions} {around : Policy.Surroundings} {actions : List (Action ι κ τ)}
    (hrun : run (step (hashedSetup digest options)) (Enqueuing.start around) actions = some w) :
    (∀ m ∈ w.world.outbox.rows, ∀ n ∈ w.world.outbox.rows,
      m.idempotencyKey = n.idempotencyKey → m = n) ∧
    (∀ a w' i p r m, step (hashedSetup digest options) w a = some w' → caller a = some i →
      w'.stage i = .answered p r → Admissible w p → m ∈ w.visible i → m.idempotencyKey = p.key →
        w'.sessions = w.sessions ∧ (storedAction m = some p.action → r = .ok m) ∧
          (storedAction m ≠ some p.action → r = .error .idempotencyConflict)) ∧
    (∀ a w' i, step (hashedSetup digest options) w a = some w' → caller a = some i →
      w'.sessions = w.sessions ∨ ∃ p, w'.stage i = .answered p (.ok p.message) ∧
        w'.sessions = w.sessions.add i p.message ∧
          ∀ n ∈ w.visible i, n.idempotencyKey ≠ p.key) ∧
    ∀ i p m, (w.stage i).running = some p → Admissible w p → m ∈ w.visible i →
      m.idempotencyKey = p.key → run (step (hashedSetup digest options)) w (remaining i (w.stage i)) =
        some (w.stageTo i (.answered p (answerTo p m))) := by
  have hinj : Function.Injective (hashedSetup digest options).sha256 :=
    hdigest.comp canonicalText_injective
  have hs := sound_run hrun
  refine ⟨?_, ?_, ?_, ?_⟩
  · intro m hm n hn hkey
    exact hs.unique.committed m hm n hn (clash_of_key hkey)
  · intro a w' i p r m hstep hcaller hanswer hadmissible hm hkey
    obtain ⟨hsame, rfl⟩ := answer_bound hinj hs hstep hcaller hanswer hadmissible hm hkey
    unfold answerTo
    exact ⟨hsame, fun h => if_pos h, fun h => if_neg h⟩
  · intro a w' i hstep hcaller
    exact call_frame hs hstep hcaller
  · intro i p m hrunning hadmissible hm hkey
    exact call_finishes hinj hs hrunning hadmissible hm hkey

/-- Two sessions look a key up before either of them has committed. -/
def race : List (Action Unit Empty Bool) :=
  [.call false (AccountSerial.sampleRequest "key") 0 1, .checkAccount false,
    .call true (AccountSerial.sampleRequest "key") 0 2, .checkAccount true, .insert false,
    .commit false, .insert true, .lookupAgain true]

def raceRun : Option (Enqueuing Unit Empty Bool) :=
  run (step (hashedSetup id fun _ => .default)) (Enqueuing.start sampleSurroundings) race

theorem raceRun_isSome : raceRun.isSome = true := by decide +kernel

theorem enqueue_idempotent_race :
    (raceRun.get raceRun_isSome).world.outbox.rows ≠ [] ∧
      ∀ m ∈ (raceRun.get raceRun_isSome).world.outbox.rows,
        ∀ n ∈ (raceRun.get raceRun_isSome).world.outbox.rows,
          m.idempotencyKey = n.idempotencyKey → m = n := by
  constructor
  · decide +kernel
  have hrun : run (step (hashedSetup id fun _ => .default)) (Enqueuing.start sampleSurroundings)
      race = some (raceRun.get raceRun_isSome) := (Option.some_get _).symm
  exact (enqueue_idempotent Function.injective_id hrun).1

/-- `enqueue_text` in one session, and its commit. -/
def alone (i : τ) (request : EnqueueRequest) (now : Time) (id : UUID) : List (Action ι κ τ) :=
  [.call i request now id, .checkAccount i, .insert i, .commit i]

/-- The sessions when none of them has uncommitted rows. -/
def Enqueuing.settled (world : World ι κ) (stage : τ → Stage) : Enqueuing ι κ τ :=
  ⟨world, fun _ => [], stage⟩

variable {world : World ι κ} {stage : τ → Stage} {request : EnqueueRequest} {now : Time} {id : UUID}

omit [DecidableEq ι] [DecidableEq κ] [DecidableEq τ] [Fintype ι] [Fintype κ] [Fintype τ] in
theorem visible_settled (i : τ) : (Enqueuing.settled world stage).visible i = world.outbox.rows :=
  List.append_nil _

/-- The commit of a session whose call has been answered. -/
theorem commit_world {t : Outbox} (hrunning : (w.stage i).running = none)
    (hinsert : insertAll w.world.outbox (w.pending i) = some t) :
    ∃ w', step setup w (.commit i) = some w' ∧ w'.world = { w.world with outbox := t } := by
  refine ⟨({ w with
    world := { w.world with outbox := t }
    pending := Function.update w.pending i [] } : Enqueuing ι κ τ).stageTo i .idle, ?_, rfl⟩
  simp only [step, Enqueuing.commit, hrunning, hinsert, Option.map_some]

/-- A request alone that finds its row changes nothing. -/
theorem alone_found (hidle : (stage i).running = none) {existing : OutboxMessage}
    (hp : prepare setup.sha256 request now id = .ok p)
    (hfound : findByIdempotencyKey world.outbox p.key = .ok (some existing)) :
    ∃ w', run (step setup) (Enqueuing.settled world stage) [.call i request now id, .commit i] =
      some w' ∧ w'.world = world := by
  have hcall : step setup (Enqueuing.settled world stage) (.call i request now id) =
      some ((Enqueuing.settled world stage).stageTo i
        (.answered p (matchExisting existing p.message.payloadSha256))) := by
    have hvisible : findByKey ((Enqueuing.settled world stage).visible i) p.key =
        .ok (some existing) := by
      rw [visible_settled]
      exact hfound
    have hrunning : ((Enqueuing.settled world stage).stage i).running = none := hidle
    simp only [step, Enqueuing.call, hrunning, hp, hvisible]
  have hend : ∃ w', step setup ((Enqueuing.settled world stage).stageTo i
      (.answered p (matchExisting existing p.message.payloadSha256))) (.commit i) = some w' ∧
        w'.world = world := commit_world (by rw [staged_stage]; rfl) rfl
  obtain ⟨w', hcommit, hworld⟩ := hend
  refine ⟨w', ?_, hworld⟩
  simp only [run, hcall, hcommit, Option.bind_some]

theorem insertAll_one {t t' : Outbox} {m : OutboxMessage} (h : t.insert m = some t') :
    insertAll t [m] = some t' := by
  simp [insertAll, h]

/-- An insert that nothing opposes adds its row. -/
theorem insert_adds (hstage : w.stage i = .checked p) (hrow : storableRow p.message = true)
    (hviolates : w.sessions.violates clash i p.message = false)
    (hfree : ¬ w.sessions.Waits clash i p.message) :
    ∃ w', step setup w (.insert i) = some w' ∧ w'.world = w.world ∧
      w'.pending i = w.pending i ++ [p.message] ∧ (w'.stage i).running = none := by
  refine ⟨({ w with pending := (w.sessions.add i p.message).pending } : Enqueuing ι κ τ).stageTo i
    (.answered p (.ok p.message)), ?_, rfl, ?_, ?_⟩
  · simp only [step, Enqueuing.insert, hstage]
    rw [hrow, hviolates, if_neg hfree]
    rfl
  · exact Function.update_self _ _ _
  · rw [staged_stage]
    rfl

/-- A request alone that finds no row inserts it. -/
theorem alone_missing (hidle : (stage i).running = none) {t : Outbox}
    (hp : prepare setup.sha256 request now id = .ok p)
    (hfound : findByIdempotencyKey world.outbox p.key = .ok none)
    (haccount : (world.around.botAccount p.message.botAccountId).isSome = true)
    (hrow : storableRow p.message = true) (hinsert : world.outbox.insert p.message = some t) :
    ∃ w', run (step setup) (Enqueuing.settled world stage) (alone i request now id) = some w' ∧
      w'.world = { world with outbox := t } := by
  have hcall : step setup (Enqueuing.settled world stage) (.call i request now id) =
      some ((Enqueuing.settled world stage).stageTo i (.missing p)) := by
    have hvisible : findByKey ((Enqueuing.settled world stage).visible i) p.key = .ok none := by
      rw [visible_settled]
      exact hfound
    have hrunning : ((Enqueuing.settled world stage).stage i).running = none := hidle
    simp only [step, Enqueuing.call, hrunning, hp, hvisible]
  have hcheck : step setup ((Enqueuing.settled world stage).stageTo i (.missing p))
      (.checkAccount i) = some ((Enqueuing.settled world stage).stageTo i (.checked p)) := by
    have hexists : (((Enqueuing.settled world stage).stageTo i (.missing p)).world.around.botAccount
        p.message.botAccountId).isSome = true := haccount
    simp only [step, Enqueuing.checkAccount, staged_stage]
    rw [if_pos hexists, stageTo_twice]
  have hviolates : ((Enqueuing.settled world stage).stageTo i (.checked p)).sessions.violates clash i
      p.message = false := by
    by_contra hclash
    obtain ⟨m, hm, hclash⟩ := violates_iff.mp (by simpa using hclash)
    have hrows : m ∈ world.outbox.rows := by
      rw [← visible_settled i]
      exact hm
    rcases Bool.or_eq_true_iff.mp hclash with hid | hkey
    · have hfresh := Table.insert_fresh hinsert
      have hmem := Table.mem_iff_find.mp hrows
      rw [of_decide_eq_true hid, hfresh] at hmem
      cases hmem
    · exact findByKey_none hfound m hrows (of_decide_eq_true hkey)
  have hfree : ¬ ((Enqueuing.settled world stage).stageTo i (.checked p)).sessions.Waits clash i
      p.message := by
    rintro ⟨j, -, hclash⟩
    cases hclash
  obtain ⟨w, hadd, hworld, hpending, hanswered⟩ :=
    @insert_adds ι κ τ _ _ _ _ i _ _ _ setup p staged_stage hrow hviolates hfree
  have hend : ∃ w', step setup w (.commit i) = some w' ∧
      w'.world = { w.world with outbox := t } := by
    apply commit_world hanswered
    rw [hworld, hpending]
    exact insertAll_one hinsert
  obtain ⟨w', hcommit, hend⟩ := hend
  refine ⟨w', ?_, ?_⟩
  · simp only [alone, run, hcall, hcheck, hadd, hcommit, Option.bind_some]
  · rw [hend, hworld]
    rfl

theorem insertMessage_ok {t t' : Outbox} {row m : OutboxMessage} {payload : TextOutboxPayload}
    (h : insertMessage t row payload = .ok (t', m)) :
    (storable row.targetWxid && storable payload.text && payload.atWxids.all storable) = true ∧
      t.insert row = some t' := by
  unfold insertMessage at h
  split at h
  · cases h
  rename_i hrow
  cases hinsert : t.insert row with
  | none =>
    rw [hinsert] at h
    cases h
  | some u =>
    rw [hinsert] at h
    cases h
    exact ⟨by simpa only [Bool.not_eq_false] using hrow, rfl⟩

/-- Without other sessions the statements do what `enqueue_text` does as one step. -/
theorem alone_enqueues (hidle : (stage i).running = none) {t : Outbox} {m : OutboxMessage}
    (h : enqueueText setup.sha256 (fun a => (world.around.botAccount a).isSome) world.outbox request
      now id = .ok (t, m)) :
    ∃ statements w', List.Sublist statements (alone i request now id) ∧
      run (step setup) (Enqueuing.settled world stage) statements = some w' ∧
      w'.world = { world with outbox := t } := by
  unfold enqueueText at h
  obtain ⟨⟨key, target, expiry, payload⟩, hnormal, h⟩ := bind_ok.mp h
  obtain ⟨hash, hhash, h⟩ := bind_ok.mp h
  obtain ⟨found, hfound, h⟩ := bind_ok.mp h
  have hp : prepare setup.sha256 request now id =
      .ok ⟨canonicalAction request target expiry payload,
        newMessage id request key target hash expiry payload now⟩ := by
    unfold prepare
    rw [hnormal]
    simp only [bind, Except.bind, hhash]
    rfl
  cases found with
  | some existing =>
    obtain ⟨answer, -, h⟩ := bind_ok.mp h
    cases h
    obtain ⟨w', hrun, hworld⟩ := alone_found hidle hp hfound
    have hpart : List.Sublist [.call i request now id, .commit i]
        (alone i request now id : List (Action ι κ τ)) :=
      .cons_cons _ (.cons _ (.cons _ (.refl _)))
    exact ⟨_, w', hpart, hrun, hworld⟩
  | none =>
    by_cases haccount : (world.around.botAccount request.botAccountId).isSome = true
    · have hinsertion : insertMessage world.outbox (newMessage id request key target hash expiry
          payload now) payload = .ok (t, m) := by
        simp only [haccount] at h
        exact h
      obtain ⟨hrow, hinsert⟩ := insertMessage_ok hinsertion
      obtain ⟨w', hrun, hworld⟩ := alone_missing hidle hp hfound haccount hrow hinsert
      exact ⟨_, w', .refl _, hrun, hworld⟩
    · simp only [haccount] at h
      cases h

end WechatBot.EnqueueSessions
