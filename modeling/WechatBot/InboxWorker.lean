import WechatBot.DirtyWrite
import WechatBot.PyData
import WechatBot.Tables

/-!
# Workers that dispatch the inbox

Any number of `EventDispatcherWorker`s over one table of events. A recovery and a claim
lock their rows as they read them, so each is one step. A dispatch and `_mark_failed`
read the row without a lock and write it when they commit, so each is two steps, and
anything may be committed between them.
-/
namespace WechatBot.InboxWorker

open PyData DirtyWrite
open Tables (Table)

inductive InboxStatus where
  | RECEIVED | NORMALIZED | DISPATCHING | DISPATCHED | FAILED | IGNORED_SELF
  deriving DecidableEq, Repr

/-- A row of the inbox with what the dispatcher reads of its event; there is one event for
each row. `needsNoPlugin` is set for system conversations and callback verifications. -/
structure WebhookInbox where
  eventId : UUID
  isSelf : Bool
  needsNoPlugin : Bool
  status : InboxStatus
  errorCode : Option String
  errorDetail : Option String
  dispatchAttemptCount : Nat
  dispatchAvailableAt : Time
  deriving DecidableEq, Repr

abbrev Inbox := Table WebhookInbox.eventId

structure WorkerOptions where
  pollInterval : Time
  batchSize : Nat
  maxAttempts : Nat
  lease : Time
  maxRetryDelay : Time
  pollPositive : 0 < pollInterval
  batchPositive : 0 < batchSize
  attemptsPositive : 0 < maxAttempts
  leasePositive : 0 < lease

def terminal (status : InboxStatus) : Bool :=
  status = .DISPATCHED ∨ status = .FAILED ∨ status = .IGNORED_SELF

/-- The row that the webhook leaves for a new event. -/
def receivedRow (eventId : UUID) (isSelf needsNoPlugin : Bool) (now : Time) : WebhookInbox where
  eventId := eventId
  isSelf := isSelf
  needsNoPlugin := needsNoPlugin
  status := if isSelf then .IGNORED_SELF else .NORMALIZED
  errorCode := none
  errorDetail := none
  dispatchAttemptCount := 0
  dispatchAvailableAt := now

def leaseExpired (now : Time) (row : WebhookInbox) : Bool :=
  row.status = .DISPATCHING ∧ row.dispatchAvailableAt ≤ now

def recoveredRow (row : WebhookInbox) : WebhookInbox :=
  { row with
    status := .NORMALIZED
    errorCode := some "DISPATCH_LEASE_RECOVERED"
    errorDetail := some "expired dispatcher lease was recovered" }

def due (now : Time) (row : WebhookInbox) : Bool :=
  row.status = .NORMALIZED ∧ row.dispatchAvailableAt ≤ now

def claimedRow (options : WorkerOptions) (now : Time) (row : WebhookInbox) : WebhookInbox :=
  { row with
    status := .DISPATCHING
    dispatchAttemptCount := row.dispatchAttemptCount + 1
    dispatchAvailableAt := now + options.lease }

/-- `dispatch` returns at once. -/
def ignored (row : WebhookInbox) : Bool :=
  row.isSelf ∨ row.status = .IGNORED_SELF ∨ row.status = .DISPATCHED

/-- How a dispatch that is not ignored can end without an unexpected exception. -/
inductive Outcome where
  | noPlugin
  | unresolved
  | conflict
  | dispatched
  | retryable (failures : Nat)
  deriving DecidableEq, Repr

def Outcome.possible (row : WebhookInbox) : Outcome → Bool
  | .noPlugin => row.needsNoPlugin
  | _ => !row.needsNoPlugin

def outcomeRow (row : WebhookInbox) : Outcome → WebhookInbox
  | .noPlugin => { row with status := .DISPATCHED, errorCode := none, errorDetail := none }
  | .unresolved => { row with
      status := .FAILED
      errorCode := some "EVENT_CONTEXT_UNRESOLVED"
      errorDetail := some "event has no active bot account or conversation" }
  | .conflict => { row with
      status := .FAILED
      errorCode := some "PLUGIN_COMMAND_CONFLICT"
      errorDetail := some "multiple active deployments claim the same command" }
  | .dispatched => { row with status := .DISPATCHED, errorCode := none, errorDetail := none }
  | .retryable failures => { row with
      status := .NORMALIZED
      errorCode := some "PLUGIN_DISPATCH_RETRYABLE"
      errorDetail := some (toString failures ++ " plugin deployment(s) require retry") }

def retryDelay (options : WorkerOptions) (attempt : Nat) : Time :=
  min (options.pollInterval * 2 ^ min (attempt - 1) 10) options.maxRetryDelay

/-- What the worker does to the row of a retryable dispatch. -/
def retriedRow (options : WorkerOptions) (now : Time) (row : WebhookInbox) : WebhookInbox :=
  if options.maxAttempts ≤ row.dispatchAttemptCount then
    { row with
      status := .FAILED
      errorCode := some "PLUGIN_DISPATCH_RETRIES_EXHAUSTED"
      errorDetail := some "plugin dispatch retry limit reached" }
  else
    { row with
      status := .NORMALIZED
      dispatchAvailableAt := now + retryDelay options row.dispatchAttemptCount }

def markedRow (errorType : String) (row : WebhookInbox) : WebhookInbox :=
  { row with
    status := .FAILED
    errorCode := some "EVENT_DISPATCH_FAILED"
    errorDetail := some ("dispatcher failed with " ++ errorType) }

/-- The row after an UPDATE of the changed columns. -/
def writeRow (loaded current stored : WebhookInbox) : WebhookInbox where
  eventId := stored.eventId
  isSelf := stored.isSelf
  needsNoPlugin := stored.needsNoPlugin
  status := column loaded.status current.status stored.status
  errorCode := column loaded.errorCode current.errorCode stored.errorCode
  errorDetail := column loaded.errorDetail current.errorDetail stored.errorDetail
  dispatchAttemptCount :=
    column loaded.dispatchAttemptCount current.dispatchAttemptCount stored.dispatchAttemptCount
  dispatchAvailableAt :=
    column loaded.dispatchAvailableAt current.dispatchAvailableAt stored.dispatchAvailableAt

/-- The row after the commit of a dispatch. A retryable one is flushed twice, by the
dispatcher and then by the worker; the first flush locks the row. -/
def dispatchedRow (options : WorkerOptions) (now : Time) (loaded stored : WebhookInbox)
    (outcome : Outcome) : WebhookInbox :=
  let current := outcomeRow loaded outcome
  let flushed := writeRow loaded current stored
  match outcome with
  | .retryable _ => writeRow current (retriedRow options now current) flushed
  | _ => flushed

/-- Each row of the list, one after the other; `none` when one of them is not selected. -/
def updateEach (selected : WebhookInbox → Bool) (change : WebhookInbox → WebhookInbox) :
    Inbox → List UUID → Option Inbox
  | t, [] => some t
  | t, id :: ids => (t.find id).bind fun row =>
      if selected row then updateEach selected change (t.save (change row)) ids else none

/-- Where a worker is in `run_once`, with the events it has claimed and not yet dispatched. -/
inductive Phase where
  | between (todo : List UUID)
  | dispatching (loaded : WebhookInbox) (todo : List UUID)
  | failing (eventId : UUID) (errorType : String) (todo : List UUID)
  | marking (loaded : WebhookInbox) (errorType : String) (todo : List UUID)
  deriving DecidableEq, Repr

/-- The events that the worker has claimed and not finished. -/
def Phase.hand : Phase → List UUID
  | .between todo => todo
  | .dispatching loaded todo => loaded.eventId :: todo
  | .failing eventId _ todo => eventId :: todo
  | .marking loaded _ todo => loaded.eventId :: todo

variable {ι : Type} [DecidableEq ι]

structure World (ι : Type) where
  inbox : Inbox
  phase : ι → Phase

/-- `stop` is the end of the process, or of the iteration after an exception that nothing
catches, such as a failed commit: the events in hand are left to the next recovery. -/
inductive Action (ι : Type) where
  | receive (eventId : UUID) (isSelf needsNoPlugin : Bool) (now : Time)
  | recoverExpiredLeases (i : ι) (now : Time) (ids : List UUID)
  | claimDueEvents (i : ι) (now : Time) (ids : List UUID)
  | load (i : ι)
  | commit (i : ι) (now : Time) (outcome : Outcome)
  | rollback (i : ι) (errorType : String)
  | loadFailed (i : ι)
  | markFailed (i : ι)
  | stop (i : ι)
  deriving DecidableEq, Repr

def World.to (w : World ι) (i : ι) (phase : Phase) : World ι :=
  { w with phase := Function.update w.phase i phase }

def step (options : WorkerOptions) (w : World ι) : Action ι → Option (World ι)
  | .receive eventId isSelf needsNoPlugin now =>
    (w.inbox.insert (receivedRow eventId isSelf needsNoPlugin now)).map fun inbox =>
      { w with inbox := inbox }
  | .recoverExpiredLeases i now ids =>
    match w.phase i with
    | .between [] =>
      if ids.length ≤ options.batchSize then
        (updateEach (leaseExpired now) recoveredRow w.inbox ids).map fun inbox =>
          { w with inbox := inbox }
      else none
    | _ => none
  | .claimDueEvents i now ids =>
    match w.phase i with
    | .between [] =>
      if ids.length ≤ options.batchSize then
        (updateEach (due now) (claimedRow options now) w.inbox ids).map fun inbox =>
          { w.to i (.between ids) with inbox := inbox }
      else none
    | _ => none
  | .load i =>
    match w.phase i with
    | .between (eventId :: todo) => (w.inbox.find eventId).map fun row =>
        w.to i (if ignored row then .between todo else .dispatching row todo)
    | _ => none
  | .commit i now outcome =>
    match w.phase i with
    | .dispatching loaded todo =>
      if outcome.possible loaded then
        (w.inbox.find loaded.eventId).map fun stored =>
          { w.to i (.between todo) with
            inbox := w.inbox.save (dispatchedRow options now loaded stored outcome) }
      else none
    | _ => none
  | .rollback i errorType =>
    match w.phase i with
    | .dispatching loaded todo => some (w.to i (.failing loaded.eventId errorType todo))
    | _ => none
  | .loadFailed i =>
    match w.phase i with
    | .failing eventId errorType todo => (w.inbox.find eventId).map fun row =>
        w.to i (.marking row errorType todo)
    | _ => none
  | .markFailed i =>
    match w.phase i with
    | .marking loaded errorType todo => (w.inbox.find loaded.eventId).map fun stored =>
        { w.to i (.between todo) with
          inbox := w.inbox.save (writeRow loaded (markedRow errorType loaded) stored) }
    | _ => none
  | .stop i => some (w.to i (.between []))

/-- The options that the application starts its worker with, in microseconds. -/
def defaultOptions : WorkerOptions where
  pollInterval := 500000
  batchSize := 50
  maxAttempts := 5
  lease := 120000000
  maxRetryDelay := 30000000
  pollPositive := by decide
  batchPositive := by decide
  attemptsPositive := by decide
  leasePositive := by decide

/-- An empty inbox and workers that have claimed nothing. -/
def atRest (ι : Type) : World ι := ⟨Table.empty _, fun _ => .between []⟩

/-- A change of the worker's own columns keeps the key and ends the selection. -/
structure Selection (selected : WebhookInbox → Bool) (change : WebhookInbox → WebhookInbox) :
    Prop where
  key : ∀ row, (change row).eventId = row.eventId
  once : ∀ row, selected (change row) = false

theorem recover_selection (now : Time) : Selection (leaseExpired now) recoveredRow :=
  ⟨fun _ => rfl, fun _ => by simp [leaseExpired, recoveredRow]⟩

theorem claim_selection (options : WorkerOptions) (now : Time) :
    Selection (due now) (claimedRow options now) :=
  ⟨fun _ => rfl, fun _ => by simp [due, claimedRow]⟩

theorem find_changed {t : Inbox} {row stored : WebhookInbox} {id : UUID} (hfind : t.find id = some stored)
    (hkey : row.eventId = stored.eventId) (other : UUID) :
    (t.save row).find other = if other = id then some row else t.find other := by
  have hid := Table.find_key hfind
  rw [Table.find_save_of (r := stored) (by rw [hkey, hid, hfind]), hkey, hid]

/-- The rows of the list are changed, and each was selected as it was. -/
theorem updateEach_spec {selected : WebhookInbox → Bool} {change : WebhookInbox → WebhookInbox}
    (hselection : Selection selected change) {t t' : Inbox} {ids : List UUID}
    (h : updateEach selected change t ids = some t') : ids.Nodup ∧
      (∀ id ∈ ids, ∃ row, t.find id = some row ∧ selected row = true ∧
        t'.find id = some (change row)) ∧ ∀ id, id ∉ ids → t'.find id = t.find id := by
  induction ids generalizing t with
  | nil =>
    cases h
    simp
  | cons first ids ih =>
    obtain ⟨row, hfind, h⟩ := Option.bind_eq_some_iff.mp h
    by_cases hselected : selected row = true
    · rw [if_pos hselected] at h
      obtain ⟨hnodup, hchanged, hkept⟩ := ih h
      have hrows := find_changed hfind (hselection.key row)
      have hfirst : first ∉ ids := by
        intro hmem
        obtain ⟨again, hagain, hselected', -⟩ := hchanged first hmem
        rw [hrows, if_pos rfl] at hagain
        cases hagain
        rw [hselection.once] at hselected'
        cases hselected'
      refine ⟨List.nodup_cons.mpr ⟨hfirst, hnodup⟩, ?_, ?_⟩
      · intro id hid
        rcases List.mem_cons.mp hid with rfl | hid
        · exact ⟨row, hfind, hselected, by rw [hkept id hfirst, hrows, if_pos rfl]⟩
        · obtain ⟨other, hother, hrest⟩ := hchanged id hid
          have hne : id ≠ first := fun heq => hfirst (heq ▸ hid)
          rw [hrows, if_neg hne] at hother
          exact ⟨other, hother, hrest⟩
      · intro id hid
        rw [List.mem_cons, not_or] at hid
        rw [hkept id hid.2, hrows, if_neg hid.1]
    · rw [if_neg hselected] at h
      cases h

inductive Effect (options : WorkerOptions) (w : World ι) : Action ι → World ι → Prop where
  | received (eventId : UUID) (isSelf needsNoPlugin : Bool) (now : Time) (inbox : Inbox) :
      w.inbox.insert (receivedRow eventId isSelf needsNoPlugin now) = some inbox →
      Effect options w (.receive eventId isSelf needsNoPlugin now) { w with inbox := inbox }
  | recovered (i : ι) (now : Time) (ids : List UUID) (inbox : Inbox) :
      updateEach (leaseExpired now) recoveredRow w.inbox ids = some inbox →
      Effect options w (.recoverExpiredLeases i now ids) { w with inbox := inbox }
  | claimed (i : ι) (now : Time) (ids : List UUID) (inbox : Inbox) : w.phase i = .between [] →
      updateEach (due now) (claimedRow options now) w.inbox ids = some inbox →
      Effect options w (.claimDueEvents i now ids) { w.to i (.between ids) with inbox := inbox }
  | passed (i : ι) (row : WebhookInbox) (todo : List UUID) :
      w.phase i = .between (row.eventId :: todo) → w.inbox.find row.eventId = some row →
      Effect options w (.load i) (w.to i (.between todo))
  | loaded (i : ι) (row : WebhookInbox) (todo : List UUID) :
      w.phase i = .between (row.eventId :: todo) → w.inbox.find row.eventId = some row →
      ignored row = false → Effect options w (.load i) (w.to i (.dispatching row todo))
  | committed (i : ι) (now : Time) (outcome : Outcome) (loaded stored : WebhookInbox)
      (todo : List UUID) : w.phase i = .dispatching loaded todo →
      w.inbox.find loaded.eventId = some stored →
      Effect options w (.commit i now outcome) { w.to i (.between todo) with
        inbox := w.inbox.save (dispatchedRow options now loaded stored outcome) }
  | rolledBack (i : ι) (errorType : String) (loaded : WebhookInbox) (todo : List UUID) :
      w.phase i = .dispatching loaded todo →
      Effect options w (.rollback i errorType) (w.to i (.failing loaded.eventId errorType todo))
  | reloaded (i : ι) (errorType : String) (row : WebhookInbox) (todo : List UUID) :
      w.phase i = .failing row.eventId errorType todo → w.inbox.find row.eventId = some row →
      Effect options w (.loadFailed i) (w.to i (.marking row errorType todo))
  | marked (i : ι) (errorType : String) (loaded stored : WebhookInbox) (todo : List UUID) :
      w.phase i = .marking loaded errorType todo → w.inbox.find loaded.eventId = some stored →
      Effect options w (.markFailed i) { w.to i (.between todo) with
        inbox := w.inbox.save (writeRow loaded (markedRow errorType loaded) stored) }
  | stopped (i : ι) : Effect options w (.stop i) (w.to i (.between []))

theorem step_effect {options : WorkerOptions} {w w' : World ι} {a : Action ι}
    (h : step options w a = some w') : Effect options w a w' := by
  cases a with
  | receive eventId isSelf needsNoPlugin now =>
    obtain ⟨inbox, hinsert, rfl⟩ := Option.map_eq_some_iff.mp h
    exact .received eventId isSelf needsNoPlugin now inbox hinsert
  | recoverExpiredLeases i now ids =>
    simp only [step] at h
    split at h
    · split at h
      · obtain ⟨inbox, hupdate, rfl⟩ := Option.map_eq_some_iff.mp h
        exact .recovered i now ids inbox hupdate
      · cases h
    · cases h
  | claimDueEvents i now ids =>
    simp only [step] at h
    split at h
    · rename_i hphase
      split at h
      · obtain ⟨inbox, hupdate, rfl⟩ := Option.map_eq_some_iff.mp h
        exact .claimed i now ids inbox hphase hupdate
      · cases h
    · cases h
  | load i =>
    simp only [step] at h
    split at h
    · rename_i eventId todo hphase
      obtain ⟨row, hfind, rfl⟩ := Option.map_eq_some_iff.mp h
      obtain rfl := Table.find_key hfind
      by_cases hignored : ignored row = true
      · rw [if_pos hignored]
        exact .passed i row todo hphase hfind
      · rw [if_neg hignored]
        exact .loaded i row todo hphase hfind (Bool.eq_false_iff.mpr hignored)
    · cases h
  | commit i now outcome =>
    simp only [step] at h
    split at h
    · rename_i loaded todo hphase
      split at h
      · obtain ⟨stored, hfind, rfl⟩ := Option.map_eq_some_iff.mp h
        exact .committed i now outcome loaded stored todo hphase hfind
      · cases h
    · cases h
  | rollback i errorType =>
    simp only [step] at h
    split at h
    · rename_i loaded todo hphase
      cases h
      exact .rolledBack i errorType loaded todo hphase
    · cases h
  | loadFailed i =>
    simp only [step] at h
    split at h
    · rename_i eventId errorType todo hphase
      obtain ⟨row, hfind, rfl⟩ := Option.map_eq_some_iff.mp h
      obtain rfl := Table.find_key hfind
      exact .reloaded i errorType row todo hphase hfind
    · cases h
  | markFailed i =>
    simp only [step] at h
    split at h
    · rename_i loaded errorType todo hphase
      obtain ⟨stored, hfind, rfl⟩ := Option.map_eq_some_iff.mp h
      exact .marked i errorType loaded stored todo hphase hfind
    · cases h
  | stop i =>
    cases h
    exact .stopped i

theorem eventId_writeRow (loaded current stored : WebhookInbox) :
    (writeRow loaded current stored).eventId = stored.eventId := rfl

theorem eventId_dispatchedRow (options : WorkerOptions) (now : Time)
    (loaded stored : WebhookInbox) (outcome : Outcome) :
    (dispatchedRow options now loaded stored outcome).eventId = stored.eventId := by
  cases outcome <;> rfl

theorem attempts_retriedRow (options : WorkerOptions) (now : Time) (row : WebhookInbox) :
    (retriedRow options now row).dispatchAttemptCount = row.dispatchAttemptCount := by
  unfold retriedRow
  split <;> rfl

/-- No dispatch writes the attempt count. -/
theorem attempts_dispatchedRow (options : WorkerOptions) (now : Time)
    (loaded stored : WebhookInbox) (outcome : Outcome) :
    (dispatchedRow options now loaded stored outcome).dispatchAttemptCount =
      stored.dispatchAttemptCount := by
  have hfirst : ∀ current : WebhookInbox,
      current.dispatchAttemptCount = loaded.dispatchAttemptCount →
      (writeRow loaded current stored).dispatchAttemptCount = stored.dispatchAttemptCount :=
    fun _ heq => column_of_unchanged heq _
  cases outcome with
  | retryable failures =>
    exact (column_of_unchanged (attempts_retriedRow options now _) _).trans (hfirst _ rfl)
  | _ => exact hfirst _ rfl

end WechatBot.InboxWorker
