import WechatBot.Dispatcher
import WechatBot.InboxWorker
import WechatBot.Runs

/-!
# One accepted result for each event and deployment

Workers whose `_dispatch_one` is one transaction. The routes, the policy's decisions and
the plugins' answers are different in every attempt. A finished record stops the call in
each later attempt, and a result counts only when its record is committed.
-/
namespace WechatBot.ExactlyOnce

open PyData OutboxState PluginActions Dispatcher InboxWorker
open Tables (Table)

/-- What an attempt meets after the checks of the event itself. An exception that no
plugin result causes can come after any number of turns of the loop. -/
inductive Situation where
  | unresolved
  | conflict
  | routed (d : EventDispatch)
  | interrupted (d : EventDispatch) (turns : Nat) (errorType : String)

def Situation.concerns (eventId : UUID) : Situation → Prop
  | .unresolved | .conflict => True
  | .routed d | .interrupted d _ _ => d.event.id = eventId

instance (eventId : UUID) (situation : Situation) : Decidable (situation.concerns eventId) := by
  unfold Situation.concerns
  split <;> infer_instance

/-- The rows that one attempt reads and writes: those of its event and the outbox. -/
structure Rows where
  inbox : WebhookInbox
  outbox : Outbox
  records : UUID → Option PluginEventDispatch

def Rows.start (rows : Rows) : DispatchState := ⟨rows.outbox, rows.records, []⟩

def exceptionName : UncaughtError → String
  | .TypeError => "TypeError"
  | .ValidationError => "ValidationError"
  | .OutboxAccountNotFoundError => "OutboxAccountNotFoundError"
  | .DataError => "DataError"

/-- What the end of the loop leaves of the rows: after a rollback the mark of
`_mark_failed` only. -/
def endedRows (options : WorkerOptions) (now : Time) (rows : Rows) : DispatchEnd → Rows
  | .rolledBack error => { rows with inbox := markedRow (exceptionName error) rows.inbox }
  | .committed s false => ⟨outcomeRow rows.inbox .dispatched, s.outbox, s.records⟩
  | .committed s true =>
    let row := outcomeRow rows.inbox (.retryable s.retryableFailures.length)
    ⟨retriedRow options now row, s.outbox, s.records⟩

/-- `_dispatch_one`. -/
def dispatchOne (options : WorkerOptions) (now : Time) (rows : Rows) (situation : Situation) : Rows :=
  if ignored rows.inbox then rows
  else if rows.inbox.needsNoPlugin then { rows with inbox := outcomeRow rows.inbox .noPlugin }
  else match situation with
    | .unresolved => { rows with inbox := outcomeRow rows.inbox .unresolved }
    | .conflict => { rows with inbox := outcomeRow rows.inbox .conflict }
    | .interrupted _ _ errorType => { rows with inbox := markedRow errorType rows.inbox }
    | .routed d => endedRows options now rows (dispatch d rows.outbox rows.records)

/-- The plugin of the route is called in its turn. -/
def called (s : DispatchState) (selected : Selected) : Bool :=
  (s.record selected.route).status ∉ terminalPluginDispatchStatuses ∧
    selected.decision.allowed = true

/-- The deployments that the loop calls, in the order of the calls. -/
def calls (d : EventDispatch) : DispatchState → List Selected → List UUID
  | _, [] => []
  | s, selected :: rest =>
    (if called s selected then [selected.route.deploymentId] else []) ++
      match dispatchRoute d s selected with
      | .error _ => []
      | .ok s' => calls d s' rest

/-- The deployments that the attempt calls, however it ends. -/
def attemptCalls (rows : Rows) (situation : Situation) : List UUID :=
  if ignored rows.inbox ∨ rows.inbox.needsNoPlugin then []
  else match situation with
    | .unresolved | .conflict => []
    | .routed d => calls d rows.start d.selected
    | .interrupted d turns _ => calls d rows.start (d.selected.take turns)

variable {ι : Type} [DecidableEq ι]

structure World (ι : Type) where
  inbox : Inbox
  outbox : Outbox
  records : UUID → UUID → Option PluginEventDispatch
  todo : ι → List UUID

def World.rows (w : World ι) (row : WebhookInbox) : Rows :=
  ⟨row, w.outbox, w.records row.eventId⟩

/-- `crash` ends the process in an attempt before its commit. `others` is a commit of the
rest of the system to the outbox. -/
inductive Action (ι : Type) where
  | receive (eventId : UUID) (isSelf needsNoPlugin : Bool) (now : Time)
  | recoverExpiredLeases (i : ι) (now : Time) (ids : List UUID)
  | claimDueEvents (i : ι) (now : Time) (ids : List UUID)
  | dispatchOne (i : ι) (now : Time) (situation : Situation)
  | crash (i : ι) (situation : Situation)
  | others (outbox : Outbox)

/-- The row of the event that the worker takes up next. -/
def World.next (w : World ι) (i : ι) (situation : Situation) : Option (WebhookInbox × List UUID) :=
  match w.todo i with
  | [] => none
  | eventId :: todo =>
    if situation.concerns eventId then (w.inbox.find eventId).map fun row => (row, todo) else none

def World.commit (w : World ι) (rows : Rows) : World ι :=
  { w with
    inbox := w.inbox.save rows.inbox
    outbox := rows.outbox
    records := Function.update w.records rows.inbox.eventId rows.records }

def World.to (w : World ι) (i : ι) (todo : List UUID) : World ι :=
  { w with todo := Function.update w.todo i todo }

def step (options : WorkerOptions) (w : World ι) : Action ι → Option (World ι)
  | .receive eventId isSelf needsNoPlugin now =>
    (w.inbox.insert (receivedRow eventId isSelf needsNoPlugin now)).map fun inbox =>
      { w with inbox := inbox }
  | .recoverExpiredLeases i now ids =>
    if w.todo i = [] ∧ ids.length ≤ options.batchSize then
      (updateEach (leaseExpired now) recoveredRow w.inbox ids).map fun inbox =>
        { w with inbox := inbox }
    else none
  | .claimDueEvents i now ids =>
    if w.todo i = [] ∧ ids.length ≤ options.batchSize then
      (updateEach (due now) (claimedRow options now) w.inbox ids).map fun inbox =>
        { w.to i ids with inbox := inbox }
    else none
  | .dispatchOne i now situation => (w.next i situation).map fun (row, todo) =>
      (w.commit (dispatchOne options now (w.rows row) situation)).to i todo
  | .crash i situation => (w.next i situation).map fun _ => w.to i []
  | .others outbox => some { w with outbox := outbox }

/-- How often the worker's next attempt calls the plugin of the deployment for the event. -/
def callsIn (w : World ι) (i : ι) (situation : Situation) (eventId deploymentId : UUID) : Nat :=
  match w.next i situation with
  | none => 0
  | some (row, _) =>
    if row.eventId = eventId then (attemptCalls (w.rows row) situation).count deploymentId else 0

def callsOf (eventId deploymentId : UUID) (w : World ι) : Action ι → Nat
  | .dispatchOne i _ situation | .crash i situation => callsIn w i situation eventId deploymentId
  | _ => 0

/-- The record says SUCCEEDED. -/
def succeeded (record : Option PluginEventDispatch) : Bool :=
  record.map (·.status) = some .SUCCEEDED

/-- The results of the deployment's plugin for the event whose attempt commits the record
as SUCCEEDED. -/
def accepted (options : WorkerOptions) (eventId deploymentId : UUID) :
    World ι → List (Action ι) → Nat
  | _, [] => 0
  | w, a :: as =>
    match step options w a with
    | none => 0
    | some w' => (if succeeded (w'.records eventId deploymentId) then
        callsOf eventId deploymentId w a else 0) + accepted options eventId deploymentId w' as

/-- The record has one of the statuses that end the work on it. -/
def Finished (record : Option PluginEventDispatch) : Prop :=
  ∃ r, record = some r ∧ r.status ∈ terminalPluginDispatchStatuses

theorem finished_of_succeeded {record : Option PluginEventDispatch} (h : succeeded record = true) :
    Finished record := by
  cases record with
  | none => cases h
  | some r =>
    have hstatus : r.status = .SUCCEEDED := by simpa [succeeded] using h
    exact ⟨r, rfl, by rw [hstatus]; exact List.mem_cons_self⟩

theorem status_of_finished {s : DispatchState} {selected : Selected}
    (h : Finished (s.records selected.route.deploymentId)) :
    (s.record selected.route).status ∈ terminalPluginDispatchStatuses := by
  obtain ⟨r, hrecord, hstatus⟩ := h
  rw [DispatchState.record, dispatchRecord, hrecord]
  exact hstatus

/-- The turn of a finished record is skipped. -/
theorem dispatchRoute_finished (d : EventDispatch) {s : DispatchState} {selected : Selected}
    (h : Finished (s.records selected.route.deploymentId)) : dispatchRoute d s selected = .ok s := by
  rw [dispatchRoute, if_pos (status_of_finished h)]

theorem dispatchRoute_other {d : EventDispatch} {s s' : DispatchState} {selected : Selected}
    {deploymentId : UUID} (hne : deploymentId ≠ selected.route.deploymentId)
    (h : dispatchRoute d s selected = .ok s') :
    s'.records deploymentId = s.records deploymentId := by
  have hturn := dispatchRoute_turn d s selected
  rw [h] at hturn
  cases hturn with
  | skipped hdone => rfl
  | closed record retryable hnone => exact saveRecord_other hne
  | ended result record outbox hreturns hend => exact saveRecord_other hne

theorem dispatchRoute_keeps {d : EventDispatch} {s s' : DispatchState} {selected : Selected}
    {deploymentId : UUID} (hfinished : Finished (s.records deploymentId))
    (h : dispatchRoute d s selected = .ok s') :
    s'.records deploymentId = s.records deploymentId := by
  by_cases heq : deploymentId = selected.route.deploymentId
  · subst heq
    rw [dispatchRoute_finished d hfinished] at h
    cases h
    rfl
  · exact dispatchRoute_other heq h

theorem dispatchRoutes_keeps {d : EventDispatch} {s s' : DispatchState} {turns : List Selected}
    {deploymentId : UUID} (hfinished : Finished (s.records deploymentId))
    (h : dispatchRoutes d s turns = .ok s') :
    s'.records deploymentId = s.records deploymentId := by
  induction turns generalizing s with
  | nil =>
    cases h
    rfl
  | cons selected turns ih =>
    obtain ⟨u, hfirst, hrest⟩ := dispatchRoutes_cons.mp h
    have hkept := dispatchRoute_keeps hfinished hfirst
    exact (ih (hkept ▸ hfinished) hrest).trans hkept

/-- The loop never calls the plugin of a finished record. -/
theorem calls_finished (d : EventDispatch) {s : DispatchState} (turns : List Selected)
    {deploymentId : UUID} (hfinished : Finished (s.records deploymentId)) :
    deploymentId ∉ calls d s turns := by
  induction turns generalizing s with
  | nil => exact List.not_mem_nil
  | cons selected turns ih =>
    rw [calls, List.mem_append, not_or]
    constructor
    · by_cases hcalled : called s selected = true
      · rw [if_pos hcalled, List.mem_singleton]
        rintro rfl
        simp only [called, decide_eq_true_eq] at hcalled
        exact hcalled.1 (status_of_finished hfinished)
      · rw [if_neg hcalled]
        exact List.not_mem_nil
    · cases hturn : dispatchRoute d s selected with
      | error error => exact List.not_mem_nil
      | ok u => exact ih (dispatchRoute_keeps hfinished hturn ▸ hfinished)

/-- The loop calls each plugin at most once, in the order of the routes. -/
theorem calls_sublist (d : EventDispatch) (s : DispatchState) (turns : List Selected) :
    (calls d s turns).Sublist (turns.map (·.route.deploymentId)) := by
  induction turns generalizing s with
  | nil => exact List.Sublist.refl _
  | cons selected turns ih =>
    have hfirst : List.Sublist (if called s selected then [selected.route.deploymentId] else [])
        [selected.route.deploymentId] := by
      split
      · exact List.Sublist.refl _
      · exact List.nil_sublist _
    rw [calls, List.map_cons, ← List.singleton_append]
    apply hfirst.append
    cases dispatchRoute d s selected with
    | error error => exact List.nil_sublist _
    | ok u => exact ih u

theorem attemptCalls_finished {rows : Rows} (situation : Situation) {deploymentId : UUID}
    (hfinished : Finished (rows.records deploymentId)) :
    deploymentId ∉ attemptCalls rows situation := by
  unfold attemptCalls
  split
  · exact List.not_mem_nil
  · cases situation with
    | unresolved => exact List.not_mem_nil
    | conflict => exact List.not_mem_nil
    | routed d => exact calls_finished d d.selected hfinished
    | interrupted d turns errorType => exact calls_finished d (d.selected.take turns) hfinished

theorem attemptCalls_nodup (rows : Rows) (situation : Situation) :
    (attemptCalls rows situation).Nodup := by
  unfold attemptCalls
  split
  · exact List.nodup_nil
  · cases situation with
    | unresolved => exact List.nodup_nil
    | conflict => exact List.nodup_nil
    | routed d => exact (calls_sublist d rows.start d.selected).nodup d.distinct
    | interrupted d turns errorType =>
      have htaken := (List.take_sublist turns d.selected).map (fun turn : Selected => turn.route.deploymentId)
      exact ((calls_sublist d rows.start _).trans htaken).nodup d.distinct

theorem dispatch_keeps (d : EventDispatch) (options : WorkerOptions) (now : Time) {rows : Rows}
    {deploymentId : UUID} (hfinished : Finished (rows.records deploymentId)) :
    (endedRows options now rows (dispatch d rows.outbox rows.records)).records deploymentId =
      rows.records deploymentId := by
  unfold dispatch
  cases hroutes : dispatchRoutes d ⟨rows.outbox, rows.records, []⟩ d.selected with
  | error error => rfl
  | ok s =>
    have hkept : s.records deploymentId = rows.records deploymentId :=
      dispatchRoutes_keeps hfinished hroutes
    cases hretry : !s.retryableFailures.isEmpty with
    | false =>
      simp only [hretry]
      exact hkept
    | true =>
      simp only [hretry]
      exact hkept

theorem dispatchOne_keeps (options : WorkerOptions) (now : Time) {rows : Rows}
    (situation : Situation) {deploymentId : UUID} (hfinished : Finished (rows.records deploymentId)) :
    (dispatchOne options now rows situation).records deploymentId = rows.records deploymentId := by
  unfold dispatchOne
  split
  · rfl
  · split
    · rfl
    · cases situation with
      | unresolved => rfl
      | conflict => rfl
      | interrupted d turns errorType => rfl
      | routed d => exact dispatch_keeps d options now hfinished

theorem eventId_endedRows (options : WorkerOptions) (now : Time) (rows : Rows) (e : DispatchEnd) :
    (endedRows options now rows e).inbox.eventId = rows.inbox.eventId := by
  cases e with
  | rolledBack error => rfl
  | committed s retry =>
    cases retry with
    | false => rfl
    | true =>
      simp only [endedRows, retriedRow]
      split <;> rfl

theorem eventId_dispatchOne (options : WorkerOptions) (now : Time) (rows : Rows)
    (situation : Situation) :
    (dispatchOne options now rows situation).inbox.eventId = rows.inbox.eventId := by
  unfold dispatchOne
  split
  · rfl
  · split
    · rfl
    · cases situation with
      | unresolved => rfl
      | conflict => rfl
      | interrupted d turns errorType => rfl
      | routed d => exact eventId_endedRows options now rows _

/-- A finished record stays as it is. -/
theorem record_step {options : WorkerOptions} {w w' : World ι} {a : Action ι}
    {eventId deploymentId : UUID} (hfinished : Finished (w.records eventId deploymentId))
    (hstep : step options w a = some w') :
    w'.records eventId deploymentId = w.records eventId deploymentId := by
  cases a with
  | receive id isSelf needsNoPlugin now =>
    obtain ⟨inbox, -, rfl⟩ := Option.map_eq_some_iff.mp hstep
    rfl
  | recoverExpiredLeases i now ids =>
    simp only [step] at hstep
    split at hstep
    · obtain ⟨inbox, -, rfl⟩ := Option.map_eq_some_iff.mp hstep
      rfl
    · cases hstep
  | claimDueEvents i now ids =>
    simp only [step] at hstep
    split at hstep
    · obtain ⟨inbox, -, rfl⟩ := Option.map_eq_some_iff.mp hstep
      rfl
    · cases hstep
  | dispatchOne i now situation =>
    obtain ⟨⟨row, todo⟩, hnext, rfl⟩ := Option.map_eq_some_iff.mp hstep
    change Function.update w.records (dispatchOne options now (w.rows row) situation).inbox.eventId
      (dispatchOne options now (w.rows row) situation).records eventId deploymentId = _
    have hkey : (dispatchOne options now (w.rows row) situation).inbox.eventId = row.eventId :=
      eventId_dispatchOne options now (w.rows row) situation
    rw [hkey]
    by_cases heq : eventId = row.eventId
    · subst heq
      rw [Function.update_self]
      exact dispatchOne_keeps options now situation hfinished
    · rw [Function.update_of_ne heq]
  | crash i situation =>
    obtain ⟨next, -, rfl⟩ := Option.map_eq_some_iff.mp hstep
    rfl
  | others outbox =>
    cases hstep
    rfl

omit [DecidableEq ι] in
theorem callsIn_le (w : World ι) (i : ι) (situation : Situation) (eventId deploymentId : UUID) :
    callsIn w i situation eventId deploymentId ≤ 1 := by
  unfold callsIn
  split
  · exact Nat.zero_le 1
  · split
    · exact List.nodup_iff_count_le_one.mp (attemptCalls_nodup _ situation) deploymentId
    · exact Nat.zero_le 1

omit [DecidableEq ι] in
theorem callsIn_finished {w : World ι} {eventId deploymentId : UUID}
    (hfinished : Finished (w.records eventId deploymentId)) (i : ι) (situation : Situation) :
    callsIn w i situation eventId deploymentId = 0 := by
  unfold callsIn
  split
  · rfl
  · split
    · rename_i row todo hnext heq
      subst heq
      exact List.count_eq_zero.mpr (attemptCalls_finished situation hfinished)
    · rfl

omit [DecidableEq ι] in
theorem callsOf_le (eventId deploymentId : UUID) (w : World ι) (a : Action ι) :
    callsOf eventId deploymentId w a ≤ 1 := by
  cases a with
  | dispatchOne i now situation => exact callsIn_le w i situation eventId deploymentId
  | crash i situation => exact callsIn_le w i situation eventId deploymentId
  | _ => exact Nat.zero_le 1

omit [DecidableEq ι] in
theorem callsOf_finished {w : World ι} {eventId deploymentId : UUID}
    (hfinished : Finished (w.records eventId deploymentId)) (a : Action ι) :
    callsOf eventId deploymentId w a = 0 := by
  cases a with
  | dispatchOne i now situation => exact callsIn_finished hfinished i situation
  | crash i situation => exact callsIn_finished hfinished i situation
  | _ => rfl

/-- From a finished record on nothing happens to it. -/
theorem record_run {options : WorkerOptions} {w w' : World ι} {as : List (Action ι)}
    {eventId deploymentId : UUID} (hfinished : Finished (w.records eventId deploymentId))
    (hrun : Runs.run (step options) w as = some w') :
    w'.records eventId deploymentId = w.records eventId deploymentId ∧
      Runs.EachStep (step options) (fun v a => callsOf eventId deploymentId v a = 0) w as := by
  let same (v : World ι) : Prop := v.records eventId deploymentId = w.records eventId deploymentId
  have hstep : ∀ v a v', same v → step options v a = some v' → same v' := by
    intro v a v' hsame hv
    have hdone : Finished (v.records eventId deploymentId) := hsame ▸ hfinished
    exact (record_step hdone hv).trans hsame
  constructor
  · exact Runs.run_invariant same hstep rfl hrun
  · refine Runs.each_of_stable same hstep (fun v a hsame => ?_) rfl as
    have hv : Finished (v.records eventId deploymentId) := hsame ▸ hfinished
    exact callsOf_finished hv a

theorem accepted_cons {options : WorkerOptions} {w u : World ι} {a : Action ι}
    (hstep : step options w a = some u) (as : List (Action ι)) (eventId deploymentId : UUID) :
    accepted options eventId deploymentId w (a :: as) =
      (if succeeded (u.records eventId deploymentId) then callsOf eventId deploymentId w a else 0) +
        accepted options eventId deploymentId u as := by
  simp only [accepted, hstep]

theorem accepted_finished (options : WorkerOptions) {w : World ι} (as : List (Action ι))
    {eventId deploymentId : UUID} (hfinished : Finished (w.records eventId deploymentId)) :
    accepted options eventId deploymentId w as = 0 := by
  induction as generalizing w with
  | nil => rfl
  | cons a as ih =>
    cases hstep : step options w a with
    | none => simp only [accepted, hstep]
    | some u =>
      have hlater := ih (record_step hfinished hstep ▸ hfinished)
      rw [accepted_cons hstep, callsOf_finished hfinished a, ite_self, hlater]

/-- A run accepts at most one result. -/
theorem accepted_le (options : WorkerOptions) (w : World ι) (as : List (Action ι))
    (eventId deploymentId : UUID) : accepted options eventId deploymentId w as ≤ 1 := by
  induction as generalizing w with
  | nil => exact Nat.zero_le 1
  | cons a as ih =>
    cases hstep : step options w a with
    | none =>
      simp only [accepted, hstep]
      omega
    | some u =>
      rw [accepted_cons hstep]
      by_cases hsucceeded : succeeded (u.records eventId deploymentId) = true
      · -- the record is finished now, so nothing is accepted later
        have hlater := accepted_finished options as (finished_of_succeeded hsucceeded)
        rw [if_pos hsucceeded, hlater]
        exact callsOf_le eventId deploymentId w a
      · rw [if_neg hsucceeded, Nat.zero_add]
        exact ih u

/-- From any state on, in every run: a finished record keeps its status and its plugin is
not called again for the event, and at most one result of the plugin is committed as
SUCCEEDED. -/
theorem exactly_once_acceptance (options : WorkerOptions) (as : List (Action ι)) (w w' : World ι)
    (hrun : Runs.run (step options) w as = some w') (eventId deploymentId : UUID) :
    (Finished (w.records eventId deploymentId) →
      w'.records eventId deploymentId = w.records eventId deploymentId ∧
        Runs.EachStep (step options) (fun v a => callsOf eventId deploymentId v a = 0) w as) ∧
      accepted options eventId deploymentId w as ≤ 1 :=
  ⟨fun hfinished => record_run hfinished hrun, accepted_le options w as eventId deploymentId⟩

def atRest (ι : Type) : World ι := ⟨Table.empty _, Table.empty _, fun _ _ => none, fun _ => []⟩

/-- The plugin of deployment 11 fails in the first attempt; both answer in the second. -/
def failingDispatch : EventDispatch :=
  { sampleDispatch (resultOf [replyAction "a" "one"]) (resultOf []) with
    selected := [sampleSelected 10 (resultOf [replyAction "a" "one"]),
      { sampleSelected 11 (resultOf []) with call := .error "PluginTimeoutError" }]
    distinct := by simp [sampleSelected, sampleRoute] }

def firstAttempt : List (Action Unit) :=
  [.receive 7 false false 0, .claimDueEvents () 0 [7], .dispatchOne () 0 (.routed failingDispatch)]

def secondAttempt : List (Action Unit) :=
  [.claimDueEvents () 500000 [7], .dispatchOne () 500000
    (.routed (sampleDispatch (resultOf [replyAction "a" "one"]) (resultOf [])))]

def retriedRun (as : List (Action Unit)) : Option (World Unit) :=
  Runs.run (step defaultOptions) (atRest Unit) as

theorem firstRun_isSome : (retriedRun firstAttempt).isSome = true := by decide +kernel

def firstWorld : World Unit := (retriedRun firstAttempt).get firstRun_isSome

theorem secondRun_isSome :
    (Runs.run (step defaultOptions) firstWorld secondAttempt).isSome = true := by decide +kernel

def secondWorld : World Unit :=
  (Runs.run (step defaultOptions) firstWorld secondAttempt).get secondRun_isSome

theorem exactly_once_acceptance_retried :
    secondWorld.records 7 10 = firstWorld.records 7 10 ∧
      accepted defaultOptions 7 10 firstWorld secondAttempt ≤ 1 := by
  have hresult := exactly_once_acceptance defaultOptions secondAttempt firstWorld secondWorld
    (Option.some_get _).symm 7 10
  have hfinished : Finished (firstWorld.records 7 10) :=
    finished_of_succeeded (by decide +kernel)
  exact ⟨(hresult.1 hfinished).1, hresult.2⟩

end WechatBot.ExactlyOnce
