import WechatBot.InboxTerminal

/-!
# Attempts to dispatch an event

The attempt count of an event is the number of its claims. Only a retry looks at the
limit, and at the count that its worker has loaded; a recovered lease makes an event
claimable again whatever its count is.
-/
namespace WechatBot.DispatchAttempts

open PyData DirtyWrite InboxWorker InboxTerminal
open Tables (Table)

variable {ι : Type} [DecidableEq ι]

def attempts (inbox : Inbox) (id : UUID) : Nat :=
  ((inbox.find id).map (·.dispatchAttemptCount)).getD 0

/-- How often the event has been claimed. -/
def claims (id : UUID) : List (InboxWorker.Action ι) → Nat
  | [] => 0
  | .claimDueEvents _ _ ids :: as => (if id ∈ ids then 1 else 0) + claims id as
  | _ :: as => claims id as

theorem attempts_of_find {inbox : Inbox} {id : UUID} {row : WebhookInbox}
    (h : inbox.find id = some row) : attempts inbox id = row.dispatchAttemptCount := by
  rw [attempts, h, Option.map_some, Option.getD_some]

/-- A row saved with its count keeps it. -/
theorem attempts_save {inbox : Inbox} {stored row : WebhookInbox} {id : UUID}
    (hfind : inbox.find id = some stored) (hkey : row.eventId = stored.eventId)
    (hcount : row.dispatchAttemptCount = stored.dispatchAttemptCount) (other : UUID) :
    attempts (inbox.save row) other = attempts inbox other := by
  rw [attempts, find_changed hfind hkey]
  by_cases hid : other = id
  · rw [if_pos hid, Option.map_some, Option.getD_some, hid, attempts_of_find hfind, hcount]
  · rw [if_neg hid, attempts]

/-- A step counts exactly the claims that it makes. -/
theorem attempts_effect {options : WorkerOptions} {w w' : World ι} {a : InboxWorker.Action ι}
    (heffect : Effect options w a w') (id : UUID) :
    attempts w'.inbox id = attempts w.inbox id + claims id [a] := by
  cases heffect with
  | received eventId isSelf needsNoPlugin now inbox hinsert =>
    change attempts inbox id = attempts w.inbox id
    rw [attempts, Table.find_insert hinsert]
    by_cases hid : id = (receivedRow eventId isSelf needsNoPlugin now).eventId
    · have hfresh := Table.insert_fresh hinsert
      rw [if_pos hid, attempts, hid, hfresh]
      rfl
    · rw [if_neg hid, attempts]
  | recovered i now ids inbox hupdate =>
    obtain ⟨-, hchanged, hkept⟩ := updateEach_spec (recover_selection now) hupdate
    change attempts inbox id = attempts w.inbox id
    by_cases hid : id ∈ ids
    · obtain ⟨row, hfind, -, hrecovered⟩ := hchanged id hid
      rw [attempts_of_find hrecovered, attempts_of_find hfind]
      rfl
    · rw [attempts, hkept id hid, attempts]
  | claimed i now ids inbox hphase hupdate =>
    obtain ⟨-, hchanged, hkept⟩ := updateEach_spec (claim_selection options now) hupdate
    change attempts inbox id = attempts w.inbox id + ((if id ∈ ids then 1 else 0) + 0)
    by_cases hid : id ∈ ids
    · obtain ⟨row, hfind, -, hclaimed⟩ := hchanged id hid
      rw [attempts_of_find hclaimed, attempts_of_find hfind, if_pos hid]
      rfl
    · rw [attempts, hkept id hid, attempts, if_neg hid, Nat.add_zero]
  | committed i now outcome loaded stored todo hphase hfind =>
    exact attempts_save hfind (eventId_dispatchedRow options now loaded stored outcome)
      (attempts_dispatchedRow options now loaded stored outcome) id
  | marked i errorType loaded stored todo hphase hfind =>
    exact attempts_save hfind (eventId_writeRow loaded (markedRow errorType loaded) stored)
      (column_of_unchanged rfl _) id
  | passed i row todo hphase hfind => rfl
  | loaded i row todo hphase hfind _ => rfl
  | rolledBack i errorType loaded todo hphase => rfl
  | reloaded i errorType row todo hphase hfind => rfl
  | stopped i => rfl

omit [DecidableEq ι] in
theorem claims_cons (id : UUID) (a : InboxWorker.Action ι) (as : List (InboxWorker.Action ι)) :
    claims id (a :: as) = claims id [a] + claims id as := by
  cases a <;> simp [claims]

/-- The attempt count grows by one with each claim and in no other way. -/
theorem attempts_run {options : WorkerOptions} {w w' : World ι} {as : List (InboxWorker.Action ι)}
    (hrun : Runs.run (step options) w as = some w') (id : UUID) :
    attempts w'.inbox id = attempts w.inbox id + claims id as := by
  induction as generalizing w with
  | nil =>
    cases hrun
    rfl
  | cons a as ih =>
    obtain ⟨u, hstep, hrest⟩ := (Runs.run_cons _ _ _ _ _).mp hrun
    rw [ih hrest, attempts_effect (step_effect hstep), claims_cons id a as]
    omega

/-- No event that has had its last attempt becomes claimable again: its lease is not
recovered, and no retry that was decided on an older count is committed. -/
def WithinLimit (options : WorkerOptions) (w : World ι) : InboxWorker.Action ι → Prop
  | .recoverExpiredLeases _ _ ids => ∀ id ∈ ids, attempts w.inbox id < options.maxAttempts
  | .commit i _ (.retryable _) =>
    match w.phase i with
    | .dispatching loaded _ => loaded.dispatchAttemptCount < options.maxAttempts →
        attempts w.inbox loaded.eventId < options.maxAttempts
    | _ => True
  | _ => True

/-- The count is within the limit, and below it while the event can be claimed. -/
def Limited (options : WorkerOptions) (row : WebhookInbox) : Prop :=
  row.dispatchAttemptCount ≤ options.maxAttempts ∧
    (row.status = .NORMALIZED → row.dispatchAttemptCount < options.maxAttempts)

def Bounded (options : WorkerOptions) (inbox : Inbox) : Prop :=
  ∀ id row, inbox.find id = some row → Limited options row

/-- A row within the limit keeps the inbox within it. -/
theorem bounded_save {options : WorkerOptions} {inbox : Inbox} {stored row : WebhookInbox}
    {id : UUID} (h : Bounded options inbox) (hfind : inbox.find id = some stored)
    (hkey : row.eventId = stored.eventId) (hrow : Limited options row) :
    Bounded options (inbox.save row) := by
  intro other found hfound
  rw [find_changed hfind hkey] at hfound
  split at hfound
  · cases hfound
    exact hrow
  · exact h other found hfound

theorem bounded_updateEach {options : WorkerOptions} {selected : WebhookInbox → Bool}
    {change : WebhookInbox → WebhookInbox} (hselection : Selection selected change)
    {t t' : Inbox} {ids : List UUID} (h : Bounded options t)
    (hupdate : updateEach selected change t ids = some t')
    (hrows : ∀ id ∈ ids, ∀ row, t.find id = some row → selected row = true →
      Limited options (change row)) : Bounded options t' := by
  obtain ⟨-, hchanged, hkept⟩ := updateEach_spec hselection hupdate
  intro id row hfind
  by_cases hid : id ∈ ids
  · obtain ⟨stored, hstored, hselected, hnew⟩ := hchanged id hid
    rw [hnew] at hfind
    cases hfind
    exact hrows id hid stored hstored hselected
  · rw [hkept id hid] at hfind
    exact h id row hfind

/-- Outside of a retry a written status is not NORMALIZED unless it was. -/
theorem status_outcome {loaded stored : WebhookInbox} {outcome : Outcome}
    (hretry : ∀ failures, outcome ≠ .retryable failures)
    (h : (writeRow loaded (outcomeRow loaded outcome) stored).status = .NORMALIZED) :
    stored.status = .NORMALIZED := by
  have hnew : (outcomeRow loaded outcome).status ≠ .NORMALIZED := by
    cases outcome with
    | retryable failures => exact absurd rfl (hretry failures)
    | _ => exact nofun
  by_cases hsame : (outcomeRow loaded outcome).status = loaded.status
  · exact (column_of_unchanged hsame _).symm.trans h
  · exact absurd ((column_of_changed hsame _).symm.trans h) hnew

/-- An outcome that is no retry stays within the limit. -/
theorem limited_outcome {options : WorkerOptions} {loaded stored : WebhookInbox}
    {outcome : Outcome} (h : Limited options stored)
    (hretry : ∀ failures, outcome ≠ .retryable failures) :
    Limited options (writeRow loaded (outcomeRow loaded outcome) stored) := by
  have hcount : (outcomeRow loaded outcome).dispatchAttemptCount = loaded.dispatchAttemptCount := by
    cases outcome <;> rfl
  have hkept : (writeRow loaded (outcomeRow loaded outcome) stored).dispatchAttemptCount =
      stored.dispatchAttemptCount := column_of_unchanged hcount _
  refine ⟨hkept.trans_le h.1, fun hstatus => ?_⟩
  rw [hkept]
  exact h.2 (status_outcome hretry hstatus)

/-- A retry below the limit stays within it. -/
theorem limited_retry {options : WorkerOptions} {now : Time} {loaded stored : WebhookInbox}
    {failures : Nat} (h : Limited options stored)
    (hlimit : loaded.dispatchAttemptCount < options.maxAttempts →
      stored.dispatchAttemptCount < options.maxAttempts) :
    Limited options (dispatchedRow options now loaded stored (.retryable failures)) := by
  refine ⟨?_, fun hstatus => ?_⟩
  · rw [attempts_dispatchedRow]
    exact h.1
  · rw [attempts_dispatchedRow]
    by_cases hlast : options.maxAttempts ≤ loaded.dispatchAttemptCount
    · -- the worker has written FAILED over the dispatcher's NORMALIZED
      have hretried : (retriedRow options now (outcomeRow loaded (.retryable failures))).status =
          .FAILED := by
        unfold retriedRow
        split
        · rfl
        · rename_i hnot
          exact absurd hlast hnot
      have hne : (retriedRow options now (outcomeRow loaded (.retryable failures))).status ≠
          (outcomeRow loaded (.retryable failures)).status := by
        rw [hretried]
        exact nofun
      have hwritten : (dispatchedRow options now loaded stored (.retryable failures)).status =
          .FAILED := (column_of_changed hne _).trans hretried
      rw [hwritten] at hstatus
      cases hstatus
    · exact hlimit (by omega)

/-- A step within the limit keeps every row there. -/
theorem bounded_effect {options : WorkerOptions} {w w' : World ι} {a : InboxWorker.Action ι}
    (h : Bounded options w.inbox) (hlimit : WithinLimit options w a)
    (heffect : Effect options w a w') : Bounded options w'.inbox := by
  cases heffect with
  | received eventId isSelf needsNoPlugin now inbox hinsert =>
    intro id row hfind
    change inbox.find id = some row at hfind
    rw [Table.find_insert hinsert] at hfind
    split at hfind
    · cases hfind
      exact ⟨Nat.zero_le _, fun _ => options.attemptsPositive⟩
    · exact h id row hfind
  | recovered i now ids inbox hupdate =>
    refine bounded_updateEach (recover_selection now) h hupdate fun id hid row hfind _ => ?_
    have hbelow := hlimit id hid
    rw [attempts_of_find hfind] at hbelow
    exact ⟨Nat.le_of_lt hbelow, fun _ => hbelow⟩
  | claimed i now ids inbox hphase hupdate =>
    refine bounded_updateEach (claim_selection options now) h hupdate fun id hid row hfind hdue => ?_
    simp only [due, decide_eq_true_eq] at hdue
    exact ⟨(h id row hfind).2 hdue.1, fun hstatus => by cases hstatus⟩
  | committed i now outcome loaded stored todo hphase hfind =>
    refine bounded_save h hfind (eventId_dispatchedRow options now loaded stored outcome) ?_
    have hstored := h _ _ hfind
    cases outcome with
    | retryable failures =>
      simp only [WithinLimit, hphase, attempts_of_find hfind] at hlimit
      exact limited_retry hstored hlimit
    | noPlugin => exact limited_outcome hstored (fun _ h => by cases h)
    | unresolved => exact limited_outcome hstored (fun _ h => by cases h)
    | conflict => exact limited_outcome hstored (fun _ h => by cases h)
    | dispatched => exact limited_outcome hstored (fun _ h => by cases h)
  | marked i errorType loaded stored todo hphase hfind =>
    refine bounded_save h hfind (eventId_writeRow _ _ _) ?_
    have hstored := h _ _ hfind
    have hkept : (writeRow loaded (markedRow errorType loaded) stored).dispatchAttemptCount =
        stored.dispatchAttemptCount := column_of_unchanged rfl _
    refine ⟨hkept.trans_le hstored.1, fun hstatus => ?_⟩
    rw [hkept]
    by_cases hsame : InboxStatus.FAILED = loaded.status
    · exact hstored.2 ((column_of_unchanged hsame stored.status).symm.trans hstatus)
    · have hwritten : (writeRow loaded (markedRow errorType loaded) stored).status = .FAILED :=
        column_of_changed hsame stored.status
      rw [hwritten] at hstatus
      cases hstatus
  | passed i row todo hphase hfind => exact h
  | loaded i row todo hphase hfind _ => exact h
  | rolledBack i errorType loaded todo hphase => exact h
  | reloaded i errorType row todo hphase hfind => exact h
  | stopped i => exact h

/-- In every run in which no event becomes claimable again after its last attempt, no event
is claimed more than `maxAttempts` times. -/
theorem attempts_bounded (options : WorkerOptions) (as : List (InboxWorker.Action ι))
    (w : World ι) (hlimit : Runs.EachStep (step options) (WithinLimit options) (atRest ι) as)
    (hrun : Runs.run (step options) (atRest ι) as = some w) (id : UUID) :
    claims id as ≤ options.maxAttempts ∧ attempts w.inbox id ≤ options.maxAttempts := by
  have hstart : Bounded options (atRest ι).inbox := by
    intro id row hfind
    cases hfind
  have hbounded := Runs.run_invariant_of_each (WithinLimit options)
    (fun w : World ι => Bounded options w.inbox)
    (fun _ _ _ h hl hstep => bounded_effect h hl (step_effect hstep))
    hstart hlimit hrun
  have hcount : attempts w.inbox id = claims id as := by
    rw [attempts_run hrun id]
    exact Nat.zero_add _
  have hattempts : attempts w.inbox id ≤ options.maxAttempts := by
    cases hfind : w.inbox.find id with
    | none => simp [attempts, hfind]
    | some row =>
      rw [attempts_of_find hfind]
      exact (hbounded id row hfind).1
  exact ⟨hcount ▸ hattempts, hattempts⟩

/-- Below the limit a recovery and a retry are always right. -/
theorem withinLimit_of_claims {options : WorkerOptions} {w : World ι}
    {as : List (InboxWorker.Action ι)}
    (h : ∀ id, attempts w.inbox id + claims id as < options.maxAttempts) :
    Runs.EachStep (step options) (WithinLimit options) w as := by
  induction as generalizing w with
  | nil => trivial
  | cons a as ih =>
    have hnow : ∀ id, attempts w.inbox id < options.maxAttempts :=
      fun id => (Nat.le_add_right _ _).trans_lt (h id)
    refine ⟨?_, fun u hstep => ih fun id => ?_⟩
    · unfold WithinLimit
      split
      · exact fun id _ => hnow id
      · split
        · exact fun _ => hnow _
        · trivial
      · trivial
    · rw [attempts_effect (step_effect hstep), Nat.add_assoc, ← claims_cons]
      exact h id

/-- The worker dies at each dispatch, and the next one recovers the lease. -/
def poison : Nat → List (InboxWorker.Action Bool)
  | 0 => [.receive 1 false false 0]
  | n + 1 => poison n ++ [.claimDueEvents true (n * 120000000) [1], .stop true,
      .recoverExpiredLeases true ((n + 1) * 120000000) [1]]

/-- Two crashes, a dispatch that has to be repeated, and one that has not. -/
def crashesRecovered : List (InboxWorker.Action Bool) :=
  poison 2 ++ [.claimDueEvents false 240000000 [1], .load false,
    .commit false 240000000 (.retryable 1)] ++ dispatchOnce 244000000

theorem crashesRun_isSome : (inboxRun crashesRecovered).isSome = true := by decide +kernel

theorem crashes_claims (id : UUID) :
    attempts (atRest Bool).inbox id + claims id crashesRecovered < defaultOptions.maxAttempts := by
  have hclaims : claims id crashesRecovered ≤ 4 := by
    simp only [crashesRecovered, poison, dispatchOnce, claims, List.cons_append, List.nil_append]
    split <;> omega
  exact (Nat.zero_add _).trans_lt (hclaims.trans_lt (by decide))

theorem attempts_bounded_crashes : claims 1 crashesRecovered ≤ defaultOptions.maxAttempts ∧
    attempts ((inboxRun crashesRecovered).get crashesRun_isSome).inbox 1 ≤
      defaultOptions.maxAttempts :=
  attempts_bounded defaultOptions crashesRecovered _ (withinLimit_of_claims crashes_claims)
    (Option.some_get _).symm 1

theorem poisonRun_isSome : (inboxRun (poison 6)).isSome = true := by decide +kernel

/-- An event whose worker crashes in every dispatch is claimed a sixth time. -/
theorem poison_exceeds_limit :
    ¬ ∀ (options : WorkerOptions) (as : List (InboxWorker.Action Bool)) (w : World Bool),
      Runs.run (step options) (atRest Bool) as = some w →
        ∀ id, claims id as ≤ options.maxAttempts := by
  intro h
  have hclaims := h defaultOptions (poison 6) _ (Option.some_get poisonRun_isSome).symm 1
  have hsix : claims 1 (poison 6) = 6 := by decide +kernel
  rw [hsix] at hclaims
  exact absurd hclaims (by decide)

end WechatBot.DispatchAttempts
