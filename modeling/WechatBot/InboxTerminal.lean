import Mathlib.Data.Fintype.Basic
import WechatBot.InboxWorker
import WechatBot.Runs

/-!
# Terminal statuses of the inbox

A lease may run out while its worker still has the event in hand, and another worker may
finish the event first. The write of the late worker is the only one that can change a
terminal status: a recovery and a claim lock the row and look at its status again.
-/
namespace WechatBot.InboxTerminal

open PyData DirtyWrite InboxWorker
open Tables (Table)

variable {ι : Type} [DecidableEq ι] {options : WorkerOptions}

def statusOf (inbox : Inbox) (id : UUID) : Option InboxStatus := (inbox.find id).map (·.status)

theorem status_of_find {inbox : Inbox} {id : UUID} {row : WebhookInbox}
    (h : inbox.find id = some row) : statusOf inbox id = some row.status := by
  rw [statusOf, h, Option.map_some]

/-- A new row leaves the status of the others. -/
theorem status_inserted {inbox inbox' : Inbox} {row : WebhookInbox} {id : UUID}
    {status : InboxStatus} (hinsert : inbox.insert row = some inbox')
    (h : statusOf inbox id = some status) : statusOf inbox' id = some status := by
  obtain ⟨stored, hfind, hstatus⟩ := Option.map_eq_some_iff.mp h
  exact Option.map_eq_some_iff.mpr ⟨stored, Table.insert_keeps hinsert hfind, hstatus⟩

theorem phase_to (w : World ι) (i j : ι) (phase : Phase) :
    (w.to i phase).phase j = if j = i then phase else w.phase j := by
  by_cases hj : j = i
  · rw [if_pos hj, hj]
    exact Function.update_self _ _ _
  · rw [if_neg hj]
    exact Function.update_of_ne hj _ _

/-- The end of a dispatch leaves an event alone that another worker has finished meanwhile:
it ends in the same status, or it writes none, because the row had that status when the
dispatch began. -/
def Agrees (options : WorkerOptions) (loaded : WebhookInbox) (finished : InboxStatus) :
    Outcome → Prop
  | .noPlugin | .dispatched => finished = .DISPATCHED
  | .unresolved | .conflict => finished = .FAILED ∨ loaded.status = .FAILED
  | .retryable _ =>
    if options.maxAttempts ≤ loaded.dispatchAttemptCount then finished = .FAILED
    else loaded.status = .NORMALIZED

/-- Every dispatch and every `_mark_failed` that commits late, on an event which is finished
by then, ends as the event has ended. -/
def LateAgrees (options : WorkerOptions) (w : World ι) : Action ι → Prop
  | .commit i _ outcome =>
    match w.phase i with
    | .dispatching loaded _ => ∀ stored, w.inbox.find loaded.eventId = some stored →
        terminal stored.status = true → Agrees options loaded stored.status outcome
    | _ => True
  | .markFailed i =>
    match w.phase i with
    | .marking loaded _ _ => ∀ stored, w.inbox.find loaded.eventId = some stored →
        terminal stored.status = true → stored.status = .FAILED ∨ loaded.status = .FAILED
    | _ => True
  | _ => True

/-- No event with a terminal status changes its status. -/
def Absorbs (inbox inbox' : Inbox) : Prop :=
  ∀ id status, statusOf inbox id = some status → terminal status = true →
    statusOf inbox' id = some status

theorem absorbs_refl (inbox : Inbox) : Absorbs inbox inbox := fun _ _ h _ => h

theorem Absorbs.trans {a b c : Inbox} (hab : Absorbs a b) (hbc : Absorbs b c) : Absorbs a c :=
  fun id status hstatus hterminal =>
    hbc id status (hab id status hstatus hterminal) hterminal

/-- A write keeps the terminal statuses when it keeps that of its own row. -/
theorem absorbs_save_iff {inbox : Inbox} {stored row : WebhookInbox} {id : UUID}
    (hfind : inbox.find id = some stored) (hkey : row.eventId = stored.eventId) :
    Absorbs inbox (inbox.save row) ↔
      (terminal stored.status = true → row.status = stored.status) := by
  have hown : statusOf (inbox.save row) id = some row.status := by
    rw [statusOf, find_changed hfind hkey, if_pos rfl, Option.map_some]
  constructor
  · intro h hterminal
    have hkept := h id stored.status (status_of_find hfind) hterminal
    rw [hown] at hkept
    exact Option.some.inj hkept
  · intro h other status hstatus hterminal
    by_cases hid : other = id
    · subst hid
      rw [status_of_find hfind] at hstatus
      cases hstatus
      rw [hown, h hterminal]
    · rw [statusOf, find_changed hfind hkey, if_neg hid]
      exact hstatus

/-- An update that selects no terminal row changes none. -/
theorem absorbs_updateEach {selected : WebhookInbox → Bool} {change : WebhookInbox → WebhookInbox}
    (hselection : Selection selected change) {t t' : Inbox} {ids : List UUID}
    (h : updateEach selected change t ids = some t')
    (hopen : ∀ row, selected row = true → terminal row.status = false) : Absorbs t t' := by
  obtain ⟨-, hchanged, hkept⟩ := updateEach_spec hselection h
  intro id status hstatus hterminal
  have hout : id ∉ ids := by
    intro hmem
    obtain ⟨row, hfind, hselected, -⟩ := hchanged id hmem
    rw [status_of_find hfind] at hstatus
    cases hstatus
    rw [hopen row hselected] at hterminal
    cases hterminal
  rw [statusOf, hkept id hout]
  exact hstatus

/-- A dispatch has not loaded a DISPATCHED row, since it ignores those. -/
def NotIgnored (w : World ι) : Prop :=
  ∀ i loaded todo, w.phase i = .dispatching loaded todo → loaded.status ≠ .DISPATCHED

omit [DecidableEq ι] in
theorem notIgnored_atRest : NotIgnored (atRest ι) := fun _ _ _ h => nomatch h

/-- A worker that is not about to dispatch afterwards. -/
theorem notIgnored_to {w : World ι} (h : NotIgnored w) {i : ι} {phase : Phase} {inbox : Inbox}
    (hphase : ∀ loaded todo, phase = .dispatching loaded todo → loaded.status ≠ .DISPATCHED) :
    NotIgnored { w.to i phase with inbox := inbox } := by
  intro j loaded todo hj
  change (w.to i phase).phase j = _ at hj
  rw [phase_to] at hj
  split at hj
  · exact hphase loaded todo hj
  · exact h j loaded todo hj

/-- No step loads a DISPATCHED row for a dispatch. -/
theorem notIgnored_effect {w w' : World ι} {a : Action ι} (h : NotIgnored w)
    (heffect : Effect options w a w') : NotIgnored w' := by
  cases heffect with
  | received eventId isSelf needsNoPlugin now inbox hinsert => exact h
  | recovered i now ids inbox hupdate => exact h
  | claimed i now ids inbox hphase hupdate => exact notIgnored_to h fun _ _ heq => nomatch heq
  | passed i row todo hphase hfind => exact notIgnored_to h fun _ _ heq => nomatch heq
  | loaded i row todo hphase hfind hignored =>
    refine notIgnored_to h fun loaded _ heq hdispatched => ?_
    cases heq
    simp [ignored, hdispatched] at hignored
  | committed i now outcome loaded stored todo hphase hfind =>
    exact notIgnored_to h fun _ _ heq => nomatch heq
  | rolledBack i errorType loaded todo hphase => exact notIgnored_to h fun _ _ heq => nomatch heq
  | reloaded i errorType row todo hphase hfind =>
    exact notIgnored_to h fun _ _ heq => nomatch heq
  | marked i errorType loaded stored todo hphase hfind =>
    exact notIgnored_to h fun _ _ heq => nomatch heq
  | stopped i => exact notIgnored_to h fun _ _ heq => nomatch heq

/-- A status column whose new value is not the loaded one is written. -/
theorem column_keeps_iff (loaded current stored : InboxStatus) :
    column loaded current stored = stored ↔ stored = current ∨ loaded = current := by
  by_cases hsame : current = loaded
  · exact iff_of_true (column_of_unchanged hsame _) (.inr hsame.symm)
  · rw [column_of_changed hsame, eq_comm]
    simp [Ne.symm hsame]

theorem status_retriedRow (options : WorkerOptions) (now : Time) (loaded : WebhookInbox)
    (failures : Nat) : (retriedRow options now (outcomeRow loaded (.retryable failures))).status =
      if options.maxAttempts ≤ loaded.dispatchAttemptCount then .FAILED else .NORMALIZED := by
  unfold retriedRow
  split <;> rename_i hlast
  · rw [if_pos (show options.maxAttempts ≤ loaded.dispatchAttemptCount from hlast)]
  · rw [if_neg (show ¬ options.maxAttempts ≤ loaded.dispatchAttemptCount from hlast)]

/-- A late dispatch keeps the status of the finished row exactly when it agrees with it. -/
theorem dispatchedRow_keeps_iff (options : WorkerOptions) (now : Time)
    {loaded stored : WebhookInbox} (hloaded : loaded.status ≠ .DISPATCHED)
    (hterminal : terminal stored.status = true) (outcome : Outcome) :
    (dispatchedRow options now loaded stored outcome).status = stored.status ↔
      Agrees options loaded stored.status outcome := by
  have hopen : stored.status ≠ .NORMALIZED := by
    intro heq
    rw [heq] at hterminal
    cases hterminal
  cases outcome with
  | noPlugin => exact (column_keeps_iff _ _ _).trans (or_iff_left hloaded)
  | dispatched => exact (column_keeps_iff _ _ _).trans (or_iff_left hloaded)
  | unresolved => exact column_keeps_iff _ _ _
  | conflict => exact column_keeps_iff _ _ _
  | retryable failures =>
    change column InboxStatus.NORMALIZED _ (column loaded.status .NORMALIZED stored.status) = _ ↔ _
    rw [status_retriedRow]
    by_cases hlast : options.maxAttempts ≤ loaded.dispatchAttemptCount
    · -- the worker writes FAILED over the NORMALIZED of the dispatcher
      rw [if_pos hlast, column_of_changed (by decide), Agrees, if_pos hlast, eq_comm]
    · rw [if_neg hlast, column_of_unchanged rfl, column_keeps_iff, or_iff_right hopen, Agrees,
        if_neg hlast]

/-- A step keeps the terminal statuses exactly when it is no late write that disagrees. -/
theorem absorbs_effect_iff {w w' : World ι} {a : Action ι} (h : NotIgnored w)
    (heffect : Effect options w a w') : Absorbs w.inbox w'.inbox ↔ LateAgrees options w a := by
  cases heffect with
  | received eventId isSelf needsNoPlugin now inbox hinsert =>
    exact iff_of_true (fun id status hstatus _ => status_inserted hinsert hstatus) trivial
  | recovered i now ids inbox hupdate =>
    refine iff_of_true (absorbs_updateEach (recover_selection now) hupdate fun row hselected => ?_)
      trivial
    simp only [leaseExpired, decide_eq_true_eq] at hselected
    rw [hselected.1]
    rfl
  | claimed i now ids inbox hphase hupdate =>
    refine iff_of_true
      (absorbs_updateEach (claim_selection options now) hupdate fun row hselected => ?_) trivial
    simp only [due, decide_eq_true_eq] at hselected
    rw [hselected.1]
    rfl
  | committed i now outcome loaded stored todo hphase hfind =>
    have hloaded := h i loaded todo hphase
    have hkey := eventId_dispatchedRow options now loaded stored outcome
    change Absorbs w.inbox (w.inbox.save _) ↔ _
    rw [absorbs_save_iff hfind hkey]
    simp only [LateAgrees, hphase, hfind, Option.some.injEq, forall_eq']
    exact forall_congr' fun hterminal =>
      dispatchedRow_keeps_iff options now hloaded hterminal outcome
  | marked i errorType loaded stored todo hphase hfind =>
    have hkey := eventId_writeRow loaded (markedRow errorType loaded) stored
    change Absorbs w.inbox (w.inbox.save _) ↔ _
    rw [absorbs_save_iff hfind hkey]
    simp only [LateAgrees, hphase, hfind, Option.some.injEq, forall_eq']
    exact forall_congr' fun _ => column_keeps_iff _ _ _
  | passed i row todo hphase hfind => exact iff_of_true (absorbs_refl _) trivial
  | loaded i row todo hphase hfind _ => exact iff_of_true (absorbs_refl _) trivial
  | rolledBack i errorType loaded todo hphase => exact iff_of_true (absorbs_refl _) trivial
  | reloaded i errorType row todo hphase hfind => exact iff_of_true (absorbs_refl _) trivial
  | stopped i => exact iff_of_true (absorbs_refl _) trivial

/-- A run whose late commits agree changes no terminal status. -/
theorem absorbs_run {w w' : World ι} {as : List (Action ι)} (h : NotIgnored w)
    (hlate : Runs.EachStep (step options) (LateAgrees options) w as)
    (hrun : Runs.run (step options) w as = some w') : Absorbs w.inbox w'.inbox := by
  induction as generalizing w with
  | nil =>
    cases hrun
    exact absorbs_refl _
  | cons a as ih =>
    obtain ⟨u, hstep, hrest⟩ := (Runs.run_cons _ _ _ _ _).mp hrun
    have heffect := step_effect hstep
    have hfirst := (absorbs_effect_iff h heffect).mpr hlate.head
    exact hfirst.trans (ih (notIgnored_effect h heffect) (hlate.tail hstep) hrest)

/-- Between any two moments of the run no terminal status changes. -/
def NeverChanges (options : WorkerOptions) (as : List (Action ι)) : Prop :=
  ∀ before between after w w', as = before ++ between ++ after →
    Runs.run (step options) (atRest ι) before = some w →
    Runs.run (step options) w between = some w' → Absorbs w.inbox w'.inbox

/-- A run whose single steps keep the terminal statuses has no late write that disagrees. -/
theorem late_of_absorbs {w w' : World ι} {as : List (Action ι)} (h : NotIgnored w)
    (hrun : Runs.run (step options) w as = some w')
    (habsorbs : ∀ before a after v u, as = before ++ a :: after →
      Runs.run (step options) w before = some v → step options v a = some u →
      Absorbs v.inbox u.inbox) : Runs.EachStep (step options) (LateAgrees options) w as := by
  induction as generalizing w with
  | nil => trivial
  | cons a as ih =>
    obtain ⟨u, hstep, hrest⟩ := (Runs.run_cons _ _ _ _ _).mp hrun
    have heffect := step_effect hstep
    refine ⟨(absorbs_effect_iff h heffect).mp (habsorbs [] a as w u rfl rfl hstep), ?_⟩
    intro t ht
    obtain rfl : u = t := Option.some.inj (hstep.symm.trans ht)
    refine ih (notIgnored_effect h heffect) hrest fun before b after v x hsplit hbefore hb => ?_
    exact habsorbs (a :: before) b after v x (by rw [hsplit, List.cons_append])
      ((Runs.run_cons _ _ _ _ _).mpr ⟨u, hstep, hbefore⟩) hb

/-- In a run of any number of workers, with leases recovered at any moment, an event that is
DISPATCHED, FAILED or IGNORED_SELF keeps its status from then on if and only if every late
commit ends as the event has ended. -/
theorem terminal_absorbing (options : WorkerOptions) (as : List (Action ι)) (w : World ι)
    (hrun : Runs.run (step options) (atRest ι) as = some w) :
    NeverChanges options as ↔
      Runs.EachStep (step options) (LateAgrees options) (atRest ι) as := by
  constructor
  · intro h
    refine late_of_absorbs notIgnored_atRest hrun fun before a after v u hsplit hbefore hstep => ?_
    refine h before [a] after v u ?_ hbefore ?_
    · rw [hsplit, List.append_assoc, List.singleton_append]
    · exact (Runs.run_cons _ _ _ _ _).mpr ⟨u, hstep, rfl⟩
  · intro hlate before between after v v' hsplit hbefore hbetween
    rw [hsplit, List.append_assoc] at hlate
    have hrest := ((Runs.eachStep_append hbefore).mp hlate).2
    have hnotIgnored : NotIgnored v := Runs.run_invariant NotIgnored
      (fun _ _ _ h hstep => notIgnored_effect h (step_effect hstep)) notIgnored_atRest hbefore
    exact absorbs_run hnotIgnored ((Runs.eachStep_append hbetween).mp hrest).1 hbetween

instance (options : WorkerOptions) (loaded : WebhookInbox) (finished : InboxStatus)
    (outcome : Outcome) : Decidable (Agrees options loaded finished outcome) :=
  match outcome with
  | .noPlugin | .dispatched => inferInstanceAs (Decidable (finished = .DISPATCHED))
  | .unresolved | .conflict =>
    inferInstanceAs (Decidable (finished = .FAILED ∨ loaded.status = .FAILED))
  | .retryable _ => inferInstanceAs (Decidable
      (if options.maxAttempts ≤ loaded.dispatchAttemptCount then finished = .FAILED
        else loaded.status = .NORMALIZED))

instance lateAgreesDecidable (options : WorkerOptions) (w : World ι) (a : Action ι) :
    Decidable (LateAgrees options w a) := by
  unfold LateAgrees
  split
  · split
    · exact Runs.optionAllDecidable _ _
    · exact instDecidableTrue
  · split
    · exact Runs.optionAllDecidable _ _
    · exact instDecidableTrue
  · exact instDecidableTrue

/-- A worker receives, claims and dispatches event 1. -/
def dispatchOnce (now : Time) : List (InboxWorker.Action Bool) :=
  [.claimDueEvents false now [1], .load false, .commit false now .dispatched]

def inboxRun (as : List (InboxWorker.Action Bool)) : Option (World Bool) :=
  Runs.run (step defaultOptions) (atRest Bool) as

/-- The first worker has loaded the event when its lease is recovered, and the second one
dispatches it. -/
def overtaken : List (InboxWorker.Action Bool) :=
  [.receive 1 false false 0, .claimDueEvents true 0 [1], .load true,
    .recoverExpiredLeases false 120000000 [1]] ++ dispatchOnce 120000000

theorem overtakenRun_isSome : (inboxRun overtaken).isSome = true := by decide +kernel

def overtakenWorld : World Bool := (inboxRun overtaken).get overtakenRun_isSome

/-- The first worker ends its dispatch as well. -/
def overtakenTwice : List (InboxWorker.Action Bool) :=
  overtaken ++ [.commit true 121000000 .dispatched]

theorem twiceRun_isSome : (inboxRun overtakenTwice).isSome = true := by decide +kernel

theorem terminal_absorbing_overtaken : NeverChanges defaultOptions overtakenTwice :=
  (terminal_absorbing defaultOptions overtakenTwice _ (Option.some_get twiceRun_isSome).symm).mpr
    (by decide +kernel)

def markSample : List (InboxWorker.Action Bool) :=
  [.rollback true "TimeoutError", .loadFailed true, .markFailed true]

theorem markedRun_isSome :
    (Runs.run (step defaultOptions) overtakenWorld markSample).isSome = true := by
  decide +kernel

/-- The exception of the first worker turns the DISPATCHED event into a FAILED one. -/
theorem marked_after_dispatched :
    ¬ ∀ (options : WorkerOptions) (before after : List (InboxWorker.Action Bool))
        (w w' : World Bool), Runs.run (step options) (atRest Bool) before = some w →
      Runs.run (step options) w after = some w' → Absorbs w.inbox w'.inbox := by
  intro h
  have habsorbs := h defaultOptions overtaken markSample overtakenWorld _
    (Option.some_get _).symm (Option.some_get markedRun_isSome).symm
  have hbefore : statusOf overtakenWorld.inbox 1 = some .DISPATCHED := by decide +kernel
  have hafter : statusOf ((Runs.run (step defaultOptions) overtakenWorld markSample).get
      markedRun_isSome).inbox 1 = some .FAILED := by decide +kernel
  rw [habsorbs 1 .DISPATCHED hbefore rfl] at hafter
  cases hafter

end WechatBot.InboxTerminal
