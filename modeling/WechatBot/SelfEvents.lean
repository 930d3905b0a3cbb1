import WechatBot.InboxTerminal

/-!
# The bot's own messages

An event of the bot itself is stored as IGNORED_SELF. A claim takes NORMALIZED events only,
so none of the workers ever has such an event in hand, and nothing writes its row.
-/
namespace WechatBot.SelfEvents

open PyData InboxWorker
open InboxTerminal (phase_to)
open Tables (Table)

variable {ι : Type} [DecidableEq ι] {options : WorkerOptions} {w w' : World ι} {a : Action ι}

structure SelfIgnored (w : World ι) : Prop where
  ignored : ∀ id row, w.inbox.find id = some row → row.isSelf = true → row.status = .IGNORED_SELF
  handed : ∀ i, ∀ id ∈ (w.phase i).hand, ∃ row, w.inbox.find id = some row ∧ row.isSelf = false

/-- Every row is still there, whose event it is does not change, and a row of the bot
itself does not change at all. -/
def Keeps (inbox inbox' : Inbox) : Prop :=
  ∀ id row, inbox.find id = some row → ∃ row', inbox'.find id = some row' ∧
    row'.isSelf = row.isSelf ∧ (row.isSelf = true → row' = row)

theorem keeps_refl (inbox : Inbox) : Keeps inbox inbox := fun _ row h => ⟨row, h, rfl, fun _ => rfl⟩

theorem keeps_insert {inbox inbox' : Inbox} {new : WebhookInbox} (h : inbox.insert new = some inbox') :
    Keeps inbox inbox' := by
  intro id row hfind
  exact ⟨row, Table.insert_keeps h hfind, rfl, fun _ => rfl⟩

theorem keeps_updateEach {selected : WebhookInbox → Bool} {change : WebhookInbox → WebhookInbox}
    (hselection : Selection selected change) {inbox inbox' : Inbox} {ids : List UUID}
    (h : updateEach selected change inbox ids = some inbox')
    (hself : ∀ row, (change row).isSelf = row.isSelf)
    (hselected : ∀ id row, inbox.find id = some row → row.isSelf = true → selected row = false) :
    Keeps inbox inbox' := by
  obtain ⟨-, hchanged, hkept⟩ := updateEach_spec hselection h
  intro id row hfind
  by_cases hmem : id ∈ ids
  · obtain ⟨stored, hstored, hselects, hafter⟩ := hchanged id hmem
    obtain rfl := Option.some.inj (hfind.symm.trans hstored)
    refine ⟨change row, hafter, hself row, ?_⟩
    intro hown
    rw [hselected id row hfind hown] at hselects
    cases hselects
  · exact ⟨row, (hkept id hmem).trans hfind, rfl, fun _ => rfl⟩

theorem keeps_save {inbox : Inbox} {stored row : WebhookInbox} {id : UUID}
    (hfind : inbox.find id = some stored) (hkey : row.eventId = stored.eventId)
    (hself : row.isSelf = stored.isSelf) (hother : stored.isSelf = false) :
    Keeps inbox (inbox.save row) := by
  intro other r hr
  have hrows := find_changed hfind hkey other
  by_cases hsame : other = id
  · subst hsame
    obtain rfl := Option.some.inj (hfind.symm.trans hr)
    rw [if_pos rfl] at hrows
    refine ⟨row, hrows, hself, ?_⟩
    intro hown
    rw [hother] at hown
    cases hown
  · rw [if_neg hsame] at hrows
    exact ⟨r, hrows.trans hr, rfl, fun _ => rfl⟩

omit [DecidableEq ι] in
theorem selected_other (h : SelfIgnored w) {status : InboxStatus} (hstatus : status ≠ .IGNORED_SELF)
    {selected : WebhookInbox → Bool} (hselected : ∀ row, selected row = true → row.status = status)
    (id : UUID) (row : WebhookInbox) (hfind : w.inbox.find id = some row)
    (hown : row.isSelf = true) : selected row = false := by
  by_contra hyes
  have hrow := hselected row (by simpa using hyes)
  rw [h.ignored id row hfind hown] at hrow
  exact hstatus hrow.symm

theorem isSelf_dispatchedRow (options : WorkerOptions) (now : Time) (loaded stored : WebhookInbox)
    (outcome : Outcome) : (dispatchedRow options now loaded stored outcome).isSelf = stored.isSelf := by
  cases outcome <;> rfl

theorem due_status (now : Time) (row : WebhookInbox) (h : due now row = true) :
    row.status = .NORMALIZED := by
  simp only [due, decide_eq_true_eq] at h
  exact h.1

theorem leaseExpired_status (now : Time) (row : WebhookInbox) (h : leaseExpired now row = true) :
    row.status = .DISPATCHING := by
  simp only [leaseExpired, decide_eq_true_eq] at h
  exact h.1

theorem keeps_effect (h : SelfIgnored w) (heffect : Effect options w a w') :
    Keeps w.inbox w'.inbox := by
  have hwritten : ∀ (i : ι) (loaded : WebhookInbox) (todo : List UUID) (stored row : WebhookInbox),
      (w.phase i).hand = loaded.eventId :: todo →
      w.inbox.find loaded.eventId = some stored → row.eventId = stored.eventId →
      row.isSelf = stored.isSelf → Keeps w.inbox (w.inbox.save row) := by
    intro i loaded todo stored row hhand hfind hkey hself
    have hmem : loaded.eventId ∈ (w.phase i).hand := by
      rw [hhand]
      exact List.mem_cons_self
    obtain ⟨found, hfound, hother⟩ := h.handed i _ hmem
    obtain rfl := Option.some.inj (hfind.symm.trans hfound)
    exact keeps_save hfind hkey hself hother
  cases heffect with
  | received eventId isSelf needsNoPlugin now inbox hinsert => exact keeps_insert hinsert
  | recovered i now ids inbox hupdate =>
    exact keeps_updateEach (recover_selection now) hupdate (fun _ => rfl)
      (selected_other h (by decide) (leaseExpired_status now))
  | claimed i now ids inbox hphase hupdate =>
    exact keeps_updateEach (claim_selection options now) hupdate (fun _ => rfl)
      (selected_other h (by decide) (due_status now))
  | committed i now outcome loaded stored todo hphase hfind =>
    exact hwritten i loaded todo stored _ (by rw [hphase]; rfl) hfind
      (eventId_dispatchedRow options now loaded stored outcome)
      (isSelf_dispatchedRow options now loaded stored outcome)
  | marked i errorType loaded stored todo hphase hfind =>
    exact hwritten i loaded todo stored _ (by rw [hphase]; rfl) hfind (eventId_writeRow _ _ _) rfl
  | passed i row todo hphase hfind => exact keeps_refl _
  | loaded i row todo hphase hfind _ => exact keeps_refl _
  | rolledBack i errorType loaded todo hphase => exact keeps_refl _
  | reloaded i errorType row todo hphase hfind => exact keeps_refl _
  | stopped i => exact keeps_refl _

/-- A row that is there after a step was there before it or has just been received. -/
theorem row_source (heffect : Effect options w a w') {id : UUID} {row : WebhookInbox}
    (hfind : w'.inbox.find id = some row) : (∃ old, w.inbox.find id = some old) ∨
      (row.isSelf = true → row.status = .IGNORED_SELF) := by
  have hupdated : ∀ {selected change} {ids : List UUID} {inbox : Inbox}, Selection selected change →
      updateEach selected change w.inbox ids = some inbox → inbox.find id = some row →
      ∃ old, w.inbox.find id = some old := by
    intro selected change ids inbox hselection hupdate hafter
    obtain ⟨-, hchanged, hkept⟩ := updateEach_spec hselection hupdate
    by_cases hmem : id ∈ ids
    · obtain ⟨old, hold, -⟩ := hchanged id hmem
      exact ⟨old, hold⟩
    · exact ⟨row, (hkept id hmem).symm.trans hafter⟩
  have hsaved : ∀ {loaded stored new : WebhookInbox}, w.inbox.find loaded.eventId = some stored →
      new.eventId = stored.eventId → (w.inbox.save new).find id = some row →
      ∃ old, w.inbox.find id = some old := by
    intro loaded stored new hstored hkey hafter
    rw [find_changed hstored hkey] at hafter
    split at hafter
    · rename_i heq
      exact ⟨stored, heq ▸ hstored⟩
    · exact ⟨row, hafter⟩
  cases heffect with
  | received eventId isSelf needsNoPlugin now inbox hinsert =>
    change inbox.find id = some row at hfind
    rw [Table.find_insert hinsert] at hfind
    split at hfind
    · right
      cases hfind
      intro hself
      exact if_pos hself
    · exact .inl ⟨row, hfind⟩
  | recovered i now ids inbox hupdate => exact .inl (hupdated (recover_selection now) hupdate hfind)
  | claimed i now ids inbox hphase hupdate =>
    exact .inl (hupdated (claim_selection options now) hupdate hfind)
  | committed i now outcome loaded stored todo hphase hstored =>
    exact .inl (hsaved hstored (eventId_dispatchedRow options now loaded stored outcome) hfind)
  | marked i errorType loaded stored todo hphase hstored =>
    exact .inl (hsaved hstored (eventId_writeRow _ _ _) hfind)
  | passed i row todo hphase _ => exact .inl ⟨_, hfind⟩
  | loaded i row todo hphase _ _ => exact .inl ⟨_, hfind⟩
  | rolledBack i errorType loaded todo hphase => exact .inl ⟨_, hfind⟩
  | reloaded i errorType row todo hphase _ => exact .inl ⟨_, hfind⟩
  | stopped i => exact .inl ⟨_, hfind⟩

/-- What a worker has in hand it had in hand before, or it has claimed it as NORMALIZED. -/
theorem hand_source (heffect : Effect options w a w') {i : ι} {id : UUID}
    (hid : id ∈ (w'.phase i).hand) : (∃ j, id ∈ (w.phase j).hand) ∨
      ∃ row, w.inbox.find id = some row ∧ row.status = .NORMALIZED := by
  have hpart : ∀ (j : ι) (phase : Phase), (∀ k ∈ phase.hand, k ∈ (w.phase j).hand) →
      id ∈ ((w.to j phase).phase i).hand → ∃ j, id ∈ (w.phase j).hand := by
    intro j phase hsub hmem
    rw [phase_to] at hmem
    split at hmem
    · exact ⟨j, hsub id hmem⟩
    · exact ⟨i, hmem⟩
  cases heffect with
  | received eventId isSelf needsNoPlugin now inbox hinsert => exact .inl ⟨i, hid⟩
  | recovered j now ids inbox hupdate => exact .inl ⟨i, hid⟩
  | claimed j now ids inbox hphase hupdate =>
    change id ∈ ((w.to j (.between ids)).phase i).hand at hid
    rw [phase_to] at hid
    split at hid
    · obtain ⟨-, hchanged, -⟩ := updateEach_spec (claim_selection options now) hupdate
      obtain ⟨row, hfind, hdue, -⟩ := hchanged id hid
      exact .inr ⟨row, hfind, due_status now row hdue⟩
    · exact .inl ⟨i, hid⟩
  | passed j row todo hphase hfind =>
    refine .inl (hpart j _ (fun k hk => ?_) hid)
    rw [hphase]
    exact List.mem_cons_of_mem _ hk
  | loaded j row todo hphase hfind _ =>
    refine .inl (hpart j _ (fun k hk => ?_) hid)
    rw [hphase]
    exact hk
  | committed j now outcome loaded stored todo hphase hfind =>
    refine .inl (hpart j (.between todo) (fun k hk => ?_) hid)
    rw [hphase]
    exact List.mem_cons_of_mem _ hk
  | rolledBack j errorType loaded todo hphase =>
    refine .inl (hpart j _ (fun k hk => ?_) hid)
    rw [hphase]
    exact hk
  | reloaded j errorType row todo hphase hfind =>
    refine .inl (hpart j _ (fun k hk => ?_) hid)
    rw [hphase]
    exact hk
  | marked j errorType loaded stored todo hphase hfind =>
    refine .inl (hpart j (.between todo) (fun k hk => ?_) hid)
    rw [hphase]
    exact List.mem_cons_of_mem _ hk
  | stopped j =>
    refine .inl (hpart j _ (fun k hk => ?_) hid)
    cases hk

theorem selfIgnored_effect (h : SelfIgnored w) (heffect : Effect options w a w') :
    SelfIgnored w' := by
  have hkeeps := keeps_effect h heffect
  constructor
  · intro id row hfind hown
    rcases row_source heffect hfind with ⟨old, hold⟩ | hnew
    · obtain ⟨row', hrow', hself, hsame⟩ := hkeeps id old hold
      obtain rfl := Option.some.inj (hfind.symm.trans hrow')
      have hwas : old.isSelf = true := hself.symm.trans hown
      rw [hsame hwas]
      exact h.ignored id old hold hwas
    · exact hnew hown
  · intro i id hid
    have hother : ∃ row, w.inbox.find id = some row ∧ row.isSelf = false := by
      rcases hand_source heffect hid with ⟨j, hj⟩ | ⟨row, hfind, hstatus⟩
      · exact h.handed j id hj
      · refine ⟨row, hfind, ?_⟩
        by_contra hown
        have hignored := h.ignored id row hfind (by simpa using hown)
        rw [hstatus] at hignored
        cases hignored
    obtain ⟨row, hfind, hself⟩ := hother
    obtain ⟨row', hrow', hkept, -⟩ := hkeeps id row hfind
    exact ⟨row', hrow', hkept.trans hself⟩

omit [DecidableEq ι] in
theorem selfIgnored_atRest : SelfIgnored (atRest ι) := by
  constructor
  · intro id row hfind
    cases hfind
  · intro i id hid
    cases hid

/-- An event of the bot itself has the status IGNORED_SELF in every reachable state. -/
theorem self_ignored_run {as : List (Action ι)}
    (hrun : Runs.run (step options) (atRest ι) as = some w) : SelfIgnored w :=
  Runs.run_invariant SelfIgnored (fun _ _ _ h hstep => selfIgnored_effect h (step_effect hstep))
    selfIgnored_atRest hrun

end WechatBot.SelfEvents
