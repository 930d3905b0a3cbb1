import Mathlib.Data.Prod.Lex
import WechatBot.SenderSteps

/-!
# Which message is claimed

The loop of `_claim_next` takes the first due message by priority, creation time and id,
cancels it when it has expired, and looks again. With nobody else at work it ends at the
first due message that has not expired.
-/
namespace WechatBot.ClaimPicks

open PyData Records OutboxState Policy Sender
open SenderEffects (earliest_mem waiting_iff)
open SenderSteps SenderSystem
open Tables (Table)

def rank (m : OutboxMessage) : Int ×ₗ Time ×ₗ Nat :=
  toLex (m.priority, toLex (m.createdAt, m.id.toNat))

theorem claimsBefore_iff {a b : OutboxMessage} : claimsBefore a b = true ↔ rank a < rank b := by
  simp only [claimsBefore, rank, decide_eq_true_eq, Prod.Lex.toLex_lt_toLex, BitVec.lt_def]

theorem rank_inj {a b : OutboxMessage} (h : rank a = rank b) : a.id = b.id := by
  simp only [rank, toLex_inj, Prod.mk.injEq] at h
  exact BitVec.eq_of_toNat_eq h.2.2

theorem earliest_none {rows : List OutboxMessage} (h : earliest rows = none) : rows = [] := by
  cases rows with
  | nil => rfl
  | cons first rows =>
    rw [earliest] at h
    split at h
    · cases h
    · split at h <;> cases h

theorem earliest_least {rows : List OutboxMessage} {m : OutboxMessage} (h : earliest rows = some m) :
    ∀ n ∈ rows, rank m ≤ rank n := by
  induction rows generalizing m with
  | nil => cases h
  | cons first rows ih =>
    rw [earliest] at h
    cases hrest : earliest rows with
    | none =>
      rw [hrest] at h
      cases h
      simp [earliest_none hrest]
    | some b =>
      rw [hrest] at h
      have hleast := ih hrest
      by_cases hbefore : claimsBefore b first = true
      · obtain rfl := Option.some.inj ((if_pos hbefore).symm.trans h)
        intro n hn
        rcases List.mem_cons.1 hn with rfl | hn
        · exact le_of_lt (claimsBefore_iff.1 hbefore)
        · exact hleast n hn
      · obtain rfl := Option.some.inj ((if_neg hbefore).symm.trans h)
        intro n hn
        rcases List.mem_cons.1 hn with rfl | hn
        · exact le_refl _
        · exact le_trans (not_lt.1 fun hlt => hbefore (claimsBefore_iff.2 hlt)) (hleast n hn)

section Picks

variable (options : SenderOptions) (accountId : UUID) (now : Time)

/-- A message of the account that waits and whose time has come. -/
def due (m : OutboxMessage) : Bool :=
  decide (m.botAccountId = accountId) && waiting m.status && decide (m.availableAt ≤ now)

theorem claimable_unlocked : claimable accountId now (fun _ => false) = due accountId now := by
  funext m
  simp [claimable, due]

def cancelledRow (m : OutboxMessage) : OutboxMessage :=
  { m with status := .CANCELLED, lastErrorCode := some "EXPIRED_BEFORE_SEND", updatedAt := now }

def claimedRow (m : OutboxMessage) : OutboxMessage :=
  { m with status := .CLAIMED, lastErrorCode := none, updatedAt := now, availableAt := now + options.lease }

/-- How the loop ends: the due messages have all expired, or `message` is the first one that
has not. -/
inductive Picked (t t' : Outbox) : Option ClaimedMessage → Prop
  | nothing (hexpired : ∀ m ∈ t.rows, due accountId now m = true → expired now m = true)
    (hrows : t'.rows = t.rows.map fun m => if due accountId now m then cancelledRow now m else m) :
    Picked t t' none
  | message (message : OutboxMessage) (hmem : message ∈ t.rows) (hdue : due accountId now message = true)
    (hfresh : expired now message = false)
    (hleast : ∀ m ∈ t.rows, due accountId now m = true → expired now m = false →
      rank message ≤ rank m)
    (hrows : t'.rows = t.rows.map fun m =>
      if m.id = message.id then claimedRow options now m
      else if due accountId now m = true ∧ expired now m = true ∧ rank m < rank message then
        cancelledRow now m
      else m) :
    Picked t t' (some ⟨message.id, message.botAccountId, message.targetWxid⟩)

end Picks

variable {options : SenderOptions} {accountId : UUID} {now : Time} {t t' : Outbox}
  {m message : OutboxMessage}

theorem waiting_of_due (h : due accountId now m = true) : waiting m.status = true := by
  simp only [due, Bool.and_eq_true] at h
  exact h.1.2

theorem cancel_ok (h : due accountId now m = true) :
    transitionOutbox m .CANCELLED now (some "EXPIRED_BEFORE_SEND") none = .ok (cancelledRow now m) := by
  have hallowed : OutboxStatus.CANCELLED ∈ allowedTransitions m.status := by
    rcases waiting_iff.1 (waiting_of_due h) with hs | hs <;> simp [hs, allowedTransitions]
  have hcode : ((some "EXPIRED_BEFORE_SEND").any fun code => decide (100 < code.length)) = false := by
    decide
  rw [transitionOutbox, if_neg (not_not.2 hallowed), hcode]
  rfl

theorem claim_ok (h : due accountId now m = true) :
    transitionOutbox m .CLAIMED now none (some (now + options.lease)) = .ok (claimedRow options now m) := by
  have hallowed : OutboxStatus.CLAIMED ∈ allowedTransitions m.status := by
    rcases waiting_iff.1 (waiting_of_due h) with hs | hs <;> simp [hs, allowedTransitions]
  rw [transitionOutbox, if_neg (not_not.2 hallowed)]
  rfl

theorem cancelled_not_due : due accountId now (cancelledRow now m) = false := by
  simp [due, cancelledRow, waiting]

/-- Saving a change of one row changes that row. -/
theorem save_rows (hmem : message ∈ t.rows) {changed : OutboxMessage} (hid : changed.id = message.id) :
    (t.save changed).rows = t.rows.map fun m => if m = message then changed else m := by
  apply List.map_congr_left
  intro m hm
  by_cases h : m = message
  · rw [if_pos h, h, Table.overwrite, if_pos hid.symm]
  · rw [if_neg h, Table.overwrite, if_neg]
    exact fun hsame => h (Table.eq_of_key hm hmem (hsame.trans hid))

/-- The first due message, when it has not expired, is the one to claim. -/
theorem picked_first (hmem : message ∈ t.rows) (hdue : due accountId now message = true)
    (hleast : ∀ m ∈ t.rows, due accountId now m = true → rank message ≤ rank m)
    (hfresh : expired now message = false) :
    Picked options accountId now t (t.save (claimedRow options now message))
      (some ⟨message.id, message.botAccountId, message.targetWxid⟩) := by
  refine .message message hmem hdue hfresh (fun m hm hd _ => hleast m hm hd) ?_
  rw [save_rows hmem (by rfl)]
  apply List.map_congr_left
  intro m hm
  by_cases h : m = message
  · rw [if_pos h, h, if_pos rfl]
  · rw [if_neg h, if_neg fun hid => h (Table.eq_of_key hm hmem hid), if_neg]
    exact fun hbefore => absurd hbefore.2.2 (not_lt.2 (hleast m hm hbefore.1))

/-- After the first due message is cancelled, the loop ends as it would have before. -/
theorem picked_cancelled {claimed : Option ClaimedMessage} (hmem : message ∈ t.rows)
    (hdue : due accountId now message = true)
    (hleast : ∀ m ∈ t.rows, due accountId now m = true → rank message ≤ rank m)
    (hexpired : expired now message = true)
    (h : Picked options accountId now (t.save (cancelledRow now message)) t' claimed) :
    Picked options accountId now t t' claimed := by
  have hsaved := save_rows hmem (by rfl : (cancelledRow now message).id = message.id)
  have hother : ∀ m ∈ t.rows, m ≠ message → m ∈ (t.save (cancelledRow now message)).rows := by
    intro m hm hne
    rw [hsaved]
    exact List.mem_map.2 ⟨m, hm, if_neg hne⟩
  cases h with
  | nothing hall hrows =>
    refine .nothing (fun m hm hd => ?_) ?_
    · by_cases hsame : m = message
      · rw [hsame]
        exact hexpired
      · exact hall m (hother m hm hsame) hd
    · rw [hrows, hsaved, List.map_map]
      apply List.map_congr_left
      intro m hm
      by_cases hsame : m = message
      · simp [hsame, cancelled_not_due, hdue]
      · simp [hsame]
  | message found hfound hdueFound hfresh hleastFound hrows =>
    rw [hsaved] at hfound
    obtain ⟨row, hrow, hchanged⟩ := List.mem_map.1 hfound
    have hne : row ≠ message := by
      intro hsame
      rw [if_pos hsame] at hchanged
      rw [← hchanged, cancelled_not_due] at hdueFound
      cases hdueFound
    rw [if_neg hne] at hchanged
    subst hchanged
    refine .message row hrow hdueFound hfresh (fun m hm hd hf => ?_) ?_
    · apply hleastFound m (hother m hm ?_) hd hf
      rintro rfl
      rw [hexpired] at hf
      cases hf
    · rw [hrows, hsaved, List.map_map]
      apply List.map_congr_left
      intro m hm
      by_cases hsame : m = message
      · have hid : message.id ≠ row.id := fun hid => hne (Table.eq_of_key hrow hmem hid.symm)
        have hrank : rank message < rank row := lt_of_le_of_ne (hleast row hrow hdueFound)
          fun hequal => hid (rank_inj hequal)
        have hkept : (cancelledRow now message).id = message.id := rfl
        simp [hsame, hkept, hid, cancelled_not_due, hdue, hexpired, hrank]
      · simp [hsame]

theorem due_saved (hmem : message ∈ t.rows) (hdue : due accountId now message = true) :
    ((t.save (cancelledRow now message)).rows.filter (due accountId now)).length <
      (t.rows.filter (due accountId now)).length := by
  let change (m : OutboxMessage) := if m = message then cancelledRow now message else m
  have hleft : ∀ m ∈ t.rows, (due accountId now ∘ change) m =
      ((due accountId now ∘ change) m && due accountId now m) := by
    intro m _
    by_cases hsame : m = message
    · simp [change, hsame, cancelled_not_due]
    · simp [change, hsame]
  rw [save_rows hmem (by rfl : (cancelledRow now message).id = message.id), List.filter_map,
    List.length_map, List.filter_congr hleft, ← List.filter_filter,
    List.length_filter_lt_length_iff_exists]
  exact ⟨message, List.mem_filter.2 ⟨hmem, hdue⟩, by simp [change, cancelled_not_due]⟩

/-- With more turns than there are due messages the loop ends by itself. -/
theorem claimLoop_picks (fuel : Nat) (hfuel : (t.rows.filter (due accountId now)).length < fuel) :
    ∃ t' claimed, claimLoop options accountId now (fun _ => false) fuel t = .ok (t', claimed) ∧
      Picked options accountId now t t' claimed := by
  induction fuel generalizing t with
  | zero => exact absurd hfuel (Nat.not_lt_zero _)
  | succ fuel ih =>
    rw [claimLoop, claimable_unlocked]
    cases hfirst : earliest (t.rows.filter (due accountId now)) with
    | none =>
      have hempty := earliest_none hfirst
      have hnone : ∀ m ∈ t.rows, due accountId now m = false := by
        simpa [List.filter_eq_nil_iff] using hempty
      refine ⟨t, none, rfl, .nothing (fun m hm hd => by simp [hnone m hm] at hd) ?_⟩
      rw [List.map_congr_left (g := id) fun m hm => by simp [hnone m hm], List.map_id]
    | some message =>
      obtain ⟨hmem, hdue⟩ := List.mem_filter.1 (earliest_mem hfirst)
      have hleast : ∀ m ∈ t.rows, due accountId now m = true → rank message ≤ rank m :=
        fun m hm hd => earliest_least hfirst m (List.mem_filter.2 ⟨hm, hd⟩)
      by_cases hexpired : expired now message = true
      · obtain ⟨t', claimed, hrun, hpicked⟩ := ih (t := t.save (cancelledRow now message))
          (Nat.lt_of_lt_of_le (due_saved hmem hdue) (Nat.le_of_lt_succ hfuel))
        refine ⟨t', claimed, ?_, picked_cancelled hmem hdue hleast hexpired hpicked⟩
        simp only [hexpired, if_true, cancel_ok hdue]
        exact hrun
      · refine ⟨_, _, ?_, picked_first hmem hdue hleast (Bool.eq_false_of_not_eq_true hexpired)⟩
        simp only [hexpired, claim_ok hdue]
        rfl

/-- The number of turns does not matter, when there are enough of them. -/
theorem claimLoop_fuel {fuel more : Nat} (hfuel : (t.rows.filter (due accountId now)).length < fuel)
    (hmore : (t.rows.filter (due accountId now)).length < more) :
    claimLoop options accountId now (fun _ => false) fuel t =
      claimLoop options accountId now (fun _ => false) more t := by
  induction fuel generalizing t more with
  | zero => exact absurd hfuel (Nat.not_lt_zero _)
  | succ fuel ih =>
    cases more with
    | zero => exact absurd hmore (Nat.not_lt_zero _)
    | succ more =>
      rw [claimLoop, claimLoop, claimable_unlocked]
      cases hfirst : earliest (t.rows.filter (due accountId now)) with
      | none => rfl
      | some message =>
        obtain ⟨hmem, hdue⟩ := List.mem_filter.1 (earliest_mem hfirst)
        have hless := due_saved hmem hdue
        by_cases hexpired : expired now message = true
        · simp only [hexpired, if_true, cancel_ok hdue]
          exact ih (Nat.lt_of_lt_of_le hless (Nat.le_of_lt_succ hfuel))
            (Nat.lt_of_lt_of_le hless (Nat.le_of_lt_succ hmore))
        · simp only [if_neg hexpired]

/-- `_claim_next` when no other session has locked a row. -/
def claimNextAlone (options : SenderOptions) (around : Surroundings) (accountId : UUID) (now : Time)
    (t : Outbox) : Except TransitionError (Outbox × Option ClaimedMessage) :=
  match around.botAccount accountId with
  | none => .ok (t, none)
  | some _ =>
    if inFlightCount t accountId = 0 then claimNext options accountId now (fun _ => false) t
    else .ok (t, none)

/-- With no message of the account in flight the claim takes the first due message that has
not expired and cancels the expired ones before it; more turns change nothing. -/
theorem claim_next_picks (options : SenderOptions) (around : Surroundings) (accountId : UUID)
    (now : Time) (t : Outbox) (haccount : (around.botAccount accountId).isSome = true)
    (hnobody : ∀ m ∈ t.rows, m.botAccountId = accountId → m.status ≠ .CLAIMED ∧ m.status ≠ .SENDING) :
    ∃ t' claimed, claimNextAlone options around accountId now t = .ok (t', claimed) ∧
      (∀ fuel, (t.rows.filter (due accountId now)).length < fuel →
        claimLoop options accountId now (fun _ => false) fuel t = .ok (t', claimed)) ∧
      Picked options accountId now t t' claimed := by
  have hcount : inFlightCount t accountId = 0 := by
    rw [inFlightCount, List.length_eq_zero_iff, List.filter_eq_nil_iff]
    intro m hm
    simp only [Bool.and_eq_true, decide_eq_true_eq, inFlight, not_and]
    intro haccountId
    simp [hnobody m hm haccountId]
  have hclaim : claimNextAlone options around accountId now t =
      claimLoop options accountId now (fun _ => false) ((t.rows.filter (due accountId now)).length + 1)
        t := by
    obtain ⟨account, haccount⟩ := Option.isSome_iff_exists.1 haccount
    rw [claimNextAlone, haccount, ← claimable_unlocked]
    simp only [hcount, if_true]
    rfl
  have henough := Nat.lt_succ_self (t.rows.filter (due accountId now)).length
  obtain ⟨t', claimed, hrun, hpicked⟩ :
      ∃ t' claimed, claimLoop options accountId now (fun _ => false) _ t = .ok (t', claimed) ∧
        Picked options accountId now t t' claimed :=
    claimLoop_picks _ henough
  refine ⟨t', claimed, hclaim.trans hrun, fun fuel hfuel => ?_, hpicked⟩
  rw [← hrun]
  exact claimLoop_fuel hfuel (Nat.lt_succ_self _)

/-- An expired message with the first priority, a fresh one, and one that is not due yet. -/
def threeMessages : Outbox :=
  ⟨[{ sampleMessage 1 none with priority := 200 },
    { sampleMessage 2 none with priority := 50, expiresAt := some 5 },
    { sampleMessage 3 none with priority := 10, availableAt := 100 }], by decide⟩

theorem claim_next_picks_fresh : ∃ t', claimNextAlone .default sampleSurroundings 1 10 threeMessages =
      .ok (t', some ⟨1, 1, py "g@chatroom"⟩) ∧
    t'.rows.map (·.status) = [.CLAIMED, .CANCELLED, .PENDING] ∧
    Picked .default 1 10 threeMessages t' (some ⟨1, 1, py "g@chatroom"⟩) := by
  obtain ⟨t', claimed, hrun, -, hpicked⟩ := claim_next_picks .default sampleSurroundings 1 10
    threeMessages (by decide) (by decide)
  have hresult : (claimNextAlone .default sampleSurroundings 1 10 threeMessages).toOption.map
      (fun r => (r.1.rows.map (·.status), r.2)) =
      some ([.CLAIMED, .CANCELLED, .PENDING], some ⟨1, 1, py "g@chatroom"⟩) := by decide +kernel
  rw [hrun] at hresult
  obtain ⟨hstatuses, rfl⟩ := Prod.mk.inj (Option.some.inj hresult)
  exact ⟨t', hrun, hstatuses, hpicked⟩

/-- The three statements of a task that is at work alone do the same. -/
theorem claims_in_world {ι κ : Type} [Fintype ι] [Fintype κ] [DecidableEq ι] [DecidableEq κ]
    (setup : Setup ι) {w : World ι κ} {i : ι} {accountId : UUID} {now : Time} {account : BotAccount}
    {t' : Outbox} {claimed : Option ClaimedMessage} (hidle : w.pipeline i = .idle)
    (hfree : w.AccountFree accountId) (haccount : w.around.botAccount accountId = some account)
    (hflight : inFlightCount w.outbox accountId = 0)
    (h : claimNextAlone (setup.options i) w.around accountId now w.outbox = .ok (t', claimed)) :
    ∃ w', Runs.run (step setup) w
        [.lockAccount i accountId now, .countInFlight i, .claimNext i fun _ => false] = some w' ∧
      w'.outbox = t' ∧ w'.pipeline i = claimed.elim .idle .claimed := by
  have hclaim : claimNext (setup.options i) accountId now (fun _ => false) w.outbox = .ok (t', claimed) := by
    rw [claimNextAlone, haccount] at h
    simpa [hflight] using h
  have hlock : step setup w (.lockAccount i accountId now) =
      some (w.moveTo i (.accountLocked accountId now)) := by
    simp [step, World.lockAccount, hidle, hfree, haccount]
  have hcount : step setup (w.moveTo i (.accountLocked accountId now)) (.countInFlight i) =
      some ((w.moveTo i (.accountLocked accountId now)).moveTo i (.counted accountId now)) := by
    simp [step, World.countInFlight, hflight]
  have hlast : step setup ((w.moveTo i (.accountLocked accountId now)).moveTo i (.counted accountId now))
      (.claimNext i fun _ => false) = some
        ({ (w.moveTo i (.accountLocked accountId now)).moveTo i (.counted accountId now) with
          outbox := t' }.moveTo i (claimed.elim .idle .claimed)) := by
    cases claimed <;> simp [step, World.claimNext, hclaim]
  exact ⟨_, (Runs.run_cons ..).2 ⟨_, hlock, (Runs.run_cons ..).2 ⟨_, hcount,
    (Runs.run_cons ..).2 ⟨_, hlast, rfl⟩⟩⟩, rfl, by simp⟩

end WechatBot.ClaimPicks
