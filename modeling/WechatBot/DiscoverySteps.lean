import WechatBot.DiscoveryFacts

/-!
# The statements of a discovery

Each statement that does not wait keeps the facts of its transaction; the last one ends
it as if nobody had disturbed it.
-/
namespace WechatBot.Discovery

open PyData Records

variable {ω : Type}

/-- A bound on the statements that are left. -/
def Phase.left : Phase ω → Nat
  | .selectChatroom => 11
  | .lockAccount => 10
  | .selectChatroomAgain => 9
  | .insertChatroom => 8
  | .lockChatroom => 7
  | .selectActive => 6
  | .selectLatest | .selectContact => 5
  | .insertMembership _ | .insertContact => 4
  | .selectPrincipal => 3
  | .activatePrincipal _ | .insertPrincipal => 2
  | .rest => 1
  | .ended _ => 0

theorem settled_false {β : Type} {settled : Bool} {found pending row row' : Option β} {new new' : β}
    (h : Settled false found pending row new) (hsettled : settled = false) :
    Settled settled found pending row' new' := by
  subst hsettled
  exact h

/-- The kinds of events that do not exclude the statement. -/
theorem not_private {e : DispatchedEvent} (h : e.isMember = true) : e.isPrivate = false :=
  isPrivate_of_isGroup (isGroup_of_isMember h)

theorem hasPrincipal_of_group {e : DispatchedEvent} (hgroup : e.isGroup = true)
    (hmember : e.isMember = false) : e.hasPrincipal = false := by
  simp [DispatchedEvent.hasPrincipal, hmember, isPrivate_of_isGroup hgroup]

/-- The transaction gets its chatroom, found or made. -/
theorem facts_roomed {ids : DrawnIds} {e : DispatchedEvent} {db : Directory} {tx : Transaction ω}
    (h : Facts ids e db tx) (hphase : tx.phase.pastRoom = false) (hgroup : e.isGroup = true)
    (room : Chatroom) (pending : Pending) (heldRoom : Bool)
    (hroom : some room = some (roomOf ids e db))
    (hpending : pending = { tx.pending with
      chatroom := missing (db.chatroom e.roomKey) (newChatroom ids e) })
    (hguarded : (db.chatroom e.roomKey = none → tx.heldAccount = true) ∧
      (db.chatroom e.roomKey ≠ none → heldRoom = true)) :
    Facts ids e db { roomed e tx room with pending := pending, heldRoom := heldRoom } := by
  have hearly : tx.phase.pastRows = false ∧ tx.phase.atRest = false := by
    cases hp : tx.phase with
    | selectChatroom => exact ⟨rfl, rfl⟩
    | lockAccount => exact ⟨rfl, rfl⟩
    | selectChatroomAgain => exact ⟨rfl, rfl⟩
    | insertChatroom => exact ⟨rfl, rfl⟩
    | _ =>
      rw [hp] at hphase
      cases hphase
  have hmemberFact := h.member
  have hcontactFact := h.contact
  have hprincipalFact := h.principal
  rw [hearly.1, Bool.false_and] at hmemberFact hcontactFact
  rw [hearly.2, Bool.false_and] at hprincipalFact
  have hprivate := isPrivate_of_isGroup hgroup
  subst hpending
  by_cases hmember : e.isMember = true
  · have hnext : (roomed e tx room).phase = .lockChatroom := if_pos hmember
    constructor
    · simp only [hnext, Phase.pastRoom, hgroup]
      exact ⟨hroom, rfl⟩
    · simp only [hnext, Phase.pastRows]
      exact hmemberFact
    · simp only [hnext, Phase.pastRows]
      exact hcontactFact
    · simp only [hnext, Phase.atRest]
      exact hprincipalFact
    · exact fun _ => ⟨by simp only [hnext, Phase.pastRoom], hgroup⟩
    · exact fun _ _ => hguarded
    · simp only [Here, hnext]
      exact hmember
  · have hnot : e.isMember = false := by simpa using hmember
    have hnext : (roomed e tx room).phase = .rest := if_neg hmember
    constructor
    · simp only [hnext, Phase.pastRoom, hgroup]
      exact ⟨hroom, rfl⟩
    · exact settled_false hmemberFact (by simp [hnot])
    · exact settled_false hcontactFact (by simp [hprivate])
    · simp only [hnext, Phase.atRest, hasPrincipal_of_group hgroup hnot]
      exact hprincipalFact
    · exact fun _ => ⟨by simp only [hnext, Phase.pastRoom], hgroup⟩
    · exact fun _ _ => hguarded
    · simp only [Here, hnext]

theorem activated_of_active {row : Principal} (h : row.active = true) : activated row = row := by
  cases row
  cases h
  rfl

theorem found_of_settled {β : Type} {settled : Bool} {found pending row : Option β} {new : β}
    (h : Settled settled found pending row new) :
    found = (if settled then some (row.getD new) else none) ∧
      pending = if settled then missing row new else none := by
  cases settled <;> exact h

/-- At the end of the discovery its rows are those of an undisturbed one. -/
theorem found_at_rest {ids : DrawnIds} {e : DispatchedEvent} {db : Directory} {tx : Transaction ω}
    (h : Facts ids e db tx) (hphase : tx.phase = .rest) : tx.found = foundOf ids e db := by
  obtain ⟨hroom, hmember, hcontact, hprincipal, -, -, -⟩ := h
  rw [hphase] at hroom hmember hcontact hprincipal
  have hrow : tx.found.principal = if e.hasPrincipal then some (principalOf ids e db) else none := by
    change PrincipalSettled e.hasPrincipal _ _ _ _ at hprincipal
    cases hhas : e.hasPrincipal with
    | true =>
      rw [hhas] at hprincipal
      exact hprincipal.1
    | false =>
      rw [hhas] at hprincipal
      exact hprincipal.1
  exact Found.mk.injEq .. ▸ ⟨(found_of_settled hroom).1, (found_of_settled hmember).1,
    (found_of_settled hcontact).1, hrow⟩

theorem fill_self {κ β : Type} [DecidableEq κ] {rows : κ → Option β} {key : κ} {row : β}
    (h : rows key = some row) : fill rows key (some row) = rows := by
  rw [fill, ← h, Function.update_eq_self]

theorem publish_at_rest {ids : DrawnIds} {e : DispatchedEvent} {db : Directory} {tx : Transaction ω}
    (h : Facts ids e db tx) (hphase : tx.phase = .rest) :
    publish e tx.pending db = discovered ids e db := by
  obtain ⟨hroom, hmember, hcontact, hprincipal, -, -, -⟩ := h
  rw [hphase] at hroom hmember hcontact hprincipal
  have hrow : fill db.principal e.principalKey tx.pending.principal =
      fill db.principal e.principalKey (pendingOf ids e db).principal := by
    change PrincipalSettled e.hasPrincipal _ _ _ _ at hprincipal
    simp only [pendingOf]
    cases hhas : e.hasPrincipal with
    | false =>
      rw [hhas] at hprincipal
      rw [hprincipal.2]
      rfl
    | true =>
      rw [hhas] at hprincipal
      rcases hprincipal.2 with hpending | ⟨hpending, p, hp, hactive⟩
      · rw [hpending]
        rfl
      · -- the principal was active already
        have hsame : principalOf ids e db = p := by
          simp [principalOf, hp, activated_of_active hactive]
        rw [hpending, if_pos rfl, hsame, fill_self hp]
        rfl
  unfold discovered publish
  rw [(found_of_settled hroom).2, (found_of_settled hmember).2, (found_of_settled hcontact).2, hrow]
  rfl

/-- A statement before the end leads to this transaction. -/
structure Moved (σ : Setting ω) (w : World ω) (i : Bool) (tx : Transaction ω) : Prop where
  facts : Facts (σ.ids i) (σ.event i) w.directory tx
  less : tx.phase.left < (w.tx i).phase.left
  room : tx.heldRoom = true → (w.tx i).heldRoom = true ∨ roomTaken σ w i = false
  account : tx.heldAccount = true → (w.tx i).heldAccount = true ∨ accountTaken σ w i = false
  unmade : tx.phase = .lockAccount → w.directory.chatroom (σ.event i).roomKey = none
  principal : tx.pending.principal = (w.tx i).pending.principal ∨ (w.tx i).phase.left ≤ 2

/-- The ways a statement can end that does not wait. -/
inductive Advance (σ : Setting ω) (w : World ω) (i : Bool) : World ω → Prop where
  | moved (tx : Transaction ω) : Moved σ w i tx → Advance σ w i (w.to i tx)
  | ended : (w.tx i).phase = .rest →
      Advance σ w i { w.to i (endedWith (resultOf σ i w.directory)) with
        directory := directoryAfter σ i w.directory }

theorem rest_advance {σ : Setting ω} {w w' : World ω} {i : Bool}
    (h : Facts (σ.ids i) (σ.event i) w.directory (w.tx i)) (hphase : (w.tx i).phase = .rest)
    (hstep : step σ w i = some w') : Advance σ w i w' := by
  simp only [step, hphase] at hstep
  rw [found_at_rest h hphase, publish_at_rest h hphase] at hstep
  cases hstep
  exact .ended hphase

/-- A new row that nothing stands in the way of. -/
theorem insertRow_free {w w' : World ω} {i : Bool} {waits taken : Bool} {inserted : Transaction ω}
    (hfree : taken = false) (h : insertRow w i waits taken inserted = some w') :
    w' = w.to i inserted := by
  subst hfree
  unfold insertRow at h
  split at h
  · cases h
  · cases h
    rfl

/-- A statement that takes no lock. -/
theorem Advance.of {σ : Setting ω} {w : World ω} {i : Bool} {tx tx' : Transaction ω}
    (htx : w.tx i = tx) (hfacts : Facts (σ.ids i) (σ.event i) w.directory tx')
    (hleft : tx'.phase.left < tx.phase.left)
    (hlocks : tx'.heldRoom = tx.heldRoom ∧ tx'.heldAccount = tx.heldAccount)
    (hunmade : tx'.phase = .lockAccount → w.directory.chatroom (σ.event i).roomKey = none)
    (hprincipal : tx'.pending.principal = tx.pending.principal ∨ tx.phase.left ≤ 2) :
    Advance σ w i (w.to i tx') := by
  subst htx
  exact .moved tx' ⟨hfacts, hleft, fun h => .inl (hlocks.1 ▸ h), fun h => .inl (hlocks.2 ▸ h),
    hunmade, hprincipal⟩

theorem left_roomed (e : DispatchedEvent) (tx : Transaction ω) (room : Chatroom) :
    (roomed e tx room).phase.left ≤ 7 := by
  unfold roomed
  cases e.isMember <;> simp [Phase.left]

theorem roomed_unlocked (e : DispatchedEvent) (tx : Transaction ω) (room : Chatroom) :
    (roomed e tx room).phase ≠ .lockAccount := by
  unfold roomed
  cases e.isMember <;> exact nofun

/-- A SELECT FOR UPDATE that finds the chatroom. -/
theorem select_room_advance {σ : Setting ω} {w : World ω} {i : Bool} {tx : Transaction ω}
    (htx : w.tx i = tx) (h : Facts (σ.ids i) (σ.event i) w.directory tx)
    (hphase : tx.phase.pastRoom = false) (hgroup : (σ.event i).isGroup = true)
    (hleft : 8 ≤ tx.phase.left) {room : Chatroom}
    (hroom : w.directory.chatroom (σ.event i).roomKey = some room)
    (hfree : roomTaken σ w i = false) :
    Advance σ w i (w.to i { roomed (σ.event i) tx room with heldRoom := true }) := by
  have hnone := h.room
  rw [hphase] at hnone
  have hpending : tx.pending = { tx.pending with
      chatroom := missing (w.directory.chatroom (σ.event i).roomKey)
        (newChatroom (σ.ids i) (σ.event i)) } := by
    rw [hroom]
    exact Pending.mk.injEq .. ▸ ⟨hnone.2, rfl, rfl, rfl⟩
  have hfacts := facts_roomed h hphase hgroup room tx.pending true
    (by simp [roomOf, hroom]) hpending ⟨fun hmissing => by simp [hroom] at hmissing, fun _ => rfl⟩
  have hbound := left_roomed (σ.event i) tx room
  have hnext := roomed_unlocked (σ.event i) tx room
  subst htx
  exact .moved _ ⟨hfacts, Nat.lt_of_le_of_lt hbound (by omega), fun _ => .inr hfree, .inl,
    fun hphase => absurd hphase hnext, .inl rfl⟩

theorem chatroom_advance {σ : Setting ω} {w w' : World ω} {i : Bool} {tx : Transaction ω}
    (htx : w.tx i = tx) (h : Facts (σ.ids i) (σ.event i) w.directory tx)
    (hphase : tx.phase.pastRoom = false) (hstep : step σ w i = some w') : Advance σ w i w' := by
  have here := h.here
  unfold step at hstep
  rcases tx with ⟨phase, found, pending, heldAccount, heldRoom⟩
  simp only [htx] at hstep
  cases phase with
  | selectChatroom =>
    cases hroom : w.directory.chatroom (σ.event i).roomKey with
    | none =>
      simp only [hroom] at hstep
      cases hstep
      exact .of htx { h with here := here } (by simp [Phase.left]) ⟨rfl, rfl⟩ (fun _ => hroom) (.inl rfl)
    | some room =>
      simp only [hroom] at hstep
      split at hstep
      · cases hstep
      · rename_i hfree
        cases hstep
        exact select_room_advance htx h rfl here.1 (by simp [Phase.left]) hroom (by simpa using hfree)
  | lockAccount =>
    simp only at hstep
    split at hstep
    · cases hstep
    · rename_i hfree
      cases hstep
      have hfacts : Facts (σ.ids i) (σ.event i) w.directory
          (⟨.selectChatroomAgain, found, pending, true, heldRoom⟩ : Transaction ω) :=
        { h with guarded := nofun, here := ⟨here.1, rfl⟩ }
      exact .moved _ ⟨hfacts, by simp [htx, Phase.left], by rw [htx]; exact .inl,
        fun _ => .inr (by simpa using hfree), nofun, by rw [htx]; exact .inl rfl⟩
  | selectChatroomAgain =>
    cases hroom : w.directory.chatroom (σ.event i).roomKey with
    | none =>
      simp only [hroom] at hstep
      cases hstep
      exact .of htx { h with here := ⟨here.1, here.2, hroom⟩ } (by simp [Phase.left]) ⟨rfl, rfl⟩ nofun (.inl rfl)
    | some room =>
      simp only [hroom] at hstep
      split at hstep
      · cases hstep
      · rename_i hfree
        cases hstep
        exact select_room_advance htx h rfl here.1 (by simp [Phase.left]) hroom (by simpa using hfree)
  | insertChatroom =>
    obtain ⟨hgroup, hheld, hroom⟩ := here
    cases insertRow_free (by simp [hroom]) hstep
    have hnone := h.room
    have hfacts := facts_roomed h rfl hgroup (newChatroom (σ.ids i) (σ.event i))
      { pending with chatroom := some (newChatroom (σ.ids i) (σ.event i)) } heldRoom
      (by simp [roomOf, hroom]) (by simp [missing, hroom]) ⟨fun _ => hheld, fun hsome => absurd hroom hsome⟩
    let before : Transaction ω := ⟨.insertChatroom, found, pending, heldAccount, heldRoom⟩
    have hbound := left_roomed (σ.event i) before (newChatroom (σ.ids i) (σ.event i))
    have hnext := roomed_unlocked (σ.event i) before (newChatroom (σ.ids i) (σ.event i))
    exact .of htx hfacts (Nat.lt_of_le_of_lt hbound (by simp [Phase.left])) ⟨rfl, rfl⟩
      (fun hphase => absurd hphase hnext) (.inl rfl)
  | _ => cases hphase

/-- The membership, found or made. -/
theorem facts_joined {ids : DrawnIds} {e : DispatchedEvent} {db : Directory} {tx : Transaction ω}
    (h : Facts ids e db tx) (hphase : tx.phase.pastRoom = true ∧ tx.phase.pastRows = false)
    (hmember : e.isMember = true) (row : ChatroomMembership)
    (hrow : some row = some ((activeRow e db).getD (nextMembership ids e db))) :
    Facts ids e db { joined tx row with
      pending := { tx.pending with membership := missing (activeRow e db) (nextMembership ids e db) } } := by
  have hrest : tx.phase.atRest = false := by
    cases hp : tx.phase with
    | rest => simp [hp, Phase.pastRows] at hphase
    | _ => rfl
  have hroomFact := h.room
  have hcontactFact := h.contact
  have hprincipalFact := h.principal
  rw [hphase.1] at hroomFact
  rw [hphase.2] at hcontactFact
  rw [hrest] at hprincipalFact
  refine ⟨hroomFact, ?_, ?_, hprincipalFact, ?_, ?_, hasPrincipal_of_isMember hmember⟩
  · simp only [joined, Phase.pastRows, hmember]
    exact ⟨hrow, rfl⟩
  · exact settled_false hcontactFact (by simp [not_private hmember])
  · exact fun hheld => ⟨rfl, isGroup_of_isMember hmember⟩
  · exact fun _ => h.guarded hphase.1

theorem member_advance {σ : Setting ω} {w w' : World ω} {i : Bool} {tx : Transaction ω}
    (htx : w.tx i = tx) (h : Facts (σ.ids i) (σ.event i) w.directory tx)
    (hphase : tx.phase = .lockChatroom ∨ tx.phase = .selectActive ∨ tx.phase = .selectLatest ∨
      ∃ epoch, tx.phase = .insertMembership epoch)
    (hstep : step σ w i = some w') : Advance σ w i w' := by
  have here := h.here
  unfold step at hstep
  rcases tx with ⟨phase, found, pending, heldAccount, heldRoom⟩
  simp only [htx] at hstep
  rcases hphase with rfl | rfl | rfl | ⟨epoch, rfl⟩
  · simp only at hstep
    split at hstep
    · cases hstep
    · rename_i hfree
      cases hstep
      have hguarded := h.guarded rfl (isGroup_of_isMember here)
      have hfacts : Facts (σ.ids i) (σ.event i) w.directory
          (⟨.selectActive, found, pending, heldAccount, true⟩ : Transaction ω) :=
        { h with
          roomLock := fun _ => ⟨rfl, isGroup_of_isMember here⟩
          guarded := fun _ _ => ⟨hguarded.1, fun _ => rfl⟩
          here := ⟨here, rfl⟩ }
      exact .moved _ ⟨hfacts, by simp [htx, Phase.left], fun _ => .inr (by simpa using hfree),
        by rw [htx]; exact .inl, (fun h => by cases h), by rw [htx]; exact .inl rfl⟩
  · obtain ⟨hmember, hheld⟩ := here
    cases hactive : activeMembership (w.directory.memberships (σ.event i).memberKey) with
    | none =>
      simp only [hactive] at hstep
      cases hstep
      exact .of htx { h with here := ⟨hmember, hheld, hactive⟩ } (by simp [Phase.left]) ⟨rfl, rfl⟩ (fun h => by cases h) (.inl rfl)
    | some row =>
      simp only [hactive] at hstep
      cases hstep
      have hnone : pending.membership = none := h.member.2
      have hfacts := facts_joined h ⟨rfl, rfl⟩ hmember row (by simp [activeRow, hactive])
      have hkept : missing (activeRow (σ.event i) w.directory)
          (nextMembership (σ.ids i) (σ.event i) w.directory) = pending.membership := by
        simp only [activeRow, hactive, missing, Option.isSome_some, if_true, hnone]
      rw [hkept] at hfacts
      exact .of htx hfacts (by simp [joined, Phase.left]) ⟨rfl, rfl⟩ (fun h => by cases h) (.inl rfl)
  · cases hstep
    exact .of htx { h with here := ⟨here.1, here.2.1, here.2.2, rfl⟩ } (by simp [Phase.left]) ⟨rfl, rfl⟩ (fun h => by cases h) (.inl rfl)
  · obtain ⟨hmember, hheld, hactive, rfl⟩ := here
    have hfree := epoch_free (w.directory.memberships (σ.event i).memberKey)
    cases insertRow_free (by simpa using hfree) hstep
    have hfound : found.chatroom = some (roomOf (σ.ids i) (σ.event i) w.directory) := by
      have hroom := h.room
      simp only [Phase.pastRoom, isGroup_of_isMember hmember] at hroom
      exact hroom.1
    have hfacts := facts_joined h ⟨rfl, rfl⟩ hmember
      (nextMembership (σ.ids i) (σ.event i) w.directory) (by simp [hactive])
    simp only [missing, hactive, Option.isSome_none, Bool.false_eq_true, if_false, nextMembership,
      ← hfound] at hfacts
    exact .of htx hfacts (by simp [joined, Phase.left]) ⟨rfl, rfl⟩ (fun h => by cases h) (.inl rfl)

/-- The contact, found or made. -/
theorem facts_contacted {ids : DrawnIds} {e : DispatchedEvent} {db : Directory} {tx : Transaction ω}
    (h : Facts ids e db tx) (hphase : tx.phase.pastRows = false)
    (hprivate : e.isPrivate = true) (row : Contact)
    (hrow : some row = some ((db.contact e.contactKey).getD (newContact ids e))) :
    Facts ids e db { contacted tx row with
      pending := { tx.pending with contact := missing (db.contact e.contactKey) (newContact ids e) } } := by
  have hgroup : e.isGroup = false := by
    cases hgroup : e.isGroup with
    | false => rfl
    | true =>
      rw [isPrivate_of_isGroup hgroup] at hprivate
      cases hprivate
  have hrest : tx.phase.atRest = false := by
    cases hp : tx.phase with
    | rest => simp [hp, Phase.pastRows] at hphase
    | _ => rfl
  have hroomFact := h.room
  have hmemberFact := h.member
  have hprincipalFact := h.principal
  rw [hgroup, Bool.and_false] at hroomFact
  rw [hphase] at hmemberFact
  rw [hrest] at hprincipalFact
  refine ⟨?_, ?_, ?_, hprincipalFact, ?_, ?_, hasPrincipal_of_isPrivate hprivate⟩
  · exact settled_false hroomFact (by simp [hgroup])
  · exact settled_false hmemberFact (by simp [isMember_of_isPrivate hprivate])
  · simp only [contacted, Phase.pastRows, hprivate]
    exact ⟨hrow, rfl⟩
  · exact fun hheld => ⟨rfl, (h.roomLock hheld).2⟩
  · intro _ hisGroup
    rw [hgroup] at hisGroup
    cases hisGroup

theorem contact_advance {σ : Setting ω} {w w' : World ω} {i : Bool} {tx : Transaction ω}
    (htx : w.tx i = tx) (h : Facts (σ.ids i) (σ.event i) w.directory tx)
    (hphase : tx.phase = .selectContact ∨ tx.phase = .insertContact)
    (hstep : step σ w i = some w') : Advance σ w i w' := by
  have here := h.here
  unfold step at hstep
  rcases tx with ⟨phase, found, pending, heldAccount, heldRoom⟩
  simp only [htx] at hstep
  rcases hphase with rfl | rfl
  · cases hrow : w.directory.contact (σ.event i).contactKey with
    | none =>
      simp only [hrow] at hstep
      cases hstep
      exact .of htx { h with here := ⟨here, hrow⟩ } (by simp [Phase.left]) ⟨rfl, rfl⟩ nofun (.inl rfl)
    | some row =>
      simp only [hrow] at hstep
      cases hstep
      have hnone : pending.contact = none := h.contact.2
      have hfacts := facts_contacted h rfl here row (by simp [hrow])
      have hkept : missing (w.directory.contact (σ.event i).contactKey)
          (newContact (σ.ids i) (σ.event i)) = pending.contact := by
        simp only [hrow, missing, Option.isSome_some, if_true, hnone]
      rw [hkept] at hfacts
      exact .of htx hfacts (by simp [contacted, Phase.left]) ⟨rfl, rfl⟩ nofun (.inl rfl)
  · obtain ⟨hprivate, hnone⟩ := here
    cases insertRow_free (by simp [hnone]) hstep
    have hfacts := facts_contacted h rfl hprivate
      (newContact (σ.ids i) (σ.event i)) (by simp [hnone])
    simp only [missing, hnone, Option.isSome_none, Bool.false_eq_true, if_false] at hfacts
    exact .of htx hfacts (by simp [contacted, Phase.left]) ⟨rfl, rfl⟩ nofun (.inl rfl)

/-- The principal, found active, activated or made. -/
theorem facts_identified {ids : DrawnIds} {e : DispatchedEvent} {db : Directory} {tx : Transaction ω}
    (h : Facts ids e db tx) (hphase : tx.phase.pastRows = true) (hhas : e.hasPrincipal = true)
    (row : Principal) (pending : Option Principal)
    (hrow : some row = some (principalOf ids e db))
    (hpending : pending = some (principalOf ids e db) ∨
      pending = none ∧ ∃ p, db.principal e.principalKey = some p ∧ p.active = true) :
    Facts ids e db { identified tx row with pending := { tx.pending with principal := pending } } := by
  have hpast : tx.phase.pastRoom = true := by
    cases hp : tx.phase with
    | selectChatroom => simp [hp, Phase.pastRows] at hphase
    | lockAccount => simp [hp, Phase.pastRows] at hphase
    | selectChatroomAgain => simp [hp, Phase.pastRows] at hphase
    | insertChatroom => simp [hp, Phase.pastRows] at hphase
    | _ => rfl
  have hroomFact := h.room
  have hmemberFact := h.member
  have hcontactFact := h.contact
  rw [hpast] at hroomFact
  rw [hphase] at hmemberFact hcontactFact
  refine ⟨hroomFact, hmemberFact, hcontactFact, ?_, ?_, ?_, trivial⟩
  · simp only [identified, Phase.atRest, hhas]
    exact ⟨hrow, hpending⟩
  · exact fun hheld => ⟨rfl, (h.roomLock hheld).2⟩
  · exact fun _ => h.guarded hpast

theorem principal_advance {σ : Setting ω} {w w' : World ω} {i : Bool} {tx : Transaction ω}
    (htx : w.tx i = tx) (h : Facts (σ.ids i) (σ.event i) w.directory tx)
    (hphase : tx.phase = .selectPrincipal ∨ (∃ row, tx.phase = .activatePrincipal row) ∨
      tx.phase = .insertPrincipal)
    (hstep : step σ w i = some w') : Advance σ w i w' := by
  have here := h.here
  unfold step at hstep
  rcases tx with ⟨phase, found, pending, heldAccount, heldRoom⟩
  simp only [htx] at hstep
  rcases hphase with rfl | ⟨row, rfl⟩ | rfl
  · cases hrow : w.directory.principal (σ.event i).principalKey with
    | none =>
      simp only [hrow] at hstep
      cases hstep
      exact .of htx { h with here := ⟨here, hrow⟩ } (by simp [Phase.left]) ⟨rfl, rfl⟩ nofun (.inl rfl)
    | some row =>
      simp only [hrow] at hstep
      cases hactive : row.active with
      | false =>
        simp only [hactive] at hstep
        cases hstep
        exact .of htx { h with here := ⟨here, row, hrow, rfl⟩ } (by simp [Phase.left]) ⟨rfl, rfl⟩ nofun (.inl rfl)
      | true =>
        simp only [hactive] at hstep
        cases hstep
        have hnone : pending.principal = none := h.principal.2
        have hfacts := facts_identified h rfl here row none
          (by simp [principalOf, hrow, activated_of_active hactive]) (.inr ⟨rfl, row, hrow, hactive⟩)
        rw [← hnone] at hfacts
        exact .of htx hfacts (by simp [identified, Phase.left]) ⟨rfl, rfl⟩ nofun (.inl rfl)
  · obtain ⟨hhas, p, hp, hsame⟩ := here
    simp only at hstep
    split at hstep
    · cases hstep
    · cases hstep
      have hrow : activated row = principalOf (σ.ids i) (σ.event i) w.directory := by
        simp [principalOf, hp, hsame]
      have hfacts := facts_identified h rfl hhas (activated row) (some (activated row))
        (by rw [hrow]) (.inl (by rw [hrow]))
      exact .of htx hfacts (by simp [identified, Phase.left]) ⟨rfl, rfl⟩ nofun (.inr (by simp [Phase.left]))
  · obtain ⟨hhas, hnone⟩ := here
    cases insertRow_free (by simp [hnone]) hstep
    have hrow : newPrincipal (σ.ids i) (σ.event i) = principalOf (σ.ids i) (σ.event i) w.directory := by
      simp [principalOf, hnone]
    have hfacts := facts_identified h rfl hhas (newPrincipal (σ.ids i) (σ.event i))
      (some (newPrincipal (σ.ids i) (σ.event i))) (by rw [hrow]) (.inl (by rw [hrow]))
    exact .of htx hfacts (by simp [identified, Phase.left]) ⟨rfl, rfl⟩ nofun (.inr (by simp [Phase.left]))

theorem step_advance {σ : Setting ω} {w w' : World ω} {i : Bool}
    (h : Facts (σ.ids i) (σ.event i) w.directory (w.tx i)) (hstep : step σ w i = some w') :
    Advance σ w i w' := by
  cases hphase : (w.tx i).phase with
  | selectChatroom => exact chatroom_advance rfl h (by rw [hphase]; rfl) hstep
  | lockAccount => exact chatroom_advance rfl h (by rw [hphase]; rfl) hstep
  | selectChatroomAgain => exact chatroom_advance rfl h (by rw [hphase]; rfl) hstep
  | insertChatroom => exact chatroom_advance rfl h (by rw [hphase]; rfl) hstep
  | lockChatroom => exact member_advance rfl h (.inl hphase) hstep
  | selectActive => exact member_advance rfl h (.inr (.inl hphase)) hstep
  | selectLatest => exact member_advance rfl h (.inr (.inr (.inl hphase))) hstep
  | insertMembership epoch => exact member_advance rfl h (.inr (.inr (.inr ⟨epoch, hphase⟩))) hstep
  | selectContact => exact contact_advance rfl h (.inl hphase) hstep
  | insertContact => exact contact_advance rfl h (.inr hphase) hstep
  | selectPrincipal => exact principal_advance rfl h (.inl hphase) hstep
  | activatePrincipal row => exact principal_advance rfl h (.inr (.inl ⟨row, hphase⟩)) hstep
  | insertPrincipal => exact principal_advance rfl h (.inr (.inr hphase)) hstep
  | rest => exact rest_advance h hphase hstep
  | ended result =>
    have here := h.here
    rw [Here, hphase] at here
    exact here.elim

end WechatBot.Discovery
