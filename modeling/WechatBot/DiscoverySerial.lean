import WechatBot.DiscoverySteps

/-!
# Discoveries that do not race

While both transactions are in progress they agree on the directory, and what one of them
relies on cannot be written by the other: the chatroom and its memberships are behind a
lock, and without a race the contact or the principal is not missing for both. So the
commit of the first leaves the second as if it had started afterwards.
-/
namespace WechatBot.Discovery

open PyData Records

variable {ω : Type}

/-- The locks let only one of the two discoveries in at a time: they need the same
chatroom, or both make a chatroom of the same account. -/
def OneAtATime (e e' : DispatchedEvent) (db : Directory) : Prop :=
  e.isGroup = true ∧ e'.isGroup = true ∧ e.accountId = e'.accountId ∧
    (e.roomKey = e'.roomKey ∨ db.chatroom e.roomKey = none ∧ db.chatroom e'.roomKey = none)

/-- Both events make the same contact, or the same principal without a lock in common. -/
def Races (e e' : DispatchedEvent) (db : Directory) : Prop :=
  (e.isPrivate = true ∧ e'.isPrivate = true ∧ e.contactKey = e'.contactKey ∧
      db.contact e.contactKey = none) ∨
    (e.hasPrincipal = true ∧ e'.hasPrincipal = true ∧ e.principalKey = e'.principalKey ∧
      db.principal e.principalKey = none ∧ ¬ OneAtATime e e' db)

theorem OneAtATime.symm {e e' : DispatchedEvent} {db : Directory} (h : OneAtATime e e' db) :
    OneAtATime e' e db := by
  obtain ⟨hgroup, hgroup', haccount, hroom⟩ := h
  refine ⟨hgroup', hgroup, haccount.symm, ?_⟩
  rcases hroom with hroom | ⟨hfirst, hsecond⟩
  · exact .inl hroom.symm
  · exact .inr ⟨hsecond, hfirst⟩

theorem Races.symm {e e' : DispatchedEvent} {db : Directory} (h : Races e e' db) :
    Races e' e db := by
  rcases h with ⟨hprivate, hprivate', hkey, hnone⟩ | ⟨hhas, hhas', hkey, hnone, hlock⟩
  · exact .inl ⟨hprivate', hprivate, hkey.symm, hkey ▸ hnone⟩
  · exact .inr ⟨hhas', hhas, hkey.symm, hkey ▸ hnone, fun h => hlock h.symm⟩

def RaceFree (σ : Setting ω) (db : Directory) : Prop :=
  ∀ i, ¬ Races (σ.event i) (σ.event !i) db

theorem raceFree_of {σ : Setting ω} {db : Directory}
    (h : ¬ Races (σ.event false) (σ.event true) db) : RaceFree σ db := by
  intro i
  cases i with
  | false => exact h
  | true => exact fun hraces => h hraces.symm

def Phase.pastActive : Phase ω → Bool
  | .selectLatest | .insertMembership _ => true
  | phase => phase.pastRows

def Phase.pastPrincipal : Phase ω → Bool
  | .activatePrincipal _ | .insertPrincipal | .rest => true
  | _ => false

def Phase.needsContact : Phase ω → Bool
  | .insertContact => true
  | phase => phase.pastRows

def Phase.needsRoom : Phase ω → Bool
  | .insertChatroom => true
  | phase => phase.pastRoom

/-- The two directories agree on what the transaction has read. -/
structure Agree (e : DispatchedEvent) (tx : Transaction ω) (db db' : Directory) : Prop where
  room : e.isGroup = true → tx.phase.needsRoom = true →
    db'.chatroom e.roomKey = db.chatroom e.roomKey
  members : e.isMember = true → tx.phase.pastActive = true →
    db'.memberships e.memberKey = db.memberships e.memberKey
  contact : e.isPrivate = true → tx.phase.needsContact = true →
    db'.contact e.contactKey = db.contact e.contactKey
  principal : e.hasPrincipal = true → tx.phase.pastPrincipal = true →
    db'.principal e.principalKey = db.principal e.principalKey ∨
      ∃ p, db.principal e.principalKey = some p ∧ db'.principal e.principalKey = some (activated p)

theorem pastActive_of_pastRows {phase : Phase ω} (h : phase.pastRows = true) :
    phase.pastActive = true ∧ phase.needsContact = true ∧ phase.needsRoom = true := by
  cases phase with
  | selectPrincipal => exact ⟨rfl, rfl, rfl⟩
  | activatePrincipal row => exact ⟨rfl, rfl, rfl⟩
  | insertPrincipal => exact ⟨rfl, rfl, rfl⟩
  | rest => exact ⟨rfl, rfl, rfl⟩
  | _ => cases h

theorem needsRoom_of_pastRoom {phase : Phase ω} (h : phase.pastRoom = true) :
    phase.needsRoom = true := by
  cases phase with
  | insertChatroom => rfl
  | _ => exact h

theorem settled_congr {β : Type} {settled : Bool} {found pending row row' : Option β} {new new' : β}
    (h : Settled settled found pending row new)
    (hsame : settled = true → row' = row ∧ new' = new) : Settled settled found pending row' new' := by
  cases settled with
  | false => exact h
  | true =>
    obtain ⟨rfl, rfl⟩ := hsame rfl
    exact h

theorem principalSettled_congr {settled : Bool} {found pending row row' : Option Principal}
    {new : Principal} (h : PrincipalSettled settled found pending row new)
    (hsame : settled = true → row' = row ∨ ∃ p, row = some p ∧ row' = some (activated p)) :
    PrincipalSettled settled found pending row' new := by
  cases settled with
  | false => exact h
  | true =>
    rcases hsame rfl with rfl | ⟨p, rfl, rfl⟩
    · exact h
    · refine ⟨h.1, ?_⟩
      rcases h.2 with hpending | ⟨hpending, -⟩
      · exact .inl hpending
      · exact .inr ⟨hpending, activated p, rfl, rfl⟩

/-- The facts of a transaction hold in every directory that agrees with what it has read. -/
theorem Facts.transfer {ids : DrawnIds} {e : DispatchedEvent} {db db' : Directory}
    {tx : Transaction ω} (h : Facts ids e db tx) (hagree : Agree e tx db db') :
    Facts ids e db' tx := by
  have hroom : tx.phase.pastRoom = true → e.isGroup = true →
      db'.chatroom e.roomKey = db.chatroom e.roomKey :=
    fun hpast hgroup => hagree.room hgroup (needsRoom_of_pastRoom hpast)
  refine ⟨?_, ?_, ?_, ?_, h.roomLock, ?_, ?_⟩
  · refine settled_congr h.room fun hsettled => ?_
    rw [Bool.and_eq_true] at hsettled
    exact ⟨hroom hsettled.1 hsettled.2, rfl⟩
  · refine settled_congr h.member fun hsettled => ?_
    rw [Bool.and_eq_true] at hsettled
    obtain ⟨hactive, -, hneeds⟩ := pastActive_of_pastRows hsettled.1
    have hmembers := hagree.members hsettled.2 hactive
    have hrow := hagree.room (isGroup_of_isMember hsettled.2) hneeds
    exact ⟨by simp only [activeRow, hmembers], by simp only [nextMembership, roomOf, hmembers, hrow]⟩
  · refine settled_congr h.contact fun hsettled => ?_
    rw [Bool.and_eq_true] at hsettled
    exact ⟨hagree.contact hsettled.2 (pastActive_of_pastRows hsettled.1).2.1, rfl⟩
  · refine principalSettled_congr h.principal fun hsettled => ?_
    rw [Bool.and_eq_true] at hsettled
    have hpast : tx.phase.pastPrincipal = true := by
      cases hphase : tx.phase with
      | rest => rfl
      | _ => simp [hphase, Phase.atRest] at hsettled
    exact hagree.principal hsettled.2 hpast
  · intro hpast hgroup
    rw [hroom hpast hgroup]
    exact h.guarded hpast hgroup
  · have here := h.here
    obtain ⟨phase, found, pending, heldAccount, heldRoom⟩ := tx
    cases phase with
    | insertChatroom => exact ⟨here.1, here.2.1, (hagree.room here.1 rfl).trans here.2.2⟩
    | selectLatest =>
      have hmembers := hagree.members here.1 rfl
      exact ⟨here.1, here.2.1, by rw [activeRow, hmembers]; exact here.2.2⟩
    | insertMembership epoch =>
      have hmembers := hagree.members here.1 rfl
      exact ⟨here.1, here.2.1, by rw [activeRow, hmembers]; exact here.2.2.1,
        by rw [hmembers]; exact here.2.2.2⟩
    | insertContact => exact ⟨here.1, (hagree.contact here.1 rfl).trans here.2⟩
    | activatePrincipal row =>
      obtain ⟨hhas, p, hp, hsame⟩ := here
      rcases hagree.principal hhas rfl with hkept | ⟨q, hq, hactive⟩
      · exact ⟨hhas, p, hkept.trans hp, hsame⟩
      · rw [hp] at hq
        cases hq
        exact ⟨hhas, activated p, hactive, hsame⟩
    | insertPrincipal =>
      rcases hagree.principal here.1 rfl with hkept | ⟨q, hq, -⟩
      · exact ⟨here.1, hkept.trans here.2⟩
      · rw [here.2] at hq
        cases hq
    | _ => exact here


structure Concurrent (σ : Setting ω) (w : World ω) : Prop where
  facts : ∀ i, Facts (σ.ids i) (σ.event i) w.directory (w.tx i)
  rooms : ∀ i, roomTaken σ w i = true → (w.tx i).heldRoom = false
  accounts : ∀ i, accountTaken σ w i = true → (w.tx i).heldAccount = false

/-- A transaction that needs the room holds its lock, or that of the account while the
room is missing. -/
theorem needs_locked {ids : DrawnIds} {e : DispatchedEvent} {db : Directory} {tx : Transaction ω}
    (h : Facts ids e db tx) (hgroup : e.isGroup = true) (hneeds : tx.phase.needsRoom = true) :
    (db.chatroom e.roomKey = none → tx.heldAccount = true) ∧
      (db.chatroom e.roomKey ≠ none → tx.heldRoom = true) := by
  have here := h.here
  by_cases hpast : tx.phase.pastRoom = true
  · exact h.guarded hpast hgroup
  · cases hphase : tx.phase with
    | insertChatroom =>
      rw [Here, hphase] at here
      exact ⟨fun _ => here.2.1, fun hsome => absurd here.2.2 hsome⟩
    | selectChatroom => simp [hphase, Phase.needsRoom, Phase.pastRoom] at hneeds
    | lockAccount => simp [hphase, Phase.needsRoom, Phase.pastRoom] at hneeds
    | selectChatroomAgain => simp [hphase, Phase.needsRoom, Phase.pastRoom] at hneeds
    | _ => simp [hphase, Phase.pastRoom] at hpast

/-- The two transactions are never both in the same room. -/
theorem Concurrent.apart {σ : Setting ω} {w : World ω} (h : Concurrent σ w) {i : Bool}
    (hgroup : (σ.event i).isGroup = true) (hgroup' : (σ.event !i).isGroup = true)
    (hkey : (σ.event !i).roomKey = (σ.event i).roomKey)
    (hneeds : (w.tx i).phase.needsRoom = true) (hneeds' : (w.tx !i).phase.needsRoom = true) :
    False := by
  have hlocks := needs_locked (h.facts i) hgroup hneeds
  have hlocks' := needs_locked (h.facts !i) hgroup' hneeds'
  rw [hkey] at hlocks'
  by_cases hmissing : w.directory.chatroom (σ.event i).roomKey = none
  · have haccount : (σ.event !i).accountId = (σ.event i).accountId := congrArg Prod.fst hkey
    have hfree := h.accounts i (by simp [accountTaken, hlocks'.1 hmissing, haccount])
    rw [hlocks.1 hmissing] at hfree
    cases hfree
  · have hfree := h.rooms i (by simp [roomTaken, hlocks'.2 hmissing, hkey])
    rw [hlocks.2 hmissing] at hfree
    cases hfree

/-- Two discoveries that do not race do not both miss the same principal. -/
theorem Concurrent.principal_apart {σ : Setting ω} {w : World ω} (h : Concurrent σ w)
    (hfree : RaceFree σ w.directory) {i : Bool} (hhas : (σ.event i).hasPrincipal = true)
    (hhas' : (σ.event !i).hasPrincipal = true)
    (hkey : (σ.event !i).principalKey = (σ.event i).principalKey)
    (hpast : (w.tx i).phase.needsRoom = true) (hpast' : (w.tx !i).phase.needsRoom = true)
    (hnone : w.directory.principal (σ.event i).principalKey = none) : False := by
  refine hfree i (.inr ⟨hhas, hhas', hkey.symm, hnone, fun hlock => ?_⟩)
  obtain ⟨hgroup, hgroup', haccount, hroom⟩ := hlock
  rcases hroom with hroom | ⟨hmissing, hmissing'⟩
  · exact h.apart hgroup hgroup' hroom.symm hpast hpast'
  · have hlocked := (needs_locked (h.facts i) hgroup hpast).1 hmissing
    have hlocked' := (needs_locked (h.facts !i) hgroup' hpast').1 hmissing'
    have hheld := h.accounts i (by simp [accountTaken, hlocked', haccount])
    rw [hlocked] at hheld
    cases hheld

theorem needsRoom_of_pastPrincipal {phase : Phase ω} (h : phase.pastPrincipal = true) :
    phase.needsRoom = true := by
  cases phase with
  | activatePrincipal row => rfl
  | insertPrincipal => rfl
  | rest => rfl
  | _ => cases h

theorem needsRoom_of_pastActive {phase : Phase ω} (h : phase.pastActive = true) :
    phase.needsRoom = true := by
  cases phase with
  | selectLatest => rfl
  | insertMembership epoch => rfl
  | selectPrincipal => rfl
  | activatePrincipal row => rfl
  | insertPrincipal => rfl
  | rest => rfl
  | _ => cases h

theorem fill_other {κ β : Type} [DecidableEq κ] {rows : κ → Option β} {key other : κ}
    (row : Option β) (h : row = none ∨ other ≠ key) : fill rows key row other = rows other := by
  cases row with
  | none => rfl
  | some row =>
    rcases h with h | h
    · cases h
    · exact Function.update_of_ne h _ _

theorem addMembership_other {rows : MemberKey → List ChatroomMembership} {key other : MemberKey}
    {row : Option ChatroomMembership} (h : row = none ∨ other ≠ key) :
    addMembership rows key row other = rows other := by
  cases row with
  | none => rfl
  | some row =>
    rcases h with h | h
    · cases h
    · exact Function.update_of_ne h _ _

theorem missing_none {β : Type} {row : Option β} {new : β} (h : row ≠ none) :
    missing row new = none := by
  cases row with
  | none => exact absurd rfl h
  | some row => rfl

/-- What the first transaction commits is not what the second one has read. -/
theorem Concurrent.agree {σ : Setting ω} {w : World ω} (h : Concurrent σ w)
    (hfree : RaceFree σ w.directory) {i : Bool} (hphase : (w.tx i).phase = .rest) :
    Agree (σ.event !i) (w.tx !i) w.directory
      (discovered (σ.ids i) (σ.event i) w.directory) := by
  have hneeds : (w.tx i).phase.needsRoom = true := by rw [hphase]; rfl
  constructor
  · intro hgroup' hneeds'
    apply fill_other
    by_cases hgroup : (σ.event i).isGroup = true
    · exact .inr fun hkey => h.apart hgroup hgroup' hkey hneeds hneeds'
    · exact .inl (if_neg hgroup)
  · intro hmember' hpast'
    have hneeds' := needsRoom_of_pastActive hpast'
    apply addMembership_other
    by_cases hmember : (σ.event i).isMember = true
    · refine .inr fun hkey => ?_
      exact h.apart (isGroup_of_isMember hmember) (isGroup_of_isMember hmember')
        (congrArg Prod.fst hkey) hneeds hneeds'
    · exact .inl (if_neg hmember)
  · intro hprivate' _
    apply fill_other
    by_cases hprivate : (σ.event i).isPrivate = true
    · by_cases hkey : (σ.event !i).contactKey = (σ.event i).contactKey
      · refine .inl ((if_pos hprivate).trans (missing_none fun hnone => ?_))
        exact hfree i (.inl ⟨hprivate, hprivate', hkey.symm, hnone⟩)
      · exact .inr hkey
    · exact .inl (if_neg hprivate)
  · intro hhas' hpast'
    have hneeds' := needsRoom_of_pastPrincipal hpast'
    by_cases hhas : (σ.event i).hasPrincipal = true
    · by_cases hkey : (σ.event !i).principalKey = (σ.event i).principalKey
      · cases hrow : w.directory.principal (σ.event i).principalKey with
        | none => exact (h.principal_apart hfree hhas hhas' hkey hneeds hneeds' hrow).elim
        | some p =>
          refine .inr ⟨p, hkey ▸ hrow, ?_⟩
          have hpending : (pendingOf (σ.ids i) (σ.event i) w.directory).principal =
              some (activated p) := by
            simp only [pendingOf, if_pos hhas, principalOf, hrow, Option.map_some, Option.getD_some]
          change fill _ _ (pendingOf (σ.ids i) (σ.event i) w.directory).principal _ = _
          rw [hpending, hkey, fill, Function.update_self]
      · exact .inl (fill_other _ (.inr hkey))
    · exact .inl (fill_other _ (.inl (if_neg hhas)))

/-- The transaction that is left has only seen what the other one has committed. -/
theorem Concurrent.survives {σ : Setting ω} {w : World ω} (h : Concurrent σ w)
    (hfree : RaceFree σ w.directory) {i : Bool} (hphase : (w.tx i).phase = .rest) :
    Facts (σ.ids !i) (σ.event !i) (directoryAfter σ i w.directory) (w.tx !i) := by
  unfold directoryAfter
  split
  · exact (h.facts !i).transfer (h.agree hfree hphase)
  · exact h.facts !i

/-- How far the two transactions are. -/
inductive Stage (σ : Setting ω) (db : Directory) (w : World ω) : Prop where
  | both : w.directory = db → Concurrent σ w → Stage σ db w
  | one (i : Bool) : w.directory = directoryAfter σ i db → w.tx i = endedWith (resultOf σ i db) →
      Facts (σ.ids !i) (σ.event !i) w.directory (w.tx !i) → Stage σ db w
  | none (i : Bool) : w.directory = directoryAfter σ (!i) (directoryAfter σ i db) →
      w.tx i = endedWith (resultOf σ i db) →
      (w.tx !i) = endedWith (resultOf σ (!i) (directoryAfter σ i db)) → Stage σ db w

theorem tx_to (w : World ω) (i j : Bool) (tx : Transaction ω) :
    (w.to i tx).tx j = if j = i then tx else w.tx j := by
  by_cases h : j = i
  · subst h
    rw [if_pos rfl]
    exact Function.update_self _ _ _
  · rw [if_neg h]
    exact Function.update_of_ne h _ _

theorem step_ended {σ : Setting ω} {w : World ω} {i : Bool} {result : Result ω}
    (h : w.tx i = endedWith result) : step σ w i = none := by
  simp only [step, h, endedWith]

theorem eq_or_not (i j : Bool) : j = i ∨ j = !i := by
  cases i <;> cases j <;> simp

theorem not_ne (i : Bool) : (!i) ≠ i := by
  cases i <;> simp

theorem concurrent_to {σ : Setting ω} {w : World ω} {i : Bool} {tx : Transaction ω}
    (h : Concurrent σ w) (hmoved : Moved σ w i tx) : Concurrent σ (w.to i tx) := by
  have hroom' : roomTaken σ w i = true → tx.heldRoom = false := by
    intro htaken
    have hbefore := h.rooms i htaken
    by_contra hheld
    rcases hmoved.room (by simpa using hheld) with hold | hfree
    · rw [hbefore] at hold
      cases hold
    · rw [htaken] at hfree
      cases hfree
  have haccount' : accountTaken σ w i = true → tx.heldAccount = false := by
    intro htaken
    have hbefore := h.accounts i htaken
    by_contra hheld
    rcases hmoved.account (by simpa using hheld) with hold | hfree
    · rw [hbefore] at hold
      cases hold
    · rw [htaken] at hfree
      cases hfree
  constructor
  · intro j
    rw [tx_to]
    split
    · rename_i heq
      subst heq
      exact hmoved.facts
    · exact h.facts j
  · intro j htaken
    rcases eq_or_not i j with rfl | rfl
    · simp only [roomTaken, tx_to, if_neg (not_ne j)] at htaken
      simpa only [tx_to, if_true] using hroom' htaken
    · simp only [roomTaken, tx_to, Bool.not_not, if_true, decide_eq_true_eq] at htaken
      rw [tx_to, if_neg (not_ne i)]
      by_contra hheld
      have hboth := hroom' (by simp [roomTaken, htaken.2, eq_true_of_ne_false hheld])
      rw [htaken.1] at hboth
      cases hboth
  · intro j htaken
    rcases eq_or_not i j with rfl | rfl
    · simp only [accountTaken, tx_to, if_neg (not_ne j)] at htaken
      simpa only [tx_to, if_true] using haccount' htaken
    · simp only [accountTaken, tx_to, Bool.not_not, if_true, decide_eq_true_eq] at htaken
      rw [tx_to, if_neg (not_ne i)]
      by_contra hheld
      have hboth := haccount' (by simp [accountTaken, htaken.2, eq_true_of_ne_false hheld])
      rw [htaken.1] at hboth
      cases hboth

theorem stage_step {σ : Setting ω} {db : Directory} (hfree : RaceFree σ db) {w w' : World ω}
    {k : Bool} (h : Stage σ db w) (hstep : step σ w k = some w') : Stage σ db w' := by
  cases h with
  | both hdb hconcurrent =>
    subst hdb
    cases step_advance (hconcurrent.facts k) hstep with
    | moved tx hmoved => exact .both rfl (concurrent_to hconcurrent hmoved)
    | ended hphase =>
      refine .one k rfl ?_ ?_
      · change (w.to k _).tx k = _
        rw [tx_to, if_pos rfl]
      · change Facts _ _ _ ((w.to k _).tx !k)
        rw [tx_to, if_neg (not_ne k)]
        exact hconcurrent.survives hfree hphase
  | one i hdb hended hfacts =>
    rcases eq_or_not i k with rfl | rfl
    · rw [step_ended hended] at hstep
      cases hstep
    · cases step_advance hfacts hstep with
      | moved tx hmoved =>
        refine .one i hdb ?_ ?_
        · rw [tx_to, if_neg (not_ne i).symm]
          exact hended
        · rw [tx_to, if_pos rfl]
          exact hmoved.facts
      | ended hphase =>
        refine .none i ?_ ?_ ?_
        · rw [← hdb]
        · change (w.to (!i) _).tx i = _
          rw [tx_to, if_neg (not_ne i).symm]
          exact hended
        · change (w.to (!i) _).tx (!i) = _
          rw [tx_to, if_pos rfl, ← hdb]
  | none i hdb hended hended' =>
    rcases eq_or_not i k with rfl | rfl
    · rw [step_ended hended] at hstep
      cases hstep
    · rw [step_ended hended'] at hstep
      cases hstep

theorem stage_start (σ : Setting ω) (db : Directory) : Stage σ db (start σ db) := by
  have hfacts : ∀ i, Facts (σ.ids i) (σ.event i) db ((start σ db).tx i) :=
    fun i => facts_begun (σ.ids i) (σ.event i) db
  exact .both rfl ⟨hfacts, fun _ _ => rfl, fun _ _ => rfl⟩

/-- The statements that can wait. -/
inductive Waits (σ : Setting ω) (w : World ω) (i : Bool) : Prop where
  | selecting : (w.tx i).phase = .selectChatroom ∨ (w.tx i).phase = .selectChatroomAgain →
      roomTaken σ w i = true → Waits σ w i
  | locking : (w.tx i).phase = .lockAccount → accountTaken σ w i = true → Waits σ w i
  | relocking : (w.tx i).phase = .lockChatroom → roomTaken σ w i = true → Waits σ w i
  | chatroom : (w.tx i).phase = .insertChatroom → chatroomPending σ w i = true → Waits σ w i
  | membership (epoch : Nat) : (w.tx i).phase = .insertMembership epoch →
      membershipPending σ w i epoch = true → Waits σ w i
  | contact : (w.tx i).phase = .insertContact → contactPending σ w i = true → Waits σ w i
  | activating (row : Principal) : (w.tx i).phase = .activatePrincipal row →
      principalPending σ w i = true → Waits σ w i
  | principal : (w.tx i).phase = .insertPrincipal → principalPending σ w i = true → Waits σ w i

theorem insertRow_waits {w : World ω} {i : Bool} {waits taken : Bool} {inserted : Transaction ω}
    (h : insertRow w i waits taken inserted = none) : waits = true := by
  unfold insertRow at h
  split at h
  · assumption
  · cases h

theorem waits_of_none {σ : Setting ω} {w : World ω} {i : Bool}
    (hgoing : ∀ result, (w.tx i).phase ≠ .ended result) (h : step σ w i = none) : Waits σ w i := by
  simp only [step] at h
  cases hphase : (w.tx i).phase with
  | selectChatroom =>
    rw [hphase] at h
    simp only at h
    split at h
    · cases h
    · split at h
      · rename_i htaken
        exact .selecting (.inl hphase) htaken
      · cases h
  | lockAccount =>
    rw [hphase] at h
    simp only at h
    split at h
    · rename_i htaken
      exact .locking hphase htaken
    · cases h
  | selectChatroomAgain =>
    rw [hphase] at h
    simp only at h
    split at h
    · cases h
    · split at h
      · rename_i htaken
        exact .selecting (.inr hphase) htaken
      · cases h
  | insertChatroom =>
    rw [hphase] at h
    exact .chatroom hphase (insertRow_waits h)
  | lockChatroom =>
    rw [hphase] at h
    simp only at h
    split at h
    · rename_i htaken
      exact .relocking hphase htaken
    · cases h
  | selectActive =>
    rw [hphase] at h
    simp only at h
    split at h <;> cases h
  | selectLatest =>
    rw [hphase] at h
    cases h
  | insertMembership epoch =>
    rw [hphase] at h
    exact .membership epoch hphase (insertRow_waits h)
  | selectContact =>
    rw [hphase] at h
    simp only at h
    split at h <;> cases h
  | insertContact =>
    rw [hphase] at h
    exact .contact hphase (insertRow_waits h)
  | selectPrincipal =>
    rw [hphase] at h
    simp only at h
    split at h <;> cases h
  | activatePrincipal row =>
    rw [hphase] at h
    simp only at h
    split at h
    · rename_i htaken
      exact .activating row hphase htaken
    · cases h
  | insertPrincipal =>
    rw [hphase] at h
    exact .principal hphase (insertRow_waits h)
  | rest =>
    rw [hphase] at h
    cases h
  | ended result => exact absurd hphase (hgoing result)

end WechatBot.Discovery
