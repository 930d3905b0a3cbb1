import WechatBot.DiscoveryRace

/-!
# Concurrent first discoveries

A race is always lost by someone: both transactions miss the row, one commits it, and
the INSERT of the other breaks the unique constraint. So two dispatches are serializable
exactly when their events do not race.
-/
namespace WechatBot.Discovery

open PyData Records

variable {ω : Type}

theorem Advance.spec {σ : Setting ω} {w w' : World ω} {i : Bool} (h : Advance σ w i w')
    (hgoing : (w.tx i).phase ≠ .rest) : w'.directory = w.directory ∧ w'.tx (!i) = w.tx (!i) ∧
      Moved σ w i (w'.tx i) := by
  cases h with
  | moved tx hmoved =>
    refine ⟨rfl, ?_, ?_⟩
    · rw [tx_to, if_neg (not_ne i)]
    · rw [tx_to, if_pos rfl]
      exact hmoved
  | ended hphase => exact absurd hphase hgoing

theorem begun_private {e : DispatchedEvent} (h : e.isPrivate = true) :
    (begun e : Transaction ω) = ⟨.selectContact, nothingFound, nothingPending, false, false⟩ := by
  have hgroup : e.isGroup ≠ true := by
    intro hgroup
    rw [isPrivate_of_isGroup hgroup] at h
    cases h
  rw [begun, firstPhase, if_neg hgroup, if_pos h]

/-- The SELECT that finds no contact. -/
def missedContact : Transaction ω := ⟨.insertContact, nothingFound, nothingPending, false, false⟩

theorem step_missedContact {σ : Setting ω} {w : World ω} {i : Bool}
    (hprivate : (σ.event i).isPrivate = true) (hbegun : w.tx i = begun (σ.event i))
    (hnone : w.directory.contact (σ.event i).contactKey = none) :
    step σ w i = some (w.to i missedContact) := by
  simp only [step, hbegun, begun_private hprivate, hnone, missedContact]

theorem facts_missedContact {ids : DrawnIds} {e : DispatchedEvent} {db : Directory}
    (hprivate : e.isPrivate = true) (hnone : db.contact e.contactKey = none) :
    Facts ids e db (missedContact : Transaction ω) := by
  have hfacts : Facts ids e db (begun e : Transaction ω) := facts_begun ids e db
  rw [begun_private hprivate] at hfacts
  refine { hfacts with here := ⟨hprivate, hnone⟩ }

theorem contact_violated {σ : Setting ω} {db : Directory}
    (hcommits : ∀ found, ∃ answer, σ.rest false found = .ok answer)
    (hprivate : (σ.event false).isPrivate = true) (hprivate' : (σ.event true).isPrivate = true)
    (hkey : (σ.event false).contactKey = (σ.event true).contactKey)
    (hnone : db.contact (σ.event false).contactKey = none) :
    ∃ as w, Runs.run (step σ) (start σ db) as = some w ∧
      (w.tx true).phase = .ended .integrityError := by
  let u : World ω := ((start σ db).to false missedContact).to true missedContact
  have hfirst := step_missedContact (σ := σ) (w := start σ db) (i := false) hprivate rfl hnone
  have hsecond : step σ ((start σ db).to false missedContact) true = some u := by
    refine step_missedContact hprivate' ?_ (hkey ▸ hnone)
    rw [tx_to, if_neg (by decide)]
    rfl
  have hboth : Runs.run (step σ) (start σ db) [false, true] = some u :=
    (Runs.run_cons _ _ _ _ _).mpr ⟨_, hfirst, (Runs.run_cons _ _ _ _ _).mpr ⟨_, hsecond, rfl⟩⟩
  have hmissed : u.tx false = missedContact := by
    rw [tx_to, if_neg (by decide), tx_to, if_pos rfl]
  have hmissed' : u.tx true = missedContact := by rw [tx_to, if_pos rfl]
  have hidle : Idle (u.tx !false) := by
    rw [Bool.not_false, hmissed']
    exact ⟨rfl, rfl, rfl⟩
  have hfacts : Facts (σ.ids false) (σ.event false) u.directory (u.tx false) := by
    rw [hmissed]
    exact facts_missedContact hprivate hnone
  -- the first one runs to its commit, the second one then inserts
  obtain ⟨n, hrun⟩ := runs_alone hidle hfacts
  let v : World ω := { u.to false (endedWith (resultOf σ false u.directory)) with
    directory := directoryAfter σ false u.directory }
  have htaken : v.directory.contact (σ.event true).contactKey =
      some (newContact (σ.ids false) (σ.event false)) := by
    obtain ⟨answer, hanswer⟩ := hcommits (foundOf (σ.ids false) (σ.event false) u.directory)
    have hpending : (pendingOf (σ.ids false) (σ.event false) u.directory).contact =
        some (newContact (σ.ids false) (σ.event false)) := by
      have hmissing : u.directory.contact (σ.event false).contactKey = none := hnone
      simp only [pendingOf, if_pos hprivate, missing, hmissing]
      rfl
    change (directoryAfter σ false u.directory).contact _ = _
    simp only [directoryAfter, hanswer]
    change fill _ _ (pendingOf (σ.ids false) (σ.event false) u.directory).contact _ = _
    rw [hpending, hkey, fill, Function.update_self]
  have hlast : step σ v true = some (v.to true (endedWith .integrityError)) := by
    have htx : v.tx true = missedContact := by
      change (u.to false (endedWith (resultOf σ false u.directory))).tx true = missedContact
      rw [tx_to, if_neg (by decide), hmissed']
    have hother : v.tx false = endedWith (resultOf σ false u.directory) := by
      change (u.to false (endedWith (resultOf σ false u.directory))).tx false = _
      rw [tx_to, if_pos rfl]
    have hfree : contactPending σ v true = false := by
      simp [contactPending, Bool.not_true, hother, endedWith, nothingPending]
    simp only [step, htx, missedContact, insertRow, hfree, htaken]
    rfl
  refine ⟨[false, true] ++ (List.replicate n false ++ [true]), v.to true (endedWith .integrityError),
    ?_, ?_⟩
  · refine (Runs.run_append _ _ _ _ _).mpr ⟨u, hboth, ?_⟩
    exact Runs.run_snoc _ hrun hlast
  · rw [tx_to, if_pos rfl]
    rfl


/-- Nothing of the other transaction makes a statement before the principal wait. -/
structure Clear (σ : Setting ω) (w : World ω) (i : Bool) : Prop where
  room : roomTaken σ w i = false
  account : accountTaken σ w i = true → (σ.event i).isGroup = true →
    w.directory.chatroom (σ.event i).roomKey ≠ none
  chatroom : chatroomPending σ w i = false
  membership : ∀ epoch, membershipPending σ w i epoch = false
  contact : contactPending σ w i = true → w.directory.contact (σ.event i).contactKey ≠ none

theorem Clear.congr {σ : Setting ω} {w w' : World ω} {i : Bool} (h : Clear σ w i)
    (hdb : w'.directory = w.directory) (hother : w'.tx (!i) = w.tx (!i)) : Clear σ w' i := by
  obtain ⟨hroom, haccount, hchatroom, hmembership, hcontact⟩ := h
  constructor
  · rw [roomTaken, hother]
    exact hroom
  · rw [accountTaken, hother, hdb]
    exact haccount
  · rw [chatroomPending, hother]
    exact hchatroom
  · intro epoch
    rw [membershipPending, hother]
    exact hmembership epoch
  · rw [contactPending, hother, hdb]
    exact hcontact

theorem clear_of_idle {σ : Setting ω} {w : World ω} {i : Bool} (h : Idle (w.tx !i)) :
    Clear σ w i := by
  obtain ⟨haccount, hroom, hpending⟩ := h
  constructor
  · simp [roomTaken, hroom]
  · simp [accountTaken, haccount]
  · simp [chatroomPending, hpending, nothingPending]
  · simp [membershipPending, hpending, nothingPending]
  · simp [contactPending, hpending, nothingPending]

/-- The transaction has not come to its principal yet and has a way to it. -/
structure Approaching (σ : Setting ω) (w : World ω) (i : Bool) : Prop where
  facts : Facts (σ.ids i) (σ.event i) w.directory (w.tx i)
  clear : Clear σ w i
  early : 3 ≤ (w.tx i).phase.left
  unlocked : (w.tx i).phase = .lockAccount → accountTaken σ w i = false

theorem Approaching.not_waits {σ : Setting ω} {w : World ω} {i : Bool} (h : Approaching σ w i) :
    ¬ Waits σ w i := by
  have here := h.facts.here
  have hearly := h.early
  intro hwaits
  cases hwaits with
  | selecting _ htaken =>
    rw [h.clear.room] at htaken
    cases htaken
  | locking hphase htaken =>
    rw [h.unlocked hphase] at htaken
    cases htaken
  | relocking _ htaken =>
    rw [h.clear.room] at htaken
    cases htaken
  | chatroom _ hblocked =>
    rw [h.clear.chatroom] at hblocked
    cases hblocked
  | membership epoch _ hblocked =>
    rw [h.clear.membership epoch] at hblocked
    cases hblocked
  | contact hphase hblocked =>
    rw [Here, hphase] at here
    exact h.clear.contact hblocked here.2
  | activating row hphase _ => simp [hphase, Phase.left] at hearly
  | principal hphase _ => simp [hphase, Phase.left] at hearly

/-- With a missing principal the next statement is the INSERT of it or comes before. -/
theorem Approaching.next {σ : Setting ω} {w : World ω} {i : Bool} (h : Approaching σ w i)
    (hhas : (σ.event i).hasPrincipal = true)
    (hnone : w.directory.principal (σ.event i).principalKey = none) :
    ∃ w', step σ w i = some w' ∧ w'.directory = w.directory ∧ w'.tx (!i) = w.tx (!i) ∧
      (w'.tx i).phase.left < (w.tx i).phase.left ∧
      ((w'.tx i).phase = .insertPrincipal ∧ Facts (σ.ids i) (σ.event i) w'.directory (w'.tx i) ∨
        Approaching σ w' i) := by
  cases hstep : step σ w i with
  | none => exact absurd (waits_of_none (going_of_facts h.facts) hstep) h.not_waits
  | some w' =>
    have hgoing : (w.tx i).phase ≠ .rest := by
      intro hphase
      have hearly := h.early
      simp [hphase, Phase.left] at hearly
    obtain ⟨hdb, hother, hmoved⟩ := (step_advance h.facts hstep).spec hgoing
    have hfacts : Facts (σ.ids i) (σ.event i) w'.directory (w'.tx i) := by
      rw [hdb]
      exact hmoved.facts
    refine ⟨w', rfl, hdb, hother, hmoved.less, ?_⟩
    -- nothing is pending for the principal, so the phase is not past it
    have hbefore : (w'.tx i).phase.atRest = false := by
      cases hrest : (w'.tx i).phase.atRest with
      | false => rfl
      | true =>
        have hprincipal := hmoved.facts.principal
        rw [hrest, hhas, hnone] at hprincipal
        have hearly := h.early
        have hold := h.facts.principal
        have hwas : (w.tx i).phase.atRest = false := by
          cases hphase : (w.tx i).phase with
          | rest => exact absurd hphase hgoing
          | _ => rfl
        rw [hwas] at hold
        rcases hmoved.principal with hkept | hlate
        · rw [hkept, hold.2] at hprincipal
          simp [PrincipalSettled] at hprincipal
        · omega
    have here := hmoved.facts.here
    by_cases hearly : 3 ≤ (w'.tx i).phase.left
    · refine .inr ⟨hfacts, h.clear.congr hdb hother, hearly, fun hphase => ?_⟩
      have hmissing := hmoved.unmade hphase
      rw [Here, hphase] at here
      rw [accountTaken, hother]
      by_contra htaken
      exact h.clear.account (by simpa [accountTaken] using htaken) here.1 hmissing
    · cases hphase : (w'.tx i).phase with
      | insertPrincipal => exact .inl ⟨rfl, hfacts⟩
      | activatePrincipal row =>
        rw [Here, hphase] at here
        obtain ⟨-, p, hp, -⟩ := here
        rw [hnone] at hp
        cases hp
      | rest => simp [hphase, Phase.atRest] at hbefore
      | ended result => exact absurd hphase (going_of_facts hfacts result)
      | _ => simp [hphase, Phase.left] at hearly

theorem reaches_principal {σ : Setting ω} {i : Bool} {w : World ω} (h : Approaching σ w i)
    (hhas : (σ.event i).hasPrincipal = true)
    (hnone : w.directory.principal (σ.event i).principalKey = none) :
    ∃ n w', Runs.run (step σ) w (List.replicate n i) = some w' ∧ w'.directory = w.directory ∧
      w'.tx (!i) = w.tx (!i) ∧ (w'.tx i).phase = .insertPrincipal ∧
      Facts (σ.ids i) (σ.event i) w'.directory (w'.tx i) := by
  induction hleft : (w.tx i).phase.left using Nat.strong_induction_on generalizing w with
  | _ left ih =>
    obtain ⟨u, hstep, hdb, hother, hless, hnext⟩ := h.next hhas hnone
    rcases hnext with ⟨hphase, hfacts⟩ | happroaching
    · exact ⟨1, u, (Runs.run_cons _ _ _ _ _).mpr ⟨u, hstep, rfl⟩, hdb, hother, hphase, hfacts⟩
    · obtain ⟨n, w', hrun, hdb', hother', hrest⟩ :=
        ih _ (by omega) happroaching (by rw [hdb]; exact hnone) rfl
      exact ⟨n + 1, w', (Runs.run_cons _ _ _ _ _).mpr ⟨u, hstep, hrun⟩, hdb'.trans hdb,
        hother'.trans hother, hrest⟩

theorem isGroup_of_principalKey {e e' : DispatchedEvent} (h : e.principalKey = e'.principalKey) :
    e.isGroup = e'.isGroup := by
  unfold DispatchedEvent.principalKey at h
  cases hgroup : e.isGroup <;> cases hgroup' : e'.isGroup <;> simp_all

theorem early_begun {e : DispatchedEvent} (hhas : e.hasPrincipal = true) :
    3 ≤ (begun e : Transaction ω).phase.left ∧
      (begun e : Transaction ω).phase ≠ .lockAccount := by
  unfold begun firstPhase
  by_cases hgroup : e.isGroup = true
  · rw [if_pos hgroup]
    exact ⟨by simp [Phase.left], (fun h => by cases h)⟩
  · have hprivate : e.isPrivate = true := by
      simp only [DispatchedEvent.hasPrincipal, decide_eq_true_eq] at hhas
      rcases hhas with hmember | hprivate
      · exact absurd (isGroup_of_isMember hmember) hgroup
      · exact hprivate
    rw [if_neg hgroup, if_pos hprivate]
    exact ⟨by simp [Phase.left], (fun h => by cases h)⟩

/-- The first transaction stands before its principal; the second one can come that far
too when their events race. -/
theorem clear_of_race {σ : Setting ω} {w : World ω} {i : Bool}
    (hfacts : Facts (σ.ids i) (σ.event i) w.directory (w.tx i))
    (hkey : (σ.event i).principalKey = (σ.event !i).principalKey)
    (hlock : ¬ OneAtATime (σ.event i) (σ.event !i) w.directory)
    (hcontact : ¬ ((σ.event i).isPrivate = true ∧ (σ.event !i).isPrivate = true ∧
      (σ.event i).contactKey = (σ.event !i).contactKey ∧
      w.directory.contact (σ.event i).contactKey = none))
    (hhas' : (σ.event !i).hasPrincipal = true)
    (horder : (σ.event i).isGroup = true → (σ.event !i).isGroup = true →
      (σ.event i).accountId = (σ.event !i).accountId →
      w.directory.chatroom (σ.event !i).roomKey ≠ none) : Clear σ w !i := by
  have hkinds := isGroup_of_principalKey hkey
  have hback : (!(!i)) = i := Bool.not_not i
  -- a group event in the same room would have to wait for the lock of the room
  have hapart : (σ.event i).isGroup = true → (σ.event i).roomKey ≠ (σ.event !i).roomKey := by
    intro hgroup hroom
    exact hlock ⟨hgroup, hkinds ▸ hgroup, congrArg Prod.fst hroom, .inl hroom⟩
  constructor
  · simp only [roomTaken, hback, decide_eq_false_iff_not]
    rintro ⟨hheld, hroom⟩
    exact hapart (hfacts.roomLock hheld).2 hroom
  · intro htaken hgroup'
    simp only [accountTaken, hback, decide_eq_true_eq] at htaken
    exact horder (hkinds.trans hgroup') hgroup' htaken.2
  · simp only [chatroomPending, hback, decide_eq_false_iff_not]
    rintro ⟨hsome, hroom⟩
    exact hapart (Bool.and_eq_true_iff.mp (settled_of_isSome hfacts.room hsome)).2 hroom
  · intro epoch
    simp only [membershipPending, hback, decide_eq_false_iff_not]
    rintro ⟨hepoch, hmember⟩
    have hsome : (w.tx i).pending.membership.isSome = true := by
      cases hrow : (w.tx i).pending.membership with
      | none => simp [hrow] at hepoch
      | some row => rfl
    have hsettled := Bool.and_eq_true_iff.mp (settled_of_isSome hfacts.member hsome)
    exact hapart (isGroup_of_isMember hsettled.2) (congrArg Prod.fst hmember)
  · intro hblocked hnone
    simp only [contactPending, hback, decide_eq_true_eq] at hblocked
    have hprivate := (Bool.and_eq_true_iff.mp (settled_of_isSome hfacts.contact hblocked.1)).2
    have hprivate' : (σ.event !i).isPrivate = true := by
      simp only [DispatchedEvent.hasPrincipal, decide_eq_true_eq] at hhas'
      rcases hhas' with hmember' | hprivate'
      · have hgroup := hkinds.trans (isGroup_of_isMember hmember')
        rw [isPrivate_of_isGroup hgroup] at hprivate
        cases hprivate
      · exact hprivate'
    exact hcontact ⟨hprivate, hprivate', hblocked.2, hblocked.2 ▸ hnone⟩


/-- Both stand before the INSERT of the same principal: the first one commits it. -/
theorem insert_violated {σ : Setting ω} {w : World ω} {i : Bool}
    (hcommits : ∀ found, ∃ answer, σ.rest i found = .ok answer)
    (hhas : (σ.event i).hasPrincipal = true)
    (hkey : (σ.event i).principalKey = (σ.event !i).principalKey)
    (hfacts : Facts (σ.ids i) (σ.event i) w.directory (w.tx i))
    (hphase : (w.tx i).phase = .insertPrincipal)
    (hfacts' : Facts (σ.ids !i) (σ.event !i) w.directory (w.tx !i))
    (hphase' : (w.tx !i).phase = .insertPrincipal) :
    ∃ w', Runs.run (step σ) w [i, i, !i] = some w' ∧
      (w'.tx !i).phase = .ended .integrityError := by
  have hunwritten : (w.tx !i).pending.principal = none := by
    have hprincipal := hfacts'.principal
    rw [hphase'] at hprincipal
    exact hprincipal.2
  obtain ⟨u, hfirst⟩ : ∃ u, step σ w i = some u := by
    simp [step, hphase, insertRow, principalPending, hunwritten]
  obtain ⟨hdb, hother, hmoved⟩ := (step_advance hfacts hfirst).spec (by rw [hphase]; exact fun h => by cases h)
  have hfacts₁ : Facts (σ.ids i) (σ.event i) u.directory (u.tx i) := hdb ▸ hmoved.facts
  have hrest : (u.tx i).phase = .rest := by
    have hless := hmoved.less
    rw [hphase] at hless
    cases hp : (u.tx i).phase with
    | rest => rfl
    | ended result => exact absurd hp (going_of_facts hfacts₁ result)
    | _ => simp [hp, Phase.left] at hless
  obtain ⟨v, hsecond⟩ : ∃ v, step σ u i = some v := by simp [step, hrest]
  have hv := rest_advance hfacts₁ hrest hsecond
  cases hv with
  | moved tx hmoved' =>
    have hless := hmoved'.less
    rw [hrest] at hless
    cases hp : tx.phase with
    | ended result => exact absurd hp (going_of_facts hmoved'.facts result)
    | _ => simp [hp, Phase.left] at hless
  | ended _ =>
    let v : World ω := { u.to i (endedWith (resultOf σ i u.directory)) with
      directory := directoryAfter σ i u.directory }
    have htaken : (v.directory.principal (σ.event !i).principalKey).isSome = true := by
      obtain ⟨answer, hanswer⟩ := hcommits (foundOf (σ.ids i) (σ.event i) u.directory)
      change ((directoryAfter σ i u.directory).principal _).isSome = true
      simp only [directoryAfter, hanswer]
      change (fill _ _ (pendingOf (σ.ids i) (σ.event i) u.directory).principal _).isSome = true
      simp only [pendingOf, if_pos hhas, ← hkey, fill, Function.update_self, Option.isSome_some]
    have hstill : (v.tx !i).phase = .insertPrincipal := by
      change ((u.to i (endedWith (resultOf σ i u.directory))).tx !i).phase = _
      rw [tx_to, if_neg (not_ne i), hother, hphase']
    have hended : v.tx i = endedWith (resultOf σ i u.directory) := by
      change (u.to i (endedWith (resultOf σ i u.directory))).tx i = _
      rw [tx_to, if_pos rfl]
    have hfree : principalPending σ v (!i) = false := by
      simp [principalPending, Bool.not_not, hended, endedWith, nothingPending]
    have hlast : step σ v (!i) = some (v.to (!i) (endedWith .integrityError)) := by
      simp only [step, hstill, insertRow, hfree, htaken]
      rfl
    refine ⟨v.to (!i) (endedWith .integrityError), ?_, ?_⟩
    · refine (Runs.run_cons _ _ _ _ _).mpr ⟨u, hfirst, (Runs.run_cons _ _ _ _ _).mpr ⟨v, hsecond, ?_⟩⟩
      exact (Runs.run_cons _ _ _ _ _).mpr ⟨_, hlast, rfl⟩
    · rw [tx_to, if_pos rfl]
      rfl

theorem principal_violated {σ : Setting ω} {db : Directory} {i : Bool}
    (hcommits : ∀ found, ∃ answer, σ.rest i found = .ok answer)
    (hhas : (σ.event i).hasPrincipal = true) (hhas' : (σ.event !i).hasPrincipal = true)
    (hkey : (σ.event i).principalKey = (σ.event !i).principalKey)
    (hnone : db.principal (σ.event i).principalKey = none)
    (hlock : ¬ OneAtATime (σ.event i) (σ.event !i) db)
    (hcontact : ¬ ((σ.event i).isPrivate = true ∧ (σ.event !i).isPrivate = true ∧
      (σ.event i).contactKey = (σ.event !i).contactKey ∧
      db.contact (σ.event i).contactKey = none))
    (horder : (σ.event i).isGroup = true → (σ.event !i).isGroup = true →
      (σ.event i).accountId = (σ.event !i).accountId →
      db.chatroom (σ.event !i).roomKey ≠ none) :
    ∃ as w, Runs.run (step σ) (start σ db) as = some w ∧
      (w.tx !i).phase = .ended .integrityError := by
  have hearly := early_begun (ω := ω) hhas
  have hfirst : Approaching σ (start σ db) i :=
    ⟨facts_begun _ _ _, clear_of_idle (idle_begun _), hearly.1, fun h => absurd h hearly.2⟩
  obtain ⟨n, u, hrun, hdb, hother, hphase, hfacts⟩ := reaches_principal hfirst hhas hnone
  replace hdb : u.directory = db := hdb
  have hbegun : u.tx (!i) = begun (σ.event !i) := hother
  have hearly' := early_begun (ω := ω) hhas'
  have hsecond : Approaching σ u !i := by
    constructor
    · rw [hbegun]
      exact facts_begun _ _ _
    · exact clear_of_race hfacts hkey (hdb ▸ hlock) (hdb ▸ hcontact) hhas' (hdb ▸ horder)
    · rw [hbegun]
      exact hearly'.1
    · intro hlocking
      rw [hbegun] at hlocking
      exact absurd hlocking hearly'.2
  obtain ⟨m, v, hrun', hdb', hother', hphase', hfacts'⟩ :=
    reaches_principal hsecond hhas' (by rw [hdb, ← hkey]; exact hnone)
  rw [Bool.not_not] at hother'
  have hfacts₁ : Facts (σ.ids i) (σ.event i) v.directory (v.tx i) := by
    rw [hdb', hother']
    exact hfacts
  obtain ⟨w, hlast, hviolated⟩ :=
    insert_violated hcommits hhas hkey hfacts₁ (by rw [hother']; exact hphase) hfacts' hphase'
  refine ⟨List.replicate n i ++ (List.replicate m (!i) ++ [i, i, !i]), w, ?_, hviolated⟩
  exact (Runs.run_append _ _ _ _ _).mpr ⟨u, hrun, (Runs.run_append _ _ _ _ _).mpr ⟨v, hrun', hlast⟩⟩

/-- The transaction whose chatroom may be missing goes first. -/
theorem exists_order (event : Bool → DispatchedEvent) {db : Directory}
    (hlock : ¬ OneAtATime (event false) (event true) db) :
    ∃ i, (event i).isGroup = true → (event !i).isGroup = true →
      (event i).accountId = (event !i).accountId → db.chatroom (event !i).roomKey ≠ none := by
  by_cases hmissing : db.chatroom (event true).roomKey = none
  · refine ⟨true, fun hgroup hgroup' haccount hmissing' => hlock ?_⟩
    exact ⟨hgroup', hgroup, haccount.symm, .inr ⟨hmissing', hmissing⟩⟩
  · exact ⟨false, fun _ _ _ => hmissing⟩

/-- Whatever the rest of the two dispatches does, every interleaving of them is
serializable, exactly when their events do not race. -/
theorem serializable_iff [Inhabited ω] (event : Bool → DispatchedEvent) (ids : Bool → DrawnIds)
    (db : Directory) :
    (∀ rest : Bool → Found → Except String ω, Serializable ⟨event, ids, rest⟩ db) ↔
      ¬ Races (event false) (event true) db := by
  constructor
  · intro hall hraces
    let σ : Setting ω := ⟨event, ids, fun _ _ => .ok default⟩
    have hcommits : ∀ i found, ∃ answer, σ.rest i found = .ok answer := fun _ _ => ⟨default, rfl⟩
    obtain ⟨i, as, w, hrun, hviolated⟩ : ∃ i as w, Runs.run (step σ) (start σ db) as = some w ∧
        (w.tx i).phase = .ended .integrityError := by
      by_cases hcontact : (event false).isPrivate = true ∧ (event true).isPrivate = true ∧
          (event false).contactKey = (event true).contactKey ∧
          db.contact (event false).contactKey = none
      · obtain ⟨hprivate, hprivate', hkey, hnone⟩ := hcontact
        obtain ⟨as, w, hrun, hviolated⟩ :=
          contact_violated (σ := σ) (hcommits false) hprivate hprivate' hkey hnone
        exact ⟨true, as, w, hrun, hviolated⟩
      · rcases hraces with hcontact' | ⟨hhas, hhas', hkey, hnone, hlock⟩
        · exact absurd hcontact' hcontact
        · obtain ⟨i, horder⟩ := exists_order event hlock
          refine ⟨!i, ?_⟩
          cases i with
          | false =>
            exact principal_violated (σ := σ) (i := false) (hcommits false) hhas hhas' hkey hnone
              hlock hcontact horder
          | true =>
            refine principal_violated (σ := σ) (i := true) (hcommits true) hhas' hhas hkey.symm
              (hkey ▸ hnone) (fun h => hlock h.symm) (fun h => hcontact ?_) horder
            exact ⟨h.2.1, h.1, h.2.2.1.symm, h.2.2.1 ▸ h.2.2.2⟩
    exact (hall σ.rest as w hrun).2.1 i hviolated
  · intro hfree rest
    exact serializable_of_raceFree (raceFree_of hfree)

def firstMessage : DispatchedEvent where
  accountId := 2
  workspaceId := 1
  conversationType := .PRIVATE
  conversationId := some (py "wxid_friend")
  actorWxid := some (py "wxid_friend")

def emptyDirectory : Directory := ⟨fun _ => none, fun _ => [], fun _ => none, fun _ => none⟩

def newContactSetting : Setting Unit where
  event := fun _ => firstMessage
  ids := fun i => if i then ⟨11, 12, 13, 14⟩ else ⟨21, 22, 23, 24⟩
  rest := fun _ _ => .ok ()

/-- Both look for the contact, the first one is dispatched, and the second one fails. -/
def contactSchedule : List Bool := [false, true, false, false, false, false, true]

theorem contactRun_isSome : (Runs.run (step newContactSetting) (start newContactSetting emptyDirectory)
    contactSchedule).isSome = true := by decide +kernel

def isViolated : Phase Unit → Bool
  | .ended .integrityError => true
  | _ => false

theorem new_contact_fails : ¬ Serializable newContactSetting emptyDirectory := by
  intro h
  have hrun := (Option.some_get contactRun_isSome).symm
  have hphase : isViolated ((((Runs.run (step newContactSetting) (start newContactSetting emptyDirectory)
      contactSchedule).get contactRun_isSome).tx true).phase) = true := by decide +kernel
  refine (h contactSchedule _ hrun).2.1 true ?_
  cases hended : (((Runs.run (step newContactSetting) (start newContactSetting emptyDirectory)
      contactSchedule).get contactRun_isSome).tx true).phase with
  | ended result =>
    cases result with
    | integrityError => rfl
    | finished found answer =>
      rw [hended] at hphase
      cases hphase
  | _ =>
    rw [hended] at hphase
    cases hphase

end WechatBot.Discovery
