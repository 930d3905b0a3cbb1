import WechatBot.DiscoverySerial

/-!
# Which discoveries are serializable

Without a race no statement waits for a transaction that waits for it, so every
interleaving ends, and as a serial execution. With a race one transaction commits the row
between the SELECT and the INSERT of the other one.
-/
namespace WechatBot.Discovery

open PyData Records

variable {ω : Type}

/-- The transaction holds nothing that another one could wait for. -/
def Idle (tx : Transaction ω) : Prop :=
  tx.heldAccount = false ∧ tx.heldRoom = false ∧ tx.pending = nothingPending

theorem idle_begun (e : DispatchedEvent) : Idle (begun e : Transaction ω) := ⟨rfl, rfl, rfl⟩

theorem idle_ended (result : Result ω) : Idle (endedWith result) := ⟨rfl, rfl, rfl⟩

/-- Nobody waits for an idle transaction. -/
theorem not_waits {σ : Setting ω} {w : World ω} {i : Bool} (hidle : Idle (w.tx !i)) :
    ¬ Waits σ w i := by
  obtain ⟨haccount, hroom, hpending⟩ := hidle
  intro hwaits
  cases hwaits with
  | selecting _ htaken => simp [roomTaken, hroom] at htaken
  | locking _ htaken => simp [accountTaken, haccount] at htaken
  | relocking _ htaken => simp [roomTaken, hroom] at htaken
  | chatroom _ hblocked => simp [chatroomPending, hpending, nothingPending] at hblocked
  | membership epoch _ hblocked => simp [membershipPending, hpending, nothingPending] at hblocked
  | contact _ hblocked => simp [contactPending, hpending, nothingPending] at hblocked
  | activating row _ hblocked => simp [principalPending, hpending, nothingPending] at hblocked
  | principal _ hblocked => simp [principalPending, hpending, nothingPending] at hblocked

theorem going_of_facts {ids : DrawnIds} {e : DispatchedEvent} {db : Directory}
    {tx : Transaction ω} (h : Facts ids e db tx) (result : Result ω) : tx.phase ≠ .ended result := by
  intro hphase
  have here := h.here
  rw [Here, hphase] at here
  exact here

theorem step_isSome {σ : Setting ω} {w : World ω} {i : Bool} (hidle : Idle (w.tx !i))
    (hfacts : Facts (σ.ids i) (σ.event i) w.directory (w.tx i)) : (step σ w i).isSome = true := by
  cases hstep : step σ w i with
  | some w' => rfl
  | none => exact absurd (waits_of_none (going_of_facts hfacts) hstep) (not_waits hidle)

theorem settled_of_isSome {β : Type} {settled : Bool} {found pending row : Option β} {new : β}
    (h : Settled settled found pending row new) (hsome : pending.isSome = true) :
    settled = true := by
  cases settled with
  | true => rfl
  | false =>
    rw [h.2] at hsome
    cases hsome

/-- A transaction that has written its principal has only the rest before it. -/
theorem principal_pending {ids : DrawnIds} {e : DispatchedEvent} {db : Directory}
    {tx : Transaction ω} (h : Facts ids e db tx) (hsome : tx.pending.principal.isSome = true) :
    tx.phase.atRest = true ∧ e.hasPrincipal = true := by
  have hprincipal := h.principal
  cases hsettled : tx.phase.atRest && e.hasPrincipal with
  | true => exact Bool.and_eq_true_iff.mp hsettled
  | false =>
    rw [hsettled] at hprincipal
    rw [hprincipal.2] at hsome
    cases hsome

/-- Without a race only a lock and the update of an inactive principal are waited for. -/
inductive WaitsForLock (σ : Setting ω) (w : World ω) (i : Bool) : Prop where
  | room : (w.tx i).phase = .selectChatroom ∨ (w.tx i).phase = .selectChatroomAgain →
      (w.tx !i).heldRoom = true → WaitsForLock σ w i
  | account : (w.tx i).phase = .lockAccount → (w.tx !i).heldAccount = true → WaitsForLock σ w i
  | principal (row : Principal) : (w.tx i).phase = .activatePrincipal row →
      (w.tx !i).phase.atRest = true → WaitsForLock σ w i

theorem Concurrent.waits {σ : Setting ω} {w : World ω} (h : Concurrent σ w)
    (hfree : RaceFree σ w.directory) {i : Bool} (hwaits : Waits σ w i) : WaitsForLock σ w i := by
  have hother := h.facts !i
  have here := (h.facts i).here
  cases hwaits with
  | selecting hphase htaken =>
    simp only [roomTaken, decide_eq_true_eq] at htaken
    exact .room hphase htaken.1
  | locking hphase htaken =>
    simp only [accountTaken, decide_eq_true_eq] at htaken
    exact .account hphase htaken.1
  | relocking hphase htaken =>
    simp only [roomTaken, decide_eq_true_eq] at htaken
    obtain ⟨hpast, hgroup'⟩ := hother.roomLock htaken.1
    rw [Here, hphase] at here
    exact (h.apart (isGroup_of_isMember here) hgroup' htaken.2 (by rw [hphase]; rfl)
      (needsRoom_of_pastRoom hpast)).elim
  | chatroom hphase hblocked =>
    simp only [chatroomPending, decide_eq_true_eq] at hblocked
    obtain ⟨hpast, hgroup'⟩ := Bool.and_eq_true_iff.mp (settled_of_isSome hother.room hblocked.1)
    rw [Here, hphase] at here
    exact (h.apart here.1 hgroup' hblocked.2 (by rw [hphase]; rfl)
      (needsRoom_of_pastRoom hpast)).elim
  | membership epoch hphase hblocked =>
    simp only [membershipPending, decide_eq_true_eq] at hblocked
    have hsome : (w.tx !i).pending.membership.isSome = true := by
      cases hrow : (w.tx !i).pending.membership with
      | none => simp [hrow] at hblocked
      | some row => rfl
    obtain ⟨hpast, hmember'⟩ := Bool.and_eq_true_iff.mp (settled_of_isSome hother.member hsome)
    rw [Here, hphase] at here
    exact (h.apart (isGroup_of_isMember here.1) (isGroup_of_isMember hmember')
      (congrArg Prod.fst hblocked.2) (by rw [hphase]; rfl) (pastActive_of_pastRows hpast).2.2).elim
  | contact hphase hblocked =>
    simp only [contactPending, decide_eq_true_eq] at hblocked
    obtain ⟨-, hprivate'⟩ := Bool.and_eq_true_iff.mp (settled_of_isSome hother.contact hblocked.1)
    rw [Here, hphase] at here
    exact (hfree i (.inl ⟨here.1, hprivate', hblocked.2.symm, here.2⟩)).elim
  | activating row hphase hblocked =>
    simp only [principalPending, decide_eq_true_eq] at hblocked
    exact .principal row hphase (principal_pending hother hblocked.1).1
  | principal hphase hblocked =>
    simp only [principalPending, decide_eq_true_eq] at hblocked
    obtain ⟨hrest, hhas'⟩ := principal_pending hother hblocked.1
    have hneeds' : (w.tx !i).phase.needsRoom = true := by
      cases hphase' : (w.tx !i).phase with
      | rest => rfl
      | _ => simp [hphase', Phase.atRest] at hrest
    rw [Here, hphase] at here
    exact (h.principal_apart hfree here.1 hhas' hblocked.2 (by rw [hphase]; rfl) hneeds' here.2).elim

/-- What the holder of a lock has passed. -/
theorem waitsForLock_past {σ : Setting ω} {w : World ω} (h : Concurrent σ w) {i : Bool}
    (hwaits : WaitsForLock σ w i) : (w.tx !i).phase.needsRoom = true ∨
      (w.tx !i).phase = .selectChatroomAgain := by
  have hother := h.facts !i
  cases hwaits with
  | room _ hheld => exact .inl (needsRoom_of_pastRoom (hother.roomLock hheld).1)
  | account _ hheld =>
    have here := hother.here
    cases hphase : (w.tx !i).phase with
    | selectChatroom =>
      rw [Here, hphase] at here
      rw [here.2] at hheld
      cases hheld
    | lockAccount =>
      rw [Here, hphase] at here
      rw [here.2] at hheld
      cases hheld
    | selectChatroomAgain => exact .inr rfl
    | _ => exact .inl rfl
  | principal row _ hrest =>
    cases hphase : (w.tx !i).phase with
    | rest => exact .inl rfl
    | _ => simp [hphase, Phase.atRest] at hrest

/-- The two transactions never wait for each other. -/
theorem Concurrent.no_deadlock {σ : Setting ω} {w : World ω} (h : Concurrent σ w) {i : Bool}
    (hwaits : WaitsForLock σ w i) (hwaits' : WaitsForLock σ w !i) : False := by
  have hfacts := h.facts i
  have hback : (!(!i)) = i := Bool.not_not i
  -- the other one waits too, so it is at one of the waiting statements
  cases hwaits' with
  | room hphase' hheld' =>
    rw [hback] at hheld'
    have hpast := (hfacts.roomLock hheld').1
    cases hwaits with
    | room hphase hheld => rcases hphase with hphase | hphase <;> simp [hphase, Phase.pastRoom] at hpast
    | account hphase hheld => simp [hphase, Phase.pastRoom] at hpast
    | principal row hphase hrest =>
      rcases hphase' with hphase' | hphase' <;> simp [hphase', Phase.atRest] at hrest
  | account hphase' hheld' =>
    rcases waitsForLock_past h hwaits with hneeds | hagain
    · simp [hphase', Phase.needsRoom, Phase.pastRoom] at hneeds
    · rw [hphase'] at hagain
      cases hagain
  | principal row hphase' hrest' =>
    rw [hback] at hrest'
    cases hwaits with
    | room hphase hheld => rcases hphase with hphase | hphase <;> simp [hphase, Phase.atRest] at hrest'
    | account hphase hheld => simp [hphase, Phase.atRest] at hrest'
    | principal row' hphase hrest => simp [hphase, Phase.atRest] at hrest'

theorem Concurrent.progress {σ : Setting ω} {w : World ω} (h : Concurrent σ w)
    (hfree : RaceFree σ w.directory) : ∃ i, (step σ w i).isSome = true := by
  by_contra hstuck
  have hwaits : ∀ i, WaitsForLock σ w i := by
    intro i
    have hnone : step σ w i = none := by
      cases hstep : step σ w i with
      | none => rfl
      | some w' => exact absurd ⟨i, by rw [hstep]; rfl⟩ hstuck
    exact h.waits hfree (waits_of_none (going_of_facts (h.facts i)) hnone)
  exact h.no_deadlock (hwaits false) (hwaits !false)

theorem to_to (w : World ω) (i : Bool) (tx tx' : Transaction ω) : (w.to i tx).to i tx' = w.to i tx' := by
  simp only [World.to, Function.update_idem]

/-- While the other one is idle, a transaction runs to its end. -/
theorem runs_alone {σ : Setting ω} {i : Bool} {w : World ω} (hidle : Idle (w.tx !i))
    (hfacts : Facts (σ.ids i) (σ.event i) w.directory (w.tx i)) :
    ∃ n, Runs.run (step σ) w (List.replicate n i) =
      some { w.to i (endedWith (resultOf σ i w.directory)) with
        directory := directoryAfter σ i w.directory } := by
  induction hleft : (w.tx i).phase.left using Nat.strong_induction_on generalizing w with
  | _ left ih =>
    obtain ⟨w', hstep⟩ := Option.isSome_iff_exists.mp (step_isSome hidle hfacts)
    have hadvance := step_advance hfacts hstep
    cases hadvance with
    | moved tx hmoved =>
      have hless := hmoved.less
      have hidle' : Idle ((w.to i tx).tx !i) := by
        rw [tx_to, if_neg (not_ne i)]
        exact hidle
      have hfacts'' : Facts (σ.ids i) (σ.event i) (w.to i tx).directory ((w.to i tx).tx i) := by
        rw [tx_to, if_pos rfl]
        exact hmoved.facts
      have hless' : ((w.to i tx).tx i).phase.left < left := by
        rw [tx_to, if_pos rfl]
        omega
      obtain ⟨n, hrun⟩ := ih _ hless' hidle' hfacts'' rfl
      refine ⟨n + 1, (Runs.run_cons _ _ _ _ _).mpr ⟨_, hstep, ?_⟩⟩
      rw [hrun, to_to]
      rfl
    | ended hphase => exact ⟨1, (Runs.run_cons _ _ _ _ _).mpr ⟨_, hstep, rfl⟩⟩

def leftOf (w : World ω) : Nat := (w.tx false).phase.left + (w.tx true).phase.left

theorem leftOf_not (w : World ω) (i : Bool) :
    leftOf w = (w.tx i).phase.left + (w.tx !i).phase.left := by
  cases i with
  | false => rfl
  | true => exact Nat.add_comm _ _

theorem Stage.facts {σ : Setting ω} {db : Directory} {w w' : World ω} {k : Bool}
    (h : Stage σ db w) (hstep : step σ w k = some w') :
    Facts (σ.ids k) (σ.event k) w.directory (w.tx k) := by
  cases h with
  | both hdb hconcurrent => exact hconcurrent.facts k
  | one i hdb hended hfacts =>
    rcases eq_or_not i k with rfl | rfl
    · rw [step_ended hended] at hstep
      cases hstep
    · exact hfacts
  | none i hdb hended hended' =>
    rcases eq_or_not i k with rfl | rfl
    · rw [step_ended hended] at hstep
      cases hstep
    · rw [step_ended hended'] at hstep
      cases hstep

theorem left_step {σ : Setting ω} {w w' : World ω} {i : Bool}
    (hfacts : Facts (σ.ids i) (σ.event i) w.directory (w.tx i)) (hstep : step σ w i = some w') :
    leftOf w' + 1 ≤ leftOf w := by
  rw [leftOf_not w i, leftOf_not w' i]
  cases step_advance hfacts hstep with
  | moved tx hmoved =>
    have hless := hmoved.less
    rw [tx_to, tx_to, if_pos rfl, if_neg (not_ne i)]
    omega
  | ended hphase =>
    change ((w.to i _).tx i).phase.left + ((w.to i _).tx !i).phase.left + 1 ≤ _
    rw [tx_to, tx_to, if_pos rfl, if_neg (not_ne i), hphase]
    simp only [endedWith, Phase.left]
    omega

theorem stage_run {σ : Setting ω} {db : Directory} (hfree : RaceFree σ db) {w w' : World ω}
    {as : List Bool} (h : Stage σ db w) (hrun : Runs.run (step σ) w as = some w') :
    Stage σ db w' ∧ as.length + leftOf w' ≤ leftOf w := by
  induction as generalizing w with
  | nil =>
    cases hrun
    exact ⟨h, by simp⟩
  | cons k as ih =>
    obtain ⟨u, hstep, hrest⟩ := (Runs.run_cons _ _ _ _ _).mp hrun
    obtain ⟨hstage, hleft⟩ := ih (stage_step hfree h hstep) hrest
    have hless := left_step (h.facts hstep) hstep
    refine ⟨hstage, ?_⟩
    rw [List.length_cons]
    omega

theorem left_start (σ : Setting ω) (db : Directory) : leftOf (start σ db) ≤ 22 := by
  have hfirst : ∀ i, ((start σ db).tx i).phase.left ≤ 11 := by
    intro i
    simp only [start, begun, firstPhase]
    split
    · exact Nat.le_refl 11
    · split
      · simp [Phase.left]
      · simp [Phase.left]
  have hboth := hfirst false
  have hboth' := hfirst true
  unfold leftOf
  omega

theorem serial_of_ended {σ : Setting ω} {db : Directory} {w : World ω} {i : Bool}
    (hdb : w.directory = directoryAfter σ (!i) (directoryAfter σ i db))
    (hended : w.tx i = endedWith (resultOf σ i db))
    (hended' : w.tx (!i) = endedWith (resultOf σ (!i) (directoryAfter σ i db))) : Serial σ db w := by
  have hfacts := facts_begun (ω := ω) (σ.ids i) (σ.event i) db
  obtain ⟨n, hfirst⟩ := runs_alone (σ := σ) (i := i) (w := start σ db) (idle_begun _) hfacts
  let u : World ω := { (start σ db).to i (endedWith (resultOf σ i db)) with
    directory := directoryAfter σ i db }
  have hidle : Idle (u.tx !(!i)) := by
    rw [Bool.not_not]
    change Idle (((start σ db).to i _).tx i)
    rw [tx_to, if_pos rfl]
    exact idle_ended _
  have hbegun : u.tx (!i) = begun (σ.event !i) := by
    change ((start σ db).to i _).tx (!i) = _
    rw [tx_to, if_neg (not_ne i)]
    rfl
  have hfacts' : Facts (σ.ids !i) (σ.event !i) u.directory (u.tx !i) := by
    rw [hbegun]
    exact facts_begun _ _ _
  obtain ⟨m, hsecond⟩ := runs_alone hidle hfacts'
  refine ⟨i, n, m, _, (Runs.run_append _ _ _ _ _).mpr ⟨u, hfirst, hsecond⟩, hdb.symm, ?_⟩
  intro k
  change ((u.to (!i) _).tx k).phase = _
  rcases eq_or_not i k with rfl | rfl
  · rw [tx_to, if_neg (not_ne k).symm, hended]
    change (((start σ db).to k _).tx k).phase = _
    rw [tx_to, if_pos rfl]
  · rw [tx_to, if_pos rfl, hended']

theorem serializable_of_raceFree {σ : Setting ω} {db : Directory} (hfree : RaceFree σ db) :
    Serializable σ db := by
  intro as w hrun
  obtain ⟨hstage, hleft⟩ := stage_run hfree (stage_start σ db) hrun
  have hbound := left_start σ db
  refine ⟨by omega, ?_⟩
  cases hstage with
  | both hdb hconcurrent =>
    have hgoing := fun i => going_of_facts (hconcurrent.facts i)
    refine ⟨fun i => hgoing i _, fun _ => hconcurrent.progress (hdb ▸ hfree), fun hended => ?_⟩
    obtain ⟨result, hphase⟩ := hended false
    exact absurd hphase (hgoing false result)
  | one i hdb hended hfacts =>
    have hidle : Idle (w.tx !(!i)) := by
      rw [Bool.not_not, hended]
      exact idle_ended _
    refine ⟨fun k => ?_, fun _ => ⟨!i, step_isSome hidle hfacts⟩, fun hall => ?_⟩
    · rcases eq_or_not i k with rfl | rfl
      · rw [hended]
        exact nofun
      · exact going_of_facts hfacts _
    · obtain ⟨result, hphase⟩ := hall !i
      exact absurd hphase (going_of_facts hfacts result)
  | none i hdb hended hended' =>
    refine ⟨fun k => ?_, fun hgoing => ?_, fun _ => serial_of_ended hdb hended hended'⟩
    · rcases eq_or_not i k with rfl | rfl
      · rw [hended]
        exact nofun
      · rw [hended']
        exact nofun
    · obtain ⟨k, hk⟩ := hgoing
      rcases eq_or_not i k with rfl | rfl
      · exact absurd ⟨_, by rw [hended]; rfl⟩ hk
      · exact absurd ⟨_, by rw [hended']; rfl⟩ hk

end WechatBot.Discovery
