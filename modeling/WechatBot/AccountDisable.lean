import WechatBot.Accounts
import WechatBot.Runs

/-!
# Disabling an account

Requests on the bot accounts, each in a session of its own, in every interleaving
under READ COMMITTED. `set_disabled` refreshes the row under its lock before it
writes. The four status operations read the row without a lock, and their UPDATE
waits for the lock and no more, so a disable that commits between the two can be
overwritten. The main theorem says when it is not.
-/
namespace WechatBot.AccountDisable

open PyData Records DirtyWrite Accounts
open Tables (Table)

/-- What a request is doing. `overtaken` records that a `set_disabled(true)` of the
account committed since the session loaded it, and no `set_disabled(false)` after that. -/
inductive Phase where
  | idle
  | calling (operation : StatusOperation) (session : Session BotAccount) (overtaken : Bool)
  | callingQr (connectionId : UUID)
  | changed (session : Session BotAccount) (overtaken : Bool)
  | inserting (account : BotAccount)
  | switching (accountId : UUID) (disabled : Bool)
  | written (session : Session BotAccount) (overtaken : Bool)
  | switched (session : Session BotAccount) (disabled : Bool)
  deriving DecidableEq, Repr

/-- `switch` records what the last committed `set_disabled` of an account asked for. -/
structure World where
  accounts : AccountTable
  geweConnection : UUID → Option GeweConnection
  decrypt : Str → Option Str
  lock : UUID → Option Nat
  phase : Nat → Phase
  switch : UUID → Option Bool

inductive Action where
  | start (request : Nat) (operation : StatusOperation) (accountId : UUID)
  | startQr (request : Nat) (connectionId : UUID)
  | startSwitch (request : Nat) (accountId : UUID) (disabled : Bool)
  | answer (request : Nat) (answer : ProviderAnswer) (now : Time)
  | answerQr (request : Nat) (qr : LoginQrCodeData) (now : Time) (newId : UUID)
  | flush (request : Nat)
  | lockRow (request : Nat)
  | commit (request : Nat)
  | abort (request : Nat)
  deriving DecidableEq, Repr

def World.directory (w : World) : Directory := ⟨w.accounts, w.geweConnection, w.decrypt⟩

def World.to (w : World) (request : Nat) (phase : Phase) : World :=
  { w with phase := Function.update w.phase request phase }

/-- The row's lock is free for the request. -/
def World.lockFree (w : World) (request : Nat) (accountId : UUID) : Prop :=
  w.lock accountId = none ∨ w.lock accountId = some request

instance (w : World) (request : Nat) (accountId : UUID) : Decidable (w.lockFree request accountId) :=
  inferInstanceAs (Decidable (_ ∨ _))

/-- The row lock a phase holds. -/
def Phase.holds : Phase → Option UUID
  | .written session _ => some session.loaded.id
  | .switched session _ => some session.loaded.id
  | _ => none

/-- The end of a transaction releases its lock. -/
def World.finish (w : World) (request : Nat) : World :=
  { w with
    phase := Function.update w.phase request .idle
    lock := fun accountId =>
      if (w.phase request).holds = some accountId then none else w.lock accountId }

/-- A committed `set_disabled` as the other sessions of the account record it. -/
def Phase.overtake (accountId : UUID) (disabled : Bool) : Phase → Phase
  | .calling operation session overtaken =>
    .calling operation session (if session.loaded.id = accountId then disabled else overtaken)
  | .changed session overtaken =>
    .changed session (if session.loaded.id = accountId then disabled else overtaken)
  | .written session overtaken =>
    .written session (if session.loaded.id = accountId then disabled else overtaken)
  | phase => phase

def World.recordSwitch (w : World) (accountId : UUID) (disabled : Bool) : World :=
  { w with
    phase := fun request => (w.phase request).overtake accountId disabled
    switch := Function.update w.switch accountId (some disabled) }

/-- The request's own failure ends it without a write. -/
def World.orAbort {α : Type} (w : World) (request : Nat) (result : Except AccountError α)
    (next : α → World) : World :=
  match result with
  | .error _ => w.finish request
  | .ok value => next value

def applyWrite (w : World) (session : Session BotAccount) : Option AccountTable :=
  (w.accounts.find session.loaded.id).map fun stored => w.accounts.save (writeChanged session stored)

def step (w : World) : Action → Option World
  | .start request operation accountId =>
    match w.phase request with
    | .idle => some (w.orAbort request (operation.start w.directory accountId) fun session =>
        w.to request (.calling operation session false))
    | _ => none
  | .startQr request connectionId =>
    match w.phase request with
    | .idle => some (w.orAbort request (beginQrCode w.directory connectionId) fun _ =>
        w.to request (.callingQr connectionId))
    | _ => none
  | .startSwitch request accountId disabled =>
    match w.phase request with
    | .idle => some (w.orAbort request (accountConnection w.directory accountId) fun _ =>
        w.to request (.switching accountId disabled))
    | _ => none
  | .answer request answer now =>
    match w.phase request with
    | .calling operation session overtaken =>
      (operation.finish session.current now answer).map fun result =>
        w.orAbort request result fun current =>
          w.to request (.changed { session with current := current } overtaken)
    | _ => none
  | .answerQr request qr now newId =>
    match w.phase request with
    | .callingQr connectionId => some (w.orAbort request
        (finishQrCode w.accounts connectionId qr now newId) fun found =>
          match found with
          | .inl account => w.to request (.inserting account)
          | .inr session => w.to request (.changed session false))
    | _ => none
  | .flush request =>
    match w.phase request with
    | .changed session overtaken =>
      if w.lockFree request session.loaded.id then
        some { w.to request (.written session overtaken) with
          lock := Function.update w.lock session.loaded.id (some request) }
      else none
    | _ => none
  | .lockRow request =>
    match w.phase request with
    | .switching accountId disabled =>
      if w.lockFree request accountId then
        (w.accounts.find accountId).map fun account =>
          { w.to request (.switched ⟨account, setDisabled account disabled⟩ disabled) with
            lock := Function.update w.lock accountId (some request) }
      else none
    | _ => none
  | .commit request =>
    match w.phase request with
    | .written session _ =>
      (applyWrite w session).map fun accounts => { w.finish request with accounts := accounts }
    | .switched session disabled =>
      (applyWrite w session).map fun accounts =>
        { (w.finish request).recordSwitch session.loaded.id disabled with accounts := accounts }
    | .inserting account =>
      if (findByAppId w.accounts account.geweConnectionId account.appId).isSome then
        some (w.finish request)
      else (w.accounts.insert account).map fun accounts =>
        { w.finish request with accounts := accounts }
    | _ => none
  | .abort request => some (w.finish request)

/-- No request is being served, and nothing has been switched yet. -/
def atRest (accounts : AccountTable) (geweConnection : UUID → Option GeweConnection)
    (decrypt : Str → Option Str) : World where
  accounts := accounts
  geweConnection := geweConnection
  decrypt := decrypt
  lock := fun _ => none
  phase := fun _ => .idle
  switch := fun _ => none

/-- The UPDATE of a status operation does not change the status it loaded, or no
`set_disabled(true)` committed between its load of the account and this UPDATE without
being taken back. -/
def NotOvertaken (w : World) : Action → Prop
  | .flush request =>
    match w.phase request with
    | .changed session overtaken =>
      session.current.status ≠ session.loaded.status → overtaken = false
    | _ => True
  | _ => True

instance (w : World) (a : Action) : Decidable (NotOvertaken w a) := by
  unfold NotOvertaken
  cases a with
  | flush request =>
    simp only
    split
    · infer_instance
    · infer_instance
  | _ => exact isTrue trivial

/-- Every account whose last committed switch is `set_disabled(true)` is disabled. -/
def DisableKept (w : World) : Prop :=
  ∀ accountId, w.switch accountId = some true →
    ∃ account, w.accounts.find accountId = some account ∧ account.status = .DISABLED

/-- The session of a status operation, and whether it was overtaken. -/
def Phase.session : Phase → Option (Session BotAccount × Bool)
  | .calling _ session overtaken => some (session, overtaken)
  | .changed session overtaken => some (session, overtaken)
  | .written session overtaken => some (session, overtaken)
  | _ => none

/-- Where the session of a phase comes from: it is the request's earlier one, or it has just
loaded a row that is not disabled. -/
def Sourced (w : World) (request : Nat) (phase : Phase) : Prop :=
  ∀ session overtaken, phase.session = some (session, overtaken) →
    (w.accounts.find session.loaded.id = some session.loaded ∧
        session.loaded.status ≠ .DISABLED ∧ overtaken = false) ∨
      ∃ earlier, (w.phase request).session = some (earlier, overtaken) ∧
        earlier.loaded = session.loaded

def World.locked (w : World) (request : Nat) (accountId : UUID) (phase : Phase) : World :=
  { w.to request phase with lock := Function.update w.lock accountId (some request) }

inductive Effect (w : World) : Action → World → Prop where
  | finished (a : Action) (request : Nat) : Effect w a (w.finish request)
  | moved (a : Action) (request : Nat) (phase : Phase) : (w.phase request).holds = none →
      phase.holds = none → Sourced w request phase → Effect w a (w.to request phase)
  | flushed (request : Nat) (session : Session BotAccount) (overtaken : Bool) :
      w.phase request = .changed session overtaken → w.lockFree request session.loaded.id →
      Effect w (.flush request) (w.locked request session.loaded.id (.written session overtaken))
  | refreshed (a : Action) (request : Nat) (account : BotAccount) (disabled : Bool) :
      w.phase request = .switching account.id disabled → w.lockFree request account.id →
      w.accounts.find account.id = some account →
      Effect w a (w.locked request account.id
        (.switched ⟨account, setDisabled account disabled⟩ disabled))
  | wrote (a : Action) (request : Nat) (session : Session BotAccount) (overtaken : Bool)
      (stored : BotAccount) : w.phase request = .written session overtaken →
      w.accounts.find session.loaded.id = some stored →
      Effect w a { w.finish request with accounts := w.accounts.save (writeChanged session stored) }
  | set (a : Action) (request : Nat) (session : Session BotAccount) (disabled : Bool)
      (stored : BotAccount) : w.phase request = .switched session disabled →
      w.accounts.find session.loaded.id = some stored →
      Effect w a { (w.finish request).recordSwitch session.loaded.id disabled with
        accounts := w.accounts.save (writeChanged session stored) }
  | inserted (a : Action) (request : Nat) (account : BotAccount) (accounts : AccountTable) :
      w.phase request = .inserting account → w.accounts.insert account = some accounts →
      Effect w a { w.finish request with accounts := accounts }

theorem orAbort_effect {α : Type} {w : World} {a : Action} {request : Nat}
    {result : Except AccountError α} {next : α → World}
    (h : ∀ value, result = .ok value → Effect w a (next value)) :
    Effect w a (w.orAbort request result next) := by
  cases result with
  | error error => exact .finished a request
  | ok value => exact h value rfl

/-- Every step has one of the effects of `Effect`. -/
theorem step_effect {w w' : World} {a : Action} (h : step w a = some w') : Effect w a w' := by
  cases a with
  | start request operation accountId =>
    simp only [step] at h
    split at h
    · rename_i hidle
      cases h
      refine orAbort_effect fun session hstart => .moved _ request _ (by rw [hidle]; rfl) rfl ?_
      intro other overtaken hsession
      cases hsession
      obtain ⟨hfind, henabled, -⟩ := start_ok hstart
      have hid := Table.find_key hfind
      exact .inl ⟨hid ▸ hfind, henabled, rfl⟩
    · cases h
  | startQr request connectionId =>
    simp only [step] at h
    split at h
    · rename_i hidle
      cases h
      exact orAbort_effect fun token _ => .moved _ request _ (by rw [hidle]; rfl) rfl (by
        intro session overtaken hsession
        cases hsession)
    · cases h
  | startSwitch request accountId disabled =>
    simp only [step] at h
    split at h
    · rename_i hidle
      cases h
      exact orAbort_effect fun pair _ => .moved _ request _ (by rw [hidle]; rfl) rfl (by
        intro session overtaken hsession
        cases hsession)
    · cases h
  | answer request answer now =>
    simp only [step] at h
    split at h
    · rename_i operation session overtaken hcalling
      obtain ⟨result, -, rfl⟩ := Option.map_eq_some_iff.mp h
      refine orAbort_effect fun current _ => .moved _ request _ (by rw [hcalling]; rfl) rfl ?_
      intro other flag hsession
      cases hsession
      exact .inr ⟨session, by rw [hcalling]; rfl, rfl⟩
    · cases h
  | answerQr request qr now newId =>
    simp only [step] at h
    split at h
    · rename_i connectionId hcalling
      cases h
      refine orAbort_effect fun found hfound => ?_
      cases found with
      | inl account =>
        exact .moved _ request _ (by rw [hcalling]; rfl) rfl (by
          intro session overtaken hsession
          cases hsession)
      | inr session =>
        refine .moved _ request _ (by rw [hcalling]; rfl) rfl ?_
        intro other overtaken hsession
        cases hsession
        obtain ⟨hfind, henabled⟩ := finishQrCode_session hfound
        exact .inl ⟨hfind, henabled, rfl⟩
    · cases h
  | flush request =>
    simp only [step] at h
    split at h
    · rename_i session overtaken hchanged
      split at h
      · rename_i hfree
        cases h
        exact .flushed request session overtaken hchanged hfree
      · cases h
    · cases h
  | lockRow request =>
    simp only [step] at h
    split at h
    · rename_i accountId disabled hswitching
      split at h
      · rename_i hfree
        obtain ⟨account, hfind, rfl⟩ := Option.map_eq_some_iff.mp h
        have hid : account.id = accountId := Table.find_key hfind
        subst hid
        exact .refreshed _ request account disabled hswitching hfree hfind
      · cases h
    · cases h
  | commit request =>
    simp only [step, applyWrite, Option.map_map] at h
    split at h
    · rename_i session overtaken hwritten
      obtain ⟨stored, hfind, rfl⟩ := Option.map_eq_some_iff.mp h
      exact .wrote _ request session overtaken stored hwritten hfind
    · rename_i session disabled hswitched
      obtain ⟨stored, hfind, rfl⟩ := Option.map_eq_some_iff.mp h
      exact .set _ request session disabled stored hswitched hfind
    · rename_i account hinserting
      split at h
      · cases h
        exact .finished _ request
      · obtain ⟨accounts, hinsert, rfl⟩ := Option.map_eq_some_iff.mp h
        exact .inserted _ request account accounts hinserting hinsert
    · cases h
  | abort request =>
    cases h
    exact .finished _ request

structure Inv (w : World) : Prop where
  kept : DisableKept w
  /-- A request that has written or refreshed a row holds its lock. -/
  owned : ∀ request accountId, (w.phase request).holds = some accountId →
    w.lock accountId = some request
  enabled : ∀ request session, (w.phase request).session = some (session, false) →
    w.switch session.loaded.id ≠ some true
  clean : ∀ request session overtaken, w.phase request = .written session overtaken →
    session.current.status ≠ session.loaded.status → overtaken = false
  fresh : ∀ request session disabled, w.phase request = .switched session disabled →
    w.accounts.find session.loaded.id = some session.loaded ∧
      session.current = setDisabled session.loaded disabled

theorem inv_atRest (accounts : AccountTable) (geweConnection : UUID → Option GeweConnection)
    (decrypt : Str → Option Str) : Inv (atRest accounts geweConnection decrypt) where
  kept := by
    intro accountId h
    cases h
  owned := by
    intro request accountId h
    cases h
  enabled := by
    intro request session h
    cases h
  clean := by
    intro request session overtaken h
    cases h
  fresh := by
    intro request session disabled h
    cases h

/-- Two requests hold different locks. -/
theorem Inv.exclusive {w : World} (h : Inv w) {request other : Nat} {accountId : UUID}
    (hrequest : (w.phase request).holds = some accountId)
    (hother : (w.phase other).holds = some accountId) : request = other :=
  Option.some.inj ((h.owned request accountId hrequest).symm.trans
    (h.owned other accountId hother))

theorem phase_of_to {w : World} {request other : Nat} {phase : Phase} :
    (w.to request phase).phase other = if other = request then phase else w.phase other := by
  simp [World.to, Function.update_apply]

theorem phase_of_finish {w : World} {request other : Nat} :
    (w.finish request).phase other = if other = request then .idle else w.phase other := by
  simp [World.finish, Function.update_apply]

/-- A property of the phases that an idle request has trivially survives the end of a
request. -/
theorem phase_finished {w : World} {request other : Nat} {phase : Phase}
    (h : (w.finish request).phase other = phase) (hphase : phase ≠ .idle) :
    other ≠ request ∧ w.phase other = phase := by
  rw [phase_of_finish] at h
  split at h
  · exact absurd h.symm hphase
  · rename_i hne
    exact ⟨hne, h⟩

/-- A request that ends leaves the locks of the others. -/
theorem owned_finish {w : World} (h : Inv w) (request : Nat) (other : Nat) (accountId : UUID)
    (hholds : ((w.finish request).phase other).holds = some accountId) :
    (w.finish request).lock accountId = some other := by
  rw [phase_of_finish] at hholds
  split at hholds
  · cases hholds
  · rename_i hne
    have hnot : (w.phase request).holds ≠ some accountId := fun hrequest =>
      hne (h.exclusive hholds hrequest)
    simp only [World.finish, if_neg hnot]
    exact h.owned other accountId hholds

theorem session_finish {w : World} {request other : Nat} {pair : Session BotAccount × Bool}
    (h : ((w.finish request).phase other).session = some pair) :
    (w.phase other).session = some pair := by
  rw [phase_of_finish] at h
  split at h
  · cases h
  · exact h

/-- A request that ends keeps the invariant. -/
theorem inv_finish {w : World} (h : Inv w) (request : Nat) : Inv (w.finish request) where
  kept := h.kept
  owned := owned_finish h request
  enabled := fun other session hsession => h.enabled other session (session_finish hsession)
  clean := fun other session overtaken hphase =>
    h.clean other session overtaken (phase_finished hphase (by simp)).2
  fresh := fun other session disabled hphase =>
    h.fresh other session disabled (phase_finished hphase (by simp)).2

/-- A session that has just loaded an enabled row finds no disable in force. -/
theorem Inv.enabled_of_sourced {w : World} (h : Inv w) {request : Nat} {phase : Phase}
    (hsourced : Sourced w request phase) (session : Session BotAccount)
    (hsession : phase.session = some (session, false)) :
    w.switch session.loaded.id ≠ some true := by
  rcases hsourced session false hsession with ⟨hfind, henabled, -⟩ | ⟨earlier, hearlier, hloaded⟩
  · intro hswitch
    obtain ⟨account, haccount, hstatus⟩ := h.kept _ hswitch
    rw [hfind] at haccount
    cases haccount
    exact henabled hstatus
  · rw [← hloaded]
    exact h.enabled request earlier hearlier

/-- A request that moves on without a lock keeps the invariant. -/
theorem inv_to {w : World} (h : Inv w) {request : Nat} {phase : Phase}
    (hholds : phase.holds = none) (hsourced : Sourced w request phase) :
    Inv (w.to request phase) where
  kept := h.kept
  owned := by
    intro other accountId hother
    rw [phase_of_to] at hother
    split at hother
    · rw [hholds] at hother
      cases hother
    · exact h.owned other accountId hother
  enabled := by
    intro other session hsession
    rw [phase_of_to] at hsession
    split at hsession
    · exact h.enabled_of_sourced hsourced session hsession
    · exact h.enabled other session hsession
  clean := by
    intro other session overtaken hphase
    rw [phase_of_to] at hphase
    split at hphase
    · rw [hphase] at hholds
      cases hholds
    · exact h.clean other session overtaken hphase
  fresh := by
    intro other session disabled hphase
    rw [phase_of_to] at hphase
    split at hphase
    · rw [hphase] at hholds
      cases hholds
    · exact h.fresh other session disabled hphase

/-- Taking a free lock: what the new phase owes is what the invariant asks of it. -/
theorem inv_locked {w : World} (h : Inv w) {request : Nat} {accountId : UUID} {phase : Phase}
    (hfree : w.lockFree request accountId) (hholds : phase.holds = some accountId)
    (henabled : ∀ session, phase.session = some (session, false) →
      w.switch session.loaded.id ≠ some true)
    (hclean : ∀ session overtaken, phase = .written session overtaken →
      session.current.status ≠ session.loaded.status → overtaken = false)
    (hfresh : ∀ session disabled, phase = .switched session disabled →
      w.accounts.find session.loaded.id = some session.loaded ∧
        session.current = setDisabled session.loaded disabled) :
    Inv (w.locked request accountId phase) where
  kept := h.kept
  owned := by
    intro other id hother
    change ((w.to request phase).phase other).holds = some id at hother
    change Function.update w.lock accountId (some request) id = some other
    rw [phase_of_to] at hother
    split at hother
    · rename_i heq
      rw [hholds] at hother
      cases hother
      rw [Function.update_self, heq]
    · rename_i hne
      have howner := h.owned other id hother
      have hapart : id ≠ accountId := by
        rintro rfl
        rcases hfree with hfree | hfree
        · rw [hfree] at howner
          cases howner
        · rw [hfree] at howner
          exact hne (Option.some.inj howner).symm
      rw [Function.update_of_ne hapart]
      exact howner
  enabled := by
    intro other session hsession
    change ((w.to request phase).phase other).session = some (session, false) at hsession
    rw [phase_of_to] at hsession
    split at hsession
    · exact henabled session hsession
    · exact h.enabled other session hsession
  clean := by
    intro other session overtaken hphase
    change (w.to request phase).phase other = .written session overtaken at hphase
    rw [phase_of_to] at hphase
    split at hphase
    · exact hclean session overtaken hphase
    · exact h.clean other session overtaken hphase
  fresh := by
    intro other session disabled hphase
    change (w.to request phase).phase other = .switched session disabled at hphase
    rw [phase_of_to] at hphase
    split at hphase
    · exact hfresh session disabled hphase
    · exact h.fresh other session disabled hphase

theorem id_writeChanged (session : Session BotAccount) (stored : BotAccount) :
    (writeChanged session stored).id = stored.id := rfl

/-- The UPDATE of a session changes the row it loaded and no other. -/
theorem find_written {accounts : AccountTable} {session : Session BotAccount} {stored : BotAccount}
    (hfind : accounts.find session.loaded.id = some stored) (accountId : UUID) :
    (accounts.save (writeChanged session stored)).find accountId =
      if accountId = session.loaded.id then some (writeChanged session stored)
      else accounts.find accountId := by
  have hid : stored.id = session.loaded.id := Table.find_key hfind
  rw [Table.find_save_of (r := stored) (by rw [id_writeChanged, hid, hfind]), id_writeChanged, hid]

/-- A write keeps the invariant when it was not overtaken. -/
theorem inv_wrote {w : World} (h : Inv w) {request : Nat} {session : Session BotAccount}
    {overtaken : Bool} {stored : BotAccount} (hphase : w.phase request = .written session overtaken)
    (hfind : w.accounts.find session.loaded.id = some stored) :
    Inv { w.finish request with accounts := w.accounts.save (writeChanged session stored) } where
  kept := by
    intro accountId hswitch
    change w.switch accountId = some true at hswitch
    obtain ⟨account, haccount, hstatus⟩ := h.kept accountId hswitch
    change ∃ account, (w.accounts.save (writeChanged session stored)).find accountId = some account ∧ _
    rw [find_written hfind]
    by_cases hid : accountId = session.loaded.id
    · subst hid
      rw [hfind] at haccount
      cases haccount
      -- the session was not overtaken if it changes the status, and then no disable is in force
      have hsame : session.current.status = session.loaded.status := by
        by_contra hchanged
        have hclean := h.clean request session overtaken hphase hchanged
        subst hclean
        exact h.enabled request session (by rw [hphase]; rfl) hswitch
      refine ⟨writeChanged session stored, if_pos rfl, ?_⟩
      exact (column_of_unchanged hsame stored.status).trans hstatus
    · rw [if_neg hid]
      exact ⟨account, haccount, hstatus⟩
  owned := owned_finish h request
  enabled := fun other another hsession => h.enabled other another (session_finish hsession)
  clean := fun other another flag hother =>
    h.clean other another flag (phase_finished hother (by simp)).2
  fresh := by
    intro other another disabled hother
    obtain ⟨hne, hother⟩ := phase_finished hother (by simp)
    obtain ⟨hloaded, hcurrent⟩ := h.fresh other another disabled hother
    have hapart : another.loaded.id ≠ session.loaded.id := by
      intro heq
      have hholds : (w.phase other).holds = some session.loaded.id := by rw [hother, ← heq]; rfl
      exact hne (h.exclusive hholds (by rw [hphase]; rfl))
    refine ⟨?_, hcurrent⟩
    change (w.accounts.save (writeChanged session stored)).find another.loaded.id = _
    rw [find_written hfind, if_neg hapart]
    exact hloaded

/-- A new account keeps the invariant. -/
theorem inv_inserted {w : World} (h : Inv w) {request : Nat} {account : BotAccount}
    {accounts : AccountTable} (hinsert : w.accounts.insert account = some accounts) :
    Inv { w.finish request with accounts := accounts } := by
  have hkeeps : ∀ accountId row, w.accounts.find accountId = some row →
      accounts.find accountId = some row := by
    intro accountId row hrow
    rw [Table.find_insert hinsert]
    split
    · rename_i heq
      rw [heq, Table.insert_fresh hinsert] at hrow
      cases hrow
    · exact hrow
  constructor
  · intro accountId hswitch
    obtain ⟨row, hrow, hstatus⟩ := h.kept accountId hswitch
    exact ⟨row, hkeeps accountId row hrow, hstatus⟩
  · exact owned_finish h request
  · exact fun other session hsession => h.enabled other session (session_finish hsession)
  · exact fun other session overtaken hother =>
      h.clean other session overtaken (phase_finished hother (by simp)).2
  · intro other session disabled hother
    obtain ⟨hloaded, hcurrent⟩ := h.fresh other session disabled (phase_finished hother (by simp)).2
    exact ⟨hkeeps _ _ hloaded, hcurrent⟩

theorem holds_overtake (accountId : UUID) (disabled : Bool) (phase : Phase) :
    (phase.overtake accountId disabled).holds = phase.holds := by
  cases phase <;> rfl

theorem session_overtake (accountId : UUID) (disabled : Bool) (phase : Phase) :
    (phase.overtake accountId disabled).session = phase.session.map fun pair =>
      (pair.1, if pair.1.loaded.id = accountId then disabled else pair.2) := by
  cases phase <;> rfl

theorem overtake_written {accountId : UUID} {disabled : Bool} {phase : Phase}
    {session : Session BotAccount} {overtaken : Bool}
    (h : phase.overtake accountId disabled = .written session overtaken) :
    ∃ earlier, phase = .written session earlier ∧
      overtaken = if session.loaded.id = accountId then disabled else earlier := by
  cases phase with
  | written other earlier =>
    cases h
    exact ⟨earlier, rfl, rfl⟩
  | _ => cases h

theorem overtake_switched {accountId : UUID} {disabled flag : Bool} {phase : Phase}
    {session : Session BotAccount}
    (h : phase.overtake accountId disabled = .switched session flag) :
    phase = .switched session flag := by
  cases phase with
  | switched other earlier => exact h
  | _ => cases h

theorem status_setDisabled (account : BotAccount) :
    (setDisabled account true).status = .DISABLED := rfl

/-- The row was refreshed under its lock, so the switch writes its own status. -/
theorem inv_set {w : World} (h : Inv w) {request : Nat} {session : Session BotAccount}
    {disabled : Bool} {stored : BotAccount} (hphase : w.phase request = .switched session disabled)
    (hfind : w.accounts.find session.loaded.id = some stored) :
    Inv { (w.finish request).recordSwitch session.loaded.id disabled with
      accounts := w.accounts.save (writeChanged session stored) } where
  kept := by
    intro accountId hswitch
    change Function.update w.switch session.loaded.id (some disabled) accountId = some true at hswitch
    change ∃ account, (w.accounts.save (writeChanged session stored)).find accountId = some account ∧ _
    rw [find_written hfind]
    by_cases hid : accountId = session.loaded.id
    · rw [hid, Function.update_self] at hswitch
      have hdisabled : disabled = true := Option.some.inj hswitch
      obtain ⟨hloaded, hcurrent⟩ := h.fresh request session disabled hphase
      have hstored : stored = session.loaded := Option.some.inj (hfind.symm.trans hloaded)
      refine ⟨_, if_pos hid, ?_⟩
      have hwritten := column_of_fresh (congrArg BotAccount.status hstored) session.current.status
      exact hwritten.trans (by rw [hcurrent, hdisabled, status_setDisabled])
    · rw [Function.update_of_ne hid] at hswitch
      rw [if_neg hid]
      exact h.kept accountId hswitch
  owned := by
    intro other accountId hother
    change (((w.finish request).phase other).overtake session.loaded.id disabled).holds =
      some accountId at hother
    rw [holds_overtake] at hother
    exact owned_finish h request other accountId hother
  enabled := by
    intro other another hsession
    change (((w.finish request).phase other).overtake session.loaded.id disabled).session =
      some (another, false) at hsession
    change Function.update w.switch session.loaded.id (some disabled) another.loaded.id ≠ some true
    rw [session_overtake] at hsession
    obtain ⟨⟨earlier, overtaken⟩, hearlier, heq⟩ := Option.map_eq_some_iff.mp hsession
    obtain ⟨rfl, hflag⟩ := Prod.mk.inj heq
    simp only at hflag
    by_cases hid : earlier.loaded.id = session.loaded.id
    · rw [if_pos hid] at hflag
      rw [hid, Function.update_self, hflag]
      simp
    · rw [if_neg hid] at hflag
      rw [Function.update_of_ne hid]
      exact h.enabled other earlier (hflag ▸ session_finish hearlier)
  clean := by
    intro other another overtaken hother hchanged
    change ((w.finish request).phase other).overtake session.loaded.id disabled =
      .written another overtaken at hother
    obtain ⟨earlier, hwritten, hflag⟩ := overtake_written hother
    obtain ⟨hne, hwritten⟩ := phase_finished hwritten (by simp)
    have hapart : another.loaded.id ≠ session.loaded.id := by
      intro heq
      have hholds : (w.phase other).holds = some session.loaded.id := by rw [hwritten, ← heq]; rfl
      exact hne (h.exclusive hholds (by rw [hphase]; rfl))
    rw [hflag, if_neg hapart]
    exact h.clean other another earlier hwritten hchanged
  fresh := by
    intro other another flag hother
    change ((w.finish request).phase other).overtake session.loaded.id disabled =
      .switched another flag at hother
    obtain ⟨hne, hswitched⟩ := phase_finished (overtake_switched hother) (by simp)
    obtain ⟨hloaded, hcurrent⟩ := h.fresh other another flag hswitched
    have hapart : another.loaded.id ≠ session.loaded.id := by
      intro heq
      have hholds : (w.phase other).holds = some session.loaded.id := by rw [hswitched, ← heq]; rfl
      exact hne (h.exclusive hholds (by rw [hphase]; rfl))
    refine ⟨?_, hcurrent⟩
    change (w.accounts.save (writeChanged session stored)).find another.loaded.id = _
    rw [find_written hfind, if_neg hapart]
    exact hloaded

/-- Every step keeps the invariant unless it writes what was overtaken. -/
theorem inv_step {w w' : World} {a : Action} (h : Inv w) (hclean : NotOvertaken w a)
    (hstep : step w a = some w') : Inv w' := by
  cases step_effect hstep with
  | finished _ request => exact inv_finish h request
  | moved _ request phase _ hholds hsourced => exact inv_to h hholds hsourced
  | flushed request session overtaken hchanged hfree =>
    refine inv_locked h hfree rfl ?_ ?_ ?_
    · intro other hother
      cases hother
      exact h.enabled request session (by rw [hchanged]; rfl)
    · intro other flag hwritten hstatus
      cases hwritten
      simp only [NotOvertaken, hchanged] at hclean
      exact hclean hstatus
    · intro other flag hswitched
      cases hswitched
  | refreshed _ request account disabled hswitching hfree hfind =>
    refine inv_locked h hfree rfl ?_ ?_ ?_
    · intro other hother
      cases hother
    · intro other flag hwritten
      cases hwritten
    · intro other flag hswitched
      cases hswitched
      exact ⟨hfind, rfl⟩
  | wrote _ request session overtaken stored hphase hfind => exact inv_wrote h hphase hfind
  | set _ request session disabled stored hphase hfind => exact inv_set h hphase hfind
  | inserted _ request account accounts _ hinsert => exact inv_inserted h hinsert

/-- In every run in which no status operation writes a status over a disable that
committed since its load, a disabled account stays disabled until it is switched on. -/
theorem disable_kept (accounts : AccountTable) (geweConnection : UUID → Option GeweConnection)
    (decrypt : Str → Option Str) (as : List Action) (w : World)
    (hclean : Runs.EachStep step NotOvertaken (atRest accounts geweConnection decrypt) as)
    (hrun : Runs.run step (atRest accounts geweConnection decrypt) as = some w) : DisableKept w :=
  (Runs.run_invariant_of_each NotOvertaken Inv (fun _ _ _ h hc hs => inv_step h hc hs)
    (inv_atRest accounts geweConnection decrypt) hclean hrun).kept

def onlineAccount : BotAccount where
  __ := newQrAccount 2 3 (py "wx_app")
  status := .ONLINE

def sampleConnection : GeweConnection where
  id := 3
  workspaceId := 1
  apiBaseUrl := py "https://api.geweapi.com"
  tokenCiphertext := py "sealed"
  status := .ACTIVE

def sampleRest : World :=
  atRest ⟨[onlineAccount], by decide⟩ (fun id => if id = 3 then some sampleConnection else none)
    some

/-- Request 1 disables the account while request 0 asks the provider whether it is online. -/
def disabledDuringCheck (online : Bool) : List Action :=
  [.start 0 .checkOnline 2, .startSwitch 1 2 true, .lockRow 1, .commit 1,
    .answer 0 (.online online) 1000000, .flush 0, .commit 0]

def disabledRun (online : Bool) : Option World :=
  Runs.run step sampleRest (disabledDuringCheck online)

theorem disabledRun_isSome (online : Bool) : (disabledRun online).isSome = true := by
  cases online <;> decide +kernel

def disabledWorld (online : Bool) : World := (disabledRun online).get (disabledRun_isSome online)

theorem disabled_run (online : Bool) :
    Runs.run step sampleRest (disabledDuringCheck online) = some (disabledWorld online) :=
  (Option.some_get _).symm

/-- The answer "online" leaves the status as it was loaded, so the disable is kept. -/
theorem disable_kept_online : DisableKept (disabledWorld true) :=
  disable_kept _ _ _ (disabledDuringCheck true) _ (by decide +kernel) (disabled_run true)

/-- The answer "offline" overwrites the disable. -/
theorem offline_overwrites_disable :
    ∃ (as : List Action) (w : World), Runs.run step sampleRest as = some w ∧
      w.switch 2 = some true ∧ (w.accounts.find 2).map (·.status) = some .OFFLINE ∧
      ¬ DisableKept w := by
  have hstatus : ((disabledWorld false).accounts.find 2).map (·.status) = some .OFFLINE := by
    decide +kernel
  have hswitch : (disabledWorld false).switch 2 = some true := by decide +kernel
  refine ⟨disabledDuringCheck false, disabledWorld false, disabled_run false, hswitch, hstatus, ?_⟩
  intro hkept
  obtain ⟨account, hfind, hdisabled⟩ := hkept 2 hswitch
  rw [hfind, Option.map_some, hdisabled] at hstatus
  cases hstatus

end WechatBot.AccountDisable
