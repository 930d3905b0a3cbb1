import WechatBot.SessionEffects
/-!
# When a session is valid

The history of a sequential run, with the database before and after each request. A token
that is accepted was issued in this history, neither of its two times has passed, and
nothing since then has ended its session.
-/

namespace WechatBot.SessionValidity

open PyData ReadCommitted AuthModels AdminRbac AuthService OwnerSafety SessionEffects
open UniqueTables (UniqueTable)

inductive Request where
  | login (request : LoginRequest) (id : UUID) (token csrfToken : Str) (salt : Nat)
  | authenticate (token : Str)
  | revoke (context : AuthContext) (reason : Str)
  | administer (operation : Operation)

inductive Response where
  | login (result : Except AuthError LoginResult)
  | authenticated (result : Except AuthError AuthContext)
  | done

def Request.program (env : Environment) (now : Time) : Request → Transaction Response
  | login request id token csrfToken salt => do
    return .login (← AuthService.login env request id token csrfToken salt now)
  | authenticate token => do
    return .authenticated (← authenticateSession env token now)
  | revoke context reason => do
    revokeSession context reason now
    return .done
  | administer operation => do
    operation.program env now
    return .done

/-- One request of a run: its time, its response or its exception, and the database. -/
structure Record where
  time : Time
  request : Request
  before : Database
  response : Except AuthError Response
  after : Database

/-- A request that raises leaves the database as it was. -/
def record (env : Environment) (time : Time) (request : Request) (d : Database) : Record :=
  match (request.program env time).alone d with
  | .ok (response, after) => ⟨time, request, d, .ok response, after⟩
  | .error e => ⟨time, request, d, .error e, d⟩

def history (env : Environment) : Database → List (Time × Request) → List Record
  | _, [] => []
  | d, (time, request) :: events =>
    let entry := record env time request d
    entry :: history env entry.after events

/-- The request has issued the session to the user. -/
def Issues (entry : Record) (sessionId userId : UUID) (token : Str) : Prop :=
  ∃ result, entry.response = .ok (.login (.ok result)) ∧
    result.issuedSession.sessionId = sessionId ∧ result.principal.userId = userId ∧
    result.issuedSession.token = token

/-- The request is a successful authentication of the session. -/
def Record.uses (entry : Record) (sessionId : UUID) : Bool :=
  match entry.response with
  | .ok (.authenticated (.ok context)) => decide (context.principal.sessionId = sessionId)
  | _ => false

/-- The request is a logout of the session. -/
def LogsOut (entry : Record) (sessionId : UUID) : Prop :=
  ∃ context reason, entry.request = .revoke context reason ∧ entry.response = .ok .done ∧
    context.principal.sessionId = sessionId

/-- The time of the last use of a session, or of its issue. -/
def lastUse (issued : Time) (sessionId : UUID) (since : List Record) : Time :=
  since.foldl (fun last entry => if entry.uses sessionId then entry.time else last) issued

/-- Nothing in the request ends the sessions of the user, or this one. -/
structure Undisturbed (sessionId userId : UUID) (entry : Record) : Prop where
  logout : ¬ LogsOut entry sessionId
  account : Unaffected entry.before entry.after userId

/-- How a session comes out of a request. -/
structure Continues (env : Environment) (entry : Record) (s s' : AdminSession) : Prop where
  id : s'.id = s.id
  user : s'.userId = s.userId
  hash : s'.tokenHash = s.tokenHash
  absolute : s'.absoluteExpiresAt = s.absoluteExpiresAt
  idle : if entry.uses s.id then
      s'.idleExpiresAt ≤ entry.time + env.settings.authSessionIdleSeconds * second
    else s'.idleExpiresAt = s.idleExpiresAt
  undisturbed : s'.revokedAt = none → s.revokedAt = none ∧ Undisturbed s.id s.userId entry

/-- A session that the request has issued. -/
structure Begins (env : Environment) (entry : Record) (s : AdminSession) : Prop where
  issues : ∃ token, Issues entry s.id s.userId token ∧
    (env.utf8 token).map env.sha256 = some s.tokenHash
  absolute : s.absoluteExpiresAt = entry.time + env.settings.authSessionAbsoluteSeconds * second
  idle : s.idleExpiresAt ≤ entry.time + env.settings.authSessionIdleSeconds * second

/-- Each session belongs to a stored user. -/
def Owned (d : Database) : Prop := ∀ s ∈ d.sessions.rows, (d.users.find s.userId).isSome

/-- What a request leaves in the database. -/
structure Leaves (env : Environment) (entry : Record) : Prop where
  sessions : ∀ s' ∈ entry.after.sessions.rows, Begins env entry s' ∨
    ∃ s ∈ entry.before.sessions.rows, Continues env entry s s'
  owned : Owned entry.after

variable {env : Environment} {entry : Record} {s s' : AdminSession} {d e : Database} {time : Time}

/-- A session that the request does not touch. -/
theorem continues_same (huses : entry.uses s.id = false)
    (hundisturbed : s.revokedAt = none → Undisturbed s.id s.userId entry) :
    Continues env entry s s where
  id := rfl
  user := rfl
  hash := rfl
  absolute := rfl
  idle := by simp [huses]
  undisturbed h := ⟨h, hundisturbed h⟩

/-- A session that the request ends. -/
theorem continues_ended {reason : Str} (huses : entry.uses s.id = false) :
    Continues env entry s { s with revokedAt := some time, revokedReason := some reason } where
  id := rfl
  user := rfl
  hash := rfl
  absolute := rfl
  idle := by simp [huses]
  undisturbed := nofun

/-- The users of the sessions stay when the sessions are old ones. -/
theorem owned_after (howned : Owned d) (hpersist : ∀ u, (d.users.find u).isSome →
    (e.users.find u).isSome) (hold : ∀ s' ∈ e.sessions.rows, ∃ s ∈ d.sessions.rows,
      s'.userId = s.userId) : Owned e := by
  intro s' hs'
  obtain ⟨s, hs, huser⟩ := hold s' hs'
  rw [huser]
  exact hpersist s.userId (howned s hs)

theorem login_leaves {request : LoginRequest} {id : UUID} {token csrfToken : Str} {salt : Nat}
    {result : Except AuthError LoginResult} (howned : Owned d)
    (h : (AuthService.login env request id token csrfToken salt time).alone d = .ok (result, e)) :
    Leaves env ⟨time, .login request id token csrfToken salt, d, .ok (.login result), e⟩ := by
  obtain ⟨haccounts, hresult⟩ := login_effect h
  have hsame : ∀ s : AdminSession, Continues env
      ⟨time, .login request id token csrfToken salt, d, .ok (.login result), e⟩ s s := fun s =>
    continues_same rfl fun _ => ⟨by simp [LogsOut], haccounts.unaffected s.userId⟩
  obtain ⟨error, rfl, hsessions⟩ | ⟨login, session, rfl, hissued, huser, hinsert⟩ := hresult
  · constructor
    · intro s hs
      exact .inr ⟨s, hsessions ▸ hs, hsame s⟩
    · apply owned_after howned (fun u => haccounts.persist)
      intro s hs
      exact ⟨s, hsessions ▸ hs, rfl⟩
  · constructor
    · intro s hs
      obtain hold | rfl := (UniqueTable.mem_insert hinsert).1 hs
      · exact .inr ⟨s, hold, hsame s⟩
      · exact .inl ⟨⟨_, ⟨login, rfl, hissued.id.symm, hissued.user.symm, rfl⟩, hissued.hash⟩,
          hissued.absolute, hissued.idle⟩
    · intro s hs
      apply haccounts.persist
      obtain hold | rfl := (UniqueTable.mem_insert hinsert).1 hs
      · exact howned s hold
      · exact huser

theorem authenticate_leaves {token : Str} {result : Except AuthError AuthContext}
    (howned : Owned d) (h : (authenticateSession env token time).alone d = .ok (result, e)) :
    Leaves env ⟨time, .authenticate token, d, .ok (.authenticated result), e⟩ := by
  obtain ⟨haccounts, hresult⟩ := authenticateSession_effect h
  have hundisturbed : ∀ s : AdminSession, Undisturbed s.id s.userId
      ⟨time, .authenticate token, d, .ok (.authenticated result), e⟩ := fun s =>
    ⟨by simp [LogsOut], haccounts.unaffected s.userId⟩
  cases hresult with
  | used context session hmem hcontext huser hhash hopen habsolute hidle hsessions =>
    constructor
    · intro s' hs'
      rw [hsessions] at hs'
      obtain ⟨s, hs, rfl⟩ := List.mem_map.1 hs'
      refine .inr ⟨s, hs, ?_⟩
      by_cases hid : s.id = session.id
      · rw [if_pos hid]
        refine ⟨rfl, rfl, rfl, rfl, ?_, fun hnone => ⟨hnone, hundisturbed s⟩⟩
        rw [if_pos (by simp [Record.uses, hcontext, hid])]
        exact min_le_left _ _
      · rw [if_neg hid]
        apply continues_same _ fun _ => hundisturbed s
        simpa [Record.uses, hcontext] using Ne.symm hid
    · apply owned_after howned (fun u => haccounts.persist)
      intro s' hs'
      rw [hsessions] at hs'
      obtain ⟨s, hs, rfl⟩ := List.mem_map.1 hs'
      refine ⟨s, hs, ?_⟩
      split <;> rfl
  | refused error ended reason hsessions =>
    constructor
    · intro s' hs'
      rw [hsessions] at hs'
      obtain ⟨s, hs, rfl⟩ := List.mem_map.1 hs'
      refine .inr ⟨s, hs, ?_⟩
      by_cases hended : ended s.id = true
      · rw [if_pos hended]
        exact continues_ended rfl
      · rw [if_neg hended]
        exact continues_same rfl fun _ => hundisturbed s
    · apply owned_after howned (fun u => haccounts.persist)
      intro s' hs'
      rw [hsessions] at hs'
      obtain ⟨s, hs, rfl⟩ := List.mem_map.1 hs'
      refine ⟨s, hs, ?_⟩
      split <;> rfl

theorem revoke_leaves {context : AuthContext} {reason : Str} {u : Unit} (howned : Owned d)
    (h : (revokeSession context reason time).alone d = .ok (u, e)) :
    Leaves env ⟨time, .revoke context reason, d, .ok .done, e⟩ := by
  obtain ⟨haccounts, change, hsessions, hchange⟩ := revokeSession_effect h
  constructor
  · intro s' hs'
    rw [hsessions] at hs'
    obtain ⟨s, hs, rfl⟩ := List.mem_map.1 hs'
    refine .inr ⟨s, hs, ?_⟩
    obtain ⟨hid, ⟨hended, hsame⟩ | hrevoked⟩ | ⟨hid, hsame⟩ := hchange s hs
    · rw [hsame]
      exact continues_same rfl fun hnone => absurd hnone hended
    · rw [hrevoked]
      exact continues_ended rfl
    · rw [hsame]
      refine continues_same rfl fun _ => ⟨?_, haccounts.unaffected s.userId⟩
      rintro ⟨other, why, hrequest, -, hother⟩
      cases hrequest
      exact hid hother.symm
  · apply owned_after howned (fun u => haccounts.persist)
    intro s' hs'
    rw [hsessions] at hs'
    obtain ⟨s, hs, rfl⟩ := List.mem_map.1 hs'
    refine ⟨s, hs, ?_⟩
    obtain ⟨-, ⟨-, hsame⟩ | hrevoked⟩ | ⟨-, hsame⟩ := hchange s hs
    · rw [hsame]
    · rw [hrevoked]
    · rw [hsame]

theorem administer_leaves {operation : Operation} {u : Unit} (howned : Owned d)
    (h : (operation.program env time).alone d = .ok (u, e)) :
    Leaves env ⟨time, .administer operation, d, .ok .done, e⟩ := by
  obtain ⟨users, reason, hadministers⟩ := operation_administers h
  have hkept : ∀ s : AdminSession, (revoked users reason time s).userId = s.userId := by
    intro s
    unfold revoked
    split <;> rfl
  constructor
  · intro s' hs'
    rw [hadministers.sessions] at hs'
    obtain ⟨s, hs, rfl⟩ := List.mem_map.1 hs'
    refine .inr ⟨s, hs, ?_⟩
    unfold revoked
    split
    · exact continues_ended rfl
    · rename_i hspared
      refine continues_same rfl fun hnone => ⟨by simp [LogsOut], ?_⟩
      exact hadministers.others s.userId (howned s hs) fun hmem => hspared ⟨hmem, hnone⟩
  · apply owned_after howned hadministers.persist
    intro s' hs'
    rw [hadministers.sessions] at hs'
    obtain ⟨s, hs, rfl⟩ := List.mem_map.1 hs'
    exact ⟨s, hs, hkept s⟩

theorem record_leaves (howned : Owned d) (request : Request) :
    Leaves env (record env time request d) := by
  unfold record
  cases hrun : (request.program env time).alone d with
  | error error =>
    constructor
    · intro s hs
      refine .inr ⟨s, hs, continues_same rfl fun _ => ⟨by simp [LogsOut], ?_⟩⟩
      exact (SameAccounts.refl d).unaffected s.userId
    · exact howned
  | ok answer =>
    obtain ⟨response, after⟩ := answer
    cases request with
    | login request id token csrfToken salt =>
      obtain ⟨result, m, hresult, hdone⟩ := Txn.bind_alone.1 hrun
      obtain ⟨rfl, rfl⟩ := Prod.mk.inj (Txn.pure_alone.1 hdone)
      exact login_leaves howned hresult
    | authenticate token =>
      obtain ⟨result, m, hresult, hdone⟩ := Txn.bind_alone.1 hrun
      obtain ⟨rfl, rfl⟩ := Prod.mk.inj (Txn.pure_alone.1 hdone)
      exact authenticate_leaves howned hresult
    | revoke context reason =>
      obtain ⟨result, m, hresult, hdone⟩ := Txn.bind_alone.1 hrun
      obtain ⟨rfl, rfl⟩ := Prod.mk.inj (Txn.pure_alone.1 hdone)
      exact revoke_leaves howned hresult
    | administer operation =>
      obtain ⟨result, m, hresult, hdone⟩ := Txn.bind_alone.1 hrun
      obtain ⟨rfl, rfl⟩ := Prod.mk.inj (Txn.pure_alone.1 hdone)
      exact administer_leaves howned hresult

/-- The session was issued in the past, and what came since then agrees with its row. -/
structure Tracked (env : Environment) (past : List Record) (s : AdminSession) : Prop where
  issue : ∃ earlier issue since token, past = earlier ++ issue :: since ∧
    Issues issue s.id s.userId token ∧ (env.utf8 token).map env.sha256 = some s.tokenHash ∧
    s.absoluteExpiresAt = issue.time + env.settings.authSessionAbsoluteSeconds * second ∧
    s.idleExpiresAt ≤
      lastUse issue.time s.id since + env.settings.authSessionIdleSeconds * second ∧
    (s.revokedAt = none → ∀ entry ∈ since, Undisturbed s.id s.userId entry)

theorem tracked_begins {past : List Record} (h : Begins env entry s) :
    Tracked env (past ++ [entry]) s := by
  obtain ⟨token, hissues, hhash⟩ := h.issues
  refine ⟨past, entry, [], token, rfl, hissues, hhash, h.absolute, ?_, ?_⟩
  · rw [lastUse, List.foldl_nil]
    exact h.idle
  · simp

theorem lastUse_snoc (issued : Time) (sessionId : UUID) (since : List Record) (entry : Record) :
    lastUse issued sessionId (since ++ [entry]) =
      if entry.uses sessionId then entry.time else lastUse issued sessionId since := by
  simp [lastUse]

theorem tracked_continues {past : List Record} (hs : Tracked env past s)
    (h : Continues env entry s s') : Tracked env (past ++ [entry]) s' := by
  obtain ⟨earlier, issue, since, token, rfl, hissues, hhash, habsolute, hidle, hopen⟩ := hs.issue
  refine ⟨earlier, issue, since ++ [entry], token, by simp, ?_, ?_, ?_, ?_, ?_⟩
  · rw [h.id, h.user]
    exact hissues
  · rw [h.hash]
    exact hhash
  · rw [h.absolute]
    exact habsolute
  · have hnext := h.idle
    rw [h.id, lastUse_snoc]
    split at hnext
    · rename_i huses
      rw [if_pos huses]
      exact hnext
    · rename_i hunused
      rw [if_neg hunused, hnext]
      exact hidle
  · intro hnone other hother
    obtain ⟨hbefore, hundisturbed⟩ := h.undisturbed hnone
    rw [h.id, h.user]
    obtain hold | hnew := List.mem_append.1 hother
    · exact hopen hbefore other hold
    · exact List.mem_singleton.1 hnew ▸ hundisturbed

theorem record_before (request : Request) : (record env time request d).before = d := by
  unfold record
  split <;> rfl

/-- Before each request of a run, every session that there is was issued earlier in it. -/
theorem tracked_history {events : List (Time × Request)} {past front later : List Record}
    {attempt : Record} (howned : Owned d) (htracked : ∀ s ∈ d.sessions.rows, Tracked env past s)
    (h : history env d events = front ++ attempt :: later) :
    (∀ s ∈ attempt.before.sessions.rows, Tracked env (past ++ front) s) ∧
      attempt = record env attempt.time attempt.request attempt.before := by
  induction events generalizing d past front with
  | nil => simp [history] at h
  | cons event events ih =>
    obtain ⟨time, request⟩ := event
    cases front with
    | nil =>
      obtain ⟨rfl, -⟩ := List.cons.inj h
      rw [record_before, List.append_nil]
      refine ⟨htracked, ?_⟩
      unfold record
      split <;> simp_all
    | cons first front =>
      obtain ⟨rfl, hrest⟩ := List.cons.inj h
      have hleaves : Leaves env (record env time request d) := record_leaves howned request
      have hnext : ∀ s ∈ (record env time request d).after.sessions.rows,
          Tracked env (past ++ [record env time request d]) s := by
        intro s' hs'
        obtain hbegins | ⟨s, hs, hcontinues⟩ := hleaves.sessions s' hs'
        · exact tracked_begins hbegins
        · rw [record_before] at hs
          exact tracked_continues (htracked s hs) hcontinues
      simpa using ih hleaves.owned hnext hrest

/-- A token is accepted only before both of its times, and only if its session, its user
and its user's roles are as they were when it was issued. The times of the requests need
not even grow. -/
theorem session_validity {events : List (Time × Request)} {front later : List Record}
    {attempt : Record} {token : Str} {context : AuthContext} (hnew : d.sessions.rows = [])
    (hhistory : history env d events = front ++ attempt :: later)
    (hrequest : attempt.request = .authenticate token)
    (hsuccess : attempt.response = .ok (.authenticated (.ok context))) :
    ∃ earlier issue since issued, front = earlier ++ issue :: since ∧
      Issues issue context.principal.sessionId context.principal.userId issued ∧
      (env.utf8 issued).map env.sha256 = (env.utf8 token).map env.sha256 ∧
      attempt.time < issue.time + env.settings.authSessionAbsoluteSeconds * second ∧
      attempt.time < lastUse issue.time context.principal.sessionId since +
        env.settings.authSessionIdleSeconds * second ∧
      ∀ entry ∈ since,
        Undisturbed context.principal.sessionId context.principal.userId entry := by
  have howned : Owned d := by simp [Owned, hnew]
  have hstart : ∀ s ∈ d.sessions.rows, Tracked env [] s := by simp [hnew]
  obtain ⟨htracked, hattempt⟩ := tracked_history howned hstart hhistory
  rw [hrequest] at hattempt
  unfold record at hattempt
  cases hrun : ((Request.authenticate token).program env attempt.time).alone attempt.before with
  | error error =>
    rw [hrun] at hattempt
    rw [hattempt] at hsuccess
    cases hsuccess
  | ok answer =>
    obtain ⟨response, after⟩ := answer
    rw [hrun] at hattempt
    obtain ⟨result, m, hresult, hdone⟩ := Txn.bind_alone.1 hrun
    obtain ⟨rfl, rfl⟩ := Prod.mk.inj (Txn.pure_alone.1 hdone)
    have hcontext : result = .ok context := by
      rw [hattempt] at hsuccess
      simpa using hsuccess
    obtain ⟨-, hused⟩ := authenticateSession_effect hresult
    rw [hcontext] at hused
    cases hused with
    | used context session hmem hsession huser hhash hopen habsolute hidle hsessions =>
      obtain ⟨earlier, issue, since, issued, hfront, hissues, hissued, hlifetime, hlast, hquiet⟩ :=
        (htracked session hmem).issue
      rw [hsession, huser]
      refine ⟨earlier, issue, since, issued, hfront, hissues, hissued.trans hhash.symm, ?_, ?_,
        hquiet hopen⟩
      · rw [← hlifetime]
        exact habsolute
      · exact lt_of_lt_of_le hidle hlast

/-- A login, and two uses of its session. -/
def sampleHistory : List Record :=
  history sampleEnvironment bootstrapped.2
    [(0, .login ⟨py "alice", py "correct horse", py "console"⟩ 9 [1] [2] 0),
      (60 * second, .authenticate [1]), (120 * second, .authenticate [1])]

theorem sampleHistory_drop : sampleHistory.drop 2 ≠ [] := by
  intro h
  have hlength := congrArg List.length h
  simp [sampleHistory, history] at hlength

/-- The second use. -/
def sampleUse : Record := (sampleHistory.drop 2).head sampleHistory_drop

/-- The context of a successful authentication. -/
def Record.context (entry : Record) : Option AuthContext :=
  match entry.response with
  | .ok (.authenticated (.ok context)) => some context
  | _ => none

theorem response_of_context {context : AuthContext} (h : entry.context = some context) :
    entry.response = .ok (.authenticated (.ok context)) := by
  unfold Record.context at h
  split at h
  · rename_i found hresponse
    rw [hresponse, Option.some.inj h]
  · cases h

theorem sampleUse_isSome : sampleUse.context.isSome = true := by decide +kernel

theorem sampleHistory_split : sampleHistory =
    sampleHistory.take 2 ++ sampleUse :: (sampleHistory.drop 2).tail := by
  rw [sampleUse, List.cons_head_tail, List.take_append_drop]

theorem session_validity_twice :
    sampleUse.context.isSome = true ∧ ∃ issue ∈ sampleHistory.take 2,
      sampleUse.time < issue.time +
        sampleEnvironment.settings.authSessionAbsoluteSeconds * second := by
  obtain ⟨earlier, issue, since, issued, hfront, -, -, hlifetime, -⟩ :=
    session_validity (by decide +kernel : bootstrapped.2.sessions.rows = []) sampleHistory_split
      (rfl : sampleUse.request = .authenticate [1])
      (response_of_context (Option.some_get sampleUse_isSome).symm)
  exact ⟨sampleUse_isSome, issue, by simp [hfront], hlifetime⟩

end WechatBot.SessionValidity
