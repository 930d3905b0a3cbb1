import WechatBot.SessionEffects
/-!
# Login throttling

Runs of login attempts. What the stored throttles say agrees with a tally of the failures
that only looks at the answers, and a block is left alone until it is over.
-/

namespace WechatBot.LoginThrottling

open PyData ReadCommitted AuthModels AuthService SessionEffects
open Tables (Table)

abbrev ThrottleKey := LoginThrottleDimension × Str

/-- The random values and the clock of a login with its request. -/
structure Attempt where
  request : LoginRequest
  id : UUID
  token : Str
  csrfToken : Str
  salt : Nat
  now : Time

section Attempts

variable (env : Environment)

/-- The hashes of the account and of the source. A text with surrogates has none: such an
attempt raises before it reads a throttle. -/
def throttleKeys (request : LoginRequest) : Option (Str × Str) := do
  let account ← env.utf8 (py "account:" ++ (loginName env request.username).1)
  let source ← env.utf8 (py "source:" ++ request.sourceIdentifier)
  return (env.sha256 account, env.sha256 source)

def Involves (a : Attempt) (key : ThrottleKey) : Prop :=
  ∃ account source, throttleKeys env a.request = some (account, source) ∧
    (key = (.account, account) ∨ key = (.source, source))

def outcome (a : Attempt) (d : Database) : Except AuthError (Except AuthError LoginResult × Database) :=
  (login env a.request a.id a.token a.csrfToken a.salt a.now).alone d

/-- An attempt that raises is rolled back. -/
def after (a : Attempt) (d : Database) : Database :=
  match outcome env a d with
  | .ok (_, e) => e
  | .error _ => d

def run (d : Database) (as : List Attempt) : Database := as.foldl (fun d a => after env a d) d

@[simp] theorem run_nil (d : Database) : run env d [] = d := rfl

@[simp] theorem run_cons (d : Database) (a : Attempt) (as : List Attempt) :
    run env d (a :: as) = run env (after env a d) as := rfl

theorem run_append (d : Database) (as bs : List Attempt) :
    run env d (as ++ bs) = run env (run env d as) bs := List.foldl_append ..

/-- The failures of a key since its window began, and the time of the last one. -/
structure Window where
  start : Time
  failures : Nat
  last : Time

/-- One more failure; a window that is over begins anew. -/
def Window.count (settings : Settings) (now : Time) : Option Window → Window
  | some w =>
    if now < w.start + settings.authLoginWindowSeconds * second then ⟨w.start, w.failures + 1, now⟩
    else ⟨now, 1, now⟩
  | none => ⟨now, 1, now⟩

/-- What an attempt is for the tally of a key: a failure of its account or its source, or a
success that begins the account anew. -/
def tallied (key : ThrottleKey) (a : Attempt) (d : Database) (w : Option Window) : Option Window :=
  match throttleKeys env a.request, outcome env a d with
  | some (account, source), .ok (.error .invalidCredentials, _) =>
    if key = (.account, account) ∨ key = (.source, source) then
      some (Window.count env.settings a.now w)
    else w
  | some (account, _), .ok (.ok _, _) => if key = (.account, account) then none else w
  | _, _ => w

def tally (key : ThrottleKey) : Database → List Attempt → Option Window → Option Window
  | _, [], w => w
  | d, a :: as, w => tally key (after env a d) as (tallied env key a d w)

end Attempts

variable {env : Environment} {a : Attempt} {d e : Database}

theorem hashContext_alone {value hash : Str} :
    (hashContext env value).alone d = .ok (hash, e) ↔
      (env.utf8 value).map env.sha256 = some hash ∧ d = e := by
  constructor
  · intro h
    obtain ⟨hhash, rfl⟩ := hashToken_alone h
    exact ⟨hhash, rfl⟩
  · rintro ⟨hhash, rfl⟩
    obtain ⟨bytes, hbytes, rfl⟩ := Option.map_eq_some_iff.1 hhash
    refine Txn.bind_alone.2 ⟨bytes, d, ?_, Txn.pure_alone.2 rfl⟩
    rw [encodeUtf8, hbytes]
    rfl

theorem loadThrottle_finds {dimension : LoginThrottleDimension} {keyHash : Str}
    {record : Option AuthLoginThrottle} :
    (loadThrottle dimension keyHash).alone d = .ok (record, e) ↔
      d.throttles.find (dimension, keyHash) = record ∧ d = e := by
  have hrows : ((d.throttles.find (dimension, keyHash)).toList.map AuthLoginThrottle.key).filterMap
      (fun key => d.throttles.find key) = (d.throttles.find (dimension, keyHash)).toList := by
    cases hfind : d.throttles.find (dimension, keyHash) with
    | none => rfl
    | some record => simp [Table.find_key hfind, hfind]
  rw [loadThrottle, Txn.bind_alone]
  simp only [Txn.forUpdate_alone, Txn.pure_alone, hrows, Prod.mk.injEq]
  constructor
  · rintro ⟨rows, m, ⟨rfl, rfl⟩, hhead, rfl⟩
    exact ⟨by rw [← hhead, Option.head?_toList], rfl⟩
  · rintro ⟨rfl, rfl⟩
    exact ⟨_, d, ⟨rfl, rfl⟩, Option.head?_toList, rfl⟩

/-- No seconds are left exactly when no block is ahead. -/
theorem activeBlockSeconds_eq_zero {record : Option AuthLoginThrottle} {now : Time} :
    activeBlockSeconds record now = 0 ↔
      ∀ blockedUntil, record.bind AuthLoginThrottle.blockedUntil = some blockedUntil →
        blockedUntil ≤ now := by
  unfold activeBlockSeconds
  cases record.bind AuthLoginThrottle.blockedUntil with
  | none => simp
  | some blockedUntil =>
    simp only [Option.some.injEq, forall_eq', max_eq_left_iff]
    rw [Int.neg_nonpos_iff, Int.ediv_nonneg_iff_of_pos (by decide)]
    exact Int.sub_nonneg

theorem activeBlockSeconds_nonneg (record : Option AuthLoginThrottle) (now : Time) :
    0 ≤ activeBlockSeconds record now := by
  unfold activeBlockSeconds
  split
  · exact Int.le_refl 0
  · exact Int.le_max_left ..

/-- The seconds for which an attempt with these keys is refused. -/
def retryAfter (account source : Str) (now : Time) (d : Database) : Int :=
  max (activeBlockSeconds (d.throttles.find (.account, account)) now)
    (activeBlockSeconds (d.throttles.find (.source, source)) now)

/-- No wait is asked for exactly when neither the account nor the source is blocked. -/
theorem retryAfter_eq_zero {account source : Str} {now : Time} :
    retryAfter account source now d = 0 ↔
      activeBlockSeconds (d.throttles.find (.account, account)) now = 0 ∧
        activeBlockSeconds (d.throttles.find (.source, source)) now = 0 := by
  have haccount := activeBlockSeconds_nonneg (d.throttles.find (.account, account)) now
  have hsource := activeBlockSeconds_nonneg (d.throttles.find (.source, source)) now
  unfold retryAfter
  omega

/-- A failure in the throttle of a key. -/
def failed (settings : Settings) (now : Time) (key : ThrottleKey) :
    Option AuthLoginThrottle → AuthLoginThrottle
  | none => counted settings now ⟨key.1, key.2, now, 0, none⟩
  | some record => counted settings now (restarted settings now record)

theorem key_counted (settings : Settings) (now : Time) (record : AuthLoginThrottle) :
    (counted settings now record).key = record.key := by
  unfold counted
  split <;> rfl

theorem key_restarted (settings : Settings) (now : Time) (record : AuthLoginThrottle) :
    (restarted settings now record).key = record.key := by
  unfold restarted
  split <;> rfl

/-- A failure writes the row of its own key only. -/
theorem recordLoginFailure_finds {dimension : LoginThrottleDimension} {keyHash : Str} {now : Time}
    {u : Unit} (h : (recordLoginFailure env dimension keyHash now).alone d = .ok (u, e))
    (key : ThrottleKey) :
    e.throttles.find key = if key = (dimension, keyHash) then
      some (failed env.settings now (dimension, keyHash) (d.throttles.find (dimension, keyHash)))
      else d.throttles.find key := by
  obtain ⟨record, d₁, hread, h₁⟩ := Txn.bind_alone.1 h
  obtain ⟨hfind, rfl⟩ := loadThrottle_finds.1 hread
  rw [hfind]
  cases record with
  | none =>
    have hinserted := Txn.insert_alone.1 h₁
    obtain ⟨throttles, hinsert, rfl⟩ := Option.map_eq_some_iff.1 hinserted
    rw [Table.find_insert hinsert, key_counted]
    rfl
  | some record =>
    obtain rfl := Txn.execute_alone.1 h₁
    have hkey : (counted env.settings now (restarted env.settings now record)).key =
        (dimension, keyHash) := by
      rw [key_counted, key_restarted, Table.find_key hfind]
    have hsaved := Table.find_save_of (a := counted env.settings now (restarted env.settings now record))
      (hkey ▸ hfind) key
    rw [hkey] at hsaved
    exact hsaved

/-- A success clears the row of the account, and not that of the source. -/
theorem clearAccountThrottle_find (account : Str) (d : Database) (key : ThrottleKey) :
    (clearAccountThrottle account d).throttles.find key =
      if key = (.account, account) then none else d.throttles.find key := by
  simp only [clearAccountThrottle, Table.find, List.find?_filter]
  by_cases hkey : key = (.account, account)
  · rw [if_pos hkey, List.find?_eq_none]
    intro r _
    simp [hkey]
  · rw [if_neg hkey]
    congr 1
    funext r
    by_cases hr : r.key = key <;> simp [hr, hkey]

/-- What an attempt with these keys does to the throttles. -/
inductive Effect (env : Environment) (account source : Str) (now : Time) (d : Database) :
    Except AuthError LoginResult → Database → Prop
  | limited (hblocked : retryAfter account source now d ≠ 0) :
    Effect env account source now d (.error (.loginRateLimited (retryAfter account source now d))) d
  | failed (e : Database) (hfree : retryAfter account source now d = 0)
    (hfinds : ∀ key, e.throttles.find key =
      if key = (.account, account) ∨ key = (.source, source) then
        some (failed env.settings now key (d.throttles.find key)) else d.throttles.find key) :
    Effect env account source now d (.error .invalidCredentials) e
  | entered (result : LoginResult) (e : Database) (hfree : retryAfter account source now d = 0)
    (hfinds : ∀ key, e.throttles.find key =
      if key = (.account, account) then none else d.throttles.find key) :
    Effect env account source now d (.ok result) e

theorem throttleKeys_eq {request : LoginRequest} {account source : Str} :
    throttleKeys env request = some (account, source) ↔
      (env.utf8 (py "account:" ++ (loginName env request.username).1)).map env.sha256 = some account ∧
        (env.utf8 (py "source:" ++ request.sourceIdentifier)).map env.sha256 = some source := by
  unfold throttleKeys
  cases env.utf8 (py "account:" ++ (loginName env request.username).1) <;>
    cases env.utf8 (py "source:" ++ request.sourceIdentifier) <;> simp

/-- A blocked attempt is refused before its password is looked at. -/
theorem outcome_limited {account source : Str}
    (hkeys : throttleKeys env a.request = some (account, source))
    (hblocked : retryAfter account source a.now d ≠ 0) :
    outcome env a d = .ok (.error (.loginRateLimited (retryAfter account source a.now d)), d) := by
  obtain ⟨haccount, hsource⟩ := throttleKeys_eq.1 hkeys
  refine Txn.bind_alone.2 ⟨account, d, hashContext_alone.2 ⟨haccount, rfl⟩, ?_⟩
  refine Txn.bind_alone.2 ⟨source, d, hashContext_alone.2 ⟨hsource, rfl⟩, ?_⟩
  refine Txn.bind_alone.2 ⟨_, d, loadThrottle_finds.2 ⟨rfl, rfl⟩, ?_⟩
  refine Txn.bind_alone.2 ⟨_, d, loadThrottle_finds.2 ⟨rfl, rfl⟩, ?_⟩
  unfold retryAfter at hblocked ⊢
  dsimp only
  rw [if_pos hblocked]
  rfl

theorem createSession_throttles {user : AdminUser} {id : UUID} {token csrfToken : Str} {now : Time}
    {issued : IssuedSession} (h : (createSession env user id token csrfToken now).alone d = .ok (issued, e)) :
    e.throttles = d.throttles := by
  obtain ⟨tokenHash, d₁, htoken, h₁⟩ := Txn.bind_alone.1 h
  obtain ⟨-, rfl⟩ := hashToken_alone htoken
  obtain ⟨csrfTokenHash, d₂, hcsrf, h₂⟩ := Txn.bind_alone.1 h₁
  obtain ⟨-, rfl⟩ := hashToken_alone hcsrf
  obtain ⟨inserted, d₃, hinserted, h₃⟩ := Txn.bind_alone.1 h₂
  obtain ⟨rfl, rfl⟩ := Prod.mk.inj (Txn.pure_alone.1 h₃)
  have hinserted := Txn.insert_alone.1 hinserted
  obtain ⟨sessions, -, rfl⟩ := Option.map_eq_some_iff.1 hinserted
  rfl

theorem rehash_throttles {user : AdminUser} {password : Str} {salt : Nat} {u : Unit}
    (h : (rehash env user password salt).alone d = .ok (u, e)) : e.throttles = d.throttles := by
  by_cases hneeded : env.hasher.needsRehash user.passwordHash = true
  · rw [rehash, if_pos hneeded] at h
    obtain ⟨hash, d₁, hhash, h₁⟩ := Txn.bind_alone.1 h
    obtain rfl := hashPassword_alone hhash
    obtain rfl := Txn.execute_alone.1 h₁
    rfl
  · rw [rehash, if_neg hneeded] at h
    obtain rfl := (Prod.mk.inj (Txn.pure_alone.1 h)).2
    rfl

/-- An attempt that does not raise has both keys, and one of the three effects. -/
theorem attempt_effect {result : Except AuthError LoginResult} (h : outcome env a d = .ok (result, e)) :
    ∃ account source, throttleKeys env a.request = some (account, source) ∧
      Effect env account source a.now d result e := by
  obtain ⟨account, d₁, hhashed, h₁⟩ := Txn.bind_alone.1 h
  obtain ⟨haccount, rfl⟩ := hashContext_alone.1 hhashed
  obtain ⟨source, d₂, hhashed', h₂⟩ := Txn.bind_alone.1 h₁
  obtain ⟨hsource, rfl⟩ := hashContext_alone.1 hhashed'
  obtain ⟨accountThrottle, d₃, haccountRead, h₃⟩ := Txn.bind_alone.1 h₂
  obtain ⟨rfl, rfl⟩ := loadThrottle_finds.1 haccountRead
  obtain ⟨sourceThrottle, d₄, hsourceRead, h₄⟩ := Txn.bind_alone.1 h₃
  obtain ⟨rfl, rfl⟩ := loadThrottle_finds.1 hsourceRead
  refine ⟨account, source, throttleKeys_eq.2 ⟨haccount, hsource⟩, ?_⟩
  by_cases hblocked : max (activeBlockSeconds (d.throttles.find (.account, account)) a.now)
      (activeBlockSeconds (d.throttles.find (.source, source)) a.now) ≠ 0
  · rw [if_pos hblocked] at h₄
    obtain ⟨rfl, rfl⟩ := Prod.mk.inj (Txn.pure_alone.1 h₄)
    exact .limited hblocked
  rw [if_neg hblocked] at h₄
  have hfree : retryAfter account source a.now d = 0 := not_not.1 hblocked
  obtain ⟨found, d₅, hchecked, h₅⟩ := Txn.bind_alone.1 h₄
  obtain ⟨rfl, -⟩ := checkCredentials_alone hchecked
  cases found with
  | none =>
    obtain ⟨first, d₆, hfirst, h₆⟩ := Txn.bind_alone.1 h₅
    obtain ⟨other, d₇, hother, h₇⟩ := Txn.bind_alone.1 h₆
    obtain ⟨rfl, rfl⟩ := Prod.mk.inj (Txn.pure_alone.1 h₇)
    refine .failed _ hfree fun key => ?_
    rw [recordLoginFailure_finds hother, recordLoginFailure_finds hfirst,
      recordLoginFailure_finds hfirst]
    by_cases hsame : key = (.source, source)
    · simp [hsame]
    · by_cases haccountKey : key = (.account, account) <;> simp [hsame, haccountKey]
  | some user =>
    obtain ⟨rehashed, d₆, hrehash, h₆⟩ := Txn.bind_alone.1 h₅
    obtain ⟨seen, d₇, hseen, h₇⟩ := Txn.bind_alone.1 h₆
    obtain rfl := Txn.execute_alone.1 hseen
    obtain ⟨cleared, d₈, hcleared, h₈⟩ := Txn.bind_alone.1 h₇
    obtain rfl := Txn.execute_alone.1 hcleared
    obtain ⟨issued, d₉, hissued, h₉⟩ := Txn.bind_alone.1 h₈
    obtain ⟨principal, d₁₀, hprincipal, h₁₀⟩ := Txn.bind_alone.1 h₉
    obtain ⟨rfl, rfl⟩ := Txn.select_alone.1 hprincipal
    obtain ⟨rfl, rfl⟩ := Prod.mk.inj (Txn.pure_alone.1 h₁₀)
    refine .entered _ _ hfree fun key => ?_
    rw [createSession_throttles hissued, clearAccountThrottle_find, ← rehash_throttles hrehash]
    rfl

/-- A key that is blocked refuses every attempt that involves it. -/
theorem retryAfter_of_blocked {account source : Str} {key : ThrottleKey} {r : AuthLoginThrottle}
    {now blockedUntil : Time} (hkey : key = (.account, account) ∨ key = (.source, source))
    (hfind : d.throttles.find key = some r) (hblock : r.blockedUntil = some blockedUntil)
    (hnow : now < blockedUntil) : retryAfter account source now d ≠ 0 := by
  intro hzero
  obtain ⟨haccount, hsource⟩ := retryAfter_eq_zero.1 hzero
  have hover : blockedUntil ≤ now := by
    rcases hkey with rfl | rfl
    · exact activeBlockSeconds_eq_zero.1 haccount blockedUntil (by rw [hfind]; exact hblock)
    · exact activeBlockSeconds_eq_zero.1 hsource blockedUntil (by rw [hfind]; exact hblock)
  exact absurd hnow (not_lt.2 hover)

/-- A request during a block leaves the row. -/
theorem after_blocked {key : ThrottleKey} {r : AuthLoginThrottle} {blockedUntil : Time}
    (hfind : d.throttles.find key = some r) (hblock : r.blockedUntil = some blockedUntil)
    (hnow : a.now < blockedUntil) : (after env a d).throttles.find key = some r := by
  unfold after
  split
  · rename_i result e houtcome
    obtain ⟨account, source, -, heffect⟩ := attempt_effect houtcome
    cases heffect with
    | limited => exact hfind
    | failed _ hfree hfinds =>
      rw [hfinds, if_neg, hfind]
      exact fun hkey => retryAfter_of_blocked hkey hfind hblock hnow hfree
    | entered result _ hfree hfinds =>
      rw [hfinds, if_neg, hfind]
      exact fun hkey => retryAfter_of_blocked (.inl hkey) hfind hblock hnow hfree
  · exact hfind

/-- Requests during a block leave the row. -/
theorem run_blocked {key : ThrottleKey} {r : AuthLoginThrottle} {blockedUntil : Time}
    (hblock : r.blockedUntil = some blockedUntil) (as : List Attempt)
    (hnow : ∀ a ∈ as, a.now < blockedUntil) (hfind : d.throttles.find key = some r) :
    (run env d as).throttles.find key = some r := by
  induction as generalizing d with
  | nil => exact hfind
  | cons a as ih =>
    rw [run_cons]
    apply ih (fun b hb => hnow b (List.mem_cons_of_mem _ hb))
    exact after_blocked hfind hblock (hnow a (List.mem_cons_self ..))

/-- The stored throttle is the one that the failures call for. -/
inductive Matches (settings : Settings) : Option Window → Option AuthLoginThrottle → Prop
  | none : Matches settings none none
  | some (w : Window) (r : AuthLoginThrottle) (hstart : r.windowStartedAt = w.start)
    (hfailures : r.failureCount = w.failures)
    (hblock : r.blockedUntil = if settings.authLoginMaxFailures ≤ w.failures then
      some (w.last + settings.authLoginBlockSeconds * second) else none) :
    Matches settings (some w) (some r)

/-- A failure keeps them in agreement: a window that is still open keeps its block only by
setting a later one. -/
theorem matches_failed {settings : Settings} {w : Option Window} {r : Option AuthLoginThrottle}
    (h : Matches settings w r) (now : Time) (key : ThrottleKey) :
    Matches settings (some (Window.count settings now w)) (some (failed settings now key r)) := by
  cases h with
  | none =>
    by_cases hmax : settings.authLoginMaxFailures ≤ 1
    · exact .some _ _ (by simp [failed, counted, hmax, Window.count])
        (by simp [failed, counted, hmax, Window.count]) (by simp [failed, counted, hmax, Window.count])
    · exact .some _ _ (by simp [failed, counted, hmax, Window.count])
        (by simp [failed, counted, hmax, Window.count]) (by simp [failed, counted, hmax, Window.count])
  | some w r hstart hfailures hblock =>
    by_cases hopen : now < w.start + settings.authLoginWindowSeconds * second
    · have hsame : restarted settings now r = r := by
        rw [restarted, if_neg]
        rw [hstart]
        exact not_le.2 hopen
      rw [failed, hsame, Window.count, if_pos hopen]
      by_cases hmax : settings.authLoginMaxFailures ≤ w.failures + 1
      · exact .some _ _ (by simp [counted, hfailures, hmax, hstart])
          (by simp [counted, hfailures, hmax]) (by simp [counted, hfailures, hmax])
      · have hbelow : ¬ settings.authLoginMaxFailures ≤ w.failures := fun h => hmax (Nat.le_succ_of_le h)
        exact .some _ _ (by simp [counted, hfailures, hmax, hstart])
          (by simp [counted, hfailures, hmax]) (by simp [counted, hfailures, hmax, hblock, hbelow])
    · have hanew : restarted settings now r =
          { r with windowStartedAt := now, failureCount := 0, blockedUntil := none } := by
        rw [restarted, if_pos]
        rw [hstart]
        exact not_lt.1 hopen
      rw [failed, hanew, Window.count, if_neg hopen]
      by_cases hmax : settings.authLoginMaxFailures ≤ 1
      · exact .some _ _ (by simp [counted, hmax]) (by simp [counted, hmax]) (by simp [counted, hmax])
      · exact .some _ _ (by simp [counted, hmax]) (by simp [counted, hmax]) (by simp [counted, hmax])

/-- The tally follows the row through one request. -/
theorem matches_after {key : ThrottleKey} {w : Option Window}
    (h : Matches env.settings w (d.throttles.find key)) :
    Matches env.settings (tallied env key a d w) ((after env a d).throttles.find key) := by
  cases houtcome : outcome env a d with
  | error e =>
    have hsame : tallied env key a d w = w := by
      unfold tallied
      rw [houtcome]
      cases throttleKeys env a.request <;> rfl
    rw [hsame, after, houtcome]
    exact h
  | ok answer =>
    obtain ⟨result, e⟩ := answer
    obtain ⟨account, source, hkeys, heffect⟩ := attempt_effect houtcome
    rw [tallied, hkeys, after, houtcome]
    cases heffect with
    | limited => exact h
    | failed _ _ hfinds =>
      dsimp only
      rw [hfinds]
      by_cases hkey : key = (.account, account) ∨ key = (.source, source)
      · rw [if_pos hkey, if_pos hkey]
        exact matches_failed h a.now key
      · rw [if_neg hkey, if_neg hkey]
        exact h
    | entered result _ _ hfinds =>
      dsimp only
      rw [hfinds]
      by_cases hkey : key = (.account, account)
      · rw [if_pos hkey, if_pos hkey]
        exact .none
      · rw [if_neg hkey, if_neg hkey]
        exact h

/-- The tally follows the row through every sequence of requests. -/
theorem matches_run {key : ThrottleKey} (as : List Attempt) {w : Option Window}
    (h : Matches env.settings w (d.throttles.find key)) :
    Matches env.settings (tally env key d as w) ((run env d as).throttles.find key) := by
  induction as generalizing d w with
  | nil => exact h
  | cons a as ih =>
    rw [tally, run_cons]
    exact ih (matches_after h)

def wrongPassword (now : Time) : Attempt :=
  ⟨⟨py "alice", py "guess", py "console"⟩, 9, [1], [2], 0, now⟩

def rightPassword (now : Time) : Attempt :=
  ⟨⟨py "alice", py "correct horse", py "console"⟩, 9, [1], [2], 0, now⟩

def guesses : List Attempt := [0, 1, 2, 3, 4].map fun n => wrongPassword (n * second)

def aliceKey : ThrottleKey := (.account, py "account:alice")

theorem guesses_tally : (tally OwnerSafety.sampleEnvironment aliceKey OwnerSafety.bootstrapped.2 guesses
    none).map (fun w => (w.start, w.failures, w.last)) = some (0, 5, 4 * second) := by decide +kernel

end WechatBot.LoginThrottling
