import WechatBot.AuthModels
/-!
# Logins and sessions

The operations of `auth/service.py` on logins and sessions. They commit by themselves: a
transaction that answers with an error has committed what it wrote before.
-/

namespace WechatBot.AuthService

open PyData ReadCommitted AuthModels
open ReadCommitted.Txn (select forUpdate execute insert refuse)

variable (env : Environment)

/-- `_load_principal`: the active roles of the user, with their permissions. -/
def loadPrincipal (user : AdminUser) (sessionId : UUID) (db : Database) : AuthPrincipal :=
  let roles := db.roles.rows.filter fun role =>
    decide ((user.id, role.id) ∈ db.userRoles ∧ role.active = true)
  let permissions := db.permissions.rows.filter fun permission =>
    roles.any fun role => decide ((role.id, permission.id) ∈ db.rolePermissions)
  { userId := user.id
    sessionId
    username := user.username
    displayName := user.displayName
    roles := (roles.map RbacRole.code).toFinset
    permissions := (permissions.map RbacPermission.code).toFinset }

structure AuthContext where
  principal : AuthPrincipal
  csrfTokenHash : Str

structure IssuedSession where
  sessionId : UUID
  token : Str
  csrfToken : Str
  idleExpiresAt : Time
  absoluteExpiresAt : Time

structure LoginResult where
  principal : AuthPrincipal
  issuedSession : IssuedSession

/-- `_load_throttle`. -/
def loadThrottle (dimension : LoginThrottleDimension) (keyHash : Str) :
    Transaction (Option AuthLoginThrottle) := do
  let rows ← forUpdate
    (fun db : Database => (db.throttles.find (dimension, keyHash)).toList.map AuthLoginThrottle.key)
    (fun key => [.throttle key.1 key.2]) fun db key => db.throttles.find key
  return rows.head?

/-- `_active_block_seconds`: the seconds that are left, rounded up. -/
def activeBlockSeconds (record : Option AuthLoginThrottle) (now : Time) : Int :=
  match record.bind AuthLoginThrottle.blockedUntil with
  | none => 0
  | some blockedUntil => max 0 (-((now - blockedUntil) / second))

/-- A window that is over begins anew. -/
def restarted (settings : Settings) (now : Time) (record : AuthLoginThrottle) : AuthLoginThrottle :=
  if record.windowStartedAt + settings.authLoginWindowSeconds * second ≤ now then
    { record with windowStartedAt := now, failureCount := 0, blockedUntil := none }
  else record

/-- One more failure, and the block that it may bring. -/
def counted (settings : Settings) (now : Time) (record : AuthLoginThrottle) : AuthLoginThrottle :=
  if settings.authLoginMaxFailures ≤ record.failureCount + 1 then
    { record with
      failureCount := record.failureCount + 1
      blockedUntil := some (now + settings.authLoginBlockSeconds * second) }
  else { record with failureCount := record.failureCount + 1 }

/-- `_record_login_failure`. -/
def recordLoginFailure (dimension : LoginThrottleDimension) (keyHash : Str) (now : Time) :
    Transaction Unit := do
  match ← loadThrottle dimension keyHash with
  | none =>
    insert (fun db : Database =>
      (db.throttles.insert (counted env.settings now ⟨dimension, keyHash, now, 0, none⟩)).map
        fun throttles => { db with throttles }) .integrityError
  | some record =>
    execute fun db : Database =>
      { db with
        throttles := db.throttles.save (counted env.settings now (restarted env.settings now record)) }

/-- `_clear_account_throttle`. -/
def clearAccountThrottle (accountKeyHash : Str) (db : Database) : Database :=
  { db with
    throttles :=
      ⟨db.throttles.rows.filter fun r => !decide (r.key = (.account, accountKeyHash)),
        db.throttles.nodup.sublist (List.filter_sublist.map _)⟩ }

/-- The two expiry times: the idle one never passes the absolute one. -/
def idleExpiry (settings : Settings) (now absoluteExpiresAt : Time) : Time :=
  min (now + settings.authSessionIdleSeconds * second) absoluteExpiresAt

/-- `_create_session`; the identifier and the two tokens are random. -/
def createSession (user : AdminUser) (id : UUID) (token csrfToken : Str) (now : Time) :
    Transaction IssuedSession := do
  let absoluteExpiresAt := now + env.settings.authSessionAbsoluteSeconds * second
  let idleExpiresAt := idleExpiry env.settings now absoluteExpiresAt
  let tokenHash ← hashToken env token
  let csrfTokenHash ← hashToken env csrfToken
  let session : AdminSession := ⟨id, user.id, tokenHash, csrfTokenHash, user.authVersion, now,
    idleExpiresAt, absoluteExpiresAt, none, none⟩
  insert (fun db : Database => (db.sessions.insert session).map fun sessions =>
    { db with sessions }) .integrityError
  return ⟨id, token, csrfToken, idleExpiresAt, absoluteExpiresAt⟩

/-- A change of one session that keeps its token. -/
def updateSession (id : UUID) (change : AdminSession → AdminSession)
    (hchange : ∀ session, (change session).id = session.id ∧
      (change session).tokenHash = session.tokenHash) (db : Database) : Database :=
  { db with
    sessions := db.sessions.mapRows (fun session => if session.id = id then change session else session)
      fun session => by
        by_cases h : session.id = id
        · simpa [h] using hchange session
        · simp [h] }

structure LoginRequest where
  username : Str
  password : Str
  sourceIdentifier : Str

/-- `hash_context`. -/
def hashContext (value : Str) : Transaction Str := hashToken env value

/-- The hasher encodes the password first. -/
def verifyPassword (passwordHash password : Str) : Transaction Bool := do
  let _ ← encodeUtf8 env password
  return env.hasher.verify passwordHash password

/-- The name that a login looks up, and whether there can be such a user. -/
def loginName (username : Str) : Str × Bool :=
  match normalizeUsername env username with
  | .ok (_, normalized) => (normalized, true)
  | .error _ => (env.unicode.casefold (strip (env.unicode.nfkc username)), false)

/-- The user, when the password is right; `verify_dummy` has no result. -/
def checkCredentials (name : Str × Bool) (password : Str) : Transaction (Option AdminUser) := do
  let user ← select fun db : Database => if name.2 then db.users.having name.1 else none
  match user with
  | none => do
    let _ ← verifyPassword env [] password
    return none
  | some user => do
    let valid ← verifyPassword env user.passwordHash password
    return if valid = true ∧ user.status = .active then some user else none

/-- The new hash of a password whose hash is out of date. -/
def rehash (user : AdminUser) (password : Str) (salt : Nat) : Transaction Unit :=
  if env.hasher.needsRehash user.passwordHash then do
    let passwordHash ← hashPassword env salt password
    execute fun db : Database =>
      db.updateUser user.id (fun row => { row with passwordHash }) fun _ => ⟨rfl, rfl⟩
  else return ()

/-- `salt`, `id` and the tokens are the random values that the login uses. -/
def login (request : LoginRequest) (id : UUID) (token csrfToken : Str) (salt : Nat) (now : Time) :
    Transaction (Except AuthError LoginResult) := do
  let name := loginName env request.username
  let accountKeyHash ← hashContext env (py "account:" ++ name.1)
  let sourceKeyHash ← hashContext env (py "source:" ++ request.sourceIdentifier)
  let accountThrottle ← loadThrottle .account accountKeyHash
  let sourceThrottle ← loadThrottle .source sourceKeyHash
  let retryAfter := max (activeBlockSeconds accountThrottle now)
    (activeBlockSeconds sourceThrottle now)
  if retryAfter ≠ 0 then return .error (.loginRateLimited retryAfter)
  else match ← checkCredentials env name request.password with
    | none => do
      recordLoginFailure env .account accountKeyHash now
      recordLoginFailure env .source sourceKeyHash now
      return .error .invalidCredentials
    | some user => do
      rehash env user request.password salt
      execute fun db : Database =>
        db.updateUser user.id (fun row => { row with lastLoginAt := some now }) fun _ => ⟨rfl, rfl⟩
      execute (clearAccountThrottle accountKeyHash)
      let issuedSession ← createSession env user id token csrfToken now
      let principal ← select (loadPrincipal user issuedSession.sessionId)
      return .ok ⟨principal, issuedSession⟩

/-- Why a session is no longer valid. -/
def invalidReason (session : AdminSession) (user : AdminUser) (now : Time) : Option Str :=
  if session.revokedAt ≠ none then some (py "revoked")
  else if user.status ≠ .active then some (py "user_disabled")
  else if session.authVersion ≠ user.authVersion then some (py "auth_version_changed")
  else if session.absoluteExpiresAt ≤ now then some (py "absolute_expired")
  else if session.idleExpiresAt ≤ now then some (py "idle_expired")
  else none

/-- The session of a token, with its user. -/
def sessionOf (tokenHash : Str) (db : Database) : Option (AdminSession × AdminUser) :=
  (db.sessions.having tokenHash).bind fun session =>
    (db.users.find session.userId).map fun user => (session, user)

def authenticateSession (token : Str) (now : Time) :
    Transaction (Except AuthError AuthContext) := do
  refuse (token = []) .invalidSession
  let tokenHash ← hashToken env token
  match ← select (sessionOf tokenHash) with
  | none => .raise .invalidSession
  | some (session, user) =>
    match invalidReason session user now with
    | some reason => do
      if session.revokedAt = none then
        execute (updateSession session.id (fun row =>
          { row with revokedAt := some now, revokedReason := some reason }) fun _ => ⟨rfl, rfl⟩)
      return .error .invalidSession
    | none => do
      execute (updateSession session.id (fun row =>
        { row with
          lastSeenAt := now
          idleExpiresAt := idleExpiry env.settings now session.absoluteExpiresAt })
        fun _ => ⟨rfl, rfl⟩)
      let principal ← select (loadPrincipal user session.id)
      return .ok ⟨principal, session.csrfTokenHash⟩

def revokeSession (context : AuthContext) (reason : Str) (now : Time) : Transaction Unit := do
  match ← select fun db : Database => db.sessions.find context.principal.sessionId with
  | none => return ()
  | some session =>
    if session.revokedAt = none then
      execute (updateSession session.id (fun row =>
        { row with revokedAt := some now, revokedReason := some reason }) fun _ => ⟨rfl, rfl⟩)

end WechatBot.AuthService
