import Mathlib.Data.Finset.Image
import Mathlib.Data.Finset.Sort
import WechatBot.PyData
import WechatBot.ReadCommitted
import WechatBot.UniqueTables
/-!
# Administrators, roles and sessions

The tables of `db/auth_models.py`, the errors of the two services that work on them, and
what the services take from outside: the hashes, the Unicode tables and the password
hasher.
-/

namespace WechatBot.AuthModels

open PyData ReadCommitted
open UniqueTables (UniqueTable)
open Tables (Table)

inductive AdminUserStatus where
  | active | disabled
  deriving DecidableEq

structure AdminUser where
  id : UUID
  username : Str
  usernameNormalized : Str
  displayName : Option Str
  passwordHash : Str
  status : AdminUserStatus
  authVersion : Nat
  lastLoginAt : Option Time
  deriving DecidableEq

structure RbacRole where
  id : UUID
  code : Str
  name : Str
  isSystem : Bool
  active : Bool
  deriving DecidableEq

structure RbacPermission where
  id : UUID
  code : Str
  deriving DecidableEq

structure AdminSession where
  id : UUID
  userId : UUID
  tokenHash : Str
  csrfTokenHash : Str
  authVersion : Nat
  lastSeenAt : Time
  idleExpiresAt : Time
  absoluteExpiresAt : Time
  revokedAt : Option Time
  revokedReason : Option Str
  deriving DecidableEq

inductive LoginThrottleDimension where
  | account | source
  deriving DecidableEq

structure AuthLoginThrottle where
  dimension : LoginThrottleDimension
  keyHash : Str
  windowStartedAt : Time
  failureCount : Nat
  blockedUntil : Option Time
  deriving DecidableEq

def AuthLoginThrottle.key (r : AuthLoginThrottle) : LoginThrottleDimension × Str :=
  (r.dimension, r.keyHash)

/-- The pairs of `rbac_user_role` are a user and a role, those of `rbac_role_permission`
a role and a permission. -/
structure Database where
  users : UniqueTable AdminUser.id AdminUser.usernameNormalized
  roles : UniqueTable RbacRole.id RbacRole.code
  permissions : UniqueTable RbacPermission.id RbacPermission.code
  userRoles : List (UUID × UUID)
  rolePermissions : List (UUID × UUID)
  sessions : UniqueTable AdminSession.id AdminSession.tokenHash
  throttles : Table AuthLoginThrottle.key
  bootstrapOwner : Option UUID

def Database.empty : Database where
  users := .empty _ _
  roles := .empty _ _
  permissions := .empty _ _
  userRoles := []
  rolePermissions := []
  sessions := .empty _ _
  throttles := .empty _
  bootstrapOwner := none

/-- The rows that the services lock. -/
inductive Row where
  | user (id : UUID)
  | role (id : UUID)
  | permission (id : UUID)
  | userRole (user role : UUID)
  | rolePermission (role permission : UUID)
  | throttle (dimension : LoginThrottleDimension) (keyHash : Str)
  deriving DecidableEq

/-- `valueError` is Python's own and `integrityError` the database driver's; the others are
the classes of the two services. -/
inductive AuthError where
  | valueError (message : Str)
  | integrityError
  | adminUserNotFound (message : Str)
  | adminRoleNotFound (message : Str)
  | duplicateAdminIdentity (message : Str)
  | invalidRbacBinding (message : Str)
  | lastActiveOwner (message : Str)
  | ownerPrivilegesRequired (message : Str)
  | systemRoleProtected (message : Str)
  | bootstrapNotConfigured
  | bootstrapAlreadyCompleted
  | invalidBootstrapToken
  | invalidCredentials
  | loginRateLimited (retryAfterSeconds : Int)
  | invalidSession
  deriving DecidableEq

abbrev Transaction := Txn Row Database AuthError

def ownerRoleCode : Str := py "owner"

structure AuthPrincipal where
  userId : UUID
  sessionId : UUID
  username : Str
  displayName : Option Str
  roles : Finset Str
  permissions : Finset Str

def AuthPrincipal.isOwner (principal : AuthPrincipal) : Bool := decide (ownerRoleCode ∈ principal.roles)

/-- The actor of a request. The database session that authenticated it still holds the
actor's own row as it was then, and reads no newer values into it. -/
structure Caller where
  actor : AuthPrincipal
  own : Option AdminUser
  active : ∀ user ∈ own, user.status = .active

/-- The instance that a query answers with for a row. -/
def Caller.loaded (caller : Caller) (row : AdminUser) : AdminUser :=
  match caller.own with
  | some user => if user.id = row.id then user else row
  | none => row

theorem Caller.loaded_id (caller : Caller) (row : AdminUser) : (caller.loaded row).id = row.id := by
  unfold Caller.loaded
  split
  · split
    · assumption
    · rfl
  · rfl

/-- A loaded status is the stored one, unless the actor meets its own account. -/
theorem Caller.loaded_status (caller : Caller) (row : AdminUser) :
    (caller.loaded row).status = row.status ∨ (caller.loaded row).status = .active := by
  unfold Caller.loaded
  split
  · rename_i user hown
    split
    · exact .inr (caller.active user (by simp [hown]))
    · exact .inl rfl
  · exact .inl rfl

/-- The tables of `unicodedata`; `control` holds of the categories that begin with C. -/
structure Unicode where
  nfkc : Str → Str
  casefold : Str → Str
  control : Nat → Bool

/-- The Argon2 hasher; `hash` takes its salt. -/
structure PasswordHasher where
  hash : Nat → Str → Str
  verify : Str → Str → Bool
  needsRehash : Str → Bool

structure Settings where
  authBootstrapToken : Option Str
  authSessionIdleSeconds : Int
  authSessionAbsoluteSeconds : Int
  authLoginWindowSeconds : Int
  authLoginMaxFailures : Nat
  authLoginBlockSeconds : Int

/-- `utf8` has no bytes for a text with surrogates. -/
structure Environment where
  unicode : Unicode
  hasher : PasswordHasher
  utf8 : Str → Option (List UInt8)
  sha256 : List UInt8 → Str
  settings : Settings

variable (env : Environment)

def encodeUtf8 (s : Str) : Transaction (List UInt8) :=
  match env.utf8 s with
  | some bytes => .done bytes
  | none => .raise (.valueError (py "surrogates not allowed"))

def hashToken (token : Str) : Transaction Str := do
  let bytes ← encodeUtf8 env token
  return env.sha256 bytes

def normalizeUsername (username : Str) : Except AuthError (Str × Str) :=
  let canonical := strip (env.unicode.nfkc username)
  if ¬ (3 ≤ canonical.length ∧ canonical.length ≤ 80) then
    .error (.valueError (py "username must contain between 3 and 80 characters"))
  else if canonical.any fun c => isSpace c || env.unicode.control c then
    .error (.valueError (py "username cannot contain whitespace or control characters"))
  else .ok (canonical, env.unicode.casefold canonical)

/-- `PasswordManager.hash` checks a new password before it hashes it. -/
def hashPassword (salt : Nat) (password : Str) : Transaction Str := do
  .refuse (password.length < 12) (.valueError (py "password must contain at least 12 characters"))
  let bytes ← encodeUtf8 env password
  .refuse (1024 < bytes.length) (.valueError (py "password is too long"))
  return env.hasher.hash salt password

/-- A change of a user that keeps its name. -/
def Database.updateUser (db : Database) (id : UUID) (change : AdminUser → AdminUser)
    (hchange : ∀ user, (change user).id = user.id ∧
      (change user).usernameNormalized = user.usernameNormalized) : Database :=
  { db with
    users := db.users.mapRows (fun user => if user.id = id then change user else user) fun user => by
      by_cases h : user.id = id
      · simpa [h] using hchange user
      · simp [h] }

end WechatBot.AuthModels
