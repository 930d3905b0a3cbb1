import WechatBot.AuthModels
/-!
# Administration of users and roles

The operations of `AdminRbacService` and `bootstrap_owner`, each as a transaction of the
statements that the source executes, with their row locks.
-/

namespace WechatBot.AdminRbac

open PyData ReadCommitted AuthModels
open ReadCommitted.Txn (select forUpdate execute insert refuse)

/-- `_role_codes_for_user`. -/
def roleCodes (db : Database) (userId : UUID) : Finset Str :=
  ((db.roles.rows.filter fun role => decide ((userId, role.id) ∈ db.userRoles)).map
    RbacRole.code).toFinset

/-- `_permission_codes_for_role`. -/
def permissionCodes (db : Database) (roleId : UUID) : Finset Str :=
  ((db.permissions.rows.filter fun permission =>
    decide ((roleId, permission.id) ∈ db.rolePermissions)).map RbacPermission.code).toFinset

/-- The second components of the rows of a first one. -/
def bound (rows : List (UUID × UUID)) (id : UUID) : List UUID :=
  (rows.filter fun row => decide (row.1 = id)).map Prod.snd

/-- The rows of `id` after the removals and the additions. -/
def rebind (rows : List (UUID × UUID)) (id : UUID) (removed added : List UUID) :
    List (UUID × UUID) :=
  (rows.filter fun row => !decide (row.1 = id ∧ row.2 ∈ removed)) ++ added.map fun other => (id, other)

def holders (db : Database) (roleId : UUID) : List UUID :=
  (db.users.rows.map AdminUser.id).filter fun userId => decide ((userId, roleId) ∈ db.userRoles)

/-- Active users with the role, other than `userId`. -/
def otherActive (db : Database) (roleId userId : UUID) : List AdminUser :=
  db.users.rows.filter fun user => decide ((user.id, roleId) ∈ db.userRoles ∧
    user.status = .active ∧ user.id ≠ userId)

structure AdminUserView where
  id : UUID
  username : Str
  displayName : Option Str
  status : AdminUserStatus
  authVersion : Nat
  roles : List Str

def userView (user : AdminUser) (codes : Finset Str) : AdminUserView :=
  ⟨user.id, user.username, user.displayName, user.status, user.authVersion, codes.sort⟩

structure RbacRoleView where
  id : UUID
  code : Str
  name : Str
  isSystem : Bool
  active : Bool
  permissions : List Str

def roleView (role : RbacRole) (codes : Finset Str) : RbacRoleView :=
  ⟨role.id, role.code, role.name, role.isSystem, role.active, codes.sort⟩

variable (caller : Caller)

def requireOwner (actor : AuthPrincipal) : Transaction Unit :=
  refuse (¬ actor.isOwner) (.ownerPrivilegesRequired (py "Owner privileges are required"))

def loadUserForUpdate (userId : UUID) : Transaction AdminUser := do
  let rows ← forUpdate (fun db : Database => (db.users.find userId).toList.map AdminUser.id)
    (fun id => [.user id]) fun db id => db.users.find id
  match rows.head? with
  | none => .raise (.adminUserNotFound (py "administrator user not found"))
  | some row => return caller.loaded row

/-- `", ".join(sorted(codes))`. -/
def joinCodes (codes : Finset Str) : Str := List.intercalate (py ", ") codes.sort

/-- `_resolve_roles`. -/
def resolveRoles (codes : List Str) : Transaction (List RbacRole) :=
  if codes = [] then return []
  else do
    let roles ← forUpdate
      (fun db : Database => (db.roles.rows.filter fun role => decide (role.code ∈ codes)).map
        RbacRole.id)
      (fun id => [.role id]) fun db id => db.roles.find id
    let missing := codes.toFinset \ (roles.map RbacRole.code).toFinset
    refuse (missing ≠ ∅) (.invalidRbacBinding (py "unknown role codes: " ++ joinCodes missing))
    let inactive := ((roles.filter fun role => !role.active).map RbacRole.code).toFinset
    refuse (inactive ≠ ∅) (.invalidRbacBinding (py "inactive role codes: " ++ joinCodes inactive))
    return roles

/-- `_resolve_permissions`. -/
def resolvePermissions (codes : List Str) : Transaction (List RbacPermission) :=
  if codes = [] then return []
  else do
    let permissions ← forUpdate
      (fun db : Database => (db.permissions.rows.filter fun permission =>
        decide (permission.code ∈ codes)).map RbacPermission.id)
      (fun id => [.permission id]) fun db id => db.permissions.find id
    let missing := codes.toFinset \ (permissions.map RbacPermission.code).toFinset
    refuse (missing ≠ ∅) (.invalidRbacBinding (py "unknown permission codes: " ++ joinCodes missing))
    return permissions

def lastOwner : AuthError := .lastActiveOwner (py "at least one active Owner must remain")

/-- `_assert_another_active_owner_exists`: the count is read with the owner role locked. -/
def assertAnotherActiveOwnerExists (excludingUserId : UUID) : Transaction Unit := do
  let owners ← forUpdate
    (fun db : Database => (db.roles.having ownerRoleCode).toList.map RbacRole.id)
    (fun id => [.role id]) fun db id => db.roles.find id
  match owners.head? with
  | none => .raise lastOwner
  | some owner =>
    let remaining ← select fun db => (otherActive db owner.id excludingUserId).length
    refuse (remaining = 0) lastOwner

/-- The check is made only under a condition. -/
def whenever (c : Prop) [Decidable c] (check : Transaction Unit) : Transaction Unit :=
  if c then check else return ()

/-- The version of a loaded user, one higher. -/
def versioned (users : List AdminUser) (row : AdminUser) : AdminUser :=
  match users.find? fun user => decide (user.id = row.id) with
  | some user => { row with authVersion := user.authVersion + 1 }
  | none => row

/-- The end of a session of one of the users, if it has not ended yet. -/
def revoked (users : List AdminUser) (reason : Str) (now : Time) (session : AdminSession) :
    AdminSession :=
  if session.userId ∈ users.map AdminUser.id ∧ session.revokedAt = none then
    { session with revokedAt := some now, revokedReason := some reason }
  else session

theorem versioned_keeps (users : List AdminUser) (row : AdminUser) :
    (versioned users row).id = row.id ∧
      (versioned users row).usernameNormalized = row.usernameNormalized := by
  unfold versioned
  split <;> exact ⟨rfl, rfl⟩

theorem versioned_status (users : List AdminUser) (row : AdminUser) :
    (versioned users row).status = row.status := by
  unfold versioned
  split <;> rfl

theorem revoked_keeps (users : List AdminUser) (reason : Str) (now : Time) (session : AdminSession) :
    (revoked users reason now session).id = session.id ∧
      (revoked users reason now session).tokenHash = session.tokenHash := by
  unfold revoked
  split <;> exact ⟨rfl, rfl⟩

/-- What `_invalidate_users` writes. -/
def invalidated (users : List AdminUser) (reason : Str) (now : Time) (db : Database) : Database :=
  { db with
    users := db.users.mapRows (versioned users) (versioned_keeps users)
    sessions := db.sessions.mapRows (revoked users reason now) (revoked_keeps users reason now) }

def invalidateUsers (users : List AdminUser) (reason : Str) (now : Time) : Transaction Unit :=
  if users = [] then return () else execute (invalidated users reason now)

structure AdminUserCreate where
  username : Str
  displayName : Option Str
  password : Str

def duplicateUser : AuthError :=
  .duplicateAdminIdentity (py "administrator username already exists")

/-- `id` is the primary key that the new row gets, `salt` that of the password hash. -/
def createUser (env : Environment) (payload : AdminUserCreate) (id : UUID) (salt : Nat) :
    Transaction AdminUserView :=
  match normalizeUsername env payload.username with
  | .error e => .raise e
  | .ok (canonical, normalized) => do
    let existing ← select fun db : Database => db.users.having normalized
    refuse (existing.isSome) duplicateUser
    let passwordHash ← hashPassword env salt payload.password
    let user : AdminUser := ⟨id, canonical, normalized, payload.displayName, passwordHash,
      .active, 1, none⟩
    insert (fun db : Database => (db.users.insert user).map fun users => { db with users })
      duplicateUser
    return userView user ∅

def setUserStatus (userId : UUID) (status : AdminUserStatus) (now : Time) :
    Transaction AdminUserView := do
  let user ← loadUserForUpdate caller userId
  let codes ← select fun db => roleCodes db user.id
  refuse (ownerRoleCode ∈ codes ∧ ¬ caller.actor.isOwner)
    (.ownerPrivilegesRequired (py "only an Owner can modify an Owner account"))
  if user.status = status then return userView user codes
  else do
    whenever (status = .disabled ∧ ownerRoleCode ∈ codes)
      (assertAnotherActiveOwnerExists user.id)
    execute fun db : Database =>
      db.updateUser user.id (fun row => { row with status }) fun _ => ⟨rfl, rfl⟩
    invalidateUsers [user] (py "admin_user_status_changed") now
    return userView { user with status, authVersion := user.authVersion + 1 } codes

def replaceUserRoles (userId : UUID) (codes : List Str) (now : Time) :
    Transaction AdminUserView := do
  requireOwner caller.actor
  let user ← loadUserForUpdate caller userId
  let roles ← resolveRoles codes
  let requestedCodes := (roles.map RbacRole.code).toFinset
  let currentIds ← forUpdate (fun db : Database => bound db.userRoles user.id)
    (fun roleId => [.userRole user.id roleId])
    fun db roleId => if (user.id, roleId) ∈ db.userRoles then some roleId else none
  let currentCodes ← select fun db => roleCodes db user.id
  if currentCodes = requestedCodes then return userView user currentCodes
  else do
    whenever (user.status = .active ∧ ownerRoleCode ∈ currentCodes ∧
      ownerRoleCode ∉ requestedCodes) (assertAnotherActiveOwnerExists user.id)
    let requestedIds := roles.map RbacRole.id
    execute fun db : Database => { db with
      userRoles := rebind db.userRoles user.id (currentIds.filter (· ∉ requestedIds))
        (requestedIds.filter (· ∉ currentIds)) }
    invalidateUsers [user] (py "admin_user_roles_changed") now
    return userView { user with authVersion := user.authVersion + 1 } requestedCodes

structure RbacRoleCreate where
  code : Str
  name : Str

def duplicateRole : AuthError := .duplicateAdminIdentity (py "role code already exists")

def createRole (payload : RbacRoleCreate) (id : UUID) : Transaction RbacRoleView := do
  requireOwner caller.actor
  refuse (payload.code = ownerRoleCode)
    (.systemRoleProtected (py "the Owner system role cannot be created or replaced"))
  let existing ← select fun db : Database => db.roles.having payload.code
  refuse (existing.isSome) duplicateRole
  let role : RbacRole := ⟨id, payload.code, payload.name, false, true⟩
  insert (fun db : Database => (db.roles.insert role).map fun roles => { db with roles })
    duplicateRole
  return roleView role ∅

def replaceRolePermissions (roleId : UUID) (codes : List Str) (now : Time) :
    Transaction RbacRoleView := do
  requireOwner caller.actor
  let rows ← forUpdate (fun db : Database => (db.roles.find roleId).toList.map RbacRole.id)
    (fun id => [.role id]) fun db id => db.roles.find id
  match rows.head? with
  | none => .raise (.adminRoleNotFound (py "role not found"))
  | some role => do
    refuse (role.code = ownerRoleCode)
      (.systemRoleProtected (py "the Owner system role has implicit full access"))
    let permissions ← resolvePermissions codes
    let requestedCodes := (permissions.map RbacPermission.code).toFinset
    let currentIds ← forUpdate (fun db : Database => bound db.rolePermissions role.id)
      (fun permissionId => [.rolePermission role.id permissionId])
      fun db permissionId =>
        if (role.id, permissionId) ∈ db.rolePermissions then some permissionId else none
    let currentCodes ← select fun db => permissionCodes db role.id
    if currentCodes = requestedCodes then return roleView role currentCodes
    else do
      let requestedIds := permissions.map RbacPermission.id
      execute fun db : Database => { db with
        rolePermissions := rebind db.rolePermissions role.id
          (currentIds.filter (· ∉ requestedIds)) (requestedIds.filter (· ∉ currentIds)) }
      let affected ← forUpdate (fun db => holders db role.id)
        (fun userId => [.user userId, .userRole userId role.id])
        fun db userId =>
          if (userId, role.id) ∈ db.userRoles then db.users.find userId else none
      invalidateUsers (affected.map caller.loaded) (py "admin_role_permissions_changed") now
      return roleView role requestedCodes

/-- The codes of `SYSTEM_PERMISSION_CATALOG`. -/
def systemPermissionCatalog : List Str :=
  ["admin.user.manage", "agent.read", "agent.question.override", "agent.run", "agent.write",
    "account.read", "account.write", "connection.read", "connection.write", "directory.read",
    "directory.sync", "message.read", "audit.read", "outbox.manage", "outbox.read",
    "plugin.deploy", "plugin.invoke", "plugin.read", "policy.evaluate", "policy.read",
    "policy.write"].map py

/-- `_owner_exists`. -/
def ownerExists (db : Database) : Bool :=
  db.users.rows.any fun user => decide (ownerRoleCode ∈ roleCodes db user.id)

/-- `ensure_system_permissions`; `newId` gives the rows their primary keys. -/
def ensureSystemPermissions (newId : Str → UUID) (db : Database) : Option Database :=
  (systemPermissionCatalog.filter fun code => (db.permissions.having code).isNone).foldlM
    (fun db code => (db.permissions.insert ⟨newId code, code⟩).map fun permissions =>
      { db with permissions }) db

def insertOwnerRole (roleId : UUID) (db : Database) : Option Database :=
  (db.roles.insert ⟨roleId, ownerRoleCode, py "Owner", true, true⟩).map fun roles =>
    { db with roles }

/-- `FOR UPDATE` finds the owner role, or the transaction inserts it. -/
def ownerRoleForBootstrap (roleId : UUID) : Transaction UUID := do
  let owners ← forUpdate
    (fun db : Database => (db.roles.having ownerRoleCode).toList.map RbacRole.id)
    (fun id => [.role id]) fun db id => db.roles.find id
  match owners.head? with
  | some owner => return owner.id
  | none => do
    insert (insertOwnerRole roleId) .bootstrapAlreadyCompleted
    return roleId

/-- The rows that make the new user the Owner. -/
def installOwner (owner : AdminUser) (ownerRoleId : UUID) (db : Database) : Option Database :=
  match db.bootstrapOwner with
  | some _ => none
  | none => (db.users.insert owner).map fun users =>
    { db with
      users
      userRoles := db.userRoles ++ [(owner.id, ownerRoleId)]
      bootstrapOwner := some owner.id }

structure BootstrapRequest where
  presentedToken : Str
  username : Str
  password : Str
  displayName : Option Str

/-- A violated constraint means that another request was first. -/
def bootstrapOwner (env : Environment) (request : BootstrapRequest) (roleId ownerId : UUID)
    (newId : Str → UUID) (salt : Nat) : Transaction AdminUser :=
  match normalizeUsername env request.username with
  | .error e => .raise e
  | .ok (canonical, normalized) => do
    let completed ← select fun db : Database => db.bootstrapOwner.isSome || ownerExists db
    refuse completed .bootstrapAlreadyCompleted
    match env.settings.authBootstrapToken with
    | none => .raise .bootstrapNotConfigured
    | some configured => do
      let configuredBytes ← encodeUtf8 env configured
      let presentedBytes ← encodeUtf8 env request.presentedToken
      refuse (configuredBytes ≠ presentedBytes) .invalidBootstrapToken
      let passwordHash ← hashPassword env salt request.password
      let ownerRoleId ← ownerRoleForBootstrap roleId
      insert (ensureSystemPermissions newId) .bootstrapAlreadyCompleted
      let owner : AdminUser := ⟨ownerId, canonical, normalized, request.displayName, passwordHash,
        .active, 1, none⟩
      insert (installOwner owner ownerRoleId) .bootstrapAlreadyCompleted
      return owner

end WechatBot.AdminRbac
