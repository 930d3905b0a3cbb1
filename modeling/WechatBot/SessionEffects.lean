import WechatBot.AuthService
import WechatBot.OwnerSafety
/-!
# What the operations do to sessions

Each operation by itself: which accounts it changes, and what becomes of the sessions that
are there. An administrator's operation ends every open session of each account that it
changes.
-/

namespace WechatBot.SessionEffects

open PyData ReadCommitted AuthModels AdminRbac AuthService OwnerSafety
open UniqueTables (UniqueTable)

def statusOf (d : Database) (userId : UUID) : Option AdminUserStatus :=
  (d.users.find userId).map AdminUser.status

/-- The status of a user is another one. -/
def StatusChanged (d e : Database) (userId : UUID) : Prop := statusOf e userId ≠ statusOf d userId

/-- The user has gained or lost a role. -/
def RolesChanged (d e : Database) (userId : UUID) : Prop :=
  ∃ roleId, ¬ ((userId, roleId) ∈ e.userRoles ↔ (userId, roleId) ∈ d.userRoles)

/-- A role that the user held has gained or lost a permission. -/
def PermissionsChanged (d e : Database) (userId : UUID) : Prop :=
  ∃ roleId permissionId, (userId, roleId) ∈ d.userRoles ∧
    ¬ ((roleId, permissionId) ∈ e.rolePermissions ↔ (roleId, permissionId) ∈ d.rolePermissions)

/-- Nothing that counts for the user's sessions has changed. -/
structure Unaffected (d e : Database) (userId : UUID) : Prop where
  status : ¬ StatusChanged d e userId
  roles : ¬ RolesChanged d e userId
  permissions : ¬ PermissionsChanged d e userId

/-- Who keeps status and bindings is unaffected. -/
theorem unaffected_of_same {d e : Database} {userId : UUID}
    (hstatus : statusOf e userId = statusOf d userId) (hroles : e.userRoles = d.userRoles)
    (hpermissions : e.rolePermissions = d.rolePermissions) : Unaffected d e userId where
  status := by simp [StatusChanged, hstatus]
  roles := by simp [RolesChanged, hroles]
  permissions := by simp [PermissionsChanged, hpermissions]

theorem statusOf_updateUser {d : Database} {id userId : UUID} {change : AdminUser → AdminUser}
    {hchange : ∀ user, (change user).id = user.id ∧
      (change user).usernameNormalized = user.usernameNormalized}
    (h : id = userId → ∀ user, (change user).status = user.status) :
    statusOf (d.updateUser id change hchange) userId = statusOf d userId := by
  simp only [statusOf, find_updateUser, Option.map_map]
  cases hfind : d.users.find userId with
  | none => rfl
  | some user =>
    have hid : user.id = userId := Tables.Table.find_key hfind
    by_cases hsame : id = userId
    · simp [hid, hsame, h hsame]
    · simp [hid, Ne.symm hsame]

theorem statusOf_invalidated {users : List AdminUser} {reason : Str} {now : Time} {d : Database}
    {userId : UUID} : statusOf (invalidated users reason now d) userId = statusOf d userId := by
  simp only [statusOf, invalidated, UniqueTable.find_mapRows, Option.map_map]
  congr 1
  funext row
  exact versioned_status users row

/-- Ending sessions changes nobody's rights. -/
theorem unaffected_invalidated {users : List AdminUser} {reason : Str} {now : Time} {d e : Database}
    {userId : UUID} (h : Unaffected d e userId) :
    Unaffected d (invalidated users reason now e) userId where
  status := by
    rw [StatusChanged, statusOf_invalidated]
    exact h.status
  roles := h.roles
  permissions := h.permissions

/-- Every account but those of `users` is as it was, and their open sessions have ended. -/
structure Administers (users : List AdminUser) (reason : Str) (now : Time) (d e : Database) :
    Prop where
  sessions : e.sessions.rows = d.sessions.rows.map (revoked users reason now)
  persist : ∀ u, (d.users.find u).isSome → (e.users.find u).isSome
  others : ∀ u, (d.users.find u).isSome → u ∉ users.map AdminUser.id → Unaffected d e u

theorem revoked_nil (reason : Str) (now : Time) : revoked [] reason now = id := by
  funext session
  simp [revoked]

theorem administers_unchanged {reason : Str} {now : Time} {d : Database} :
    Administers [] reason now d d where
  sessions := by simp [revoked_nil]
  persist _ h := h
  others _ _ _ := unaffected_of_same rfl rfl rfl

/-- New rows change no account. -/
theorem administers_inserted {reason : Str} {now : Time} {d e : Database}
    (hsessions : e.sessions = d.sessions)
    (husers : ∀ u row, d.users.find u = some row → e.users.find u = some row)
    (hroles : e.userRoles = d.userRoles) (hpermissions : e.rolePermissions = d.rolePermissions) :
    Administers [] reason now d e where
  sessions := by simp [revoked_nil, hsessions]
  persist u h := by
    obtain ⟨row, hrow⟩ := Option.isSome_iff_exists.1 h
    simp [husers u row hrow]
  others u h _ := by
    obtain ⟨row, hrow⟩ := Option.isSome_iff_exists.1 h
    exact unaffected_of_same (by simp [statusOf, hrow, husers u row hrow]) hroles hpermissions

theorem persist_invalidated {users : List AdminUser} {reason : Str} {now : Time} {d : Database}
    {u : UUID} (h : (d.users.find u).isSome) :
    ((invalidated users reason now d).users.find u).isSome := by
  simpa [invalidated, UniqueTable.find_mapRows] using h

/-- The loaded user is the one that was asked for. -/
theorem loadUserForUpdate_alone {caller : Caller} {userId : UUID} {user : AdminUser}
    {d e : Database} (h : (loadUserForUpdate caller userId).alone d = .ok (user, e)) :
    user.id = userId ∧ e = d := by
  obtain ⟨rows, m, hread, hrest⟩ := Txn.bind_alone.1 h
  obtain ⟨rfl, rfl⟩ := Txn.forUpdate_alone.1 hread
  cases hfind : d.users.find userId with
  | none => simp [hfind] at hrest
  | some row =>
    have hid : row.id = userId := Tables.Table.find_key hfind
    simp only [hfind, Option.toList_some, List.map_cons, List.map_nil, List.filterMap_cons, hid,
      List.filterMap_nil, List.head?_cons, Txn.pure_alone, Prod.mk.injEq] at hrest
    obtain ⟨rfl, rfl⟩ := hrest
    exact ⟨(caller.loaded_id row).trans hid, rfl⟩

theorem assertAnotherActiveOwnerExists_alone {userId : UUID} {u : Unit} {d e : Database}
    (h : (assertAnotherActiveOwnerExists userId).alone d = .ok (u, e)) : e = d := by
  obtain ⟨owners, m, hread, hrest⟩ := Txn.bind_alone.1 h
  obtain ⟨-, rfl⟩ := Txn.forUpdate_alone.1 hread
  cases howner : owners.head? with
  | none => simp [howner, lastOwner] at hrest
  | some owner =>
    simp only [howner] at hrest
    obtain ⟨remaining, m', hcount, hcheck⟩ := Txn.bind_alone.1 hrest
    obtain ⟨-, rfl⟩ := Txn.select_alone.1 hcount
    exact (Txn.refuse_alone.1 hcheck).2.symm

/-- A check that only reads leaves the database, whether it is made or not. -/
theorem whenever_alone {c : Prop} [Decidable c] {check : Transaction Unit} {u : Unit}
    {d e : Database} (hcheck : check.alone d = .ok (u, e) → e = d)
    (h : (whenever c check).alone d = .ok (u, e)) : e = d := by
  by_cases hc : c
  · rw [whenever, if_pos hc] at h
    exact hcheck h
  · rw [whenever, if_neg hc] at h
    exact (Prod.mk.inj (Txn.pure_alone.1 h)).2.symm

/-- The sessions of the given users end, and nothing else. -/
theorem invalidateUsers_alone {users : List AdminUser} {reason : Str} {now : Time} {u : Unit}
    {d e : Database} (h : (invalidateUsers users reason now).alone d = .ok (u, e)) :
    (users = [] ∧ e = d) ∨ e = invalidated users reason now d := by
  by_cases husers : users = []
  · rw [invalidateUsers, if_pos husers] at h
    exact .inl ⟨husers, (Prod.mk.inj (Txn.pure_alone.1 h)).2.symm⟩
  · rw [invalidateUsers, if_neg husers] at h
    exact .inr (Txn.execute_alone.1 h).symm

/-- A change of a status ends the sessions of the user that it affects. -/
theorem setUserStatus_administers {caller : Caller} {userId : UUID} {status : AdminUserStatus}
    {now : Time} {view : AdminUserView} {d e : Database}
    (h : (setUserStatus caller userId status now).alone d = .ok (view, e)) :
    ∃ users reason, Administers users reason now d e := by
  obtain ⟨user, d₁, hload, h₁⟩ := Txn.bind_alone.1 h
  obtain ⟨hid, rfl⟩ := loadUserForUpdate_alone hload
  obtain ⟨codes, d₂, hcodes, h₂⟩ := Txn.bind_alone.1 h₁
  obtain ⟨-, rfl⟩ := Txn.select_alone.1 hcodes
  obtain ⟨allowed, d₃, hrights, h₃⟩ := Txn.bind_alone.1 h₂
  obtain ⟨-, rfl⟩ := Txn.refuse_alone.1 hrights
  by_cases hsame : user.status = status
  · rw [if_pos hsame] at h₃
    obtain rfl := (Prod.mk.inj (Txn.pure_alone.1 h₃)).2
    exact ⟨[], [], administers_unchanged⟩
  rw [if_neg hsame] at h₃
  obtain ⟨checked, d₄, hcheck, h₄⟩ := Txn.bind_alone.1 h₃
  obtain rfl := whenever_alone assertAnotherActiveOwnerExists_alone hcheck
  obtain ⟨written, d₅, hwrite, h₅⟩ := Txn.bind_alone.1 h₄
  obtain rfl := Txn.execute_alone.1 hwrite
  obtain ⟨ended, d₆, hinvalidate, h₆⟩ := Txn.bind_alone.1 h₅
  obtain rfl := (Prod.mk.inj (Txn.pure_alone.1 h₆)).2
  obtain ⟨hnone, -⟩ | rfl := invalidateUsers_alone hinvalidate
  · cases hnone
  refine ⟨[user], _, rfl, ?_, ?_⟩
  · intro u hu
    apply persist_invalidated
    simpa [find_updateUser] using hu
  · intro u hu hother
    refine unaffected_of_same ?_ rfl rfl
    rw [statusOf_invalidated]
    apply statusOf_updateUser
    rintro rfl
    simp at hother

theorem resolveRoles_alone {codes : List Str} {roles : List RbacRole} {d e : Database}
    (h : (resolveRoles codes).alone d = .ok (roles, e)) : e = d := by
  by_cases hcodes : codes = []
  · rw [resolveRoles, if_pos hcodes] at h
    exact (Prod.mk.inj (Txn.pure_alone.1 h)).2.symm
  · rw [resolveRoles, if_neg hcodes] at h
    obtain ⟨found, d₁, hread, h₁⟩ := Txn.bind_alone.1 h
    obtain ⟨-, rfl⟩ := Txn.forUpdate_alone.1 hread
    obtain ⟨known, d₂, hknown, h₂⟩ := Txn.bind_alone.1 h₁
    obtain ⟨-, rfl⟩ := Txn.refuse_alone.1 hknown
    obtain ⟨usable, d₃, husable, h₃⟩ := Txn.bind_alone.1 h₂
    obtain ⟨-, rfl⟩ := Txn.refuse_alone.1 husable
    exact (Prod.mk.inj (Txn.pure_alone.1 h₃)).2.symm

theorem resolvePermissions_alone {codes : List Str} {permissions : List RbacPermission}
    {d e : Database} (h : (resolvePermissions codes).alone d = .ok (permissions, e)) : e = d := by
  by_cases hcodes : codes = []
  · rw [resolvePermissions, if_pos hcodes] at h
    exact (Prod.mk.inj (Txn.pure_alone.1 h)).2.symm
  · rw [resolvePermissions, if_neg hcodes] at h
    obtain ⟨found, d₁, hread, h₁⟩ := Txn.bind_alone.1 h
    obtain ⟨-, rfl⟩ := Txn.forUpdate_alone.1 hread
    obtain ⟨known, d₂, hknown, h₂⟩ := Txn.bind_alone.1 h₁
    obtain ⟨-, rfl⟩ := Txn.refuse_alone.1 hknown
    exact (Prod.mk.inj (Txn.pure_alone.1 h₂)).2.symm

/-- New roles end the sessions of the user that they affect. -/
theorem replaceUserRoles_administers {caller : Caller} {userId : UUID} {codes : List Str}
    {now : Time} {view : AdminUserView} {d e : Database}
    (h : (replaceUserRoles caller userId codes now).alone d = .ok (view, e)) :
    ∃ users reason, Administers users reason now d e := by
  obtain ⟨allowed, d₁, hrights, h₁⟩ := Txn.bind_alone.1 h
  obtain ⟨-, rfl⟩ := Txn.refuse_alone.1 hrights
  obtain ⟨user, d₂, hload, h₂⟩ := Txn.bind_alone.1 h₁
  obtain ⟨hid, rfl⟩ := loadUserForUpdate_alone hload
  obtain ⟨roles, d₃, hroles, h₃⟩ := Txn.bind_alone.1 h₂
  obtain rfl := resolveRoles_alone hroles
  obtain ⟨currentIds, d₄, hcurrent, h₄⟩ := Txn.bind_alone.1 h₃
  obtain ⟨-, rfl⟩ := Txn.forUpdate_alone.1 hcurrent
  obtain ⟨currentCodes, d₅, hcodes, h₅⟩ := Txn.bind_alone.1 h₄
  obtain ⟨-, rfl⟩ := Txn.select_alone.1 hcodes
  by_cases hsame : currentCodes = (roles.map RbacRole.code).toFinset
  · rw [if_pos hsame] at h₅
    obtain rfl := (Prod.mk.inj (Txn.pure_alone.1 h₅)).2
    exact ⟨[], [], administers_unchanged⟩
  rw [if_neg hsame] at h₅
  obtain ⟨checked, d₆, hcheck, h₆⟩ := Txn.bind_alone.1 h₅
  obtain rfl := whenever_alone assertAnotherActiveOwnerExists_alone hcheck
  obtain ⟨written, d₇, hwrite, h₇⟩ := Txn.bind_alone.1 h₆
  obtain rfl := Txn.execute_alone.1 hwrite
  obtain ⟨ended, d₈, hinvalidate, h₈⟩ := Txn.bind_alone.1 h₇
  obtain rfl := (Prod.mk.inj (Txn.pure_alone.1 h₈)).2
  obtain ⟨hnone, -⟩ | rfl := invalidateUsers_alone hinvalidate
  · cases hnone
  refine ⟨[user], _, rfl, fun u hu => persist_invalidated hu, ?_⟩
  intro u hu hother
  have hne : u ≠ user.id := by simpa using hother
  apply unaffected_invalidated
  refine ⟨?_, ?_, ?_⟩
  · exact fun h => h rfl
  · rintro ⟨roleId, hchanged⟩
    exact hchanged (by simp [mem_rebind, hne])
  · rintro ⟨roleId, permissionId, -, hchanged⟩
    exact hchanged .rfl

/-- Who is bound to a role is among its holders. -/
theorem mem_holders {d : Database} {roleId userId : UUID} (hbound : (userId, roleId) ∈ d.userRoles)
    (huser : (d.users.find userId).isSome) : userId ∈ holders d roleId := by
  obtain ⟨row, hrow⟩ := Option.isSome_iff_exists.1 huser
  simp only [holders, List.mem_filter, List.mem_map, decide_eq_true_eq]
  exact ⟨⟨row, Tables.Table.find_mem hrow, Tables.Table.find_key hrow⟩, hbound⟩

/-- The users that a change of the role's permissions loads. -/
def affectedUsers (caller : Caller) (d : Database) (roleId : UUID) : List AdminUser :=
  ((holders d roleId).filterMap fun userId =>
    if (userId, roleId) ∈ d.userRoles then d.users.find userId else none).map caller.loaded

/-- Every holder of the role is among the affected users. -/
theorem mem_affectedUsers {caller : Caller} {d : Database} {roleId userId : UUID}
    (hbound : (userId, roleId) ∈ d.userRoles) (huser : (d.users.find userId).isSome) :
    userId ∈ (affectedUsers caller d roleId).map AdminUser.id := by
  obtain ⟨row, hrow⟩ := Option.isSome_iff_exists.1 huser
  have hfound : (if (userId, roleId) ∈ d.userRoles then d.users.find userId else none) = some row := by
    rw [if_pos hbound, hrow]
  have hid : (caller.loaded row).id = userId :=
    (caller.loaded_id row).trans (Tables.Table.find_key hrow)
  rw [← hid]
  apply List.mem_map_of_mem
  apply List.mem_map_of_mem
  exact List.mem_filterMap.2 ⟨userId, mem_holders hbound huser, hfound⟩

/-- New permissions of one role affect its holders only. -/
theorem unaffected_regranted {d : Database} {roleId userId : UUID} {removed added : List UUID}
    (h : (userId, roleId) ∉ d.userRoles) :
    Unaffected d { d with rolePermissions := rebind d.rolePermissions roleId removed added }
      userId where
  status h := h rfl
  roles := fun ⟨_, hchanged⟩ => hchanged .rfl
  permissions := by
    rintro ⟨other, permissionId, hbound, hchanged⟩
    have hne : other ≠ roleId := by
      rintro rfl
      exact h hbound
    exact hchanged (by simp [mem_rebind, hne])

/-- New permissions end the sessions of the holders that they affect. -/
theorem replaceRolePermissions_administers {caller : Caller} {roleId : UUID} {codes : List Str}
    {now : Time} {view : RbacRoleView} {d e : Database}
    (h : (replaceRolePermissions caller roleId codes now).alone d = .ok (view, e)) :
    ∃ users reason, Administers users reason now d e := by
  obtain ⟨allowed, d₁, hrights, h₁⟩ := Txn.bind_alone.1 h
  obtain ⟨-, rfl⟩ := Txn.refuse_alone.1 hrights
  obtain ⟨rows, d₂, hread, h₂⟩ := Txn.bind_alone.1 h₁
  obtain ⟨-, rfl⟩ := Txn.forUpdate_alone.1 hread
  cases hrole : rows.head? with
  | none => simp [hrole] at h₂
  | some role =>
    simp only [hrole] at h₂
    obtain ⟨usable, d₃, husable, h₃⟩ := Txn.bind_alone.1 h₂
    obtain ⟨-, rfl⟩ := Txn.refuse_alone.1 husable
    obtain ⟨permissions, d₄, hpermissions, h₄⟩ := Txn.bind_alone.1 h₃
    obtain rfl := resolvePermissions_alone hpermissions
    obtain ⟨currentIds, d₅, hcurrent, h₅⟩ := Txn.bind_alone.1 h₄
    obtain ⟨-, rfl⟩ := Txn.forUpdate_alone.1 hcurrent
    obtain ⟨currentCodes, d₆, hcodes, h₆⟩ := Txn.bind_alone.1 h₅
    obtain ⟨-, rfl⟩ := Txn.select_alone.1 hcodes
    by_cases hsame : currentCodes = (permissions.map RbacPermission.code).toFinset
    · rw [if_pos hsame] at h₆
      obtain rfl := (Prod.mk.inj (Txn.pure_alone.1 h₆)).2
      exact ⟨[], [], administers_unchanged⟩
    rw [if_neg hsame] at h₆
    obtain ⟨written, d₇, hwrite, h₇⟩ := Txn.bind_alone.1 h₆
    obtain rfl := Txn.execute_alone.1 hwrite
    obtain ⟨affected, d₈, haffected, h₈⟩ := Txn.bind_alone.1 h₇
    obtain ⟨rfl, rfl⟩ := Txn.forUpdate_alone.1 haffected
    obtain ⟨ended, d₉, hinvalidate, h₉⟩ := Txn.bind_alone.1 h₈
    obtain rfl := (Prod.mk.inj (Txn.pure_alone.1 h₉)).2
    have hothers : ∀ u, (d₄.users.find u).isSome →
        u ∉ (affectedUsers caller d₄ role.id).map AdminUser.id → (u, role.id) ∉ d₄.userRoles :=
      fun u hu hother hbound => hother (mem_affectedUsers hbound hu)
    change (invalidateUsers (affectedUsers caller d₄ role.id) _ now).alone _ = _ at hinvalidate
    obtain ⟨hnone, rfl⟩ | rfl := invalidateUsers_alone hinvalidate
    · refine ⟨[], [], by simp [revoked_nil], fun u hu => hu, fun u hu _ => ?_⟩
      apply unaffected_regranted
      apply hothers u hu
      rw [hnone]
      exact List.not_mem_nil
    · refine ⟨_, _, rfl, fun u hu => persist_invalidated hu, fun u hu hother => ?_⟩
      apply unaffected_invalidated
      exact unaffected_regranted (hothers u hu hother)

theorem encodeUtf8_alone {env : Environment} {s : Str} {bytes : List UInt8} {d e : Database}
    (h : (encodeUtf8 env s).alone d = .ok (bytes, e)) : env.utf8 s = some bytes ∧ e = d := by
  unfold encodeUtf8 at h
  cases hbytes : env.utf8 s with
  | none => simp [hbytes] at h
  | some found =>
    simp only [hbytes, Txn.done_alone, Prod.mk.injEq] at h
    exact ⟨congrArg some h.1, h.2.symm⟩

theorem hashPassword_alone {env : Environment} {salt : Nat} {password hash : Str} {d e : Database}
    (h : (hashPassword env salt password).alone d = .ok (hash, e)) : e = d := by
  obtain ⟨long, d₁, hlong, h₁⟩ := Txn.bind_alone.1 h
  obtain ⟨-, rfl⟩ := Txn.refuse_alone.1 hlong
  obtain ⟨bytes, d₂, hbytes, h₂⟩ := Txn.bind_alone.1 h₁
  obtain ⟨-, rfl⟩ := encodeUtf8_alone hbytes
  obtain ⟨short, d₃, hshort, h₃⟩ := Txn.bind_alone.1 h₂
  obtain ⟨-, rfl⟩ := Txn.refuse_alone.1 hshort
  exact (Prod.mk.inj (Txn.pure_alone.1 h₃)).2.symm

/-- A new user affects nobody. -/
theorem createUser_administers {env : Environment} {payload : AdminUserCreate} {id : UUID}
    {salt : Nat} {view : AdminUserView} {now : Time} {d e : Database}
    (h : (createUser env payload id salt).alone d = .ok (view, e)) :
    ∃ users reason, Administers users reason now d e := by
  unfold createUser at h
  cases hname : normalizeUsername env payload.username with
  | error error => simp [hname] at h
  | ok names =>
    simp only [hname] at h
    obtain ⟨existing, d₁, hread, h₁⟩ := Txn.bind_alone.1 h
    obtain ⟨-, rfl⟩ := Txn.select_alone.1 hread
    obtain ⟨free, d₂, hfree, h₂⟩ := Txn.bind_alone.1 h₁
    obtain ⟨-, rfl⟩ := Txn.refuse_alone.1 hfree
    obtain ⟨hash, d₃, hhash, h₃⟩ := Txn.bind_alone.1 h₂
    obtain rfl := hashPassword_alone hhash
    obtain ⟨inserted, d₄, hinserted, h₄⟩ := Txn.bind_alone.1 h₃
    obtain rfl := (Prod.mk.inj (Txn.pure_alone.1 h₄)).2
    have hinserted := Txn.insert_alone.1 hinserted
    obtain ⟨users, hinsert, rfl⟩ := Option.map_eq_some_iff.1 hinserted
    exact ⟨[], [], administers_inserted rfl
      (fun _ _ hfind => UniqueTable.insert_keeps hinsert hfind) rfl rfl⟩

theorem createRole_administers {caller : Caller} {payload : RbacRoleCreate} {id : UUID}
    {view : RbacRoleView} {now : Time} {d e : Database}
    (h : (createRole caller payload id).alone d = .ok (view, e)) :
    ∃ users reason, Administers users reason now d e := by
  obtain ⟨allowed, d₁, hrights, h₁⟩ := Txn.bind_alone.1 h
  obtain ⟨-, rfl⟩ := Txn.refuse_alone.1 hrights
  obtain ⟨usable, d₂, husable, h₂⟩ := Txn.bind_alone.1 h₁
  obtain ⟨-, rfl⟩ := Txn.refuse_alone.1 husable
  obtain ⟨existing, d₃, hread, h₃⟩ := Txn.bind_alone.1 h₂
  obtain ⟨-, rfl⟩ := Txn.select_alone.1 hread
  obtain ⟨free, d₄, hfree, h₄⟩ := Txn.bind_alone.1 h₃
  obtain ⟨-, rfl⟩ := Txn.refuse_alone.1 hfree
  obtain ⟨inserted, d₅, hinserted, h₅⟩ := Txn.bind_alone.1 h₄
  obtain rfl := (Prod.mk.inj (Txn.pure_alone.1 h₅)).2
  have hinserted := Txn.insert_alone.1 hinserted
  obtain ⟨roles, hinsert, rfl⟩ := Option.map_eq_some_iff.1 hinserted
  exact ⟨[], [], administers_inserted rfl (fun _ _ hfind => hfind) rfl rfl⟩

/-- Every operation ends the sessions of those whom it affects. -/
theorem operation_administers {env : Environment} {now : Time} {operation : Operation} {u : Unit}
    {d e : Database} (h : (operation.program env now).alone d = .ok (u, e)) :
    ∃ users reason, Administers users reason now d e := by
  cases operation with
  | createUser payload id salt =>
    obtain ⟨view, m, hview, hdone⟩ := Txn.bind_alone.1 h
    obtain rfl := (Prod.mk.inj (Txn.pure_alone.1 hdone)).2
    exact createUser_administers hview
  | setUserStatus caller userId status =>
    obtain ⟨view, m, hview, hdone⟩ := Txn.bind_alone.1 h
    obtain rfl := (Prod.mk.inj (Txn.pure_alone.1 hdone)).2
    exact setUserStatus_administers hview
  | replaceUserRoles caller userId codes =>
    obtain ⟨view, m, hview, hdone⟩ := Txn.bind_alone.1 h
    obtain rfl := (Prod.mk.inj (Txn.pure_alone.1 hdone)).2
    exact replaceUserRoles_administers hview
  | createRole caller payload id =>
    obtain ⟨view, m, hview, hdone⟩ := Txn.bind_alone.1 h
    obtain rfl := (Prod.mk.inj (Txn.pure_alone.1 hdone)).2
    exact createRole_administers hview
  | replaceRolePermissions caller roleId codes =>
    obtain ⟨view, m, hview, hdone⟩ := Txn.bind_alone.1 h
    obtain rfl := (Prod.mk.inj (Txn.pure_alone.1 hdone)).2
    exact replaceRolePermissions_administers hview

/-- The accounts are as they were. -/
structure SameAccounts (d e : Database) : Prop where
  status : ∀ u, statusOf e u = statusOf d u
  roles : e.userRoles = d.userRoles
  permissions : e.rolePermissions = d.rolePermissions

theorem SameAccounts.refl (d : Database) : SameAccounts d d := ⟨fun _ => rfl, rfl, rfl⟩

theorem SameAccounts.trans {d m e : Database} (h₁ : SameAccounts d m) (h₂ : SameAccounts m e) :
    SameAccounts d e :=
  ⟨fun u => (h₂.status u).trans (h₁.status u), h₂.roles.trans h₁.roles,
    h₂.permissions.trans h₁.permissions⟩

/-- Where the accounts are the same nobody is affected. -/
theorem SameAccounts.unaffected {d e : Database} (h : SameAccounts d e) (u : UUID) :
    Unaffected d e u :=
  unaffected_of_same (h.status u) h.roles h.permissions

theorem SameAccounts.persist {d e : Database} (h : SameAccounts d e) {u : UUID}
    (hu : (d.users.find u).isSome) : (e.users.find u).isSome := by
  have hstatus := congrArg Option.isSome (h.status u)
  simpa [statusOf, hu] using hstatus

/-- The accounts and the sessions are as they were. -/
structure Quiet (d e : Database) : Prop extends SameAccounts d e where
  sessions : e.sessions = d.sessions

theorem Quiet.refl (d : Database) : Quiet d d := ⟨.refl d, rfl⟩

theorem Quiet.trans {d m e : Database} (h₁ : Quiet d m) (h₂ : Quiet m e) : Quiet d e :=
  ⟨h₁.toSameAccounts.trans h₂.toSameAccounts, h₂.sessions.trans h₁.sessions⟩

theorem quiet_updateUser {d : Database} {id : UUID} {change : AdminUser → AdminUser}
    {hchange : ∀ user, (change user).id = user.id ∧
      (change user).usernameNormalized = user.usernameNormalized}
    (h : ∀ user, (change user).status = user.status) : Quiet d (d.updateUser id change hchange) :=
  ⟨⟨fun _ => statusOf_updateUser fun _ => h, rfl, rfl⟩, rfl⟩

theorem hashToken_alone {env : Environment} {token hash : Str} {d e : Database}
    (h : (hashToken env token).alone d = .ok (hash, e)) :
    (env.utf8 token).map env.sha256 = some hash ∧ e = d := by
  obtain ⟨bytes, d₁, hbytes, h₁⟩ := Txn.bind_alone.1 h
  obtain ⟨hutf8, rfl⟩ := encodeUtf8_alone hbytes
  obtain ⟨rfl, rfl⟩ := Prod.mk.inj (Txn.pure_alone.1 h₁)
  exact ⟨by rw [hutf8]; rfl, rfl⟩

theorem loadThrottle_alone {dimension : LoginThrottleDimension} {keyHash : Str}
    {record : Option AuthLoginThrottle} {d e : Database}
    (h : (loadThrottle dimension keyHash).alone d = .ok (record, e)) : e = d := by
  obtain ⟨rows, d₁, hread, h₁⟩ := Txn.bind_alone.1 h
  obtain ⟨-, rfl⟩ := Txn.forUpdate_alone.1 hread
  exact (Prod.mk.inj (Txn.pure_alone.1 h₁)).2.symm

/-- A failed login leaves sessions and rights. -/
theorem recordLoginFailure_quiet {env : Environment} {dimension : LoginThrottleDimension}
    {keyHash : Str} {now : Time} {u : Unit} {d e : Database}
    (h : (recordLoginFailure env dimension keyHash now).alone d = .ok (u, e)) : Quiet d e := by
  obtain ⟨record, d₁, hread, h₁⟩ := Txn.bind_alone.1 h
  obtain rfl := loadThrottle_alone hread
  cases record with
  | none =>
    have hinserted := Txn.insert_alone.1 h₁
    obtain ⟨throttles, -, rfl⟩ := Option.map_eq_some_iff.1 hinserted
    exact ⟨⟨fun _ => rfl, rfl, rfl⟩, rfl⟩
  | some record =>
    obtain rfl := Txn.execute_alone.1 h₁
    exact ⟨⟨fun _ => rfl, rfl, rfl⟩, rfl⟩

theorem verifyPassword_alone {env : Environment} {hash password : Str} {valid : Bool}
    {d e : Database} (h : (verifyPassword env hash password).alone d = .ok (valid, e)) : e = d := by
  obtain ⟨bytes, d₁, hbytes, h₁⟩ := Txn.bind_alone.1 h
  obtain ⟨-, rfl⟩ := encodeUtf8_alone hbytes
  exact (Prod.mk.inj (Txn.pure_alone.1 h₁)).2.symm

/-- The user that a login finds is stored. -/
theorem checkCredentials_alone {env : Environment} {name : Str × Bool} {password : Str}
    {found : Option AdminUser} {d e : Database}
    (h : (checkCredentials env name password).alone d = .ok (found, e)) :
    e = d ∧ ∀ user, found = some user → d.users.find user.id = some user := by
  obtain ⟨user, d₁, hread, h₁⟩ := Txn.bind_alone.1 h
  obtain ⟨hlookup, rfl⟩ := Txn.select_alone.1 hread
  cases user with
  | none =>
    obtain ⟨valid, d₂, hvalid, h₂⟩ := Txn.bind_alone.1 h₁
    obtain rfl := verifyPassword_alone hvalid
    obtain ⟨rfl, rfl⟩ := Prod.mk.inj (Txn.pure_alone.1 h₂)
    exact ⟨rfl, nofun⟩
  | some user =>
    obtain ⟨valid, d₂, hvalid, h₂⟩ := Txn.bind_alone.1 h₁
    obtain rfl := verifyPassword_alone hvalid
    obtain ⟨rfl, rfl⟩ := Prod.mk.inj (Txn.pure_alone.1 h₂)
    refine ⟨rfl, fun other hother => ?_⟩
    obtain ⟨-, hsame⟩ := Option.ite_none_right_eq_some.1 hother
    obtain rfl := Option.some.inj hsame
    have hmem : d₂.users.having name.1 = some user := by
      by_cases hname : name.2 = true
      · simpa [hname] using hlookup
      · simp [hname] at hlookup
    exact Tables.Table.mem_iff_find.1 (UniqueTable.having_eq_some.1 hmem).1

theorem rehash_quiet {env : Environment} {user : AdminUser} {password : Str} {salt : Nat} {u : Unit}
    {d e : Database} (h : (rehash env user password salt).alone d = .ok (u, e)) : Quiet d e := by
  by_cases hneeded : env.hasher.needsRehash user.passwordHash = true
  · rw [rehash, if_pos hneeded] at h
    obtain ⟨hash, d₁, hhash, h₁⟩ := Txn.bind_alone.1 h
    obtain rfl := hashPassword_alone hhash
    obtain rfl := Txn.execute_alone.1 h₁
    exact quiet_updateUser fun _ => rfl
  · rw [rehash, if_neg hneeded] at h
    obtain rfl := (Prod.mk.inj (Txn.pure_alone.1 h)).2
    exact .refl d

/-- A session that has just been issued. -/
structure Issued (env : Environment) (now : Time) (userId : UUID) (issued : IssuedSession)
    (session : AdminSession) : Prop where
  id : session.id = issued.sessionId
  user : session.userId = userId
  hash : (env.utf8 issued.token).map env.sha256 = some session.tokenHash
  absolute : session.absoluteExpiresAt = now + env.settings.authSessionAbsoluteSeconds * second
  idle : session.idleExpiresAt ≤ now + env.settings.authSessionIdleSeconds * second

/-- A login adds the session that it answers with. -/
theorem createSession_alone {env : Environment} {user : AdminUser} {id : UUID}
    {token csrfToken : Str} {now : Time} {issued : IssuedSession} {d e : Database}
    (h : (createSession env user id token csrfToken now).alone d = .ok (issued, e)) :
    SameAccounts d e ∧ ∃ session, Issued env now user.id issued session ∧
      d.sessions.insert session = some e.sessions := by
  obtain ⟨tokenHash, d₁, htoken, h₁⟩ := Txn.bind_alone.1 h
  obtain ⟨hhash, rfl⟩ := hashToken_alone htoken
  obtain ⟨csrfTokenHash, d₂, hcsrf, h₂⟩ := Txn.bind_alone.1 h₁
  obtain ⟨-, rfl⟩ := hashToken_alone hcsrf
  obtain ⟨inserted, d₃, hinserted, h₃⟩ := Txn.bind_alone.1 h₂
  obtain ⟨rfl, rfl⟩ := Prod.mk.inj (Txn.pure_alone.1 h₃)
  have hinserted := Txn.insert_alone.1 hinserted
  obtain ⟨sessions, hinsert, rfl⟩ := Option.map_eq_some_iff.1 hinserted
  exact ⟨⟨fun _ => rfl, rfl, rfl⟩, _, ⟨rfl, rfl, hhash, rfl, min_le_left _ _⟩, hinsert⟩

/-- What a login does: it leaves the sessions alone, or issues one to a user that is
stored. -/
theorem login_effect {env : Environment} {request : LoginRequest} {id : UUID}
    {token csrfToken : Str} {salt : Nat} {now : Time} {result : Except AuthError LoginResult}
    {d e : Database} (h : (login env request id token csrfToken salt now).alone d = .ok (result, e)) :
    SameAccounts d e ∧ ((∃ error, result = .error error ∧ e.sessions = d.sessions) ∨
      ∃ login session, result = .ok login ∧
        Issued env now login.principal.userId login.issuedSession session ∧
        (d.users.find session.userId).isSome ∧ d.sessions.insert session = some e.sessions) := by
  obtain ⟨accountKeyHash, d₁, haccount, h₁⟩ := Txn.bind_alone.1 h
  obtain ⟨-, rfl⟩ := hashToken_alone haccount
  obtain ⟨sourceKeyHash, d₂, hsource, h₂⟩ := Txn.bind_alone.1 h₁
  obtain ⟨-, rfl⟩ := hashToken_alone hsource
  obtain ⟨accountThrottle, d₃, haccountRead, h₃⟩ := Txn.bind_alone.1 h₂
  obtain rfl := loadThrottle_alone haccountRead
  obtain ⟨sourceThrottle, d₄, hsourceRead, h₄⟩ := Txn.bind_alone.1 h₃
  obtain rfl := loadThrottle_alone hsourceRead
  by_cases hretry : max (activeBlockSeconds accountThrottle now)
      (activeBlockSeconds sourceThrottle now) ≠ 0
  · rw [if_pos hretry] at h₄
    obtain ⟨rfl, rfl⟩ := Prod.mk.inj (Txn.pure_alone.1 h₄)
    exact ⟨.refl _, .inl ⟨_, rfl, rfl⟩⟩
  rw [if_neg hretry] at h₄
  obtain ⟨found, d₅, hchecked, h₅⟩ := Txn.bind_alone.1 h₄
  obtain ⟨rfl, hstored⟩ := checkCredentials_alone hchecked
  cases found with
  | none =>
    obtain ⟨first, d₆, hfirst, h₆⟩ := Txn.bind_alone.1 h₅
    obtain ⟨other, d₇, hother, h₇⟩ := Txn.bind_alone.1 h₆
    obtain ⟨rfl, rfl⟩ := Prod.mk.inj (Txn.pure_alone.1 h₇)
    have hquiet := (recordLoginFailure_quiet hfirst).trans (recordLoginFailure_quiet hother)
    exact ⟨hquiet.toSameAccounts, .inl ⟨_, rfl, hquiet.sessions⟩⟩
  | some user =>
    obtain ⟨rehashed, d₆, hrehash, h₆⟩ := Txn.bind_alone.1 h₅
    obtain ⟨seen, d₇, hseen, h₇⟩ := Txn.bind_alone.1 h₆
    have hlogin : Quiet d₆ d₇ := by
      rw [← Txn.execute_alone.1 hseen]
      exact quiet_updateUser fun _ => rfl
    obtain ⟨cleared, d₈, hcleared, h₈⟩ := Txn.bind_alone.1 h₇
    have hclear : Quiet d₇ d₈ := by
      rw [← Txn.execute_alone.1 hcleared]
      exact ⟨⟨fun _ => rfl, rfl, rfl⟩, rfl⟩
    obtain ⟨issued, d₉, hissued, h₉⟩ := Txn.bind_alone.1 h₈
    obtain ⟨principal, d₁₀, hprincipal, h₁₀⟩ := Txn.bind_alone.1 h₉
    obtain ⟨rfl, rfl⟩ := Txn.select_alone.1 hprincipal
    obtain ⟨rfl, rfl⟩ := Prod.mk.inj (Txn.pure_alone.1 h₁₀)
    obtain ⟨haccounts, session, hsession, hinsert⟩ := createSession_alone hissued
    have hquiet := ((rehash_quiet hrehash).trans hlogin).trans hclear
    refine ⟨hquiet.toSameAccounts.trans haccounts, .inr ⟨_, session, rfl, hsession, ?_, ?_⟩⟩
    · rw [hsession.user, hstored user rfl]
      rfl
    · rw [← hquiet.sessions]
      exact hinsert

/-- What an authentication does: a valid session is used, or some session ends. -/
inductive Authenticated (env : Environment) (token : Str) (now : Time) (d e : Database) :
    Except AuthError AuthContext → Prop where
  | used (context : AuthContext) (session : AdminSession) (hmem : session ∈ d.sessions.rows)
      (hcontext : context.principal.sessionId = session.id)
      (huser : context.principal.userId = session.userId)
      (hhash : (env.utf8 token).map env.sha256 = some session.tokenHash)
      (hopen : session.revokedAt = none) (habsolute : now < session.absoluteExpiresAt)
      (hidle : now < session.idleExpiresAt)
      (hsessions : e.sessions.rows = d.sessions.rows.map fun row =>
        if row.id = session.id then
          { row with
            lastSeenAt := now
            idleExpiresAt := idleExpiry env.settings now session.absoluteExpiresAt }
        else row) : Authenticated env token now d e (.ok context)
  | refused (error : AuthError) (ended : UUID → Bool) (reason : Str)
      (hsessions : e.sessions.rows = d.sessions.rows.map fun row =>
        if ended row.id then { row with revokedAt := some now, revokedReason := some reason }
        else row) : Authenticated env token now d e (.error error)

/-- A valid session is not revoked, and neither of its times is over. -/
theorem invalidReason_none {session : AdminSession} {user : AdminUser} {now : Time}
    (h : invalidReason session user now = none) :
    session.revokedAt = none ∧ now < session.absoluteExpiresAt ∧ now < session.idleExpiresAt := by
  grind [invalidReason]

/-- An authentication leaves the accounts, and ends in one of the ways of `Authenticated`. -/
theorem authenticateSession_effect {env : Environment} {token : Str} {now : Time}
    {result : Except AuthError AuthContext} {d e : Database}
    (h : (authenticateSession env token now).alone d = .ok (result, e)) :
    SameAccounts d e ∧ Authenticated env token now d e result := by
  obtain ⟨given, d₁, hgiven, h₁⟩ := Txn.bind_alone.1 h
  obtain ⟨-, rfl⟩ := Txn.refuse_alone.1 hgiven
  obtain ⟨tokenHash, d₂, htoken, h₂⟩ := Txn.bind_alone.1 h₁
  obtain ⟨hhash, rfl⟩ := hashToken_alone htoken
  obtain ⟨row, d₃, hread, h₃⟩ := Txn.bind_alone.1 h₂
  obtain ⟨hrow, rfl⟩ := Txn.select_alone.1 hread
  cases row with
  | none => simp at h₃
  | some pair =>
    obtain ⟨session, user⟩ := pair
    simp only [sessionOf, Option.bind_eq_some_iff, Option.map_eq_some_iff, Prod.mk.injEq] at hrow
    obtain ⟨session', hsession, user', huser, rfl, rfl⟩ := hrow
    obtain ⟨hmem, hcolumn⟩ := UniqueTable.having_eq_some.1 hsession
    cases hreason : invalidReason session' user' now with
    | some reason =>
      simp only [hreason] at h₃
      by_cases hopen : session'.revokedAt = none
      · rw [if_pos hopen] at h₃
        obtain ⟨updated, d₄, hupdated, h₄⟩ := Txn.bind_alone.1 h₃
        obtain rfl := Txn.execute_alone.1 hupdated
        obtain ⟨rfl, rfl⟩ := Prod.mk.inj (Txn.pure_alone.1 h₄)
        exact ⟨⟨fun _ => rfl, rfl, rfl⟩,
          .refused _ (fun id => decide (id = session'.id)) reason
            (by simp only [decide_eq_true_eq]; rfl)⟩
      · rw [if_neg hopen] at h₃
        obtain ⟨rfl, rfl⟩ := Prod.mk.inj (Txn.pure_alone.1 h₃)
        exact ⟨.refl _, .refused _ (fun _ => false) [] (by simp)⟩
    | none =>
      simp only [hreason] at h₃
      obtain ⟨updated, d₄, hupdated, h₄⟩ := Txn.bind_alone.1 h₃
      obtain rfl := Txn.execute_alone.1 hupdated
      obtain ⟨principal, d₅, hprincipal, h₅⟩ := Txn.bind_alone.1 h₄
      obtain ⟨rfl, rfl⟩ := Txn.select_alone.1 hprincipal
      obtain ⟨rfl, rfl⟩ := Prod.mk.inj (Txn.pure_alone.1 h₅)
      obtain ⟨hopen, habsolute, hidle⟩ := invalidReason_none hreason
      have hid : user'.id = session'.userId := Tables.Table.find_key huser
      exact ⟨⟨fun _ => rfl, rfl, rfl⟩, .used _ session' hmem rfl hid (by rw [hhash, hcolumn]) hopen
        habsolute hidle rfl⟩

/-- The session of the context has ended, if it is still there. -/
theorem revokeSession_effect {context : AuthContext} {reason : Str} {now : Time} {u : Unit}
    {d e : Database} (h : (revokeSession context reason now).alone d = .ok (u, e)) :
    SameAccounts d e ∧ ∃ change : AdminSession → AdminSession,
      e.sessions.rows = d.sessions.rows.map change ∧ ∀ row ∈ d.sessions.rows,
        (row.id = context.principal.sessionId ∧
          ((row.revokedAt ≠ none ∧ change row = row) ∨
            change row = { row with revokedAt := some now, revokedReason := some reason })) ∨
        (row.id ≠ context.principal.sessionId ∧ change row = row) := by
  obtain ⟨session, d₁, hread, h₁⟩ := Txn.bind_alone.1 h
  obtain ⟨hfind, rfl⟩ := Txn.select_alone.1 hread
  cases session with
  | none =>
    obtain rfl := (Prod.mk.inj (Txn.pure_alone.1 h₁)).2
    refine ⟨.refl d, id, by simp, fun row hrow => .inr ⟨?_, rfl⟩⟩
    intro hid
    rw [← hid, Tables.Table.mem_iff_find.1 hrow] at hfind
    cases hfind
  | some session =>
    have hid : session.id = context.principal.sessionId := Tables.Table.find_key hfind
    dsimp only at h₁
    by_cases hopen : session.revokedAt = none
    · rw [if_pos hopen] at h₁
      obtain rfl := Txn.execute_alone.1 h₁
      refine ⟨⟨fun _ => rfl, rfl, rfl⟩, _, rfl, fun row hrow => ?_⟩
      by_cases hrowId : row.id = context.principal.sessionId
      · exact .inl ⟨hrowId, .inr (if_pos (hrowId.trans hid.symm))⟩
      · exact .inr ⟨hrowId, if_neg fun h => hrowId (h.trans hid)⟩
    · rw [if_neg hopen] at h₁
      obtain rfl := (Prod.mk.inj (Txn.pure_alone.1 h₁)).2
      refine ⟨.refl d, id, by simp, fun row hrow => ?_⟩
      by_cases hrowId : row.id = context.principal.sessionId
      · have hsame : row = session := by
          rw [← hrowId, Tables.Table.mem_iff_find.1 hrow] at hfind
          exact Option.some.inj hfind
        exact .inl ⟨hrowId, .inl ⟨hsame ▸ hopen, rfl⟩⟩
      · exact .inr ⟨hrowId, rfl⟩

end WechatBot.SessionEffects
