import WechatBot.AdminPrivileges
/-!
# A change of rights ends the sessions

What a user may do changes with the status of the account, with its roles and with what they
permit. Whoever changes the permissions of a role locks it before looking for those who have
it, and nobody is given a locked role: no holder is missed.
-/

namespace WechatBot.RightsChanges

open PyData ReadCommitted AuthModels AdminRbac OwnerSafety Promises AdminPrivileges
open Runs (run)
open UniqueTables (UniqueTable)

variable {held : Set Row} {d e : Database} {caller : Caller}

/-- The user may do what it could before. -/
structure SameRights (d e : Database) (k : UUID) : Prop where
  status : (e.users.find k).map (·.status) = (d.users.find k).map (·.status)
  roles : ∀ r, (k, r) ∈ e.userRoles ↔ (k, r) ∈ d.userRoles
  permissions : ∀ r p, (k, r) ∈ d.userRoles →
    ((r, p) ∈ e.rolePermissions ↔ (r, p) ∈ d.rolePermissions)

theorem SameRights.refl (d : Database) (k : UUID) : SameRights d d k :=
  ⟨rfl, fun _ => .rfl, fun _ _ _ => .rfl⟩

/-- No session of the user goes on, and the version of the account is one higher; that of
the caller's own account may be one that was read before. -/
structure Ended (caller : Caller) (d e : Database) (k : UUID) : Prop where
  sessions : ∀ session ∈ e.sessions.rows, session.userId = k → session.revokedAt ≠ none
  version : ∀ row, d.users.find k = some row → (∀ own ∈ caller.own, own.id ≠ k) →
    ∃ row', e.users.find k = some row' ∧ row'.authVersion = row.authVersion + 1

/-- Roles are bound to stored users only. -/
def Referenced (d : Database) : Prop := ∀ k r, (k, r) ∈ d.userRoles → (d.users.find k).isSome

structure Stays (held : Set Row) (d e : Database) : Prop where
  users : ∀ u row, .user u ∈ held → d.users.find u = some row → e.users.find u = some row
  bound : ∀ u r, .user u ∈ held → ((u, r) ∈ e.userRoles ↔ (u, r) ∈ d.userRoles)
  given : ∀ u r, .role r ∈ held → (u, r) ∈ e.userRoles → (u, r) ∈ d.userRoles
  referenced : Referenced d → Referenced e

structure Leaves (held : Set Row) (d e : Database) : Prop where
  users : ∀ u row, .user u ∉ held → d.users.find u = some row → e.users.find u = some row
  bound : ∀ u r, .user u ∉ held → ((u, r) ∈ e.userRoles ↔ (u, r) ∈ d.userRoles)
  given : ∀ u r, .role r ∉ held → (u, r) ∈ e.userRoles → (u, r) ∈ d.userRoles
  referenced : Referenced d → Referenced e

def rightsDiscipline : Discipline Row Database where
  keeps := Stays
  commits := Leaves
  refl _ _ := ⟨fun _ _ _ h => h, fun _ _ _ => .rfl, fun _ _ _ h => h, fun h => h⟩
  trans hab hbc :=
    { users := fun u row hu h => hbc.users u row hu (hab.users u row hu h)
      bound := fun u r hu => (hbc.bound u r hu).trans (hab.bound u r hu)
      given := fun u r hr h => hab.given u r hr (hbc.given u r hr h)
      referenced := fun h => hbc.referenced (hab.referenced h) }
  mono hsub h :=
    { users := fun u row hu => h.users u row (hsub hu)
      bound := fun u r hu => h.bound u r (hsub hu)
      given := fun u r hr => h.given u r (hsub hr)
      referenced := h.referenced }
  others hdisjoint h :=
    { users := fun u row hu => h.users u row fun hown => hdisjoint _ hown hu
      bound := fun u r hu => h.bound u r fun hown => hdisjoint _ hown hu
      given := fun u r hr => h.given u r fun hown => hdisjoint _ hown hr
      referenced := h.referenced }

theorem leaves_refl (held : Set Row) (d : Database) : Leaves held d d :=
  ⟨fun _ _ _ h => h, fun _ _ _ => .rfl, fun _ _ _ h => h, fun h => h⟩

/-- New rows leave the rights of the others. -/
theorem leaves_of_inserted (husers : ∀ k row, d.users.find k = some row → e.users.find k = some row)
    (hbound : e.userRoles = d.userRoles) : Leaves held d e where
  users u row _ h := husers u row h
  bound u r _ := by rw [hbound]
  given u r _ h := hbound ▸ h
  referenced h k r hr := by
    obtain ⟨row, hrow⟩ := Option.isSome_iff_exists.1 (h k r (hbound ▸ hr))
    rw [husers k row hrow]
    rfl

section Rules

variable {D : Discipline Row Database} {α : Type}

/-- Loading a user locks the row, which is then the stored one. -/
theorem wp_load {userId : UUID}
    {Q : AdminUser → Set Row → (Database → Option Database) → Database → Prop}
    (h : ∀ (held' : Set Row) (d' : Database) (row : AdminUser), held ⊆ held' →
      .user userId ∈ held' → D.keeps held d d' → d'.users.find userId = some row →
      Q (caller.loaded row) held' some d') :
    wp D Q (loadUserForUpdate caller userId) held some d := by
  apply wp_bind
  apply wp_forUpdate
  rintro a ha _ ⟨⟩ b hb _ ⟨⟩
  cases hfind : a.users.find userId with
  | none => trivial
  | some first =>
    have hid : first.id = userId := Tables.Table.find_key hfind
    cases hrow : b.users.find userId with
    | none => simp [hid, hrow, wp]
    | some row =>
      simp only [Option.toList_some, List.map_cons, List.map_nil, hid, List.filterMap_cons, hrow,
        List.filterMap_nil, List.head?_cons]
      exact h _ b row Set.subset_union_left (by simp) (D.trans ha hb) hrow

/-- The check of the Owners writes nothing. -/
theorem wp_checkOwners {userId : UUID}
    {Q : Unit → Set Row → (Database → Option Database) → Database → Prop}
    (h : ∀ held' d', held ⊆ held' → D.keeps held d d' → Q () held' some d') :
    wp D Q (assertAnotherActiveOwnerExists userId) held some d := by
  apply wp_bind
  apply wp_forUpdate
  rintro a ha _ ⟨⟩ b hb _ ⟨⟩
  generalize (List.filterMap _ _).head? = found
  cases found with
  | none => trivial
  | some owner =>
    apply wp_bind
    apply wp_select
    rintro c hc _ ⟨⟩
    apply wp_refuse
    intro hremaining
    exact h _ c Set.subset_union_left
      (D.trans ha (D.trans hb (D.mono Set.subset_union_left hc)))

/-- Resolving roles locks their rows. -/
theorem wp_lockRoles {codes : List Str}
    {Q : List RbacRole → Set Row → (Database → Option Database) → Database → Prop}
    (h : ∀ held' d' roles, held ⊆ held' → D.keeps held d d' →
      (∀ role ∈ roles, .role role.id ∈ held') → Q roles held' some d') :
    wp D Q (resolveRoles codes) held some d := by
  by_cases hcodes : codes = []
  · rw [resolveRoles, if_pos hcodes]
    exact h held d [] subset_rfl (D.refl held d) fun _ hrole => absurd hrole List.not_mem_nil
  · rw [resolveRoles, if_neg hcodes]
    apply wp_bind
    apply wp_forUpdate
    rintro a ha _ ⟨⟩ b hb _ ⟨⟩
    apply wp_bind
    apply wp_refuse
    intro hmissing
    apply wp_bind
    apply wp_refuse
    intro hinactive
    apply h _ b _ Set.subset_union_left (D.trans ha hb)
    intro role hrole
    obtain ⟨id, hid, hfind⟩ := List.mem_filterMap.1 hrole
    have hkey : role.id = id := Tables.Table.find_key hfind
    exact .inr (List.mem_flatMap.2 ⟨id, hid, by simp [hkey]⟩)

theorem wp_lockPermissions {codes : List Str}
    {Q : List RbacPermission → Set Row → (Database → Option Database) → Database → Prop}
    (h : ∀ held' d' permissions, held ⊆ held' → D.keeps held d d' → Q permissions held' some d') :
    wp D Q (resolvePermissions codes) held some d := by
  by_cases hcodes : codes = []
  · rw [resolvePermissions, if_pos hcodes]
    exact h held d [] subset_rfl (D.refl held d)
  · rw [resolvePermissions, if_neg hcodes]
    apply wp_bind
    apply wp_forUpdate
    rintro a ha _ ⟨⟩ b hb _ ⟨⟩
    apply wp_bind
    apply wp_refuse
    intro hmissing
    exact h _ b _ Set.subset_union_left (D.trans ha hb)

/-- A check that is made only in one case is proved in both. -/
theorem wp_guarded {c : Prop} [Decidable c] {check : Transaction Unit}
    {Q : Unit → Set Row → (Database → Option Database) → Database → Prop}
    {pending : Database → Option Database}
    (hcheck : c → wp D Q check held pending d) (hnot : ¬ c → Q () held pending d) :
    wp D Q (whenever c check) held pending d := by
  by_cases hc : c
  · rw [whenever, if_pos hc]
    exact hcheck hc
  · rw [whenever, if_neg hc]
    exact hnot hc

theorem wp_hash {env : Environment} {salt : Nat} {password : Str}
    {Q : Str → Set Row → (Database → Option Database) → Database → Prop}
    {pending : Database → Option Database} (h : ∀ hash, Q hash held pending d) :
    wp D Q (hashPassword env salt password) held pending d := by
  apply wp_bind
  apply wp_refuse
  intro hshort
  apply wp_bind
  unfold encodeUtf8
  cases env.utf8 password with
  | none => trivial
  | some bytes =>
    apply wp_bind
    apply wp_refuse
    intro hlong
    exact h _

end Rules

theorem loaded_other {row : AdminUser} (h : ∀ own ∈ caller.own, own.id ≠ row.id) :
    caller.loaded row = row := by
  unfold Caller.loaded
  split
  · rename_i own hown
    exact if_neg (h own (by simp [hown]))
  · rfl

/-- The users whose sessions are ended, with a row that may have changed before. -/
theorem ended_invalidated {users : List AdminUser} {reason : Str} {now : Time} {m : Database}
    {k : UUID} {row changed : AdminUser} (hrow : d.users.find k = some row)
    (hchanged : m.users.find k = some changed) (hin : ∃ user ∈ users, user.id = k)
    (hloaded : ∀ user ∈ users, user.id = k → user = caller.loaded row) :
    Ended caller d (invalidated users reason now m) k := by
  obtain ⟨user, huser, hid⟩ := hin
  constructor
  · intro session hsession hof
    have hstored : session ∈ (m.sessions.mapRows (revoked users reason now)
        (revoked_keeps users reason now)).rows := hsession
    obtain ⟨before, -, rfl⟩ := UniqueTable.mem_mapRows.1 hstored
    have hamong : k ∈ users.map AdminUser.id := List.mem_map.2 ⟨user, huser, hid⟩
    by_cases hopen : before.userId ∈ users.map AdminUser.id ∧ before.revokedAt = none
    · rw [revoked, if_pos hopen]
      exact Option.some_ne_none now
    · rw [revoked, if_neg hopen] at hof ⊢
      exact fun hnone => hopen ⟨hof ▸ hamong, hnone⟩
  · intro same hsame hown
    obtain rfl : row = same := Option.some.inj (hrow.symm.trans hsame)
    have hkey : changed.id = k := Tables.Table.find_key hchanged
    have hrowKey : row.id = k := Tables.Table.find_key hrow
    refine ⟨versioned users changed, ?_, ?_⟩
    · rw [invalidated, UniqueTable.find_mapRows, hchanged]
      rfl
    · cases hfound : users.find? fun user => decide (user.id = changed.id) with
      | none =>
        have hnone := List.find?_eq_none.1 hfound user huser
        simp [hid, hkey] at hnone
      | some found =>
        have hfoundKey : found.id = k := by
          simpa [hkey] using List.find?_some hfound
        have hsame : found = caller.loaded row :=
          hloaded found (List.mem_of_find?_eq_some hfound) hfoundKey
        rw [loaded_other (hrowKey ▸ hown)] at hsame
        simp [versioned, hfound, hsame]

/-- A change of one user leaves the rights of the others. -/
theorem sameRights_of_touches {u k : UUID} (h : Touches u d e) (hk : k ≠ u)
    (hpermissions : e.rolePermissions = d.rolePermissions) : SameRights d e k where
  status := by rw [h.users k hk]
  roles r := h.bound k r hk
  permissions r p _ := by rw [hpermissions]

/-- A change of a held user that gives held roles only leaves the others. -/
theorem leaves_of_touches {u : UUID} (hu : .user u ∈ held) (h : Touches u d e)
    (hfound : (e.users.find u).isSome)
    (hgiven : ∀ r, .role r ∉ held → (u, r) ∈ e.userRoles → (u, r) ∈ d.userRoles) :
    Leaves held d e where
  users k row hk hfind := (h.users k fun heq => hk (heq ▸ hu)).trans hfind
  bound k r hk := h.bound k r fun heq => hk (heq ▸ hu)
  given k r hr hmem := by
    by_cases hk : k = u
    · exact hk ▸ hgiven r hr (hk ▸ hmem)
    · exact (h.bound k r hk).1 hmem
  referenced hd k r hmem := by
    by_cases hk : k = u
    · exact hk ▸ hfound
    · rw [h.users k hk]
      exact hd k r ((h.bound k r hk).1 hmem)

/-- Every user of the database keeps its rights, or has no session any more. -/
def Concludes (caller : Caller) (d e : Database) : Prop :=
  ∀ k, (d.users.find k).isSome → SameRights d e k ∨ Ended caller d e k

/-- The transaction keeps the discipline and its promise. -/
def Does (promise : Database → Database → Prop) {α : Type} (p : Transaction α) (d : Database) : Prop :=
  wp rightsDiscipline (fun _ held pending d => ∀ d', Stays held d d' → ∀ e, pending d' = some e →
    Leaves held d' e ∧ promise d' e) p ∅ some d

/-- What is done is safe under the locks. -/
theorem Does.safe {promise : Database → Database → Prop} {p : Transaction Unit}
    (h : Does promise p d) : Safe rightsDiscipline p ∅ some d :=
  wp_mono (fun _ _ _ _ hdoes d' hd' e he => (hdoes d' hd' e he).1) h

/-- What is done keeps every weaker promise. -/
theorem Does.keeps {promise weaker : Database → Database → Prop} {p : Transaction Unit}
    (h : Does promise p d) (hweaker : ∀ d e, promise d e → weaker d e) :
    KeepsPromise rightsDiscipline weaker p ∅ some d :=
  wp_mono (fun _ _ _ _ hdoes d' hd' e he => hweaker d' e (hdoes d' hd' e he).2) h

theorem does_unchanged {d' : Database} (he : some d' = some e) :
    Leaves held d' e ∧ Concludes caller d' e := by
  obtain rfl := Option.some.inj he
  exact ⟨leaves_refl held d', fun k _ => .inl (SameRights.refl d' k)⟩

/-- A new user leaves the rights of all others. -/
theorem does_createUser (env : Environment) (payload : AdminUserCreate) (id : UUID) (salt : Nat)
    (d : Database) :
    Does (fun d e => ∀ k, (d.users.find k).isSome → SameRights d e k)
      (createUser env payload id salt) d := by
  unfold createUser
  cases normalizeUsername env payload.username with
  | error e => trivial
  | ok names =>
    apply wp_bind
    apply wp_select
    rintro read hread _ ⟨⟩
    apply wp_bind
    apply wp_refuse
    intro hfree
    apply wp_bind
    apply wp_hash
    intro hash
    apply wp_bind
    apply wp_insert
    intro d' hd' m hm e he
    obtain ⟨users, hinsert, rfl⟩ := Option.map_eq_some_iff.1 he
    have hkept : ∀ k row, m.users.find k = some row → users.find k = some row :=
      fun k row h => UniqueTable.insert_keeps hinsert h
    refine ⟨leaves_of_inserted hkept rfl, fun k hk => ⟨?_, fun _ => .rfl, fun _ _ _ => .rfl⟩⟩
    obtain ⟨row, hrow⟩ := Option.isSome_iff_exists.1 hk
    rw [hrow, hkept k row hrow]

/-- A new role leaves all rights. -/
theorem does_createRole (caller : Caller) (payload : RbacRoleCreate) (id : UUID) (d : Database) :
    Does (Concludes caller) (createRole caller payload id) d := by
  apply wp_bind
  apply wp_refuse
  intro howner
  apply wp_bind
  apply wp_refuse
  intro hcode
  apply wp_bind
  apply wp_select
  rintro read hread _ ⟨⟩
  apply wp_bind
  apply wp_refuse
  intro hfree
  apply wp_bind
  apply wp_insert
  intro d' hd' m hm e he
  obtain ⟨roles, hinsert, rfl⟩ := Option.map_eq_some_iff.1 he
  exact ⟨leaves_of_inserted (fun _ _ h => h) rfl,
    fun k _ => .inl ⟨rfl, fun _ => .rfl, fun _ _ _ => .rfl⟩⟩

/-- A change of one locked account that ends with the end of its sessions. -/
theorem concludes_account {u : UUID} {row changed : AdminUser} {reason : Str} {now : Time}
    {m : Database} (hu : .user u ∈ held) (hrow : d.users.find u = some row)
    (hchanged : m.users.find u = some changed) (htouches : Touches u d m)
    (hpermissions : m.rolePermissions = d.rolePermissions)
    (hgiven : ∀ r, .role r ∉ held → (u, r) ∈ m.userRoles → (u, r) ∈ d.userRoles) :
    Leaves held d (invalidated [caller.loaded row] reason now m) ∧
      Concludes caller d (invalidated [caller.loaded row] reason now m) := by
  have hid : (caller.loaded row).id = u :=
    (caller.loaded_id row).trans (Tables.Table.find_key hrow)
  have hall : Touches u d (invalidated [caller.loaded row] reason now m) :=
    htouches.trans (hid ▸ touches_invalidated)
  constructor
  · apply leaves_of_touches hu hall _ hgiven
    rw [invalidated, UniqueTable.find_mapRows, hchanged]
    rfl
  · intro k _
    by_cases hk : k = u
    · subst hk
      refine .inr (ended_invalidated hrow hchanged ⟨_, List.mem_singleton_self _, hid⟩ ?_)
      exact fun user huser _ => List.mem_singleton.1 huser
    · exact .inl (sameRights_of_touches hall hk hpermissions)

/-- A change of a status ends the sessions of the user whose rights it changes. -/
theorem does_setUserStatus (caller : Caller) (userId : UUID) (status : AdminUserStatus) (now : Time)
    (d : Database) : Does (Concludes caller) (setUserStatus caller userId status now) d := by
  apply wp_bind
  apply wp_load
  intro held first row _ hu _ hrow
  have hid : (caller.loaded row).id = userId :=
    (caller.loaded_id row).trans (Tables.Table.find_key hrow)
  apply wp_bind
  apply wp_select
  rintro read hread _ ⟨⟩
  apply wp_bind
  apply wp_refuse
  intro hrights
  rw [hid]
  by_cases hsame : (caller.loaded row).status = status
  · rw [if_pos hsame]
    exact fun d' _ e he => does_unchanged he
  rw [if_neg hsame]
  have hwrites : ∀ more d', held ⊆ more → Stays held read d' →
      wp rightsDiscipline (fun _ held pending d => ∀ d', Stays held d d' → ∀ e,
        pending d' = some e → Leaves held d' e ∧ Concludes caller d' e) (do
        Txn.execute fun db : Database =>
          db.updateUser userId (fun row => { row with status }) fun _ => ⟨rfl, rfl⟩
        invalidateUsers [caller.loaded row] (py "admin_user_status_changed") now
        return userView { caller.loaded row with
          status, authVersion := (caller.loaded row).authVersion + 1 } (roleCodes read userId))
        more some d' := by
    intro more d' hmore hd'
    apply wp_bind
    apply wp_execute
    intro m hm
    apply wp_bind
    rw [invalidateUsers, if_neg (List.cons_ne_nil _ _)]
    apply wp_execute
    rintro n hn e he _ ⟨⟩
    have hrow' : e.users.find userId = some row :=
      (rightsDiscipline.trans hm (rightsDiscipline.trans hn he)).users userId row (hmore hu)
        (hd'.users userId row hu (hread.users userId row hu hrow))
    have hkey : row.id = userId := Tables.Table.find_key hrow
    apply concludes_account (hmore hu) hrow' _ (touches_updateUser _) rfl fun _ _ h => h
    · exact { row with status }
    · simp [find_updateUser, hrow', hkey]
  apply wp_bind
  apply wp_guarded
  · intro hneeded
    apply wp_checkOwners
    exact hwrites
  · exact fun hnot => hwrites held read subset_rfl (rightsDiscipline.refl held read)

/-- New roles end the sessions of the user whose rights they change. -/
theorem does_replaceUserRoles (caller : Caller) (userId : UUID) (codes : List Str) (now : Time)
    (d : Database) : Does (Concludes caller) (replaceUserRoles caller userId codes now) d := by
  apply wp_bind
  apply wp_refuse
  intro howner
  apply wp_bind
  apply wp_load
  intro first loaded row _ hfirst _ hfind
  have hid : (caller.loaded row).id = userId :=
    (caller.loaded_id row).trans (Tables.Table.find_key hfind)
  apply wp_bind
  apply wp_lockRoles
  intro second resolved roles hsecond hresolved hroles
  rw [hid]
  apply wp_bind
  apply wp_forUpdate
  rintro a ha _ ⟨⟩ b hb _ ⟨⟩
  generalize List.filterMap _ _ = currentIds
  generalize hheld : second ∪ _ = held
  have hsub : second ⊆ held := hheld ▸ Set.subset_union_left
  have hu : .user userId ∈ held := hsub (hsecond hfirst)
  apply wp_bind
  apply wp_select
  rintro read hread _ ⟨⟩
  have hsince : Stays second resolved read :=
    rightsDiscipline.trans (rightsDiscipline.trans ha hb) (rightsDiscipline.mono hsub hread)
  have hrow : read.users.find userId = some row :=
    hsince.users userId row (hsecond hfirst) (hresolved.users userId row hfirst hfind)
  by_cases hsame : roleCodes read userId = (roles.map RbacRole.code).toFinset
  · rw [if_pos hsame]
    exact fun d' _ e he => does_unchanged he
  rw [if_neg hsame]
  have hwrites : ∀ more d', held ⊆ more → Stays held read d' →
      wp rightsDiscipline (fun _ held pending d => ∀ d', Stays held d d' → ∀ e,
        pending d' = some e → Leaves held d' e ∧ Concludes caller d' e) (do
        Txn.execute fun db : Database => { db with
          userRoles := rebind db.userRoles userId (currentIds.filter (· ∉ roles.map RbacRole.id))
            ((roles.map RbacRole.id).filter (· ∉ currentIds)) }
        invalidateUsers [caller.loaded row] (py "admin_user_roles_changed") now
        return userView { caller.loaded row with
          authVersion := (caller.loaded row).authVersion + 1 } (roles.map RbacRole.code).toFinset)
        more some d' := by
    intro more d' hmore hd'
    apply wp_bind
    apply wp_execute
    intro m hm
    apply wp_bind
    rw [invalidateUsers, if_neg (List.cons_ne_nil _ _)]
    apply wp_execute
    rintro n hn e he _ ⟨⟩
    have hrow' : e.users.find userId = some row :=
      (rightsDiscipline.trans hm (rightsDiscipline.trans hn he)).users userId row (hmore hu)
        (hd'.users userId row hu hrow)
    have hgiven : ∀ r, .role r ∉ more → (userId, r) ∈ rebind e.userRoles userId
        (currentIds.filter (· ∉ roles.map RbacRole.id))
        ((roles.map RbacRole.id).filter (· ∉ currentIds)) → (userId, r) ∈ e.userRoles := by
      intro r hfree hmem
      rcases mem_rebind.1 hmem with ⟨hbound, -⟩ | ⟨-, hadded⟩
      · exact hbound
      · -- the roles that are given are locked
        obtain ⟨role, hrole, rfl⟩ := List.mem_map.1 (List.mem_filter.1 hadded).1
        exact absurd (hmore (hsub (hroles role hrole))) hfree
    exact concludes_account (hmore hu) hrow' hrow' touches_rebind rfl hgiven
  apply wp_bind
  apply wp_guarded
  · intro hneeded
    apply wp_checkOwners
    exact hwrites
  · exact fun hnot => hwrites held read subset_rfl (rightsDiscipline.refl held read)

theorem sameRights_regranted {roleId k : UUID} {removed added : List UUID}
    (h : (k, roleId) ∉ d.userRoles) :
    SameRights d { d with rolePermissions := rebind d.rolePermissions roleId removed added } k where
  status := rfl
  roles _ := .rfl
  permissions r p hr := by
    have hne : r ≠ roleId := fun heq => h (heq ▸ hr)
    simp [mem_rebind, hne]

/-- New permissions of a locked role, with the end of the sessions of all who have it. -/
theorem concludes_holders {roleId : UUID} {removed added : List UUID} {rows : List AdminUser}
    {reason : Str} {now : Time}
    (hlocked : ∀ row ∈ rows, .user row.id ∈ held ∧ d.users.find row.id = some row)
    (hall : ∀ k, (k, roleId) ∈ d.userRoles → ∃ row ∈ rows, row.id = k) :
    Leaves held d (invalidated (rows.map caller.loaded) reason now
        { d with rolePermissions := rebind d.rolePermissions roleId removed added }) ∧
      Concludes caller d (invalidated (rows.map caller.loaded) reason now
        { d with rolePermissions := rebind d.rolePermissions roleId removed added }) := by
  generalize hm : ({ d with rolePermissions := rebind d.rolePermissions roleId removed added } :
    Database) = m
  have husers : m.users = d.users := by rw [← hm]
  have hbound : m.userRoles = d.userRoles := by rw [← hm]
  have hfind : ∀ k, (invalidated (rows.map caller.loaded) reason now m).users.find k =
      (d.users.find k).map (versioned (rows.map caller.loaded)) := by
    intro k
    rw [invalidated, UniqueTable.find_mapRows, husers]
  constructor
  · refine ⟨?_, fun u r _ => ?_, fun u r _ h => hbound ▸ h, ?_⟩
    · intro u row hu hrow
      have hother : ∀ user ∈ rows.map caller.loaded, user.id ≠ u := by
        rintro user huser rfl
        obtain ⟨stored, hstored, rfl⟩ := List.mem_map.1 huser
        exact hu ((caller.loaded_id stored).symm ▸ (hlocked stored hstored).1)
      rw [find_invalidated_other hother, husers]
      exact hrow
    · change (u, r) ∈ m.userRoles ↔ _
      rw [hbound]
    · intro hd k r hmem
      rw [hfind, Option.isSome_map]
      exact hd k r (hbound ▸ hmem)
  · intro k hk
    obtain ⟨row, hrow⟩ := Option.isSome_iff_exists.1 hk
    by_cases hholder : (k, roleId) ∈ d.userRoles
    · obtain ⟨stored, hstored, rfl⟩ := hall k hholder
      have hsame : stored = row :=
        Option.some.inj ((hlocked stored hstored).2.symm.trans hrow)
      subst hsame
      refine .inr (ended_invalidated hrow (husers ▸ hrow)
        ⟨_, List.mem_map_of_mem hstored, caller.loaded_id stored⟩ ?_)
      intro user huser hid
      obtain ⟨other, hother, rfl⟩ := List.mem_map.1 huser
      rw [caller.loaded_id] at hid
      have hfound := (hlocked other hother).2
      rw [hid, hrow] at hfound
      rw [Option.some.inj hfound]
    · have hsame : SameRights d m k := hm ▸ sameRights_regranted hholder
      refine .inl ⟨?_, hsame.roles, hsame.permissions⟩
      rw [hfind, hrow]
      simp [versioned_status]

/-- The rows of the holders that the last query of the operation answers with, when it
finds them in `x` and reads them in `y`. -/
def affected (x y : Database) (roleId : UUID) : List AdminUser :=
  (holders x roleId).filterMap fun userId =>
    if (userId, roleId) ∈ y.userRoles then y.users.find userId else none

/-- Whoever has the role when its permissions change is among them. -/
theorem mem_affected {x y : Database} {roleId k : UUID} (hr : .role roleId ∈ held)
    (hx : Referenced x) (hxy : Stays held x y) (hk : (k, roleId) ∈ y.userRoles) :
    ∃ row ∈ affected x y roleId, row.id = k := by
  have hbefore : (k, roleId) ∈ x.userRoles := hxy.given k roleId hr hk
  obtain ⟨first, hfirst⟩ := Option.isSome_iff_exists.1 (hx k roleId hbefore)
  obtain ⟨row, hrow⟩ := Option.isSome_iff_exists.1 (hxy.referenced hx k roleId hk)
  have hfirstKey : first.id = k := Tables.Table.find_key hfirst
  have hholder : k ∈ holders x roleId := by
    refine List.mem_filter.2 ⟨List.mem_map.2 ⟨first, Tables.Table.find_mem hfirst, hfirstKey⟩, ?_⟩
    exact decide_eq_true hbefore
  refine ⟨row, List.mem_filterMap.2 ⟨k, hholder, ?_⟩, Tables.Table.find_key hrow⟩
  rw [if_pos hk, hrow]

/-- The rows of the holders of a role, which the query locks. -/
def holderRows (x : Database) (roleId : UUID) : Set Row :=
  {row | row ∈ (holders x roleId).flatMap fun userId => [.user userId, .userRole userId roleId]}

/-- The users affected by new permissions are locked. -/
theorem affected_locked {x y : Database} {roleId : UUID} {row : AdminUser}
    (hrow : row ∈ affected x y roleId) (hy : Stays (held ∪ holderRows x roleId) y d) :
    .user row.id ∈ held ∪ holderRows x roleId ∧ d.users.find row.id = some row := by
  obtain ⟨k, hk, hfound⟩ := List.mem_filterMap.1 hrow
  have hfind : y.users.find k = some row := (Option.ite_none_right_eq_some.1 hfound).2
  obtain rfl : row.id = k := Tables.Table.find_key hfind
  have hlocked : .user row.id ∈ held ∪ holderRows x roleId :=
    .inr (List.mem_flatMap.2 ⟨row.id, hk, by simp⟩)
  exact ⟨hlocked, hy.users row.id row hlocked hfind⟩

/-- New permissions end the sessions of all holders whose rights they change. -/
theorem does_replaceRolePermissions (caller : Caller) (roleId : UUID) (codes : List Str)
    (now : Time) (hd : Referenced d) :
    Does (Concludes caller) (replaceRolePermissions caller roleId codes now) d := by
  apply wp_bind
  apply wp_refuse
  intro howner
  apply wp_bind
  apply wp_forUpdate
  rintro a ha _ ⟨⟩ b hb _ ⟨⟩
  cases hfound : (List.filterMap _ _).head? with
  | none => trivial
  | some role =>
    obtain ⟨id, hid, hrole⟩ := List.mem_filterMap.1 (List.mem_of_head? hfound)
    have hkey : role.id = id := Tables.Table.find_key hrole
    have hlocked : Row.role role.id ∈ (∅ : Set Row) ∪ {row | row ∈ List.flatMap
        (fun id => [Row.role id]) ((a.roles.find roleId).toList.map RbacRole.id)} :=
      .inr (List.mem_flatMap.2 ⟨id, hid, by simp [hkey]⟩)
    apply wp_bind
    apply wp_refuse
    intro hcode
    apply wp_bind
    apply wp_lockPermissions
    intro second resolved permissions hsecond hresolved
    apply wp_bind
    apply wp_forUpdate
    rintro f hf _ ⟨⟩ g hg _ ⟨⟩
    generalize List.filterMap _ _ = currentIds
    generalize hheld : second ∪ _ = held
    have hsub : second ⊆ held := hheld ▸ Set.subset_union_left
    have hr : Row.role role.id ∈ held := hsub (hsecond hlocked)
    apply wp_bind
    apply wp_select
    rintro read hread _ ⟨⟩
    have hreferenced : Referenced read :=
      hread.referenced (hg.referenced (hf.referenced (hresolved.referenced
        (hb.referenced (ha.referenced hd)))))
    by_cases hsame : permissionCodes read role.id = (permissions.map RbacPermission.code).toFinset
    · rw [if_pos hsame]
      exact fun d' _ e he => does_unchanged he
    rw [if_neg hsame]
    apply wp_bind
    apply wp_execute
    intro m hm
    apply wp_bind
    apply wp_forUpdate
    rintro x hx _ ⟨⟩ y hy _ ⟨⟩
    show wp rightsDiscipline _ (invalidateUsers ((affected x y role.id).map caller.loaded)
      (py "admin_role_permissions_changed") now >>= _) (held ∪ holderRows x role.id) _ y
    have hx' : Referenced x := hx.referenced (hm.referenced hreferenced)
    have hall : ∀ d', Stays (held ∪ holderRows x role.id) y d' → ∀ k,
        (k, role.id) ∈ d'.userRoles → ∃ row ∈ affected x y role.id, row.id = k :=
      fun d' hd' k hk => mem_affected hr hx' hy (hd'.given k role.id (.inl hr) hk)
    apply wp_bind
    by_cases hnone : (affected x y role.id).map caller.loaded = []
    · rw [invalidateUsers, if_pos hnone]
      rintro d' hd' e ⟨⟩
      refine ⟨⟨fun _ _ _ h => h, fun _ _ _ => .rfl, fun _ _ _ h => h, fun h => h⟩, ?_⟩
      intro k hk
      refine .inl (sameRights_regranted fun hholder => ?_)
      obtain ⟨row, hrow, -⟩ := hall d' hd' k hholder
      rw [List.map_eq_nil_iff.1 hnone] at hrow
      exact absurd hrow List.not_mem_nil
    · rw [invalidateUsers, if_neg hnone]
      apply wp_execute
      rintro n hn d' hd' e ⟨⟩
      have hstays : Stays (held ∪ holderRows x role.id) y d' := rightsDiscipline.trans hn hd'
      exact concludes_holders (fun row hrow => affected_locked hrow hstays) (hall d' hstays)

/-- What the commit of a request does to the rights of the users. -/
def Invalidates (operation : Operation) (d e : Database) : Prop :=
  ∀ k, (d.users.find k).isSome → SameRights d e k ∨
    ∃ caller, madeBy operation = some caller ∧ Ended caller d e k

theorem Concludes.invalidates {operation : Operation} (hmade : madeBy operation = some caller)
    (h : Concludes caller d e) : Invalidates operation d e :=
  fun k hk => (h k hk).imp_right fun hended => ⟨caller, hmade, hended⟩

/-- A request and the end of its transaction. -/
theorem Does.made {operation : Operation} {α : Type} {p : Transaction α}
    (hmade : madeBy operation = some caller) (h : Does (Concludes caller) p d) :
    Does (Invalidates operation) (do let _ ← p; return ()) d := by
  apply wp_bind
  refine wp_mono (fun _ _ _ _ hdoes d' hd' e he => ?_) h
  obtain ⟨hleaves, hconcludes⟩ := hdoes d' hd' e he
  exact ⟨hleaves, hconcludes.invalidates hmade⟩

/-- Every operation ends the sessions of those whose rights it changes. -/
theorem does_program (env : Environment) (now : Time) (operation : Operation) (hd : Referenced d) :
    Does (Invalidates operation) (operation.program env now) d := by
  cases operation with
  | createUser payload id salt =>
    apply wp_bind
    refine wp_mono (fun _ _ _ _ hdoes d' hd' e he => ?_) (does_createUser env payload id salt d)
    obtain ⟨hleaves, hsame⟩ := hdoes d' hd' e he
    exact ⟨hleaves, fun k hk => .inl (hsame k hk)⟩
  | setUserStatus caller userId status => exact (does_setUserStatus caller userId status now d).made rfl
  | replaceUserRoles caller userId codes =>
    exact (does_replaceUserRoles caller userId codes now d).made rfl
  | createRole caller payload id => exact (does_createRole caller payload id d).made rfl
  | replaceRolePermissions caller roleId codes =>
    exact (does_replaceRolePermissions caller roleId codes now hd).made rfl

variable {σ : Type} [DecidableEq σ]

/-- Whatever administrators do at the same time, a commit that changes what a user may do
ends every session of that user, and raises the version of the account by one unless the
user is the caller itself. -/
theorem rights_end_sessions (env : Environment) (hd : Referenced d)
    {actions : List (ReadCommitted.Action σ Submission)} {a : ReadCommitted.Action σ Submission}
    {w w' : World σ Row Database AuthError Unit}
    (hrun : run (World.step (Submission.program env)) (World.atRest d) actions = some w)
    (hstep : w.step (Submission.program env) a = some w') {k : UUID}
    (hstored : (w.committed.users.find k).isSome)
    (hchanged : ¬ SameRights w.committed w'.committed k) :
    ∃ i submission caller, a = .advance i ∧ begun i actions = some submission ∧
      madeBy submission.2 = some caller ∧ Ended caller w.committed w'.committed k := by
  have hcommit := commit_keeps_promise (D := rightsDiscipline) (I := Referenced)
    (fun submission : Submission => Invalidates submission.2)
    (fun submission d hd => (does_program env submission.1 submission.2 hd).safe)
    (fun hleaves hd => hleaves.referenced hd)
    (fun submission d hd => (does_program env submission.1 submission.2 hd).keeps
      fun _ _ h => h) hd hrun hstep
  rcases hcommit with hsame | ⟨i, submission, hadvance, hbegun, hinvalidates⟩
  · exact absurd (hsame ▸ SameRights.refl _ k) hchanged
  · obtain ⟨caller, hmade, hended⟩ := (hinvalidates k hstored).resolve_left hchanged
    exact ⟨i, submission, caller, hadvance, hbegun, hmade, hended⟩

theorem bootstrapped_stored : bootstrapped.2.userRoles.all (fun pair =>
    (bootstrapped.2.users.find pair.1).isSome) = true := by
  decide +kernel

theorem bootstrapped_referenced : Referenced bootstrapped.2 :=
  fun k r hmem => List.all_eq_true.1 bootstrapped_stored (k, r) hmem

theorem rights_end_sessions_grant : ∃ (w w' : World Bool Row Database AuthError Unit)
    (i : Bool) (submission : Submission) (caller : Caller),
    w.step (Submission.program sampleEnvironment) (.advance false) = some w' ∧
      begun i grantActions = some submission ∧ madeBy submission.2 = some caller ∧
      Ended caller w.committed w'.committed 3 := by
  obtain ⟨w, w', hrun, hstep, hstored, hbefore, hafter⟩ := grant_commits
  have hchanged : ¬ SameRights w.committed w'.committed 3 :=
    fun hsame => hbefore ((hsame.roles 1).1 hafter)
  obtain ⟨i, submission, caller, -, hbegun, hmade, hended⟩ :=
    rights_end_sessions sampleEnvironment bootstrapped_referenced hrun hstep hstored hchanged
  exact ⟨w, w', i, submission, caller, hstep, hbegun, hmade, hended⟩

end WechatBot.RightsChanges
