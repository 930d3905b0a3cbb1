import WechatBot.AdminRbac
/-!
# There is always an active Owner

Disabling a user and taking roles away lock the user, and lock the owner role before they
count the Owners that would remain. Whoever holds the lock of a user may rely on that
user's row and roles; whoever holds the lock of the owner role, on every active Owner.
-/

namespace WechatBot.OwnerSafety

open PyData ReadCommitted AuthModels AdminRbac
open Runs (run)
open UniqueTables (UniqueTable)

def HoldsOwner (db : Database) (userId : UUID) : Prop :=
  ∃ role ∈ db.roles.rows, role.code = ownerRoleCode ∧ (userId, role.id) ∈ db.userRoles

/-- Some user with status ACTIVE holds the owner role. -/
def HasActiveOwner (db : Database) : Prop :=
  ∃ user ∈ db.users.rows, user.status = .active ∧ HoldsOwner db user.id

def Standing (db : Database) (userId : UUID) : Prop :=
  ∃ user, db.users.find userId = some user ∧ user.status = .active ∧ HoldsOwner db userId

theorem hasActiveOwner_iff {db : Database} : HasActiveOwner db ↔ ∃ userId, Standing db userId := by
  constructor
  · rintro ⟨user, hmem, hactive, hholds⟩
    exact ⟨user.id, user, Tables.Table.mem_iff_find.1 hmem, hactive, hholds⟩
  · rintro ⟨userId, user, hfind, hactive, hholds⟩
    have hid : user.id = userId := Tables.Table.find_key hfind
    exact ⟨user, Tables.Table.find_mem hfind, hactive, hid ▸ hholds⟩

theorem holdsOwner_iff {db : Database} {userId : UUID} :
    HoldsOwner db userId ↔
      ∃ owner, db.roles.having ownerRoleCode = some owner ∧ (userId, owner.id) ∈ db.userRoles := by
  simp only [HoldsOwner, UniqueTable.having_eq_some, and_assoc]

/-- A user's codes name the Owner exactly when the user holds the Owner's role. -/
theorem mem_roleCodes {db : Database} {userId : UUID} :
    ownerRoleCode ∈ roleCodes db userId ↔ HoldsOwner db userId := by
  simp [roleCodes, HoldsOwner, and_comm, and_left_comm]

/-- Who holds the Owner's role depends on that role and on the user's own bindings. -/
theorem holdsOwner_congr {d e : Database} {userId : UUID}
    (hroles : e.roles.having ownerRoleCode = d.roles.having ownerRoleCode)
    (hbound : ∀ roleId, (userId, roleId) ∈ e.userRoles ↔ (userId, roleId) ∈ d.userRoles) :
    HoldsOwner e userId ↔ HoldsOwner d userId := by
  simp only [holdsOwner_iff, hroles, hbound]

structure Keeps (held : Set Row) (d e : Database) : Prop where
  ownerRole : e.roles.having ownerRoleCode = d.roles.having ownerRoleCode
  users : ∀ u row, .user u ∈ held → d.users.find u = some row → e.users.find u = some row
  bound : ∀ u r, .user u ∈ held → ((u, r) ∈ e.userRoles ↔ (u, r) ∈ d.userRoles)
  owners : ∀ o u, d.roles.having ownerRoleCode = some o → .role o.id ∈ held →
    Standing d u → Standing e u

structure Commits (held : Set Row) (d e : Database) : Prop where
  ownerRole : e.roles.having ownerRoleCode = d.roles.having ownerRoleCode
  users : ∀ u row, .user u ∉ held → d.users.find u = some row → e.users.find u = some row
  bound : ∀ u r, .user u ∉ held → ((u, r) ∈ e.userRoles ↔ (u, r) ∈ d.userRoles)
  owners : ∀ o u, d.roles.having ownerRoleCode = some o → .role o.id ∉ held →
    Standing d u → Standing e u
  remains : ∀ u, Standing d u → ∃ v, Standing e v

def ownerDiscipline : Discipline Row Database where
  keeps := Keeps
  commits := Commits
  refl _ _ := ⟨rfl, fun _ _ _ h => h, fun _ _ _ => .rfl, fun _ _ _ _ h => h⟩
  trans hab hbc :=
    { ownerRole := hbc.ownerRole.trans hab.ownerRole
      users := fun u row hu h => hbc.users u row hu (hab.users u row hu h)
      bound := fun u r hu => (hbc.bound u r hu).trans (hab.bound u r hu)
      owners := fun o u ho hlock h =>
        hbc.owners o u (hab.ownerRole.trans ho) hlock (hab.owners o u ho hlock h) }
  mono hsub h :=
    { ownerRole := h.ownerRole
      users := fun u row hu => h.users u row (hsub hu)
      bound := fun u r hu => h.bound u r (hsub hu)
      owners := fun o u ho hlock => h.owners o u ho (hsub hlock) }
  others hdisjoint h :=
    { ownerRole := h.ownerRole
      users := fun u row hu => h.users u row fun hown => hdisjoint _ hown hu
      bound := fun u r hu => h.bound u r fun hown => hdisjoint _ hown hu
      owners := fun o u ho hlock => h.owners o u ho fun hown => hdisjoint _ hown hlock }

variable {held : Set Row} {d e : Database}

theorem commits_refl (held : Set Row) (d : Database) : Commits held d d :=
  ⟨rfl, fun _ _ _ h => h, fun _ _ _ => .rfl, fun _ _ _ _ h => h, fun u h => ⟨u, h⟩⟩

theorem committable_unchanged : Committable ownerDiscipline held some d := by
  rintro d' - e ⟨⟩
  exact commits_refl held d'

/-- An Owner whose row is held was one before. -/
theorem standing_of_keeps {u : UUID} {row : AdminUser} (hu : .user u ∈ held)
    (hrow : d.users.find u = some row) (h : Keeps held d e) (hs : Standing e u) : Standing d u := by
  obtain ⟨user, hfind, hactive, hholds⟩ := hs
  have hsame : user = row := Option.some.inj (hfind.symm.trans (h.users u row hu hrow))
  exact ⟨user, hsame ▸ hrow, hactive,
    (holdsOwner_congr h.ownerRole fun r => h.bound u r hu).1 hholds⟩

/-- Only the account of `u` differs, in its row or in its roles. -/
structure Touches (u : UUID) (d e : Database) : Prop where
  roles : e.roles = d.roles
  users : ∀ k, k ≠ u → e.users.find k = d.users.find k
  bound : ∀ k r, k ≠ u → ((k, r) ∈ e.userRoles ↔ (k, r) ∈ d.userRoles)

theorem Touches.trans {u : UUID} {d m e : Database} (h₁ : Touches u d m) (h₂ : Touches u m e) :
    Touches u d e where
  roles := h₂.roles.trans h₁.roles
  users k hk := (h₂.users k hk).trans (h₁.users k hk)
  bound k r hk := (h₂.bound k r hk).trans (h₁.bound k r hk)

/-- A change of one user leaves the other Owners. -/
theorem Touches.standing {u v : UUID} (h : Touches u d e) (hv : v ≠ u) (hs : Standing d v) :
    Standing e v := by
  obtain ⟨user, hfind, hactive, hholds⟩ := hs
  refine ⟨user, (h.users v hv).trans hfind, hactive, ?_⟩
  exact (holdsOwner_congr (by rw [h.roles]) fun r => h.bound v r hv).2 hholds

/-- The owner role is locked, and another active Owner is there. -/
def Guarded (held : Set Row) (d : Database) (u : UUID) : Prop :=
  ∃ o, d.roles.having ownerRoleCode = some o ∧ .role o.id ∈ held ∧ ∃ v, v ≠ u ∧ Standing d v

/-- What a guard has found stays so under its locks. -/
theorem Guarded.stable {u : UUID} (h : Guarded held d u) (hkeeps : Keeps held d e) :
    Guarded held e u := by
  obtain ⟨o, ho, hlock, v, hv, hs⟩ := h
  exact ⟨o, hkeeps.ownerRole.trans ho, hlock, v, hv, hkeeps.owners o v ho hlock hs⟩

/-- What a change of one locked account needs: that it takes away no active Owner, or that
it was guarded. -/
theorem commits_of_touches {u : UUID} (hu : .user u ∈ held) (h : Touches u d e)
    (hspared : Guarded held d u ∨ (Standing d u → Standing e u)) : Commits held d e where
  ownerRole := by rw [h.roles]
  users k row hk hfind := (h.users k fun heq => hk (heq ▸ hu)).trans hfind
  bound k r hk := h.bound k r fun heq => hk (heq ▸ hu)
  owners o k ho hfree hs := by
    by_cases hk : k = u
    · rcases hspared with ⟨o', ho', hlock, -⟩ | hkept
      · have hsame : o = o' := Option.some.inj (ho.symm.trans ho')
        exact absurd (hsame ▸ hlock) hfree
      · exact hk ▸ hkept (hk ▸ hs)
    · exact h.standing hk hs
  remains k hs := by
    rcases hspared with ⟨o, ho, hlock, v, hv, hstanding⟩ | hkept
    · exact ⟨v, h.standing hv hstanding⟩
    · by_cases hk : k = u
      · exact ⟨u, hkept (hk ▸ hs)⟩
      · exact ⟨k, h.standing hk hs⟩

theorem find_updateUser {id k : UUID} {change : AdminUser → AdminUser}
    {hchange : ∀ user, (change user).id = user.id ∧
      (change user).usernameNormalized = user.usernameNormalized} :
    (d.updateUser id change hchange).users.find k =
      (d.users.find k).map fun user => if user.id = id then change user else user := by
  rw [Database.updateUser, UniqueTable.find_mapRows]

/-- An update of a user touches that user only. -/
theorem touches_updateUser {id : UUID} {change : AdminUser → AdminUser}
    (hchange : ∀ user, (change user).id = user.id ∧
      (change user).usernameNormalized = user.usernameNormalized) :
    Touches id d (d.updateUser id change hchange) where
  roles := rfl
  bound _ _ _ := .rfl
  users k hk := by
    rw [find_updateUser]
    cases hfind : d.users.find k with
    | none => rfl
    | some user =>
      have hid : user.id = k := Tables.Table.find_key hfind
      simp [hid, hk]

/-- Users that are not among the invalidated ones keep their rows. -/
theorem find_invalidated_other {users : List AdminUser} {reason : Str} {now : Time} {k : UUID}
    (hk : ∀ user ∈ users, user.id ≠ k) :
    (invalidated users reason now d).users.find k = d.users.find k := by
  rw [invalidated, UniqueTable.find_mapRows]
  cases hfind : d.users.find k with
  | none => rfl
  | some row =>
    have hid : row.id = k := Tables.Table.find_key hfind
    have hnone : users.find? (fun user => decide (user.id = row.id)) = none := by
      simpa [hid] using hk
    simp [versioned, hnone]

theorem standing_invalidated {users : List AdminUser} {reason : Str} {now : Time} {u : UUID} :
    Standing (invalidated users reason now d) u ↔ Standing d u := by
  simp only [Standing, invalidated, UniqueTable.find_mapRows, Option.map_eq_some_iff]
  constructor
  · rintro ⟨_, ⟨row, hfind, rfl⟩, hactive, hholds⟩
    exact ⟨row, hfind, versioned_status users row ▸ hactive, hholds⟩
  · rintro ⟨row, hfind, hactive, hholds⟩
    exact ⟨_, ⟨row, hfind, rfl⟩, (versioned_status users row).trans hactive, hholds⟩

/-- Ending the sessions of a user touches that user only. -/
theorem touches_invalidated {user : AdminUser} {reason : Str} {now : Time} :
    Touches user.id d (invalidated [user] reason now d) where
  roles := rfl
  bound _ _ _ := .rfl
  users k hk := find_invalidated_other fun other hother => by
    rw [List.mem_singleton.1 hother]
    exact hk.symm

/-- The bindings of a user after some are removed and some added. -/
theorem mem_rebind {rows : List (UUID × UUID)} {id k r : UUID} {removed added : List UUID} :
    (k, r) ∈ rebind rows id removed added ↔
      ((k, r) ∈ rows ∧ ¬ (k = id ∧ r ∈ removed)) ∨ (k = id ∧ r ∈ added) := by
  simp only [rebind, List.mem_append, List.mem_filter, List.mem_map, Prod.mk.injEq,
    Bool.not_eq_true', decide_eq_false_iff_not]
  apply or_congr_right
  constructor
  · rintro ⟨other, hother, rfl, rfl⟩
    exact ⟨rfl, hother⟩
  · rintro ⟨rfl, hr⟩
    exact ⟨r, hr, rfl, rfl⟩

theorem touches_rebind {id : UUID} {removed added : List UUID} :
    Touches id d { d with userRoles := rebind d.userRoles id removed added } where
  roles := rfl
  users _ _ := rfl
  bound k r hk := by simp [mem_rebind, hk]

variable {caller : Caller} {Q : α → Set Row → (Database → Option Database) → Database → Prop}

/-- The user is locked, and its row is as it was loaded. -/
theorem wp_loadUserForUpdate {userId : UUID}
    {Q : AdminUser → Set Row → (Database → Option Database) → Database → Prop}
    (h : ∀ (held' : Set Row) (d' : Database) (row : AdminUser), .user userId ∈ held' →
      Keeps held d d' → d'.users.find userId = some row → Q (caller.loaded row) held' some d') :
    wp ownerDiscipline Q (loadUserForUpdate caller userId) held some d := by
  apply wp_bind
  apply wp_forUpdate
  rintro a ha _ ⟨⟩ b hb _ ⟨⟩
  cases hfind : a.users.find userId with
  | none => trivial
  | some first =>
    have hid : first.id = userId := Tables.Table.find_key hfind
    cases hrow : b.users.find userId with
    | none => simp [hid, hrow, wp]
    | some row =>
      simp only [Option.toList_some, List.map_cons, List.map_nil, hid, List.filterMap_cons, hrow,
        List.filterMap_nil, List.head?_cons]
      exact h _ b row (by simp) (ownerDiscipline.trans ha hb) hrow

/-- After the check the owner role is locked, and another active Owner is there. -/
theorem wp_assertAnotherActiveOwnerExists {userId : UUID}
    {Q : Unit → Set Row → (Database → Option Database) → Database → Prop}
    (h : ∀ held' d', held ⊆ held' → Keeps held d d' → Guarded held' d' userId → Q () held' some d') :
    wp ownerDiscipline Q (assertAnotherActiveOwnerExists userId) held some d := by
  apply wp_bind
  apply wp_forUpdate
  rintro a ha _ ⟨⟩ b hb _ ⟨⟩
  cases howner : a.roles.having ownerRoleCode with
  | none => trivial
  | some owner =>
    have hb' : b.roles.having ownerRoleCode = some owner := hb.ownerRole.trans howner
    have hfind : b.roles.find owner.id = some owner :=
      Tables.Table.mem_iff_find.1 (UniqueTable.having_eq_some.1 hb').1
    simp only [Option.toList_some, List.map_cons, List.map_nil, List.filterMap_cons, hfind,
      List.filterMap_nil, List.head?_cons]
    apply wp_bind
    apply wp_select
    rintro c hc _ ⟨⟩
    apply wp_refuse
    intro hremaining
    obtain ⟨other, hother⟩ := List.exists_mem_of_length_pos (Nat.pos_of_ne_zero hremaining)
    simp only [otherActive, List.mem_filter, decide_eq_true_eq] at hother
    obtain ⟨hmem, hbound, hactive, hne⟩ := hother
    have hc' : c.roles.having ownerRoleCode = some owner := hc.ownerRole.trans hb'
    have hstanding : Standing c other.id :=
      ⟨other, Tables.Table.mem_iff_find.1 hmem, hactive, holdsOwner_iff.2 ⟨owner, hc', hbound⟩⟩
    refine h _ c Set.subset_union_left ?_ ⟨owner, hc', by simp, other.id, hne, hstanding⟩
    exact ownerDiscipline.trans ha (ownerDiscipline.trans hb
      (ownerDiscipline.mono Set.subset_union_left hc))

/-- Resolving roles locks rows and writes none. -/
theorem wp_resolveRoles {codes : List Str}
    {Q : List RbacRole → Set Row → (Database → Option Database) → Database → Prop}
    (h : ∀ held' d' roles, held ⊆ held' → Keeps held d d' → (∀ role ∈ roles, role ∈ d'.roles.rows) →
      Q roles held' some d') :
    wp ownerDiscipline Q (resolveRoles codes) held some d := by
  by_cases hcodes : codes = []
  · rw [resolveRoles, if_pos hcodes]
    exact h held d [] subset_rfl (ownerDiscipline.refl held d) nofun
  · rw [resolveRoles, if_neg hcodes]
    apply wp_bind
    apply wp_forUpdate
    rintro a ha _ ⟨⟩ b hb _ ⟨⟩
    apply wp_bind
    apply wp_refuse
    intro hmissing
    apply wp_bind
    apply wp_refuse
    intro hinactive
    apply h _ b _ Set.subset_union_left (ownerDiscipline.trans ha hb)
    intro role hrole
    obtain ⟨id, -, hfind⟩ := List.mem_filterMap.1 hrole
    exact Tables.Table.find_mem hfind

/-- A check that is made only in one case is proved in both. -/
theorem wp_whenever {c : Prop} [Decidable c] {check : Transaction Unit}
    {Q : Unit → Set Row → (Database → Option Database) → Database → Prop}
    {pending : Database → Option Database}
    (hcheck : c → wp ownerDiscipline Q check held pending d) (hnot : ¬ c → Q () held pending d) :
    wp ownerDiscipline Q (whenever c check) held pending d := by
  by_cases hc : c
  · rw [whenever, if_pos hc]
    exact hcheck hc
  · rw [whenever, if_neg hc]
    exact hnot hc

theorem wp_invalidateUsers {users : List AdminUser} {reason : Str} {now : Time}
    {Q : Unit → Set Row → (Database → Option Database) → Database → Prop}
    {pending : Database → Option Database}
    (hsome : ∀ d', Keeps held d d' →
      Q () held (fun d => (pending d).map (invalidated users reason now)) d')
    (hnone : users = [] → Q () held pending d) :
    wp ownerDiscipline Q (invalidateUsers users reason now) held pending d := by
  by_cases husers : users = []
  · rw [invalidateUsers, if_pos husers]
    exact hnone husers
  · rw [invalidateUsers, if_neg husers]
    exact wp_execute hsome

/-- A change of a locked account may be committed. -/
theorem committable_account {u : UUID} {change : Database → Database}
    {pending : Database → Option Database} (hu : .user u ∈ held)
    (hpending : ∀ d, pending d = some (change d)) (htouches : ∀ d, Touches u d (change d))
    (hspared : Guarded held d u ∨
      ∀ d', Keeps held d d' → Standing d' u → Standing (change d') u) :
    Committable ownerDiscipline held pending d := by
  intro d' hd e he
  obtain rfl : change d' = e := Option.some.inj ((hpending d').symm.trans he)
  apply commits_of_touches hu (htouches d')
  rcases hspared with hguarded | hkept
  · exact .inl (hguarded.stable hd)
  · exact .inr (hkept d' hd)

/-- A change of a status leaves an active Owner. -/
theorem safe_setUserStatus (caller : Caller) (userId : UUID) (status : AdminUserStatus) (now : Time)
    (d : Database) : Safe ownerDiscipline (setUserStatus caller userId status now) ∅ some d := by
  apply wp_bind
  apply wp_loadUserForUpdate
  intro held first row hu _ hrow
  have hid : (caller.loaded row).id = userId :=
    (caller.loaded_id row).trans (Tables.Table.find_key hrow)
  apply wp_bind
  apply wp_select
  rintro read hread _ ⟨⟩
  have hrow' : read.users.find userId = some row := hread.users userId row hu hrow
  apply wp_bind
  apply wp_refuse
  intro hrights
  rw [hid]
  by_cases hsame : (caller.loaded row).status = status
  · rw [if_pos hsame]
    exact committable_unchanged
  rw [if_neg hsame]
  -- the writes, from wherever the check has left the transaction
  have hwrites : ∀ more d', held ⊆ more → Keeps held read d' →
      (Guarded more d' userId ∨ ¬ (status = .disabled ∧ ownerRoleCode ∈ roleCodes read userId)) →
      wp ownerDiscipline (fun _ => Committable ownerDiscipline) (do
        Txn.execute fun db : Database =>
          db.updateUser userId (fun row => { row with status }) fun _ => ⟨rfl, rfl⟩
        invalidateUsers [caller.loaded row] (py "admin_user_status_changed") now
        return userView { caller.loaded row with
          status, authVersion := (caller.loaded row).authVersion + 1 } (roleCodes read userId))
        more some d' := by
    intro more d' hmore hd' hchecked
    apply wp_bind
    apply wp_execute
    intro d'' hd''
    apply wp_bind
    apply wp_invalidateUsers _ nofun
    intro e he
    refine committable_stable ?_ (ownerDiscipline.trans hd'' he)
    apply committable_account (hmore hu) (fun _ => rfl)
    · intro m
      exact (touches_updateUser _).trans (hid ▸ touches_invalidated)
    · refine hchecked.imp_right fun hnot => ?_
      intro m hm hstanding
      have hkeeps : Keeps held read m := ownerDiscipline.trans hd' (ownerDiscipline.mono hmore hm)
      obtain ⟨user, hfind, hactive, hholds⟩ := standing_of_keeps hu hrow' hkeeps hstanding
      have hstatus : status ≠ .disabled := fun h => hnot ⟨h, mem_roleCodes.2 hholds⟩
      have hnow : status = .active := by
        cases status with
        | active => rfl
        | disabled => exact absurd rfl hstatus
      obtain ⟨user, hfind, -, hholds⟩ := hstanding
      have hkey : user.id = userId := Tables.Table.find_key hfind
      rw [standing_invalidated]
      refine ⟨{ user with status }, ?_, hnow, hholds⟩
      simp [find_updateUser, hfind, hkey]
  apply wp_bind
  apply wp_whenever
  · intro hneeded
    apply wp_assertAnotherActiveOwnerExists
    intro more d' hmore hd' hguarded
    exact hwrites more d' hmore hd' (.inl hguarded)
  · intro hnot
    exact hwrites held read subset_rfl (ownerDiscipline.refl held read) (.inr hnot)

/-- Roles that are asked for again are not taken away. -/
theorem standing_rebind {u : UUID} {removed added : List UUID} {owner : RbacRole}
    (howner : d.roles.having ownerRoleCode = some owner) (hkept : owner.id ∉ removed)
    (h : Standing d u) : Standing { d with userRoles := rebind d.userRoles u removed added } u := by
  obtain ⟨user, hfind, hactive, hholds⟩ := h
  obtain ⟨role, hrole, hbound⟩ := holdsOwner_iff.1 hholds
  have hsame : role = owner := Option.some.inj (hrole.symm.trans howner)
  refine ⟨user, hfind, hactive, holdsOwner_iff.2 ⟨role, hrole, ?_⟩⟩
  exact mem_rebind.2 (.inl ⟨hbound, fun hremoved => hkept (hsame ▸ hremoved.2)⟩)

/-- New roles for a user leave an active Owner. -/
theorem safe_replaceUserRoles (caller : Caller) (userId : UUID) (codes : List Str) (now : Time)
    (d : Database) : Safe ownerDiscipline (replaceUserRoles caller userId codes now) ∅ some d := by
  apply wp_bind
  apply wp_refuse
  intro howner
  apply wp_bind
  apply wp_loadUserForUpdate
  intro first loaded row hfirst _ hfind
  have hid : (caller.loaded row).id = userId :=
    (caller.loaded_id row).trans (Tables.Table.find_key hfind)
  apply wp_bind
  apply wp_resolveRoles
  intro second resolved roles hsecond hresolved hroles
  rw [hid]
  apply wp_bind
  apply wp_forUpdate
  rintro a ha _ ⟨⟩ b hb _ ⟨⟩
  generalize List.filterMap _ _ = currentIds
  have hu : .user userId ∈ second ∪ {r | r ∈ (bound a.userRoles userId).flatMap fun roleId =>
      [Row.userRole userId roleId]} := .inl (hsecond hfirst)
  generalize hheld : second ∪ _ = held at hu ⊢
  have hsub : second ⊆ held := hheld ▸ Set.subset_union_left
  apply wp_bind
  apply wp_select
  rintro read hread _ ⟨⟩
  have hsince : Keeps second resolved read :=
    ownerDiscipline.trans (ownerDiscipline.trans ha hb) (ownerDiscipline.mono hsub hread)
  have hrow : read.users.find userId = some row :=
    hsince.users userId row (hsecond hfirst) (hresolved.users userId row hfirst hfind)
  by_cases hsame : roleCodes read userId = (roles.map RbacRole.code).toFinset
  · rw [if_pos hsame]
    exact committable_unchanged
  rw [if_neg hsame]
  -- the writes, from wherever the check has left the transaction
  have hwrites : ∀ more d', held ⊆ more → Keeps held read d' →
      (Guarded more d' userId ∨ ¬ ((caller.loaded row).status = .active ∧
        ownerRoleCode ∈ roleCodes read userId ∧
        ownerRoleCode ∉ (roles.map RbacRole.code).toFinset)) →
      wp ownerDiscipline (fun _ => Committable ownerDiscipline) (do
        Txn.execute fun db : Database => { db with
          userRoles := rebind db.userRoles userId (currentIds.filter (· ∉ roles.map RbacRole.id))
            ((roles.map RbacRole.id).filter (· ∉ currentIds)) }
        invalidateUsers [caller.loaded row] (py "admin_user_roles_changed") now
        return userView { caller.loaded row with
          authVersion := (caller.loaded row).authVersion + 1 } (roles.map RbacRole.code).toFinset)
        more some d' := by
    intro more d' hmore hd' hchecked
    apply wp_bind
    apply wp_execute
    intro d'' hd''
    apply wp_bind
    apply wp_invalidateUsers _ nofun
    intro e he
    refine committable_stable ?_ (ownerDiscipline.trans hd'' he)
    apply committable_account (hmore hu) (fun _ => rfl)
    · intro m
      exact touches_rebind.trans (hid ▸ touches_invalidated)
    · refine hchecked.imp_right fun hnot => ?_
      intro m hm hstanding
      have hkeeps : Keeps held read m := ownerDiscipline.trans hd' (ownerDiscipline.mono hmore hm)
      obtain ⟨user, hfind, hactive, hholds⟩ := standing_of_keeps hu hrow hkeeps hstanding
      have hstatus : (caller.loaded row).status = .active := by
        rcases caller.loaded_status row with h | h
        · have huser : user = row := Option.some.inj (hfind.symm.trans hrow)
          rw [h, ← huser, hactive]
        · exact h
      have hrequested : ownerRoleCode ∈ (roles.map RbacRole.code).toFinset := by
        by_contra hmissing
        exact hnot ⟨hstatus, mem_roleCodes.2 hholds, hmissing⟩
      obtain ⟨owner, howner, hcode⟩ := List.mem_map.1 (List.mem_toFinset.1 hrequested)
      have hhaving : m.roles.having ownerRoleCode = some owner :=
        (hkeeps.ownerRole.trans hsince.ownerRole).trans
          (UniqueTable.having_eq_some.2 ⟨hroles owner howner, hcode⟩)
      rw [standing_invalidated]
      apply standing_rebind hhaving _ hstanding
      simpa using fun _ => ⟨owner, howner, rfl⟩
  apply wp_bind
  apply wp_whenever
  · intro hneeded
    apply wp_assertAnotherActiveOwnerExists
    intro more d' hmore hd' hguarded
    exact hwrites more d' hmore hd' (.inl hguarded)
  · intro hnot
    exact hwrites held read subset_rfl (ownerDiscipline.refl held read) (.inr hnot)

/-- A new user or role leaves every account as it was. -/
theorem commits_of_inserted (hroles : e.roles.having ownerRoleCode = d.roles.having ownerRoleCode)
    (husers : ∀ k row, d.users.find k = some row → e.users.find k = some row)
    (hbound : e.userRoles = d.userRoles) : Commits held d e := by
  have hstanding : ∀ u, Standing d u → Standing e u := by
    rintro u ⟨user, hfind, hactive, hholds⟩
    refine ⟨user, husers u user hfind, hactive, ?_⟩
    exact (holdsOwner_congr hroles fun r => by rw [hbound]).2 hholds
  exact ⟨hroles, fun k row _ => husers k row, fun k r _ => by rw [hbound],
    fun _ u _ _ => hstanding u, fun u h => ⟨u, hstanding u h⟩⟩

theorem wp_hashPassword {env : Environment} {salt : Nat} {password : Str}
    {Q : Str → Set Row → (Database → Option Database) → Database → Prop}
    {pending : Database → Option Database} (h : ∀ hash, Q hash held pending d) :
    wp ownerDiscipline Q (hashPassword env salt password) held pending d := by
  apply wp_bind
  apply wp_refuse
  intro hshort
  apply wp_bind
  unfold encodeUtf8
  cases env.utf8 password with
  | none => trivial
  | some bytes =>
    apply wp_bind
    apply wp_refuse
    intro hlong
    exact h _

/-- A new user takes no Owner away. -/
theorem safe_createUser (env : Environment) (payload : AdminUserCreate) (id : UUID) (salt : Nat)
    (d : Database) : Safe ownerDiscipline (createUser env payload id salt) ∅ some d := by
  unfold createUser
  cases normalizeUsername env payload.username with
  | error e => trivial
  | ok names =>
    apply wp_bind
    apply wp_select
    rintro read hread _ ⟨⟩
    apply wp_bind
    apply wp_refuse
    intro hfree
    apply wp_bind
    apply wp_hashPassword
    intro hash
    apply wp_bind
    apply wp_insert
    intro d' hd' m hm e he
    obtain ⟨users, hinsert, rfl⟩ := Option.map_eq_some_iff.1 he
    exact commits_of_inserted rfl (fun k row h => UniqueTable.insert_keeps hinsert h) rfl

/-- A new role takes no Owner away. -/
theorem safe_createRole (caller : Caller) (payload : RbacRoleCreate) (id : UUID) (d : Database) :
    Safe ownerDiscipline (createRole caller payload id) ∅ some d := by
  apply wp_bind
  apply wp_refuse
  intro howner
  apply wp_bind
  apply wp_refuse
  intro hcode
  apply wp_bind
  apply wp_select
  rintro read hread _ ⟨⟩
  apply wp_bind
  apply wp_refuse
  intro hfree
  apply wp_bind
  apply wp_insert
  intro d' hd' m hm e he
  obtain ⟨roles, hinsert, rfl⟩ := Option.map_eq_some_iff.1 he
  refine commits_of_inserted ?_ (fun _ _ h => h) rfl
  rw [UniqueTable.having_insert hinsert, if_neg hcode]

theorem wp_resolvePermissions {codes : List Str}
    {Q : List RbacPermission → Set Row → (Database → Option Database) → Database → Prop}
    (h : ∀ held' d' permissions, held ⊆ held' → Keeps held d d' → Q permissions held' some d') :
    wp ownerDiscipline Q (resolvePermissions codes) held some d := by
  by_cases hcodes : codes = []
  · rw [resolvePermissions, if_pos hcodes]
    exact h held d [] subset_rfl (ownerDiscipline.refl held d)
  · rw [resolvePermissions, if_neg hcodes]
    apply wp_bind
    apply wp_forUpdate
    rintro a ha _ ⟨⟩ b hb _ ⟨⟩
    apply wp_bind
    apply wp_refuse
    intro hmissing
    exact h _ b _ Set.subset_union_left (ownerDiscipline.trans ha hb)

/-- New permissions of a role, and new versions of users that are locked. -/
theorem commits_regranted {rows : List (UUID × UUID)} {users : List AdminUser} {reason : Str}
    {now : Time} (husers : ∀ user ∈ users, .user user.id ∈ held) :
    Commits held d (invalidated users reason now { d with rolePermissions := rows }) where
  ownerRole := rfl
  bound _ _ _ := .rfl
  users k row hk hfind := by
    have hother : ∀ user ∈ users, user.id ≠ k := by
      rintro user huser rfl
      exact hk (husers user huser)
    rw [find_invalidated_other hother]
    exact hfind
  owners _ _ _ _ hs := standing_invalidated.2 hs
  remains u hs := ⟨u, standing_invalidated.2 hs⟩

/-- New permissions of a role take no Owner away. -/
theorem safe_replaceRolePermissions (caller : Caller) (roleId : UUID) (codes : List Str) (now : Time)
    (d : Database) :
    Safe ownerDiscipline (replaceRolePermissions caller roleId codes now) ∅ some d := by
  apply wp_bind
  apply wp_refuse
  intro howner
  apply wp_bind
  apply wp_forUpdate
  rintro a ha _ ⟨⟩ b hb _ ⟨⟩
  generalize (List.filterMap _ _).head? = found
  cases found with
  | none => trivial
  | some role =>
    apply wp_bind
    apply wp_refuse
    intro hcode
    apply wp_bind
    apply wp_resolvePermissions
    intro held resolved permissions hheld hresolved
    apply wp_bind
    apply wp_forUpdate
    rintro a ha _ ⟨⟩ b hb _ ⟨⟩
    generalize List.filterMap _ _ = currentIds
    apply wp_bind
    apply wp_select
    rintro read hread _ ⟨⟩
    by_cases hsame : permissionCodes read role.id = (permissions.map RbacPermission.code).toFinset
    · rw [if_pos hsame]
      exact committable_unchanged
    rw [if_neg hsame]
    apply wp_bind
    apply wp_execute
    intro m hm
    apply wp_bind
    apply wp_forUpdate
    rintro a ha _ ⟨⟩ b hb _ ⟨⟩
    apply wp_bind
    -- every affected user has been locked
    apply wp_invalidateUsers
    · rintro d' hd' e he _ ⟨⟩
      apply commits_regranted
      intro user huser
      obtain ⟨row, hrow, rfl⟩ := List.mem_map.1 huser
      obtain ⟨k, hk, hfound⟩ := List.mem_filterMap.1 hrow
      have hfind := (Option.ite_none_right_eq_some.1 hfound).2
      have hid : (caller.loaded row).id = k :=
        (caller.loaded_id row).trans (Tables.Table.find_key hfind)
      exact .inr (List.mem_flatMap.2 ⟨k, hk, by simp [hid]⟩)
    · intro hnone
      rintro e he _ ⟨⟩
      exact ⟨rfl, fun _ _ _ h => h, fun _ _ _ => .rfl, fun _ _ _ _ h => h, fun u h => ⟨u, h⟩⟩

/-- A request to the service. -/
inductive Operation where
  | createUser (payload : AdminUserCreate) (id : UUID) (salt : Nat)
  | setUserStatus (caller : Caller) (userId : UUID) (status : AdminUserStatus)
  | replaceUserRoles (caller : Caller) (userId : UUID) (codes : List Str)
  | createRole (caller : Caller) (payload : RbacRoleCreate) (id : UUID)
  | replaceRolePermissions (caller : Caller) (roleId : UUID) (codes : List Str)

/-- Each request begins a transaction of its own; `now` is the time of its writes. -/
def Operation.program (env : Environment) (now : Time) : Operation → Transaction Unit
  | createUser payload id salt => do
    let _ ← AdminRbac.createUser env payload id salt
    return ()
  | setUserStatus caller userId status => do
    let _ ← AdminRbac.setUserStatus caller userId status now
    return ()
  | replaceUserRoles caller userId codes => do
    let _ ← AdminRbac.replaceUserRoles caller userId codes now
    return ()
  | createRole caller payload id => do
    let _ ← AdminRbac.createRole caller payload id
    return ()
  | replaceRolePermissions caller roleId codes => do
    let _ ← AdminRbac.replaceRolePermissions caller roleId codes now
    return ()

/-- Every operation leaves an active Owner. -/
theorem safe_program (env : Environment) (now : Time) (operation : Operation) (d : Database) :
    Safe ownerDiscipline (operation.program env now) ∅ some d := by
  cases operation with
  | createUser payload id salt => exact wp_bind (safe_createUser env payload id salt d)
  | setUserStatus caller userId status =>
    exact wp_bind (safe_setUserStatus caller userId status now d)
  | replaceUserRoles caller userId codes =>
    exact wp_bind (safe_replaceUserRoles caller userId codes now d)
  | createRole caller payload id => exact wp_bind (safe_createRole caller payload id d)
  | replaceRolePermissions caller roleId codes =>
    exact wp_bind (safe_replaceRolePermissions caller roleId codes now d)

/-- A request at its time. -/
abbrev Submission := Time × Operation

def Submission.program (env : Environment) (submission : Submission) : Transaction Unit :=
  submission.2.program env submission.1

theorem ensureSystemPermissions_same {newId : Str → UUID}
    (h : ensureSystemPermissions newId d = some e) :
    e.roles = d.roles ∧ e.users = d.users ∧ e.userRoles = d.userRoles := by
  unfold ensureSystemPermissions at h
  generalize List.filter _ _ = codes at h
  induction codes generalizing d with
  | nil =>
    obtain rfl := Option.some.inj h
    exact ⟨rfl, rfl, rfl⟩
  | cons code codes ih =>
    rw [List.foldlM_cons] at h
    obtain ⟨m, hm, hrest⟩ := Option.bind_eq_some_iff.1 h
    obtain ⟨permissions, -, rfl⟩ := Option.map_eq_some_iff.1 hm
    obtain ⟨hroles, husers, hbound⟩ := ih hrest
    exact ⟨hroles, husers, hbound⟩

/-- The owner role is there before the Owner is. -/
theorem ownerRole_ready {roleId ownerRoleId : UUID}
    (h : (ownerRoleForBootstrap roleId).alone d = .ok (ownerRoleId, e)) :
    ∃ owner, e.roles.having ownerRoleCode = some owner ∧ owner.id = ownerRoleId := by
  obtain ⟨owners, m, hread, hrest⟩ := Txn.bind_alone.1 h
  obtain ⟨rfl, rfl⟩ := Txn.forUpdate_alone.1 hread
  cases howner : d.roles.having ownerRoleCode with
  | some owner =>
    have hfind : d.roles.find owner.id = some owner :=
      Tables.Table.mem_iff_find.1 (UniqueTable.having_eq_some.1 howner).1
    simp only [howner, Option.toList_some, List.map_cons, List.map_nil, List.filterMap_cons, hfind,
      List.filterMap_nil, List.head?_cons, Txn.pure_alone, Prod.mk.injEq] at hrest
    obtain ⟨rfl, rfl⟩ := hrest
    exact ⟨owner, howner, rfl⟩
  | none =>
    simp only [howner, Option.toList_none, List.map_nil, List.filterMap_nil, List.head?_nil] at hrest
    obtain ⟨inserted, m, hinsert, hdone⟩ := Txn.bind_alone.1 hrest
    obtain ⟨rfl, rfl⟩ := Prod.mk.inj (Txn.pure_alone.1 hdone)
    have hinsert := Txn.insert_alone.1 hinsert
    unfold insertOwnerRole at hinsert
    obtain ⟨roles, hroles, rfl⟩ := Option.map_eq_some_iff.1 hinsert
    exact ⟨_, (UniqueTable.having_insert hroles ownerRoleCode).trans (if_pos rfl), rfl⟩

/-- The bootstrap leaves an active Owner. -/
theorem hasActiveOwner_of_bootstrap {env : Environment} {request : BootstrapRequest}
    {roleId ownerId : UUID} {newId : Str → UUID} {salt : Nat} {owner : AdminUser}
    (h : (bootstrapOwner env request roleId ownerId newId salt).alone d = .ok (owner, e)) :
    HasActiveOwner e := by
  unfold bootstrapOwner at h
  cases hname : normalizeUsername env request.username with
  | error error => simp [hname] at h
  | ok names =>
    simp only [hname] at h
    obtain ⟨completed, d₁, -, h⟩ := Txn.bind_alone.1 h
    obtain ⟨fresh, d₂, -, h⟩ := Txn.bind_alone.1 h
    cases hconfigured : env.settings.authBootstrapToken with
    | none => simp [hconfigured] at h
    | some configured =>
      simp only [hconfigured] at h
      obtain ⟨configuredBytes, d₃, -, h⟩ := Txn.bind_alone.1 h
      obtain ⟨presentedBytes, d₄, -, h⟩ := Txn.bind_alone.1 h
      obtain ⟨same, d₅, -, h⟩ := Txn.bind_alone.1 h
      obtain ⟨hash, d₆, -, h⟩ := Txn.bind_alone.1 h
      obtain ⟨ownerRoleId, d₇, hrole, h⟩ := Txn.bind_alone.1 h
      obtain ⟨permitted, d₈, hpermissions, h⟩ := Txn.bind_alone.1 h
      obtain ⟨installed, d₉, hinstall, hdone⟩ := Txn.bind_alone.1 h
      obtain ⟨role, hhaving, rfl⟩ := ownerRole_ready hrole
      obtain ⟨hroles, -, -⟩ := ensureSystemPermissions_same (Txn.insert_alone.1 hpermissions)
      obtain ⟨rfl, rfl⟩ := Prod.mk.inj (Txn.pure_alone.1 hdone)
      have hinstall := Txn.insert_alone.1 hinstall
      unfold installOwner at hinstall
      split at hinstall
      · cases hinstall
      · obtain ⟨users, hinsert, rfl⟩ := Option.map_eq_some_iff.1 hinstall
        refine hasActiveOwner_iff.2 ⟨ownerId, _, (UniqueTable.find_insert hinsert _).trans
          (if_pos rfl), rfl, holdsOwner_iff.2 ⟨role, ?_, by simp⟩⟩
        rw [← hhaving, ← hroles]

variable {σ : Type} [DecidableEq σ]

/-- After the bootstrap, whatever administrators do at the same time, each committed state
has an active Owner. -/
theorem active_owner_remains {env : Environment} {request : BootstrapRequest}
    {roleId ownerId : UUID} {newId : Str → UUID} {salt : Nat} {owner : AdminUser}
    {actions : List (ReadCommitted.Action σ Submission)} {w : World σ Row Database AuthError Unit}
    (hboot : (bootstrapOwner env request roleId ownerId newId salt).alone d = .ok (owner, e))
    (hrun : run (World.step (Submission.program env)) (World.atRest e) actions = some w) :
    HasActiveOwner w.committed := by
  refine committed_run (D := ownerDiscipline) (I := HasActiveOwner)
    (fun submission d _ => safe_program env submission.1 submission.2 d) ?_ (hasActiveOwner_of_bootstrap hboot) hrun
  intro held d d' hcommits howner
  obtain ⟨u, hu⟩ := hasActiveOwner_iff.1 howner
  exact hasActiveOwner_iff.2 (hcommits.remains u hu)

def sampleEnvironment : Environment where
  unicode := ⟨id, id, fun _ => false⟩
  hasher := ⟨fun _ password => password, fun hash password => hash == password, fun _ => false⟩
  utf8 s := some (s.map UInt8.ofNat)
  sha256 bytes := bytes.map UInt8.toNat
  settings := ⟨some (py "token"), 1800, 43200, 900, 5, 900⟩

/-- Text as a number, for primary keys. -/
def textId (s : Str) : UUID := BitVec.ofNat 128 (s.foldl (fun n c => 257 * n + c) 7)

def sampleBootstrap : Except AuthError (AdminUser × Database) :=
  (bootstrapOwner sampleEnvironment ⟨py "token", py "alice", py "correct horse", none⟩ 1 2 textId
    0).alone Database.empty

def asOwner (userId : UUID) : Caller :=
  ⟨⟨userId, 0, [], none, {ownerRoleCode}, ∅⟩, none, nofun⟩

def statements (i : Bool) (count : Nat) : List (ReadCommitted.Action Bool Submission) :=
  List.replicate count (.advance i)

def disableEachOther : List (ReadCommitted.Action Bool Submission) :=
  [.begin false (0, .createUser ⟨py "bob", none, py "battery staple"⟩ 3 0)] ++ statements false 3 ++
    [.begin false (10, .replaceUserRoles (asOwner 2) 3 [ownerRoleCode])] ++ statements false 12 ++
    [.begin false (20, .setUserStatus (asOwner 2) 3 .disabled),
      .begin true (20, .setUserStatus (asOwner 3) 2 .disabled)] ++
    statements false 4 ++ statements true 5 ++ statements false 7 ++ statements true 4

theorem sampleBootstrap_isSome : sampleBootstrap.toOption.isSome = true := by decide +kernel

def bootstrapped : AdminUser × Database := sampleBootstrap.toOption.get sampleBootstrap_isSome

theorem sampleBootstrap_eq : sampleBootstrap = .ok bootstrapped := by
  have h : sampleBootstrap.toOption = some bootstrapped := (Option.some_get _).symm
  revert h
  cases sampleBootstrap with
  | ok r => exact fun h => congrArg Except.ok (Option.some.inj h)
  | error e => exact nofun

def disableRun : Option (World Bool Row Database AuthError Unit) :=
  run (World.step (Submission.program sampleEnvironment)) (World.atRest bootstrapped.2)
    disableEachOther

theorem disableRun_isSome : disableRun.isSome = true := by decide +kernel

theorem active_owner_remains_race :
    disableRun.isSome = true ∧ HasActiveOwner (disableRun.get disableRun_isSome).committed := by
  have hrun : run (World.step (Submission.program sampleEnvironment)) (World.atRest bootstrapped.2)
      disableEachOther = some (disableRun.get disableRun_isSome) := (Option.some_get _).symm
  exact ⟨disableRun_isSome, active_owner_remains sampleBootstrap_eq hrun⟩

end WechatBot.OwnerSafety
