import WechatBot.OwnerSafety
import WechatBot.Promises
/-!
# Only an Owner changes privileges

Administrators that are no Owners may create users and change the status of one. What they
commit leaves every binding and every account of an Owner as it was, although an Owner may
give or take roles between their statements.
-/

namespace WechatBot.AdminPrivileges

open PyData ReadCommitted AuthModels AdminRbac OwnerSafety Promises
open Runs (run)
open UniqueTables (UniqueTable)

variable {held : Set Row} {d e : Database}

/-- The roles, who has them, what they permit, and the accounts of the Owners. -/
structure SamePrivileges (d e : Database) : Prop where
  roles : e.roles = d.roles
  userRoles : e.userRoles = d.userRoles
  rolePermissions : e.rolePermissions = d.rolePermissions
  owners : ∀ k row, HoldsOwner d k → d.users.find k = some row → e.users.find k = some row

theorem SamePrivileges.refl (d : Database) : SamePrivileges d d :=
  ⟨rfl, rfl, rfl, fun _ _ _ h => h⟩

/-- Who makes the request; a user is created without a look at the actor. -/
def madeBy : Operation → Option Caller
  | .createUser _ _ _ => none
  | .setUserStatus caller _ _ => some caller
  | .replaceUserRoles caller _ _ => some caller
  | .createRole caller _ _ => some caller
  | .replaceRolePermissions caller _ _ => some caller

def ByOwner (operation : Operation) : Prop :=
  ∃ caller, madeBy operation = some caller ∧ caller.actor.isOwner = true

/-- What a request may commit. -/
def Permitted (operation : Operation) (d e : Database) : Prop :=
  ByOwner operation ∨ SamePrivileges d e

variable {caller : Caller} {kept : Database → Database → Prop}

theorem promise_unchanged (h : ∀ d, kept d d) : Promise ownerDiscipline kept held some d := by
  rintro d' - e ⟨⟩
  exact h d'

theorem keeps_createUser (env : Environment) (payload : AdminUserCreate) (id : UUID) (salt : Nat)
    (d : Database) :
    KeepsPromise ownerDiscipline SamePrivileges (createUser env payload id salt) ∅ some d := by
  unfold createUser
  cases normalizeUsername env payload.username with
  | error e => trivial
  | ok names =>
    apply wp_bind
    apply wp_select
    rintro read hread _ ⟨⟩
    apply wp_bind
    apply wp_refuse
    intro hfree
    apply wp_bind
    apply wp_hashPassword
    intro hash
    apply wp_bind
    apply wp_insert
    intro d' hd' m hm e he
    obtain ⟨users, hinsert, rfl⟩ := Option.map_eq_some_iff.1 he
    exact ⟨rfl, rfl, rfl, fun k row _ h => UniqueTable.insert_keeps hinsert h⟩

/-- A change of the status of one user who holds no owner role. -/
theorem samePrivileges_status {userId : UUID} {status : AdminUserStatus} {user : AdminUser}
    {reason : Str} {now : Time} (hid : user.id = userId) (hplain : ¬ HoldsOwner d userId) :
    SamePrivileges d (invalidated [user] reason now
      (d.updateUser userId (fun row => { row with status }) fun _ => ⟨rfl, rfl⟩)) where
  roles := rfl
  userRoles := rfl
  rolePermissions := rfl
  owners k row hholds hfind := by
    have hk : k ≠ userId := fun heq => hplain (heq ▸ hholds)
    have htouches : Touches userId d (invalidated [user] reason now
        (d.updateUser userId (fun row => { row with status }) fun _ => ⟨rfl, rfl⟩)) :=
      (touches_updateUser _).trans (hid ▸ touches_invalidated)
    rw [htouches.users k hk]
    exact hfind

theorem keeps_setUserStatus (hcaller : caller.actor.isOwner = false) (userId : UUID)
    (status : AdminUserStatus) (now : Time) (d : Database) :
    KeepsPromise ownerDiscipline SamePrivileges (setUserStatus caller userId status now) ∅ some d := by
  apply wp_bind
  apply wp_loadUserForUpdate
  intro held first row hu _ hrow
  have hid : (caller.loaded row).id = userId :=
    (caller.loaded_id row).trans (Tables.Table.find_key hrow)
  apply wp_bind
  apply wp_select
  rintro read hread _ ⟨⟩
  apply wp_bind
  apply wp_refuse
  intro hrights
  rw [hid] at hrights ⊢
  have hplain : ownerRoleCode ∉ roleCodes read userId := by
    simpa [hcaller] using hrights
  by_cases hsame : (caller.loaded row).status = status
  · rw [if_pos hsame]
    exact promise_unchanged SamePrivileges.refl
  rw [if_neg hsame]
  apply wp_bind
  apply wp_whenever
  · exact fun hneeded => absurd hneeded.2 hplain
  intro _
  apply wp_bind
  apply wp_execute
  intro m hm
  apply wp_bind
  apply wp_invalidateUsers
  · rintro n hn d' hd' e ⟨⟩
    apply samePrivileges_status hid
    -- the lock keeps others from giving the user the owner role
    have hkeeps : Keeps held read d' :=
      ownerDiscipline.trans hm (ownerDiscipline.trans hn hd')
    intro hholds
    have hheld : HoldsOwner read userId :=
      (holdsOwner_congr hkeeps.ownerRole fun r => hkeeps.bound userId r hu).1 hholds
    exact hplain (mem_roleCodes.2 hheld)
  · intro hnone
    cases hnone

/-- A request for which the caller has to be an Owner ends at once without one. -/
theorem keeps_requireOwner {f : Unit → Transaction α} (hcaller : caller.actor.isOwner = false)
    (d : Database) :
    KeepsPromise ownerDiscipline SamePrivileges (requireOwner caller.actor >>= f) ∅ some d := by
  apply wp_bind
  apply wp_refuse
  intro howner
  simp [hcaller] at howner

theorem not_owner {operation : Operation} (h : ¬ ByOwner operation)
    (hmade : madeBy operation = some caller) : caller.actor.isOwner = false := by
  rw [← Bool.not_eq_true]
  exact fun howner => h ⟨caller, hmade, howner⟩

theorem keeps_program (env : Environment) (now : Time) (operation : Operation) (d : Database) :
    KeepsPromise ownerDiscipline (Permitted operation) (operation.program env now) ∅ some d := by
  by_cases howner : ByOwner operation
  · exact wp_of_forall (fun _ _ _ _ _ _ _ _ => .inl howner) _ _ _ _
  have hplain : KeepsPromise ownerDiscipline SamePrivileges (operation.program env now) ∅ some d := by
    cases operation with
    | createUser payload id salt => exact wp_bind (keeps_createUser env payload id salt d)
    | setUserStatus caller userId status =>
      exact wp_bind (keeps_setUserStatus (not_owner howner rfl) userId status now d)
    | replaceUserRoles caller userId codes =>
      exact wp_bind (keeps_requireOwner (not_owner howner rfl) d)
    | createRole caller payload id => exact wp_bind (keeps_requireOwner (not_owner howner rfl) d)
    | replaceRolePermissions caller roleId codes =>
      exact wp_bind (keeps_requireOwner (not_owner howner rfl) d)
  exact keepsPromise_mono (fun _ _ h => .inr h) hplain

variable {σ : Type} [DecidableEq σ]

/-- Whatever administrators do at the same time, a step after which the roles, who has them,
what they permit or the account of an Owner is not what it was is the commit of a request
that an Owner has made. -/
theorem privileges_need_owner (env : Environment)
    {actions : List (ReadCommitted.Action σ Submission)} {a : ReadCommitted.Action σ Submission}
    {w w' : World σ Row Database AuthError Unit}
    (hrun : run (World.step (Submission.program env)) (World.atRest d) actions = some w)
    (hstep : w.step (Submission.program env) a = some w')
    (hchanged : ¬ SamePrivileges w.committed w'.committed) :
    ∃ i submission, a = .advance i ∧ begun i actions = some submission ∧ ByOwner submission.2 := by
  have hcommit := commit_keeps_promise (D := ownerDiscipline) (I := fun _ => True)
    (fun submission : Submission => Permitted submission.2)
    (fun submission d _ => safe_program env submission.1 submission.2 d) (fun _ _ => trivial)
    (fun submission d _ => keeps_program env submission.1 submission.2 d) trivial hrun hstep
  rcases hcommit with hsame | ⟨i, submission, hadvance, hbegun, howner | hkept⟩
  · exact absurd (hsame ▸ SamePrivileges.refl _) hchanged
  · exact ⟨i, submission, hadvance, hbegun, howner⟩
  · exact absurd hkept hchanged

/-- An Owner makes a new user an Owner as well; the last statement is still to come. -/
def grantActions : List (ReadCommitted.Action Bool Submission) :=
  [.begin false (0, .createUser ⟨py "bob", none, py "battery staple"⟩ 3 0)] ++ statements false 3 ++
    [.begin false (10, .replaceUserRoles (asOwner 2) 3 [ownerRoleCode])] ++ statements false 11

theorem grant_changes : (run (World.step (Submission.program sampleEnvironment))
    (World.atRest bootstrapped.2) grantActions).any (fun w =>
      (w.step (Submission.program sampleEnvironment) (.advance false)).any fun w' =>
        decide ((w.committed.users.find 3).isSome = true ∧ (3, 1) ∉ w.committed.userRoles ∧
          (3, 1) ∈ w'.committed.userRoles)) = true := by
  decide +kernel

theorem grant_commits : ∃ w w' : World Bool Row Database AuthError Unit,
    run (World.step (Submission.program sampleEnvironment)) (World.atRest bootstrapped.2)
      grantActions = some w ∧
    w.step (Submission.program sampleEnvironment) (.advance false) = some w' ∧
    (w.committed.users.find 3).isSome = true ∧ (3, 1) ∉ w.committed.userRoles ∧
    (3, 1) ∈ w'.committed.userRoles := by
  obtain ⟨w, hrun, hnext⟩ := (Option.any_eq_true _ _).mp grant_changes
  obtain ⟨w', hstep, hgrant⟩ := (Option.any_eq_true _ _).mp hnext
  exact ⟨w, w', hrun, hstep, of_decide_eq_true hgrant⟩

theorem privileges_need_owner_grant : ∃ i submission,
    (.advance false : ReadCommitted.Action Bool Submission) = .advance i ∧
      begun i grantActions = some submission ∧ ByOwner submission.2 := by
  obtain ⟨w, w', hrun, hstep, -, hbefore, hafter⟩ := grant_commits
  apply privileges_need_owner sampleEnvironment hrun hstep
  exact fun hsame => hbefore (hsame.userRoles ▸ hafter)

end WechatBot.AdminPrivileges
