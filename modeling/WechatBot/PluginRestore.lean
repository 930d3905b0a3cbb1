import WechatBot.PluginAgreement
import WechatBot.PluginPackages
/-!
# Restoring deployments whose activation fails

`restore_active_deployments` with every way an activation can fail: an exception that
`activate_revision` turns into a `PluginActivationError` makes one deployment FAILED, any
other one ends the restore.
-/

namespace WechatBot.PluginRestore

open PyData Records PluginScope PluginCatalog PluginSystem PluginSteps PluginPackages
open PluginStanding (prepareActivation_some abortActivation_own)
open Runs (EachStep)
open Tables (Table)

/-- A candidate process. `none` for an answer is a failure of the protocol, or an answer
that is not ok. -/
structure Candidature where
  created : Bool
  initialized : Option Json
  health : Option Json

/-- `PluginProcess.start`. A status that is a list or an object has no hash. -/
def start (candidature : Candidature) : Except Raised Unit :=
  if candidature.created = false then .error .OSError
  else match candidature.initialized, candidature.health with
  | none, _ | some _, none => .error (.PluginRuntimeError "plugin call failed")
  | some _, some (.obj health) =>
    match Json.get health (py "status") with
    | some (.arr _) | some (.obj _) => .error .TypeError
    | some (.str status) =>
      if status = py "ok" ∨ status = py "ready" then .ok ()
      else .error (.PluginRuntimeError "plugin health check did not return ready status")
    | _ => .error (.PluginRuntimeError "plugin health check did not return ready status")
  | some _, some _ =>
    .error (.PluginRuntimeError "plugin health check did not return ready status")

/-- The columns that a launch reads, and its surroundings. `config` is the decrypted and
parsed configuration of a revision, `none` where that raises a `ValueError`. -/
structure Launching where
  tools : PackageTools
  directory : UUID → PackageDirectory
  packageSha256 : UUID → Str
  config : UUID → Option Json
  process : UUID → Candidature

variable (casefold : Str → Str) (launching : Launching) (rowIds : UUID → UUID)

/-- `_decrypt_revision_config`. -/
def decryptRevisionConfig (revisionId : UUID) : Except Raised (List (Str × Json)) :=
  match launching.config revisionId with
  | none => .error (.PluginCatalogError "stored plugin configuration is invalid")
  | some (.obj fields) => .ok fields
  | some _ => .error (.PluginCatalogError "stored plugin configuration is not an object")

/-- `_launch_spec`, as far as it can raise. -/
def launchSpec (candidate : Candidate) : Except Raised Unit := do
  let (_, actualHash) ← loadPluginManifest launching.tools (launching.directory candidate.2.id)
  if actualHash ≠ launching.packageSha256 candidate.2.id then
    .error (.PluginCatalogError "plugin package changed after verification")
  else
    let _ ← decryptRevisionConfig launching candidate.1.id
    return ()

/-- The supervisor after `prepare_activation`, and its exception; a candidate that does not
start is aborted. -/
def prepare (s : Supervisor) (deploymentId : UUID) (epoch : Nat) (revisionId : UUID) :
    Supervisor × Except Raised Unit :=
  match prepareActivation s deploymentId 0 epoch revisionId with
  | none => (s, .error (.PluginRuntimeError
      (if s.pending deploymentId ≠ none then "plugin deployment already has a pending transition"
      else "activation epoch must increase monotonically")))
  | some pending =>
    match start (launching.process deploymentId) with
    | .ok () => (pending, .ok ())
    | .error e => (abortActivation pending deploymentId 0, .error e)

/-- The part of `activate_revision` that it guards with
`except (PluginRuntimeError, ValueError)`. -/
def launch (s : Supervisor) (deploymentId : UUID) (epoch : Nat) (candidate : Candidate) :
    Supervisor × Except Raised Unit :=
  match launchSpec launching candidate with
  | .error e => (s, .error e)
  | .ok () => prepare launching s deploymentId epoch candidate.1.id

/-- Subclasses of `ValueError`, and `PluginRuntimeError`. -/
def guarded : Raised → Bool
  | .UnicodeEncodeError | .PluginPackageError _ | .PluginCatalogError _ | .PluginRuntimeError _ => true
  | _ => false

structure Restoring where
  catalog : Catalog
  supervisor : Supervisor
  restored : List UUID
  failed : List UUID

/-- The deployment is FAILED, and the restore goes on. -/
def markFailed (s : Restoring) (catalog : Catalog) (supervisor : Supervisor) (deploymentId : UUID) :
    Restoring where
  catalog := match catalog.deployments.find deploymentId with
    | some stored => writeRestoreFailed catalog stored
    | none => catalog
  supervisor := supervisor
  restored := s.restored
  failed := s.failed ++ [deploymentId]

/-- One turn of the loop: `activate_revision`, of whose exceptions only
`PluginActivationError` is caught. -/
def restoreTurn (s : Restoring) (deploymentId : UUID) : Except Raised Restoring :=
  match s.catalog.deployments.find deploymentId with
  | none => .error (.PluginObjectNotFoundError "plugin deployment revision not found")
  | some deployment =>
    match deployment.activeRevisionId with
    | none => .ok s
    | some revisionId =>
      match activatable s.catalog deployment revisionId with
      | none => .error (.PluginObjectNotFoundError "available plugin package not found")
      | some candidate =>
        if conflictsWithRunning casefold s.catalog deployment candidate then
          .ok (markFailed s s.catalog s.supervisor deploymentId)
        else
          let epoch := nextEpoch s.catalog deploymentId
          match launch launching s.supervisor deploymentId epoch candidate with
          | (supervisor, .ok ()) => .ok {
              catalog := writeActivated s.catalog (rowIds deploymentId) deployment deployment
                revisionId epoch
              supervisor := supervisor
              restored := s.restored ++ [deploymentId]
              failed := s.failed }
          | (supervisor, .error e) =>
            if guarded e then
              .ok (markFailed s (writeFailed s.catalog (rowIds deploymentId) deployment deployment
                revisionId epoch) supervisor deploymentId)
            else .error e

def restoreActiveDeployments (c : Catalog) (s : Supervisor) : Except Raised Restoring :=
  (restorable c).foldlM (restoreTurn casefold launching rowIds) ⟨c, s, [], []⟩

def PendingActivation (s : Supervisor) (deploymentId : UUID) : Prop :=
  ∃ owner epoch revisionId, s.pending deploymentId = some (.activation owner epoch revisionId)

/-- The deployment is in exactly one list, and has a pending activation just when that is
the list of the restored. -/
def Settled (s : Restoring) (deploymentId : UUID) : Prop :=
  Xor (deploymentId ∈ s.restored) (deploymentId ∈ s.failed) ∧
    (deploymentId ∈ s.restored → PendingActivation s.supervisor deploymentId) ∧
    (deploymentId ∈ s.failed → ¬ PendingActivation s.supervisor deploymentId)

/-- What an activation asks for exists, and the launch is not reached or raises nothing
that is not guarded. -/
def Spared (s : Restoring) (deploymentId : UUID) : Prop :=
  ∃ deployment revisionId candidate,
    s.catalog.deployments.find deploymentId = some deployment ∧
    deployment.activeRevisionId = some revisionId ∧
    activatable s.catalog deployment revisionId = some candidate ∧
    (conflictsWithRunning casefold s.catalog deployment candidate = true ∨
      ∀ e, (launch launching s.supervisor deploymentId (nextEpoch s.catalog deploymentId)
        candidate).2 = .error e → guarded e = true)

theorem setPending_none {s : Supervisor} {deploymentId : UUID} {pending : Option Pending}
    (h : s.pending deploymentId = none) :
    (s.setPending deploymentId pending).setPending deploymentId none = s := by
  simp [Supervisor.setPending, ← h]

/-- An abort takes its own preparation back. -/
theorem abort_prepared {s s' : Supervisor} {deploymentId revisionId : UUID} {owner epoch : Nat}
    (h : prepareActivation s deploymentId owner epoch revisionId = some s') :
    abortActivation s' deploymentId owner = s := by
  obtain ⟨hnone, rfl⟩ := prepareActivation_some h
  have hpending : (s.setPending deploymentId (some (.activation owner epoch revisionId))).pending
      deploymentId = some (.activation owner epoch revisionId) := by
    simp [Supervisor.setPending]
  rw [abortActivation_own hpending]
  exact setPending_none hnone

/-- A launch that raises leaves the supervisor as it was. -/
theorem launch_error {s s' : Supervisor} {deploymentId : UUID} {epoch : Nat} {candidate : Candidate}
    {e : Raised} (h : launch launching s deploymentId epoch candidate = (s', .error e)) : s' = s := by
  unfold launch at h
  split at h
  · exact (Prod.mk.inj h).1.symm
  · unfold prepare at h
    split at h
    · exact (Prod.mk.inj h).1.symm
    · rename_i hprepare
      split at h
      · cases h
      · rw [← (Prod.mk.inj h).1]
        exact abort_prepared hprepare

/-- A launch that succeeds has found no transition and leaves an activation. -/
theorem launch_ok {s s' : Supervisor} {deploymentId : UUID} {epoch : Nat} {candidate : Candidate}
    (h : launch launching s deploymentId epoch candidate = (s', .ok ())) :
    prepareActivation s deploymentId 0 epoch candidate.1.id = some s' := by
  unfold launch at h
  split at h
  · cases h
  · unfold prepare at h
    split at h
    · cases h
    · rename_i hprepare
      split at h
      · rw [← (Prod.mk.inj h).1]
        exact hprepare
      · cases h

/-- The name of a file and its content fit their length fields. -/
def Framable (name : List UInt8) (file : PackageFile) : Prop :=
  name.length < 256 ^ 4 ∧ ∃ content, file.content = some content ∧ content.length < 256 ^ 8

/-- Every file can be read and framed, up to the first name that has no UTF-8. -/
def Digestible (tools : PackageTools) : List PackageFile → Prop
  | [] => True
  | file :: rest => ∀ name, tools.utf8 (posixPath file.parts) = some name →
      Framable name file ∧ Digestible tools rest

/-- The path of a package exists, and the file system answers what the manifest and the
digest of the package ask for. -/
def PackageReadable (tools : PackageTools) (directory : PackageDirectory) : Prop :=
  directory.resolves = true ∧
  (directory.isDirectory = true → ∀ manifestFile,
    fileAt directory [py "manifest.toml"] = some manifestFile →
    (packageFiles directory).length ≤ maxFiles →
    ∃ sizes, (packageFiles directory).mapM PackageFile.size = some sizes ∧
      (sizes.sum ≤ maxBytes → ∀ manifest entrypoint,
        manifestFile.content.bind tools.parseManifest = some (manifest, entrypoint) →
        entrypointExists directory entrypoint = true →
        Digestible tools (digestOrder (packageFiles directory))))

/-- The process is created, and its status, if it comes to that, is no list or object. -/
def Startable (candidature : Candidature) : Prop :=
  candidature.created = true ∧
  (candidature.initialized ≠ none → ∀ health, candidature.health = some (.obj health) →
    (∀ items, Json.get health (py "status") ≠ some (.arr items)) ∧
      ∀ fields, Json.get health (py "status") ≠ some (.obj fields))

section Caught

variable {α β : Type}

/-- An answer, or an exception that `activate_revision` catches. -/
def Caught (result : Except Raised α) : Prop := ∀ e, result = .error e → guarded e = true

@[simp] theorem caught_ok (a : α) : Caught (.ok a) := by
  intro e he
  cases he

@[simp] theorem caught_error (e : Raised) :
    Caught (.error e : Except Raised α) ↔ guarded e = true := by
  constructor
  · exact fun h => h e rfl
  · rintro h e' he
    cases he
    exact h

theorem caught_map (f : α → β) (result : Except Raised α) :
    Caught (result.map f) ↔ Caught result := by
  cases result <;> simp [Except.map]

theorem caught_bind (result : Except Raised α) (f : α → Except Raised β) :
    Caught (result >>= f) ↔ Caught result ∧ ∀ a, result = .ok a → Caught (f a) := by
  cases result <;> simp [bind, Except.bind]

end Caught

theorem bigEndian_of_lt {width n : Nat} (h : n < 256 ^ width) :
    ∃ bytes, bigEndian width n = .ok bytes := ⟨_, if_pos h⟩

/-- The bytes of a file that is framed; any other file raises an error of its name, which is
caught, or one of the file system or of a length, which is not. -/
theorem fileBytes_cases (tools : PackageTools) (file : PackageFile) :
    (tools.utf8 (posixPath file.parts) = none ∧
      fileBytes tools file = .error .UnicodeEncodeError) ∨
    ∃ name, tools.utf8 (posixPath file.parts) = some name ∧
      ((Framable name file ∧ ∃ bytes, fileBytes tools file = .ok bytes) ∨
        (¬ Framable name file ∧ ∃ e, guarded e = false ∧ fileBytes tools file = .error e)) := by
  unfold fileBytes
  cases hname : tools.utf8 (posixPath file.parts) with
  | none => exact .inl ⟨rfl, rfl⟩
  | some name =>
    refine .inr ⟨name, rfl, ?_⟩
    by_cases hlength : name.length < 256 ^ 4
    · obtain ⟨nameLength, hnameLength⟩ := bigEndian_of_lt hlength
      cases hcontent : file.content with
      | none =>
        refine .inr ⟨?_, .OSError, rfl, ?_⟩
        · rintro ⟨-, content, hsome, -⟩
          rw [hcontent] at hsome
          cases hsome
        · simp [hnameLength, bind, Except.bind]
      | some content =>
        by_cases hcontentLength : content.length < 256 ^ 8
        · obtain ⟨contentLength, heq⟩ := bigEndian_of_lt hcontentLength
          refine .inl ⟨⟨hlength, content, hcontent, hcontentLength⟩, ?_⟩
          simp [hnameLength, heq, bind, Except.bind, pure, Except.pure]
        · refine .inr ⟨?_, .OverflowError, rfl, ?_⟩
          · rintro ⟨-, content', hsome, hlt⟩
            rw [hcontent] at hsome
            cases hsome
            exact hcontentLength hlt
          · have heq : bigEndian 8 content.length = .error .OverflowError := if_neg hcontentLength
            simp [hnameLength, heq, bind, Except.bind]
    · refine .inr ⟨fun h => hlength h.1, .OverflowError, rfl, ?_⟩
      have heq : bigEndian 4 name.length = .error .OverflowError := if_neg hlength
      simp [heq, bind, Except.bind]

/-- The digest of files that can be read raises nothing that escapes. -/
theorem caught_digestStream (tools : PackageTools) (files : List PackageFile) :
    Caught (digestStream tools files) ↔ Digestible tools (digestOrder files) := by
  rw [digestStream, caught_map]
  induction digestOrder files with
  | nil => simp [Digestible, pure, Except.pure]
  | cons file rest ih =>
    have hrest : ∀ bytes, Caught (do
        let more ← rest.mapM (fileBytes tools)
        pure (bytes :: more)) ↔ Digestible tools rest := by
      intro bytes
      rw [← ih]
      cases rest.mapM (fileBytes tools) <;> simp [bind, Except.bind, pure, Except.pure]
    rw [List.mapM_cons, Digestible]
    obtain ⟨hname, hraised⟩ | ⟨name, hname, hframable⟩ := fileBytes_cases tools file
    · simp [hname, hraised, guarded, bind, Except.bind]
    · obtain ⟨hframable, bytes, hbytes⟩ | ⟨hframable, e, hguarded, hraised⟩ := hframable
      · rw [hbytes]
        simp only [hname, Option.some.injEq, forall_eq', hframable, true_and]
        exact hrest bytes
      · simp [hname, hframable, hraised, hguarded, bind, Except.bind]

/-- Loading a package that can be read raises nothing that escapes. -/
theorem caught_loadPluginManifest (tools : PackageTools) (directory : PackageDirectory) :
    Caught (loadPluginManifest tools directory) ↔ PackageReadable tools directory := by
  unfold loadPluginManifest PackageReadable
  split
  · simp [*, guarded]
  rename_i hresolves
  split
  · simp [*, guarded]
  rename_i hdirectory
  rw [Bool.not_eq_false] at hresolves hdirectory
  simp only [hresolves, hdirectory, true_and, forall_const]
  cases fileAt directory [py "manifest.toml"] with
  | none => simp [guarded]
  | some manifestFile =>
    simp only [Option.some.injEq, forall_eq']
    split
    · rename_i hmany
      simp [guarded, hmany]
    rename_i hfew
    simp only [not_lt.1 hfew, forall_const]
    cases (packageFiles directory).mapM PackageFile.size with
    | none => simp [guarded]
    | some sizes =>
      simp only [Option.some.injEq, exists_eq_left']
      split
      · rename_i hlarge
        simp [guarded, hlarge]
      rename_i hsmall
      simp only [not_lt.1 hsmall, forall_const]
      cases manifestFile.content.bind tools.parseManifest with
      | none => simp [guarded]
      | some parsed =>
        obtain ⟨manifest, entrypoint⟩ := parsed
        simp only [Option.some.injEq, Prod.mk.injEq]
        split
        · simp [*, guarded]
        · rename_i hentrypoint
          rw [Bool.not_eq_false] at hentrypoint
          rw [caught_map, caught_digestStream]
          simp [hentrypoint]

/-- The start of a startable process raises nothing that escapes. -/
theorem caught_start (candidature : Candidature) :
    Caught (start candidature) ↔ Startable candidature := by
  unfold start Startable
  split
  · simp [*, guarded]
  rename_i hcreated
  rw [Bool.not_eq_false] at hcreated
  simp only [hcreated, true_and]
  cases candidature.initialized with
  | none => simp [guarded]
  | some answer =>
    cases candidature.health with
    | none => simp [guarded]
    | some health =>
      cases health with
      | obj health =>
        simp only [Option.some.injEq, Json.obj.injEq, forall_eq']
        cases Json.get health (py "status") with
        | none => simp [guarded]
        | some status =>
          cases status with
          | str status =>
            by_cases hready : status = py "ok" ∨ status = py "ready" <;> simp [hready, guarded]
          | _ => simp [guarded]
      | _ => simp [guarded]

theorem caught_decrypt (revisionId : UUID) :
    Caught (decryptRevisionConfig launching revisionId) := by
  unfold decryptRevisionConfig
  split <;> simp [guarded]

/-- What a launch needs raises nothing that escapes when its package can be read. -/
theorem caught_launchSpec (candidate : Candidate) :
    Caught (launchSpec launching candidate) ↔
      PackageReadable launching.tools (launching.directory candidate.2.id) := by
  rw [← caught_loadPluginManifest, launchSpec, caught_bind, and_iff_left_iff_imp]
  rintro - ⟨manifest, actualHash⟩ -
  dsimp only
  split
  · simp [guarded]
  · rw [caught_bind]
    exact ⟨caught_decrypt launching candidate.1.id, fun _ _ => caught_ok _⟩

/-- An activation raises only what is caught exactly when the package can be read and, where
the activation comes to it, the process started. -/
theorem caught_launch (s : Supervisor) (deploymentId : UUID) (epoch : Nat) (candidate : Candidate) :
    Caught (launch launching s deploymentId epoch candidate).2 ↔
      PackageReadable launching.tools (launching.directory candidate.2.id) ∧
      (launchSpec launching candidate = .ok () →
        prepareActivation s deploymentId 0 epoch candidate.1.id ≠ none →
        Startable (launching.process deploymentId)) := by
  rw [← caught_launchSpec, ← caught_start, launch]
  cases launchSpec launching candidate with
  | error e => simp
  | ok =>
    rw [prepare]
    cases prepareActivation s deploymentId 0 epoch candidate.1.id with
    | none => simp [guarded]
    | some pending => cases start (launching.process deploymentId) <;> simp

/-- The condition of a turn, by the package on disk and the candidate process. -/
theorem spared_iff (s : Restoring) (deploymentId : UUID) :
    Spared casefold launching s deploymentId ↔
      ∃ deployment revisionId candidate,
        s.catalog.deployments.find deploymentId = some deployment ∧
        deployment.activeRevisionId = some revisionId ∧
        activatable s.catalog deployment revisionId = some candidate ∧
        (conflictsWithRunning casefold s.catalog deployment candidate = true ∨
          PackageReadable launching.tools (launching.directory candidate.2.id) ∧
          (launchSpec launching candidate = .ok () →
            prepareActivation s.supervisor deploymentId 0 (nextEpoch s.catalog deploymentId)
              candidate.1.id ≠ none →
            Startable (launching.process deploymentId))) := by
  simp only [← caught_launch]
  rfl

/-- What a turn that goes on has done. -/
inductive Turn (s : Restoring) (deploymentId : UUID) (s' : Restoring) : Prop
  | inactive (deployment : PluginDeployment)
      (hfind : s.catalog.deployments.find deploymentId = some deployment)
      (hactive : deployment.activeRevisionId = none) (hsame : s' = s)
  | failed (hspared : Spared casefold launching s deploymentId)
      (hrestored : s'.restored = s.restored) (hfailed : s'.failed = s.failed ++ [deploymentId])
      (hsupervisor : s'.supervisor = s.supervisor)
  | restored (hspared : Spared casefold launching s deploymentId) (epoch : Nat) (revisionId : UUID)
      (hrestored : s'.restored = s.restored ++ [deploymentId]) (hfailed : s'.failed = s.failed)
      (hprepared : prepareActivation s.supervisor deploymentId 0 epoch revisionId =
        some s'.supervisor)

/-- A turn that goes on was spared, and has done one of three things. -/
theorem turn_of_ok {s s' : Restoring} {deploymentId : UUID}
    (h : restoreTurn casefold launching rowIds s deploymentId = .ok s') :
    Turn casefold launching s deploymentId s' := by
  unfold restoreTurn at h
  split at h
  · cases h
  rename_i deployment hfind
  split at h
  · rename_i hactive
    cases h
    exact .inactive deployment hfind hactive rfl
  rename_i revisionId hrevision
  split at h
  · cases h
  rename_i candidate hcandidate
  split at h
  · rename_i hconflict
    cases h
    have hspared : Spared casefold launching s deploymentId :=
      ⟨deployment, revisionId, candidate, hfind, hrevision, hcandidate, .inl hconflict⟩
    exact .failed hspared rfl rfl rfl
  · dsimp only at h
    split at h
    · rename_i supervisor hlaunch
      cases h
      have hspared : Spared casefold launching s deploymentId := by
        refine ⟨deployment, revisionId, candidate, hfind, hrevision, hcandidate, .inr ?_⟩
        intro e he
        rw [hlaunch] at he
        cases he
      exact .restored hspared _ _ rfl rfl (launch_ok launching hlaunch)
    · rename_i supervisor e hlaunch
      split at h
      · rename_i hguarded
        cases h
        have hspared : Spared casefold launching s deploymentId := by
          refine ⟨deployment, revisionId, candidate, hfind, hrevision, hcandidate, .inr ?_⟩
          intro e' he
          rw [hlaunch] at he
          cases he
          exact hguarded
        exact .failed hspared rfl rfl (launch_error launching hlaunch)
      · cases h

/-- A spared turn goes on. -/
theorem ok_of_spared {s : Restoring} {deploymentId : UUID}
    (h : Spared casefold launching s deploymentId) :
    ∃ s', restoreTurn casefold launching rowIds s deploymentId = .ok s' := by
  obtain ⟨deployment, revisionId, candidate, hfind, hrevision, hcandidate, hspared⟩ := h
  simp only [restoreTurn, hfind, hrevision, hcandidate]
  split
  · exact ⟨_, rfl⟩
  · rename_i hconflict
    split
    · exact ⟨_, rfl⟩
    · rename_i supervisor e hlaunch
      have hguarded : guarded e = true := by
        apply (hspared.resolve_left hconflict) e
        rw [hlaunch]
      exact ⟨_, if_pos hguarded⟩

/-- A turn leaves what is said of the other deployments. -/
theorem Turn.others {s s' : Restoring} {deploymentId : UUID}
    (h : Turn casefold launching s deploymentId s') {other : UUID} (hne : other ≠ deploymentId) :
    (other ∈ s'.restored ↔ other ∈ s.restored) ∧ (other ∈ s'.failed ↔ other ∈ s.failed) ∧
      s'.supervisor.pending other = s.supervisor.pending other := by
  cases h with
  | inactive deployment hfind hactive hsame => simp [hsame]
  | failed hspared hrestored hfailed hsupervisor =>
    simp [hrestored, hfailed, hsupervisor, hne]
  | restored hspared epoch revisionId hrestored hfailed hprepared =>
    obtain ⟨-, hsupervisor⟩ := prepareActivation_some hprepared
    simp [hrestored, hfailed, hsupervisor, Supervisor.setPending, hne]

/-- The first turn of a deployment settles it when it is spared and nothing was pending. -/
theorem Turn.settled_iff {s s' : Restoring} {deploymentId : UUID}
    (h : Turn casefold launching s deploymentId s')
    (hrestored : deploymentId ∉ s.restored) (hfailed : deploymentId ∉ s.failed) :
    Settled s' deploymentId ↔
      ¬ PendingActivation s.supervisor deploymentId ∧ Spared casefold launching s deploymentId := by
  cases h with
  | inactive deployment hfind hactive hsame =>
    subst hsame
    constructor
    · rintro ⟨hxor, -⟩
      simp [Xor, hrestored, hfailed] at hxor
    · rintro ⟨-, deployment', revisionId, candidate, hfind', hrevision, -⟩
      rw [hfind] at hfind'
      cases hfind'
      rw [hactive] at hrevision
      cases hrevision
  | failed hspared hrestored' hfailed' hsupervisor =>
    simp [Settled, Xor, hrestored', hfailed', hsupervisor, hrestored, hspared]
  | restored hspared epoch revisionId hrestored' hfailed' hprepared =>
    obtain ⟨hnone, hsupervisor⟩ := prepareActivation_some hprepared
    simp [Settled, Xor, hrestored', hfailed', hsupervisor, hfailed, hspared, PendingActivation,
      Supervisor.setPending, hnone]

/-- The turns of a restore. -/
def turns : Restoring → UUID → Option Restoring :=
  fun s deploymentId => (restoreTurn casefold launching rowIds s deploymentId).toOption

theorem turns_some {s s' : Restoring} {deploymentId : UUID} :
    turns casefold launching rowIds s deploymentId = some s' ↔
      restoreTurn casefold launching rowIds s deploymentId = .ok s' := by
  unfold turns
  cases restoreTurn casefold launching rowIds s deploymentId <;> simp [Except.toOption]

/-- The loop leaves the deployments that are not its own. -/
theorem loop_others {todo : List UUID} {s s' : Restoring}
    (hrun : Runs.run (turns casefold launching rowIds) s todo = some s') {other : UUID}
    (hother : other ∉ todo) :
    (other ∈ s'.restored ↔ other ∈ s.restored) ∧ (other ∈ s'.failed ↔ other ∈ s.failed) ∧
      s'.supervisor.pending other = s.supervisor.pending other := by
  induction todo generalizing s with
  | nil =>
    cases hrun
    exact ⟨Iff.rfl, Iff.rfl, rfl⟩
  | cons deploymentId todo ih =>
    obtain ⟨t, hturn, hrest⟩ := (Runs.run_cons _ _ _ _ _).1 hrun
    rw [List.mem_cons, not_or] at hother
    obtain ⟨hrestored, hfailed, hpending⟩ :=
      (turn_of_ok casefold launching rowIds ((turns_some casefold launching rowIds).1 hturn)).others
        casefold launching hother.1
    obtain ⟨hrestored', hfailed', hpending'⟩ := ih hrest hother.2
    exact ⟨hrestored'.trans hrestored, hfailed'.trans hfailed, hpending'.trans hpending⟩

theorem settled_congr {s s' : Restoring} {deploymentId : UUID}
    (hrestored : deploymentId ∈ s'.restored ↔ deploymentId ∈ s.restored)
    (hfailed : deploymentId ∈ s'.failed ↔ deploymentId ∈ s.failed)
    (hpending : s'.supervisor.pending deploymentId = s.supervisor.pending deploymentId) :
    Settled s' deploymentId ↔ Settled s deploymentId := by
  simp only [Settled, PendingActivation, hrestored, hfailed, hpending]

/-- The loop settles the deployments it has not met before exactly when each turn is spared
and no activation was pending. -/
theorem loop_settles {todo : List UUID} (hnodup : todo.Nodup) {s : Restoring}
    (hfresh : ∀ d ∈ todo, d ∉ s.restored ∧ d ∉ s.failed) :
    (∃ s', Runs.run (turns casefold launching rowIds) s todo = some s' ∧
        ∀ d ∈ todo, Settled s' d) ↔
      (∀ d ∈ todo, ¬ PendingActivation s.supervisor d) ∧
        EachStep (turns casefold launching rowIds) (Spared casefold launching) s todo := by
  induction todo generalizing s with
  | nil => simp [EachStep]
  | cons deploymentId todo ih =>
    obtain ⟨hnot, hnodup⟩ := List.nodup_cons.1 hnodup
    obtain ⟨hrestored, hfailed⟩ := hfresh deploymentId (List.mem_cons_self ..)
    -- the deployments that are left are untouched by the turn
    have hleft : ∀ t, Turn casefold launching s deploymentId t →
        (∀ d ∈ todo, d ∉ t.restored ∧ d ∉ t.failed) ∧
          ∀ d ∈ todo, PendingActivation t.supervisor d ↔ PendingActivation s.supervisor d := by
      intro t hturn
      have hothers := fun d (hd : d ∈ todo) =>
        hturn.others casefold launching (show d ≠ deploymentId by rintro rfl; exact hnot hd)
      constructor
      · intro d hd
        rw [(hothers d hd).1, (hothers d hd).2.1]
        exact hfresh d (List.mem_cons_of_mem _ hd)
      · intro d hd
        simp only [PendingActivation, (hothers d hd).2.2]
    constructor
    · rintro ⟨s', hrun, hsettled⟩
      obtain ⟨t, hstep, hrest⟩ := (Runs.run_cons _ _ _ _ _).1 hrun
      have hturn := turn_of_ok casefold launching rowIds
        ((turns_some casefold launching rowIds).1 hstep)
      obtain ⟨hfresh', hpending'⟩ := hleft t hturn
      obtain ⟨hnone, heach⟩ := (ih hnodup hfresh').1
        ⟨s', hrest, fun d hd => hsettled d (List.mem_cons_of_mem _ hd)⟩
      obtain ⟨hr, hf, hp⟩ := loop_others casefold launching rowIds hrest hnot
      obtain ⟨hnone', hspared⟩ := (hturn.settled_iff casefold launching hrestored hfailed).1
        ((settled_congr hr hf hp).1 (hsettled deploymentId (List.mem_cons_self ..)))
      refine ⟨?_, hspared, ?_⟩
      · intro d hd
        rcases List.mem_cons.1 hd with rfl | hd
        · exact hnone'
        · rw [← hpending' d hd]
          exact hnone d hd
      · intro u hu
        rw [hstep] at hu
        cases hu
        exact heach
    · rintro ⟨hnone, hspared, heach⟩
      obtain ⟨t, hstep⟩ := ok_of_spared casefold launching rowIds hspared
      have hturn := turn_of_ok casefold launching rowIds hstep
      have hstep' := (turns_some casefold launching rowIds).2 hstep
      obtain ⟨hfresh', hpending'⟩ := hleft t hturn
      have hnone' : ∀ d ∈ todo, ¬ PendingActivation t.supervisor d := by
        intro d hd
        rw [hpending' d hd]
        exact hnone d (List.mem_cons_of_mem _ hd)
      obtain ⟨s', hrest, hsettled⟩ := (ih hnodup hfresh').2 ⟨hnone', heach t hstep'⟩
      refine ⟨s', (Runs.run_cons _ _ _ _ _).2 ⟨t, hstep', hrest⟩, ?_⟩
      intro d hd
      rcases List.mem_cons.1 hd with rfl | hd
      · obtain ⟨hr, hf, hp⟩ := loop_others casefold launching rowIds hrest hnot
        rw [settled_congr hr hf hp, hturn.settled_iff casefold launching hrestored hfailed]
        exact ⟨hnone d (List.mem_cons_self ..), hspared⟩
      · exact hsettled d hd

/-- Every running deployment is settled, and nothing is raised. -/
def Isolated (c : Catalog) (result : Except Raised Restoring) : Prop :=
  ∃ s', result = .ok s' ∧
    ∀ deployment ∈ c.deployments.rows, deployment.status = .RUNNING → Settled s' deployment.id

/-- A restore that raises nothing is a run of the turns. -/
theorem restore_ok {c : Catalog} {s : Supervisor} {s' : Restoring} :
    restoreActiveDeployments casefold launching rowIds c s = .ok s' ↔
      Runs.run (turns casefold launching rowIds) ⟨c, s, [], []⟩ (restorable c) = some s' := by
  have hrun := Runs.foldlM_toOption (restoreTurn casefold launching rowIds) ⟨c, s, [], []⟩
    (restorable c)
  unfold turns
  rw [← hrun, restoreActiveDeployments]
  cases (restorable c).foldlM (restoreTurn casefold launching rowIds) ⟨c, s, [], []⟩ <;>
    simp [Except.toOption]

/-- The deployment as a turn of another one leaves it. -/
theorem find_markFailed {s : Restoring} {c : Catalog} {supervisor : Supervisor}
    {deploymentId : UUID} {stored : PluginDeployment}
    (hfind : c.deployments.find deploymentId = some stored) {other : UUID} (hne : other ≠ deploymentId) :
    (markFailed s c supervisor deploymentId).catalog.deployments.find other =
      c.deployments.find other := by
  obtain rfl := Table.find_key hfind
  simp only [markFailed, hfind]
  rw [find_writeRestoreFailed hfind, if_neg hne]

/-- A turn that goes on is the turn of the model in which launches answer yes or no. -/
theorem turn_refines {s s' : Restoring} {deploymentId : UUID} (starts : UUID → Bool)
    {deployment : PluginDeployment}
    (hfind : s.catalog.deployments.find deploymentId = some deployment)
    (hactive : deployment.activeRevisionId ≠ none) (hfresh : deploymentId ∉ s.restored)
    (h : restoreTurn casefold launching rowIds s deploymentId = .ok s')
    (hstarts : starts deploymentId = true ↔ deploymentId ∈ s'.restored) :
    restoreOne casefold starts rowIds ⟨s.catalog, s.supervisor, s.restored⟩ deploymentId =
        some ⟨s'.catalog, s'.supervisor, s'.restored⟩ ∧
      ∀ other ≠ deploymentId,
        s'.catalog.deployments.find other = s.catalog.deployments.find other := by
  obtain rfl := Table.find_key hfind
  obtain ⟨revisionId, hrevision⟩ := Option.ne_none_iff_exists'.1 hactive
  simp only [restoreTurn, hfind, hrevision] at h
  split at h
  · cases h
  rename_i candidate hcandidate
  simp only [restoreOne, hfind, hrevision, hcandidate, Option.bind_eq_bind, Option.bind_some]
  obtain ⟨-, hid, -⟩ := activatable_some hcandidate
  split at h
  · rename_i hconflict
    cases h
    rw [if_pos hconflict]
    refine ⟨by simp [markFailed, hfind], ?_⟩
    intro other hne
    exact find_markFailed hfind hne
  · rename_i hconflict
    rw [if_neg hconflict]
    split at h
    · rename_i supervisor hlaunch
      cases h
      have hprepare := launch_ok launching hlaunch
      rw [hid] at hprepare
      rw [if_pos (hstarts.2 (by simp)), hprepare]
      refine ⟨rfl, ?_⟩
      intro other hne
      rw [find_writeActivated deployment hfind, if_neg hne]
    · rename_i supervisor e hlaunch
      split at h
      · cases h
        have hrefused : starts deployment.id ≠ true := by
          rw [Ne, hstarts]
          exact hfresh
        obtain rfl := launch_error launching hlaunch
        have hwritten := find_writeFailed deployment hfind (rowIds deployment.id) revisionId
          (nextEpoch s.catalog deployment.id)
        have hrow := (hwritten deployment.id).trans (if_pos rfl)
        rw [if_neg hrefused]
        refine ⟨by simp [hrow, markFailed], ?_⟩
        intro other hne
        rw [find_markFailed hrow hne, hwritten, if_neg hne]
      · cases h

/-- A loop that raises nothing is the loop of the runtime's state machine. -/
theorem loop_refines {todo : List UUID} (hnodup : todo.Nodup) {s s' : Restoring}
    (hactive : ∀ d ∈ todo, ∃ deployment, s.catalog.deployments.find d = some deployment ∧
      deployment.activeRevisionId ≠ none)
    (hfresh : ∀ d ∈ todo, d ∉ s.restored)
    (hrun : Runs.run (turns casefold launching rowIds) s todo = some s') :
    restoreLoop casefold (fun d => decide (d ∈ s'.restored)) rowIds
        ⟨s.catalog, s.supervisor, s.restored⟩ todo =
      some ⟨s'.catalog, s'.supervisor, s'.restored⟩ := by
  induction todo generalizing s with
  | nil =>
    cases hrun
    rfl
  | cons deploymentId todo ih =>
    obtain ⟨hnot, hnodup⟩ := List.nodup_cons.1 hnodup
    obtain ⟨t, hstep, hrest⟩ := (Runs.run_cons _ _ _ _ _).1 hrun
    have hok := (turns_some casefold launching rowIds).1 hstep
    have hturn := turn_of_ok casefold launching rowIds hok
    obtain ⟨hrestored, -, -⟩ := loop_others casefold launching rowIds hrest hnot
    obtain ⟨deployment, hfind, hactive₀⟩ := hactive deploymentId (List.mem_cons_self ..)
    obtain ⟨hone, hothers⟩ := turn_refines casefold launching rowIds (fun d => decide (d ∈ s'.restored))
      hfind hactive₀ (hfresh deploymentId (List.mem_cons_self ..)) hok
      (by rw [decide_eq_true_iff, hrestored])
    have hne : ∀ d ∈ todo, d ≠ deploymentId := by
      rintro d hd rfl
      exact hnot hd
    rw [restoreLoop, hone, Option.bind_some]
    apply ih hnodup _ _ hrest
    · intro d hd
      rw [hothers d (hne d hd)]
      exact hactive d (List.mem_cons_of_mem _ hd)
    · intro d hd
      rw [(hturn.others casefold launching (hne d hd)).1]
      exact hfresh d (List.mem_cons_of_mem _ hd)

/-- A restore that raises nothing is a restore of the runtime's state machine, in which the
restored deployments are those whose candidate starts. -/
theorem restore_refines {c : Catalog} {s' : Restoring}
    (h : restoreActiveDeployments casefold launching rowIds c Supervisor.empty = .ok s') :
    PluginCatalog.restoreActiveDeployments casefold (fun d => decide (d ∈ s'.restored)) rowIds c =
      some ⟨s'.catalog, s'.supervisor, s'.restored⟩ := by
  apply loop_refines casefold launching rowIds (PluginAgreement.nodup_restorable c)
    (s := ⟨c, Supervisor.empty, [], []⟩)
  · intro d hd
    obtain ⟨deployment, hfind, -, hactive⟩ := PluginAgreement.mem_restorable.1 hd
    exact ⟨deployment, hfind, hactive⟩
  · exact fun d hd => List.not_mem_nil
  · exact (restore_ok casefold launching rowIds).1 h

def runningDeployment (id revisionId : UUID) (name : Str) : PluginDeployment :=
  ⟨id, 1, 1, name, .RUNNING, some revisionId, none⟩

/-- Two deployments run revisions of packages 1 and 2. -/
def gonePackage : Catalog where
  plugins id := if id = 1 then some ⟨1, 1⟩ else none
  packages id :=
    if id = 1 ∨ id = 2 then some ⟨id, 1, ⟨py "acme.echo", [], []⟩, true⟩ else none
  deployments := ⟨[runningDeployment 2 3 (py "first"), runningDeployment 12 13 (py "second")],
    by decide⟩
  revisions := ⟨[⟨3, 2, 1, 1, PluginAgreement.everywhere, []⟩,
    ⟨13, 12, 2, 1, PluginAgreement.everywhere, []⟩], by decide⟩
  activations := [⟨4, 2, 3, 1, .ACTIVE⟩, ⟨14, 12, 13, 1, .ACTIVE⟩]

def emptyConfig : Launching where
  tools := ⟨fun text => some (text.map UInt8.ofNat),
    fun _ => some (⟨py "acme.echo", [], []⟩, py "main:create"), fun _ => []⟩
  directory id :=
    if id = 1 then ⟨false, false, [], []⟩
    else ⟨true, true, [py "plugins"],
      [⟨[py "manifest.toml"], some 0, some []⟩, ⟨[py "main.py"], some 0, some []⟩]⟩
  packageSha256 _ := []
  config _ := some (.obj [])
  process _ := ⟨true, some .null, some (.obj [(py "status", .str (py "ok"))])⟩

end WechatBot.PluginRestore
