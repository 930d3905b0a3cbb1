import Mathlib.Data.List.Sort
import WechatBot.AuthorizationAgreement
import WechatBot.JsonPaths
import WechatBot.PersistedJson
import WechatBot.PluginCatalog
import WechatBot.Runs
import WechatBot.ScopeDocuments

/-!
# The configurations of plugin revisions

A configuration is shown with its secrets replaced by a marker, and the marker is replaced
by the secret again when a new revision is made from an old one. The two requests that
store a configuration, and what they let through.
-/
namespace WechatBot.RevisionConfigs

open PyData Records PluginScope
open JsonPaths (mem_of_get)
open PersistedJson (setItem sortKeys)
open PluginCatalog (Plugin PluginPackageVersion)
open Results (bind_ok)
open ScopeDocuments (Fields validateScope)
open Tables (Table)

def pluginRedactionMarker : Str := py "__WECHAT_BOT_SECRET_RETAINED__"

inductive RevisionError where
  | PluginCatalogError (detail : Str)
  | PluginObjectNotFoundError (detail : Str)
  | UnicodeEncodeError
  | IntegrityError
  deriving DecidableEq, Repr

def refuse {α : Type} (detail : String) : Except RevisionError α :=
  .error (.PluginCatalogError (py detail))

mutual

def containsSecretPlaceholder : Json → Bool
  | .str s => decide (s = pluginRedactionMarker)
  | .arr items => itemsContain items
  | .obj fields => fieldsContain fields
  | _ => false

def itemsContain : List Json → Bool
  | [] => false
  | v :: items => containsSecretPlaceholder v || itemsContain items

def fieldsContain : List (Str × Json) → Bool
  | [] => false
  | (_, v) :: fields => containsSecretPlaceholder v || fieldsContain fields

end

def sourceFields : Option Json → Fields
  | some (.obj fields) => fields
  | _ => []

def sourceItems : Option Json → List Json
  | some (.arr items) => items
  | _ => []

mutual

/-- `none` is `_MISSING`. -/
def restoreSecretPlaceholders : Json → Option Json → Except RevisionError Json
  | .str s, source =>
    if s = pluginRedactionMarker then
      match source with
      | none => refuse "secret placeholder has no value in the source revision"
      | some value => .ok value
    else .ok (.str s)
  | .obj fields, source => (restoreFields fields (sourceFields source)).map .obj
  | .arr items, source => (restoreItems items (sourceItems source)).map .arr
  | value, _ => .ok value

def restoreFields : Fields → Fields → Except RevisionError Fields
  | [], _ => .ok []
  | (key, value) :: fields, source => do
    let first ← restoreSecretPlaceholders value (Json.get source key)
    let rest ← restoreFields fields source
    return (key, first) :: rest

def restoreItems : List Json → List Json → Except RevisionError (List Json)
  | [], _ => .ok []
  | value :: items, source => do
    let first ← restoreSecretPlaceholders value source.head?
    let rest ← restoreItems items source.tail
    return first :: rest

end

mutual

def mergeRevisionConfig : Option Json → Json → Json
  | some (.obj source), .obj changes => .obj (mergeFields source source changes)
  | _, changes => changes

def mergeFields (source : Fields) : Fields → Fields → Fields
  | merged, [] => merged
  | merged, (key, value) :: changes =>
    mergeFields source (setItem merged key (mergeRevisionConfig (Json.get source key) value)) changes

end

mutual

/-- What `json.loads` reads from `_canonical_json`; NaN and the infinities have no text. -/
def canonicalJson : Json → Option Json
  | .float .nan => none
  | .float (.infinity _) => none
  | .arr items => (canonicalItems items).map .arr
  | .obj fields => (canonicalFields fields).map fun fields => .obj (sortKeys fields)
  | value => some value

def canonicalItems : List Json → Option (List Json)
  | [] => some []
  | value :: items => do return (← canonicalJson value) :: (← canonicalItems items)

def canonicalFields : Fields → Option Fields
  | [] => some []
  | (key, value) :: fields => do return (key, ← canonicalJson value) :: (← canonicalFields fields)

end

mutual

/-- The text of the document has an encoding. -/
def encodableJson : Json → Bool
  | .str s => encodable s
  | .arr items => encodableItems items
  | .obj fields => encodableFields fields
  | _ => true

def encodableItems : List Json → Bool
  | [] => true
  | value :: items => encodableJson value && encodableItems items

def encodableFields : Fields → Bool
  | [] => true
  | (key, value) :: fields => encodable key && encodableJson value && encodableFields fields

end

/-- `config` is what decrypting and parsing `config_ciphertext` gives. -/
structure ConfiguredRevision where
  id : UUID
  deploymentId : UUID
  packageVersionId : UUID
  revisionNumber : Nat
  config : Json
  scope : Fields
  grants : List Str

structure Store where
  plugins : UUID → Option Plugin
  packages : UUID → Option PluginPackageVersion
  deployments : Table PluginDeployment.id
  revisions : Table ConfiguredRevision.id

structure PluginDeploymentCreate where
  workspaceId : UUID
  pluginId : UUID
  packageVersionId : UUID
  name : Str
  config : Fields
  scope : Fields
  grants : List Str

structure PluginRevisionCreate where
  sourceRevisionId : Option UUID
  packageVersionId : Option UUID
  config : Option Fields
  scope : Option Fields
  grants : Option (List Str)

section Requests

-- `uuid` parses identifiers, `configError` is the first error of the JSON schema of a
-- package, and `readable` says which ciphertexts the cipher can decrypt.
variable (uuid : Str → Option UUID) (configError : UUID → Json → Option Str)
  (readable : UUID → Bool)

/-- `_create_revision`. -/
def addRevision (c : Store) (id : UUID) (deployment : PluginDeployment)
    (package : PluginPackageVersion) (config : Json) (scope : Fields) (grants : List Str) :
    Except RevisionError Store := do
  match configError package.id config with
  | some detail => .error (.PluginCatalogError detail)
  | none =>
    if grants.any (fun grant => !package.manifest.capabilities.contains grant) then
      refuse "deployment grants exceed manifest capabilities"
    else
      let validatedScope ←
        (validateScope uuid scope deployment.workspaceId).mapError .PluginCatalogError
      match canonicalJson config with
      | none => refuse "plugin data must be valid JSON"
      | some canonicalConfig =>
        if (encodableJson config && encodableFields validatedScope && grants.all encodable) = false then
          .error .UnicodeEncodeError
        else
          let numbers := (c.revisions.rows.filter fun r => decide (r.deploymentId = deployment.id)).map
            (·.revisionNumber)
          match c.revisions.insert {
              id := id
              deploymentId := deployment.id
              packageVersionId := package.id
              revisionNumber := numbers.max?.getD 0 + 1
              config := canonicalConfig
              scope := validatedScope
              grants := grants.eraseDups } with
          | none => .error .IntegrityError
          | some revisions => .ok { c with revisions := revisions }

def availablePackage (c : Store) (packageVersionId : UUID) : Option PluginPackageVersion :=
  (c.packages packageVersionId).filter (·.available)

def createDeployment (c : Store) (id revisionId : UUID) (payload : PluginDeploymentCreate) :
    Except RevisionError Store :=
  match (c.plugins payload.pluginId).filter fun p => decide (p.workspaceId = payload.workspaceId) with
  | none => .error (.PluginObjectNotFoundError (py "plugin not found in workspace"))
  | some plugin =>
    match (availablePackage c payload.packageVersionId).filter fun p =>
        decide (p.pluginId = plugin.id) with
    | none => .error (.PluginObjectNotFoundError (py "available plugin package not found"))
    | some package =>
      let named (name : Str) := c.deployments.rows.any fun d =>
        decide (d.workspaceId = payload.workspaceId ∧ d.name = name)
      if named payload.name then refuse "deployment name already exists"
      else if named (strip payload.name) then .error .IntegrityError
      else
        let deployment : PluginDeployment := {
          id := id
          workspaceId := payload.workspaceId
          pluginId := plugin.id
          name := strip payload.name
          status := .STOPPED
          activeRevisionId := none
          lastError := none }
        match c.deployments.insert deployment with
        | none => .error .IntegrityError
        | some deployments =>
          addRevision uuid configError { c with deployments := deployments } revisionId deployment
            package (.obj payload.config) payload.scope payload.grants

def decryptRevisionConfig (revision : ConfiguredRevision) : Except RevisionError Json :=
  if readable revision.id = false then refuse "stored plugin configuration is invalid"
  else match revision.config with
  | .obj fields => .ok (.obj fields)
  | _ => refuse "stored plugin configuration is not an object"

/-- The source revision of a request with its configuration. -/
def sourceRevision (c : Store) (deploymentId : UUID) :
    Option UUID → Except RevisionError (Option (ConfiguredRevision × Json))
  | none => .ok none
  | some revisionId =>
    match (c.revisions.find revisionId).filter fun r => decide (r.deploymentId = deploymentId) with
    | none => .error (.PluginObjectNotFoundError (py "source plugin deployment revision not found"))
    | some revision => do return some (revision, ← decryptRevisionConfig readable revision)

/-- The configuration of the new revision. -/
def revisionConfig (config : Option Fields) : Option Json → Except RevisionError Json
  | none =>
    if containsSecretPlaceholder (.obj (config.getD [])) then
      refuse "secret placeholder requires a source revision"
    else .ok (.obj (config.getD []))
  | some source =>
    match config with
    | none => .ok source
    | some changes =>
      restoreSecretPlaceholders (mergeRevisionConfig (some source) (.obj changes)) (some source)

def createRevision (c : Store) (id deploymentId : UUID) (payload : PluginRevisionCreate) :
    Except RevisionError Store :=
  match c.deployments.find deploymentId with
  | none => .error (.PluginObjectNotFoundError (py "plugin deployment not found"))
  | some deployment => do
    let source ← sourceRevision readable c deploymentId payload.sourceRevisionId
    match payload.packageVersionId.or (source.map (·.1.packageVersionId)) with
    | none => refuse "package_version_id is required when source_revision_id is not provided"
    | some packageVersionId =>
      match availablePackage c packageVersionId with
      | none => .error (.PluginObjectNotFoundError (py "available plugin package not found"))
      | some package =>
        if package.pluginId ≠ deployment.pluginId then
          refuse "package belongs to a different plugin"
        else
          let config ← revisionConfig payload.config (source.map Prod.snd)
          addRevision uuid configError c id deployment package config
            (payload.scope.getD ((source.map (·.1.scope)).getD []))
            (payload.grants.getD ((source.map (·.1.grants)).getD []))

inductive Action where
  | createDeployment (id revisionId : UUID) (payload : PluginDeploymentCreate)
  | createRevision (id deploymentId : UUID) (payload : PluginRevisionCreate)

def request (c : Store) : Action → Except RevisionError Store
  | .createDeployment id revisionId payload => createDeployment uuid configError c id revisionId payload
  | .createRevision id deploymentId payload =>
    createRevision uuid configError readable c id deploymentId payload

/-- A request is a transaction: one that is refused is rolled back. -/
def step (c : Store) (a : Action) : Option Store :=
  some ((request uuid configError readable c a).toOption.getD c)

end Requests

def revisionRow (r : ConfiguredRevision) : PluginDeploymentRevision :=
  ⟨r.id, r.deploymentId, r.packageVersionId, r.revisionNumber, ScopeDocuments.readScope r.scope, r.grants⟩

/-- The rows without their configurations, the scopes as the dispatcher reads them. -/
def catalog (c : Store) (activations : List PluginRevisionActivation) : PluginCatalog.Catalog where
  plugins := c.plugins
  packages := c.packages
  deployments := c.deployments
  revisions := ⟨c.revisions.rows.map revisionRow, by
    rw [List.map_map]
    exact c.revisions.nodup⟩
  activations := activations

theorem insert_revisionRow {c c' : Store} (activations : List PluginRevisionActivation)
    {r : ConfiguredRevision} {revisions : Table ConfiguredRevision.id}
    (hinsert : c.revisions.insert r = some revisions) (hc' : c' = { c with revisions := revisions }) :
    (catalog c activations).revisions.insert (revisionRow r) = some (catalog c' activations).revisions := by
  have hfresh : r.id ∉ c.revisions.rows.map (·.id) := by
    intro hmem
    rw [Table.insert, dif_pos hmem] at hinsert
    cases hinsert
  have hsame : (catalog c activations).revisions.rows.map (·.id) = c.revisions.rows.map (·.id) := by
    simp [catalog, revisionRow, Function.comp_def]
  rw [Table.insert, dif_neg (by rw [hsame]; exact hfresh)]
  subst hc'
  simp only [catalog, Table.insert_rows hinsert, List.map_append, List.map_cons, List.map_nil]

/-- A stored revision is a revision of the plugin catalog. -/
theorem addRevision_refines {uuid : Str → Option UUID} {configError : UUID → Json → Option Str}
    {c c' : Store} {id : UUID} {deployment : PluginDeployment} {package : PluginPackageVersion}
    {config : Json} {scope : Fields} {grants : List Str}
    (activations : List PluginRevisionActivation)
    (h : addRevision uuid configError c id deployment package config scope grants = .ok c') :
    ∃ validatedScope, validateScope uuid scope deployment.workspaceId = .ok validatedScope ∧
      PluginCatalog.addRevision (catalog c activations) id deployment package
        ⟨package.id, ScopeDocuments.readScope validatedScope, grants⟩ = .ok (catalog c' activations) := by
  unfold addRevision at h
  split at h
  · cases h
  split at h
  · cases h
  rename_i hgrants
  obtain ⟨validatedScope, hscope, h⟩ := bind_ok.1 h
  split at h
  · cases h
  split at h
  · cases h
  dsimp only at h
  split at h
  · cases h
  · rename_i revisions hinsert
    cases h
    refine ⟨validatedScope, AuthorizationAgreement.mapError_ok hscope, ?_⟩
    have hnumbers : (((catalog c activations).revisions.rows.filter fun r =>
        decide (r.deploymentId = deployment.id)).map (·.revisionNumber)) =
        (c.revisions.rows.filter fun r => decide (r.deploymentId = deployment.id)).map
          (·.revisionNumber) := by
      simp only [catalog, List.filter_map, List.map_map]
      rfl
    have hrow := insert_revisionRow activations hinsert rfl
    rw [PluginCatalog.addRevision, if_neg hgrants]
    dsimp only
    rw [hnumbers]
    simp only [revisionRow] at hrow
    rw [hrow]
    rfl

/-- The marker is a value at some depth. -/
inductive MarkerAt : Json → Prop
  | here : MarkerAt (.str pluginRedactionMarker)
  | item {items : List Json} {value : Json} : value ∈ items → MarkerAt value → MarkerAt (.arr items)
  | field {fields : Fields} {key : Str} {value : Json} :
    (key, value) ∈ fields → MarkerAt value → MarkerAt (.obj fields)

theorem markerAt_str {s : Str} : MarkerAt (.str s) ↔ s = pluginRedactionMarker := by
  constructor
  · rintro ⟨⟩
    rfl
  · rintro rfl
    exact .here

theorem markerAt_arr {items : List Json} : MarkerAt (.arr items) ↔ ∃ value ∈ items, MarkerAt value := by
  constructor
  · intro h
    cases h with
    | item hmem hvalue => exact ⟨_, hmem, hvalue⟩
  · rintro ⟨value, hmem, hvalue⟩
    exact .item hmem hvalue

theorem markerAt_obj {fields : Fields} : MarkerAt (.obj fields) ↔ ∃ f ∈ fields, MarkerAt f.2 := by
  constructor
  · intro h
    cases h with
    | field hmem hvalue => exact ⟨_, hmem, hvalue⟩
  · rintro ⟨⟨key, value⟩, hmem, hvalue⟩
    exact .field hmem hvalue

mutual

/-- The check finds the marker exactly where it is, at any depth. -/
theorem containsSecretPlaceholder_iff :
    (value : Json) → (containsSecretPlaceholder value = true ↔ MarkerAt value)
  | .null | .bool _ | .int _ | .float _ =>
    ⟨fun h => by simp [containsSecretPlaceholder] at h, fun h => nomatch h⟩
  | .str s => by simp [containsSecretPlaceholder, markerAt_str]
  | .arr items => by rw [containsSecretPlaceholder, itemsContain_iff items, markerAt_arr]
  | .obj fields => by rw [containsSecretPlaceholder, fieldsContain_iff fields, markerAt_obj]

theorem itemsContain_iff :
    (items : List Json) → (itemsContain items = true ↔ ∃ value ∈ items, MarkerAt value)
  | [] => by simp [itemsContain]
  | value :: items => by
    simp [itemsContain, containsSecretPlaceholder_iff value, itemsContain_iff items]

theorem fieldsContain_iff :
    (fields : Fields) → (fieldsContain fields = true ↔ ∃ f ∈ fields, MarkerAt f.2)
  | [] => by simp [fieldsContain]
  | (key, value) :: fields => by
    simp [fieldsContain, containsSecretPlaceholder_iff value, fieldsContain_iff fields]

end

def Clean (source : Option Json) : Prop := ∀ value ∈ source, ¬ MarkerAt value

theorem clean_get {source : Option Json} (h : Clean source) (key : Str) :
    Clean (Json.get (sourceFields source) key) := by
  intro value hvalue hmarker
  match source, hvalue with
  | some (.obj fields), hvalue => exact h _ rfl (.field (mem_of_get hvalue) hmarker)

mutual

/-- A marker is replaced by a part of the source, so none is left that the source has not. -/
theorem restore_clean : (value : Json) → ∀ {source : Option Json} {restored : Json},
    Clean source → restoreSecretPlaceholders value source = .ok restored → ¬ MarkerAt restored
  | .null, _, _, _, h | .bool _, _, _, _, h | .int _, _, _, _, h | .float _, _, _, _, h => by
    cases h
    exact fun hmarker => nomatch hmarker
  | .str s, source, restored, hsource, h => by
    unfold restoreSecretPlaceholders at h
    split at h
    · split at h
      · cases h
      · cases h
        exact hsource _ rfl
    · rename_i hne
      cases h
      rwa [markerAt_str]
  | .arr items, source, restored, hsource, h => by
    rw [restoreSecretPlaceholders] at h
    cases hitems : restoreItems items (sourceItems source) with
    | error e =>
      rw [hitems] at h
      cases h
    | ok list =>
      rw [hitems] at h
      cases h
      rw [markerAt_arr]
      rintro ⟨value, hmem, hmarker⟩
      refine restoreItems_clean items ?_ hitems value hmem hmarker
      intro item hitem hmarked
      match source, hitem with
      | some (.arr _), hitem => exact hsource _ rfl (.item hitem hmarked)
  | .obj fields, source, restored, hsource, h => by
    rw [restoreSecretPlaceholders] at h
    cases hfields : restoreFields fields (sourceFields source) with
    | error e =>
      rw [hfields] at h
      cases h
    | ok list =>
      rw [hfields] at h
      cases h
      rw [markerAt_obj]
      rintro ⟨f, hmem, hmarker⟩
      exact restoreFields_clean fields (clean_get hsource) hfields f hmem hmarker

theorem restoreItems_clean : (items : List Json) → ∀ {source restored : List Json},
    (∀ value ∈ source, ¬ MarkerAt value) → restoreItems items source = .ok restored →
    ∀ value ∈ restored, ¬ MarkerAt value
  | [], source, restored, _, h => by
    cases h
    simp
  | value :: items, source, restored, hsource, h => by
    obtain ⟨first, hfirst, h⟩ := bind_ok.1 h
    obtain ⟨rest, hrest, h⟩ := bind_ok.1 h
    cases h
    have hhead := restore_clean value
      (fun v hv => hsource v (List.mem_of_mem_head? hv)) hfirst
    have htail := restoreItems_clean items
      (fun v hv => hsource v (List.mem_of_mem_tail hv)) hrest
    simpa [hhead] using htail

/-- Restoring from a clean source leaves no marker. -/
theorem restoreFields_clean : (fields : Fields) → ∀ {source restored : Fields},
    (∀ key, Clean (Json.get source key)) → restoreFields fields source = .ok restored →
    ∀ f ∈ restored, ¬ MarkerAt f.2
  | [], source, restored, _, h => by
    cases h
    simp
  | (key, value) :: fields, source, restored, hsource, h => by
    obtain ⟨first, hfirst, h⟩ := bind_ok.1 h
    obtain ⟨rest, hrest, h⟩ := bind_ok.1 h
    cases h
    have hhead := restore_clean value (hsource key) hfirst
    have htail := restoreFields_clean fields hsource hrest
    simpa [hhead] using htail

end

mutual

/-- The stored form has the marker exactly when the value has it. -/
theorem markerAt_canonical : (value : Json) → ∀ {stored : Json},
    canonicalJson value = some stored → (MarkerAt stored ↔ MarkerAt value)
  | .null, _, h | .bool _, _, h | .int _, _, h | .str _, _, h
  | .float (.finite _ _), _, h => by
    cases h
    rfl
  | .float .nan, _, h | .float (.infinity _), _, h => by cases h
  | .arr items, stored, h => by
    obtain ⟨list, hlist, rfl⟩ := Option.map_eq_some_iff.1 h
    rw [markerAt_arr, markerAt_arr, markerAt_canonicalItems items hlist]
  | .obj fields, stored, h => by
    obtain ⟨list, hlist, rfl⟩ := Option.map_eq_some_iff.1 h
    simp only [markerAt_obj, sortKeys, List.mem_insertionSort]
    exact markerAt_canonicalFields fields hlist

theorem markerAt_canonicalItems : (items : List Json) → ∀ {stored : List Json},
    canonicalItems items = some stored →
    ((∃ value ∈ stored, MarkerAt value) ↔ ∃ value ∈ items, MarkerAt value)
  | [], _, h => by cases h; rfl
  | value :: items, stored, h => by
    obtain ⟨first, hfirst, h⟩ := Option.bind_eq_some_iff.1 h
    obtain ⟨rest, hrest, h⟩ := Option.bind_eq_some_iff.1 h
    cases h
    simp [markerAt_canonical value hfirst, markerAt_canonicalItems items hrest]

theorem markerAt_canonicalFields : (fields : Fields) → ∀ {stored : Fields},
    canonicalFields fields = some stored →
    ((∃ f ∈ stored, MarkerAt f.2) ↔ ∃ f ∈ fields, MarkerAt f.2)
  | [], _, h => by cases h; rfl
  | (key, value) :: fields, stored, h => by
    obtain ⟨first, hfirst, h⟩ := Option.bind_eq_some_iff.1 h
    obtain ⟨rest, hrest, h⟩ := Option.bind_eq_some_iff.1 h
    cases h
    simp [markerAt_canonical value hfirst, markerAt_canonicalFields fields hrest]

end

section Runs

variable {uuid : Str → Option UUID} {configError : UUID → Json → Option Str} {readable : UUID → Bool}

/-- No stored configuration contains the marker. -/
def Unmarked (c : Store) : Prop := ∀ r ∈ c.revisions.rows, ¬ MarkerAt r.config

/-- A revision is added as the last row, with its canonical configuration. -/
theorem addRevision_ok {c c' : Store} {id : UUID} {deployment : PluginDeployment}
    {package : PluginPackageVersion} {config : Json} {scope : Fields} {grants : List Str}
    (h : addRevision uuid configError c id deployment package config scope grants = .ok c') :
    ∃ r, c'.revisions.rows = c.revisions.rows ++ [r] ∧ (MarkerAt r.config ↔ MarkerAt config) := by
  unfold addRevision at h
  split at h
  · cases h
  split at h
  · cases h
  obtain ⟨validatedScope, -, h⟩ := bind_ok.1 h
  split at h
  · cases h
  rename_i canonicalConfig hcanonical
  split at h
  · cases h
  dsimp only at h
  split at h
  · cases h
  · rename_i revisions hinsert
    cases h
    exact ⟨_, Table.insert_rows hinsert, markerAt_canonical config hcanonical⟩

/-- A clean configuration keeps the catalog unmarked. -/
theorem unmarked_added {c c' : Store} {r : ConfiguredRevision} {config : Json} (h : Unmarked c)
    (hrows : c'.revisions.rows = c.revisions.rows ++ [r])
    (hsame : MarkerAt r.config ↔ MarkerAt config) (hconfig : ¬ MarkerAt config) : Unmarked c' := by
  intro other hother
  rw [hrows, List.mem_append, List.mem_singleton] at hother
  rcases hother with hold | rfl
  · exact h other hold
  · rwa [hsame]

/-- A deployment that is created stores the configuration as it came. -/
theorem createDeployment_ok {c c' : Store} {id revisionId : UUID} {payload : PluginDeploymentCreate}
    (h : createDeployment uuid configError c id revisionId payload = .ok c') :
    ∃ r, c'.revisions.rows = c.revisions.rows ++ [r] ∧
      (MarkerAt r.config ↔ MarkerAt (.obj payload.config)) := by
  unfold createDeployment at h
  split at h
  · cases h
  split at h
  · cases h
  dsimp only at h
  split at h
  · cases h
  split at h
  · cases h
  split at h
  · cases h
  · obtain ⟨r, hrows, hsame⟩ := addRevision_ok h
    exact ⟨r, hrows, hsame⟩

/-- So a marker in it is stored. -/
theorem createDeployment_marked {c c' : Store} {id revisionId : UUID}
    {payload : PluginDeploymentCreate}
    (h : createDeployment uuid configError c id revisionId payload = .ok c')
    (hmarked : containsSecretPlaceholder (.obj payload.config) = true) : ¬ Unmarked c' := by
  obtain ⟨r, hrows, hsame⟩ := createDeployment_ok h
  intro hunmarked
  apply hunmarked r (by simp [hrows])
  rw [hsame]
  exact (containsSecretPlaceholder_iff _).1 hmarked

/-- The source of a revision is stored. -/
theorem sourceRevision_clean {c : Store} {deploymentId : UUID} {sourceRevisionId : Option UUID}
    {source : Option (ConfiguredRevision × Json)} (h : Unmarked c)
    (hsource : sourceRevision readable c deploymentId sourceRevisionId = .ok source) :
    Clean (source.map Prod.snd) := by
  cases sourceRevisionId with
  | none =>
    cases hsource
    exact fun _ hvalue => nomatch hvalue
  | some revisionId =>
    rw [sourceRevision] at hsource
    split at hsource
    · cases hsource
    · rename_i revision hfind
      obtain ⟨config, hconfig, hsource⟩ := bind_ok.1 hsource
      cases hsource
      have hstored := Table.find_mem (Option.filter_eq_some_iff.1 hfind).1
      rintro value ⟨⟩
      unfold decryptRevisionConfig at hconfig
      split at hconfig
      · cases hconfig
      split at hconfig
      · rename_i hobject
        cases hconfig
        rw [← hobject]
        exact h revision hstored
      · cases hconfig

/-- What is restored from a clean source is clean. -/
theorem revisionConfig_clean {config : Option Fields} {source : Option Json} {value : Json}
    (hsource : Clean source) (h : revisionConfig config source = .ok value) : ¬ MarkerAt value := by
  cases source with
  | none =>
    unfold revisionConfig at h
    dsimp only at h
    split at h
    · cases h
    · rename_i hnone
      cases h
      rwa [containsSecretPlaceholder_iff] at hnone
  | some source =>
    cases config with
    | none =>
      cases h
      exact hsource _ rfl
    | some changes => exact restore_clean _ hsource h

/-- A new revision keeps the catalog unmarked. -/
theorem createRevision_unmarked {c c' : Store} {id deploymentId : UUID} {payload : PluginRevisionCreate}
    (h : Unmarked c)
    (hok : createRevision uuid configError readable c id deploymentId payload = .ok c') :
    Unmarked c' := by
  unfold createRevision at hok
  split at hok
  · cases hok
  obtain ⟨source, hsource, hok⟩ := bind_ok.1 hok
  split at hok
  · cases hok
  split at hok
  · cases hok
  split at hok
  · cases hok
  · obtain ⟨config, hconfig, hok⟩ := bind_ok.1 hok
    obtain ⟨r, hrows, hsame⟩ := addRevision_ok hok
    exact unmarked_added h hrows hsame (revisionConfig_clean (sourceRevision_clean h hsource) hconfig)

/-- The configuration of a new deployment contains no marker. -/
def Admissible : Action → Prop
  | .createDeployment _ _ payload => containsSecretPlaceholder (.obj payload.config) = false
  | .createRevision .. => True

/-- A step whose request has no marker keeps the catalog unmarked. -/
theorem unmarked_step {c c' : Store} {a : Action} (h : Unmarked c) (hadmissible : Admissible a)
    (hstep : step uuid configError readable c a = some c') : Unmarked c' := by
  unfold step at hstep
  cases hrequest : request uuid configError readable c a with
  | error e =>
    rw [hrequest] at hstep
    cases hstep
    exact h
  | ok stored =>
    rw [hrequest] at hstep
    cases hstep
    cases a with
    | createDeployment id revisionId payload =>
      obtain ⟨r, hrows, hsame⟩ := createDeployment_ok hrequest
      apply unmarked_added h hrows hsame
      rw [← containsSecretPlaceholder_iff, show containsSecretPlaceholder _ = false from hadmissible]
      exact Bool.false_ne_true
    | createRevision id deploymentId payload => exact createRevision_unmarked h hrequest

end Runs

/-- In a run whose new deployments bring no marker none is ever stored. -/
theorem marker_never_stored (uuid : Str → Option UUID) (configError : UUID → Json → Option Str)
    (readable : UUID → Bool) (start : Store) (as : List Action) (s : Store)
    (hstart : start.revisions.rows = []) (hadmissible : ∀ a ∈ as, Admissible a)
    (hrun : Runs.run (step uuid configError readable) start as = some s) : Unmarked s := by
  have hempty : Unmarked start := by
    intro r hr
    rw [hstart] at hr
    cases hr
  clear hstart
  induction as generalizing start with
  | nil =>
    cases hrun
    exact hempty
  | cons a as ih =>
    obtain ⟨t, hstep, hrest⟩ := (Runs.run_cons _ _ _ _ _).1 hrun
    have hfirst := unmarked_step hempty (hadmissible a (List.mem_cons_self ..)) hstep
    exact ih t (fun b hb => hadmissible b (List.mem_cons_of_mem _ hb)) hrest hfirst

/-- One plugin with one package, whose schema accepts everything. -/
def emptyStore : Store where
  plugins id := if id = 1 then some ⟨1, 1⟩ else none
  packages id := if id = 2 then some ⟨2, 1, ⟨py "acme.echo", [], []⟩, true⟩ else none
  deployments := Table.empty _
  revisions := Table.empty _

def sampleRun (as : List Action) : Option Store :=
  Runs.run (step (fun _ => none) (fun _ _ => none) (fun _ => true)) emptyStore as

def deploy (config : Fields) : Action :=
  .createDeployment 3 4 ⟨1, 1, 2, py "echo", config, [], []⟩

/-- A revision made from the first one, with a new label. -/
def relabel : Action :=
  .createRevision 5 3 ⟨some 4, none,
    some [(py "token", .str pluginRedactionMarker), (py "label", .str (py "new"))], none, none⟩

theorem relabelRun_isSome :
    (sampleRun [deploy [(py "token", .str (py "secret"))], relabel]).isSome = true := rfl

theorem marker_never_stored_relabelled :
    (((sampleRun [deploy [(py "token", .str (py "secret"))], relabel]).get
        relabelRun_isSome).revisions.rows.length = 2) ∧
      Unmarked ((sampleRun [deploy [(py "token", .str (py "secret"))], relabel]).get
        relabelRun_isSome) := by
  refine ⟨by decide +kernel, ?_⟩
  apply marker_never_stored (fun _ => none) (fun _ _ => none) (fun _ => true) emptyStore
    [deploy [(py "token", .str (py "secret"))], relabel] _ rfl
  · intro a ha
    simp only [List.mem_cons, List.not_mem_nil, or_false] at ha
    rcases ha with rfl | rfl
    · change containsSecretPlaceholder _ = false
      decide
    · trivial
  · exact (Option.some_get _).symm

theorem markedRun_isSome :
    (sampleRun [deploy [(py "token", .str pluginRedactionMarker)]]).isSome = true := rfl

/-- The marker is the token of the first revision. -/
theorem marker_stored :
    ¬ Unmarked ((sampleRun [deploy [(py "token", .str pluginRedactionMarker)]]).get
      markedRun_isSome) := by
  have hmarked : (((sampleRun [deploy [(py "token", .str pluginRedactionMarker)]]).get
      markedRun_isSome).revisions.rows.any fun r => containsSecretPlaceholder r.config) = true := by
    decide +kernel
  obtain ⟨r, hr, hcontains⟩ := List.any_eq_true.1 hmarked
  exact fun h => h r hr ((containsSecretPlaceholder_iff _).1 hcontains)

end WechatBot.RevisionConfigs
