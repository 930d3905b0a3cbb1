import WechatBot.RevisionConfigs

/-!
# The draft of a revision

`_redact_sensitive_value` replaces the secrets of a stored configuration by the marker,
guided by the names of the fields and the schema of the package. Merging a draft that
nobody has edited with the stored configuration and restoring its markers gives the stored
configuration back. The regular expressions of the schema are left to `search`.
-/
namespace WechatBot.SensitiveFields

open JsonPaths PyData RevisionConfigs
open PersistedJson (setItem)
open Results (bind_ok)
open ScopeDocuments (Fields)

def secretFieldNames : List Str :=
  ["apikey", "apisecret", "accesstoken", "authtoken", "bearertoken", "clientsecret", "credential",
    "password", "privatekey", "refreshtoken", "secret", "secretkey", "signingkey", "token"].map py

def schemaCombiners : List Str := ["allOf", "anyOf", "oneOf"].map py

def conditionals : List Str := ["if", "then", "else"].map py

/-- The characters whose case folding has an ASCII letter among others. -/
def mixedFolds : List (Nat × Nat) :=
  [(0x130, 105), (0x149, 110), (0x1F0, 106), (0x1E96, 104), (0x1E97, 116), (0x1E98, 119),
    (0x1E99, 121), (0x1E9A, 97)]

/-- The ASCII letters and digits of the case folding of a character, among others. -/
def foldedLetters (c : Nat) : Str :=
  match mixedFolds.find? fun p => decide (p.1 = c) with
  | some p => [p.2]
  | none => PersistedJson.casefold c

/-- `re.sub(r"[^a-z0-9]", "", field_name.casefold())`. -/
def canonicalName (fieldName : Str) : Str :=
  (fieldName.flatMap foldedLetters).filter fun c => (97 ≤ c && c ≤ 122) || (48 ≤ c && c ≤ 57)

def entry (table : List (Str × List Fields)) (keyword : Str) : List Fields :=
  ((table.find? fun f => decide (f.1 = keyword)).map Prod.snd).getD []

mutual

/-- `_schema_variants`; a value that is no dictionary has none. The variants below every
keyword are computed first, so that the recursion is on the document
(`schemaVariants_obj` is the source's equation). -/
def schemaVariants : Json → List Fields
  | .obj schema =>
    schema :: (schemaCombiners.flatMap (entry (fieldBranches schema)) ++
      conditionals.flatMap (entry (fieldVariants schema)))
  | _ => []

def branchVariants : Json → List Fields
  | .arr branches => itemVariants branches
  | _ => []

def itemVariants : List Json → List Fields
  | [] => []
  | branch :: branches => schemaVariants branch ++ itemVariants branches

def fieldVariants : Fields → List (Str × List Fields)
  | [] => []
  | (keyword, branch) :: schema => (keyword, schemaVariants branch) :: fieldVariants schema

def fieldBranches : Fields → List (Str × List Fields)
  | [] => []
  | (keyword, branches) :: schema => (keyword, branchVariants branches) :: fieldBranches schema

end

theorem itemVariants_eq (branches : List Json) : itemVariants branches = branches.flatMap schemaVariants := by
  induction branches with
  | nil => rfl
  | cons branch branches ih => rw [itemVariants, List.flatMap_cons, ih]

theorem entry_fieldVariants (schema : Fields) (keyword : Str) :
    entry (fieldVariants schema) keyword = ((Json.get schema keyword).map schemaVariants).getD [] := by
  induction schema with
  | nil => rfl
  | cons f schema ih =>
    rw [get_cons]
    by_cases h : f.1 = keyword
    · simp [entry, fieldVariants, h]
    · rw [if_neg h, ← ih]
      simp [entry, fieldVariants, h]

theorem entry_fieldBranches (schema : Fields) (keyword : Str) :
    entry (fieldBranches schema) keyword = ((Json.get schema keyword).map branchVariants).getD [] := by
  induction schema with
  | nil => rfl
  | cons f schema ih =>
    rw [get_cons]
    by_cases h : f.1 = keyword
    · simp [entry, fieldBranches, h]
    · rw [if_neg h, ← ih]
      simp [entry, fieldBranches, h]

theorem schemaVariants_obj (schema : Fields) :
    schemaVariants (.obj schema) = schema ::
      ((schemaCombiners.flatMap fun keyword =>
          match Json.get schema keyword with
          | some (.arr branches) => branches.flatMap schemaVariants
          | _ => []) ++
        conditionals.flatMap fun keyword =>
          match Json.get schema keyword with
          | some branch => schemaVariants branch
          | none => []) := by
  rw [schemaVariants]
  congr 2
  · apply congrArg (List.flatMap · schemaCombiners)
    funext keyword
    rw [entry_fieldBranches]
    cases Json.get schema keyword with
    | none => rfl
    | some value => cases value <;> simp [branchVariants, itemVariants_eq]
  · apply congrArg (List.flatMap · conditionals)
    funext keyword
    rw [entry_fieldVariants]
    cases Json.get schema keyword <;> rfl

def isTrue : Option Json → Bool
  | some (.bool true) => true
  | _ => false

/-- The schema itself marks its values. -/
def isMarked (variant : Fields) : Bool :=
  isTrue (Json.get variant (py "writeOnly")) || isTrue (Json.get variant (py "x-sensitive")) ||
    match Json.get variant (py "format") with
    | some (.str fieldFormat) => fieldFormat.flatMap PersistedJson.casefold == py "password"
    | _ => false

def isSensitiveField (fieldName : Option Str) (schemas : List Fields) : Bool :=
  (fieldName.any fun name => secretFieldNames.contains (canonicalName name)) ||
    schemas.any fun schema => (schemaVariants (.obj schema)).any isMarked

def asSchema : Option Json → List Fields
  | some (.obj schema) => [schema]
  | _ => []

section Redaction

-- `re.search(pattern, key) is not None`; `none` is `re.error`.
variable (search : Str → Str → Option Bool)

def propertySchemas (variant : Fields) (key : Str) : List Fields :=
  match Json.get variant (py "properties") with
  | some (.obj properties) => asSchema (Json.get properties key)
  | _ => []

def patternSchemas (variant : Fields) (key : Str) : List Fields :=
  match Json.get variant (py "patternProperties") with
  | some (.obj patterns) => patterns.flatMap fun pattern =>
    if search pattern.1 key = some true then asSchema (some pattern.2) else []
  | _ => []

def childSchemas (schemas : List Fields) (key : Str) : List Fields :=
  schemas.flatMap fun schema => (schemaVariants (.obj schema)).flatMap fun variant =>
    propertySchemas variant key ++ patternSchemas search variant key ++
      asSchema (Json.get variant (py "additionalProperties"))

def prefixSchemas (variant : Fields) : List Fields :=
  match Json.get variant (py "prefixItems") with
  | some (.arr prefixItems) => prefixItems.flatMap fun item => asSchema (some item)
  | _ => []

def itemSchemas (schemas : List Fields) : List Fields :=
  schemas.flatMap fun schema => (schemaVariants (.obj schema)).flatMap fun variant =>
    asSchema (Json.get variant (py "items")) ++ prefixSchemas variant

mutual

def redactSensitiveValue : Json → List Fields → Option Str → Json
  | .obj fields, schemas, fieldName =>
    if isSensitiveField fieldName schemas then .str pluginRedactionMarker
    else .obj (redactFields fields schemas)
  | .arr items, schemas, fieldName =>
    if isSensitiveField fieldName schemas then .str pluginRedactionMarker
    else .arr (redactItems items (itemSchemas schemas) fieldName)
  | value, schemas, fieldName =>
    if isSensitiveField fieldName schemas then .str pluginRedactionMarker else value

def redactFields : Fields → List Fields → Fields
  | [], _ => []
  | (key, item) :: fields, schemas =>
    (key, redactSensitiveValue item (childSchemas search schemas key) (some key)) ::
      redactFields fields schemas

def redactItems : List Json → List Fields → Option Str → List Json
  | [], _, _ => []
  | item :: items, itemSchemas, fieldName =>
    redactSensitiveValue item itemSchemas fieldName :: redactItems items itemSchemas fieldName

end

def redactSensitiveConfig (config : Json) (schema : Fields) : Except RevisionError Fields :=
  match redactSensitiveValue search config [schema] none with
  | .obj redacted => .ok redacted
  | _ => refuse "plugin configuration is not an object"

/-- `readable` says which ciphertexts the cipher can decrypt, `configSchema` is the schema in
the manifest of a package. -/
def revisionDraft (readable : UUID → Bool) (configSchema : UUID → Fields) (c : Store)
    (deploymentId revisionId : UUID) : Except RevisionError (ConfiguredRevision × Fields) :=
  match c.deployments.find deploymentId,
      (c.revisions.find revisionId).filter fun r => decide (r.deploymentId = deploymentId) with
  | some deployment, some revision =>
    match (c.packages revision.packageVersionId).filter fun p =>
        decide (p.pluginId = deployment.pluginId) with
    | none => .error (.PluginObjectNotFoundError (py "plugin package not found"))
    | some package => do
      let config ← decryptRevisionConfig readable revision
      return (revision, ← redactSensitiveConfig search config (configSchema package.id))
  | _, _ => .error (.PluginObjectNotFoundError (py "plugin deployment revision not found"))

end Redaction

theorem setItem_middle {done rest : Fields} {key : Str} {value : Json} (changed : Json)
    (hkeys : ((done ++ (key, value) :: rest).map Prod.fst).Nodup) :
    setItem (done ++ (key, value) :: rest) key changed = done ++ (key, changed) :: rest := by
  simp only [List.map_append, List.map_cons, List.nodup_append, List.nodup_cons] at hkeys
  obtain ⟨-, ⟨hrest, -⟩, hdone⟩ := hkeys
  have hother : ∀ fields : Fields, key ∉ fields.map Prod.fst →
      (fields.map fun f => if f.1 = key then (key, changed) else f) = fields := by
    intro fields hkey
    induction fields with
    | nil => rfl
    | cons f fields ih =>
      rw [List.map_cons, List.mem_cons, not_or] at hkey
      rw [List.map_cons, if_neg (Ne.symm hkey.1), ih hkey.2]
  have hleft : key ∉ done.map Prod.fst :=
    fun hmem => hdone key hmem key (List.mem_cons_self ..) rfl
  simp only [setItem, List.any_append, List.any_cons, decide_true, Bool.true_or, Bool.or_true,
    if_true, List.map_append, List.map_cons]
  rw [hother done hleft, hother rest hrest]

mutual

/-- The objects that lie over objects have their keys, in their order. -/
def Aligned : Json → Json → Prop
  | .obj source, .obj changes => AlignedFields source changes
  | _, _ => True

def AlignedFields : Fields → Fields → Prop
  | [], [] => True
  | (key, value) :: source, (name, changed) :: changes =>
    key = name ∧ Aligned value changed ∧ AlignedFields source changes
  | _, _ => False

end

mutual

/-- Merging changes nothing but the fields it is given. -/
theorem merge_aligned : (source : Json) → ∀ {changes : Json}, Distinct source →
    Aligned source changes → mergeRevisionConfig (some source) changes = changes
  | .obj source, .obj changes, hdistinct, haligned => by
    rw [mergeRevisionConfig]
    have hmerge := mergeFields_aligned source source [] (fun key value h => get_of_mem hdistinct.1 h)
      hdistinct.1 hdistinct.2 haligned
    exact congrArg Json.obj hmerge
  | .obj _, .null, _, _ | .obj _, .bool _, _, _ | .obj _, .int _, _, _ | .obj _, .float _, _, _
  | .obj _, .str _, _, _ | .obj _, .arr _, _, _ => by rw [mergeRevisionConfig]; simp
  | .null, _, _, _ | .bool _, _, _, _ | .int _, _, _, _ | .float _, _, _, _ | .str _, _, _, _
  | .arr _, _, _, _ => by rw [mergeRevisionConfig]; simp

theorem mergeFields_aligned : (rest source done : Fields) → ∀ {changes : Fields},
    (∀ key value, (key, value) ∈ rest → Json.get source key = some value) →
    ((done ++ rest).map Prod.fst).Nodup → DistinctFields rest → AlignedFields rest changes →
    mergeFields source (done ++ rest) changes = done ++ changes
  | [], source, done, changes, _, _, _, haligned => by
    match changes, haligned with
    | [], _ => rw [mergeFields]
  | (key, value) :: rest, source, done, changes, hsource, hkeys, hdistinct, haligned => by
    match changes, haligned with
    | (name, changed) :: changes, ⟨hname, hvalue, hrest⟩ =>
      subst hname
      rw [mergeFields, hsource key value (List.mem_cons_self ..),
        merge_aligned value hdistinct.1 hvalue, setItem_middle changed hkeys]
      have hnext := mergeFields_aligned rest source (done ++ [(key, changed)])
        (fun k v h => hsource k v (List.mem_cons_of_mem _ h)) (by simpa using hkeys) hdistinct.2 hrest
      simpa using hnext

end

section Drafts

variable (search : Str → Str → Option Bool)

theorem redact_cases (value : Json) (schemas : List Fields) (fieldName : Option Str) :
    redactSensitiveValue search value schemas fieldName =
      if isSensitiveField fieldName schemas then .str pluginRedactionMarker
      else match value with
      | .obj fields => .obj (redactFields search fields schemas)
      | .arr items => .arr (redactItems search items (itemSchemas schemas) fieldName)
      | value => value := by
  cases value <;> simp [redactSensitiveValue]

mutual

theorem aligned_redact : (value : Json) → (schemas : List Fields) → (fieldName : Option Str) →
    Aligned value (redactSensitiveValue search value schemas fieldName)
  | .obj fields, schemas, fieldName => by
    rw [redactSensitiveValue]
    split
    · trivial
    · exact aligned_redactFields fields schemas
  | .null, _, _ | .bool _, _, _ | .int _, _, _ | .float _, _, _ | .str _, _, _ | .arr _, _, _ => by
    simp [Aligned]

theorem aligned_redactFields : (fields : Fields) → (schemas : List Fields) →
    AlignedFields fields (redactFields search fields schemas)
  | [], _ => trivial
  | (_, value) :: fields, schemas =>
    ⟨rfl, aligned_redact value _ _, aligned_redactFields fields schemas⟩

end

theorem restore_marker (source : Json) :
    restoreSecretPlaceholders (.str pluginRedactionMarker) (some source) = .ok source := by
  rw [restoreSecretPlaceholders, if_pos rfl]

theorem restore_text {s : Str} (hs : s ≠ pluginRedactionMarker) (source : Option Json) :
    restoreSecretPlaceholders (.str s) source = .ok (.str s) := by
  simp [restoreSecretPlaceholders, hs]

mutual

/-- The secrets come back from where they were taken. -/
theorem restore_redact : (value : Json) → (schemas : List Fields) → (fieldName : Option Str) →
    Distinct value →
    restoreSecretPlaceholders (redactSensitiveValue search value schemas fieldName) (some value) =
      .ok value
  | .obj fields, schemas, fieldName, hdistinct => by
    rw [redactSensitiveValue]
    split
    · exact restore_marker _
    · rw [restoreSecretPlaceholders, sourceFields, restore_redactFields fields fields schemas
        (fun key value h => get_of_mem hdistinct.1 h) hdistinct.2]
      rfl
  | .arr items, schemas, fieldName, hdistinct => by
    rw [redactSensitiveValue]
    split
    · exact restore_marker _
    · rw [restoreSecretPlaceholders, sourceItems, restore_redactItems items _ _ hdistinct]
      rfl
  | .str s, schemas, fieldName, _ => by
    rw [redactSensitiveValue]
    · split
      · exact restore_marker _
      · by_cases hs : s = pluginRedactionMarker
        · rw [hs]
          exact restore_marker _
        · exact restore_text hs _
    all_goals simp
  | .null, schemas, fieldName, _ | .bool _, schemas, fieldName, _ | .int _, schemas, fieldName, _
  | .float _, schemas, fieldName, _ => by
    rw [redact_cases]
    split
    · exact restore_marker _
    · simp [restoreSecretPlaceholders]

theorem restore_redactFields : (fields source : Fields) → (schemas : List Fields) →
    (∀ key value, (key, value) ∈ fields → Json.get source key = some value) → DistinctFields fields →
    restoreFields (redactFields search fields schemas) source = .ok fields
  | [], _, _, _, _ => rfl
  | (key, value) :: fields, source, schemas, hsource, hdistinct => by
    rw [redactFields, restoreFields, hsource key value (List.mem_cons_self ..),
      restore_redact value _ _ hdistinct.1, restore_redactFields fields source schemas
        (fun k v h => hsource k v (List.mem_cons_of_mem _ h)) hdistinct.2]
    rfl

theorem restore_redactItems : (items : List Json) → (schemas : List Fields) →
    (fieldName : Option Str) → DistinctItems items →
    restoreItems (redactItems search items schemas fieldName) items = .ok items
  | [], _, _, _ => rfl
  | value :: items, schemas, fieldName, hdistinct => by
    rw [redactItems, restoreItems, List.head?_cons, List.tail_cons,
      restore_redact value _ _ hdistinct.1, restore_redactItems items schemas fieldName hdistinct.2]
    rfl

end

theorem redactConfig_ok {config : Json} {schema draft : Fields}
    (h : redactSensitiveConfig search config schema = .ok draft) :
    redactSensitiveValue search config [schema] none = .obj draft := by
  unfold redactSensitiveConfig at h
  split at h
  · rename_i redacted hredacted
    cases h
    exact hredacted
  · cases h

end Drafts

theorem restore_draft {search : Str → Str → Option Bool} {stored : Json} {schema draft : Fields}
    (hdistinct : Distinct stored) (hdraft : redactSensitiveConfig search stored schema = .ok draft) :
    restoreSecretPlaceholders (mergeRevisionConfig (some stored) (.obj draft)) (some stored) =
      .ok stored := by
  rw [← redactConfig_ok search hdraft, merge_aligned stored hdistinct (aligned_redact search stored _ _)]
  exact restore_redact search stored _ _ hdistinct

/-- Credentials by name in objects and lists, and a list that the schema marks. -/
def sampleConfig : Fields :=
  [(py "credentials", .obj [(py "password", .str (py "p1")), (py "label", .str (py "visible"))]),
    (py "providers", .arr [.obj [(py "api_key", .str (py "k1")), (py "name", .str (py "primary"))], .null]),
    (py "marked", .arr [.int 1, .null])]

def sampleSchema : Fields :=
  [(py "allOf", .arr [.obj [(py "properties",
    .obj [(py "marked", .obj [(py "items", .obj [(py "writeOnly", .bool true)])])])]])]

def sampleDraft : Fields :=
  [(py "credentials", .obj [(py "password", .str pluginRedactionMarker), (py "label", .str (py "visible"))]),
    (py "providers",
      .arr [.obj [(py "api_key", .str pluginRedactionMarker), (py "name", .str (py "primary"))], .null]),
    (py "marked", .arr [.str pluginRedactionMarker, .str pluginRedactionMarker])]

theorem sampleConfig_distinct : Distinct (.obj sampleConfig) := by
  simp [sampleConfig, Distinct, DistinctFields, DistinctItems, py]

theorem sampleConfig_drafted : redactSensitiveConfig (fun _ _ => some false) (.obj sampleConfig)
    sampleSchema = .ok sampleDraft := by
  rfl

/-- So a request that posts the draft as it came does what one without a configuration does. -/
theorem createRevision_unedited {search : Str → Str → Option Bool} {uuid : Str → Option UUID}
    {configError : UUID → Json → Option Str} {readable : UUID → Bool} {configSchema : UUID → Fields}
    {c : Store} {id deploymentId revisionId : UUID} {payload : PluginRevisionCreate}
    {revision : ConfiguredRevision} {draft : Fields}
    (hsource : payload.sourceRevisionId = some revisionId) (hdistinct : Distinct revision.config)
    (hdraft : revisionDraft search readable configSchema c deploymentId revisionId =
      .ok (revision, draft)) :
    createRevision uuid configError readable c id deploymentId { payload with config := some draft } =
      createRevision uuid configError readable c id deploymentId { payload with config := none } := by
  unfold revisionDraft at hdraft
  split at hdraft
  · rename_i deployment found hdeployment hfound
    split at hdraft
    · cases hdraft
    · obtain ⟨config, hconfig, hdraft⟩ := bind_ok.1 hdraft
      obtain ⟨shown, hshown, hpair⟩ := bind_ok.1 hdraft
      cases hpair
      have hstored : config = revision.config := by
        unfold decryptRevisionConfig at hconfig
        split at hconfig
        · cases hconfig
        split at hconfig
        · rename_i hobject
          cases hconfig
          exact hobject.symm
        · cases hconfig
      subst hstored
      have hrevision : sourceRevision readable c deploymentId (some revisionId) =
          .ok (some (revision, revision.config)) := by
        rw [sourceRevision, hfound]
        simp only [hconfig]
        rfl
      have hsame : revisionConfig (some draft) (some revision.config) =
          revisionConfig none (some revision.config) := restore_draft hdistinct hshown
      simp only [createRevision, hsource, hrevision]
      rw [hdeployment]
      simp only [bind, Except.bind, Option.map_some, hsame]
  · cases hdraft

end WechatBot.SensitiveFields
