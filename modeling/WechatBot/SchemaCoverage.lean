import WechatBot.JsonSchema
import WechatBot.SensitiveFields

/-!
# What redaction covers

The redactor follows the applicators of a schema by hand. It finds every marked subschema
that it can reach by the keywords it knows; `$ref`, `not` and `dependentSchemas` are not
among them.
-/
namespace WechatBot.SchemaCoverage

open JsonPaths JsonSchema PyData RevisionConfigs SensitiveFields
open ScopeDocuments (Fields)

/-- The schema marks its instances as secret. -/
def Marked (schema : Fields) : Prop :=
  Json.get schema (py "writeOnly") = some (.bool true) ∨
    Json.get schema (py "x-sensitive") = some (.bool true) ∨
    Json.get schema (py "format") = some (.str (py "password"))

/-- The keywords that `_schema_variants` follows. -/
def Followed : Keyword → Prop
  | .negation | .dependentSchemas | .ref => False
  | _ => True

/-- The draft shows the marker at the position or at one around it. -/
def Covered (draft : Json) (p : Path) : Prop :=
  ∃ q, q <+: p ∧ valueAt draft q = some (.str pluginRedactionMarker)

theorem self_mem_variants (schema : Fields) : schema ∈ schemaVariants (.obj schema) := by
  rw [schemaVariants]
  exact List.mem_cons_self ..

theorem mem_entry_cons {f : Str × List Fields} {table : List (Str × List Fields)} {keyword : Str}
    {schema : Fields} :
    schema ∈ entry (f :: table) keyword ↔
      (f.1 = keyword ∧ schema ∈ f.2) ∨ (f.1 ≠ keyword ∧ schema ∈ entry table keyword) := by
  by_cases h : f.1 = keyword <;> simp [entry, h]

mutual

theorem variants_trans {sub target : Fields} (htarget : target ∈ schemaVariants (.obj sub)) :
    (schema : Json) → sub ∈ schemaVariants schema → target ∈ schemaVariants schema
  | .obj schema, hsub => by
    rw [schemaVariants, List.mem_cons, List.mem_append, List.mem_flatMap, List.mem_flatMap] at hsub
    rcases hsub with rfl | ⟨keyword, hkeyword, hsub⟩ | ⟨keyword, hkeyword, hsub⟩
    · exact htarget
    · rw [schemaVariants]
      apply List.mem_cons_of_mem
      apply List.mem_append_left
      exact List.mem_flatMap.2 ⟨keyword, hkeyword, fieldBranches_trans htarget schema keyword hsub⟩
    · rw [schemaVariants]
      apply List.mem_cons_of_mem
      apply List.mem_append_right
      exact List.mem_flatMap.2 ⟨keyword, hkeyword, fieldVariants_trans htarget schema keyword hsub⟩
  | .null, hsub | .bool _, hsub | .int _, hsub | .float _, hsub | .str _, hsub | .arr _, hsub => by
    simp [schemaVariants] at hsub

theorem branchVariants_trans {sub target : Fields} (htarget : target ∈ schemaVariants (.obj sub)) :
    (value : Json) → sub ∈ branchVariants value → target ∈ branchVariants value
  | .arr branches, hsub => itemVariants_trans htarget branches hsub
  | .null, hsub | .bool _, hsub | .int _, hsub | .float _, hsub | .str _, hsub | .obj _, hsub => by
    simp [branchVariants] at hsub

theorem itemVariants_trans {sub target : Fields} (htarget : target ∈ schemaVariants (.obj sub)) :
    (branches : List Json) → sub ∈ itemVariants branches → target ∈ itemVariants branches
  | [], hsub => by simp [itemVariants] at hsub
  | branch :: branches, hsub => by
    rw [itemVariants, List.mem_append] at hsub ⊢
    exact hsub.imp (variants_trans htarget branch) (itemVariants_trans htarget branches)

theorem fieldVariants_trans {sub target : Fields} (htarget : target ∈ schemaVariants (.obj sub)) :
    (schema : Fields) → (keyword : Str) → sub ∈ entry (fieldVariants schema) keyword →
    target ∈ entry (fieldVariants schema) keyword
  | [], _, hsub => by simp [fieldVariants, entry] at hsub
  | (_, branch) :: schema, keyword, hsub => by
    rw [fieldVariants, mem_entry_cons] at hsub ⊢
    exact hsub.imp (fun h => ⟨h.1, variants_trans htarget branch h.2⟩)
      (fun h => ⟨h.1, fieldVariants_trans htarget schema keyword h.2⟩)

theorem fieldBranches_trans {sub target : Fields} (htarget : target ∈ schemaVariants (.obj sub)) :
    (schema : Fields) → (keyword : Str) → sub ∈ entry (fieldBranches schema) keyword →
    target ∈ entry (fieldBranches schema) keyword
  | [], _, hsub => by simp [fieldBranches, entry] at hsub
  | (_, branches) :: schema, keyword, hsub => by
    rw [fieldBranches, mem_entry_cons] at hsub ⊢
    exact hsub.imp (fun h => ⟨h.1, branchVariants_trans htarget branches h.2⟩)
      (fun h => ⟨h.1, fieldBranches_trans htarget schema keyword h.2⟩)

end

section Coverage

variable {valid : Json → Json → Bool} {search : Str → Str → Option Bool} {resolve : Str → Option Json}

theorem variant_of_branch {schema sub : Fields} {name : Str} {branches : List Json}
    (hname : name ∈ schemaCombiners) (hget : Json.get schema name = some (.arr branches))
    (hsub : .obj sub ∈ branches) : sub ∈ schemaVariants (.obj schema) := by
  rw [schemaVariants_obj]
  apply List.mem_cons_of_mem
  apply List.mem_append_left
  apply List.mem_flatMap.2 ⟨name, hname, ?_⟩
  simp only [hget]
  exact List.mem_flatMap.2 ⟨_, hsub, self_mem_variants sub⟩

theorem variant_of_condition {schema sub : Fields} {name : Str} (hname : name ∈ conditionals)
    (hget : Json.get schema name = some (.obj sub)) : sub ∈ schemaVariants (.obj schema) := by
  rw [schemaVariants_obj]
  apply List.mem_cons_of_mem
  apply List.mem_append_right
  apply List.mem_flatMap.2 ⟨name, hname, ?_⟩
  simp only [hget]
  exact self_mem_variants sub

/-- The keywords that are followed lead to variants. -/
theorem variant_of_inPlace {keyword : Keyword} {schema sub : Fields} {config : Json}
    (hkeyword : Followed keyword) (h : InPlace valid resolve keyword schema config sub) :
    sub ∈ schemaVariants (.obj schema) := by
  cases h with
  | combiner hname hget hsub =>
    refine variant_of_branch ?_ hget hsub
    cases keyword <;> cases hname <;> decide
  | condition hget => exact variant_of_condition (by decide) hget
  | consequence _ _ hget => exact variant_of_condition (by decide) hget
  | alternative _ _ hget => exact variant_of_condition (by decide) hget
  | negation | dependentSchemas | ref => exact hkeyword.elim

/-- The schemas that the redactor uses for a child. -/
def stepSchemas (search : Str → Str → Option Bool) (schemas : List Fields) : Step → List Fields
  | .field key => childSchemas search schemas key
  | .item _ => itemSchemas schemas

theorem followed_toChild {schemas : List Fields} {root schema sub : Fields} {s : Step}
    (hroot : root ∈ schemas) (hschema : schema ∈ schemaVariants (.obj root))
    (h : ToChild search schema s sub) : sub ∈ stepSchemas search schemas s := by
  have hmem : ∀ {found : Fields → List Fields}, sub ∈ found schema →
      sub ∈ schemas.flatMap fun root => (schemaVariants (.obj root)).flatMap found :=
    fun hfound => List.mem_flatMap.2 ⟨root, hroot, List.mem_flatMap.2 ⟨schema, hschema, hfound⟩⟩
  cases h with
  | property hproperties hsub =>
    apply hmem
    apply List.mem_append_left
    apply List.mem_append_left
    simp [propertySchemas, hproperties, hsub, asSchema]
  | pattern hpatterns hsub hsearch =>
    apply hmem
    apply List.mem_append_left
    apply List.mem_append_right
    simp only [patternSchemas, hpatterns]
    apply List.mem_flatMap.2 ⟨_, hsub, ?_⟩
    simp [hsearch, asSchema]
  | additional hsub =>
    apply hmem
    apply List.mem_append_right
    simp [hsub, asSchema]
  | prefixItem hschemas hsub =>
    apply hmem
    apply List.mem_append_right
    simp only [prefixSchemas, hschemas]
    apply List.mem_flatMap.2 ⟨_, List.mem_of_getElem? hsub, ?_⟩
    simp [asSchema]
  | item hsub =>
    apply hmem
    apply List.mem_append_left
    simp [hsub, asSchema]

/-- The schemas with which the redactor comes to a position. -/
def schemasAt (search : Str → Str → Option Bool) : List Fields → Path → List Fields
  | schemas, [] => schemas
  | schemas, s :: p => schemasAt search (stepSchemas search schemas s) p

def stepName : Option Str → Step → Option Str
  | _, .field key => some key
  | name, .item _ => name

/-- The field name with which it comes there. -/
def nameAt : Option Str → Path → Option Str
  | name, [] => name
  | name, s :: p => nameAt (stepName name s) p

theorem followed_schemasAt {schema target : Fields} {config : Json} {p : Path}
    (h : Applies valid search resolve Followed schema config p target) :
    ∀ {schemas : List Fields} {root : Fields}, root ∈ schemas → schema ∈ schemaVariants (.obj root) →
      ∃ found ∈ schemasAt search schemas p, target ∈ schemaVariants (.obj found) := by
  induction h with
  | here schema config => exact fun hroot hschema => ⟨_, hroot, hschema⟩
  | inPlace hkeyword hstep _ ih =>
    intro schemas root hroot hschema
    exact ih hroot (variants_trans (variant_of_inPlace hkeyword hstep) _ hschema)
  | toChild _ hstep _ ih =>
    intro schemas root hroot hschema
    exact ih (followed_toChild hroot hschema hstep) (self_mem_variants _)

theorem isMarked_of_marked {schema : Fields} (h : Marked schema) : isMarked schema = true := by
  rcases h with h | h | h
  · simp [isMarked, h, SensitiveFields.isTrue]
  · simp [isMarked, h, SensitiveFields.isTrue]
  · have hfold : (py "password").flatMap PersistedJson.casefold = py "password" := by decide
    simp [isMarked, h, hfold]

theorem sensitive_of_followed {schema target : Fields} {config : Json} {p : Path}
    (h : Applies valid search resolve Followed schema config p target) (hmarked : Marked target) :
    isSensitiveField (nameAt none p) (schemasAt search [schema] p) = true := by
  obtain ⟨found, hfound, htarget⟩ :=
    followed_schemasAt h (List.mem_singleton_self schema) (self_mem_variants schema)
  rw [isSensitiveField, Bool.or_eq_true]
  right
  exact List.any_eq_true.2 ⟨found, hfound, List.any_eq_true.2 ⟨target, htarget, isMarked_of_marked hmarked⟩⟩

theorem get_redactFields (fields : Fields) (schemas : List Fields) (key : Str) :
    Json.get (redactFields search fields schemas) key = (Json.get fields key).map fun item =>
      redactSensitiveValue search item (childSchemas search schemas key) (some key) := by
  induction fields with
  | nil => rfl
  | cons f fields ih =>
    obtain ⟨name, item⟩ := f
    rw [redactFields, get_cons, get_cons, ih]
    by_cases h : name = key <;> simp [h]

theorem getElem?_redactItems (items : List Json) (schemas : List Fields) (fieldName : Option Str)
    (index : Nat) :
    (redactItems search items schemas fieldName)[index]? = (items[index]?).map fun item =>
      redactSensitiveValue search item schemas fieldName := by
  induction items generalizing index with
  | nil => simp [redactItems]
  | cons item items ih =>
    rw [redactItems]
    cases index with
    | zero => rfl
    | succ index => exact ih index

/-- A value that is not hidden itself shows its children as the redactor sees them. -/
theorem child_redact {value item : Json} {schemas : List Fields} {fieldName : Option Str} {s : Step}
    (hshown : isSensitiveField fieldName schemas = false) (hchild : child value s = some item) :
    child (redactSensitiveValue search value schemas fieldName) s = some
      (redactSensitiveValue search item (stepSchemas search schemas s) (stepName fieldName s)) := by
  rw [redact_cases, hshown]
  match value, s, hchild with
  | .obj fields, .field key, hchild =>
    simp only [child] at hchild
    simp [child, get_redactFields, hchild, stepSchemas, stepName]
  | .arr items, .item index, hchild =>
    simp only [child] at hchild
    simp [child, getElem?_redactItems, hchild, stepSchemas, stepName]

theorem redact_eq_marker (value : Json) (schemas : List Fields) (fieldName : Option Str) :
    redactSensitiveValue search value schemas fieldName = .str pluginRedactionMarker ↔
      isSensitiveField fieldName schemas = true ∨ value = .str pluginRedactionMarker := by
  rw [redact_cases]
  by_cases h : isSensitiveField fieldName schemas = true
  · simp [h]
  · rw [if_neg h]
    cases value <;> simp [h]

/-- A position is covered exactly when the redactor finds a reason at it or around it, or a
marker was stored there. -/
theorem covered_iff {value item : Json} {schemas : List Fields} {fieldName : Option Str} {p : Path}
    (hitem : valueAt value p = some item) :
    Covered (redactSensitiveValue search value schemas fieldName) p ↔ ∃ q, q <+: p ∧
      (isSensitiveField (nameAt fieldName q) (schemasAt search schemas q) = true ∨
        valueAt value q = some (.str pluginRedactionMarker)) := by
  induction p generalizing value schemas fieldName with
  | nil =>
    simp [Covered, redact_eq_marker, nameAt, schemasAt]
  | cons s p ih =>
    obtain ⟨next, hnext, hitem⟩ := Option.bind_eq_some_iff.1 hitem
    by_cases hshown : isSensitiveField fieldName schemas = true
    · constructor
      · exact fun _ => ⟨[], List.nil_prefix, .inl hshown⟩
      · exact fun _ => ⟨[], List.nil_prefix, by
          rw [valueAt_nil, (redact_eq_marker value schemas fieldName).2 (.inl hshown)]⟩
    · have hchild : child (redactSensitiveValue search value schemas fieldName) s = some _ :=
        child_redact (Bool.eq_false_of_not_eq_true hshown) hnext
      have hroot : value ≠ .str pluginRedactionMarker := by
        rintro rfl
        cases s <;> cases hnext
      have hsplit : ∀ {P : Path → Prop}, ¬ P [] →
          ((∃ q, q <+: s :: p ∧ P q) ↔ ∃ q, q <+: p ∧ P (s :: q)) := by
        intro P hnil
        constructor
        · rintro ⟨q, hq, hP⟩
          cases q with
          | nil => exact absurd hP hnil
          | cons t q =>
            obtain ⟨rfl, hrest⟩ := List.cons_prefix_cons.1 hq
            exact ⟨q, hrest, hP⟩
        · rintro ⟨q, hq, hP⟩
          exact ⟨s :: q, List.cons_prefix_cons.2 ⟨rfl, hq⟩, hP⟩
      rw [Covered, hsplit, hsplit]
      · simp only [valueAt, hchild, hnext, Option.bind_some, schemasAt, nameAt]
        exact ih hitem
      · simp [nameAt, schemasAt, hshown, hroot]
      · simp [redact_eq_marker, hshown, hroot]

end Coverage

/-- Every position to which the schema applies a marked subschema is covered in the draft. -/
def CoversMarked (valid : Json → Json → Bool) (search : Str → Str → Option Bool)
    (resolve : Str → Option Json) (schema : Fields) (config draft : Json) : Prop :=
  ∀ p target, Applies valid search resolve (fun _ => True) schema config p target → Marked target →
    Covered draft p

/-- The redactor has a reason to hide the position or one around it, or a marker is stored
there. -/
def Hidden (search : Str → Str → Option Bool) (schema : Fields) (config : Json) (p : Path) : Prop :=
  ∃ q, q <+: p ∧ (isSensitiveField (nameAt none q) (schemasAt search [schema] q) = true ∨
    valueAt config q = some (.str pluginRedactionMarker))

/-- A draft covers every position that the schema marks exactly when the redactor has
another reason to hide the positions that are marked through `$ref`, `not` or
`dependentSchemas` only. -/
theorem draft_covers_marked (valid : Json → Json → Bool) (search : Str → Str → Option Bool)
    (resolve : Str → Option Json) (config : Json) (schema draft : Fields)
    (hdraft : redactSensitiveConfig search config schema = .ok draft) :
    CoversMarked valid search resolve schema config (.obj draft) ↔
      ∀ p target, Applies valid search resolve (fun _ => True) schema config p target →
        Marked target → ¬ Applies valid search resolve Followed schema config p target →
        Hidden search schema config p := by
  have hcovered : ∀ p target, Applies valid search resolve (fun _ => True) schema config p target →
      (Covered (.obj draft) p ↔ Hidden search schema config p) := by
    intro p target happlies
    obtain ⟨item, hitem⟩ := happlies.valueAt
    rw [← redactConfig_ok search hdraft]
    exact covered_iff hitem
  constructor
  · intro h p target happlies hmarked _
    exact (hcovered p target happlies).1 (h p target happlies hmarked)
  · intro h p target happlies hmarked
    rw [hcovered p target happlies]
    by_cases hfollowed : Applies valid search resolve Followed schema config p target
    · exact ⟨p, List.prefix_rfl, .inl (sensitive_of_followed hfollowed hmarked)⟩
    · exact h p target happlies hmarked hfollowed

def unfollowedNames : List Str := ["not", "dependentSchemas", "$ref"].map py

mutual

/-- No object of the document has one of the keywords that are not followed. -/
def isPlain : Json → Bool
  | .arr items => itemsPlain items
  | .obj fields => fieldsPlain fields
  | _ => true

def itemsPlain : List Json → Bool
  | [] => true
  | value :: items => isPlain value && itemsPlain items

def fieldsPlain : Fields → Bool
  | [] => true
  | (key, value) :: fields => !unfollowedNames.contains key && isPlain value && fieldsPlain fields

end

theorem itemsPlain_mem {items : List Json} (h : itemsPlain items = true) {value : Json}
    (hvalue : value ∈ items) : isPlain value = true := by
  induction items with
  | nil => cases hvalue
  | cons first items ih =>
    rw [itemsPlain, Bool.and_eq_true] at h
    rcases List.mem_cons.1 hvalue with rfl | hvalue
    · exact h.1
    · exact ih h.2 hvalue

theorem fieldsPlain_mem {fields : Fields} (h : fieldsPlain fields = true) {f : Str × Json}
    (hf : f ∈ fields) : f.1 ∉ unfollowedNames ∧ isPlain f.2 = true := by
  induction fields with
  | nil => cases hf
  | cons first fields ih =>
    simp only [fieldsPlain, Bool.and_eq_true, Bool.not_eq_true', List.contains_eq_mem,
      decide_eq_false_iff_not] at h
    rcases List.mem_cons.1 hf with rfl | hf
    · exact h.1
    · exact ih h.2 hf

theorem plain_get {fields : Fields} (h : fieldsPlain fields = true) {key : Str} {value : Json}
    (hget : Json.get fields key = some value) : isPlain value = true :=
  (fieldsPlain_mem h (mem_of_get hget)).2

section Plain

variable {valid : Json → Json → Bool} {search : Str → Str → Option Bool} {resolve : Str → Option Json}

theorem followed_of_plain {keyword : Keyword} {schema sub : Fields} {config : Json}
    (hplain : fieldsPlain schema = true) (h : InPlace valid resolve keyword schema config sub) :
    Followed keyword ∧ fieldsPlain sub = true := by
  have habsent : ∀ {name value}, Json.get schema name = some value → name ∉ unfollowedNames :=
    fun hget => (fieldsPlain_mem hplain (mem_of_get hget)).1
  cases h with
  | combiner hname hget hsub =>
    refine ⟨?_, itemsPlain_mem (plain_get hplain hget) hsub⟩
    cases keyword <;> cases hname <;> trivial
  | condition hget => exact ⟨trivial, plain_get hplain hget⟩
  | consequence _ _ hget => exact ⟨trivial, plain_get hplain hget⟩
  | alternative _ _ hget => exact ⟨trivial, plain_get hplain hget⟩
  | negation hget => exact absurd (by decide) (habsent hget)
  | dependentSchemas hget => exact absurd (by decide) (habsent hget)
  | ref hget => exact absurd (by decide) (habsent hget)

theorem plain_toChild {schema sub : Fields} {s : Step} (hplain : fieldsPlain schema = true)
    (h : ToChild search schema s sub) : fieldsPlain sub = true := by
  cases h with
  | property hproperties hsub => exact plain_get (plain_get hplain hproperties) hsub
  | pattern hpatterns hsub => exact (fieldsPlain_mem (plain_get hplain hpatterns) hsub).2
  | additional hsub => exact plain_get hplain hsub
  | prefixItem hschemas hsub => exact itemsPlain_mem (plain_get hplain hschemas) (List.mem_of_getElem? hsub)
  | item hsub => exact plain_get hplain hsub

theorem applies_followed {keywords : Keyword → Prop} {schema target : Fields} {config : Json} {p : Path}
    (h : Applies valid search resolve keywords schema config p target)
    (hplain : fieldsPlain schema = true) :
    Applies valid search resolve Followed schema config p target := by
  induction h with
  | here schema config => exact .here schema config
  | inPlace _ hstep _ ih =>
    obtain ⟨hfollowed, hsub⟩ := followed_of_plain hplain hstep
    exact .inPlace hfollowed hstep (ih hsub)
  | toChild hchild hstep _ ih => exact .toChild hchild hstep (ih (plain_toChild hplain hstep))

end Plain

/-- `#/$defs/<name>`. -/
def localReference (schema : Fields) (reference : Str) : Option Json :=
  if py "#/$defs/" <+: reference then
    match Json.get schema (py "$defs") with
    | some (.obj defs) => Json.get defs (reference.drop (py "#/$defs/").length)
    | _ => none
  else none

/-- A PIN whose schema stands in `$defs`. -/
def pinSchema : Fields :=
  [(py "type", .str (py "object")),
    (py "properties", .obj [(py "auth", .obj [(py "$ref", .str (py "#/$defs/pin"))])]),
    (py "$defs", .obj [(py "pin", .obj [(py "type", .str (py "string")), (py "writeOnly", .bool true)])])]

def pinConfig : Fields := [(py "auth", .str (py "1234"))]

/-- The draft shows the PIN. -/
theorem referenced_secret_shown :
    redactSensitiveConfig (fun _ _ => none) (.obj pinConfig) pinSchema = .ok pinConfig ∧
      ¬ CoversMarked (fun _ _ => true) (fun _ _ => none) (localReference pinSchema) pinSchema
        (.obj pinConfig) (.obj pinConfig) := by
  refine ⟨rfl, fun h => ?_⟩
  have happlies : Applies (fun _ _ => true) (fun _ _ => none) (localReference pinSchema)
      (fun _ => True) pinSchema (.obj pinConfig) [.field (py "auth")]
      [(py "type", .str (py "string")), (py "writeOnly", .bool true)] := by
    refine .toChild rfl (.property rfl rfl) (.inPlace trivial (.ref rfl ?_) (.here _ _))
    rfl
  obtain ⟨q, hq, hmarker⟩ := h _ _ happlies (.inl rfl)
  rcases List.prefix_cons_iff.1 hq with rfl | ⟨p, rfl, hp⟩
  · cases hmarker
  · obtain rfl := List.prefix_nil.1 hp
    have hvalue : valueAt (.obj pinConfig) [.field (py "auth")] = some (.str (py "1234")) := rfl
    rw [hvalue] at hmarker
    simp [pluginRedactionMarker, py] at hmarker

/-- The same secret marked where it is used. -/
def inlineSchema : Fields :=
  [(py "properties", .obj [(py "auth", .obj [(py "anyOf", .arr [.obj [(py "x-sensitive", .bool true)]])])])]

theorem draft_covers_marked_inline :
    Applies (fun _ _ => true) (fun _ _ => none) (localReference inlineSchema) (fun _ => True)
        inlineSchema (.obj pinConfig) [.field (py "auth")] [(py "x-sensitive", .bool true)] ∧
      CoversMarked (fun _ _ => true) (fun _ _ => none) (localReference inlineSchema) inlineSchema
        (.obj pinConfig) (.obj [(py "auth", .str pluginRedactionMarker)]) := by
  constructor
  · have hbranch : InPlace (fun _ _ => true) (localReference inlineSchema) .anyOf
        [(py "anyOf", .arr [.obj [(py "x-sensitive", .bool true)]])] (.str (py "1234"))
        [(py "x-sensitive", .bool true)] := .combiner rfl rfl (List.mem_singleton_self _)
    exact .toChild rfl (.property rfl rfl) (.inPlace trivial hbranch (.here _ _))
  · apply (draft_covers_marked _ _ _ (.obj pinConfig) inlineSchema _ rfl).2
    intro p target happlies hmarked hfollowed
    exact absurd (applies_followed happlies (by decide)) hfollowed

end WechatBot.SchemaCoverage
