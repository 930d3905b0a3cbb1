import WechatBot.JsonPaths

/-!
# Where JSON Schema applies a subschema

The applicators of Draft 2020-12. A schema applies its subschemas either to the same
instance or to a child of it; `Applies` follows them down to a position of the instance.
Validity, regular expressions and references are parameters.
-/
namespace WechatBot.JsonSchema

open JsonPaths PyData

abbrev Schema := List (Str × Json)

/-- A keyword that applies subschemas to the instance itself: `not` is `negation`, and `if`,
`then` and `else` are `condition`, `consequence` and `alternative`. -/
inductive Keyword where
  | allOf | anyOf | oneOf | negation
  | condition | consequence | alternative | dependentSchemas
  | ref
  deriving DecidableEq, Repr

/-- The name of a keyword that holds a list of schemas. -/
def Keyword.listName : Keyword → Option Str
  | .allOf => some (py "allOf")
  | .anyOf => some (py "anyOf")
  | .oneOf => some (py "oneOf")
  | _ => none

section Applicators

-- Whether an instance is valid under a schema, whether a pattern matches a key (`none` for a
-- malformed pattern), and the schema a reference denotes.
variable (valid : Json → Json → Bool) (search : Str → Str → Option Bool) (resolve : Str → Option Json)

inductive InPlace : Keyword → Schema → Json → Schema → Prop
  | combiner {keyword : Keyword} {name : Str} {schema sub : Schema} {branches : List Json}
      {instance_ : Json} :
    keyword.listName = some name → Json.get schema name = some (.arr branches) →
    .obj sub ∈ branches → InPlace keyword schema instance_ sub
  | negation {schema sub : Schema} {instance_ : Json} :
    Json.get schema (py "not") = some (.obj sub) → InPlace .negation schema instance_ sub
  | condition {schema sub : Schema} {instance_ : Json} :
    Json.get schema (py "if") = some (.obj sub) → InPlace .condition schema instance_ sub
  | consequence {schema sub : Schema} {condition instance_ : Json} :
    Json.get schema (py "if") = some condition → valid condition instance_ = true →
    Json.get schema (py "then") = some (.obj sub) → InPlace .consequence schema instance_ sub
  | alternative {schema sub : Schema} {condition instance_ : Json} :
    Json.get schema (py "if") = some condition → valid condition instance_ = false →
    Json.get schema (py "else") = some (.obj sub) → InPlace .alternative schema instance_ sub
  | dependentSchemas {schema sub dependents fields : Schema} {key : Str} :
    Json.get schema (py "dependentSchemas") = some (.obj dependents) →
    Json.get dependents key = some (.obj sub) → (Json.get fields key).isSome = true →
    InPlace .dependentSchemas schema (.obj fields) sub
  | ref {schema sub : Schema} {reference : Str} {instance_ : Json} :
    Json.get schema (py "$ref") = some (.str reference) → resolve reference = some (.obj sub) →
    InPlace .ref schema instance_ sub

/-- The key has a schema of its own in `properties` or `patternProperties`. -/
def Named (schema : Schema) (key : Str) : Prop :=
  (∃ properties, Json.get schema (py "properties") = some (.obj properties) ∧
    (Json.get properties key).isSome = true) ∨
  ∃ patterns, Json.get schema (py "patternProperties") = some (.obj patterns) ∧
    ∃ pattern ∈ patterns, search pattern.1 key = some true

def prefixLength (schema : Schema) : Nat :=
  match Json.get schema (py "prefixItems") with
  | some (.arr schemas) => schemas.length
  | _ => 0

/-- The subschemas that a schema applies to a child of the instance. -/
inductive ToChild : Schema → Step → Schema → Prop
  | property {schema properties sub : Schema} {key : Str} :
    Json.get schema (py "properties") = some (.obj properties) →
    Json.get properties key = some (.obj sub) → ToChild schema (.field key) sub
  | pattern {schema patterns sub : Schema} {pattern key : Str} :
    Json.get schema (py "patternProperties") = some (.obj patterns) →
    (pattern, .obj sub) ∈ patterns → search pattern key = some true → ToChild schema (.field key) sub
  | additional {schema sub : Schema} {key : Str} :
    Json.get schema (py "additionalProperties") = some (.obj sub) → ¬ Named search schema key →
    ToChild schema (.field key) sub
  | prefixItem {schema sub : Schema} {schemas : List Json} {index : Nat} :
    Json.get schema (py "prefixItems") = some (.arr schemas) → schemas[index]? = some (.obj sub) →
    ToChild schema (.item index) sub
  | item {schema sub : Schema} {index : Nat} :
    Json.get schema (py "items") = some (.obj sub) → prefixLength schema ≤ index →
    ToChild schema (.item index) sub

/-- Validation of the instance under the schema applies the subschema at the position, by
some of the keywords. -/
inductive Applies (keywords : Keyword → Prop) : Schema → Json → Path → Schema → Prop
  | here (schema : Schema) (instance_ : Json) : Applies keywords schema instance_ [] schema
  | inPlace {keyword : Keyword} {schema sub target : Schema} {instance_ : Json} {p : Path} :
    keywords keyword → InPlace valid resolve keyword schema instance_ sub →
    Applies keywords sub instance_ p target → Applies keywords schema instance_ p target
  | toChild {schema sub target : Schema} {instance_ value : Json} {s : Step} {p : Path} :
    child instance_ s = some value → ToChild search schema s sub →
    Applies keywords sub value p target → Applies keywords schema instance_ (s :: p) target

variable {valid search resolve}

/-- The position is one of the instance. -/
theorem Applies.valueAt {keywords : Keyword → Prop} {schema target : Schema} {instance_ : Json}
    {p : Path} (h : Applies valid search resolve keywords schema instance_ p target) :
    ∃ value, valueAt instance_ p = some value := by
  induction h with
  | here schema instance_ => exact ⟨instance_, rfl⟩
  | inPlace _ _ _ ih => exact ih
  | toChild hchild _ _ ih =>
    obtain ⟨value, hvalue⟩ := ih
    exact ⟨value, by rw [JsonPaths.valueAt, hchild, Option.bind_some, hvalue]⟩

end Applicators

end WechatBot.JsonSchema
