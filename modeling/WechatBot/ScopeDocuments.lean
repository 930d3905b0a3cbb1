import Mathlib.Data.List.Dedup
import Mathlib.Data.List.Sort
import WechatBot.PluginScope
import WechatBot.Results

/-!
# Scopes as documents

A scope is a JSON document: the catalog checks it when a revision is created and compares
it with the scopes that run, the dispatcher matches it against events. Whatever two scopes
match in common they have in common for the catalog. `uuid` is the parser of identifiers
and `repr` is `str` of a value that is no text.
-/
namespace WechatBot.ScopeDocuments

open PyData PluginScope Results

abbrev Fields := List (Str × Json)

def keyName : ScopeKey → Str
  | .bot_account_ids => py "bot_account_ids"
  | .chatroom_ids => py "chatroom_ids"
  | .contact_ids => py "contact_ids"
  | .conversation_ids => py "conversation_ids"

def allowedKeys : List Str := py "workspace_id" :: scopeFilterKeys.map keyName

/-- `sorted(set(texts))`. -/
def sortedSet (texts : List Str) : List Str := texts.dedup.insertionSort (· ≤ ·)

/-- `min(unknown_keys)`, if there are any. -/
def unknownKey (scope : Fields) : Option Str :=
  (sortedSet ((scope.map Prod.fst).filter fun key => key ∉ allowedKeys)).head?

/-- One item of a filter, stripped. -/
def scopeItem (key : ScopeKey) : Json → Except Str Str
  | .str s =>
    if strip s = [] then
      .error (py "plugin scope " ++ keyName key ++ py " must contain non-empty strings")
    else .ok (strip s)
  | _ => .error (py "plugin scope " ++ keyName key ++ py " must contain non-empty strings")

def scopeItems (key : ScopeKey) : List Json → Except Str (List Str)
  | [] => .ok []
  | item :: items => do
    let first ← scopeItem key item
    let rest ← scopeItems key items
    return first :: rest

def validateFilter (scope : Fields) (key : ScopeKey) : Except Str Fields :=
  match Json.get scope (keyName key) with
  | none => .ok []
  | some (.arr items) => do
    let normalized ← scopeItems key items
    return [(keyName key, .arr ((sortedSet normalized).map .str))]
  | some _ => .error (py "plugin scope " ++ keyName key ++ py " must be a list of strings")

def validateFilters (scope : Fields) : List ScopeKey → Except Str Fields
  | [] => .ok []
  | key :: keys => do
    let first ← validateFilter scope key
    let rest ← validateFilters scope keys
    return first ++ rest

section Parameters

variable (uuid : Str → Option UUID) (repr : Json → Str)

def validateWorkspace (scope : Fields) (workspaceId : UUID) : Except Str Fields :=
  match Json.get scope (py "workspace_id") with
  | none => .ok []
  | some (.str raw) =>
    match uuid raw with
    | none => .error (py "plugin scope workspace_id must be a UUID string")
    | some parsed =>
      if parsed ≠ workspaceId then
        .error (py "plugin scope workspace_id does not match deployment")
      else .ok [(py "workspace_id", .str (uuidStr parsed))]
  | some _ => .error (py "plugin scope workspace_id must be a UUID string")

def validateScope (scope : Fields) (workspaceId : UUID) : Except Str Fields :=
  match unknownKey scope with
  | some key => .error (py "plugin scope contains unknown key: " ++ key)
  | none => do
    let workspace ← validateWorkspace uuid scope workspaceId
    let filters ← validateFilters scope scopeFilterKeys
    return workspace ++ filters

def str : Json → Str
  | .str s => s
  | value => repr value

/-- `scope.get(key)`, where `null` counts as missing. -/
def configured (scope : Fields) (key : Str) : Option Json :=
  match Json.get scope key with
  | none => none
  | some .null => none
  | some value => some value

def matchesKey (scope : Fields) (context : EventContext) (key : ScopeKey) : Bool :=
  match configured scope (keyName key), actualValue context key with
  | none, _ => true
  | some (.arr items), some actual => (items.map (str repr)).contains actual
  | some _, _ => false

def matchesWorkspace (scope : Fields) (context : EventContext) : Bool :=
  (configured scope (py "workspace_id")).all fun expected =>
    decide (str repr expected = uuidStr context.workspaceId)

/-- `_scope_matches`. -/
def documentMatches (scope : Fields) (context : EventContext) : Bool :=
  matchesWorkspace repr scope context && scopeFilterKeys.all (matchesKey repr scope context)

end Parameters

def isText : Json → Bool
  | .str s => !s.isEmpty
  | _ => false

/-- The texts of a filter that is a list of non-empty texts. -/
def explicitFilter (scope : Fields) (key : ScopeKey) : Option (List Json) :=
  match Json.get scope (keyName key) with
  | some (.arr items) => if items.all isText then some items else none
  | _ => none

def textOf : Json → Str
  | .str s => s
  | _ => []

def keyOverlaps (left right : Fields) (key : ScopeKey) : Bool :=
  match explicitFilter left key, explicitFilter right key with
  | some leftItems, some rightItems =>
    (leftItems.map textOf).any fun item => (rightItems.map textOf).contains item
  | _, _ => true

/-- `_scopes_overlap`. -/
def documentsOverlap (left right : Fields) : Bool :=
  scopeFilterKeys.all (keyOverlaps left right)

section Covers

variable {repr : Json → Str} {scope left right : Fields} {context : EventContext} {key : ScopeKey}

theorem explicitFilter_some {items : List Json} (h : explicitFilter scope key = some items) :
    Json.get scope (keyName key) = some (.arr items) ∧ ∀ item ∈ items, isText item = true := by
  unfold explicitFilter at h
  split at h
  · rename_i found hfound
    split at h
    · rename_i hall
      cases h
      exact ⟨hfound, List.all_eq_true.mp hall⟩
    · cases h
  · cases h

theorem str_of_isText {item : Json} (h : isText item = true) : str repr item = textOf item := by
  cases item with
  | str s => rfl
  | null => cases h
  | bool b => cases h
  | int n => cases h
  | float f => cases h
  | arr items => cases h
  | obj fields => cases h

/-- An event that a scope matches is in each of its explicit filters. -/
theorem mem_explicitFilter {items : List Json} (hmatches : matchesKey repr scope context key = true)
    (hitems : explicitFilter scope key = some items) :
    ∃ actual, actualValue context key = some actual ∧ actual ∈ items.map textOf := by
  obtain ⟨hget, htext⟩ := explicitFilter_some hitems
  have hconfigured : configured scope (keyName key) = some (.arr items) := by
    rw [configured, hget]
  have hstr : items.map (str repr) = items.map textOf :=
    List.map_congr_left fun item hitem => str_of_isText (htext item hitem)
  cases hactual : actualValue context key with
  | none =>
    rw [matchesKey, hconfigured, hactual] at hmatches
    cases hmatches
  | some actual =>
    have hcontains : (items.map (str repr)).contains actual = true := by
      rw [matchesKey, hconfigured, hactual] at hmatches
      exact hmatches
    rw [hstr] at hcontains
    exact ⟨actual, rfl, List.contains_iff_mem.mp hcontains⟩

theorem documentsOverlap_of_matches (hleft : documentMatches repr left context = true)
    (hright : documentMatches repr right context = true) : documentsOverlap left right = true := by
  simp only [documentMatches, Bool.and_eq_true, List.all_eq_true] at hleft hright
  rw [documentsOverlap, List.all_eq_true]
  intro key hkey
  unfold keyOverlaps
  split
  · rename_i leftItems rightItems hl hr
    obtain ⟨actual, hactual, hmem⟩ := mem_explicitFilter (hleft.2 key hkey) hl
    obtain ⟨other, hother, hmem'⟩ := mem_explicitFilter (hright.2 key hkey) hr
    rw [hactual] at hother
    cases hother
    exact List.any_eq_true.mpr ⟨actual, hmem, List.contains_iff_mem.mpr hmem'⟩
  · rfl

/-- Scopes that match one event overlap in both orders, whatever documents they are. -/
theorem overlap_covers_matcher (repr : Json → Str) (left right : Fields) (context : EventContext)
    (hleft : documentMatches repr left context = true)
    (hright : documentMatches repr right context = true) :
    documentsOverlap left right = true ∧ documentsOverlap right left = true :=
  ⟨documentsOverlap_of_matches hleft hright, documentsOverlap_of_matches hright hleft⟩

end Covers

theorem get_append (first second : Fields) (key : Str) :
    Json.get (first ++ second) key = (Json.get first key).or (Json.get second key) := by
  rw [Json.get, List.find?_append, Option.map_or]
  rfl

/-- A filter of a stored scope. -/
def TextFilter (value : Option Json) : Prop :=
  ∃ texts : Option (List Str), value = texts.map (fun items => .arr (items.map .str)) ∧
    ∀ items ∈ texts, [] ∉ items

theorem TextFilter.none : TextFilter Option.none := ⟨Option.none, rfl, by simp⟩

theorem TextFilter.or {first second : Option Json} (h : TextFilter first) (h' : TextFilter second) :
    TextFilter (first.or second) := by
  cases first with
  | none => exact h'
  | some value => exact h

/-- A document that `_validate_scope` returns. -/
structure Stored (scope : Fields) : Prop where
  workspace : ∃ text : Option Str, Json.get scope (py "workspace_id") = text.map .str
  filters : ∀ key, TextFilter (Json.get scope (keyName key))

theorem mem_sortedSet {text : Str} {texts : List Str} : text ∈ sortedSet texts ↔ text ∈ texts := by
  rw [sortedSet, List.mem_insertionSort, List.mem_dedup]

theorem scopeItems_nonempty {key : ScopeKey} {items : List Json} {texts : List Str}
    (h : scopeItems key items = .ok texts) : [] ∉ texts := by
  induction items generalizing texts with
  | nil =>
    cases h
    exact List.not_mem_nil
  | cons item items ih =>
    obtain ⟨first, hfirst, h⟩ := bind_ok.mp h
    obtain ⟨rest, hrest, h⟩ := bind_ok.mp h
    cases h
    intro hmem
    rcases List.mem_cons.mp hmem with hempty | hmem
    · unfold scopeItem at hfirst
      split at hfirst
      · split at hfirst
        · cases hfirst
        · rename_i hne
          cases hfirst
          exact hne hempty.symm
      · cases hfirst
    · exact ih hrest hmem

theorem keyName_ne_workspace (key : ScopeKey) : keyName key ≠ py "workspace_id" := by
  cases key <;> decide

theorem validateFilter_ok {scope stored : Fields} {key : ScopeKey}
    (h : validateFilter scope key = .ok stored) :
    Json.get stored (py "workspace_id") = none ∧ ∀ name, TextFilter (Json.get stored name) := by
  unfold validateFilter at h
  split at h
  · cases h
    exact ⟨rfl, fun _ => TextFilter.none⟩
  · obtain ⟨texts, htexts, h⟩ := bind_ok.mp h
    cases h
    constructor
    · simp [Json.get, keyName_ne_workspace]
    · intro name
      by_cases hname : keyName key = name
      · refine ⟨some (sortedSet texts), by simp [Json.get, hname], ?_⟩
        rintro items ⟨⟩
        rw [mem_sortedSet]
        exact scopeItems_nonempty htexts
      · simp [Json.get, hname, TextFilter.none]
  · cases h

theorem validateFilters_ok {scope : Fields} (keys : List ScopeKey) : ∀ {stored : Fields},
    validateFilters scope keys = .ok stored →
    Json.get stored (py "workspace_id") = none ∧ ∀ name, TextFilter (Json.get stored name) := by
  induction keys with
  | nil =>
    intro stored h
    cases h
    exact ⟨rfl, fun _ => TextFilter.none⟩
  | cons key keys ih =>
    intro stored h
    obtain ⟨first, hfirst, h⟩ := bind_ok.mp h
    obtain ⟨rest, hrest, h⟩ := bind_ok.mp h
    cases h
    have hone := validateFilter_ok hfirst
    have hmore := ih hrest
    simp only [get_append]
    exact ⟨by rw [hone.1, hmore.1]; rfl, fun name => (hone.2 name).or (hmore.2 name)⟩

theorem validateWorkspace_ok {uuid : Str → Option UUID} {scope stored : Fields} {workspaceId : UUID}
    (h : validateWorkspace uuid scope workspaceId = .ok stored) :
    stored = [] ∨ stored = [(py "workspace_id", .str (uuidStr workspaceId))] := by
  unfold validateWorkspace at h
  split at h
  · cases h
    exact .inl rfl
  · split at h
    · cases h
    · split at h
      · cases h
      · rename_i hsame
        cases h
        rw [not_not.mp hsame]
        exact .inr rfl
  · cases h

theorem validateScope_stored {uuid : Str → Option UUID} {scope stored : Fields} {workspaceId : UUID}
    (h : validateScope uuid scope workspaceId = .ok stored) : Stored stored := by
  unfold validateScope at h
  split at h
  · cases h
  · obtain ⟨workspace, hworkspace, h⟩ := bind_ok.mp h
    obtain ⟨filters, hfilters, h⟩ := bind_ok.mp h
    cases h
    obtain ⟨hnone, htexts⟩ := validateFilters_ok scopeFilterKeys hfilters
    rcases validateWorkspace_ok hworkspace with rfl | rfl
    · exact ⟨⟨none, by rw [List.nil_append, hnone]; rfl⟩, fun key => htexts _⟩
    · refine ⟨⟨some (uuidStr workspaceId), by rw [get_append, hnone]; rfl⟩, fun key => ?_⟩
      rw [get_append]
      refine TextFilter.or ?_ (htexts _)
      simp [Json.get, Ne.symm (keyName_ne_workspace key), TextFilter.none]

example : validateScope (fun _ => none)
    [(py "chatroom_ids", .arr [.str (py " b "), .str (py "a"), .str (py "b")])] 1 =
      .ok [(py "chatroom_ids", .arr [.str (py "a"), .str (py "b")])] := rfl

def readFilter (scope : Fields) (key : ScopeKey) : Option (List Str) :=
  match Json.get scope (keyName key) with
  | some (.arr items) => some (items.map textOf)
  | _ => none

/-- The scope of a stored document. -/
def readScope (scope : Fields) : Records.PluginScope where
  workspaceId := (Json.get scope (py "workspace_id")).map textOf
  botAccountIds := readFilter scope .bot_account_ids
  chatroomIds := readFilter scope .chatroom_ids
  contactIds := readFilter scope .contact_ids
  conversationIds := readFilter scope .conversation_ids

theorem scopeFilter_readScope (scope : Fields) (key : ScopeKey) :
    scopeFilter (readScope scope) key = readFilter scope key := by
  cases key <;> rfl

section Read

variable {repr : Json → Str} {scope left right : Fields} {key : ScopeKey}

/-- A stored filter is read as its texts, by the matcher and by the catalog. -/
theorem Stored.filter (h : Stored scope) (key : ScopeKey) :
    (readFilter scope key = none ∧ configured scope (keyName key) = none ∧
      explicitFilter scope key = none) ∨
    ∃ texts : List Str, [] ∉ texts ∧ readFilter scope key = some texts ∧
      configured scope (keyName key) = some (.arr (texts.map .str)) ∧
      explicitFilter scope key = some (texts.map .str) := by
  obtain ⟨texts, hget, hnonempty⟩ := h.filters key
  cases texts with
  | none =>
    left
    rw [Option.map_none] at hget
    simp only [readFilter, configured, explicitFilter, hget, and_self]
  | some texts =>
    right
    rw [Option.map_some] at hget
    have hempty : [] ∉ texts := hnonempty texts rfl
    have htext : (texts.map Json.str).all isText = true := by
      rw [List.all_map, List.all_eq_true]
      intro text htext
      cases text with
      | nil => exact absurd htext hempty
      | cons c text => rfl
    refine ⟨texts, hempty, ?_, ?_, ?_⟩
    · simp only [readFilter, hget, List.map_map, Option.some.injEq]
      exact List.map_id texts
    · simp only [configured, hget]
    · simp only [explicitFilter, hget, htext, if_true]

theorem map_str (repr : Json → Str) (texts : List Str) :
    (texts.map Json.str).map (str repr) = texts := by
  rw [List.map_map]
  exact List.map_id texts

theorem map_textOf (texts : List Str) : (texts.map Json.str).map textOf = texts := by
  rw [List.map_map]
  exact List.map_id texts

/-- The dispatcher matches the document of a stored scope as the scope itself. -/
theorem Stored.scopeMatches (h : Stored scope) (context : EventContext) :
    PluginScope.scopeMatches (readScope scope) context = documentMatches repr scope context := by
  have hworkspace : (readScope scope).workspaceId.all
      (fun expected => decide (expected = uuidStr context.workspaceId)) =
      matchesWorkspace repr scope context := by
    obtain ⟨text, hget⟩ := h.workspace
    cases text with
    | none => simp only [readScope, matchesWorkspace, configured, hget, Option.map_none, Option.all_none]
    | some text =>
      simp only [readScope, matchesWorkspace, configured, hget, Option.map_some, Option.all_some]
      rfl
  have hkey : filterMatches (readScope scope) context = matchesKey repr scope context := by
    funext key
    rw [filterMatches, matchesKey, scopeFilter_readScope]
    rcases h.filter key with ⟨hread, hconfigured, -⟩ | ⟨texts, -, hread, hconfigured, -⟩
    · rw [hread, hconfigured]
    · rw [hread, hconfigured]
      cases actualValue context key with
      | none => rfl
      | some actual => simp only [map_str]
  rw [PluginScope.scopeMatches, documentMatches, hworkspace, hkey]

theorem Stored.explicitScopeFilter (h : Stored scope) (key : ScopeKey) :
    explicitScopeFilter (readScope scope) key =
      (explicitFilter scope key).map (fun items => items.map textOf) := by
  rw [PluginScope.explicitScopeFilter, scopeFilter_readScope]
  rcases h.filter key with ⟨hread, -, hexplicit⟩ | ⟨texts, hnonempty, hread, -, hexplicit⟩
  · rw [hread, hexplicit]
    rfl
  · have hany : texts.any List.isEmpty = false := by
      rw [List.any_eq_false]
      intro text htext hempty
      rw [List.isEmpty_iff.mp hempty] at htext
      exact hnonempty htext
    rw [hread, hexplicit, Option.map_some, map_textOf]
    simp only [hany, Bool.false_eq_true, if_false]

/-- The catalog compares the documents of stored scopes as the scopes themselves. -/
theorem Stored.scopesOverlap (hleft : Stored left) (hright : Stored right) :
    PluginScope.scopesOverlap (readScope left) (readScope right) = documentsOverlap left right := by
  rw [PluginScope.scopesOverlap, documentsOverlap]
  congr 1
  funext key
  rw [filtersOverlap, keyOverlaps, hleft.explicitScopeFilter, hright.explicitScopeFilter]
  cases explicitFilter left key with
  | none => rfl
  | some leftItems =>
    cases explicitFilter right key with
    | none => rfl
    | some rightItems => rfl

end Read

section Sample

def sampleContext : EventContext := ⟨1, 2, some (3, py "1@chatroom"), none⟩

def sampleAccount : Fields :=
  [(keyName .conversation_ids, .arr [.str (py "1@chatroom")])]

def sampleRoom : Fields :=
  [(keyName .conversation_ids, .arr [.str (py "2@chatroom"), .str (py "1@chatroom")])]

theorem overlap_covers_matcher_rooms :
    documentsOverlap sampleAccount sampleRoom = true ∧
      documentsOverlap sampleRoom sampleAccount = true :=
  overlap_covers_matcher (fun _ => []) sampleAccount sampleRoom sampleContext (by decide) (by decide)

end Sample

end WechatBot.ScopeDocuments
