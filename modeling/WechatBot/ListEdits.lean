import WechatBot.SensitiveFields

/-!
# Edited lists in a draft

An administrator deletes, inserts and reorders elements of the lists of a draft. Restoring
looks for the secret of a marker at the marker's new position, so an element that has
moved gets its own secret only if the two positions hold the same value.
-/
namespace WechatBot.ListEdits

open JsonPaths PyData RevisionConfigs SensitiveFields
open Results (bind_error bind_ok map_error map_ok)
open ScopeDocuments (Fields)

mutual

/-- An edit of the lists in a document, at every depth. -/
inductive Edit where
  | keep
  | fields (edit : Str → Edit)
  | items (elements : Elements)

/-- The elements of the new list: those that are left, each with its old index and the edit
of its own lists, and those that are new. -/
inductive Elements where
  | nil
  | kept (origin : Nat) (edit : Edit) (rest : Elements)
  | inserted (value : Json) (rest : Elements)

end

mutual

/-- `none` when the edit does not fit the document. -/
def Edit.apply : Edit → Json → Option Json
  | .keep, draft => some draft
  | .fields edit, .obj fields =>
    (fields.mapM fun f => ((edit f.1).apply f.2).map fun value => (f.1, value)).map .obj
  | .items elements, .arr items => (elements.apply items).map .arr
  | _, _ => none

def Elements.apply : Elements → List Json → Option (List Json)
  | .nil, _ => some []
  | .kept origin edit rest, items => do
    let item ← items[origin]?
    return (← edit.apply item) :: (← rest.apply items)
  | .inserted value rest, items => do return value :: (← rest.apply items)

end

mutual

/-- Every element that is left has the value it was stored with. -/
def Edit.Owned : Edit → Json → Json → Prop
  | .keep, stored, saved => saved = stored
  | .fields edit, .obj fields, .obj saved =>
    List.Forall₂ (fun f g => f.1 = g.1 ∧ (edit f.1).Owned f.2 g.2) fields saved
  | .items elements, .arr items, .arr saved => elements.Owned items saved
  | _, _, _ => False

def Elements.Owned : Elements → List Json → List Json → Prop
  | .nil, _, saved => saved = []
  | .kept origin edit rest, items, value :: saved =>
    (∃ item, items[origin]? = some item ∧ edit.Owned item value) ∧ rest.Owned items saved
  | .inserted _ rest, items, _ :: saved => rest.Owned items saved
  | _, _, [] => False

end

inductive MarkerAtPath : Json → Path → Prop
  | here : MarkerAtPath (.str pluginRedactionMarker) []
  | item {items : List Json} {index : Nat} {value : Json} {p : Path} :
    items[index]? = some value → MarkerAtPath value p → MarkerAtPath (.arr items) (.item index :: p)
  | field {fields : Fields} {key : Str} {value : Json} {p : Path} :
    (key, value) ∈ fields → MarkerAtPath value p → MarkerAtPath (.obj fields) (.field key :: p)

mutual

/-- A marker of the draft moves to the first position from the second one. -/
def Edit.Moves : Edit → Json → Path → Path → Prop
  | .keep, draft, p, q => MarkerAtPath draft p ∧ p = q
  | .fields edit, .obj fields, .field key :: p, .field name :: q =>
    key = name ∧ ∃ value, (key, value) ∈ fields ∧ (edit key).Moves value p q
  | .items elements, .arr items, .item index :: p, .item origin :: q =>
    elements.Moves items index origin p q
  | _, _, _, _ => False

def Elements.Moves : Elements → List Json → Nat → Nat → Path → Path → Prop
  | .kept origin edit _, items, 0, i, p, q =>
    i = origin ∧ ∃ item, items[origin]? = some item ∧ edit.Moves item p q
  | .kept _ _ rest, items, index + 1, i, p, q => rest.Moves items index i p q
  | .inserted _ rest, items, index + 1, i, p, q => rest.Moves items index i p q
  | _, _, _, _, _, _ => False

end

mutual

/-- The draft shows the stored document, with markers in the place of some values. -/
inductive Redacts : Json → Json → Prop
  | marker (stored : Json) : Redacts stored (.str pluginRedactionMarker)
  | null : Redacts .null .null
  | bool (b : Bool) : Redacts (.bool b) (.bool b)
  | int (n : Int) : Redacts (.int n) (.int n)
  | float (f : JsonFloat) : Redacts (.float f) (.float f)
  | str (s : Str) : Redacts (.str s) (.str s)
  | items {items shown : List Json} : RedactsItems items shown → Redacts (.arr items) (.arr shown)
  | fields {fields shown : Fields} : RedactsFields fields shown → Redacts (.obj fields) (.obj shown)

inductive RedactsItems : List Json → List Json → Prop
  | nil : RedactsItems [] []
  | cons {stored draft : Json} {items shown : List Json} :
    Redacts stored draft → RedactsItems items shown → RedactsItems (stored :: items) (draft :: shown)

inductive RedactsFields : Fields → Fields → Prop
  | nil : RedactsFields [] []
  | cons {key : Str} {stored draft : Json} {fields shown : Fields} :
    Redacts stored draft → RedactsFields fields shown →
    RedactsFields ((key, stored) :: fields) ((key, draft) :: shown)

end

mutual

theorem redacts_value (search : Str → Str → Option Bool) : (value : Json) → (schemas : List Fields) →
    (fieldName : Option Str) → Redacts value (redactSensitiveValue search value schemas fieldName)
  | .obj fields, schemas, fieldName => by
    rw [redactSensitiveValue]
    split
    · exact .marker _
    · exact .fields (redacts_fields search fields schemas)
  | .arr items, schemas, fieldName => by
    rw [redactSensitiveValue]
    split
    · exact .marker _
    · exact .items (redacts_items search items _ fieldName)
  | .null, schemas, fieldName => by
    rw [redact_cases]
    split
    · exact .marker _
    · exact .null
  | .bool b, schemas, fieldName => by
    rw [redact_cases]
    split
    · exact .marker _
    · exact .bool b
  | .int n, schemas, fieldName => by
    rw [redact_cases]
    split
    · exact .marker _
    · exact .int n
  | .float f, schemas, fieldName => by
    rw [redact_cases]
    split
    · exact .marker _
    · exact .float f
  | .str s, schemas, fieldName => by
    rw [redact_cases]
    split
    · exact .marker _
    · exact .str s

theorem redacts_fields (search : Str → Str → Option Bool) : (fields : Fields) →
    (schemas : List Fields) → RedactsFields fields (redactFields search fields schemas)
  | [], _ => .nil
  | (_, value) :: fields, schemas =>
    .cons (redacts_value search value _ _) (redacts_fields search fields schemas)

theorem redacts_items (search : Str → Str → Option Bool) : (items : List Json) →
    (schemas : List Fields) → (fieldName : Option Str) →
    RedactsItems items (redactItems search items schemas fieldName)
  | [], _, _ => .nil
  | value :: items, schemas, fieldName =>
    .cons (redacts_value search value _ _) (redacts_items search items schemas fieldName)

end

theorem RedactsItems.get {items shown : List Json} (h : RedactsItems items shown) {index : Nat}
    {draft : Json} (hdraft : shown[index]? = some draft) :
    ∃ stored, items[index]? = some stored ∧ Redacts stored draft := by
  induction index generalizing items shown with
  | zero =>
    cases h with
    | nil => cases hdraft
    | cons hfirst hrest =>
      cases hdraft
      exact ⟨_, rfl, hfirst⟩
  | succ index ih =>
    cases h with
    | nil => cases hdraft
    | cons hfirst hrest => exact ih hrest hdraft

theorem markerAtPath_str {s : Str} {p : Path} :
    MarkerAtPath (.str s) p ↔ s = pluginRedactionMarker ∧ p = [] := by
  constructor
  · intro h
    cases h
    exact ⟨rfl, rfl⟩
  · rintro ⟨rfl, rfl⟩
    exact .here

theorem markerAtPath_arr {items : List Json} {p : Path} :
    MarkerAtPath (.arr items) p ↔
      ∃ index value q, p = .item index :: q ∧ items[index]? = some value ∧ MarkerAtPath value q := by
  constructor
  · intro h
    cases h with
    | item hitem hvalue => exact ⟨_, _, _, rfl, hitem, hvalue⟩
  · rintro ⟨index, value, q, rfl, hitem, hvalue⟩
    exact .item hitem hvalue

theorem markerAtPath_obj {fields : Fields} {p : Path} :
    MarkerAtPath (.obj fields) p ↔
      ∃ key value q, p = .field key :: q ∧ (key, value) ∈ fields ∧ MarkerAtPath value q := by
  constructor
  · intro h
    cases h with
    | field hfield hvalue => exact ⟨_, _, _, rfl, hfield, hvalue⟩
  · rintro ⟨key, value, q, rfl, hfield, hvalue⟩
    exact .field hfield hvalue

/-- The value of the source at a position. -/
def sourceAt (source : Option Json) (p : Path) : Option Json := source.bind fun value => valueAt value p

theorem sourceAt_field (source : Option Json) (key : Str) (p : Path) :
    sourceAt source (.field key :: p) = sourceAt (Json.get (sourceFields source) key) p := by
  match source with
  | none => rfl
  | some (.obj fields) => rfl
  | some .null | some (.bool _) | some (.int _) | some (.float _) | some (.str _) | some (.arr _) => rfl

theorem sourceAt_item (source : Option Json) (index : Nat) (p : Path) :
    sourceAt source (.item index :: p) = sourceAt (sourceItems source)[index]? p := by
  match source with
  | none => rfl
  | some (.arr items) => rfl
  | some .null | some (.bool _) | some (.int _) | some (.float _) | some (.str _) | some (.obj _) => rfl

mutual

/-- Restoring is refused for a marker at a position where the source has no value. -/
theorem restore_error : (value : Json) → ∀ {source : Option Json},
    (∃ e, restoreSecretPlaceholders value source = .error e) ↔
      ∃ p, MarkerAtPath value p ∧ sourceAt source p = none
  | .null, _ | .bool _, _ | .int _, _ | .float _, _ => by
    constructor
    · rintro ⟨e, h⟩
      simp [restoreSecretPlaceholders] at h
    · rintro ⟨p, h, -⟩
      cases h
  | .str s, source => by
    by_cases hs : s = pluginRedactionMarker
    · subst hs
      cases source with
      | none => exact ⟨fun _ => ⟨[], .here, rfl⟩, fun _ => ⟨_, by rw [restoreSecretPlaceholders]; rfl⟩⟩
      | some value => simp [restore_marker, markerAtPath_str, sourceAt]
    · simp [restore_text hs, markerAtPath_str, hs]
  | .arr items, source => by
    rw [restoreSecretPlaceholders, map_error, restoreItems_error items]
    constructor
    · rintro ⟨index, value, p, hitem, hmarker, hnone⟩
      exact ⟨_, .item hitem hmarker, by rwa [sourceAt_item]⟩
    · rintro ⟨p, hmarker, hnone⟩
      obtain ⟨index, value, q, rfl, hitem, hvalue⟩ := markerAtPath_arr.1 hmarker
      exact ⟨index, value, q, hitem, hvalue, by rwa [sourceAt_item] at hnone⟩
  | .obj fields, source => by
    rw [restoreSecretPlaceholders, map_error, restoreFields_error fields]
    constructor
    · rintro ⟨key, value, p, hfield, hmarker, hnone⟩
      exact ⟨_, .field hfield hmarker, by rwa [sourceAt_field]⟩
    · rintro ⟨p, hmarker, hnone⟩
      obtain ⟨key, value, q, rfl, hfield, hvalue⟩ := markerAtPath_obj.1 hmarker
      exact ⟨key, value, q, hfield, hvalue, by rwa [sourceAt_field] at hnone⟩

theorem restoreItems_error : (items : List Json) → ∀ {source : List Json},
    (∃ e, restoreItems items source = .error e) ↔ ∃ (index : Nat) (value : Json) (p : Path),
      items[index]? = some value ∧ MarkerAtPath value p ∧ sourceAt source[index]? p = none
  | [], _ => by simp [restoreItems]
  | first :: items, source => by
    have hfirst := @restore_error first source.head?
    have hrest := @restoreItems_error items source.tail
    rw [restoreItems, bind_error]
    constructor
    · rintro (herror | ⟨value, -, herror⟩)
      · obtain ⟨p, hmarker, hnone⟩ := hfirst.1 herror
        exact ⟨0, first, p, rfl, hmarker, by rwa [← List.head?_eq_getElem?]⟩
      · rcases bind_error.1 herror with herror | ⟨_, _, _, hpure⟩
        · obtain ⟨index, value, p, hitem, hmarker, hnone⟩ := hrest.1 herror
          exact ⟨index + 1, value, p, hitem, hmarker, by rwa [List.getElem?_tail] at hnone⟩
        · cases hpure
    · rintro ⟨index, value, p, hitem, hmarker, hnone⟩
      cases index with
      | zero =>
        cases hitem
        exact .inl (hfirst.2 ⟨p, hmarker, by rwa [List.head?_eq_getElem?]⟩)
      | succ index =>
        have herror := hrest.2 ⟨index, value, p, hitem, hmarker, by rwa [List.getElem?_tail]⟩
        cases hhead : restoreSecretPlaceholders first source.head? with
        | error e => exact .inl ⟨e, rfl⟩
        | ok restored => exact .inr ⟨restored, rfl, bind_error.2 (.inl herror)⟩

theorem restoreFields_error : (fields : Fields) → ∀ {source : Fields},
    (∃ e, restoreFields fields source = .error e) ↔ ∃ key value p,
      (key, value) ∈ fields ∧ MarkerAtPath value p ∧ sourceAt (Json.get source key) p = none
  | [], _ => by simp [restoreFields]
  | (name, first) :: fields, source => by
    have hfirst := @restore_error first (Json.get source name)
    have hrest := @restoreFields_error fields source
    rw [restoreFields, bind_error]
    constructor
    · rintro (herror | ⟨value, -, herror⟩)
      · obtain ⟨p, hmarker, hnone⟩ := hfirst.1 herror
        exact ⟨name, first, p, List.mem_cons_self .., hmarker, hnone⟩
      · rcases bind_error.1 herror with herror | ⟨_, _, _, hpure⟩
        · obtain ⟨key, value, p, hfield, hmarker, hnone⟩ := hrest.1 herror
          exact ⟨key, value, p, List.mem_cons_of_mem _ hfield, hmarker, hnone⟩
        · cases hpure
    · rintro ⟨key, value, p, hfield, hmarker, hnone⟩
      rcases List.mem_cons.1 hfield with heq | hfield
      · cases heq
        exact .inl (hfirst.2 ⟨p, hmarker, hnone⟩)
      · have herror := hrest.2 ⟨key, value, p, hfield, hmarker, hnone⟩
        cases hhead : restoreSecretPlaceholders first (Json.get source name) with
        | error e => exact .inl ⟨e, rfl⟩
        | ok restored => exact .inr ⟨restored, rfl, bind_error.2 (.inl herror)⟩

end

mutual

/-- A value of the draft becomes the stored one again exactly when the source has, wherever
a marker stands, the stored value. -/
theorem restored_iff : (stored : Json) → ∀ {draft restored : Json} {source : Option Json},
    Distinct stored → Redacts stored draft → restoreSecretPlaceholders draft source = .ok restored →
    (restored = stored ↔ ∀ p, MarkerAtPath draft p → sourceAt source p = valueAt stored p)
  | stored, draft, restored, source, hdistinct, hredacts, hrestored => by
    by_cases hmarked : draft = .str pluginRedactionMarker
    · subst hmarked
      cases source with
      | none =>
        rw [restoreSecretPlaceholders] at hrestored
        cases hrestored
      | some value =>
        rw [restore_marker] at hrestored
        cases hrestored
        simp [markerAtPath_str, sourceAt]
    · cases hredacts with
      | marker => exact absurd rfl hmarked
      | null | bool | int | float =>
        simp only [restoreSecretPlaceholders, Except.ok.injEq] at hrestored
        subst hrestored
        exact ⟨fun _ _ h => (nomatch h), fun _ => rfl⟩
      | str s =>
        have hs : s ≠ pluginRedactionMarker := fun h => hmarked (congrArg Json.str h)
        rw [restore_text hs] at hrestored
        cases hrestored
        exact ⟨fun _ _ h => absurd (markerAtPath_str.1 h).1 hs, fun _ => rfl⟩
      | items hitems =>
        rename_i items shown
        rw [restoreSecretPlaceholders] at hrestored
        obtain ⟨list, hlist, rfl⟩ := map_ok.1 hrestored
        rw [Json.arr.injEq, restoredItems_iff items hdistinct hitems hlist]
        constructor
        · intro h p hmarker
          obtain ⟨index, value, q, rfl, hitem, hvalue⟩ := markerAtPath_arr.1 hmarker
          rw [sourceAt_item, valueAt_item]
          exact h index value q hitem hvalue
        · intro h index value q hitem hvalue
          have hpath := h _ (.item hitem hvalue)
          rwa [sourceAt_item, valueAt_item] at hpath
      | fields hfields =>
        rename_i fields shown
        rw [restoreSecretPlaceholders] at hrestored
        obtain ⟨list, hlist, rfl⟩ := map_ok.1 hrestored
        rw [Json.obj.injEq, restoredFields_iff fields fields
          (fun key value h => get_of_mem hdistinct.1 h) hdistinct.2 hfields hlist]
        constructor
        · intro h p hmarker
          obtain ⟨key, value, q, rfl, hfield, hvalue⟩ := markerAtPath_obj.1 hmarker
          rw [sourceAt_field, valueAt_field]
          exact h key value q hfield hvalue
        · intro h key value q hfield hvalue
          have hpath := h _ (.field hfield hvalue)
          rwa [sourceAt_field, valueAt_field] at hpath

theorem restoredItems_iff : (items : List Json) → ∀ {shown restored source : List Json},
    DistinctItems items → RedactsItems items shown → restoreItems shown source = .ok restored →
    (restored = items ↔ ∀ (index : Nat) (value : Json) (p : Path), shown[index]? = some value →
      MarkerAtPath value p → sourceAt source[index]? p = sourceAt items[index]? p)
  | [], shown, restored, source, _, hredacts, hrestored => by
    cases hredacts
    cases hrestored
    simp
  | stored :: items, shown, restored, source, hdistinct, hredacts, hrestored => by
    cases hredacts with
    | cons hfirst hrest =>
      obtain ⟨value, hvalue, hrestored⟩ := bind_ok.1 hrestored
      obtain ⟨list, hlist, hrestored⟩ := bind_ok.1 hrestored
      cases hrestored
      rw [List.cons.injEq, restored_iff stored hdistinct.1 hfirst hvalue,
        restoredItems_iff items hdistinct.2 hrest hlist]
      constructor
      · rintro ⟨hhead, htail⟩ index draft p hdraft hmarker
        cases index with
        | zero =>
          cases hdraft
          rw [← List.head?_eq_getElem?]
          exact hhead p hmarker
        | succ index =>
          have hat := htail index draft p hdraft hmarker
          rwa [List.getElem?_tail] at hat
      · intro h
        refine ⟨fun p hmarker => ?_, fun index draft p hdraft hmarker => ?_⟩
        · have hat := h 0 _ p rfl hmarker
          rwa [← List.head?_eq_getElem?] at hat
        · rw [List.getElem?_tail]
          exact h (index + 1) draft p hdraft hmarker

theorem restoredFields_iff : (fields whole : Fields) → ∀ {shown restored source : Fields},
    (∀ key value, (key, value) ∈ fields → Json.get whole key = some value) → DistinctFields fields →
    RedactsFields fields shown → restoreFields shown source = .ok restored →
    (restored = fields ↔ ∀ (key : Str) (value : Json) (p : Path), (key, value) ∈ shown →
      MarkerAtPath value p → sourceAt (Json.get source key) p = sourceAt (Json.get whole key) p)
  | [], whole, shown, restored, source, _, _, hredacts, hrestored => by
    cases hredacts
    cases hrestored
    simp
  | (name, stored) :: fields, whole, shown, restored, source, hwhole, hdistinct, hredacts,
      hrestored => by
    cases hredacts with
    | cons hfirst hrest =>
      obtain ⟨value, hvalue, hrestored⟩ := bind_ok.1 hrestored
      obtain ⟨list, hlist, hrestored⟩ := bind_ok.1 hrestored
      cases hrestored
      have hname := hwhole name stored (List.mem_cons_self ..)
      rw [List.cons.injEq, Prod.mk.injEq, and_iff_right rfl,
        restored_iff stored hdistinct.1 hfirst hvalue,
        restoredFields_iff fields whole (fun k v h => hwhole k v (List.mem_cons_of_mem _ h))
          hdistinct.2 hrest hlist]
      constructor
      · rintro ⟨hhead, htail⟩ key draft p hdraft hmarker
        rcases List.mem_cons.1 hdraft with heq | hdraft
        · cases heq
          rw [hname]
          exact hhead p hmarker
        · exact htail key draft p hdraft hmarker
      · intro h
        refine ⟨fun p hmarker => ?_, fun key draft p hdraft hmarker => ?_⟩
        · have hat := h name _ p (List.mem_cons_self ..) hmarker
          rwa [hname] at hat
        · exact h key draft p (List.mem_cons_of_mem _ hdraft) hmarker

end

theorem mapM_cons_some {α β : Type} {f : α → Option β} {a : α} {as : List α} {bs : List β} :
    (a :: as).mapM f = some bs ↔ ∃ b rest, f a = some b ∧ as.mapM f = some rest ∧ b :: rest = bs := by
  simp [List.mapM_cons, Option.bind_eq_some_iff]

/-- The fields of an object, each with an edit of its own. -/
theorem ownedFields_iff {edit : Str → Edit}
    (hedit : ∀ key {stored draft edited restored : Json} {source : Option Json}, Distinct stored →
      Redacts stored draft → (edit key).apply draft = some edited →
      restoreSecretPlaceholders edited source = .ok restored →
      ((edit key).Owned stored restored ↔
        ∀ p q, (edit key).Moves draft p q → sourceAt source p = valueAt stored q))
    (fields whole : Fields) {shown edited restored source : Fields}
    (hwhole : ∀ key value, (key, value) ∈ fields → Json.get whole key = some value)
    (hdistinct : DistinctFields fields) (hredacts : RedactsFields fields shown)
    (happly : (shown.mapM fun f => ((edit f.1).apply f.2).map fun value => (f.1, value)) = some edited)
    (hrestored : restoreFields edited source = .ok restored) :
    List.Forall₂ (fun f g => f.1 = g.1 ∧ (edit f.1).Owned f.2 g.2) fields restored ↔
      ∀ key value p q, (key, value) ∈ shown → (edit key).Moves value p q →
        sourceAt (Json.get source key) p = sourceAt (Json.get whole key) q := by
  induction fields generalizing shown edited restored with
  | nil =>
    cases hredacts
    cases happly
    cases hrestored
    simp
  | cons f fields ih =>
    obtain ⟨name, stored⟩ := f
    cases hredacts with
    | cons hfirst hrest =>
      rename_i draft shown
      obtain ⟨change, changes, hchange, hchanges, rfl⟩ := mapM_cons_some.1 happly
      obtain ⟨changed, hchanged, rfl⟩ := Option.map_eq_some_iff.1 hchange
      obtain ⟨value, hvalue, hrestored⟩ := bind_ok.1 hrestored
      obtain ⟨list, hlist, hrestored⟩ := bind_ok.1 hrestored
      cases hrestored
      have hname := hwhole name stored (List.mem_cons_self ..)
      rw [List.forall₂_cons, hedit name hdistinct.1 hfirst hchanged hvalue,
        ih (fun k v h => hwhole k v (List.mem_cons_of_mem _ h)) hdistinct.2 hrest hchanges hlist]
      constructor
      · rintro ⟨⟨-, hhead⟩, htail⟩ key item p q hitem hmoves
        rcases List.mem_cons.1 hitem with heq | hitem
        · cases heq
          rw [hname]
          exact hhead p q hmoves
        · exact htail key item p q hitem hmoves
      · intro h
        refine ⟨⟨rfl, fun p q hmoves => ?_⟩, fun key item p q hitem hmoves => ?_⟩
        · have hat := h name _ p q (List.mem_cons_self ..) hmoves
          rwa [hname] at hat
        · exact h key item p q (List.mem_cons_of_mem _ hitem) hmoves

mutual

/-- After an edit every element that is left has its own secrets exactly when, for every
marker in it, the source has at the new position what was stored at the old one. -/
theorem owned_iff : (edit : Edit) → ∀ {stored draft edited restored : Json} {source : Option Json},
    Distinct stored → Redacts stored draft → edit.apply draft = some edited →
    restoreSecretPlaceholders edited source = .ok restored →
    (edit.Owned stored restored ↔ ∀ p q, edit.Moves draft p q → sourceAt source p = valueAt stored q)
  | .keep, stored, draft, edited, restored, source, hdistinct, hredacts, happly, hrestored => by
    cases happly
    rw [Edit.Owned, restored_iff stored hdistinct hredacts hrestored]
    constructor
    · rintro h p q ⟨hmarker, rfl⟩
      exact h p hmarker
    · intro h p hmarker
      exact h p p ⟨hmarker, rfl⟩
  | .fields edit, stored, draft, edited, restored, source, hdistinct, hredacts, happly, hrestored => by
    match hredacts, happly with
    | .fields hfields, happly =>
      rename_i fields shown
      obtain ⟨changes, hchanges, rfl⟩ := Option.map_eq_some_iff.1 happly
      rw [restoreSecretPlaceholders] at hrestored
      obtain ⟨list, hlist, rfl⟩ := map_ok.1 hrestored
      rw [Edit.Owned, ownedFields_iff (fun key => owned_iff (edit key)) fields fields
        (fun key value h => get_of_mem hdistinct.1 h) hdistinct.2 hfields hchanges hlist]
      constructor
      · intro h p q hmoves
        match p, q, hmoves with
        | .field key :: p, .field name :: q, ⟨hname, value, hvalue, hmoves⟩ =>
          subst hname
          rw [sourceAt_field, valueAt_field]
          exact h key value p q hvalue hmoves
      · intro h key value p q hvalue hmoves
        have hat := h (.field key :: p) (.field key :: q) ⟨rfl, value, hvalue, hmoves⟩
        rwa [sourceAt_field, valueAt_field] at hat
  | .items elements, stored, draft, edited, restored, source, hdistinct, hredacts, happly,
      hrestored => by
    match hredacts, happly with
    | .items hitems, happly =>
      rename_i items shown
      obtain ⟨changes, hchanges, rfl⟩ := Option.map_eq_some_iff.1 happly
      rw [restoreSecretPlaceholders] at hrestored
      obtain ⟨list, hlist, rfl⟩ := map_ok.1 hrestored
      rw [Edit.Owned, ownedItems_iff elements hdistinct hitems hchanges hlist]
      constructor
      · intro h p q hmoves
        match p, q, hmoves with
        | .item index :: p, .item origin :: q, hmoves =>
          rw [sourceAt_item, valueAt_item]
          exact h index origin p q hmoves
      · intro h index origin p q hmoves
        have hat := h (.item index :: p) (.item origin :: q) hmoves
        rwa [sourceAt_item, valueAt_item] at hat

theorem ownedItems_iff : (elements : Elements) →
    ∀ {items shown edited restored source : List Json}, DistinctItems items →
    RedactsItems items shown → elements.apply shown = some edited →
    restoreItems edited source = .ok restored →
    (elements.Owned items restored ↔ ∀ index origin p q, elements.Moves shown index origin p q →
      sourceAt source[index]? p = sourceAt items[origin]? q)
  | .nil, items, shown, edited, restored, source, _, _, happly, hrestored => by
    cases happly
    cases hrestored
    simp [Elements.Owned, Elements.Moves]
  | .kept origin edit rest, items, shown, edited, restored, source, hdistinct, hredacts, happly,
      hrestored => by
    obtain ⟨draft, hdraft, happly⟩ := Option.bind_eq_some_iff.1 happly
    obtain ⟨changed, hchanged, happly⟩ := Option.bind_eq_some_iff.1 happly
    obtain ⟨changes, hchanges, happly⟩ := Option.bind_eq_some_iff.1 happly
    cases happly
    obtain ⟨value, hvalue, hrestored⟩ := bind_ok.1 hrestored
    obtain ⟨list, hlist, hrestored⟩ := bind_ok.1 hrestored
    cases hrestored
    obtain ⟨stored, hstored, hown⟩ := hredacts.get hdraft
    have hhead := owned_iff edit (hdistinct.mem (List.mem_of_getElem? hstored)) hown hchanged hvalue
    rw [Elements.Owned, ownedItems_iff rest hdistinct hredacts hchanges hlist]
    constructor
    · rintro ⟨⟨item, hitem, howned⟩, htail⟩ index i p q hmoves
      obtain rfl : stored = item := Option.some.inj (hstored.symm.trans hitem)
      cases index with
      | zero =>
        obtain ⟨rfl, item, hitem, hmoves⟩ := hmoves
        obtain rfl : draft = item := Option.some.inj (hdraft.symm.trans hitem)
        rw [← List.head?_eq_getElem?, hstored]
        exact hhead.1 howned p q hmoves
      | succ index =>
        rw [← List.getElem?_tail]
        exact htail index i p q hmoves
    · intro h
      refine ⟨⟨stored, hstored, hhead.2 fun p q hmoves => ?_⟩, fun index i p q hmoves => ?_⟩
      · have hat := h 0 origin p q ⟨rfl, draft, hdraft, hmoves⟩
        rwa [← List.head?_eq_getElem?, hstored] at hat
      · rw [List.getElem?_tail]
        exact h (index + 1) i p q hmoves
  | .inserted new rest, items, shown, edited, restored, source, hdistinct, hredacts, happly,
      hrestored => by
    obtain ⟨changes, hchanges, happly⟩ := Option.bind_eq_some_iff.1 happly
    cases happly
    obtain ⟨value, hvalue, hrestored⟩ := bind_ok.1 hrestored
    obtain ⟨list, hlist, hrestored⟩ := bind_ok.1 hrestored
    cases hrestored
    rw [Elements.Owned, ownedItems_iff rest hdistinct hredacts hchanges hlist]
    constructor
    · intro h index i p q hmoves
      cases index with
      | zero => exact hmoves.elim
      | succ index =>
        rw [← List.getElem?_tail]
        exact h index i p q hmoves
    · intro h index i p q hmoves
      rw [List.getElem?_tail]
      exact h (index + 1) i p q hmoves

end

theorem aligned_fields {edit : Str → Edit}
    (hedit : ∀ key {stored draft edited : Json}, Redacts stored draft →
      (edit key).apply draft = some edited → Aligned stored edited)
    {fields shown edited : Fields} (hredacts : RedactsFields fields shown)
    (happly : (shown.mapM fun f => ((edit f.1).apply f.2).map fun value => (f.1, value)) = some edited) :
    AlignedFields fields edited := by
  induction fields generalizing shown edited with
  | nil =>
    cases hredacts
    cases happly
    trivial
  | cons f fields ih =>
    cases hredacts with
    | cons hfirst hrest =>
      obtain ⟨change, changes, hchange, hchanges, rfl⟩ := mapM_cons_some.1 happly
      obtain ⟨changed, hchanged, rfl⟩ := Option.map_eq_some_iff.1 hchange
      exact ⟨rfl, hedit _ hfirst hchanged, ih hrest hchanges⟩

mutual

theorem aligned_redacted : (stored : Json) → ∀ {draft : Json}, Redacts stored draft →
    Aligned stored draft
  | .obj fields, draft, h => by
    cases h with
    | marker => trivial
    | fields hfields => exact aligned_redactedFields fields hfields
  | .null, _, _ | .bool _, _, _ | .int _, _, _ | .float _, _, _ | .str _, _, _ | .arr _, _, _ => by
    simp [Aligned]

theorem aligned_redactedFields : (fields : Fields) → ∀ {shown : Fields}, RedactsFields fields shown →
    AlignedFields fields shown
  | [], _, h => by
    cases h
    trivial
  | (_, stored) :: fields, _, h => by
    cases h with
    | cons hfirst hrest => exact ⟨rfl, aligned_redacted stored hfirst, aligned_redactedFields fields hrest⟩

end

/-- An edit of lists leaves the keys of the objects around them. -/
theorem aligned_apply : (edit : Edit) → ∀ {stored draft edited : Json}, Redacts stored draft →
    edit.apply draft = some edited → Aligned stored edited
  | .keep, stored, draft, edited, hredacts, happly => by
    cases happly
    exact aligned_redacted stored hredacts
  | .fields edit, stored, draft, edited, hredacts, happly => by
    match hredacts, happly with
    | .fields hfields, happly =>
      obtain ⟨changes, hchanges, rfl⟩ := Option.map_eq_some_iff.1 happly
      exact aligned_fields (fun key => aligned_apply (edit key)) hfields hchanges
  | .items elements, stored, draft, edited, hredacts, happly => by
    match hredacts, happly with
    | .items hitems, happly =>
      obtain ⟨changes, hchanges, rfl⟩ := Option.map_eq_some_iff.1 happly
      simp [Aligned]

/-- Saving a draft with edited lists is refused, or every element that is left has its own
secrets, exactly when some marker stands at a position where nothing is stored, or every
marker of an element that is left stands where the value of its old position is stored. -/
theorem secrets_stay (search : Str → Str → Option Bool) (stored schema draft edited : Fields)
    (edit : Edit) (hdistinct : Distinct (.obj stored))
    (hdraft : redactSensitiveConfig search (.obj stored) schema = .ok draft)
    (hedit : edit.apply (.obj draft) = some (.obj edited)) :
    (∀ saved, revisionConfig (some edited) (some (.obj stored)) = .ok saved →
      edit.Owned (.obj stored) saved) ↔
    (∃ p, MarkerAtPath (.obj edited) p ∧ valueAt (.obj stored) p = none) ∨
      ∀ p q, edit.Moves (.obj draft) p q → valueAt (.obj stored) p = valueAt (.obj stored) q := by
  have hredacts : Redacts (.obj stored) (.obj draft) := by
    rw [← redactConfig_ok search hdraft]
    exact redacts_value search _ _ _
  have hmerge := merge_aligned _ hdistinct (aligned_apply edit hredacts hedit)
  have herror := @restore_error (.obj edited) (some (.obj stored))
  rw [revisionConfig, hmerge]
  cases hrestore : restoreSecretPlaceholders (.obj edited) (some (.obj stored)) with
  | error e => exact ⟨fun _ => .inl (herror.1 ⟨e, hrestore⟩), fun _ _ h => by cases h⟩
  | ok saved =>
    have howned := owned_iff edit hdistinct hredacts hedit hrestore
    constructor
    · exact fun h => .inr (howned.1 (h saved rfl))
    · rintro (hmissing | hpaired) _ ⟨⟩
      · obtain ⟨e, he⟩ := herror.2 hmissing
        rw [hrestore] at he
        cases he
      · exact howned.2 hpaired

/-- Two services, each with a token. -/
def services : Fields :=
  [(py "services", .arr [.obj [(py "name", .str (py "a")), (py "token", .str (py "secret of a"))],
    .obj [(py "name", .str (py "b")), (py "token", .str (py "secret of b"))]])]

def servicesDraft : Fields :=
  [(py "services", .arr [.obj [(py "name", .str (py "a")), (py "token", .str pluginRedactionMarker)],
    .obj [(py "name", .str (py "b")), (py "token", .str pluginRedactionMarker)]])]

/-- Deletes the first service. -/
def deleteFirst : Edit := .fields fun _ => .items (.kept 1 .keep .nil)

/-- Deletes the second service. -/
def deleteSecond : Edit := .fields fun _ => .items (.kept 0 .keep .nil)

theorem services_distinct : Distinct (.obj services) := by
  simp [services, Distinct, DistinctFields, DistinctItems, py]

theorem services_drafted :
    redactSensitiveConfig (fun _ _ => none) (.obj services) [] = .ok servicesDraft := by
  rfl

theorem secrets_stay_second :
    let saved : Json := .obj [(py "services",
      .arr [.obj [(py "name", .str (py "a")), (py "token", .str (py "secret of a"))]])]
    revisionConfig (some [(py "services",
        .arr [.obj [(py "name", .str (py "a")), (py "token", .str pluginRedactionMarker)]])])
      (some (.obj services)) = .ok saved ∧ deleteSecond.Owned (.obj services) saved := by
  intro saved
  have hunmoved : ∀ p q, deleteSecond.Moves (.obj servicesDraft) p q →
      valueAt (.obj services) p = valueAt (.obj services) q := by
    intro p q hmoves
    match p, q, hmoves with
    | .field key :: p, .field name :: q, ⟨hkey, value, hvalue, hmoves⟩ =>
      subst hkey
      simp only [servicesDraft, List.mem_singleton, Prod.mk.injEq] at hvalue
      obtain ⟨rfl, rfl⟩ := hvalue
      match p, q, hmoves with
      | .item index :: p, .item origin :: q, hmoves =>
        cases index with
        | zero =>
          obtain ⟨rfl, item, -, -, rfl⟩ := hmoves
          rfl
        | succ index => exact hmoves.elim
  refine ⟨rfl, ?_⟩
  exact (secrets_stay (fun _ _ => none) services [] servicesDraft _ deleteSecond services_distinct
    services_drafted rfl).2 (.inr hunmoved) saved rfl

/-- The second service is saved with the token of the first one. -/
theorem deleted_element_shifts :
    redactSensitiveConfig (fun _ _ => none) (.obj services) [] = .ok servicesDraft ∧
    deleteFirst.apply (.obj servicesDraft) = some (.obj [(py "services",
      .arr [.obj [(py "name", .str (py "b")), (py "token", .str pluginRedactionMarker)]])]) ∧
    revisionConfig (some [(py "services",
        .arr [.obj [(py "name", .str (py "b")), (py "token", .str pluginRedactionMarker)]])])
      (some (.obj services)) = .ok (.obj [(py "services",
        .arr [.obj [(py "name", .str (py "b")), (py "token", .str (py "secret of a"))]])]) ∧
    ¬ deleteFirst.Owned (.obj services) (.obj [(py "services",
        .arr [.obj [(py "name", .str (py "b")), (py "token", .str (py "secret of a"))]])]) := by
  refine ⟨rfl, rfl, rfl, ?_⟩
  simp [deleteFirst, services, Edit.Owned, Elements.Owned, py]

end WechatBot.ListEdits
