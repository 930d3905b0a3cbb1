import WechatBot.PyData

/-!
# Positions in a JSON document

A position is the list of keys and indices on the way down from the root. `Distinct`
documents are those that dictionaries can hold: no object has a key twice.
-/
namespace WechatBot.JsonPaths

open PyData

inductive Step where
  | field (key : Str)
  | item (index : Nat)
  deriving DecidableEq, Repr

abbrev Path := List Step

def child : Json → Step → Option Json
  | .obj fields, .field key => Json.get fields key
  | .arr items, .item index => items[index]?
  | _, _ => none

def valueAt : Json → Path → Option Json
  | v, [] => some v
  | v, s :: p => (child v s).bind fun w => valueAt w p

@[simp] theorem valueAt_nil (v : Json) : valueAt v [] = some v := rfl

@[simp] theorem valueAt_field (fields : List (Str × Json)) (key : Str) (p : Path) :
    valueAt (.obj fields) (.field key :: p) = (Json.get fields key).bind fun w => valueAt w p := rfl

@[simp] theorem valueAt_item (items : List Json) (index : Nat) (p : Path) :
    valueAt (.arr items) (.item index :: p) = (items[index]?).bind fun w => valueAt w p := rfl

theorem mem_of_get {fields : List (Str × Json)} {key : Str} {value : Json}
    (h : Json.get fields key = some value) : (key, value) ∈ fields := by
  obtain ⟨⟨name, other⟩, hfind, rfl⟩ := Option.map_eq_some_iff.1 h
  obtain rfl : name = key := by simpa using List.find?_some hfind
  exact List.mem_of_find?_eq_some hfind

@[simp] theorem get_cons (key name : Str) (value : Json) (fields : List (Str × Json)) :
    Json.get ((key, value) :: fields) name = if key = name then some value else Json.get fields name := by
  by_cases h : key = name <;> simp [Json.get, h]

theorem get_of_mem {fields : List (Str × Json)} (hkeys : (fields.map Prod.fst).Nodup) {key : Str}
    {value : Json} (h : (key, value) ∈ fields) : Json.get fields key = some value := by
  induction fields with
  | nil => cases h
  | cons f fields ih =>
    rw [get_cons]
    rw [List.map_cons, List.nodup_cons] at hkeys
    rcases List.mem_cons.1 h with rfl | h
    · simp
    · have hne : f.1 ≠ key := fun heq => hkeys.1 (heq ▸ List.mem_map_of_mem h)
      rw [if_neg hne]
      exact ih hkeys.2 h

mutual

/-- No object at any depth has a key twice. -/
def Distinct : Json → Prop
  | .arr items => DistinctItems items
  | .obj fields => (fields.map Prod.fst).Nodup ∧ DistinctFields fields
  | _ => True

def DistinctItems : List Json → Prop
  | [] => True
  | value :: items => Distinct value ∧ DistinctItems items

def DistinctFields : List (Str × Json) → Prop
  | [] => True
  | (_, value) :: fields => Distinct value ∧ DistinctFields fields

end

theorem DistinctItems.mem {items : List Json} (h : DistinctItems items) {value : Json}
    (hvalue : value ∈ items) : Distinct value := by
  induction items with
  | nil => cases hvalue
  | cons first items ih =>
    rcases List.mem_cons.1 hvalue with rfl | hvalue
    · exact h.1
    · exact ih h.2 hvalue

theorem DistinctFields.mem {fields : List (Str × Json)} (h : DistinctFields fields) {f : Str × Json}
    (hf : f ∈ fields) : Distinct f.2 := by
  induction fields with
  | nil => cases hf
  | cons first fields ih =>
    rcases List.mem_cons.1 hf with rfl | hf
    · exact h.1
    · exact ih h.2 hf

end WechatBot.JsonPaths
