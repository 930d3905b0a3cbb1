import WechatBot.Tables

/-!
# Dictionaries

A dictionary is a table of pairs whose primary key is the first component. Setting a key
that is there keeps its place, setting another one appends it.
-/
namespace WechatBot.Dictionaries

open Tables (Table)

abbrev Dict (κ α : Type) [DecidableEq κ] := Table (Prod.fst : κ × α → κ)

namespace Dict

variable {κ α : Type} [DecidableEq κ]

def empty : Dict κ α := Table.empty _

def get (d : Dict κ α) (k : κ) : Option α := (d.find k).map Prod.snd

def set (d : Dict κ α) (k : κ) (a : α) : Dict κ α := (d.insert (k, a)).getD (d.save (k, a))

def pop (d : Dict κ α) (k : κ) : Dict κ α where
  rows := d.rows.filter fun e => decide (e.1 ≠ k)
  nodup := d.nodup.sublist (List.filter_sublist.map _)

def keys (d : Dict κ α) : List κ := d.rows.map Prod.fst

def values (d : Dict κ α) : List α := d.rows.map Prod.snd

@[simp] theorem get_empty (k : κ) : (empty : Dict κ α).get k = none := rfl

theorem find_set (d : Dict κ α) (k : κ) (a : α) (k' : κ) :
    (d.set k a).find k' = if k' = k then some (k, a) else d.find k' := by
  unfold set
  cases hinsert : d.insert (k, a) with
  | some t => exact Table.find_insert hinsert k'
  | none =>
    have hfound : ∃ r, d.find k = some r := by
      cases hfind : d.find k with
      | some r => exact ⟨r, rfl⟩
      | none =>
        obtain ⟨t, ht⟩ := Table.insert_isSome (a := (k, a)) hfind
        rw [ht] at hinsert
        cases hinsert
    obtain ⟨r, hr⟩ := hfound
    exact Table.find_save_of (a := (k, a)) hr k'

theorem get_set (d : Dict κ α) (k : κ) (a : α) (k' : κ) :
    (d.set k a).get k' = if k' = k then some a else d.get k' := by
  unfold get
  rw [find_set]
  split <;> rfl

@[simp] theorem get_set_self (d : Dict κ α) (k : κ) (a : α) : (d.set k a).get k = some a := by
  simp [get_set]

theorem get_pop (d : Dict κ α) (k k' : κ) :
    (d.pop k).get k' = if k' = k then none else d.get k' := by
  unfold get Table.find pop
  rw [List.find?_filter]
  by_cases hk : k' = k
  · subst hk
    rw [if_pos rfl, Option.map_eq_none_iff, List.find?_eq_none]
    simp
  · rw [if_neg hk]
    congr 2
    funext e
    by_cases he : e.1 = k'
    · simp [he, hk]
    · simp [he]

@[simp] theorem get_pop_self (d : Dict κ α) (k : κ) : (d.pop k).get k = none := by
  simp [get_pop]

/-- What a smaller dictionary has, the dictionary had. -/
theorem get_of_pop {d : Dict κ α} {k k' : κ} {a : α} (h : (d.pop k).get k' = some a) :
    k' ≠ k ∧ d.get k' = some a := by
  rw [get_pop] at h
  split at h
  · cases h
  · rename_i hne
    exact ⟨hne, h⟩

theorem mem_values {d : Dict κ α} {k : κ} {a : α} (h : d.get k = some a) : a ∈ d.values := by
  obtain ⟨e, he, rfl⟩ := Option.map_eq_some_iff.1 h
  exact List.mem_map.2 ⟨e, Table.find_mem he, rfl⟩

end Dict

end WechatBot.Dictionaries
