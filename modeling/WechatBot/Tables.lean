import Mathlib.Data.List.Nodup
import Mathlib.Logic.Function.Basic

/-!
# Tables with a primary key

A table is a list of rows with pairwise different keys. The uniqueness is a field
of the table, so no operation can lose it. `save` is the update of one row by its
primary key: it never changes which keys there are.
-/
namespace WechatBot.Tables

variable {κ α : Type*} [DecidableEq κ]

structure Table (key : α → κ) where
  rows : List α
  nodup : (rows.map key).Nodup

namespace Table

variable {key : α → κ}

def empty (key : α → κ) : Table key := ⟨[], by simp⟩

def find (t : Table key) (k : κ) : Option α := t.rows.find? fun r => decide (key r = k)

/-- Replace the row that has the key of `a`, if there is one. -/
def overwrite (key : α → κ) (a : α) (r : α) : α := if key r = key a then a else r

theorem key_overwrite (a r : α) : key (overwrite key a r) = key r := by
  unfold overwrite
  split
  · rename_i h; exact h.symm
  · rfl

def save (t : Table key) (a : α) : Table key where
  rows := t.rows.map (overwrite key a)
  nodup := by
    have hkeys : key ∘ overwrite key a = key := funext fun r => key_overwrite a r
    simpa [List.map_map, hkeys] using t.nodup

/-- A new row; `none` when its key is taken (the unique constraint). -/
def insert (t : Table key) (a : α) : Option (Table key) :=
  if h : key a ∈ t.rows.map key then none
  else some ⟨t.rows ++ [a], by
    rw [List.map_append, List.nodup_append]
    refine ⟨t.nodup, by simp, ?_⟩
    intro x hx y hy hxy
    have hy : y = key a := by simpa using hy
    exact h (hy ▸ hxy ▸ hx)⟩

/-- A change of all rows that keeps their keys. -/
def mapRows (t : Table key) (f : α → α) (hf : ∀ r, key (f r) = key r) : Table key where
  rows := t.rows.map f
  nodup := by
    have hkeys : key ∘ f = key := funext hf
    simpa [List.map_map, hkeys] using t.nodup

theorem find_key {t : Table key} {k : κ} {a : α} (h : t.find k = some a) : key a = k := by
  simpa using List.find?_some h

theorem find_mem {t : Table key} {k : κ} {a : α} (h : t.find k = some a) : a ∈ t.rows :=
  List.mem_of_find?_eq_some h

/-- In a list with pairwise different keys, looking a member up by its key finds it. -/
theorem find?_of_nodup {rows : List α} (hn : (rows.map key).Nodup) {a : α} (ha : a ∈ rows) :
    rows.find? (fun r => decide (key r = key a)) = some a := by
  induction rows with
  | nil => cases ha
  | cons r rows ih =>
    have hr : key r ∉ rows.map key := (List.nodup_cons.mp hn).1
    rw [List.find?_cons]
    rcases List.mem_cons.mp ha with rfl | ha
    · simp
    · have hne : key r ≠ key a := by
        intro he
        exact hr (List.mem_map.mpr ⟨a, ha, he.symm⟩)
      simpa [hne] using ih (List.nodup_cons.mp hn).2 ha

theorem mem_iff_find {t : Table key} {a : α} : a ∈ t.rows ↔ t.find (key a) = some a :=
  ⟨fun ha => find?_of_nodup t.nodup ha, find_mem⟩

theorem eq_of_key {t : Table key} {a b : α} (ha : a ∈ t.rows) (hb : b ∈ t.rows)
    (h : key a = key b) : a = b := by
  rw [mem_iff_find, h] at ha
  exact Option.some.inj (ha.symm.trans (mem_iff_find.mp hb))

/-- The rows of a table whose lookups differ at the key of one new row. -/
theorem mem_of_update {t u : Table key} {a b : α}
    (h : u.find = Function.update t.find (key a) (some a)) :
    b ∈ u.rows ↔ b = a ∨ (key b ≠ key a ∧ b ∈ t.rows) := by
  rw [mem_iff_find, h, Function.update_apply, mem_iff_find]
  by_cases hkey : key b = key a
  · rw [if_pos hkey, Option.some.injEq]
    constructor
    · intro hab
      exact .inl hab.symm
    · rintro (hab | ⟨hne, -⟩)
      · exact hab.symm
      · exact absurd hkey hne
  · rw [if_neg hkey]
    constructor
    · intro hb
      exact .inr ⟨hkey, hb⟩
    · rintro (rfl | ⟨-, hb⟩)
      · exact absurd rfl hkey
      · exact hb

omit [DecidableEq κ] in
theorem mem_mapRows {t : Table key} {f : α → α} {hf : ∀ r, key (f r) = key r} {b : α} :
    b ∈ (t.mapRows f hf).rows ↔ ∃ a ∈ t.rows, f a = b := List.mem_map

theorem find_empty (k : κ) : (empty key).find k = none := rfl

theorem find_mapRows (t : Table key) (f : α → α) (hf : ∀ r, key (f r) = key r) (k : κ) :
    (t.mapRows f hf).find k = (t.find k).map f := by
  unfold find mapRows
  rw [List.find?_map]
  congr 1
  apply congrArg (fun p => List.find? p t.rows)
  funext r
  simp [hf]

theorem find_save (t : Table key) (a : α) (k : κ) :
    (t.save a).find k = (t.find k).map (overwrite key a) := by
  unfold find save
  rw [List.find?_map]
  congr 1
  apply congrArg (fun p => List.find? p t.rows)
  funext r
  simp [key_overwrite]

theorem keys_save (t : Table key) (a : α) : (t.save a).rows.map key = t.rows.map key := by
  rw [save, List.map_map]
  exact List.map_congr_left fun r _ => key_overwrite a r

/-- After a saved change of the row `r`, its key finds the new row and every
other key finds what it found before. -/
theorem find_save_of {t : Table key} {a r : α} (hr : t.find (key a) = some r) (k : κ) :
    (t.save a).find k = if k = key a then some a else t.find k := by
  rw [find_save]
  split
  · rename_i h
    subst h
    rw [hr]
    simp [overwrite, find_key hr]
  · rename_i h
    cases hk : t.find k with
    | none => rfl
    | some b =>
      have hb : key b ≠ key a := by rw [find_key hk]; exact h
      simp [overwrite, hb]

theorem find_insert {t u : Table key} {a : α} (h : t.insert a = some u) (k : κ) :
    u.find k = if k = key a then some a else t.find k := by
  unfold insert at h
  split at h
  · cases h
  · rename_i hfresh
    cases h
    unfold find
    rw [List.find?_append]
    by_cases hk : k = key a
    · subst hk
      have hnone : t.rows.find? (fun r => decide (key r = key a)) = none := by
        rw [List.find?_eq_none]
        intro r hr he
        exact hfresh (List.mem_map.mpr ⟨r, hr, by simpa using he⟩)
      simp [hnone]
    · have hne : key a ≠ k := fun he => hk he.symm
      simp [hk, hne]

/-- The lookup function after a change. -/
theorem find_save_update {t : Table key} {a r : α} (hr : t.find (key a) = some r) :
    (t.save a).find = Function.update t.find (key a) (some a) := by
  funext k
  rw [find_save_of hr, Function.update_apply]

/-- A row that was just written is written again. -/
theorem find_resave {t : Table key} {f : κ → Option α} {a b : α}
    (h : t.find = Function.update f (key a) (some a)) (hkey : key b = key a) :
    (t.save b).find = Function.update f (key a) (some b) := by
  have hfound : t.find (key b) = some a := by
    rw [h, hkey]
    simp
  rw [find_save_update hfound, h, hkey, Function.update_idem]

theorem find_insert_update {t u : Table key} {a : α} (h : t.insert a = some u) :
    u.find = Function.update t.find (key a) (some a) := by
  funext k
  rw [find_insert h, Function.update_apply]

theorem insert_rows {t u : Table key} {a : α} (h : t.insert a = some u) :
    u.rows = t.rows ++ [a] := by
  unfold insert at h
  split at h
  · cases h
  · cases h
    rfl

theorem insert_isSome {t : Table key} {a : α} (h : t.find (key a) = none) :
    ∃ u, t.insert a = some u := by
  have hfresh : key a ∉ t.rows.map key := by
    intro hmem
    obtain ⟨r, hr, hkey⟩ := List.mem_map.mp hmem
    have hnone := List.find?_eq_none.mp h r hr
    exact hnone (by simpa using hkey)
  exact ⟨_, dif_neg hfresh⟩

theorem insert_fresh {t u : Table key} {a : α} (h : t.insert a = some u) :
    t.find (key a) = none := by
  unfold insert at h
  split at h
  · cases h
  · rename_i hfresh
    unfold find
    rw [List.find?_eq_none]
    intro r hr he
    exact hfresh (List.mem_map.mpr ⟨r, hr, by simpa using he⟩)

/-- An insert leaves the rows that were there. -/
theorem insert_keeps {t u : Table key} {a r : α} {k : κ} (hinsert : t.insert a = some u)
    (hfind : t.find k = some r) : u.find k = some r := by
  rw [find_insert hinsert]
  split
  · rename_i heq
    rw [heq, insert_fresh hinsert] at hfind
    cases hfind
  · exact hfind

end Table

end WechatBot.Tables
