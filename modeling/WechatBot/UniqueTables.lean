import WechatBot.Tables
/-!
# Tables with one more unique column

A table whose rows differ in their keys and in the values of a second column. Both
constraints are fields, so an insert that breaks one of them is refused.
-/

namespace WechatBot.UniqueTables

open Tables (Table)

variable {κ γ α : Type*} [DecidableEq κ] [DecidableEq γ]

structure UniqueTable (key : α → κ) (column : α → γ) extends Table key where
  unique : (rows.map column).Nodup

namespace UniqueTable

variable {key : α → κ} {column : α → γ}

def empty (key : α → κ) (column : α → γ) : UniqueTable key column :=
  ⟨Table.empty key, by simp [Table.empty]⟩

/-- The row with that value of the column. -/
def having (t : UniqueTable key column) (c : γ) : Option α :=
  t.rows.find? fun r => decide (column r = c)

def insert (t : UniqueTable key column) (a : α) : Option (UniqueTable key column) :=
  if h : column a ∈ t.rows.map column then none
  else match hm : t.toTable.insert a with
    | none => none
    | some m => some ⟨m, by
        rw [Table.insert_rows hm, List.map_append, List.nodup_append]
        refine ⟨t.unique, by simp, ?_⟩
        intro x hx y hy hxy
        have hy : y = column a := by simpa using hy
        exact h (hy ▸ hxy ▸ hx)⟩

def mapRows (t : UniqueTable key column) (f : α → α)
    (hf : ∀ r, key (f r) = key r ∧ column (f r) = column r) : UniqueTable key column where
  toTable := t.toTable.mapRows f fun r => (hf r).1
  unique := by
    have hcolumns : column ∘ f = column := funext fun r => (hf r).2
    simpa [Table.mapRows, List.map_map, hcolumns] using t.unique

variable {t u : UniqueTable key column} {a b : α} {k : κ} {c : γ}

theorem insert_table (h : t.insert a = some u) : t.toTable.insert a = some u.toTable := by
  unfold insert at h
  split at h
  · cases h
  · split at h
    · cases h
    · rename_i m hm
      obtain rfl := Option.some.inj h
      exact hm

theorem find_insert (h : t.insert a = some u) (k : κ) :
    u.find k = if k = key a then some a else t.find k :=
  Table.find_insert (insert_table h) k

theorem mem_insert (h : t.insert a = some u) : b ∈ u.rows ↔ b ∈ t.rows ∨ b = a := by
  rw [Table.insert_rows (insert_table h)]
  simp

/-- An insert leaves the rows that were there. -/
theorem insert_keeps (h : t.insert a = some u) (hb : t.find k = some b) : u.find k = some b :=
  Table.insert_keeps (insert_table h) hb

omit [DecidableEq γ] in
theorem find_mapRows {f : α → α} {hf : ∀ r, key (f r) = key r ∧ column (f r) = column r} :
    (t.mapRows f hf).find k = (t.find k).map f :=
  Table.find_mapRows t.toTable f (fun r => (hf r).1) k

omit [DecidableEq κ] [DecidableEq γ] in
theorem mem_mapRows {f : α → α} {hf : ∀ r, key (f r) = key r ∧ column (f r) = column r} :
    b ∈ (t.mapRows f hf).rows ↔ ∃ r ∈ t.rows, f r = b :=
  List.mem_map

omit [DecidableEq κ] in
theorem having_eq_some : t.having c = some a ↔ a ∈ t.rows ∧ column a = c := by
  constructor
  · intro h
    exact ⟨List.mem_of_find?_eq_some h, by simpa using List.find?_some h⟩
  · rintro ⟨ha, rfl⟩
    exact Table.find?_of_nodup t.unique ha

omit [DecidableEq κ] in
theorem having_mem (ha : a ∈ t.rows) : t.having (column a) = some a :=
  having_eq_some.2 ⟨ha, rfl⟩

theorem having_insert (h : t.insert a = some u) (c : γ) :
    u.having c = if column a = c then some a else t.having c := by
  ext b
  rw [having_eq_some, mem_insert h]
  by_cases hc : column a = c
  · subst hc
    rw [if_pos rfl]
    constructor
    · rintro ⟨hb | rfl, hcolumn⟩
      · have hmem : u.having (column a) = some b :=
          having_eq_some.2 ⟨(mem_insert h).2 (.inl hb), hcolumn⟩
        rw [← hmem]
        exact (having_mem ((mem_insert h).2 (.inr rfl))).symm
      · rfl
    · rintro ⟨⟩
      exact ⟨.inr rfl, rfl⟩
  · rw [if_neg hc, having_eq_some]
    constructor
    · rintro ⟨hb | rfl, hcolumn⟩
      · exact ⟨hb, hcolumn⟩
      · exact absurd hcolumn hc
    · rintro ⟨hb, hcolumn⟩
      exact ⟨.inl hb, hcolumn⟩

end UniqueTable

end WechatBot.UniqueTables
