/-!
# Writes of changed columns

A session keeps the row it loaded and the row as it has changed it. Its UPDATE sets
the columns that differ between the two and leaves the others as they are stored, so
a column that another session has written since the load is overwritten exactly when
this session has changed it as well.
-/
namespace WechatBot.DirtyWrite

structure Session (ρ : Type) where
  loaded : ρ
  current : ρ
  deriving DecidableEq, Repr

def Session.load {ρ : Type} (row : ρ) : Session ρ := ⟨row, row⟩

variable {α : Type} [DecidableEq α]

/-- One column after the UPDATE. -/
def column (loaded current stored : α) : α := if current = loaded then stored else current

theorem column_of_unchanged {loaded current : α} (h : current = loaded) (stored : α) :
    column loaded current stored = stored := if_pos h

theorem column_of_changed {loaded current : α} (h : current ≠ loaded) (stored : α) :
    column loaded current stored = current := if_neg h

/-- A session that is not stale in a column stores its own value. -/
theorem column_of_fresh {loaded stored : α} (h : stored = loaded) (current : α) :
    column loaded current stored = current := by
  by_cases hsame : current = loaded
  · rw [column_of_unchanged hsame, h, hsame]
  · exact column_of_changed hsame stored

end WechatBot.DirtyWrite
