import Mathlib.Data.List.Sort

/-!
# Reading a growing list page by page

A reader asks for one page after another while rows are added, each wherever the order puts
it. A moment is the number of a statement of the reader.
-/
namespace WechatBot.Paging

variable {α κ : Type*}

def page (rows : List α) (limit offset : Nat) : List α := (rows.drop offset).take limit

theorem drop_eq_page (rows : List α) (limit offset : Nat) :
    rows.drop offset = page rows limit offset ++ rows.drop (offset + limit) := by
  rw [page, ← List.drop_drop, List.take_append_drop]

theorem mem_page {rows : List α} {limit offset : Nat} {a : α} (h : a ∈ page rows limit offset) :
    a ∈ rows := List.mem_of_mem_drop (List.mem_of_mem_take h)

/-- A page that is not full is the last one. -/
theorem drop_of_short {rows : List α} {limit offset : Nat}
    (h : (page rows limit offset).length < limit) : rows.drop (offset + limit) = [] := by
  rw [page, List.length_take] at h
  have hshort : (rows.drop offset).length < limit := by omega
  rw [← List.drop_drop]
  exact List.drop_eq_nil_of_le hshort.le

/-- No row is taken out, and none is moved before another. -/
def Growing (rows : Nat → List α) : Prop := ∀ n, (rows n).Sublist (rows (n + 1))

variable {rows : Nat → List α}

theorem Growing.sublist (h : Growing rows) {m n : Nat} (hmn : m ≤ n) :
    (rows m).Sublist (rows n) := by
  induction n, hmn using Nat.le_induction with
  | base => exact List.Sublist.refl _
  | succ n _ ih => exact ih.trans (h n)

/-- Between two moments with equally many rows nothing was added. -/
theorem Growing.still (h : Growing rows) {m n k : Nat} (hmn : m ≤ n) (hnk : n ≤ k)
    (hlength : (rows k).length = (rows m).length) : rows n = rows m := by
  have hleft := h.sublist hmn
  have hright := h.sublist hnk
  have hsame : (rows m).length = (rows n).length := by
    have hle := hleft.length_le
    have hge := hright.length_le
    omega
  exact (hleft.eq_of_length hsame).symm

/-- A part of a list that has nothing in common with what follows its length is the front of
the list. -/
theorem eq_take_of_apart {front whole : List α} (h : front.Sublist whole)
    (hapart : ∀ a ∈ front, a ∉ whole.drop front.length) : front = whole.take front.length := by
  have hsplit : front.Sublist (whole.take front.length ++ whole.drop front.length) := by
    rwa [List.take_append_drop]
  obtain ⟨first, second, hfront, hfirst, hsecond⟩ := List.sublist_append_iff.mp hsplit
  have hnone : second = [] := by
    rw [List.eq_nil_iff_forall_not_mem]
    intro a ha
    refine hapart a ?_ (hsecond.subset ha)
    rw [hfront]
    exact List.mem_append_right _ ha
  rw [hnone, List.append_nil] at hfront
  rw [← hfront] at hfirst
  apply hfirst.eq_of_length
  rw [List.length_take, Nat.min_eq_left h.length_le]

variable [LinearOrder κ]

/-- The rows in the order of their keys. -/
def ordered (key : α → κ) (rows : List α) : List α :=
  rows.insertionSort fun a b => key a ≤ key b

theorem ordered_perm (key : α → κ) (rows : List α) : (ordered key rows).Perm rows :=
  List.perm_insertionSort _ _

theorem mem_ordered {key : α → κ} {rows : List α} {a : α} : a ∈ ordered key rows ↔ a ∈ rows :=
  (ordered_perm key rows).mem_iff

theorem ordered_pairwise (key : α → κ) (rows : List α) :
    (ordered key rows).Pairwise fun a b => key a ≤ key b := by
  have htotal : Std.Total fun a b : α => key a ≤ key b := ⟨fun a b => le_total (key a) (key b)⟩
  have htrans : IsTrans α fun a b => key a ≤ key b := ⟨fun a b c hab hbc => hab.trans hbc⟩
  exact List.pairwise_insertionSort _ rows

/-- More rows, with a key of their own each, put the new ones between the old ones. -/
theorem ordered_grows {key : α → κ} {few many : List α} (hnodup : few.Nodup) (hsub : few ⊆ many)
    (hkeys : ∀ a ∈ many, ∀ b ∈ many, key a = key b → a = b) :
    (ordered key few).Sublist (ordered key many) := by
  have hfew : (ordered key few).Subperm (ordered key many) := by
    apply List.subperm_of_subset
    · exact (ordered_perm key few).nodup_iff.mpr hnodup
    · intro a ha
      exact mem_ordered.mpr (hsub (mem_ordered.mp ha))
  obtain ⟨middle, hperm, hmiddle⟩ := hfew
  have hmem : ∀ a ∈ middle, a ∈ many := fun a ha => mem_ordered.mp (hmiddle.subset ha)
  have heq : middle = ordered key few := by
    apply List.Perm.eq_of_pairwise _ ((ordered_pairwise key many).sublist hmiddle)
      (ordered_pairwise key few) hperm
    intro a b ha hb hab hba
    exact hkeys a (hmem a ha) b (hmem b (hperm.mem_iff.mpr hb)) (le_antisymm hab hba)
  rwa [← heq]

end WechatBot.Paging
