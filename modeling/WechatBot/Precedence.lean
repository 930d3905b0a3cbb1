import Mathlib.Data.List.Basic
import Mathlib.Order.Lattice

/-!
# The most specific, then the strictest

A list is judged by its elements of the highest score alone. Such a verdict does not
depend on the order of the list, and it moves one way: what speaks for it can be added and
what speaks against it can be taken away.
-/
namespace WechatBot.Precedence

variable {α S : Type*} [LinearOrder S]

/-- The elements of the highest score. -/
def top (score : α → S) (items : List α) : List α :=
  items.filter fun item => items.all fun other => decide (score other ≤ score item)

/-- Some element for `P` is above every element against it. -/
def Prevails (score : α → S) (P : α → Prop) (items : List α) : Prop :=
  ∃ x ∈ items, P x ∧ ∀ y ∈ items, ¬ P y → score y < score x

theorem mem_top {score : α → S} {items : List α} {x : α} :
    x ∈ top score items ↔ x ∈ items ∧ ∀ y ∈ items, score y ≤ score x := by
  simp [top, List.mem_filter]

theorem top_perm (score : α → S) {items items' : List α} (h : items.Perm items') :
    (top score items).Perm (top score items') := by
  have hsame : (fun item => items.all fun other => decide (score other ≤ score item)) =
      fun item => items'.all fun other => decide (score other ≤ score item) := by
    funext item
    rw [Bool.eq_iff_iff, List.all_eq_true, List.all_eq_true]
    constructor
    · intro hall other hother
      exact hall other (h.mem_iff.mpr hother)
    · intro hall other hother
      exact hall other (h.mem_iff.mp hother)
  unfold top
  rw [hsame]
  exact h.filter _

theorem exists_top (score : α → S) {items : List α} (h : items ≠ []) :
    ∃ x, x ∈ top score items := by
  induction items with
  | nil => exact absurd rfl h
  | cons x items ih =>
    by_cases hnil : items = []
    · subst hnil
      exact ⟨x, mem_top.mpr ⟨List.mem_cons_self, by simp⟩⟩
    · obtain ⟨y, hy⟩ := ih hnil
      obtain ⟨hmem, hmax⟩ := mem_top.mp hy
      by_cases hle : score x ≤ score y
      · refine ⟨y, mem_top.mpr ⟨List.mem_cons_of_mem _ hmem, ?_⟩⟩
        intro z hz
        rcases List.mem_cons.mp hz with rfl | hz
        · exact hle
        · exact hmax z hz
      · refine ⟨x, mem_top.mpr ⟨List.mem_cons_self, ?_⟩⟩
        intro z hz
        rcases List.mem_cons.mp hz with rfl | hz
        · exact le_refl _
        · exact (hmax z hz).trans (not_le.mp hle).le

/-- `P` prevails when the highest elements are all for it. -/
theorem prevails_iff_top {score : α → S} {P : α → Prop} {items : List α} :
    Prevails score P items ↔ items ≠ [] ∧ ∀ x ∈ top score items, P x := by
  constructor
  · rintro ⟨x, hx, _, habove⟩
    refine ⟨List.ne_nil_of_mem hx, fun y hy => ?_⟩
    obtain ⟨hmem, hmax⟩ := mem_top.mp hy
    by_contra hagainst
    exact absurd (habove y hmem hagainst) (not_lt.mpr (hmax x hx))
  · rintro ⟨hne, hall⟩
    obtain ⟨x, hx⟩ := exists_top score hne
    obtain ⟨hmem, hmax⟩ := mem_top.mp hx
    refine ⟨x, hmem, hall x hx, fun y hy hagainst => ?_⟩
    apply lt_of_le_of_ne (hmax y hy)
    intro heq
    refine hagainst (hall y (mem_top.mpr ⟨hy, fun z hz => ?_⟩))
    rw [heq]
    exact hmax z hz

/-- More elements for `P` and fewer against it keep it prevailing. -/
theorem Prevails.mono {score : α → S} {P : α → Prop} {items items' : List α}
    (h : Prevails score P items) (hfor : ∀ x ∈ items, P x → x ∈ items')
    (hagainst : ∀ y ∈ items', ¬ P y → y ∈ items) : Prevails score P items' := by
  obtain ⟨x, hx, hP, habove⟩ := h
  exact ⟨x, hfor x hx hP, hP, fun y hy hne => habove y (hagainst y hy hne) hne⟩

end WechatBot.Precedence
