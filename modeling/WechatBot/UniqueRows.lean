import Mathlib.Data.Fintype.Basic
import Mathlib.Data.List.Pairwise
import Mathlib.Logic.Function.Basic

/-!
# A table with unique constraints under concurrent sessions

Sessions add rows to one table and commit or roll back. A session sees the committed rows
and its own. A row that clashes with a row its session sees is refused; one that clashes
with an uncommitted row of another session has to wait for the end of that session.
-/
namespace WechatBot.UniqueRows

variable {ρ τ : Type*}

structure Sessions (ρ τ : Type*) where
  committed : List ρ
  pending : τ → List ρ

namespace Sessions

def visible (s : Sessions ρ τ) (i : τ) : List ρ := s.committed ++ s.pending i

variable (clash : ρ → ρ → Bool)

/-- The session sees a row that clashes with the new one. -/
def violates (s : Sessions ρ τ) (i : τ) (row : ρ) : Bool := (s.visible i).any fun r => clash r row

/-- Another session has an uncommitted row that clashes with the new one. -/
def Waits (s : Sessions ρ τ) (i : τ) (row : ρ) : Prop :=
  ∃ j, j ≠ i ∧ ((s.pending j).any fun r => clash r row) = true

instance [Fintype τ] [DecidableEq τ] (s : Sessions ρ τ) (i : τ) (row : ρ) :
    Decidable (s.Waits clash i row) :=
  inferInstanceAs (Decidable (∃ j, j ≠ i ∧ ((s.pending j).any fun r => clash r row) = true))

variable [DecidableEq τ]

def add (s : Sessions ρ τ) (i : τ) (row : ρ) : Sessions ρ τ :=
  { s with pending := Function.update s.pending i (s.pending i ++ [row]) }

def rollback (s : Sessions ρ τ) (i : τ) : Sessions ρ τ :=
  { s with pending := Function.update s.pending i [] }

def commit (s : Sessions ρ τ) (i : τ) : Sessions ρ τ :=
  ⟨s.committed ++ s.pending i, Function.update s.pending i []⟩

end Sessions

/-- No two rows clash, committed or not. -/
structure Unique (clash : ρ → ρ → Bool) (s : Sessions ρ τ) : Prop where
  committed : ∀ a ∈ s.committed, ∀ b ∈ s.committed, clash a b = true → a = b
  own : ∀ i, (s.pending i).Pairwise fun a b => clash a b = false
  fresh : ∀ i, ∀ a ∈ s.committed, ∀ b ∈ s.pending i, clash a b = false
  apart : ∀ i j, i ≠ j → ∀ a ∈ s.pending i, ∀ b ∈ s.pending j, clash a b = false

variable {clash : ρ → ρ → Bool} {s : Sessions ρ τ} {i : τ} {row : ρ}

theorem violates_iff : s.violates clash i row = true ↔ ∃ r ∈ s.visible i, clash r row = true := by
  simp [Sessions.violates]

theorem not_violates (h : s.violates clash i row = false) :
    ∀ r ∈ s.visible i, clash r row = false := by
  intro r hr
  by_contra hclash
  have hviolates := violates_iff.mpr ⟨r, hr, by simpa using hclash⟩
  rw [h] at hviolates
  cases hviolates

theorem not_waits (h : ¬ s.Waits clash i row) {j : τ} (hj : j ≠ i) :
    ∀ r ∈ s.pending j, clash r row = false := by
  intro r hr
  by_contra hclash
  exact h ⟨j, hj, List.any_eq_true.mpr ⟨r, hr, by simpa using hclash⟩⟩

/-- A session sees no two rows that clash. -/
theorem Unique.visible (hsymm : ∀ a b, clash a b = clash b a) (hs : Unique clash s) {a b : ρ}
    (ha : a ∈ s.visible i) (hb : b ∈ s.visible i) (h : clash a b = true) : a = b := by
  rcases List.mem_append.mp ha with ha | ha
  · rcases List.mem_append.mp hb with hb | hb
    · exact hs.committed a ha b hb h
    · rw [hs.fresh i a ha b hb] at h
      cases h
  · rcases List.mem_append.mp hb with hb | hb
    · rw [hsymm, hs.fresh i b hb a ha] at h
      cases h
    · by_contra hne
      have : Std.Symm fun x y => clash x y = false := ⟨fun x y hxy => (hsymm y x).trans hxy⟩
      rw [(hs.own i).forall ha hb hne] at h
      cases h

variable [DecidableEq τ]

theorem mem_add {j : τ} {r : ρ} (h : r ∈ (s.add i row).pending j) :
    r ∈ s.pending j ∨ j = i ∧ r = row := by
  by_cases hj : j = i
  · subst hj
    have hmem : r ∈ s.pending j ++ [row] := by simpa [Sessions.add] using h
    rcases List.mem_append.mp hmem with hold | hnew
    · exact .inl hold
    · exact .inr ⟨rfl, List.mem_singleton.mp hnew⟩
  · left
    simpa [Sessions.add, hj] using h

theorem unique_add (hsymm : ∀ a b, clash a b = clash b a) (hs : Unique clash s)
    (hnew : s.violates clash i row = false) (hfree : ¬ s.Waits clash i row) :
    Unique clash (s.add i row) := by
  have hseen := not_violates hnew
  constructor
  · exact hs.committed
  · intro j
    by_cases hj : j = i
    · subst hj
      simp only [Sessions.add, Function.update_self]
      rw [List.pairwise_append]
      refine ⟨hs.own j, List.pairwise_singleton _ _, ?_⟩
      intro a ha b hb
      rw [List.mem_singleton.mp hb]
      exact hseen a (List.mem_append_right _ ha)
    · simp only [Sessions.add, Function.update_of_ne hj]
      exact hs.own j
  · intro j a ha b hb
    rcases mem_add hb with hb | ⟨-, rfl⟩
    · exact hs.fresh j a ha b hb
    · exact hseen a (List.mem_append_left _ ha)
  · intro j k hjk a ha b hb
    rcases mem_add ha with hold | ⟨rfl, rfl⟩
    · rcases mem_add hb with hb | ⟨rfl, rfl⟩
      · exact hs.apart j k hjk a hold b hb
      · exact not_waits hfree hjk a hold
    · rcases mem_add hb with hold | ⟨hk, -⟩
      · rw [hsymm]
        exact not_waits hfree (Ne.symm hjk) b hold
      · exact absurd hk.symm hjk

theorem mem_cleared {j : τ} {r : ρ} (h : r ∈ (Function.update s.pending i []) j) :
    j ≠ i ∧ r ∈ s.pending j := by
  by_cases hj : j = i
  · subst hj
    rw [Function.update_self] at h
    cases h
  · rw [Function.update_of_ne hj] at h
    exact ⟨hj, h⟩

theorem own_cleared (hs : Unique clash s) (j : τ) :
    ((Function.update s.pending i []) j).Pairwise fun a b => clash a b = false := by
  by_cases hj : j = i
  · subst hj
    rw [Function.update_self]
    exact .nil
  · rw [Function.update_of_ne hj]
    exact hs.own j

theorem unique_rollback (hs : Unique clash s) : Unique clash (s.rollback i) := by
  constructor
  · exact hs.committed
  · exact own_cleared hs
  · intro j a ha b hb
    exact hs.fresh j a ha b (mem_cleared hb).2
  · intro j k hjk a ha b hb
    exact hs.apart j k hjk a (mem_cleared ha).2 b (mem_cleared hb).2

theorem unique_commit (hsymm : ∀ a b, clash a b = clash b a) (hs : Unique clash s) :
    Unique clash (s.commit i) := by
  constructor
  · intro a ha b hb h
    exact hs.visible hsymm ha hb h
  · exact own_cleared hs
  · intro j a ha b hb
    obtain ⟨hj, hb⟩ := mem_cleared hb
    rcases List.mem_append.mp ha with ha | ha
    · exact hs.fresh j a ha b hb
    · exact hs.apart i j hj.symm a ha b hb
  · intro j k hjk a ha b hb
    exact hs.apart j k hjk a (mem_cleared ha).2 b (mem_cleared hb).2

omit [DecidableEq τ] in
/-- Rows that change in place and keep what their clashes depend on. -/
theorem unique_refresh {rows : List ρ} (hs : Unique clash s)
    (hunique : ∀ a ∈ rows, ∀ b ∈ rows, clash a b = true → a = b)
    (hsource : ∀ a ∈ rows, ∃ r ∈ s.committed, ∀ b, clash a b = clash r b) :
    Unique clash { s with committed := rows } := by
  constructor
  · exact hunique
  · exact hs.own
  · intro j a ha b hb
    obtain ⟨r, hr, hsame⟩ := hsource a ha
    rw [hsame]
    exact hs.fresh j r hr b hb
  · exact hs.apart

omit [DecidableEq τ] in
/-- A search that no two rows answer finds the row that answers it, and only that. -/
theorem filter_single {rows : List ρ} {asked : ρ → Bool} {a : ρ}
    (h : rows.Pairwise fun x y => ¬ (asked x = true ∧ asked y = true)) (ha : a ∈ rows)
    (hasked : asked a = true) : rows.filter asked = [a] := by
  induction rows with
  | nil => exact absurd ha List.not_mem_nil
  | cons b rows ih =>
    obtain ⟨hhead, htail⟩ := List.pairwise_cons.mp h
    rcases List.mem_cons.mp ha with rfl | ha
    · have hnone : rows.filter asked = [] := by
        rw [List.filter_eq_nil_iff]
        intro c hc hyes
        exact hhead c hc ⟨hasked, hyes⟩
      rw [List.filter_cons_of_pos hasked, hnone]
    · have hother : ¬ asked b = true := fun hyes => hhead a ha ⟨hyes, hasked⟩
      rw [List.filter_cons_of_neg hother]
      exact ih htail ha

end WechatBot.UniqueRows
