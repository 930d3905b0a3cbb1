import Mathlib.Logic.Function.Basic

/-!
# Tokens and where they come from

Slots hold tokens. A token is made at some place of a history; then it moves from slot to
slot or is lost. Two slots never hold tokens that were made at the same place.
-/
namespace WechatBot.Provenance

variable {κ τ : Type*} {made made' : Nat → τ → Prop} {held held' : κ → Option τ}
  {origin : κ → Nat}

/-- `origin` names the place where the token of a slot was made. -/
structure Traced (made : Nat → τ → Prop) (held : κ → Option τ) (origin : κ → Nat) : Prop where
  known : ∀ k t, held k = some t → made (origin k) t
  distinct : ∀ k l, (held k).isSome → (held l).isSome → origin k = origin l → k = l

theorem traced_nothing (made : Nat → τ → Prop) (origin : κ → Nat) :
    Traced made (fun _ => none) origin := by
  constructor
  · intro k t h
    cases h
  · intro k l h
    cases h

theorem Traced.mono (h : Traced made held origin) (hmade : ∀ n t, made n t → made' n t) :
    Traced made' held origin :=
  ⟨fun k t hk => hmade _ _ (h.known k t hk), h.distinct⟩

/-- Losing tokens. -/
theorem Traced.lose (h : Traced made held origin)
    (hless : ∀ k t, held' k = some t → held k = some t) : Traced made held' origin := by
  have hsome : ∀ k, (held' k).isSome → (held k).isSome := by
    intro k hk
    obtain ⟨t, ht⟩ := Option.isSome_iff_exists.mp hk
    rw [hless k t ht]
    rfl
  constructor
  · intro k t hk
    exact h.known k t (hless k t hk)
  · intro k l hk hl heq
    exact h.distinct k l (hsome k hk) (hsome l hl) heq

/-- Apart from the slot `k`, which holds `t`, the slots hold at most what they held. -/
def Gains (held held' : κ → Option τ) (k : κ) (t : τ) : Prop :=
  held' k = some t ∧ ∀ l u, l ≠ k → held' l = some u → held l = some u

theorem Gains.isSome {k : κ} {t : τ} (h : Gains held held' k t) {l : κ} (hl : l ≠ k)
    (hsome : (held' l).isSome) : (held l).isSome := by
  obtain ⟨u, hu⟩ := Option.isSome_iff_exists.mp hsome
  rw [h.2 l u hl hu]
  rfl

variable [DecidableEq κ]

theorem Traced.gain {k : κ} {t : τ} {n : Nat} (h : Traced made held origin)
    (hgains : Gains held held' k t) (hmade : made n t)
    (hfresh : ∀ l, l ≠ k → (held' l).isSome → origin l ≠ n) :
    Traced made held' (Function.update origin k n) := by
  constructor
  · intro l u hl
    by_cases hlk : l = k
    · subst hlk
      rw [hgains.1] at hl
      rw [Function.update_self, ← Option.some.inj hl]
      exact hmade
    · rw [Function.update_of_ne hlk]
      exact h.known l u (hgains.2 l u hlk hl)
  · intro l m hl hm heq
    by_cases hlk : l = k
    · by_cases hmk : m = k
      · rw [hlk, hmk]
      · rw [hlk, Function.update_self, Function.update_of_ne hmk] at heq
        exact absurd heq.symm (hfresh m hmk hm)
    · by_cases hmk : m = k
      · rw [hmk, Function.update_self, Function.update_of_ne hlk] at heq
        exact absurd heq (hfresh l hlk hl)
      · rw [Function.update_of_ne hlk, Function.update_of_ne hmk] at heq
        exact h.distinct l m (hgains.isSome hlk hl) (hgains.isSome hmk hm) heq

/-- A new token comes from a place from which no slot has its token. -/
theorem Traced.make {k : κ} {t : τ} {n : Nat} (h : Traced made held origin)
    (hgains : Gains held held' k t) (hmade : made n t)
    (hnew : ∀ l, (held l).isSome → origin l ≠ n) :
    Traced made held' (Function.update origin k n) :=
  h.gain hgains hmade fun l hl hsome => hnew l (hgains.isSome hl hsome)

/-- A token that moves keeps its place. -/
theorem Traced.move {k l : κ} {t : τ} (h : Traced made held origin) (hk : held k = some t)
    (hgains : Gains held held' l t) (hleft : k ≠ l → held' k = none) :
    Traced made held' (Function.update origin l (origin k)) := by
  apply h.gain hgains (h.known k t hk)
  intro j hj hsome heq
  have hsame : j = k := by
    apply h.distinct j k (hgains.isSome hj hsome) _ heq
    rw [hk]
    rfl
  rw [hsame] at hj hsome
  rw [hleft hj] at hsome
  cases hsome

end WechatBot.Provenance
