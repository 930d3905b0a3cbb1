import Mathlib.Logic.Function.Basic

/-!
# Runs of a partial step function

A system is a step function `σ → α → Option σ`: `none` says that the action is
not possible in the state. A run is the list of its actions; it is `some s`
when every action was possible in turn. Interleavings of concurrent actors are
runs of one such function, whose actions name the actor.
-/
namespace WechatBot.Runs

variable {σ α : Type*}

def run (step : σ → α → Option σ) : σ → List α → Option σ
  | s, [] => some s
  | s, a :: as => (step s a).bind fun t => run step t as

@[simp] theorem run_nil (step : σ → α → Option σ) (s : σ) : run step s [] = some s := rfl

theorem run_cons (step : σ → α → Option σ) (s u : σ) (a : α) (as : List α) :
    run step s (a :: as) = some u ↔ ∃ t, step s a = some t ∧ run step t as = some u := by
  simp [run, Option.bind_eq_some_iff]

theorem run_append (step : σ → α → Option σ) (s u : σ) (as bs : List α) :
    run step s (as ++ bs) = some u ↔ ∃ t, run step s as = some t ∧ run step t bs = some u := by
  induction as generalizing s with
  | nil => simp
  | cons a as ih =>
    rw [List.cons_append, run_cons]
    constructor
    · rintro ⟨t, hstep, hrun⟩
      obtain ⟨v, hfirst, hrest⟩ := (ih t).mp hrun
      exact ⟨v, (run_cons step s v a as).mpr ⟨t, hstep, hfirst⟩, hrest⟩
    · rintro ⟨v, hfirst, hrest⟩
      obtain ⟨t, hstep, hrun⟩ := (run_cons step s v a as).mp hfirst
      exact ⟨t, hstep, (ih t).mpr ⟨v, hrun, hrest⟩⟩

theorem run_snoc (step : σ → α → Option σ) {s t u : σ} {as : List α} {a : α}
    (hrun : run step s as = some t) (hstep : step t a = some u) :
    run step s (as ++ [a]) = some u := by
  rw [run_append]
  exact ⟨t, hrun, by simp [run, hstep]⟩

/-- The state that a run ends in has what the run has been evaluated to. -/
theorem get_of_map {β : Type*} {ends : Option σ} {f : σ → β} {b : β} (h : ends.map f = some b) :
    ∃ hsome : ends.isSome = true, f (ends.get hsome) = b := by
  obtain ⟨s, rfl, hs⟩ := Option.map_eq_some_iff.mp h
  exact ⟨rfl, hs⟩

/-- A loop that an exception ends is a run of its turns. -/
theorem foldlM_toOption {ε : Type*} (turn : σ → α → Except ε σ) (s : σ) (as : List α) :
    (as.foldlM turn s).toOption = run (fun s a => (turn s a).toOption) s as := by
  induction as generalizing s with
  | nil => rfl
  | cons a as ih =>
    rw [List.foldlM_cons, run]
    cases hturn : turn s a with
    | error e => rfl
    | ok t => exact ih t

/-- What one step preserves, a whole run preserves. -/
theorem run_invariant {step : σ → α → Option σ} (I : σ → Prop)
    (hstep : ∀ s a t, I s → step s a = some t → I t)
    {s t : σ} {as : List α} (hs : I s) (hrun : run step s as = some t) : I t := by
  induction as generalizing s with
  | nil => simpa using (Option.some.inj hrun) ▸ hs
  | cons a as ih =>
    obtain ⟨u, hu, hrest⟩ := (run_cons step s t a as).mp hrun
    exact ih (hstep s a u hs hu) hrest

/-- A reflexive and transitive relation that every step respects relates the two
ends of every run. -/
theorem run_relation {step : σ → α → Option σ} (R : σ → σ → Prop) (hrefl : ∀ s, R s s)
    (htrans : ∀ s t u, R s t → R t u → R s u)
    (hstep : ∀ s a t, step s a = some t → R s t)
    {s t : σ} {as : List α} (hrun : run step s as = some t) : R s t := by
  induction as generalizing s with
  | nil =>
    have hst : s = t := Option.some.inj hrun
    exact hst ▸ hrefl s
  | cons a as ih =>
    obtain ⟨u, hu, hrest⟩ := (run_cons step s t a as).mp hrun
    exact htrans s u t (hstep s a u hu) (ih hrest)

/-- The invariant rule for what is said of a run so far and the state it has reached. -/
theorem run_history {step : σ → α → Option σ} {s : σ} (I : List α → σ → Prop) (hs : I [] s)
    (hstep : ∀ as t a u, run step s as = some t → I as t → step t a = some u → I (as ++ [a]) u)
    {as : List α} {t : σ} (hrun : run step s as = some t) : I as t := by
  -- the actions before and after the state that the induction has reached
  have hsplit : ∀ (after before : List α) (u : σ), run step s before = some u → I before u →
      run step u after = some t → I (before ++ after) t := by
    intro after
    induction after with
    | nil =>
      intro before u _ hu hend
      rw [List.append_nil]
      exact Option.some.inj hend ▸ hu
    | cons a after ih =>
      intro before u hbefore hu hafter
      obtain ⟨v, hv, hrest⟩ := (run_cons step u t a after).mp hafter
      have hlater := ih (before ++ [a]) v (run_snoc step hbefore hv) (hstep _ _ _ _ hbefore hu hv) hrest
      rwa [List.append_assoc, List.singleton_append] at hlater
  exact hsplit as [] s rfl hs hrun

/-- Every action of the run is taken in a state where `P` allows it. -/
def EachStep (step : σ → α → Option σ) (P : σ → α → Prop) : σ → List α → Prop
  | _, [] => True
  | s, a :: as => P s a ∧ ∀ t, step s a = some t → EachStep step P t as

theorem EachStep.head {step : σ → α → Option σ} {P : σ → α → Prop} {s : σ} {a : α} {as : List α}
    (h : EachStep step P s (a :: as)) : P s a := h.1

theorem EachStep.tail {step : σ → α → Option σ} {P : σ → α → Prop} {s t : σ} {a : α} {as : List α}
    (h : EachStep step P s (a :: as)) (hstep : step s a = some t) : EachStep step P t as :=
  h.2 t hstep

/-- The action after a run is allowed in the state the run ends in. -/
theorem EachStep.last {step : σ → α → Option σ} {P : σ → α → Prop} {s t : σ} {as : List α} {a : α}
    (h : EachStep step P s (as ++ [a])) (hrun : run step s as = some t) : P t a := by
  induction as generalizing s with
  | nil =>
    have hst : s = t := Option.some.inj hrun
    exact hst ▸ h.head
  | cons b as ih =>
    obtain ⟨u, hu, hrest⟩ := (run_cons step s t b as).mp hrun
    exact ih (h.tail hu) hrest

theorem eachStep_append {step : σ → α → Option σ} {P : σ → α → Prop} {s t : σ} {as bs : List α}
    (hrun : run step s as = some t) :
    EachStep step P s (as ++ bs) ↔ EachStep step P s as ∧ EachStep step P t bs := by
  induction as generalizing s with
  | nil =>
    have hst : s = t := Option.some.inj hrun
    simp [EachStep, hst]
  | cons a as ih =>
    obtain ⟨u, hu, hrest⟩ := (run_cons step s t a as).mp hrun
    constructor
    · intro h
      obtain ⟨hfirst, hsecond⟩ := (ih hrest).mp (h.tail hu)
      refine ⟨⟨h.head, fun v hv => ?_⟩, hsecond⟩
      exact Option.some.inj (hu.symm.trans hv) ▸ hfirst
    · rintro ⟨h, hsecond⟩
      refine ⟨h.head, fun v hv => ?_⟩
      have hall := (ih hrest).mpr ⟨h.tail hu, hsecond⟩
      exact Option.some.inj (hu.symm.trans hv) ▸ hall

/-- A property of every value that an option may hold. -/
def optionAllDecidable {β : Type*} (o : Option β) (P : β → Prop) [∀ b, Decidable (P b)] :
    Decidable (∀ b, o = some b → P b) :=
  match o with
  | none => isTrue (by simp)
  | some b => decidable_of_iff (P b) (by simp)

instance EachStep.decidable {step : σ → α → Option σ} {P : σ → α → Prop}
    [∀ s a, Decidable (P s a)] : (s : σ) → (as : List α) → Decidable (EachStep step P s as)
  | _, [] => isTrue trivial
  | s, a :: as =>
    have : Decidable (∀ t, step s a = some t → EachStep step P t as) :=
      @optionAllDecidable σ (step s a) _ fun t => EachStep.decidable t as
    inferInstanceAs (Decidable (P s a ∧ ∀ t, step s a = some t → EachStep step P t as))

/-- The invariant rule for the runs whose steps all meet a condition. -/
theorem run_invariant_of_each {step : σ → α → Option σ} (P : σ → α → Prop) (I : σ → Prop)
    (hstep : ∀ s a t, I s → P s a → step s a = some t → I t)
    {s t : σ} {as : List α} (hs : I s) (heach : EachStep step P s as)
    (hrun : run step s as = some t) : I t := by
  induction as generalizing s with
  | nil => simpa using (Option.some.inj hrun) ▸ hs
  | cons a as ih =>
    obtain ⟨u, hu, hrest⟩ := (run_cons step s t a as).mp hrun
    exact ih (hstep s a u hs heach.head hu) (heach.tail hu) hrest

/-- A property of single steps that an invariant gives holds of every step of a run. -/
theorem each_of_invariant {step : σ → α → Option σ} {P Q : σ → α → Prop} (I : σ → Prop)
    (hstep : ∀ s a t, I s → P s a → step s a = some t → I t)
    (hgives : ∀ s a, I s → P s a → Q s a)
    {s : σ} {as : List α} (hs : I s) (heach : EachStep step P s as) : EachStep step Q s as := by
  induction as generalizing s with
  | nil => trivial
  | cons a as ih =>
    refine ⟨hgives s a hs heach.head, ?_⟩
    intro t ht
    exact ih (hstep s a t hs heach.head ht) (heach.tail ht)

/-- An invariant gives a property of every step of every run. -/
theorem each_of_stable {step : σ → α → Option σ} {Q : σ → α → Prop} (I : σ → Prop)
    (hstep : ∀ s a t, I s → step s a = some t → I t) (hgives : ∀ s a, I s → Q s a)
    {s : σ} (hs : I s) (as : List α) : EachStep step Q s as := by
  induction as generalizing s with
  | nil => trivial
  | cons a as ih => exact ⟨hgives s a hs, fun t ht => ih (hstep s a t hs ht)⟩

end WechatBot.Runs
