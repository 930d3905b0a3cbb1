import WechatBot.ReadCommitted
/-!
# What a transaction promises

A discipline is the same for all sessions. Here each operation has a promise besides, about
what is committed before and after it. A transaction that keeps its promise by itself,
against what the discipline lets others commit, keeps it in every interleaving.
-/

namespace WechatBot.Promises

open Runs (run run_history)
open ReadCommitted

variable {ρ δ ε α β σ π : Type} {D : Discipline ρ δ} {held : Set ρ} {pending : δ → Option δ}
  {d d' : δ}

/-- Whenever the transaction commits now, the promise holds of the commit. -/
def Promise (D : Discipline ρ δ) (promise : δ → δ → Prop) (held : Set ρ) (pending : δ → Option δ)
    (d : δ) : Prop :=
  ∀ d', D.keeps held d d' → ∀ e, pending d' = some e → promise d' e

def KeepsPromise (D : Discipline ρ δ) (promise : δ → δ → Prop) (p : Txn ρ δ ε α) (held : Set ρ)
    (pending : δ → Option δ) (d : δ) : Prop :=
  wp D (fun _ => Promise D promise) p held pending d

theorem keepsPromise_stable {promise : δ → δ → Prop} {p : Txn ρ δ ε α}
    (h : KeepsPromise D promise p held pending d) (hd : D.keeps held d d') :
    KeepsPromise D promise p held pending d' := by
  cases p with
  | done a => exact fun e he => h e (D.trans hd he)
  | raise e => trivial
  | read next => exact fun e he => h e (D.trans hd he)
  | lock row next => exact fun e he => h e (D.trans hd he)
  | write change next conflict => exact fun e he => h e (D.trans hd he)

theorem wp_mono {Q Q' : α → Set ρ → (δ → Option δ) → δ → Prop}
    (h : ∀ a held pending d, Q a held pending d → Q' a held pending d) {p : Txn ρ δ ε α}
    (hp : wp D Q p held pending d) : wp D Q' p held pending d := by
  induction p generalizing held pending d with
  | done a => exact h a held pending d hp
  | raise e => trivial
  | read next ih => exact fun d' hd' v hv => ih v (hp d' hd' v hv)
  | lock row next ih => exact fun d' hd' => ih (hp d' hd')
  | write change next conflict ihn ihc =>
    intro d' hd' v hv
    obtain ⟨hnext, hconflict⟩ := hp d' hd' v hv
    exact ⟨fun v' hv' => ihn (hnext v' hv'), fun hnone => ihc (hconflict hnone)⟩

theorem keepsPromise_mono {promise weaker : δ → δ → Prop} (h : ∀ d e, promise d e → weaker d e)
    {p : Txn ρ δ ε α} (hp : KeepsPromise D promise p held pending d) :
    KeepsPromise D weaker p held pending d :=
  wp_mono (fun _ _ _ _ hkept d' hd' e he => h d' e (hkept d' hd' e he)) hp

/-- What holds of every end holds of a transaction. -/
theorem wp_of_forall {Q : α → Set ρ → (δ → Option δ) → δ → Prop}
    (h : ∀ a held pending d, Q a held pending d) (p : Txn ρ δ ε α) (held : Set ρ)
    (pending : δ → Option δ) (d : δ) : wp D Q p held pending d := by
  induction p generalizing held pending d with
  | done a => exact h a held pending d
  | raise e => trivial
  | read next ih => exact fun d' _ v _ => ih v held pending d'
  | lock row next ih => exact fun d' _ => ih _ pending d'
  | write change next conflict ihn ihc =>
    exact fun d' _ v _ => ⟨fun _ _ => ihn held _ d', fun _ => ihc held pending d'⟩

section Runs

variable [DecidableEq σ] [DecidableEq ρ]

/-- The operation that the session has begun last. -/
def begun (i : σ) (actions : List (Action σ π)) : Option π :=
  (actions.filterMap fun a =>
    match a with
    | .begin j operation => if j = i then some operation else none
    | _ => none).getLast?

omit [DecidableEq ρ] in
theorem begun_begin (i : σ) (operation : π) (actions : List (Action σ π)) :
    begun i (actions ++ [.begin i operation]) = some operation := by
  simp [begun, List.filterMap_append]

omit [DecidableEq ρ] in
theorem begun_other {i : σ} {a : Action σ π} (h : ∀ operation, a ≠ .begin i operation)
    (actions : List (Action σ π)) : begun i (actions ++ [a]) = begun i actions := by
  cases a with
  | begin j operation =>
    have hne : j ≠ i := fun heq => h operation (heq ▸ rfl)
    simp [begun, List.filterMap_append, hne]
  | advance j => simp [begun, List.filterMap_append]
  | abort j => simp [begun, List.filterMap_append]

variable {promise : π → δ → δ → Prop} {program : π → Txn ρ δ ε α} {w w' : World σ ρ δ ε α}
  {i j : σ} {s s' : Session ρ δ ε α} {actions : List (Action σ π)}

/-- Each session stands before a program that keeps the promise of its operation. -/
structure Attributed (D : Discipline ρ δ) (promise : π → δ → δ → Prop)
    (actions : List (Action σ π)) (w : World σ ρ δ ε α) : Prop where
  sound : Sound D w
  keeps : ∀ {i s}, w.session i = some s → ∃ operation, begun i actions = some operation ∧
    KeepsPromise D (promise operation) s.program (w.held i) s.pending w.committed

/-- A statement changes neither the program nor the locks of another session. -/
theorem statement_other (h : w.statement i s = some w') (hj : j ≠ i) :
    w'.session j = w.session j ∧ w'.held j = w.held j := by
  obtain ⟨program, pending⟩ := s
  cases program with
  | done a =>
    obtain ⟨d, -, rfl⟩ := Option.map_eq_some_iff.1 h
    exact ⟨by simp [World.finish, hj], held_finish hj⟩
  | raise e =>
    obtain rfl := Option.some.inj h
    exact ⟨by simp [World.finish, hj], held_finish hj⟩
  | read next =>
    obtain ⟨d, -, rfl⟩ := Option.map_eq_some_iff.1 h
    exact ⟨by simp [World.put, hj], rfl⟩
  | lock row next =>
    simp only [World.statement, Option.ite_none_right_eq_some] at h
    obtain ⟨hfree, h⟩ := h
    obtain rfl := Option.some.inj h
    refine ⟨by simp [World.put, hj], ?_⟩
    ext r
    by_cases hr : r = row
    · subst hr
      rcases hfree with hfree | hfree <;> simp [World.held, hfree, Ne.symm hj]
    · simp [World.held, hr]
  | write change next conflict =>
    obtain ⟨d, -, rfl⟩ := Option.map_eq_some_iff.1 h
    cases change d with
    | some v => exact ⟨by simp [World.put, hj], rfl⟩
    | none => exact ⟨by simp [World.put, hj], rfl⟩

/-- What a statement leaves of its own session keeps the promise as well. -/
theorem statement_own {kept : δ → δ → Prop}
    (hs : KeepsPromise D kept s.program (w.held i) s.pending w.committed)
    (h : w.statement i s = some w') (hi : w'.session i = some s') :
    KeepsPromise D kept s'.program (w'.held i) s'.pending w'.committed := by
  obtain ⟨program, pending⟩ := s
  cases program with
  | done a =>
    obtain ⟨d, -, rfl⟩ := Option.map_eq_some_iff.1 h
    simp [World.finish] at hi
  | raise e =>
    obtain rfl := Option.some.inj h
    simp [World.finish] at hi
  | read next =>
    obtain ⟨d, hd, rfl⟩ := Option.map_eq_some_iff.1 h
    obtain rfl : (⟨next d, pending⟩ : Session ρ δ ε α) = s' := by simpa [World.put] using hi
    exact hs w.committed (D.refl _ _) d hd
  | lock row next =>
    simp only [World.statement, Option.ite_none_right_eq_some] at h
    obtain ⟨hfree, h⟩ := h
    obtain rfl := Option.some.inj h
    obtain rfl : (⟨next, pending⟩ : Session ρ δ ε α) = s' := by simpa [World.put] using hi
    have hheld : ({ w.put i ⟨next, pending⟩ with
        holder := Function.update w.holder row (some i) } : World σ ρ δ ε α).held i =
          insert row (w.held i) := by
      ext r
      by_cases hr : r = row <;> simp [World.held, hr]
    rw [hheld]
    exact hs w.committed (D.refl _ _)
  | write change next conflict =>
    obtain ⟨d, hd, rfl⟩ := Option.map_eq_some_iff.1 h
    have hboth := hs w.committed (D.refl _ _) d hd
    cases hc : change d with
    | some v =>
      obtain rfl : (⟨next, fun d => (pending d).bind change⟩ : Session ρ δ ε α) = s' := by
        simpa [World.put, hc] using hi
      exact hboth.1 v hc
    | none =>
      obtain rfl : (⟨conflict, pending⟩ : Session ρ δ ε α) = s' := by
        simpa [World.put, hc] using hi
      exact hboth.2 hc

/-- A commit keeps the promise of the session that made it. -/
theorem statement_commits {kept : δ → δ → Prop}
    (hs : KeepsPromise D kept s.program (w.held i) s.pending w.committed)
    (h : w.statement i s = some w') :
    w'.committed = w.committed ∨ kept w.committed w'.committed := by
  obtain ⟨program, pending⟩ := s
  cases program with
  | done a =>
    obtain ⟨d, hd, rfl⟩ := Option.map_eq_some_iff.1 h
    exact .inr (hs w.committed (D.refl _ _) d hd)
  | raise e =>
    obtain rfl := Option.some.inj h
    exact .inl rfl
  | read next =>
    obtain ⟨d, -, rfl⟩ := Option.map_eq_some_iff.1 h
    exact .inl rfl
  | lock row next =>
    simp only [World.statement, Option.ite_none_right_eq_some] at h
    obtain rfl := Option.some.inj h.2
    exact .inl rfl
  | write change next conflict =>
    obtain ⟨d, -, rfl⟩ := Option.map_eq_some_iff.1 h
    cases change d with
    | some v => exact .inl rfl
    | none => exact .inl rfl

variable {I : δ → Prop}

theorem attributed_step {a : Action σ π}
    (hsafe : ∀ operation d, I d → Safe D (program operation) ∅ some d)
    (hcommits : ∀ {held d d'}, D.commits held d d' → I d → I d')
    (hkeeps : ∀ operation d, I d → KeepsPromise D (promise operation) (program operation) ∅ some d)
    (hw : Attributed D promise actions w ∧ I w.committed) (h : w.step program a = some w') :
    Attributed D promise (actions ++ [a]) w' ∧ I w'.committed := by
  obtain ⟨hw, hd⟩ := hw
  obtain ⟨hsound, hd'⟩ := sound_step hsafe hcommits ⟨hw.sound, hd⟩ h
  refine ⟨⟨hsound, ?_⟩, hd'⟩
  cases a with
  | begin i operation =>
    cases hi : w.session i with
    | some s => simp [World.step, hi] at h
    | none =>
      simp only [World.step, hi] at h
      obtain rfl := Option.some.inj h
      intro j s hj
      by_cases hji : j = i
      · subst hji
        obtain rfl : (⟨program operation, some⟩ : Session ρ δ ε α) = s := by
          simpa [World.put] using hj
        have hheld : w.held j = ∅ := by
          ext row
          refine ⟨fun hrow => ?_, fun hrow => (by cases hrow)⟩
          simpa [hi] using hw.sound.engaged hrow
        refine ⟨operation, begun_begin j operation actions, ?_⟩
        change KeepsPromise D _ _ (w.held j) _ _
        rw [hheld]
        exact hkeeps operation w.committed hd
      · rw [begun_other (by rintro other ⟨⟩; exact hji rfl)]
        exact hw.keeps (by simpa [World.put, hji] using hj)
  | advance i =>
    intro j s hj
    rw [begun_other (fun _ h => (by cases h))]
    cases hi : w.session i with
    | none => simp [World.step, hi] at h
    | some own =>
      simp only [World.step, hi] at h
      by_cases hji : j = i
      · subst hji
        obtain ⟨operation, hbegun, hown⟩ := hw.keeps hi
        exact ⟨operation, hbegun, statement_own hown h hj⟩
      · obtain ⟨hsession, hheld⟩ := statement_other h hji
        obtain ⟨operation, hbegun, hother⟩ := hw.keeps (hsession ▸ hj)
        refine ⟨operation, hbegun, ?_⟩
        rw [hheld]
        -- what the other session has committed is among what this one may rely on
        rcases (sound_statement hw.sound hi h).2 with hsame | hcommits
        · exact hsame ▸ hother
        · exact keepsPromise_stable hother
            (D.others (fun row hrow => held_disjoint (Ne.symm hji) hrow) hcommits)
  | abort i =>
    intro j s hj
    rw [begun_other (fun _ h => (by cases h))]
    cases hi : w.session i with
    | none => simp [World.step, hi] at h
    | some own =>
      simp only [World.step, hi] at h
      obtain rfl := Option.some.inj h
      by_cases hji : j = i
      · simp [World.finish, hji] at hj
      · rw [held_finish hji]
        exact hw.keeps (by simpa [World.finish, hji] using hj)

/-- In every interleaving, whatever changes what is committed is the end of a transaction,
and the change is what its operation promises. -/
theorem commit_keeps_promise (promise : π → δ → δ → Prop) {a : Action σ π}
    (hsafe : ∀ operation d, I d → Safe D (program operation) ∅ some d)
    (hcommits : ∀ {held d d'}, D.commits held d d' → I d → I d')
    (hkeeps : ∀ operation d, I d → KeepsPromise D (promise operation) (program operation) ∅ some d)
    (hd : I d)
    (hrun : run (World.step program) (World.atRest d : World σ ρ δ ε α) actions = some w)
    (h : w.step program a = some w') :
    w'.committed = w.committed ∨ ∃ i operation, a = .advance i ∧
      begun i actions = some operation ∧ promise operation w.committed w'.committed := by
  have hstart : Attributed D promise ([] : List (Action σ π)) (World.atRest d : World σ ρ δ ε α) :=
    ⟨⟨fun h => (by cases h), fun h => (by cases h)⟩, fun h => (by cases h)⟩
  obtain ⟨hw, -⟩ : Attributed D promise actions w ∧ I w.committed :=
    run_history (fun actions w => Attributed D promise actions w ∧ I w.committed) ⟨hstart, hd⟩
      (fun _ _ _ _ _ hw hstep => attributed_step hsafe hcommits hkeeps hw hstep) hrun
  cases a with
  | begin i operation =>
    cases hi : w.session i with
    | some s => simp [World.step, hi] at h
    | none =>
      simp only [World.step, hi] at h
      obtain rfl := Option.some.inj h
      exact .inl rfl
  | advance i =>
    cases hi : w.session i with
    | none => simp [World.step, hi] at h
    | some s =>
      simp only [World.step, hi] at h
      obtain ⟨operation, hbegun, hs⟩ := hw.keeps hi
      exact (statement_commits hs h).imp_right fun hpromise =>
        ⟨i, operation, rfl, hbegun, hpromise⟩
  | abort i =>
    cases hi : w.session i with
    | none => simp [World.step, hi] at h
    | some s =>
      simp only [World.step, hi] at h
      obtain rfl := Option.some.inj h
      exact .inl rfl

end Runs

end WechatBot.Promises
