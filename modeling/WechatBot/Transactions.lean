import Mathlib.Logic.Basic

/-!
# Programs that keep their state when they raise

A program over a state that may raise, and that does not undo its writes when it does.
`Reads` programs never write. A program is `Sure` when it raises nothing but the fatal
error, and `Clean` when any other error leaves the state as the program found it: first
every check, then the writes.
-/
namespace WechatBot.Transactions

variable {ε σ α β : Type}

/-- A sequence succeeds exactly when both parts do, one after the other. -/
theorem bind_ok {x : EStateM ε σ α} {f : α → EStateM ε σ β} {s t : σ} {b : β} :
    (x >>= f) s = .ok b t ↔ ∃ a u, x s = .ok a u ∧ f a u = .ok b t := by
  show (match x s with | .ok a u => f a u | .error e u => .error e u) = _ ↔ _
  cases x s <;> simp [and_assoc]

/-- A sequence fails exactly when its first part does, or its second after it. -/
theorem bind_error {x : EStateM ε σ α} {f : α → EStateM ε σ β} {s t : σ} {e : ε} :
    (x >>= f) s = .error e t ↔ x s = .error e t ∨ ∃ a u, x s = .ok a u ∧ f a u = .error e t := by
  show (match x s with | .ok a u => f a u | .error e u => .error e u) = _ ↔ _
  cases x s <;> simp [and_assoc]

theorem bind_of_ok {x : EStateM ε σ α} {f : α → EStateM ε σ β} {s u : σ} {a : α}
    (h : x s = .ok a u) : (x >>= f) s = f a u := by
  show (match x s with | .ok a u => f a u | .error e u => .error e u) = _
  rw [h]

theorem bind_of_error {x : EStateM ε σ α} {f : α → EStateM ε σ β} {s u : σ} {e : ε}
    (h : x s = .error e u) : (x >>= f) s = .error e u := by
  show (match x s with | .ok a u => f a u | .error e u => .error e u) = _
  rw [h]

@[simp] theorem pure_ok {a b : α} {s t : σ} :
    (pure a : EStateM ε σ α) s = .ok b t ↔ a = b ∧ s = t := by
  show EStateM.Result.ok a s = _ ↔ _
  simp

@[simp] theorem pure_error {a : α} {e : ε} {s t : σ} :
    (pure a : EStateM ε σ α) s ≠ .error e t := nofun

@[simp] theorem throw_ok {e : ε} {a : α} {s t : σ} :
    (throw e : EStateM ε σ α) s ≠ .ok a t := nofun

@[simp] theorem throw_error {e e' : ε} {s t : σ} :
    (throw e : EStateM ε σ α) s = .error e' t ↔ e = e' ∧ s = t := by
  show EStateM.Result.error e s = _ ↔ _
  simp

@[simp] theorem get_ok {s t u : σ} : (get : EStateM ε σ σ) s = .ok t u ↔ s = t ∧ s = u := by
  show EStateM.Result.ok s s = _ ↔ _
  simp

@[simp] theorem modify_ok {g : σ → σ} {s t : σ} {a : Unit} :
    (modify g : EStateM ε σ Unit) s = .ok a t ↔ g s = t := by
  show EStateM.Result.ok () (g s) = _ ↔ _
  simp

@[simp] theorem set_ok {u s t : σ} {a : Unit} :
    (set u : EStateM ε σ Unit) s = .ok a t ↔ u = t := by
  show EStateM.Result.ok () u = _ ↔ _
  simp

/-- A check that raises before the rest of its block. -/
theorem guard_ok {c : Prop} [Decidable c] {e : ε} {f : Unit → EStateM ε σ α} {s t : σ} {a : α} :
    (if c then throw e >>= f else f ()) s = .ok a t ↔ ¬c ∧ f () s = .ok a t := by
  by_cases hc : c
  · simp only [hc, ↓reduceIte, not_true_eq_false, false_and, iff_false]
    exact nofun
  · simp [hc]

/-- The program can answer `a`. -/
def Answers (x : EStateM ε σ α) (a : α) : Prop := ∃ s t, x s = .ok a t

def Reads (x : EStateM ε σ α) : Prop :=
  ∀ s, (∀ a t, x s = .ok a t → t = s) ∧ ∀ e t, x s = .error e t → t = s

theorem Reads.ok {x : EStateM ε σ α} (h : Reads x) {s t : σ} {a : α} (hx : x s = .ok a t) : t = s :=
  (h s).1 a t hx

theorem reads_pure (a : α) : Reads (pure a : EStateM ε σ α) := by
  intro s
  constructor
  · intro b t h
    exact (pure_ok.mp h).2.symm
  · intro e t h
    exact absurd h pure_error

theorem reads_throw (e : ε) : Reads (throw e : EStateM ε σ α) := by
  intro s
  constructor
  · intro a t h
    exact absurd h throw_ok
  · intro e' t h
    exact (throw_error.mp h).2.symm

theorem reads_raise (e : ε) (f : α → EStateM ε σ β) : Reads (throw e >>= f) := reads_throw e

theorem reads_get : Reads (get : EStateM ε σ σ) := by
  intro s
  constructor
  · intro a t h
    exact (get_ok.mp h).2.symm
  · intro e t h
    cases h

theorem reads_bind {x : EStateM ε σ α} {f : α → EStateM ε σ β} (hx : Reads x)
    (hf : ∀ a, Reads (f a)) : Reads (x >>= f) := by
  intro s
  constructor
  · intro b t h
    obtain ⟨a, u, hfirst, hsecond⟩ := bind_ok.mp h
    rw [(hf a).ok hsecond, hx.ok hfirst]
  · intro e t h
    rcases bind_error.mp h with hfirst | ⟨a, u, hfirst, hsecond⟩
    · exact (hx s).2 e t hfirst
    · rw [(hf a u).2 e t hsecond, hx.ok hfirst]

theorem reads_ite {c : Prop} [Decidable c] {x y : EStateM ε σ α} (hx : Reads x) (hy : Reads y) :
    Reads (if c then x else y) := by
  split
  · exact hx
  · exact hy

theorem reads_guard {c : Prop} [Decidable c] {e : ε} {f : Unit → EStateM ε σ α}
    (hf : ¬c → Reads (f ())) : Reads (if c then throw e >>= f else f ()) := by
  split
  · exact reads_throw e
  · rename_i hc
    exact hf hc

def succeeded : EStateM.Result ε σ α → Bool
  | .ok _ _ => true
  | .error _ _ => false

/-- A read that succeeds leaves the state. -/
theorem Reads.succeeds {x : EStateM ε σ α} (h : Reads x) {s : σ} (hx : succeeded (x s) = true) :
    ∃ a, x s = .ok a s := by
  cases hresult : x s with
  | ok a t =>
    rw [h.ok hresult]
    exact ⟨a, rfl⟩
  | error e t =>
    rw [hresult] at hx
    cases hx

variable {γ : Type}

def Keeps (f : σ → γ) (x : EStateM ε σ α) : Prop := ∀ s a t, x s = .ok a t → f t = f s

theorem Reads.keeps {x : EStateM ε σ α} (h : Reads x) (f : σ → γ) : Keeps f x :=
  fun _ _ _ hx => congrArg f (h.ok hx)

theorem keeps_modify {f : σ → γ} {g : σ → σ} (h : ∀ s, f (g s) = f s) :
    Keeps f (modify g : EStateM ε σ Unit) := by
  intro s a t hx
  rw [← modify_ok.mp hx]
  exact h s

/-- What both parts keep is kept. -/
theorem keeps_bind {f : σ → γ} {x : EStateM ε σ α} {g : α → EStateM ε σ β} (hx : Keeps f x)
    (hg : ∀ a, Keeps f (g a)) : Keeps f (x >>= g) := by
  intro s b t h
  obtain ⟨a, u, hfirst, hsecond⟩ := bind_ok.mp h
  rw [hg a u b t hsecond, hx s a u hfirst]

theorem keeps_guard {f : σ → γ} {c : Prop} [Decidable c] {e : ε} {g : Unit → EStateM ε σ α}
    (hg : Keeps f (g ())) : Keeps f (if c then throw e >>= g else g ()) := by
  intro s a t h
  exact hg s a t (guard_ok.mp h).2

variable {fatal : ε}

def Sure (fatal : ε) (x : EStateM ε σ α) : Prop := ∀ s e t, x s = .error e t → e = fatal

def Clean (fatal : ε) (x : EStateM ε σ α) : Prop :=
  ∀ s e t, x s = .error e t → e ≠ fatal → t = s

theorem sure_pure (a : α) : Sure fatal (pure a : EStateM ε σ α) :=
  fun _ _ _ h => absurd h pure_error

theorem sure_fatal : Sure fatal (throw fatal : EStateM ε σ α) :=
  fun _ _ _ h => (throw_error.mp h).1.symm

theorem sure_get : Sure fatal (get : EStateM ε σ σ) := fun _ _ _ h => nomatch h

theorem sure_modify (g : σ → σ) : Sure fatal (modify g : EStateM ε σ Unit) :=
  fun _ _ _ h => nomatch h

theorem sure_set (u : σ) : Sure fatal (set u : EStateM ε σ Unit) := fun _ _ _ h => nomatch h

/-- A sequence of sure parts is sure. -/
theorem sure_bind {x : EStateM ε σ α} {f : α → EStateM ε σ β} (hx : Sure fatal x)
    (hf : ∀ a, Answers x a → Sure fatal (f a)) : Sure fatal (x >>= f) := by
  intro s e t h
  rcases bind_error.mp h with hfirst | ⟨a, u, hfirst, hsecond⟩
  · exact hx s e t hfirst
  · exact hf a ⟨s, u, hfirst⟩ u e t hsecond

theorem sure_ite {c : Prop} [Decidable c] {x y : EStateM ε σ α} (hx : Sure fatal x)
    (hy : Sure fatal y) : Sure fatal (if c then x else y) := by
  split
  · exact hx
  · exact hy

theorem Reads.clean {x : EStateM ε σ α} (h : Reads x) : Clean fatal x :=
  fun s e t hx _ => (h s).2 e t hx

/-- What can only fail fatally is clean. -/
theorem Sure.clean {x : EStateM ε σ α} (h : Sure fatal x) : Clean fatal x :=
  fun s e t hx hne => absurd (h s e t hx) hne

/-- After a read, a clean part is clean. -/
theorem clean_bind {x : EStateM ε σ α} {f : α → EStateM ε σ β} (hx : Reads x)
    (hf : ∀ a, Answers x a → Clean fatal (f a)) : Clean fatal (x >>= f) := by
  intro s e t h hne
  rcases bind_error.mp h with hfirst | ⟨a, u, hfirst, hsecond⟩
  · exact (hx s).2 e t hfirst
  · rw [hf a ⟨s, u, hfirst⟩ u e t hsecond hne, hx.ok hfirst]

/-- A refusal before anything is written is clean. -/
theorem clean_guard {c : Prop} [Decidable c] {e : ε} {f : Unit → EStateM ε σ α}
    (hf : ¬c → Clean fatal (f ())) : Clean fatal (if c then throw e >>= f else f ()) := by
  split
  · exact (reads_throw e).clean
  · rename_i hc
    exact hf hc

/-- An attempt that writes only when it answers `true`. -/
theorem clean_attempt {x : EStateM ε σ Bool} {f : Bool → EStateM ε σ β} (hx : Sure fatal x)
    (hfalse : ∀ s t, x s = .ok false t → t = s) (htrue : Sure fatal (f true))
    (hrest : Clean fatal (f false)) : Clean fatal (x >>= f) := by
  intro s e t h hne
  rcases bind_error.mp h with hfirst | ⟨a, u, hfirst, hsecond⟩
  · exact absurd (hx s e t hfirst) hne
  · cases a with
    | true => exact absurd (htrue u e t hsecond) hne
    | false => rw [hrest u e t hsecond hne, hfalse s u hfirst]

end WechatBot.Transactions
