/-!
# Results that succeed or fail

How a computation in `Except` can have succeeded, and how it can have failed: the rules
that take a `do` block apart one bind at a time.
-/
namespace WechatBot.Results

variable {ε α β : Type}

theorem bind_ok {x : Except ε α} {f : α → Except ε β} {b : β} :
    (x >>= f) = .ok b ↔ ∃ a, x = .ok a ∧ f a = .ok b := by
  cases x <;> simp [bind, Except.bind]

theorem bind_error {x : Except ε α} {f : α → Except ε β} :
    (∃ e, (x >>= f) = .error e) ↔ (∃ e, x = .error e) ∨ ∃ a, x = .ok a ∧ ∃ e, f a = .error e := by
  cases x <;> simp [bind, Except.bind]

/-- One check after the other. -/
theorem andThen_ok {x y : Except ε Unit} :
    (x >>= fun _ => y) = .ok () ↔ x = .ok () ∧ y = .ok () := by
  rw [bind_ok]
  constructor
  · rintro ⟨_, hx, hy⟩
    exact ⟨hx, hy⟩
  · rintro ⟨hx, hy⟩
    exact ⟨(), hx, hy⟩

theorem map_ok {x : Except ε α} {f : α → β} {b : β} :
    x.map f = .ok b ↔ ∃ a, x = .ok a ∧ f a = b := by
  cases x <;> simp [Except.map]

theorem map_error {x : Except ε α} {f : α → β} :
    (∃ e, x.map f = .error e) ↔ ∃ e, x = .error e := by
  cases x <;> simp [Except.map]

theorem elim_ok {x : Option α} {e : ε} {a : α} :
    x.elim (.error e) Except.ok = .ok a ↔ x = some a := by
  cases x <;> simp

theorem throw_bind_ne {e : ε} {f : α → Except ε β} {b : β} :
    ((throw e : Except ε α) >>= f) ≠ .ok b := by
  intro h
  cases h

end WechatBot.Results
