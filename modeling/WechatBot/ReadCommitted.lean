import Mathlib.Data.Set.Insert
import Mathlib.Logic.Function.Basic
import WechatBot.Runs
/-!
# Transactions under READ COMMITTED

A transaction is a program of statements: reads, row locks and writes. Each statement sees
what is committed when it begins, with the writes of its own transaction; a lock is kept to
the end. The last part is a rely-guarantee logic: each program is proved by itself,
against whatever the other sessions may commit while it holds its locks.
-/

namespace WechatBot.ReadCommitted

open Runs (run run_invariant)

variable {ρ δ ε α β σ π : Type}

/-- `ρ` names the rows, `δ` is the type of the databases. A write that the constraints
refuse goes on with its last branch. -/
inductive Txn (ρ δ ε α : Type) where
  | done (a : α)
  | raise (e : ε)
  | read (next : δ → Txn ρ δ ε α)
  | lock (row : ρ) (next : Txn ρ δ ε α)
  | write (change : δ → Option δ) (next conflict : Txn ρ δ ε α)

namespace Txn

def bind : Txn ρ δ ε α → (α → Txn ρ δ ε β) → Txn ρ δ ε β
  | done a, f => f a
  | raise e, _ => raise e
  | read next, f => read fun d => (next d).bind f
  | lock row next, f => lock row (next.bind f)
  | write change next conflict, f => write change (next.bind f) (conflict.bind f)

instance : Monad (Txn ρ δ ε) where
  pure := done
  bind := bind

/-- A plain `SELECT`. -/
def select (f : δ → α) : Txn ρ δ ε α := read fun d => done (f d)

def lockRows : List ρ → Txn ρ δ ε Unit
  | [] => done ()
  | row :: rows => lock row (lockRows rows)

/-- `SELECT … FOR UPDATE`: the statement finds its keys, waits for the rows of each of
them in turn, and reads what is there of each key when it holds them all. -/
def forUpdate {κ : Type} (keys : δ → List κ) (rows : κ → List ρ) (value : δ → κ → Option α) :
    Txn ρ δ ε (List α) :=
  read fun d => (lockRows ((keys d).flatMap rows)).bind fun _ =>
    select fun d' => (keys d).filterMap (value d')

/-- An `UPDATE`, a `DELETE` or an `INSERT` that no constraint can refuse. -/
def execute (change : δ → δ) : Txn ρ δ ε Unit :=
  write (fun d => some (change d)) (done ()) (done ())

/-- An `INSERT`, with the error for a violated constraint. -/
def insert (change : δ → Option δ) (e : ε) : Txn ρ δ ε Unit :=
  write change (done ()) (raise e)

def refuse (c : Prop) [Decidable c] (e : ε) : Txn ρ δ ε Unit :=
  if c then raise e else done ()

/-- The transaction runs with no other session, and is committed when it does not raise. -/
def alone : Txn ρ δ ε α → δ → Except ε (α × δ)
  | done a, d => .ok (a, d)
  | raise e, _ => .error e
  | read next, d => (next d).alone d
  | lock _ next, d => next.alone d
  | write change next conflict, d =>
    match change d with
    | some d' => next.alone d'
    | none => conflict.alone d

theorem bind_alone {x : Txn ρ δ ε α} {f : α → Txn ρ δ ε β} {d d' : δ} {b : β} :
    (x >>= f).alone d = .ok (b, d') ↔
      ∃ a m, x.alone d = .ok (a, m) ∧ (f a).alone m = .ok (b, d') := by
  change (x.bind f).alone d = _ ↔ _
  induction x generalizing d with
  | done a => simp [bind, alone]
  | raise e => simp [bind, alone]
  | read next ih => simpa [bind, alone] using ih d
  | lock row next ih => simpa [bind, alone] using ih
  | write change next conflict ihn ihc =>
    simp only [bind, alone]
    cases change d with
    | some m => simpa using ihn
    | none => simpa using ihc

@[simp] theorem pure_alone {a : α} {r : α × δ} {d : δ} :
    (pure a : Txn ρ δ ε α).alone d = .ok r ↔ (a, d) = r := by
  change Except.ok (a, d) = _ ↔ _
  simp

@[simp] theorem done_alone {a : α} {r : α × δ} {d : δ} :
    (done a : Txn ρ δ ε α).alone d = .ok r ↔ (a, d) = r := by
  simp [alone]

@[simp] theorem raise_alone {e : ε} {r : α × δ} {d : δ} :
    (raise e : Txn ρ δ ε α).alone d ≠ .ok r := by
  simp [alone]

@[simp] theorem select_alone {f : δ → α} {a : α} {d d' : δ} :
    (select f : Txn ρ δ ε α).alone d = .ok (a, d') ↔ f d = a ∧ d = d' := by
  simp [select, alone]

theorem lockRows_alone (rows : List ρ) (d : δ) :
    (lockRows rows : Txn ρ δ ε Unit).alone d = .ok ((), d) := by
  induction rows with
  | nil => rfl
  | cons row rows ih => exact ih

/-- A locking read alone finds what the database has. -/
@[simp] theorem forUpdate_alone {κ : Type} {keys : δ → List κ} {rows : κ → List ρ}
    {value : δ → κ → Option α} {found : List α} {d d' : δ} :
    (forUpdate keys rows value : Txn ρ δ ε (List α)).alone d = .ok (found, d') ↔
      (keys d).filterMap (value d) = found ∧ d = d' := by
  change ((lockRows ((keys d).flatMap rows) : Txn ρ δ ε Unit) >>=
    fun _ => select fun d' => (keys d).filterMap (value d')).alone d = _ ↔ _
  rw [bind_alone]
  simp [lockRows_alone]

@[simp] theorem execute_alone {change : δ → δ} {u : Unit} {d d' : δ} :
    (execute change : Txn ρ δ ε Unit).alone d = .ok (u, d') ↔ change d = d' := by
  simp [execute, alone]

@[simp] theorem insert_alone {change : δ → Option δ} {e : ε} {u : Unit} {d d' : δ} :
    (insert change e : Txn ρ δ ε Unit).alone d = .ok (u, d') ↔ change d = some d' := by
  simp only [insert, alone]
  cases change d <;> simp

@[simp] theorem refuse_alone {c : Prop} [Decidable c] {e : ε} {u : Unit} {d d' : δ} :
    (refuse c e : Txn ρ δ ε Unit).alone d = .ok (u, d') ↔ ¬ c ∧ d = d' := by
  by_cases h : c <;> simp [refuse, h]

end Txn

/-- A transaction in progress; `pending` are its own writes. -/
structure Session (ρ δ ε α : Type) where
  program : Txn ρ δ ε α
  pending : δ → Option δ

structure World (σ ρ δ ε α : Type) where
  committed : δ
  holder : ρ → Option σ
  session : σ → Option (Session ρ δ ε α)

/-- `advance` is the next statement of a session, or the end of its transaction. -/
inductive Action (σ π : Type) where
  | begin (i : σ) (operation : π)
  | advance (i : σ)
  | abort (i : σ)

namespace World

variable [DecidableEq σ] [DecidableEq ρ]

def atRest (d : δ) : World σ ρ δ ε α := ⟨d, fun _ => none, fun _ => none⟩

def put (w : World σ ρ δ ε α) (i : σ) (s : Session ρ δ ε α) : World σ ρ δ ε α :=
  { w with session := Function.update w.session i (some s) }

/-- The end of a transaction releases its locks. -/
def finish (w : World σ ρ δ ε α) (i : σ) (d : δ) : World σ ρ δ ε α where
  committed := d
  holder := fun row => if w.holder row = some i then none else w.holder row
  session := Function.update w.session i none

def held (w : World σ ρ δ ε α) (i : σ) : Set ρ := {row | w.holder row = some i}

/-- A lock that another session holds is waited for. -/
def statement (w : World σ ρ δ ε α) (i : σ) (s : Session ρ δ ε α) : Option (World σ ρ δ ε α) :=
  match s.program with
  | .done _ => (s.pending w.committed).map (w.finish i)
  | .raise _ => some (w.finish i w.committed)
  | .read next => (s.pending w.committed).map fun d => w.put i ⟨next d, s.pending⟩
  | .lock row next =>
    if w.holder row = none ∨ w.holder row = some i then
      some { w.put i ⟨next, s.pending⟩ with holder := Function.update w.holder row (some i) }
    else none
  | .write change next conflict => (s.pending w.committed).map fun d =>
    match change d with
    | some _ => w.put i ⟨next, fun d => (s.pending d).bind change⟩
    | none => w.put i ⟨conflict, s.pending⟩

/-- Any session can be rolled back at any time: by its client, or to end a deadlock. -/
def step (program : π → Txn ρ δ ε α) (w : World σ ρ δ ε α) :
    Action σ π → Option (World σ ρ δ ε α)
  | .begin i operation =>
    match w.session i with
    | some _ => none
    | none => some (w.put i ⟨program operation, some⟩)
  | .advance i =>
    match w.session i with
    | some s => w.statement i s
    | none => none
  | .abort i =>
    match w.session i with
    | some _ => some (w.finish i w.committed)
    | none => none

end World

/-- `keeps held` is what a session that holds those locks may count on while others
commit; `commits held` is what it may commit itself. -/
structure Discipline (ρ δ : Type) where
  keeps : Set ρ → δ → δ → Prop
  commits : Set ρ → δ → δ → Prop
  refl : ∀ held d, keeps held d d
  trans : ∀ {held a b c}, keeps held a b → keeps held b c → keeps held a c
  mono : ∀ {held more a b}, held ⊆ more → keeps more a b → keeps held a b
  others : ∀ {held own a b}, (∀ row ∈ own, row ∉ held) → commits own a b → keeps held a b

section Logic

variable (D : Discipline ρ δ)

/-- The weakest precondition against any commits of others before each statement. -/
def wp (Q : α → Set ρ → (δ → Option δ) → δ → Prop) :
    Txn ρ δ ε α → Set ρ → (δ → Option δ) → δ → Prop
  | .done a, held, pending, d => Q a held pending d
  | .raise _, _, _, _ => True
  | .read next, held, pending, d => ∀ d', D.keeps held d d' → ∀ v, pending d' = some v →
    wp Q (next v) held pending d'
  | .lock row next, held, pending, d => ∀ d', D.keeps held d d' →
    wp Q next (insert row held) pending d'
  | .write change next conflict, held, pending, d => ∀ d', D.keeps held d d' →
    ∀ v, pending d' = some v →
      (∀ v', change v = some v' → wp Q next held (fun d => (pending d).bind change) d') ∧
        (change v = none → wp Q conflict held pending d')

/-- What the commit of a transaction needs. -/
def Committable (held : Set ρ) (pending : δ → Option δ) (d : δ) : Prop :=
  ∀ d', D.keeps held d d' → ∀ e, pending d' = some e → D.commits held d' e

/-- Whatever the transaction commits, `D` allows. -/
def Safe (p : Txn ρ δ ε α) : Set ρ → (δ → Option δ) → δ → Prop :=
  wp D (fun _ => Committable D) p

variable {D} {Q Q' : α → Set ρ → (δ → Option δ) → δ → Prop} {held : Set ρ}
  {pending : δ → Option δ} {d d' : δ}

/-- What may be committed may still be after the others' commits. -/
theorem committable_stable (h : Committable D held pending d) (hd : D.keeps held d d') :
    Committable D held pending d' :=
  fun e he => h e (D.trans hd he)

/-- A safe rest stays safe after the others' commits. -/
theorem safe_stable {p : Txn ρ δ ε α} (h : Safe D p held pending d) (hd : D.keeps held d d') :
    Safe D p held pending d' := by
  cases p with
  | done a => exact committable_stable h hd
  | raise e => trivial
  | read next => exact fun e he => h e (D.trans hd he)
  | lock row next => exact fun e he => h e (D.trans hd he)
  | write change next conflict => exact fun e he => h e (D.trans hd he)

/-- The rule of sequence. -/
theorem wp_bind {x : Txn ρ δ ε α} {f : α → Txn ρ δ ε β}
    {Q : β → Set ρ → (δ → Option δ) → δ → Prop}
    (h : wp D (fun a => wp D Q (f a)) x held pending d) : wp D Q (x >>= f) held pending d := by
  change wp D Q (x.bind f) held pending d
  induction x generalizing held pending d with
  | done a => exact h
  | raise e => trivial
  | read next ih => exact fun e he v hv => ih v (h e he v hv)
  | lock row next ih => exact fun e he => ih (h e he)
  | write change next conflict ihn ihc =>
    intro e he v hv
    exact ⟨fun v' hv' => ihn ((h e he v hv).1 v' hv'), fun hc => ihc ((h e he v hv).2 hc)⟩

theorem wp_refuse {c : Prop} [Decidable c] {e : ε}
    {Q : Unit → Set ρ → (δ → Option δ) → δ → Prop} (h : ¬ c → Q () held pending d) :
    wp D Q (Txn.refuse c e) held pending d := by
  by_cases hc : c
  · rw [Txn.refuse, if_pos hc]
    trivial
  · rw [Txn.refuse, if_neg hc]
    exact h hc

/-- A read sees the database of its own moment. -/
theorem wp_select {f : δ → α}
    (h : ∀ d', D.keeps held d d' → ∀ v, pending d' = some v → Q (f v) held pending d') :
    wp D Q (Txn.select f : Txn ρ δ ε α) held pending d := h

/-- A lock adds its rows to those that are held. -/
theorem wp_lockRows {rows : List ρ} {Q : Unit → Set ρ → (δ → Option δ) → δ → Prop}
    (h : ∀ d', D.keeps held d d' → Q () (held ∪ {row | row ∈ rows}) pending d') :
    wp D Q (Txn.lockRows rows : Txn ρ δ ε Unit) held pending d := by
  induction rows generalizing held d with
  | nil =>
    simpa [wp, Txn.lockRows] using h d (D.refl held d)
  | cons row rows ih =>
    intro e he
    apply ih
    intro d' hd
    have hset : insert row held ∪ {r | r ∈ rows} = held ∪ {r | r ∈ row :: rows} := by
      ext r
      simp [or_left_comm, or_assoc]
    rw [hset]
    exact h d' (D.trans he (D.mono (Set.subset_insert row held) hd))

/-- A locking read sees the keys of one moment and the rows of a later one. -/
theorem wp_forUpdate {κ : Type} {keys : δ → List κ} {rows : κ → List ρ} {value : δ → κ → Option α}
    {Q : List α → Set ρ → (δ → Option δ) → δ → Prop}
    (h : ∀ a, D.keeps held d a → ∀ u, pending a = some u → ∀ b, D.keeps held a b →
      ∀ v, pending b = some v → Q ((keys u).filterMap (value v))
        (held ∪ {row | row ∈ (keys u).flatMap rows}) pending b) :
    wp D Q (Txn.forUpdate keys rows value : Txn ρ δ ε (List α)) held pending d := by
  intro a ha u hu
  apply wp_bind
  apply wp_lockRows
  intro m hm
  apply wp_select
  intro b hb v hv
  exact h a ha u hu b (D.trans hm (D.mono Set.subset_union_left hb)) v hv

/-- A write waits in the transaction until the commit. -/
theorem wp_execute {change : δ → δ} {Q : Unit → Set ρ → (δ → Option δ) → δ → Prop}
    (h : ∀ d', D.keeps held d d' → Q () held (fun d => (pending d).map change) d') :
    wp D Q (Txn.execute change : Txn ρ δ ε Unit) held pending d := by
  intro e he v hv
  have hmap : (fun d => (pending d).bind fun d => some (change d)) =
      fun d => (pending d).map change := by
    funext d
    cases pending d <;> rfl
  refine ⟨fun v' hv' => ?_, nofun⟩
  rw [hmap]
  exact h e he

theorem wp_insert {change : δ → Option δ} {e : ε} {Q : Unit → Set ρ → (δ → Option δ) → δ → Prop}
    (h : ∀ d', D.keeps held d d' → Q () held (fun d => (pending d).bind change) d') :
    wp D Q (Txn.insert change e : Txn ρ δ ε Unit) held pending d := by
  intro d' hd v hv
  exact ⟨fun v' hv' => h d' hd, fun _ => trivial⟩

end Logic

section Runs

variable [DecidableEq σ] [DecidableEq ρ] (D : Discipline ρ δ)

/-- Each session stands before a program that is safe with the locks it holds. -/
structure Sound (w : World σ ρ δ ε α) : Prop where
  safe : ∀ {i s}, w.session i = some s → Safe D s.program (w.held i) s.pending w.committed
  engaged : ∀ {row i}, w.holder row = some i → (w.session i).isSome

variable {D} {w w' : World σ ρ δ ε α} {i j : σ} {s : Session ρ δ ε α} {d d' : δ}

omit [DecidableEq σ] [DecidableEq ρ] in
/-- No row has two holders. -/
theorem held_disjoint (h : i ≠ j) {row : ρ} (hi : row ∈ w.held i) : row ∉ w.held j :=
  fun hj => h (Option.some.inj (hi.symm.trans hj))

omit [DecidableEq ρ] in
/-- The end of one session leaves the locks of the others. -/
theorem held_finish (h : j ≠ i) : (w.finish i d).held j = w.held j := by
  ext row
  by_cases hi : w.holder row = some i
  · simp [World.held, World.finish, hi, h.symm]
  · simp [World.held, World.finish, hi]

omit [DecidableEq ρ] in
/-- A commit that keeps what the others hold keeps them sound. -/
theorem sound_finish (hw : Sound D w)
    (hd : ∀ j, j ≠ i → D.keeps (w.held j) w.committed d) : Sound D (w.finish i d) := by
  constructor
  · intro j t hj
    by_cases h : j = i
    · simp [World.finish, h] at hj
    · rw [held_finish h]
      have ht : w.session j = some t := by simpa [World.finish, h] using hj
      exact safe_stable (hw.safe ht) (hd j h)
  · intro row j hj
    by_cases hrow : w.holder row = some i
    · simp [World.finish, hrow] at hj
    · have hj' : w.holder row = some j := by simpa [World.finish, hrow] using hj
      have hne : j ≠ i := fun h => hrow (h ▸ hj')
      simpa [World.finish, hne] using hw.engaged hj'

omit [DecidableEq ρ] in
theorem sound_put (hw : Sound D w) (hs : Safe D s.program (w.held i) s.pending w.committed) :
    Sound D (w.put i s) := by
  constructor
  · intro j t hj
    by_cases h : j = i
    · subst h
      obtain rfl : s = t := by simpa [World.put] using hj
      exact hs
    · exact hw.safe (by simpa [World.put, h] using hj)
  · intro row j hj
    by_cases h : j = i
    · simp [World.put, h]
    · simpa [World.put, h] using hw.engaged hj

/-- A session may take a free row, or one it has. -/
theorem sound_lock {row : ρ} (hw : Sound D w)
    (hfree : w.holder row = none ∨ w.holder row = some i)
    (hs : Safe D s.program (insert row (w.held i)) s.pending w.committed) :
    Sound D { w.put i s with holder := Function.update w.holder row (some i) } := by
  constructor
  · intro j t hj
    by_cases h : j = i
    · subst h
      obtain rfl : s = t := by simpa [World.put] using hj
      have hheld : ({ w.put j s with holder := Function.update w.holder row (some j) } :
          World σ ρ δ ε α).held j = insert row (w.held j) := by
        ext r
        by_cases hr : r = row <;> simp [World.held, hr]
      rw [hheld]
      exact hs
    · have hheld : ({ w.put i s with holder := Function.update w.holder row (some i) } :
          World σ ρ δ ε α).held j = w.held j := by
        ext r
        by_cases hr : r = row
        · subst hr
          rcases hfree with hfree | hfree <;> simp [World.held, hfree, Ne.symm h]
        · simp [World.held, hr]
      rw [hheld]
      exact hw.safe (by simpa [World.put, h] using hj)
  · intro r j hj
    by_cases h : j = i
    · simp [World.put, h]
    · by_cases hr : r = row
      · simp [hr, Ne.symm h] at hj
      · simpa [World.put, h] using hw.engaged (by simpa [hr] using hj)

/-- What one statement does to what is committed. -/
theorem sound_statement (hw : Sound D w) (hi : w.session i = some s)
    (h : w.statement i s = some w') :
    Sound D w' ∧ (w'.committed = w.committed ∨
      D.commits (w.held i) w.committed w'.committed) := by
  have hsafe := hw.safe hi
  obtain ⟨program, pending⟩ := s
  cases program with
  | done a =>
    obtain ⟨d, hd, rfl⟩ := Option.map_eq_some_iff.1 h
    have hcommits : D.commits (w.held i) w.committed d := hsafe w.committed (D.refl _ _) d hd
    exact ⟨sound_finish hw fun j hj => D.others (fun row hr => held_disjoint hj.symm hr) hcommits,
      .inr hcommits⟩
  | raise e =>
    obtain rfl := Option.some.inj h
    exact ⟨sound_finish hw fun j _ => D.refl _ _, .inl rfl⟩
  | read next =>
    obtain ⟨d, hd, rfl⟩ := Option.map_eq_some_iff.1 h
    exact ⟨sound_put hw (hsafe w.committed (D.refl _ _) d hd), .inl rfl⟩
  | lock row next =>
    simp only [World.statement, Option.ite_none_right_eq_some] at h
    obtain ⟨hfree, h⟩ := h
    obtain rfl := Option.some.inj h
    exact ⟨sound_lock hw hfree (hsafe w.committed (D.refl _ _)), .inl rfl⟩
  | write change next conflict =>
    obtain ⟨d, hd, rfl⟩ := Option.map_eq_some_iff.1 h
    have hboth := hsafe w.committed (D.refl _ _) d hd
    cases hc : change d with
    | some v => exact ⟨sound_put hw (hboth.1 v hc), .inl rfl⟩
    | none => exact ⟨sound_put hw (hboth.2 hc), .inl rfl⟩

/-- Every step keeps the sessions sound and the invariant of the committed database. -/
theorem sound_step {program : π → Txn ρ δ ε α} {I : δ → Prop} {a : Action σ π}
    (hbegin : ∀ operation d, I d → Safe D (program operation) ∅ some d)
    (hkeeps : ∀ {held d d'}, D.commits held d d' → I d → I d') (hw : Sound D w ∧ I w.committed)
    (h : w.step program a = some w') : Sound D w' ∧ I w'.committed := by
  cases a with
  | begin i operation =>
    cases hi : w.session i with
    | some s => simp [World.step, hi] at h
    | none =>
      simp only [World.step, hi] at h
      obtain rfl := Option.some.inj h
      have hheld : w.held i = ∅ := by
        ext row
        refine ⟨fun hrow => ?_, nofun⟩
        simpa [hi] using hw.1.engaged hrow
      refine ⟨sound_put hw.1 ?_, hw.2⟩
      rw [hheld]
      exact hbegin operation w.committed hw.2
  | advance i =>
    cases hi : w.session i with
    | none => simp [World.step, hi] at h
    | some s =>
      simp only [World.step, hi] at h
      obtain ⟨hsound, hsame | hcommits⟩ := sound_statement hw.1 hi h
      · exact ⟨hsound, hsame ▸ hw.2⟩
      · exact ⟨hsound, hkeeps hcommits hw.2⟩
  | abort i =>
    cases hi : w.session i with
    | none => simp [World.step, hi] at h
    | some s =>
      simp only [World.step, hi] at h
      obtain rfl := Option.some.inj h
      exact ⟨sound_finish hw.1 fun j _ => D.refl _ _, hw.2⟩

/-- An invariant that every allowed commit keeps holds of whatever is committed, in
every interleaving of transactions that are safe where the invariant holds. -/
theorem committed_run {program : π → Txn ρ δ ε α} {I : δ → Prop} {actions : List (Action σ π)}
    (hbegin : ∀ operation d, I d → Safe D (program operation) ∅ some d)
    (hkeeps : ∀ {held d d'}, D.commits held d d' → I d → I d') (hd : I d)
    (hrun : run (World.step program) (World.atRest d : World σ ρ δ ε α) actions = some w) :
    I w.committed := by
  have hstart : Sound D (World.atRest d : World σ ρ δ ε α) ∧
      I (World.atRest d : World σ ρ δ ε α).committed :=
    ⟨⟨nofun, nofun⟩, hd⟩
  exact (run_invariant (fun w => Sound D w ∧ I w.committed)
    (fun _ _ _ hw h => sound_step hbegin hkeeps hw h) hstart hrun).2

end Runs

end WechatBot.ReadCommitted
