import Mathlib.Logic.Function.Basic
import Mathlib.Logic.Relation

/-!
# Sessions that lock rows

Database sessions that take row locks one after another and keep them to the end of
their transaction, and that may wait for one another outside the database. The lock
modes and their conflicts are PostgreSQL's.
-/
namespace WechatBot.RowLocks

variable {ρ σ : Type*} [DecidableEq σ]

inductive Mode where
  | keyShare | share | noKeyUpdate | update
  deriving DecidableEq, Repr

def Mode.conflicts : Mode → Mode → Bool
  | .keyShare, .update => true
  | .keyShare, _ => false
  | .share, .noKeyUpdate => true
  | .share, .update => true
  | .share, _ => false
  | .noKeyUpdate, .keyShare => false
  | .noKeyUpdate, _ => true
  | .update, _ => true

theorem Mode.conflicts_symm (a b : Mode) : a.conflicts b = b.conflicts a := by
  cases a <;> cases b <;> rfl

inductive Move (ρ σ : Type*) where
  | lock (row : ρ) (mode : Mode)
  | await (other : σ)

abbrev Programs (ρ σ : Type*) := σ → List (Move ρ σ)

inductive Status where
  | idle
  | running (done : Nat)
  | ended
  deriving DecidableEq, Repr

abbrev State (σ : Type*) := σ → Status

/-- The session's next move; it has one only while it runs. -/
def next (programs : Programs ρ σ) (st : State σ) (s : σ) : Option (Move ρ σ) :=
  match st s with
  | .running done => (programs s)[done]?
  | _ => none

def Holds (programs : Programs ρ σ) (st : State σ) (s : σ) (row : ρ) (mode : Mode) : Prop :=
  ∃ done, st s = .running done ∧ .lock row mode ∈ (programs s).take done

def Blocks (programs : Programs ρ σ) (st : State σ) (s t : σ) (row : ρ) (mode : Mode) : Prop :=
  t ≠ s ∧ ∃ mode', Holds programs st t row mode' ∧ mode.conflicts mode' = true

/-- The wait-for relation: a session waits for the holder of a conflicting lock, or for
the end of a session it awaits. -/
inductive WaitsFor (programs : Programs ρ σ) (st : State σ) : σ → σ → Prop where
  | row (s t : σ) (row : ρ) (mode : Mode) (hnext : next programs st s = some (.lock row mode))
      (hblocks : Blocks programs st s t row mode) : WaitsFor programs st s t
  | session (s t : σ) (hnext : next programs st s = some (.await t)) (hopen : st t ≠ .ended) :
      WaitsFor programs st s t

/-- A session that others await is begun by them. -/
def MayBegin (programs : Programs ρ σ) (st : State σ) (s : σ) : Prop :=
  ∀ t, .await s ∈ programs t → next programs st t = some (.await s)

inductive Step (programs : Programs ρ σ) : State σ → State σ → Prop where
  | begin (st : State σ) (s : σ) (hidle : st s = .idle) (hmay : MayBegin programs st s) :
      Step programs st (Function.update st s (.running 0))
  | lock (st : State σ) (s : σ) (done : Nat) (row : ρ) (mode : Mode)
      (hrunning : st s = .running done) (hmove : (programs s)[done]? = some (.lock row mode))
      (hfree : ∀ t, ¬ Blocks programs st s t row mode) :
      Step programs st (Function.update st s (.running (done + 1)))
  | resume (st : State σ) (s t : σ) (done : Nat) (hrunning : st s = .running done)
      (hmove : (programs s)[done]? = some (.await t)) (hended : st t = .ended) :
      Step programs st (Function.update st s (.running (done + 1)))
  | finish (st : State σ) (s : σ) (done : Nat) (hrunning : st s = .running done)
      (hfree : ∀ t, (programs s)[done]? = some (.await t) → ∀ n, st t ≠ .running n) :
      Step programs st (Function.update st s .ended)

abbrev Steps (programs : Programs ρ σ) : State σ → State σ → Prop :=
  Relation.ReflTransGen (Step programs)

def start : State σ := fun _ => .idle

def Reachable (programs : Programs ρ σ) (st : State σ) : Prop := Steps programs start st

def Cycle (programs : Programs ρ σ) (st : State σ) : Prop :=
  ∃ s, Relation.TransGen (WaitsFor programs st) s s

/-- No two sessions hold conflicting locks on a row. -/
def Compatible (programs : Programs ρ σ) (st : State σ) : Prop :=
  ∀ s t row mode mode', s ≠ t → Holds programs st s row mode → Holds programs st t row mode' →
    mode.conflicts mode' = false

theorem holds_other {programs : Programs ρ σ} {st : State σ} {s t : σ} {status : Status} {row : ρ}
    {mode : Mode} (hne : t ≠ s) :
    Holds programs (Function.update st s status) t row mode ↔ Holds programs st t row mode := by
  simp [Holds, hne]

theorem holds_self {programs : Programs ρ σ} {st : State σ} {s : σ} {done : Nat} {row : ρ}
    {mode : Mode} :
    Holds programs (Function.update st s (.running done)) s row mode ↔
      .lock row mode ∈ (programs s).take done := by
  simp [Holds]

/-- A session that got no new lock by its change holds what it held. -/
theorem compatible_update {programs : Programs ρ σ} {st : State σ} {s : σ} {status : Status}
    (hsub : ∀ row mode, Holds programs (Function.update st s status) s row mode →
      Holds programs st s row mode ∨ ∀ t, ¬ Blocks programs st s t row mode)
    (h : Compatible programs st) : Compatible programs (Function.update st s status) := by
  have hself : ∀ t row mode mode', t ≠ s →
      Holds programs (Function.update st s status) s row mode →
      Holds programs st t row mode' → mode.conflicts mode' = false := by
    intro t row mode mode' hne hs ht
    rcases hsub row mode hs with hold | hfree
    · exact h s t row mode mode' (Ne.symm hne) hold ht
    · by_contra hconflict
      exact hfree t ⟨hne, mode', ht, by simpa using hconflict⟩
  intro a b row mode mode' hab ha hb
  by_cases has : a = s
  · subst has
    exact hself b row mode mode' (Ne.symm hab) ha ((holds_other (Ne.symm hab)).mp hb)
  · by_cases hbs : b = s
    · subst hbs
      rw [Mode.conflicts_symm]
      exact hself a row mode' mode hab hb ((holds_other hab).mp ha)
    · exact h a b row mode mode' hab ((holds_other has).mp ha) ((holds_other hbs).mp hb)

theorem mem_take_succ {α : Type*} {l : List α} {n : Nat} {a : α} (h : a ∈ l.take (n + 1)) :
    a ∈ l.take n ∨ l[n]? = some a := by
  rw [List.take_add_one, List.mem_append] at h
  exact h.imp_right fun h => by simpa using h

theorem step_compatible {programs : Programs ρ σ} {st st' : State σ} (h : Step programs st st')
    (hst : Compatible programs st) : Compatible programs st' := by
  cases h with
  | begin s hidle hmay =>
    refine compatible_update ?_ hst
    intro row mode hs
    simp [holds_self] at hs
  | lock s done row mode hrunning hmove hfree =>
    refine compatible_update ?_ hst
    intro row' mode' hs
    rcases mem_take_succ (holds_self.mp hs) with hold | hnew
    · exact .inl ⟨done, hrunning, hold⟩
    · rw [hmove] at hnew
      cases hnew
      exact .inr hfree
  | resume s t done hrunning hmove hended =>
    refine compatible_update ?_ hst
    intro row' mode' hs
    rcases mem_take_succ (holds_self.mp hs) with hold | hnew
    · exact .inl ⟨done, hrunning, hold⟩
    · rw [hmove] at hnew
      cases hnew
  | finish s done hrunning hfree =>
    refine compatible_update ?_ hst
    rintro row' mode' ⟨n, hn, -⟩
    simp at hn

theorem reachable_compatible {programs : Programs ρ σ} {st : State σ}
    (h : Reachable programs st) : Compatible programs st := by
  induction h with
  | refl =>
    rintro s t row mode mode' - ⟨n, hn, -⟩
    cases hn
  | tail _ hstep ih => exact step_compatible hstep ih

/-- While an awaited session runs, the sessions that await it stand at that move. -/
def Attended (programs : Programs ρ σ) (st : State σ) : Prop :=
  ∀ s t n, st s = .running n → .await s ∈ programs t → next programs st t = some (.await s)

theorem next_other {programs : Programs ρ σ} {st : State σ} {s t : σ} {status : Status}
    (hne : t ≠ s) : next programs (Function.update st s status) t = next programs st t := by
  simp [next, hne]

omit [DecidableEq σ] in
theorem next_of_running {programs : Programs ρ σ} {st : State σ} {s : σ} {n : Nat}
    (h : st s = .running n) : next programs st s = (programs s)[n]? := by
  simp [next, h]

/-- A session changes that does not stand at the await of a running session. -/
theorem attended_update {programs : Programs ρ σ} {st : State σ} {s : σ} {status : Status}
    (hself : ∀ n, status = .running n → .await s ∉ programs s ∧
      ((∃ m, st s = .running m) ∨ MayBegin programs st s))
    (hmove : ∀ t n, st t = .running n → t ≠ s → next programs st s ≠ some (.await t))
    (h : Attended programs st) : Attended programs (Function.update st s status) := by
  intro a b n ha hawait
  by_cases has : a = s
  · subst has
    simp only [Function.update_self] at ha
    obtain ⟨hnot, hbefore⟩ := hself n ha
    have hba : b ≠ a := by
      rintro rfl
      exact hnot hawait
    rw [next_other hba]
    rcases hbefore with ⟨m, hm⟩ | hmay
    · exact h a b m hm hawait
    · exact hmay b hawait
  · rw [Function.update_of_ne has] at ha
    have hnext := h a b n ha hawait
    by_cases hbs : b = s
    · subst hbs
      exact absurd hnext (hmove a n ha has)
    · rw [next_other hbs]
      exact hnext

/-- No session awaits itself. -/
def NoSelfAwait (programs : Programs ρ σ) : Prop := ∀ s, .await s ∉ programs s

theorem step_attended {programs : Programs ρ σ} (hprograms : NoSelfAwait programs)
    {st st' : State σ} (h : Step programs st st') (hst : Attended programs st) :
    Attended programs st' := by
  cases h with
  | begin s hidle hmay =>
    refine attended_update (fun _ _ => ⟨hprograms s, .inr hmay⟩) ?_ hst
    intro t n _ _
    simp [next, hidle]
  | lock s done row mode hrunning hmove hfree =>
    refine attended_update (fun _ _ => ⟨hprograms s, .inl ⟨done, hrunning⟩⟩) ?_ hst
    intro t n _ _
    simp [next_of_running hrunning, hmove]
  | resume s t done hrunning hmove hended =>
    refine attended_update (fun _ _ => ⟨hprograms s, .inl ⟨done, hrunning⟩⟩) ?_ hst
    intro t' n ht' _
    rw [next_of_running hrunning, hmove]
    intro he
    cases he
    rw [hended] at ht'
    cases ht'
  | finish s done hrunning hfree =>
    refine attended_update (fun _ h => by cases h) ?_ hst
    intro t n ht _ hnext
    rw [next_of_running hrunning] at hnext
    exact hfree t hnext n ht

theorem reachable_attended {programs : Programs ρ σ} (hprograms : NoSelfAwait programs)
    {st : State σ} (h : Reachable programs st) : Attended programs st := by
  induction h with
  | refl => intro s t n hs; cases hs
  | tail _ hstep ih => exact step_attended hprograms hstep ih

omit [DecidableEq σ] in
/-- What a relation that orders a program says of a lock held and the next move. -/
theorem pairwise_next {programs : Programs ρ σ} {R : Move ρ σ → Move ρ σ → Prop} {st : State σ}
    {s : σ} {row : ρ} {mode : Mode} {move : Move ρ σ} (hordered : (programs s).Pairwise R)
    (hholds : Holds programs st s row mode) (hnext : next programs st s = some move) :
    R (.lock row mode) move := by
  obtain ⟨done, hrunning, hmem⟩ := hholds
  simp only [next, hrunning] at hnext
  obtain ⟨k, hk, hget⟩ := List.mem_iff_getElem.mp hmem
  rw [List.length_take] at hk
  rw [List.getElem_take] at hget
  obtain ⟨hdone, hmove⟩ := List.getElem?_eq_some_iff.mp hnext
  rw [← hget, ← hmove]
  exact List.pairwise_iff_getElem.mp hordered k done _ hdone (by omega)

/-- A height that grows along every wait for a session that waits itself excludes cycles. -/
theorem acyclic_of_height {α : Type*} {W : α → α → Prop} (height : α → Nat)
    (hgrows : ∀ s t u, W s t → W t u → height s < height t) : ¬ ∃ s, Relation.TransGen W s s := by
  have hlt : ∀ s t, Relation.TransGen W s t → ∀ u, W t u → height s < height t := by
    intro s t h
    induction h with
    | single hst => exact fun u htu => hgrows _ _ u hst htu
    | tail _ hlast ih => exact fun u htu => Nat.lt_trans (ih _ hlast) (hgrows _ _ u hlast htu)
  rintro ⟨s, hs⟩
  obtain ⟨t, hst, -⟩ := (Relation.TransGen.head'_iff).mp hs
  exact Nat.lt_irrefl _ (hlt s s hs t hst)

/-- A running session takes its next locks while nobody blocks them. -/
theorem locks_taken {programs : Programs ρ σ} {st : State σ} {s : σ} {done : Nat} (count : Nat)
    (hrunning : st s = .running done)
    (hfree : ∀ k, k < count → ∃ row mode, (programs s)[done + k]? = some (.lock row mode) ∧
      ∀ t mode', t ≠ s → Holds programs st t row mode' → mode.conflicts mode' = false) :
    Steps programs st (Function.update st s (.running (done + count))) := by
  induction count with
  | zero =>
    have hsame : Function.update st s (.running (done + 0)) = st := by
      rw [Nat.add_zero, ← hrunning, Function.update_eq_self]
    rw [hsame]
  | succ count ih =>
    have hbefore := ih fun k hk => hfree k (by omega)
    obtain ⟨row, mode, hmove, hcompatible⟩ := hfree count (by omega)
    have hlast := @Step.lock _ _ _ programs (Function.update st s (.running (done + count)))
      s (done + count) row mode (by simp) hmove ?_
    · rw [Function.update_idem] at hlast
      exact hbefore.tail hlast
    · rintro t ⟨hne, mode', hholds, hconflict⟩
      rw [hcompatible t mode' hne ((holds_other hne).mp hholds)] at hconflict
      cases hconflict

/-- A session begins and takes its first locks while nobody blocks them. -/
theorem begun {programs : Programs ρ σ} {st : State σ} {s : σ} (count : Nat) (hidle : st s = .idle)
    (hmay : MayBegin programs st s)
    (hfree : ∀ k, k < count → ∃ row mode, (programs s)[k]? = some (.lock row mode) ∧
      ∀ t mode', t ≠ s → Holds programs st t row mode' → mode.conflicts mode' = false) :
    Steps programs st (Function.update st s (.running count)) := by
  have hrun := @locks_taken _ _ _ programs (Function.update st s (.running 0)) s 0 count (by simp) ?_
  · rw [Function.update_idem, Nat.zero_add] at hrun
    exact .head (.begin st s hidle hmay) hrun
  · intro k hk
    obtain ⟨row, mode, hmove, hcompatible⟩ := hfree k hk
    rw [Nat.zero_add]
    exact ⟨row, mode, hmove, fun t mode' hne hholds =>
      hcompatible t mode' hne ((holds_other hne).mp hholds)⟩

omit [DecidableEq σ] in
theorem start_holds {programs : Programs ρ σ} {t : σ} {row : ρ} {mode : Mode} :
    ¬ Holds programs start t row mode := by
  rintro ⟨n, hn, -⟩
  cases hn

omit [DecidableEq σ] in
/-- A session that nobody awaits may begin at any time. -/
theorem mayBegin_of_nobody {programs : Programs ρ σ} {st : State σ} {s : σ}
    (hnobody : ∀ t, .await s ∉ programs t) : MayBegin programs st s :=
  fun t ht => absurd ht (hnobody t)

/-- Two sessions that lock two rows crosswise: each can take its first locks, and then
each wants a row that the other one holds. -/
theorem crossing_cycle {programs : Programs ρ σ} {s t : σ} (m n : Nat) (row row' : ρ)
    (mode mode' held held' : Mode) (hne : s ≠ t) (hs : ∀ st, MayBegin programs st s)
    (ht : ∀ st, MayBegin programs st t)
    (hfirst : ∀ k, k < m → ∃ row mode, (programs s)[k]? = some (.lock row mode))
    (hsecond : ∀ k, k < n → ∃ row mode, (programs t)[k]? = some (.lock row mode) ∧
      ∀ mode', .lock row mode' ∈ (programs s).take m → mode.conflicts mode' = false)
    (hwants : (programs s)[m]? = some (.lock row mode))
    (hheld : .lock row held ∈ (programs t).take n) (hconflict : mode.conflicts held = true)
    (hwants' : (programs t)[n]? = some (.lock row' mode'))
    (hheld' : .lock row' held' ∈ (programs s).take m) (hconflict' : mode'.conflicts held' = true) :
    ∃ st, Reachable programs st ∧ Cycle programs st := by
  let one : State σ := Function.update start s (.running m)
  let both : State σ := Function.update one t (.running n)
  have hone : Steps programs start one := by
    refine begun m rfl (hs _) ?_
    intro k hk
    obtain ⟨row, mode, hmove⟩ := hfirst k hk
    exact ⟨row, mode, hmove, fun t mode' _ hholds => absurd hholds start_holds⟩
  have hboth : Steps programs one both := by
    refine begun n (by simp [one, start, Ne.symm hne]) (ht _) ?_
    intro k hk
    obtain ⟨row, mode, hmove, hcompatible⟩ := hsecond k hk
    refine ⟨row, mode, hmove, ?_⟩
    intro u mode' _ hholds
    by_cases hu : u = s
    · subst hu
      exact hcompatible mode' (holds_self.mp hholds)
    · exact absurd ((holds_other hu).mp hholds) start_holds
  have hstatus : both s = .running m := by simp [both, one, hne]
  have hstatus' : both t = .running n := by simp [both]
  refine ⟨both, hone.trans hboth, s, ?_⟩
  have hwait : WaitsFor programs both s t :=
    .row s t row mode (by simp only [next, hstatus]; exact hwants)
      ⟨Ne.symm hne, held, ⟨n, hstatus', hheld⟩, hconflict⟩
  have hwait' : WaitsFor programs both t s :=
    .row t s row' mode' (by simp only [next, hstatus']; exact hwants')
      ⟨hne, held', ⟨m, hstatus, hheld'⟩, hconflict'⟩
  exact .tail (.single hwait) hwait'

end WechatBot.RowLocks
