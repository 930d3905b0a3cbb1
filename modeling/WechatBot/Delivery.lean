import Mathlib.Logic.Function.Basic
import Mathlib.Logic.Relation

/-!
# At-most-once delivery by attempts

An abstract protocol for jobs that several workers try to carry out by an external
call. A worker begins an attempt on an open job, makes one call, learns its
outcome and settles the attempt; only a call refused with an outcome that `retry`
accepts may open the job again. Jobs, workers and outcomes are arbitrary types.
Anybody may close a job over the head of its worker, and a worker may vanish at any
moment.
-/
namespace WechatBot.Delivery

variable {ι μ ω : Type*} [DecidableEq ι] [DecidableEq μ]

inductive Stage where
  | missing | open | attempted | withdrawn | closed
  deriving DecidableEq, Repr

inductive Progress (ω : Type*) where
  | ready
  | running (call : Nat)
  | ended (outcome : ω)

structure Attempt (μ ω : Type*) where
  job : μ
  progress : Progress ω

/-- One external call; the outcome is missing while it runs, and for ever when its
worker vanished. -/
structure Call (μ ω : Type*) where
  job : μ
  outcome : Option ω

structure State (ι μ ω : Type*) where
  stage : μ → Stage
  attempt : ι → Option (Attempt μ ω)
  calls : List (Call μ ω)

/-- How a job's stage may move without an attempt being begun or settled. -/
inductive Passive : Stage → Stage → Prop where
  | same (s : Stage) : Passive s s
  | create : Passive .missing .open
  | withdraw : Passive .open .withdrawn
  | abandon : Passive .open .closed
  | expire : Passive .attempted .closed

inductive Step (retry : ω → Prop) : State ι μ ω → State ι μ ω → Prop where
  | move (s : State ι μ ω) (stage : μ → Stage) (h : ∀ m, Passive (s.stage m) (stage m)) :
      Step retry s { s with stage := stage }
  | begin (s : State ι μ ω) (i : ι) (m : μ) (hidle : s.attempt i = none)
      (hopen : s.stage m = .open) :
      Step retry s { s with
        stage := Function.update s.stage m .attempted
        attempt := Function.update s.attempt i (some ⟨m, .ready⟩) }
  | post (s : State ι μ ω) (i : ι) (m : μ) (hready : s.attempt i = some ⟨m, .ready⟩) :
      Step retry s { s with
        attempt := Function.update s.attempt i (some ⟨m, .running s.calls.length⟩)
        calls := s.calls ++ [⟨m, none⟩] }
  | answer (s : State ι μ ω) (i : ι) (m : μ) (k : Nat) (o : ω)
      (hrunning : s.attempt i = some ⟨m, .running k⟩) :
      Step retry s { s with
        attempt := Function.update s.attempt i (some ⟨m, .ended o⟩)
        calls := s.calls.set k ⟨m, some o⟩ }
  | giveUp (s : State ι μ ω) (i : ι) (m : μ) (o : ω) (hready : s.attempt i = some ⟨m, .ready⟩) :
      Step retry s { s with attempt := Function.update s.attempt i (some ⟨m, .ended o⟩) }
  | settle (s : State ι μ ω) (i : ι) (m : μ) (o : ω) (stage : Stage)
      (hended : s.attempt i = some ⟨m, .ended o⟩) (hattempted : s.stage m = .attempted)
      (hstage : stage = .closed ∨ stage = .open ∧ retry o) :
      Step retry s { s with
        stage := Function.update s.stage m stage
        attempt := Function.update s.attempt i none }
  | vanish (s : State ι μ ω) (i : ι) :
      Step retry s { s with attempt := Function.update s.attempt i none }

abbrev Steps (retry : ω → Prop) : State ι μ ω → State ι μ ω → Prop :=
  Relation.ReflTransGen (Step retry)

/-- Every call for the job ended with an outcome that may be retried. -/
def Clean (retry : ω → Prop) (s : State ι μ ω) (m : μ) : Prop :=
  ∀ c ∈ s.calls, c.job = m → ∃ o, c.outcome = some o ∧ retry o

/-- The same, but for call number `k`. -/
def CleanBut (retry : ω → Prop) (s : State ι μ ω) (m : μ) (k : Nat) : Prop :=
  ∀ k' c, s.calls[k']? = some c → c.job = m → k' ≠ k → ∃ o, c.outcome = some o ∧ retry o

structure Inv (retry : ω → Prop) (s : State ι μ ω) : Prop where
  unique : ∀ i j a b, s.attempt i = some a → s.attempt j = some b → a.job = b.job → i = j
  engaged : ∀ i a, s.attempt i = some a → s.stage a.job = .attempted ∨ s.stage a.job = .closed
  atRest : ∀ m, s.stage m ≠ .attempted → s.stage m ≠ .closed → Clean retry s m
  ready : ∀ i m, s.attempt i = some ⟨m, .ready⟩ → Clean retry s m
  running : ∀ i m k, s.attempt i = some ⟨m, .running k⟩ →
    s.calls[k]? = some ⟨m, none⟩ ∧ CleanBut retry s m k
  ended : ∀ i m o, s.attempt i = some ⟨m, .ended o⟩ → retry o → Clean retry s m

/-- No worker is at work and no call was made. -/
def start (stage : μ → Stage) : State ι μ ω := ⟨stage, fun _ => none, []⟩

omit [DecidableEq ι] [DecidableEq μ] in
theorem start_inv (retry : ω → Prop) (stage : μ → Stage) :
    Inv retry (start stage : State ι μ ω) := by
  refine ⟨?_, ?_, ?_, ?_, ?_, ?_⟩ <;> simp [start, Clean]

omit [DecidableEq μ] in
/-- Dropping an attempt and leaving the rest keeps the invariant. -/
theorem inv_vanish {retry : ω → Prop} {s : State ι μ ω} (hs : Inv retry s) (i : ι) :
    Inv retry { s with attempt := Function.update s.attempt i none } := by
  have hold : ∀ j a, Function.update s.attempt i none j = some a → s.attempt j = some a := by
    intro j a h
    by_cases hj : j = i
    · subst hj; simp at h
    · simpa [hj] using h
  refine ⟨?_, ?_, hs.atRest, ?_, ?_, ?_⟩
  · intro j k a b ha hb
    exact hs.unique j k a b (hold j a ha) (hold k b hb)
  · intro j a ha
    exact hs.engaged j a (hold j a ha)
  · intro j m h
    exact hs.ready j m (hold j _ h)
  · intro j m k h
    exact hs.running j m k (hold j _ h)
  · intro j m o h
    exact hs.ended j m o (hold j _ h)

omit [DecidableEq ι] [DecidableEq μ] in
theorem inv_move {retry : ω → Prop} {s : State ι μ ω} (hs : Inv retry s) (stage : μ → Stage)
    (h : ∀ m, Passive (s.stage m) (stage m)) : Inv retry { s with stage := stage } := by
  refine ⟨hs.unique, ?_, ?_, hs.ready, hs.running, hs.ended⟩
  · intro i a ha
    have hp := h a.job
    rcases hs.engaged i a ha with he | he
    · rw [he] at hp
      cases hm : stage a.job <;> rw [hm] at hp <;> first | exact .inl hm | exact .inr hm | cases hp
    · rw [he] at hp
      cases hm : stage a.job <;> rw [hm] at hp <;> first | exact .inr hm | cases hp
  · intro m hna hnc
    apply hs.atRest m
    · intro he
      have hp := h m
      rw [he] at hp
      cases hm : stage m <;> simp_all <;> cases hp
    · intro he
      have hp := h m
      rw [he] at hp
      cases hm : stage m <;> simp_all <;> cases hp

omit [DecidableEq μ] in
/-- Only the worker's own attempt changes, to another one on the same job. -/
theorem attempt_update {s : State ι μ ω} {i j : ι} {m : μ} {p q : Progress ω}
    {a : Attempt μ ω} (hi : s.attempt i = some ⟨m, p⟩)
    (hj : Function.update s.attempt i (some ⟨m, q⟩) j = some a) :
    (j = i ∧ a = ⟨m, q⟩) ∨ (j ≠ i ∧ s.attempt j = some a) := by
  by_cases h : j = i
  · subst h
    simp only [Function.update_self, Option.some.injEq] at hj
    exact .inl ⟨rfl, hj.symm⟩
  · rw [Function.update_of_ne h] at hj
    exact .inr ⟨h, hj⟩

omit [DecidableEq μ] in
theorem unique_update {retry : ω → Prop} {s : State ι μ ω} (hs : Inv retry s) {i : ι} {m : μ}
    {p q : Progress ω} (hi : s.attempt i = some ⟨m, p⟩) (j k : ι) (a b : Attempt μ ω)
    (ha : Function.update s.attempt i (some ⟨m, q⟩) j = some a)
    (hb : Function.update s.attempt i (some ⟨m, q⟩) k = some b) (hab : a.job = b.job) : j = k := by
  rcases attempt_update hi ha with ⟨hj, rfl⟩ | ⟨hj, ha'⟩ <;>
    rcases attempt_update hi hb with ⟨hk, rfl⟩ | ⟨hk, hb'⟩
  · rw [hj, hk]
  · exact absurd (hs.unique i k _ b hi hb' hab).symm hk
  · exact absurd (hs.unique j i a _ ha' hi hab) hj
  · exact hs.unique j k a b ha' hb' hab

omit [DecidableEq μ] in
theorem engaged_update {retry : ω → Prop} {s : State ι μ ω} (hs : Inv retry s) {i : ι} {m : μ}
    {p q : Progress ω} (hi : s.attempt i = some ⟨m, p⟩) (j : ι) (a : Attempt μ ω)
    (ha : Function.update s.attempt i (some ⟨m, q⟩) j = some a) :
    s.stage a.job = .attempted ∨ s.stage a.job = .closed := by
  rcases attempt_update hi ha with ⟨-, rfl⟩ | ⟨-, ha'⟩
  · exact hs.engaged i ⟨m, p⟩ hi
  · exact hs.engaged j a ha'

theorem inv_begin {retry : ω → Prop} {s : State ι μ ω} (hs : Inv retry s) (i : ι) (m : μ)
    (hopen : s.stage m = .open) :
    Inv retry { s with
      stage := Function.update s.stage m .attempted
      attempt := Function.update s.attempt i (some ⟨m, .ready⟩) } := by
  have hclean : Clean retry s m := hs.atRest m (by simp [hopen]) (by simp [hopen])
  have hold : ∀ j a, Function.update s.attempt i (some ⟨m, .ready⟩) j = some a →
      (j = i ∧ a = ⟨m, .ready⟩) ∨ (s.attempt j = some a ∧ a.job ≠ m) := by
    intro j a ha
    by_cases hj : j = i
    · subst hj
      simp only [Function.update_self, Option.some.injEq] at ha
      exact .inl ⟨rfl, ha.symm⟩
    · rw [Function.update_of_ne hj] at ha
      refine .inr ⟨ha, ?_⟩
      intro he
      have := hs.engaged j a ha
      simp [he, hopen] at this
  refine ⟨?_, ?_, ?_, ?_, ?_, ?_⟩
  · intro j k a b ha hb hab
    rcases hold j a ha with ⟨hj, rfl⟩ | ⟨ha', hne⟩ <;> rcases hold k b hb with ⟨hk, rfl⟩ | ⟨hb', hne'⟩
    · rw [hj, hk]
    · exact absurd hab.symm hne'
    · exact absurd hab hne
    · exact hs.unique j k a b ha' hb' hab
  · intro j a ha
    rcases hold j a ha with ⟨-, rfl⟩ | ⟨ha', hne⟩
    · simp
    · simpa [hne] using hs.engaged j a ha'
  · intro m' hna hnc
    by_cases hm : m' = m
    · subst hm; exact hclean
    · simp only [Function.update_of_ne hm] at hna hnc
      exact hs.atRest m' hna hnc
  · intro j m' h
    rcases hold j _ h with ⟨-, he⟩ | ⟨h', -⟩
    · cases he; exact hclean
    · exact hs.ready j m' h'
  · intro j m' k h
    rcases hold j _ h with ⟨-, he⟩ | ⟨h', -⟩
    · cases he
    · exact hs.running j m' k h'
  · intro j m' o h
    rcases hold j _ h with ⟨-, he⟩ | ⟨h', -⟩
    · cases he
    · exact hs.ended j m' o h'

omit [DecidableEq ι] [DecidableEq μ] in
theorem clean_push {retry : ω → Prop} {s : State ι μ ω} {m m' : μ} {attempt : ι → Option (Attempt μ ω)}
    (hne : m' ≠ m) (h : Clean retry s m') :
    Clean retry ⟨s.stage, attempt, s.calls ++ [⟨m, none⟩]⟩ m' := by
  intro c hc hjob
  rcases List.mem_append.mp hc with hc | hc
  · exact h c hc hjob
  · simp only [List.mem_singleton] at hc
    subst hc
    exact absurd hjob.symm hne

omit [DecidableEq μ] in
theorem inv_post {retry : ω → Prop} {s : State ι μ ω} (hs : Inv retry s) (i : ι) (m : μ)
    (hready : s.attempt i = some ⟨m, .ready⟩) :
    Inv retry { s with
      attempt := Function.update s.attempt i (some ⟨m, .running s.calls.length⟩)
      calls := s.calls ++ [⟨m, none⟩] } := by
  have hclean := hs.ready i m hready
  have hother : ∀ j a, j ≠ i → s.attempt j = some a → a.job ≠ m := by
    intro j a hj ha he
    exact hj (hs.unique j i a _ ha hready he)
  have hengaged := hs.engaged i _ hready
  refine ⟨unique_update hs hready, engaged_update hs hready, ?_, ?_, ?_, ?_⟩
  · intro m' hna hnc
    have hne : m' ≠ m := by
      rintro rfl
      exact hengaged.elim hna hnc
    exact clean_push hne (hs.atRest m' hna hnc)
  · intro j m' h
    rcases attempt_update hready h with ⟨-, he⟩ | ⟨hj, h'⟩
    · cases he
    · exact clean_push (hother j _ hj h') (hs.ready j m' h')
  · intro j m' k h
    rcases attempt_update hready h with ⟨-, he⟩ | ⟨hj, h'⟩
    · cases he
      refine ⟨by simp, ?_⟩
      intro k' c hc hjob hk
      rw [List.getElem?_append] at hc
      split at hc
      · exact hclean c (List.mem_of_getElem? hc) hjob
      · rename_i hlt
        have : k' - s.calls.length ≠ 0 := by omega
        rw [List.getElem?_eq_none (by simp; omega)] at hc
        cases hc
    · obtain ⟨hk, hbut⟩ := hs.running j m' k h'
      have hlt : k < s.calls.length := (List.getElem?_eq_some_iff.mp hk).1
      refine ⟨by simpa [List.getElem?_append, hlt] using hk, ?_⟩
      intro k' c hc hjob hne
      rw [List.getElem?_append] at hc
      split at hc
      · exact hbut k' c hc hjob hne
      · have hmem := List.mem_of_getElem? hc
        simp only [List.mem_singleton] at hmem
        subst hmem
        exact absurd hjob.symm (hother j _ hj h')
  · intro j m' o h ho
    rcases attempt_update hready h with ⟨-, he⟩ | ⟨hj, h'⟩
    · cases he
    · exact clean_push (hother j _ hj h') (hs.ended j m' o h' ho)

omit [DecidableEq ι] [DecidableEq μ] in
/-- Recording the outcome of call `k`, which is for `m`, leaves the other jobs' calls. -/
theorem clean_set {retry : ω → Prop} {s : State ι μ ω} {m m' : μ} {k : Nat} {o : ω}
    {attempt : ι → Option (Attempt μ ω)} (hne : m' ≠ m) (h : Clean retry s m') :
    Clean retry ⟨s.stage, attempt, s.calls.set k ⟨m, some o⟩⟩ m' := by
  intro c hc hjob
  rcases List.mem_or_eq_of_mem_set hc with hc | rfl
  · exact h c hc hjob
  · exact absurd hjob.symm hne

omit [DecidableEq μ] in
theorem inv_answer {retry : ω → Prop} {s : State ι μ ω} (hs : Inv retry s) (i : ι) (m : μ)
    (k : Nat) (o : ω) (hrunning : s.attempt i = some ⟨m, .running k⟩) :
    Inv retry { s with
      attempt := Function.update s.attempt i (some ⟨m, .ended o⟩)
      calls := s.calls.set k ⟨m, some o⟩ } := by
  obtain ⟨hk, hbut⟩ := hs.running i m k hrunning
  have hother : ∀ j a, j ≠ i → s.attempt j = some a → a.job ≠ m := by
    intro j a hj ha he
    exact hj (hs.unique j i a _ ha hrunning he)
  have hengaged := hs.engaged i _ hrunning
  refine ⟨unique_update hs hrunning, engaged_update hs hrunning, ?_, ?_, ?_, ?_⟩
  · intro m' hna hnc
    have hne : m' ≠ m := by
      rintro rfl
      exact hengaged.elim hna hnc
    exact clean_set hne (hs.atRest m' hna hnc)
  · intro j m' h
    rcases attempt_update hrunning h with ⟨-, he⟩ | ⟨hj, h'⟩
    · cases he
    · exact clean_set (hother j _ hj h') (hs.ready j m' h')
  · intro j m' k' h
    rcases attempt_update hrunning h with ⟨-, he⟩ | ⟨hj, h'⟩
    · cases he
    · obtain ⟨hk', hbut'⟩ := hs.running j m' k' h'
      have hm : m' ≠ m := hother j _ hj h'
      have hne : k ≠ k' := by
        rintro rfl
        rw [hk] at hk'
        exact hm (by cases hk'; rfl)
      refine ⟨by simpa [List.getElem?_set, hne] using hk', ?_⟩
      intro l c hc hjob hl
      rw [List.getElem?_set] at hc
      split at hc
      · split at hc
        · cases hc; exact absurd hjob.symm hm
        · cases hc
      · exact hbut' l c hc hjob hl
  · intro j m' o' h ho
    rcases attempt_update hrunning h with ⟨-, he⟩ | ⟨hj, h'⟩
    · cases he
      intro c hc hjob
      obtain ⟨l, hl⟩ := List.mem_iff_getElem?.mp hc
      rw [List.getElem?_set] at hl
      split at hl
      · split at hl
        · cases hl; exact ⟨o, rfl, ho⟩
        · cases hl
      · rename_i hne
        exact hbut l c hl hjob (Ne.symm hne)
    · exact clean_set (hother j _ hj h') (hs.ended j m' o' h' ho)

omit [DecidableEq μ] in
theorem inv_giveUp {retry : ω → Prop} {s : State ι μ ω} (hs : Inv retry s) (i : ι) (m : μ)
    (o : ω) (hready : s.attempt i = some ⟨m, .ready⟩) :
    Inv retry { s with attempt := Function.update s.attempt i (some ⟨m, .ended o⟩) } := by
  refine ⟨unique_update hs hready, engaged_update hs hready, hs.atRest, ?_, ?_, ?_⟩
  · intro j m' h
    rcases attempt_update hready h with ⟨-, he⟩ | ⟨-, h'⟩
    · cases he
    · exact hs.ready j m' h'
  · intro j m' k h
    rcases attempt_update hready h with ⟨-, he⟩ | ⟨-, h'⟩
    · cases he
    · exact hs.running j m' k h'
  · intro j m' o' h ho
    rcases attempt_update hready h with ⟨-, he⟩ | ⟨-, h'⟩
    · cases he; exact hs.ready i m hready
    · exact hs.ended j m' o' h' ho

theorem inv_settle {retry : ω → Prop} {s : State ι μ ω} (hs : Inv retry s) (i : ι) (m : μ)
    (o : ω) (stage : Stage) (hended : s.attempt i = some ⟨m, .ended o⟩)
    (hstage : stage = .closed ∨ stage = .open ∧ retry o) :
    Inv retry { s with
      stage := Function.update s.stage m stage
      attempt := Function.update s.attempt i none } := by
  have hv := inv_vanish hs i
  have hother : ∀ j a, Function.update s.attempt i none j = some a → a.job ≠ m := by
    intro j a ha he
    by_cases hj : j = i
    · subst hj; simp at ha
    · rw [Function.update_of_ne hj] at ha
      exact hj (hs.unique j i a _ ha hended he)
  refine ⟨hv.unique, ?_, ?_, hv.ready, hv.running, hv.ended⟩
  · intro j a ha
    simpa [hother j a ha] using hv.engaged j a ha
  · intro m' hna hnc
    by_cases hm : m' = m
    · subst hm
      simp only [Function.update_self] at hna hnc
      rcases hstage with rfl | ⟨-, ho⟩
      · exact absurd rfl hnc
      · exact hs.ended i m' o hended ho
    · simp only [Function.update_of_ne hm] at hna hnc
      exact hs.atRest m' hna hnc

theorem step_inv {retry : ω → Prop} {s t : State ι μ ω} (hs : Inv retry s)
    (h : Step retry s t) : Inv retry t := by
  cases h with
  | move stage h => exact inv_move hs stage h
  | begin i m hidle hopen => exact inv_begin hs i m hopen
  | post i m hready => exact inv_post hs i m hready
  | answer i m k o hrunning => exact inv_answer hs i m k o hrunning
  | giveUp i m o hready => exact inv_giveUp hs i m o hready
  | settle i m o stage hended _ hstage => exact inv_settle hs i m o stage hended hstage
  | vanish i => exact inv_vanish hs i

theorem steps_inv {retry : ω → Prop} {s t : State ι μ ω} (hs : Inv retry s)
    (h : Steps retry s t) : Inv retry t := by
  induction h with
  | refl => exact hs
  | tail _ hstep ih => exact step_inv ih hstep

def Over (stage : Stage) : Prop := stage = .withdrawn ∨ stage = .closed

/-- The calls for `m` are the same ones with the same outcomes. -/
def SameCalls (s t : State ι μ ω) (m : μ) : Prop :=
  ∀ (k : Nat) (c : Call μ ω), c.job = m → (t.calls[k]? = some c ↔ s.calls[k]? = some c)

theorem passive_over {a b : Stage} (h : Passive a b) (ha : Over a) : b = a := by
  cases h with
  | same => rfl
  | create => exact ha.elim (by simp) (by simp)
  | withdraw => exact ha.elim (by simp) (by simp)
  | abandon => exact ha.elim (by simp) (by simp)
  | expire => exact ha.elim (by simp) (by simp)

theorem step_over {retry : ω → Prop} {s t : State ι μ ω} (h : Step retry s t) {m : μ}
    (hm : Over (s.stage m)) : t.stage m = s.stage m := by
  cases h with
  | move stage h => exact passive_over (h m) hm
  | begin i m' hidle hopen =>
    have hne : m ≠ m' := by
      rintro rfl
      exact hm.elim (by simp [hopen]) (by simp [hopen])
    simp [hne]
  | settle i m' o stage hended hattempted hstage =>
    have hne : m ≠ m' := by
      rintro rfl
      exact hm.elim (by simp [hattempted]) (by simp [hattempted])
    simp [hne]
  | _ => rfl

/-- After the end of a job, a worker that is about to call for it was already about to
before the step, and the calls for the job did not change. -/
theorem step_ready {retry : ω → Prop} {s t : State ι μ ω} (hs : Inv retry s)
    (h : Step retry s t) {m : μ} (hm : Over (s.stage m)) {i : ι}
    (hi : t.attempt i = some ⟨m, .ready⟩) :
    s.attempt i = some ⟨m, .ready⟩ ∧ SameCalls s t m := by
  cases h with
  | move stage h => exact ⟨hi, fun _ _ _ => Iff.rfl⟩
  | begin j m' hidle hopen =>
    by_cases hj : i = j
    · subst hj
      simp only [Function.update_self, Option.some.injEq, Attempt.mk.injEq, and_true] at hi
      subst hi
      exact hm.elim (by simp [hopen]) (by simp [hopen])
    · exact ⟨by simpa [hj] using hi, fun _ _ _ => Iff.rfl⟩
  | post j m' hready =>
    rcases attempt_update hready hi with ⟨-, he⟩ | ⟨hj, h'⟩
    · cases he
    · refine ⟨h', ?_⟩
      intro k c hc
      have hne : m ≠ m' := fun he => hj (hs.unique i j _ _ h' hready he)
      rw [List.getElem?_append]
      split
      · rfl
      · rename_i hlt
        rw [List.getElem?_eq_none (l := s.calls) (by omega)]
        constructor
        · intro hk
          have hmem := List.mem_of_getElem? hk
          simp only [List.mem_singleton] at hmem
          subst hmem
          exact absurd hc.symm hne
        · intro hk; cases hk
  | answer j m' k o hrunning =>
    rcases attempt_update hrunning hi with ⟨-, he⟩ | ⟨hj, h'⟩
    · cases he
    · refine ⟨h', ?_⟩
      intro l c hc
      have hne : m ≠ m' := fun he => hj (hs.unique i j _ _ h' hrunning he)
      obtain ⟨hk, -⟩ := hs.running j m' k hrunning
      have hlt : k < s.calls.length := (List.getElem?_eq_some_iff.mp hk).1
      rw [List.getElem?_set]
      split
      · rename_i hkl
        subst hkl
        rw [hk]
        simp only [Option.some.injEq]
        constructor
        · intro he; subst he; exact absurd hc.symm hne
        · intro he; subst he; exact absurd hc.symm hne
      · rfl
  | giveUp j m' o hready =>
    rcases attempt_update hready hi with ⟨-, he⟩ | ⟨-, h'⟩
    · cases he
    · exact ⟨h', fun _ _ _ => Iff.rfl⟩
  | settle j m' o stage hended _ _ =>
    by_cases hj : i = j
    · subst hj; simp at hi
    · exact ⟨by simpa [hj] using hi, fun _ _ _ => Iff.rfl⟩
  | vanish j =>
    by_cases hj : i = j
    · subst hj; simp at hi
    · exact ⟨by simpa [hj] using hi, fun _ _ _ => Iff.rfl⟩

/-- However long after the end of a job a call for it starts, its worker was about to
make that call when the job ended, and no call for the job changed since. -/
theorem steps_ready {retry : ω → Prop} {s t : State ι μ ω} (hs : Inv retry s)
    (h : Steps retry s t) {m : μ} (hm : Over (s.stage m)) {i : ι}
    (hi : t.attempt i = some ⟨m, .ready⟩) :
    s.attempt i = some ⟨m, .ready⟩ ∧ SameCalls s t m := by
  have hover : ∀ u, Steps retry s u → Over (u.stage m) := by
    intro u hu
    induction hu with
    | refl => exact hm
    | tail _ hstep ih => rwa [step_over hstep ih]
  induction h with
  | refl => exact ⟨hi, fun _ _ _ => Iff.rfl⟩
  | tail hsteps hstep ih =>
    obtain ⟨hprev, hsame⟩ := step_ready (steps_inv hs hsteps) hstep (hover _ hsteps) hi
    obtain ⟨hfirst, hsame'⟩ := ih hprev
    exact ⟨hfirst, fun k c hc => (hsame k c hc).trans (hsame' k c hc)⟩

end WechatBot.Delivery
