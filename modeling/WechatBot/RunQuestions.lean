import WechatBot.Runs
import WechatBot.TaskAgentSteps

/-!
# Runs and their questions

The slots, the timestamps and the statuses of the runs and questions agree in every
reachable state: at most one live run in a session, at most one open question of a run,
which then waits for its user. What is terminal, or answered, stays as it is.
-/
namespace WechatBot.RunQuestions

open PyData TaskAgent TaskAgentSteps
open Tables (Table)
open Runs (run run_cons run_snoc run_invariant get_of_map)

theorem active_or_terminal (status : AgentRunStatus) :
    status ∈ activeRunStatuses ∨ status ∈ terminalRunStatuses := by
  cases status <;> decide

theorem not_terminal_of_active {status : AgentRunStatus} (h : status ∈ activeRunStatuses) :
    status ∉ terminalRunStatuses := by
  cases status <;> revert h <;> decide

/-- Nothing is allowed from a terminal status. -/
theorem active_of_allowed {source target : AgentRunStatus} (h : target ∈ allowedTransitions source) :
    source ∈ activeRunStatuses := by
  cases source <;> first | decide | cases h

/-- A waiting run is resumed or ends. -/
theorem resume_of_waiting {target : AgentRunStatus} (h : target ∈ allowedTransitions .WAITING_USER) :
    target = .QUEUED ∨ target ∈ terminalRunStatuses := by
  cases target <;> revert h <;> decide

structure RunRow (r : AgentRun) : Prop where
  slot : r.activeSlot = if r.status ∈ activeRunStatuses then some 1 else none
  finished : r.finishedAt.isSome = true ↔ r.status ∈ terminalRunStatuses

def QuestionRow (q : PendingQuestion) : Prop :=
  q.openSlot = if q.status = .PENDING then some 1 else none

structure Sound (s : Database) : Prop where
  runRow : ∀ r ∈ s.runs.rows, RunRow r
  oneActive : ∀ r ∈ s.runs.rows, ∀ other ∈ s.runs.rows, r.sessionId = other.sessionId →
    r.activeSlot ≠ none → other.activeSlot ≠ none → r = other
  questionRow : ∀ q ∈ s.questions.rows, QuestionRow q
  oneOpen : ∀ q ∈ s.questions.rows, ∀ other ∈ s.questions.rows, q.runId = other.runId →
    q.openSlot ≠ none → other.openSlot ≠ none → q = other
  waiting : ∀ q ∈ s.questions.rows, q.openSlot ≠ none →
    ∃ r ∈ s.runs.rows, r.id = q.runId ∧ r.status = .WAITING_USER

theorem runRow_moved (r : AgentRun) (target : AgentRunStatus) (errorCode : Option Str)
    (now : Time) : RunRow (moved r target errorCode now) := by
  rcases active_or_terminal target with hactive | hterminal
  · obtain ⟨hslot, hfinished⟩ := @moved_active r target errorCode now hactive
    have hlive := not_terminal_of_active hactive
    constructor
    · rw [hslot, moved_status, if_pos hactive]
    · simp [hfinished, hlive]
  · obtain ⟨hslot, hfinished⟩ := @moved_terminal r target errorCode now hterminal
    have hdead : target ∉ activeRunStatuses := fun hactive =>
      not_terminal_of_active hactive hterminal
    constructor
    · rw [hslot, moved_status, if_neg hdead]
    · simp [hfinished, hterminal]

/-- A run with a slot is active, and the slot is 1. -/
theorem RunRow.active {r : AgentRun} (h : RunRow r) (hslot : r.activeSlot ≠ none) :
    r.activeSlot = some 1 ∧ r.status ∈ activeRunStatuses := by
  have hrow := h.slot
  by_cases hactive : r.status ∈ activeRunStatuses
  · rw [if_pos hactive] at hrow
    exact ⟨hrow, hactive⟩
  · rw [if_neg hactive] at hrow
    exact absurd hrow hslot

/-- An active run has a slot. -/
theorem RunRow.slot_of_active {r : AgentRun} (h : RunRow r) (hactive : r.status ∈ activeRunStatuses) :
    r.activeSlot ≠ none := by
  rw [h.slot, if_pos hactive]
  simp

/-- An open question is pending, and its slot is 1. -/
theorem QuestionRow.open {q : PendingQuestion} (h : QuestionRow q) (hopen : q.openSlot ≠ none) :
    q.openSlot = some 1 ∧ q.status = .PENDING := by
  unfold QuestionRow at h
  by_cases hpending : q.status = .PENDING
  · rw [if_pos hpending] at h
    exact ⟨h, hpending⟩
  · rw [if_neg hpending] at h
    exact absurd h hopen

theorem QuestionRow.isOpenOf {q : PendingQuestion} (h : QuestionRow q) (hopen : q.openSlot ≠ none) :
    TaskAgent.isOpenOf q.runId q = true := by
  simp [TaskAgent.isOpenOf, (h.open hopen).1]

variable {s t : Database}

theorem found_mem {r : AgentRun} (h : s.runs.find r.id = some r) : r ∈ s.runs.rows :=
  Table.mem_iff_find.mpr h

/-- The runs after one of them has moved along the table. -/
theorem mem_moved {r b : AgentRun} {target : AgentRunStatus} {errorCode : Option Str} {now : Time}
    (h : t.runs.find = Function.update s.runs.find r.id (some (moved r target errorCode now))) :
    b ∈ t.runs.rows ↔ b = moved r target errorCode now ∨ (b.id ≠ r.id ∧ b ∈ s.runs.rows) := by
  have hkey : t.runs.find = Function.update s.runs.find (moved r target errorCode now).id
      (some (moved r target errorCode now)) := by
    rw [h, moved_id]
  rw [Table.mem_of_update hkey, moved_id]

/-- A live run may move: it was the live run of its session before. -/
theorem oneActive_moved (hs : Sound s) {r : AgentRun} {target : AgentRunStatus}
    {errorCode : Option Str} {now : Time} (hfound : s.runs.find r.id = some r)
    (hallowed : target ∈ allowedTransitions r.status)
    (hruns : t.runs.find = Function.update s.runs.find r.id (some (moved r target errorCode now))) :
    ∀ a ∈ t.runs.rows, ∀ b ∈ t.runs.rows, a.sessionId = b.sessionId →
      a.activeSlot ≠ none → b.activeSlot ≠ none → a = b := by
  have hmem := found_mem hfound
  have hslot := (hs.runRow r hmem).slot_of_active (active_of_allowed hallowed)
  have halone : ∀ other ∈ s.runs.rows, other.id ≠ r.id → r.sessionId = other.sessionId →
      other.activeSlot = none := by
    intro other hother hne hsame
    by_contra hlive
    exact hne (congrArg AgentRun.id (hs.oneActive r hmem other hother hsame hslot hlive)).symm
  intro a ha b hb hsame haslot hbslot
  rcases (mem_moved hruns).mp ha with rfl | ⟨hane, ha⟩
  · rcases (mem_moved hruns).mp hb with rfl | ⟨hbne, hb⟩
    · rfl
    · exact absurd (halone b hb hbne (by simpa using hsame)) hbslot
  · rcases (mem_moved hruns).mp hb with rfl | ⟨hbne, hb⟩
    · exact absurd (halone a ha hane (by simpa using hsame.symm)) haslot
    · exact hs.oneActive a ha b hb hsame haslot hbslot

/-- A transition leaves every row of a run well formed. -/
theorem runRow_of_moved (hs : Sound s) {r : AgentRun} {target : AgentRunStatus}
    {errorCode : Option Str} {now : Time}
    (hruns : t.runs.find = Function.update s.runs.find r.id (some (moved r target errorCode now))) :
    ∀ a ∈ t.runs.rows, RunRow a := by
  intro a ha
  rcases (mem_moved hruns).mp ha with rfl | ⟨-, ha⟩
  · exact runRow_moved _ _ _ _
  · exact hs.runRow a ha

/-- A question of another run still waits for its user. -/
theorem waiting_moved (hs : Sound s) {r : AgentRun} {target : AgentRunStatus}
    {errorCode : Option Str} {now : Time} {q : PendingQuestion}
    (hruns : t.runs.find = Function.update s.runs.find r.id (some (moved r target errorCode now)))
    (hq : q ∈ s.questions.rows) (hopen : q.openSlot ≠ none) (hother : q.runId ≠ r.id) :
    ∃ a ∈ t.runs.rows, a.id = q.runId ∧ a.status = .WAITING_USER := by
  obtain ⟨a, ha, hid, hstatus⟩ := hs.waiting q hq hopen
  have hne : a.id ≠ r.id := hid ▸ hother
  exact ⟨a, (mem_moved hruns).mpr (.inr ⟨hne, ha⟩), hid, hstatus⟩

/-- A question that a closing left open is of another run. -/
theorem mem_closed (hs : Sound s) {runId : UUID} {expired : Bool} {now : Time} {q : PendingQuestion}
    (h : q ∈ (closeOpenQuestions runId expired now s.questions).rows) :
    QuestionRow q ∧ (q.openSlot ≠ none → q ∈ s.questions.rows ∧ q.runId ≠ runId) := by
  obtain ⟨before, hbefore, rfl⟩ := Table.mem_mapRows.mp h
  have hrow := hs.questionRow before hbefore
  unfold closed
  by_cases hopen : isOpenOf runId before = true
  · simp only [hopen, ↓reduceIte]
    constructor
    · cases expired <;> simp [QuestionRow]
    · intro hslot
      exact absurd rfl hslot
  · simp only [hopen]
    refine ⟨hrow, fun hslot => ⟨hbefore, ?_⟩⟩
    rintro rfl
    exact hopen (hrow.isOpenOf hslot)

/-- An allowed transition keeps the runs and questions sound. -/
theorem sound_transitioned (hs : Sound s) {r : AgentRun} {target : AgentRunStatus}
    {errorCode : Option Str} {now : Time} (hfound : s.runs.find r.id = some r)
    (hallowed : target ∈ allowedTransitions r.status)
    (hresumed : r.status = .WAITING_USER → target = .QUEUED →
      ∀ question ∈ s.questions.rows, isOpenOf r.id question = false)
    (hruns : t.runs.find = Function.update s.runs.find r.id (some (moved r target errorCode now)))
    (hquestions : t.questions = if target ∈ terminalRunStatuses then
      closeOpenQuestions r.id (target == .EXPIRED) now s.questions else s.questions) : Sound t := by
  have hopen : ∀ q ∈ t.questions.rows,
      QuestionRow q ∧ (q.openSlot ≠ none → q ∈ s.questions.rows ∧ q.runId ≠ r.id) := by
    intro q hq
    rw [hquestions] at hq
    split at hq
    · exact mem_closed hs hq
    · rename_i hlive
      have hrow := hs.questionRow q hq
      refine ⟨hrow, fun hslot => ⟨hq, ?_⟩⟩
      -- A run with an open question waits, and may then only be queued or ended.
      intro hsame
      obtain ⟨a, ha, hid, hwaiting⟩ := hs.waiting q hq hslot
      have har : a = r := Table.eq_of_key ha (found_mem hfound) (hid.trans hsame)
      rw [har] at hwaiting
      rcases resume_of_waiting (hwaiting ▸ hallowed) with hqueued | hterminal
      · have hclosed := hresumed hwaiting hqueued q hq
        rw [← hsame, hrow.isOpenOf hslot] at hclosed
        cases hclosed
      · exact hlive hterminal
  exact {
    runRow := runRow_of_moved hs hruns
    oneActive := oneActive_moved hs hfound hallowed hruns
    questionRow := fun q hq => (hopen q hq).1
    oneOpen := fun q hq other hother hsame hslot hslot' =>
      hs.oneOpen q ((hopen q hq).2 hslot).1 other ((hopen other hother).2 hslot').1 hsame hslot hslot'
    waiting := fun q hq hslot =>
      waiting_moved hs hruns ((hopen q hq).2 hslot).1 hslot ((hopen q hq).2 hslot).2 }

/-- A question to a running run keeps them sound. -/
theorem sound_asked (hs : Sound s) {r : AgentRun} {q : PendingQuestion} {now : Time}
    (hfound : s.runs.find r.id = some r) (hrunning : r.status = .RUNNING)
    (hunasked : ∀ other ∈ s.questions.rows, isOpenOf r.id other = false)
    (hruns : t.runs.find = Function.update s.runs.find r.id (some (moved r .WAITING_USER none now)))
    (hquestions : t.questions.find = Function.update s.questions.find q.id (some q))
    (hrun : q.runId = r.id) (hpending : q.status = .PENDING) (hslot : q.openSlot = some 1) :
    Sound t := by
  have hallowed : AgentRunStatus.WAITING_USER ∈ allowedTransitions r.status := by
    rw [hrunning]
    decide
  have hother : ∀ other ∈ s.questions.rows, other.openSlot ≠ none → other.runId ≠ r.id := by
    intro other hmem hopen hsame
    have hclosed := hunasked other hmem
    rw [← hsame, (hs.questionRow other hmem).isOpenOf hopen] at hclosed
    cases hclosed
  exact {
    runRow := runRow_of_moved hs hruns
    oneActive := oneActive_moved hs hfound hallowed hruns
    questionRow := by
      intro other hmem
      rcases (Table.mem_of_update hquestions).mp hmem with rfl | ⟨-, hmem⟩
      · rw [QuestionRow, if_pos hpending, hslot]
      · exact hs.questionRow other hmem
    oneOpen := by
      intro a ha b hb hsame haslot hbslot
      rcases (Table.mem_of_update hquestions).mp ha with rfl | ⟨-, ha⟩
      · rcases (Table.mem_of_update hquestions).mp hb with rfl | ⟨-, hb⟩
        · rfl
        · exact absurd (hsame.symm.trans hrun) (hother b hb hbslot)
      · rcases (Table.mem_of_update hquestions).mp hb with rfl | ⟨-, hb⟩
        · exact absurd (hsame.trans hrun) (hother a ha haslot)
        · exact hs.oneOpen a ha b hb hsame haslot hbslot
    waiting := by
      intro other hmem hopen
      rcases (Table.mem_of_update hquestions).mp hmem with rfl | ⟨-, hmem⟩
      · exact ⟨_, (mem_moved hruns).mpr (.inl rfl), by simp [hrun], by simp⟩
      · exact waiting_moved hs hruns hmem hopen (hother other hmem hopen) }

/-- An answer to a waiting run keeps them sound. -/
theorem sound_answered (hs : Sound s) {r : AgentRun} {q after : PendingQuestion} {now : Time}
    (hfound : s.runs.find r.id = some r) (hwaiting : r.status = .WAITING_USER)
    (hquestion : s.questions.find q.id = some q) (hrun : q.runId = r.id)
    (hpending : q.status = .PENDING)
    (hruns : t.runs.find = Function.update s.runs.find r.id (some (moved r .QUEUED none now)))
    (hquestions : t.questions.find = Function.update s.questions.find q.id (some after))
    (hid : after.id = q.id) (hclosed : after.openSlot = none) (hanswered : after.status = .ANSWERED) :
    Sound t := by
  have hallowed : AgentRunStatus.QUEUED ∈ allowedTransitions r.status := by
    rw [hwaiting]
    decide
  have hmemq : q ∈ s.questions.rows := Table.mem_iff_find.mpr hquestion
  have hqopen : q.openSlot ≠ none := by
    have hrow := hs.questionRow q hmemq
    rw [QuestionRow, if_pos hpending] at hrow
    simp [hrow]
  have hother : ∀ other ∈ s.questions.rows, other.id ≠ q.id → other.openSlot ≠ none →
      other.runId ≠ r.id := by
    intro other hmem hne hopen hsame
    have heq := hs.oneOpen other hmem q hmemq (hsame.trans hrun.symm) hopen hqopen
    exact hne (congrArg PendingQuestion.id heq)
  rw [← hid] at hquestions
  exact {
    runRow := runRow_of_moved hs hruns
    oneActive := oneActive_moved hs hfound hallowed hruns
    questionRow := by
      intro other hmem
      rcases (Table.mem_of_update hquestions).mp hmem with rfl | ⟨-, hmem⟩
      · simp [QuestionRow, hanswered, hclosed]
      · exact hs.questionRow other hmem
    oneOpen := by
      intro a ha b hb hsame haslot hbslot
      rcases (Table.mem_of_update hquestions).mp ha with rfl | ⟨-, ha⟩
      · exact absurd hclosed haslot
      · rcases (Table.mem_of_update hquestions).mp hb with rfl | ⟨-, hb⟩
        · exact absurd hclosed hbslot
        · exact hs.oneOpen a ha b hb hsame haslot hbslot
    waiting := by
      intro other hmem hopen
      rcases (Table.mem_of_update hquestions).mp hmem with rfl | ⟨hne, hmem⟩
      · exact absurd hclosed hopen
      · exact waiting_moved hs hruns hmem hopen (hother other hmem (hid ▸ hne) hopen) }

/-- A new run keeps them sound. -/
theorem sound_created (hs : Sound s) {r : AgentRun} (hfresh : s.runs.find r.id = none)
    (hruns : t.runs.find = Function.update s.runs.find r.id (some r)) (hqueued : r.status = .QUEUED)
    (hslot : r.activeSlot = some 1) (hunfinished : r.finishedAt = none)
    (halone : ∀ other ∈ s.runs.rows, other.sessionId = r.sessionId → other.activeSlot ≠ some 1)
    (hquestions : t.questions = s.questions) : Sound t := by
  have hother : ∀ other ∈ s.runs.rows, other.sessionId = r.sessionId → other.activeSlot = none := by
    intro other hmem hsame
    by_contra hlive
    exact halone other hmem hsame ((hs.runRow other hmem).active hlive).1
  exact {
    runRow := by
      intro a ha
      rcases (Table.mem_of_update hruns).mp ha with rfl | ⟨-, ha⟩
      · constructor
        · rw [hslot, hqueued, if_pos (by decide)]
        · rw [hunfinished, hqueued]
          decide
      · exact hs.runRow a ha
    oneActive := by
      intro a ha b hb hsame haslot hbslot
      rcases (Table.mem_of_update hruns).mp ha with rfl | ⟨-, ha⟩
      · rcases (Table.mem_of_update hruns).mp hb with rfl | ⟨-, hb⟩
        · rfl
        · exact absurd (hother b hb hsame.symm) hbslot
      · rcases (Table.mem_of_update hruns).mp hb with rfl | ⟨-, hb⟩
        · exact absurd (hother a ha hsame) haslot
        · exact hs.oneActive a ha b hb hsame haslot hbslot
    questionRow := by
      rw [hquestions]
      exact hs.questionRow
    oneOpen := by
      rw [hquestions]
      exact hs.oneOpen
    waiting := by
      rw [hquestions]
      intro q hq hopen
      obtain ⟨a, ha, hid, hstatus⟩ := hs.waiting q hq hopen
      have hne : a.id ≠ r.id := by
        intro heq
        have hfound := Table.mem_iff_find.mp ha
        rw [heq, hfresh] at hfound
        cases hfound
      exact ⟨a, (Table.mem_of_update hruns).mpr (.inr ⟨hne, ha⟩), hid, hstatus⟩ }

theorem sound_kept (hs : Sound s) (hruns : t.runs = s.runs) (hquestions : t.questions = s.questions) :
    Sound t where
  runRow := hruns ▸ hs.runRow
  oneActive := hruns ▸ hs.oneActive
  questionRow := hquestions ▸ hs.questionRow
  oneOpen := hquestions ▸ hs.oneOpen
  waiting := by
    rw [hruns, hquestions]
    exact hs.waiting

theorem sound_effect (hs : Sound s) (h : Effect s t) : Sound t := by
  cases h with
  | kept sessions runs questions => exact sound_kept hs runs questions
  | sessionCreated agentSession event fresh sessions noItems oneEvent events owner seq unrun runs
      questions => exact sound_kept hs runs questions
  | runCreated agentSession r item event logged fresh runs owner queued slot unfinished alone unbound
      questions => exact sound_created hs fresh runs queued slot unfinished alone questions
  | transitioned agentSession r target reason errorCode now event logged found owner allowed resumed
      runs questions => exact sound_transitioned hs found allowed resumed runs questions
  | asked agentSession r q now first second reason logged found owner running fresh unasked runs
      questions questionRun pending questionOpen =>
    exact sound_asked hs found running unasked runs questions questionRun pending questionOpen
  | answered agentSession r q actor payload sha256 answeredAt movedAt item first second mode
      answerReason reason logged found owner waiting foundQuestion questionRun questionSession pending
      runs questions =>
    exact sound_answered hs found waiting foundQuestion questionRun pending runs questions rfl rfl rfl

theorem terminal_kept_moved {r a : AgentRun} {target : AgentRunStatus} {errorCode : Option Str}
    {now : Time} (hfound : s.runs.find r.id = some r) (hallowed : target ∈ allowedTransitions r.status)
    (hruns : t.runs.find = Function.update s.runs.find r.id (some (moved r target errorCode now)))
    (ha : a ∈ s.runs.rows) (hterminal : a.status ∈ terminalRunStatuses) : a ∈ t.runs.rows := by
  have hne : a.id ≠ r.id := by
    intro hid
    have har : a = r := Table.eq_of_key ha (found_mem hfound) hid
    rw [har] at hterminal
    exact not_terminal_of_active (active_of_allowed hallowed) hterminal
  exact (mem_moved hruns).mpr (.inr ⟨hne, ha⟩)

theorem terminal_kept {a : AgentRun} (h : Effect s t) (ha : a ∈ s.runs.rows)
    (hterminal : a.status ∈ terminalRunStatuses) : a ∈ t.runs.rows := by
  cases h with
  | kept sessions runs => exact runs ▸ ha
  | sessionCreated agentSession event fresh sessions noItems oneEvent events owner seq unrun runs =>
    exact runs ▸ ha
  | runCreated agentSession r item event logged fresh runs =>
    apply (Table.mem_of_update runs).mpr
    right
    refine ⟨?_, ha⟩
    intro hid
    rw [Table.mem_iff_find, hid, fresh] at ha
    cases ha
  | transitioned agentSession r target reason errorCode now event logged found owner allowed resumed
      runs => exact terminal_kept_moved found allowed runs ha hterminal
  | asked agentSession r q now first second reason logged found owner running fresh unasked runs =>
    exact terminal_kept_moved found (by rw [running]; decide) runs ha hterminal
  | answered agentSession r q actor payload sha256 answeredAt movedAt item first second mode
      answerReason reason logged found owner waiting foundQuestion questionRun questionSession pending
      runs => exact terminal_kept_moved found (by rw [waiting]; decide) runs ha hterminal

/-- No step changes a question that has left `PENDING`. -/
theorem closed_kept {q : PendingQuestion} (hs : Sound s) (h : Effect s t)
    (hq : q ∈ s.questions.rows) (hclosed : q.status ≠ .PENDING) : q ∈ t.questions.rows := by
  cases h with
  | kept sessions runs questions => exact questions ▸ hq
  | sessionCreated agentSession event fresh sessions noItems oneEvent events owner seq unrun runs
      questions => exact questions ▸ hq
  | runCreated agentSession r item event logged fresh runs owner queued slot unfinished alone unbound
      questions => exact questions ▸ hq
  | transitioned agentSession r target reason errorCode now event logged found owner allowed resumed
      runs questions =>
    rw [questions]
    split
    · apply Table.mem_mapRows.mpr
      refine ⟨q, hq, ?_⟩
      have hshut : q.openSlot = none := by
        have hrow := hs.questionRow q hq
        rwa [QuestionRow, if_neg hclosed] at hrow
      simp [closed, isOpenOf, hshut]
    · exact hq
  | asked agentSession r q' now first second reason logged found owner running fresh unasked runs
      questions =>
    apply (Table.mem_of_update questions).mpr
    right
    refine ⟨?_, hq⟩
    intro hid
    rw [Table.mem_iff_find, hid, fresh] at hq
    cases hq
  | answered agentSession r q' actor payload sha256 answeredAt movedAt item first second mode
      answerReason reason logged found owner waiting foundQuestion questionRun questionSession pending
      runs questions =>
    have hne : q.id ≠ q'.id := by
      intro hid
      have hsame : q = q' := Table.eq_of_key hq (Table.mem_iff_find.mpr foundQuestion) hid
      exact hclosed (hsame ▸ pending)
    rw [Table.mem_iff_find, questions, Function.update_of_ne hne]
    exact Table.mem_iff_find.mp hq

variable {p : Platform}

theorem sound_empty : Sound Database.empty := by
  constructor <;> intro r hr <;> cases hr

theorem sound_run {actions : List Action} (hs : Sound s) (h : run (step p) s actions = some t) :
    Sound t :=
  run_invariant Sound (fun _ _ _ hsound hstep => sound_effect hsound (step_effect hstep)) hs h

/-- What the rows of a later state still hold. -/
structure Frozen (s t : Database) : Prop where
  runs : ∀ r ∈ s.runs.rows, r.status ∈ terminalRunStatuses → t.runs.find r.id = some r
  questions : ∀ q ∈ s.questions.rows, q.status ≠ .PENDING → t.questions.find q.id = some q

theorem frozen_run {actions : List Action} (hs : Sound s) (h : run (step p) s actions = some t) :
    Frozen s t := by
  constructor
  · intro r hr hterminal
    have hkept := run_invariant (fun u => r ∈ u.runs.rows)
      (fun _ _ _ hmem hstep => terminal_kept (step_effect hstep) hmem hterminal) hr h
    exact Table.mem_iff_find.mp hkept
  · intro q hq hclosed
    have hkept := run_invariant (fun u => Sound u ∧ q ∈ u.questions.rows)
      (fun _ _ _ hboth hstep => ⟨sound_effect hboth.1 (step_effect hstep),
        closed_kept hboth.1 (step_effect hstep) hboth.2 hclosed⟩) ⟨hs, hq⟩ h
    exact Table.mem_iff_find.mp hkept.2

def isPending (s : Database) (id : UUID) : Bool :=
  (s.questions.find id).any fun q => q.status == .PENDING

/-- How often the question leaves `PENDING` in a run. -/
def departures (p : Platform) (id : UUID) : Database → List Action → Nat
  | _, [] => 0
  | s, a :: rest =>
    match step p s a with
    | none => 0
    | some t => (if isPending s id && !isPending t id then 1 else 0) + departures p id t rest

theorem departures_closed {q : PendingQuestion} (actions : List Action) :
    ∀ {s : Database}, Sound s → q ∈ s.questions.rows → q.status ≠ .PENDING →
      departures p q.id s actions = 0 := by
  induction actions with
  | nil => exact fun _ _ _ => rfl
  | cons a rest ih =>
    intro s hs hq hclosed
    have hnot : isPending s q.id = false := by
      simp [isPending, Table.mem_iff_find.mp hq, hclosed]
    rw [departures]
    cases hstep : step p s a with
    | none => rfl
    | some t =>
      have heffect := step_effect hstep
      have hrest := ih (sound_effect hs heffect) (closed_kept hs heffect hq hclosed) hclosed
      simp [hnot, hrest]

/-- No step drops a question. -/
theorem question_stays {id : UUID} (h : Effect s t) (hfound : (s.questions.find id).isSome) :
    (t.questions.find id).isSome := by
  have hupdate : ∀ (k : UUID) (q : PendingQuestion),
      (Function.update s.questions.find k (some q) id).isSome := by
    intro k q
    rw [Function.update_apply]
    split
    · rfl
    · exact hfound
  cases h with
  | kept sessions runs questions => exact questions ▸ hfound
  | sessionCreated agentSession event fresh sessions noItems oneEvent events owner seq unrun runs
      questions => exact questions ▸ hfound
  | runCreated agentSession r item event logged fresh runs owner queued slot unfinished alone unbound
      questions => exact questions ▸ hfound
  | transitioned agentSession r target reason errorCode now event logged found owner allowed resumed
      runs questions =>
    rw [questions]
    split
    · rw [closeOpenQuestions, Table.find_mapRows]
      simpa using hfound
    · exact hfound
  | asked agentSession r q now first second reason logged found owner running fresh unasked runs
      questions =>
    rw [questions]
    exact hupdate _ _
  | answered agentSession r q actor payload sha256 answeredAt movedAt item first second mode
      answerReason reason logged found owner waiting foundQuestion questionRun questionSession pending
      runs questions =>
    rw [questions]
    exact hupdate _ _

theorem departures_le_one (id : UUID) (actions : List Action) :
    ∀ {s : Database}, Sound s → departures p id s actions ≤ 1 := by
  induction actions with
  | nil => exact fun _ => Nat.zero_le 1
  | cons a rest ih =>
    intro s hs
    rw [departures]
    cases hstep : step p s a with
    | none => exact Nat.zero_le 1
    | some t =>
      have heffect := step_effect hstep
      have ht := sound_effect hs heffect
      dsimp only
      split
      · rename_i hleaves
        obtain ⟨hbefore, hafter⟩ : isPending s id = true ∧ isPending t id = false := by
          simpa using hleaves
        have hfound : (s.questions.find id).isSome := by
          cases hq : s.questions.find id with
          | none => simp [isPending, hq] at hbefore
          | some q => rfl
        obtain ⟨q, hq⟩ := Option.isSome_iff_exists.mp (question_stays heffect hfound)
        obtain rfl : q.id = id := Table.find_key hq
        have hclosed : q.status ≠ .PENDING := by
          simpa [isPending, hq] using hafter
        rw [departures_closed rest ht (Table.mem_iff_find.mpr hq) hclosed]
      · have hrest := ih ht
        omega

/-- The run and question invariant of the task agent, in every state that any calls with
any arguments, accepted or rejected, lead to. -/
theorem runs_and_questions_agree {actions : List Action} {s : Database}
    (h : run (step p) Database.empty actions = some s) :
    Sound s ∧ (∀ later t, run (step p) s later = some t → Frozen s t) ∧
      ∀ id, departures p id Database.empty actions ≤ 1 := by
  have hs : Sound s := sound_run sound_empty h
  refine ⟨hs, ?_, ?_⟩
  · intro later t hlater
    exact frozen_run hs hlater
  · intro id
    exact departures_le_one id actions sound_empty

def sampleRun : Option Database := run (step samplePlatform) Database.empty sampleActions

/-- The run of the sample ends with these rows and this log. -/
theorem sampleRun_evaluated :
    sampleRun.map (fun s => (s.runs.rows.map (·.status), s.questions.rows.map (·.status),
      s.inbox.map (·.seq), s.events.map (·.seq))) =
    some ([.COMPLETED], [.ANSWERED], [1, 2], [1, 2, 3, 4, 5, 6, 7, 8, 9]) := by
  decide +kernel

theorem sampleRun_isSome : sampleRun.isSome = true := (get_of_map sampleRun_evaluated).1

theorem sampleRun_values {s : Database} (h : sampleRun = some s) :
    (s.runs.rows.map (·.status) = [.COMPLETED] ∧ s.questions.rows.map (·.status) = [.ANSWERED]) ∧
      (s.inbox.map (·.seq), s.events.map (·.seq)) = ([1, 2], [1, 2, 3, 4, 5, 6, 7, 8, 9]) := by
  have hvalues := sampleRun_evaluated
  rw [h] at hvalues
  obtain ⟨hruns, hrest⟩ := Prod.mk.inj (Option.some.inj hvalues)
  obtain ⟨hquestions, hlog⟩ := Prod.mk.inj hrest
  exact ⟨⟨hruns, hquestions⟩, hlog⟩

/-- The answered question and the completed run of the sample. -/
theorem runs_and_questions_agree_sample :
    let s := sampleRun.get sampleRun_isSome
    (s.runs.rows.map (·.status) = [.COMPLETED] ∧ s.questions.rows.map (·.status) = [.ANSWERED]) ∧
      Sound s ∧ (∀ later t, run (step samplePlatform) s later = some t → Frozen s t) ∧
        ∀ id, departures samplePlatform id Database.empty sampleActions ≤ 1 :=
  ⟨(sampleRun_values (Option.some_get sampleRun_isSome).symm).1,
    runs_and_questions_agree (Option.some_get sampleRun_isSome).symm⟩

end WechatBot.RunQuestions
