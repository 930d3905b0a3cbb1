import WechatBot.Runs
import WechatBot.TaskAgentSteps

/-!
# Retried run requests

`create_run` over whole histories. The key and the canonical text of an input decide what
a retry answers, in whatever state the session is, as long as the JSON column gives an
input back as a value that Python finds equal to it: the replay check compares the stored
value too and not the digest alone.
-/
namespace WechatBot.RunIdempotency

open PyData JsonText PersistedJson TaskAgent TaskAgentCalls TaskAgentSteps Transactions
open Tables (Table)
open Runs (run run_cons EachStep)

variable {p : Platform} {s t : Database}

/-- The canonical text of an input that the service accepts. -/
def canonicalText (value : PyDict) : Option Str :=
  (normalizeJson id value "input_payload").toOption.map (·.2)

/-- Normalizing reads a document back from its canonical text, and takes the digest of that
text. -/
theorem normalizeJson_canonical {sha256 : Str → Str} {value : PyDict} {result : Json × Str} :
    normalizeJson sha256 value "input_payload" = .ok result ↔
      ∃ doc, canonicalText value = some (Doc.text doc) ∧ result = (loads doc, sha256 doc.text) := by
  have hcanonical : ∀ doc, canonicalText value = some (Doc.text doc) ↔
      normalizeJson id value "input_payload" = .ok (loads doc, doc.text) := by
    intro doc
    rw [canonicalText]
    cases h : normalizeJson id value "input_payload" with
    | error detail => simp [Except.toOption]
    | ok found =>
      obtain ⟨other, -, -, rfl⟩ := normalizeJson_ok.mp h
      simp only [Except.toOption, Option.map_some, Option.some.injEq, Except.ok.injEq, Prod.mk.injEq,
        id_eq]
      constructor
      · intro htext
        exact ⟨congrArg loads (text_injective htext), htext⟩
      · exact fun hpair => hpair.2
  constructor
  · intro h
    obtain ⟨doc, hreject, hdumps, rfl⟩ := normalizeJson_ok.mp h
    exact ⟨doc, (hcanonical doc).mpr (normalizeJson_ok.mpr ⟨doc, hreject, hdumps, rfl⟩), rfl⟩
  · rintro ⟨doc, htext, rfl⟩
    obtain ⟨other, hreject, hdumps, hpair⟩ := normalizeJson_ok.mp ((hcanonical doc).mp htext)
    obtain rfl : doc = other := text_injective (congrArg Prod.snd hpair)
    exact normalizeJson_ok.mpr ⟨doc, hreject, hdumps, rfl⟩

structure Request where
  id : UUID
  sessionId : UUID
  idempotencyKey : Str
  inputPayload : Json
  inputSha256 : Str

def request (r : AgentRun) : Request where
  id := r.id
  sessionId := r.sessionId
  idempotencyKey := r.idempotencyKey
  inputPayload := r.inputPayload
  inputSha256 := r.inputSha256

def requests (s : Database) : Set Request := {q | ∃ r ∈ s.runs.rows, request r = q}

theorem request_moved (r : AgentRun) (target : AgentRunStatus) (errorCode : Option Str)
    (now : Time) : request (moved r target errorCode now) = request r := by
  unfold moved
  dsimp only
  split_ifs <;> rfl

theorem mem_requests {r : AgentRun} {q : Request} (h : t.runs.find = Function.update s.runs.find
    r.id (some r)) : q ∈ requests t ↔ q = request r ∨ (q.id ≠ r.id ∧ q ∈ requests s) := by
  constructor
  · rintro ⟨a, ha, rfl⟩
    rcases (Table.mem_of_update h).mp ha with rfl | ⟨hne, hold⟩
    · exact .inl rfl
    · exact .inr ⟨hne, a, hold, rfl⟩
  · rintro (rfl | ⟨hne, a, ha, rfl⟩)
    · exact ⟨r, (Table.mem_of_update h).mpr (.inl rfl), rfl⟩
    · exact ⟨a, (Table.mem_of_update h).mpr (.inr ⟨hne, ha⟩), rfl⟩

/-- A transition leaves the request of every run. -/
theorem requests_moved {r : AgentRun} {target : AgentRunStatus} {errorCode : Option Str}
    {now : Time} (hfound : s.runs.find r.id = some r)
    (h : t.runs.find = Function.update s.runs.find r.id (some (moved r target errorCode now))) :
    requests t = requests s := by
  have hmem : r ∈ s.runs.rows := Table.mem_iff_find.mpr hfound
  have hkey : t.runs.find = Function.update s.runs.find (moved r target errorCode now).id
      (some (moved r target errorCode now)) := by
    rw [h, moved_id]
  ext q
  rw [mem_requests hkey, request_moved, moved_id]
  constructor
  · rintro (rfl | ⟨-, hq⟩)
    · exact ⟨r, hmem, rfl⟩
    · exact hq
  · rintro ⟨a, ha, rfl⟩
    by_cases hid : a.id = r.id
    · exact .inl (congrArg request (Table.eq_of_key ha hmem hid))
    · exact .inr ⟨hid, a, ha, rfl⟩

def runIds (s : Database) : List UUID := s.runs.rows.map (·.id)

abbrev KeepsRuns {α : Type} (x : Tx α) : Prop := Keeps runIds x

theorem keepsRuns_appendInboxLocked (agentSession : AgentSession) (runId actorPrincipalId : UUID)
    (kind : AgentInboxKind) (payload : Json) (sha256 : Str) (questionId : Option UUID) :
    KeepsRuns (appendInboxLocked p agentSession runId actorPrincipalId kind payload sha256
      questionId) := by
  intro s result t h
  obtain ⟨_, -, -, rfl⟩ := appendInboxLocked_ok h
  rfl

theorem keepsRuns_appendEventLocked (agentSession : AgentSession) (runId questionId : Option UUID)
    (payload : EventPayload) :
    KeepsRuns (appendEventLocked p agentSession runId questionId payload) := by
  intro s next t h
  obtain ⟨-, rfl⟩ := appendEventLocked_ok h
  rfl

theorem keepsRuns_transitionLocked (agentSession : AgentSession) (run : AgentRun)
    (target : AgentRunStatus) (reason errorCode : Option Str) (now : Time) :
    KeepsRuns (transitionLocked p agentSession run target reason errorCode now) := by
  intro s result t h
  obtain ⟨-, -, rfl⟩ := transitionLocked_ok h
  exact Table.keys_save s.runs result.2

theorem keepsRuns_createSession (id : UUID) (payload : AgentSessionCreate) :
    KeepsRuns (createSession p id payload) := by
  intro s result t h
  obtain ⟨_, _, _, -, rfl⟩ := createSession_ok h
  rfl

theorem keepsRuns_transitionRun (runId : UUID) (payload : AgentRunTransition)
    (workspaceId : Option UUID) (clock : Nat → Time) :
    KeepsRuns (transitionRun p runId payload workspaceId clock) := by
  have hmove : ∀ agentSession run, KeepsRuns (transitionLocked p agentSession run payload.status
      payload.reason payload.errorCode (clock 0) >>= fun moved => pure moved.2) := by
    intro agentSession run
    apply keeps_bind (keepsRuns_transitionLocked _ _ _ _ _ _)
    intro _
    exact (reads_pure _).keeps _
  apply keeps_bind ((reads_lockedRun _ _).keeps _)
  rintro ⟨agentSession, run⟩
  dsimp only
  split
  · apply keeps_bind ((reads_openQuestion _).keeps _)
    intro question
    exact keeps_guard (hmove agentSession run)
  · exact hmove agentSession run

theorem keepsRuns_insertQuestion (question : PendingQuestion) :
    KeepsRuns (insertQuestion p question) := by
  intro s inserted t h
  rcases insertQuestion_ok h with ⟨-, rfl⟩ | ⟨-, -, _, _, -, rfl⟩
  · rfl
  · rfl

theorem keepsRuns_askQuestion (id runId : UUID) (payload : PendingQuestionCreate)
    (workspaceId : Option UUID) (clock : Nat → Time) :
    KeepsRuns (askQuestion p id runId payload workspaceId clock) := by
  apply keeps_bind ((reads_lockedRun _ _).keeps _)
  rintro ⟨agentSession, run⟩
  apply keeps_guard
  apply keeps_bind ((reads_requirePrincipal _ _).keeps _)
  intro _
  apply keeps_guard
  apply keeps_bind ((reads_normalized _ _).keeps _)
  rintro ⟨context, sha256⟩
  apply keeps_bind ((reads_openQuestion _).keeps _)
  intro question
  apply keeps_guard
  apply keeps_bind (keepsRuns_insertQuestion _)
  intro inserted
  split
  · apply keeps_bind (keepsRuns_appendEventLocked _ _ _ _)
    intro counted
    apply keeps_bind (keepsRuns_transitionLocked _ _ _ _ _ _)
    intro _
    exact (reads_pure _).keeps _
  · exact (reads_throw _).keeps _

/-- No answer to a question touches the requests of the runs. -/
theorem keepsRuns_consumeQuestionAnswer (agentSession : AgentSession) (run : AgentRun)
    (question : PendingQuestion) (actorPrincipalId : UUID) (answerPayload : PyDict)
    (answerMode transitionReason : String) (answerReason : Option Str) (clock : Nat → Time) :
    KeepsRuns (consumeQuestionAnswer p agentSession run question actorPrincipalId answerPayload
      answerMode transitionReason answerReason clock) := by
  apply keeps_bind ((reads_normalized _ _).keeps _)
  rintro ⟨payload, sha256⟩
  apply keeps_bind (keepsRuns_appendInboxLocked _ _ _ _ _ _ _)
  rintro ⟨counted, item⟩
  apply keeps_bind
  · exact keeps_modify fun _ => rfl
  · intro _
    apply keeps_bind (keepsRuns_appendEventLocked _ _ _ _)
    intro counted
    apply keeps_bind (keepsRuns_transitionLocked _ _ _ _ _ _)
    rintro ⟨counted, run⟩
    exact (reads_pure _).keeps _

theorem keepsRuns_answerQuestion (questionId : UUID) (payload : PendingQuestionAnswer)
    (workspaceId : Option UUID) (clock : Nat → Time) :
    KeepsRuns (answerQuestion p questionId payload workspaceId clock) := by
  apply keeps_bind ((reads_lockedQuestion _ _).keeps _)
  rintro ⟨agentSession, run, question⟩
  apply keeps_bind ((reads_validateAnswerableQuestion _ _ _).keeps _)
  intro _
  apply keeps_guard
  apply keeps_bind ((reads_requirePrincipal _ _).keeps _)
  intro _
  exact keepsRuns_consumeQuestionAnswer _ _ _ _ _ _ _ _ _

theorem keepsRuns_overrideAnswerQuestion (questionId : UUID)
    (payload : PendingQuestionOverrideAnswer) (actorPrincipalId : UUID) (workspaceId : Option UUID)
    (clock : Nat → Time) :
    KeepsRuns (overrideAnswerQuestion p questionId payload actorPrincipalId workspaceId clock) := by
  apply keeps_bind ((reads_lockedQuestion _ _).keeps _)
  rintro ⟨agentSession, run, question⟩
  apply keeps_bind ((reads_validateAnswerableQuestion _ _ _).keeps _)
  intro _
  apply keeps_bind ((reads_requirePrincipal _ _).keeps _)
  intro _
  exact keepsRuns_consumeQuestionAnswer _ _ _ _ _ _ _ _ _

/-- A step that adds no run changes none of the requests. -/
theorem requests_effect (h : Effect s t) (hids : runIds t = runIds s) :
    requests t = requests s := by
  cases h with
  | kept _ runs => rw [requests, runs]; rfl
  | sessionCreated _ _ _ _ _ _ _ _ _ _ runs => rw [requests, runs]; rfl
  | runCreated _ r _ _ _ fresh runs =>
    exfalso
    have hnew : r.id ∈ runIds t := by
      apply List.mem_map_of_mem
      exact (Table.mem_of_update runs).mpr (.inl rfl)
    rw [hids] at hnew
    obtain ⟨a, ha, hid⟩ := List.mem_map.mp hnew
    rw [← hid, Table.mem_iff_find.mp ha] at fresh
    cases fresh
  | transitioned _ _ _ _ _ _ _ _ found _ _ _ runs => exact requests_moved found runs
  | asked _ _ _ _ _ _ _ _ found _ _ _ _ runs => exact requests_moved found runs
  | answered _ _ _ _ _ _ _ _ _ _ _ _ _ _ _ found _ _ _ _ _ _ runs => exact requests_moved found runs

/-- A successful `create_run`: what it was asked for and the run it returned. -/
structure Creation where
  sessionId : UUID
  idempotencyKey : Str
  text : Str
  runId : UUID
  deriving DecidableEq

variable (p) in
def creation (s : Database) : Action → Option Creation
  | .call (.createRun id sessionId payload workspaceId) =>
    match createRun p id sessionId payload workspaceId s with
    | .ok run _ => (canonicalText payload.inputPayload).map fun text =>
        ⟨sessionId, payload.idempotencyKey, text, run.id⟩
    | .error _ _ => none
  | _ => none

variable (p) in
/-- The successful `create_run` calls of a run. -/
def creations (s : Database) : List Action → List Creation
  | [] => []
  | a :: rest =>
    (creation p s a).toList ++
      match step p s a with
      | some t => creations t rest
      | none => []

variable (p) in
/-- The JSON column gives back, if it takes the input, a value that Python finds equal. -/
def Faithful (value : PyDict) : Prop :=
  ∀ doc stored, canonicalText value = some (Doc.text doc) → p.json (loads doc) = some stored →
    pyEq stored (loads doc) = true

variable (p) in
/-- The condition on an action: the input of a `create_run` that succeeds is read back as an
equal value. -/
def FaithfulAction (s : Database) : Action → Prop
  | .call (.createRun id sessionId payload workspaceId) =>
    (creation p s (.call (.createRun id sessionId payload workspaceId))).isSome = true →
      Faithful p payload.inputPayload
  | _ => True

/-- A column that gives back what it was given. -/
theorem faithful_of_lossless (h : ∀ value, p.json value = some value) (value : PyDict) :
    Faithful p value := by
  intro doc stored _ hstored
  obtain rfl := Option.some.inj ((h _).symm.trans hstored)
  exact pyEq_loads doc

/-- Every run of a lossless column meets the condition. -/
theorem eachStep_of_lossless (h : ∀ value, p.json value = some value) (actions : List Action) :
    ∀ s, EachStep (step p) (FaithfulAction p) s actions := by
  induction actions with
  | nil => exact fun _ => trivial
  | cons a rest ih =>
    intro s
    refine ⟨?_, fun t _ => ih t⟩
    cases a with
    | directory => trivial
    | call call =>
      cases call with
      | createRun => exact fun _ => faithful_of_lossless h _
      | _ => trivial

variable (p) in
/-- A request that answers the retries of a creation. -/
structure Recorded (c : Creation) (q : Request) : Prop where
  id : q.id = c.runId
  owner : q.sessionId = c.sessionId
  key : q.idempotencyKey = c.idempotencyKey
  column : p.takesText c.idempotencyKey = true
  input : ∃ doc, Doc.text doc = c.text ∧ q.inputSha256 = p.sha256 doc.text ∧
    pyEq q.inputPayload (loads doc) = true

variable (p) in
structure Ledger (s : Database) (history : List Creation) : Prop where
  recorded : ∀ c ∈ history, ∃ q ∈ requests s, Recorded p c q
  known : ∀ q ∈ requests s, ∃ c ∈ history,
    c.sessionId = q.sessionId ∧ c.idempotencyKey = q.idempotencyKey
  unique : ∀ q ∈ requests s, ∀ r ∈ requests s, q.sessionId = r.sessionId →
    q.idempotencyKey = r.idempotencyKey → q = r

variable {history : List Creation}

theorem ledger_empty : Ledger p Database.empty [] where
  recorded := fun _ hc => absurd hc List.not_mem_nil
  known := by
    rintro q ⟨r, hr, -⟩
    exact absurd hr List.not_mem_nil
  unique := by
    rintro q ⟨r, hr, -⟩
    exact absurd hr List.not_mem_nil

/-- The ledger only looks at the requests. -/
theorem ledger_congr (hs : Ledger p s history) (h : requests t = requests s) :
    Ledger p t history := by
  constructor
  · rw [h]
    exact hs.recorded
  · rw [h]
    exact hs.known
  · rw [h]
    exact hs.unique

/-- A creation of a request that is already there. -/
theorem ledger_replayed (hs : Ledger p s history) {c : Creation} {q : Request}
    (hq : q ∈ requests s) (hc : Recorded p c q) : Ledger p s (history ++ [c]) := by
  constructor
  · intro d hd
    rcases List.mem_append.mp hd with hold | hnew
    · exact hs.recorded d hold
    · obtain rfl : d = c := by simpa using hnew
      exact ⟨q, hq, hc⟩
  · intro r hr
    obtain ⟨d, hd, hmatch⟩ := hs.known r hr
    exact ⟨d, List.mem_append_left _ hd, hmatch⟩
  · exact hs.unique

/-- A creation of a new request, whose key its session has not used. -/
theorem ledger_inserted (hs : Ledger p s history) {c : Creation} {q : Request}
    (hfresh : ∀ r ∈ requests s, r.id ≠ q.id)
    (hkey : ∀ r ∈ requests s, r.sessionId = q.sessionId → r.idempotencyKey ≠ q.idempotencyKey)
    (hmem : ∀ r, r ∈ requests t ↔ r = q ∨ (r.id ≠ q.id ∧ r ∈ requests s)) (hc : Recorded p c q) :
    Ledger p t (history ++ [c]) := by
  have hstay : ∀ r ∈ requests s, r ∈ requests t := fun r hr =>
    (hmem r).mpr (.inr ⟨hfresh r hr, hr⟩)
  constructor
  · intro d hd
    rcases List.mem_append.mp hd with hold | hnew
    · obtain ⟨r, hr, hrecorded⟩ := hs.recorded d hold
      exact ⟨r, hstay r hr, hrecorded⟩
    · obtain rfl : d = c := by simpa using hnew
      exact ⟨q, (hmem q).mpr (.inl rfl), hc⟩
  · intro r hr
    rcases (hmem r).mp hr with rfl | ⟨-, hold⟩
    · exact ⟨c, List.mem_append_right _ List.mem_cons_self, hc.owner.symm, hc.key.symm⟩
    · obtain ⟨d, hd, hmatch⟩ := hs.known r hold
      exact ⟨d, List.mem_append_left _ hd, hmatch⟩
  · intro a ha b hb hsession hsame
    rcases (hmem a).mp ha with rfl | ⟨-, ha⟩
    · rcases (hmem b).mp hb with rfl | ⟨-, hb⟩
      · rfl
      · exact absurd hsame.symm (hkey b hb hsession.symm)
    · rcases (hmem b).mp hb with rfl | ⟨-, hb⟩
      · exact absurd hsame (hkey a ha hsession)
      · exact hs.unique a ha b hb hsession hsame

/-- A creation is entered in the ledger. -/
theorem ledger_createRun (hs : Ledger p s history) {id sessionId : UUID} {payload : AgentRunCreate}
    {workspaceId : Option UUID} {run : AgentRun}
    (hfaithful : FaithfulAction p s (.call (.createRun id sessionId payload workspaceId)))
    (h : createRun p id sessionId payload workspaceId s = .ok run t) :
    Ledger p t (history ++
      (creation p s (.call (.createRun id sessionId payload workspaceId))).toList) := by
  obtain ⟨inputPayload, inputSha256, hnormalized, hcolumn, hcreated⟩ := createRun_ok h
  obtain ⟨doc, htext, hpair⟩ := normalizeJson_canonical.mp hnormalized
  cases hpair
  have hcreation : creation p s (.call (.createRun id sessionId payload workspaceId)) =
      some ⟨sessionId, payload.idempotencyKey, doc.text, run.id⟩ := by
    rw [creation, h]
    simp [htext]
  have hinput : Faithful p payload.inputPayload := hfaithful (by rw [hcreation]; rfl)
  rw [hcreation]
  cases hcreated with
  | replayed same found owner keyed digest equal =>
    subst same
    exact ledger_replayed hs ⟨run, found, rfl⟩ ⟨rfl, owner, keyed, hcolumn, doc, rfl, digest, equal⟩
  | inserted agentSession stored document runs found column created unclashed insert written =>
    subst created written
    have hclash : ∀ other ∈ s.runs.rows, clashes
        (newRun id sessionId payload.idempotencyKey (loads doc) (p.sha256 doc.text)) other = false := by
      simpa using unclashed
    apply ledger_inserted hs (q := request
      { newRun id sessionId payload.idempotencyKey (loads doc) (p.sha256 doc.text) with
        inputPayload := stored })
    · rintro r ⟨other, hother, rfl⟩ hid
      have hfresh := Table.insert_fresh insert
      have hfound := Table.mem_iff_find.mp hother
      rw [show other.id = _ from hid] at hfound
      exact absurd (hfresh.symm.trans hfound) nofun
    · rintro r ⟨other, hother, rfl⟩ hsession
      exact (distinct_of_clashes (hclash other hother) hsession (by simp [newRun])).1
    · intro r
      exact mem_requests (Table.find_insert_update insert)
    · exact ⟨rfl, rfl, rfl, hcolumn, doc, rfl, rfl, hinput doc stored htext column⟩

/-- A call that is not accepted leaves the requests as they were. -/
theorem requests_call {call : Call} (hcall : ∀ u t, call.body p s = .ok u t → runIds t = runIds s) :
    requests (settled s (call.body p s)) = requests s := by
  rcases TaskAgentRejections.settled_cases call s with ⟨u, t, hbody, ht⟩ | hsame
  · rw [ht]
    exact requests_effect (body_effect hbody) (hcall u t hbody)
  · rw [hsame]

theorem keepsRuns_ignored {α : Type} {x : Tx α} (h : KeepsRuns x) :
    KeepsRuns (do let _ ← x) := by
  apply keeps_bind h
  intro _
  exact (reads_pure _).keeps _

/-- Every step keeps the ledger of the creations. -/
theorem ledger_step (hs : Ledger p s history) {a : Action} (hfaithful : FaithfulAction p s a)
    (h : step p s a = some t) : Ledger p t (history ++ (creation p s a).toList) := by
  have hother : requests t = requests s → creation p s a = none →
      Ledger p t (history ++ (creation p s a).toList) := by
    intro hrequests hnone
    rw [hnone]
    simpa using ledger_congr hs hrequests
  cases a with
  | directory =>
    obtain rfl := Option.some.inj h
    exact hother rfl rfl
  | call call =>
    obtain rfl := Option.some.inj h
    cases call with
    | createRun id sessionId payload workspaceId =>
      cases hresult : createRun p id sessionId payload workspaceId s with
      | ok run t =>
        have hbody : (Call.createRun id sessionId payload workspaceId).body p s = .ok () t :=
          bind_of_ok hresult
        rw [hbody]
        exact ledger_createRun hs hfaithful hresult
      | error e t =>
        apply hother
        · apply requests_call
          intro u t' hbody
          obtain ⟨run, hok⟩ := body_ok hbody
          rw [hresult] at hok
          cases hok
        · rw [creation, hresult]
    | createSession id payload =>
      exact hother (requests_call fun _ _ => keepsRuns_ignored (keepsRuns_createSession _ _) _ _ _) rfl
    | transitionRun runId payload workspaceId clock =>
      exact hother (requests_call fun _ _ => keepsRuns_ignored (keepsRuns_transitionRun _ _ _ _) _ _ _) rfl
    | askQuestion id runId payload workspaceId clock =>
      exact hother (requests_call fun _ _ => keepsRuns_ignored (keepsRuns_askQuestion _ _ _ _ _) _ _ _) rfl
    | answerQuestion questionId payload workspaceId clock =>
      exact hother (requests_call fun _ _ => keepsRuns_ignored (keepsRuns_answerQuestion _ _ _ _) _ _ _) rfl
    | overrideAnswerQuestion questionId payload actorPrincipalId workspaceId clock =>
      exact hother
        (requests_call fun _ _ => keepsRuns_ignored (keepsRuns_overrideAnswerQuestion _ _ _ _ _) _ _ _) rfl

/-- Every run keeps the ledger of its creations. -/
theorem ledger_run {actions : List Action} :
    ∀ {s : Database} {history : List Creation}, Ledger p s history →
      EachStep (step p) (FaithfulAction p) s actions → run (step p) s actions = some t →
        Ledger p t (history ++ creations p s actions) := by
  induction actions with
  | nil =>
    intro s history hs _ h
    obtain rfl : s = t := Option.some.inj h
    simpa [creations] using hs
  | cons a rest ih =>
    intro s history hs hfaithful h
    obtain ⟨u, hstep, hrest⟩ := (run_cons _ _ _ _ _).mp h
    have hu := ledger_step hs hfaithful.head hstep
    have ht := ih hu (hfaithful.tail hstep) hrest
    rw [creations, hstep]
    simpa [List.append_assoc] using ht

/-- The session is one that the call may see. -/
def Visible (s : Database) (sessionId : UUID) (workspaceId : Option UUID) : Prop :=
  ∃ agentSession, lockedSession sessionId workspaceId s = .ok agentSession s

def ofKey (s : Database) (sessionId : UUID) (key : Str) : Option AgentRun :=
  s.runs.rows.find? fun run => decide (run.sessionId = sessionId ∧ run.idempotencyKey = key)

variable {id sessionId : UUID} {payload : AgentRunCreate} {workspaceId : Option UUID} {doc : Doc}

theorem canonicalText_doc {value : PyDict} {text : Str} (h : canonicalText value = some text) :
    ∃ doc, Doc.text doc = text := by
  rw [canonicalText] at h
  cases hresult : normalizeJson id value "input_payload" with
  | error detail =>
    rw [hresult] at h
    cases h
  | ok result =>
    rw [hresult] at h
    obtain ⟨doc, -, -, rfl⟩ := normalizeJson_ok.mp hresult
    exact ⟨doc, Option.some.inj h⟩

/-- An input without canonical text is refused before anything is read. -/
theorem createRun_rejected (h : canonicalText payload.inputPayload = none) :
    ∃ detail, createRun p id sessionId payload workspaceId s =
      .error (.persistedJsonValidation detail) s := by
  cases hresult : normalizeJson p.sha256 payload.inputPayload "input_payload" with
  | ok result =>
    obtain ⟨doc, htext, -⟩ := normalizeJson_canonical.mp hresult
    rw [h] at htext
    cases htext
  | error detail =>
    have hnormalized : normalized p payload.inputPayload "input_payload" s =
        .error (.persistedJsonValidation detail) s := by
      rw [normalized, hresult]
      rfl
    exact ⟨detail, bind_of_error hnormalized⟩

theorem findRunByKey_of (h : p.takesText payload.idempotencyKey = true) :
    findRunByKey p sessionId payload.idempotencyKey s =
      .ok (ofKey s sessionId payload.idempotencyKey) s := by
  have htext : storeText p payload.idempotencyKey s = .ok () s := by
    rw [storeText, if_pos h]
    rfl
  exact bind_of_ok htext

theorem normalized_of (htext : canonicalText payload.inputPayload = some doc.text) :
    normalized p payload.inputPayload "input_payload" s = .ok (loads doc, p.sha256 doc.text) s := by
  have hresult : normalizeJson p.sha256 payload.inputPayload "input_payload" =
      .ok (loads doc, p.sha256 doc.text) := normalizeJson_canonical.mpr ⟨doc, htext, rfl⟩
  rw [normalized, hresult]
  rfl

theorem findActiveRun_of : findActiveRun sessionId s = .ok (s.runs.rows.find? fun run =>
    decide (run.sessionId = sessionId ∧ run.activeSlot = some 1)) s := rfl

/-- A request whose key has a run is answered from that run. -/
theorem createRun_existing {existing : AgentRun} (hvisible : Visible s sessionId workspaceId)
    (htext : canonicalText payload.inputPayload = some doc.text)
    (hcolumn : p.takesText payload.idempotencyKey = true)
    (hfound : ofKey s sessionId payload.idempotencyKey = some existing) :
    createRun p id sessionId payload workspaceId s =
      resolveIdempotentRun existing (loads doc) (p.sha256 doc.text) s := by
  obtain ⟨agentSession, hlocked⟩ := hvisible
  rw [createRun, bind_of_ok (normalized_of htext)]
  dsimp only
  rw [bind_of_ok hlocked, bind_of_ok (findRunByKey_of hcolumn), hfound]

/-- A new key while another run is active. -/
theorem createRun_busy (hvisible : Visible s sessionId workspaceId)
    (htext : canonicalText payload.inputPayload = some doc.text)
    (hnew : ofKey s sessionId payload.idempotencyKey = none)
    (hactive : ∃ r ∈ s.runs.rows, r.sessionId = sessionId ∧ r.activeSlot = some 1) :
    ∃ e, createRun p id sessionId payload workspaceId s = .error e s := by
  obtain ⟨agentSession, hlocked⟩ := hvisible
  rw [createRun, bind_of_ok (normalized_of htext)]
  dsimp only
  rw [bind_of_ok hlocked]
  by_cases hcolumn : p.takesText payload.idempotencyKey = true
  · have hsome : (s.runs.rows.find? fun run =>
        decide (run.sessionId = sessionId ∧ run.activeSlot = some 1)).isSome = true := by
      rw [List.find?_isSome]
      obtain ⟨r, hr, hmatch⟩ := hactive
      exact ⟨r, hr, by simpa using hmatch⟩
    rw [bind_of_ok (findRunByKey_of hcolumn), hnew]
    dsimp only
    rw [bind_of_ok findActiveRun_of, if_pos hsome]
    exact ⟨_, rfl⟩
  · have hrefused : findRunByKey p sessionId payload.idempotencyKey s = .error .databaseError s := by
      have htext : storeText p payload.idempotencyKey s = .error .databaseError s := by
        rw [storeText, if_neg hcolumn]
        rfl
      exact bind_of_error htext
    exact ⟨_, bind_of_error hrefused⟩

variable (p) in
/-- The database takes the rows of a new run. -/
structure Storable (s : Database) (id sessionId : UUID) (payload : AgentRunCreate) : Prop where
  key : p.takesText payload.idempotencyKey = true
  fresh : s.runs.find id = none
  input : ∀ doc, canonicalText payload.inputPayload = some (Doc.text doc) →
    (p.json (loads doc)).isSome = true
  event : ∀ doc seq result, canonicalText payload.inputPayload = some (Doc.text doc) →
    normalizeJson p.sha256 (EventPayload.runCreated payload.idempotencyKey (p.sha256 doc.text) seq
      .QUEUED).document "event payload" = .ok result → (p.json result.1).isSome = true
  items : ∀ agentSession, s.sessions.find sessionId = some agentSession →
    agentSession.lastInboxSeq < p.integerMax
  events : ∀ agentSession, s.sessions.find sessionId = some agentSession →
    agentSession.lastEventSeq < p.integerMax

theorem storeInteger_of {n : Nat} (h : n ≤ p.integerMax) : storeInteger p n s = .ok () s := by
  rw [storeInteger, if_neg (by omega)]
  rfl

theorem storeJson_of {value stored : Json} (h : p.json value = some stored) :
    storeJson p value s = .ok stored s := by
  rw [storeJson, h]
  rfl

theorem insertRun_of {run : AgentRun} {stored : Json} (hcolumn : p.takesText run.idempotencyKey = true)
    (hstored : p.json run.inputPayload = some stored) (hfresh : s.runs.find run.id = none)
    (hclash : s.runs.rows.any (clashes run) = false) :
    ∃ runs, insertRun p run s = .ok true { s with runs } := by
  obtain ⟨runs, hinsert⟩ := Table.insert_isSome (a := { run with inputPayload := stored }) hfresh
  have htext : storeText p run.idempotencyKey s = .ok () s := by
    rw [storeText, if_pos hcolumn]
    rfl
  refine ⟨runs, ?_⟩
  rw [insertRun, bind_of_ok htext, bind_of_ok (storeJson_of hstored)]
  show (if s.runs.rows.any (clashes run) = true then _ else _ : Tx Bool) s = _
  rw [if_neg (by simp [hclash])]
  simp only [hinsert]
  rfl

theorem appendInboxLocked_of {agentSession : AgentSession} {runId actorPrincipalId : UUID}
    {kind : AgentInboxKind} {input stored : Json} {sha256 : Str} {questionId : Option UUID}
    (hseq : agentSession.lastInboxSeq < p.integerMax) (hstored : p.json input = some stored) :
    appendInboxLocked p agentSession runId actorPrincipalId kind input sha256 questionId s =
      .ok (agentSession.countItem,
          newItem agentSession.countItem runId actorPrincipalId kind stored sha256 questionId)
        (s.addItem agentSession.countItem
          (newItem agentSession.countItem runId actorPrincipalId kind stored sha256 questionId)) := by
  have hnumber : agentSession.countItem.lastInboxSeq ≤ p.integerMax := hseq
  rw [appendInboxLocked, bind_of_ok (storeInteger_of hnumber), bind_of_ok (storeJson_of hstored)]
  rfl

theorem appendEventLocked_of {agentSession : AgentSession} {runId questionId : Option UUID}
    {event : EventPayload} {result : Json × Str} (hseq : agentSession.lastEventSeq < p.integerMax)
    (hresult : normalizeJson p.sha256 event.document "event payload" = .ok result)
    (hstored : (p.json result.1).isSome = true) :
    ∃ t, appendEventLocked p agentSession runId questionId event s = .ok agentSession.countEvent t := by
  have hnumber : agentSession.countEvent.lastEventSeq ≤ p.integerMax := hseq
  obtain ⟨stored, hkept⟩ := Option.isSome_iff_exists.mp hstored
  have hnormalized : normalized p event.document "event payload" s = .ok result s := by
    rw [normalized, hresult]
    rfl
  rw [appendEventLocked, bind_of_ok hnormalized]
  dsimp only
  rw [bind_of_ok (storeInteger_of hnumber), bind_of_ok (storeJson_of hkept)]
  exact ⟨_, rfl⟩

/-- The first rows of a new run are written when the database takes them. -/
theorem recordRunRequest_of {agentSession : AgentSession} {run : AgentRun}
    (hitems : agentSession.lastInboxSeq < p.integerMax)
    (hevents : agentSession.lastEventSeq < p.integerMax)
    (hinput : (p.json run.inputPayload).isSome = true) (hshort : run.idempotencyKey.length ≤ 255)
    (hsha : run.inputSha256.length = 64)
    (hevent : ∀ seq result, normalizeJson p.sha256 (EventPayload.runCreated run.idempotencyKey
      run.inputSha256 seq run.status).document "event payload" = .ok result →
        (p.json result.1).isSome = true) :
    ∃ t, recordRunRequest p agentSession run s = .ok () t := by
  obtain ⟨stored, hstored⟩ := Option.isSome_iff_exists.mp hinput
  have hfits := @EventPayloads.fits_runCreated _ _ (agentSession.lastInboxSeq + 1) run.status
    hshort hsha (lt_of_le_of_lt hitems p.integerMaxLt)
  obtain ⟨result, hresult⟩ := EventPayloads.normalize_document p.sha256 hfits "event payload"
  obtain ⟨t, hlast⟩ := @appendEventLocked_of p
    (s.addItem agentSession.countItem (newItem agentSession.countItem run.id
      agentSession.requesterPrincipalId .RUN_REQUEST stored run.inputSha256 none))
    agentSession.countItem (some run.id) none _ result hevents hresult (hevent _ _ hresult)
  refine ⟨t, ?_⟩
  rw [recordRunRequest, bind_of_ok (appendInboxLocked_of hitems hstored)]
  dsimp only
  exact bind_of_ok hlast

/-- A new key in a session at rest. -/
theorem createRun_new (hvisible : Visible s sessionId workspaceId)
    (htext : canonicalText payload.inputPayload = some doc.text)
    (hnew : ofKey s sessionId payload.idempotencyKey = none)
    (hidle : ∀ r ∈ s.runs.rows, r.sessionId = sessionId → r.activeSlot ≠ some 1)
    (hstorable : Storable p s id sessionId payload) :
    ∃ run t, createRun p id sessionId payload workspaceId s = .ok run t := by
  obtain ⟨agentSession, hlocked⟩ := hvisible
  have hsession := (lockedSession_ok hlocked).1
  have hnone : (s.runs.rows.find? fun run =>
      decide (run.sessionId = sessionId ∧ run.activeSlot = some 1)) = none := by
    rw [List.find?_eq_none]
    intro r hr hmatch
    simp only [decide_eq_true_eq] at hmatch
    exact hidle r hr hmatch.1 hmatch.2
  have hclash : s.runs.rows.any (clashes
      (newRun id sessionId payload.idempotencyKey (loads doc) (p.sha256 doc.text))) = false := by
    rw [List.any_eq_false]
    intro r hr hmatch
    obtain ⟨howner, hkey | ⟨-, hslot⟩⟩ := of_decide_eq_true hmatch
    · exact List.find?_eq_none.mp hnew r hr (decide_eq_true ⟨howner, hkey⟩)
    · exact hidle r hr howner hslot
  obtain ⟨stored, hstored⟩ := Option.isSome_iff_exists.mp (hstorable.input doc htext)
  obtain ⟨runs, hinsert⟩ := @insertRun_of p s
    (newRun id sessionId payload.idempotencyKey (loads doc) (p.sha256 doc.text)) stored hstorable.key
    hstored hstorable.fresh hclash
  obtain ⟨t, hrecord⟩ := @recordRunRequest_of p { s with runs } agentSession
    (newRun id sessionId payload.idempotencyKey (loads doc) (p.sha256 doc.text))
    (hstorable.items agentSession hsession) (hstorable.events agentSession hsession)
    (hstorable.input doc htext) payload.keyShort (p.sha256Length _)
    (fun seq result => hstorable.event doc seq result htext)
  refine ⟨newRun id sessionId payload.idempotencyKey (loads doc) (p.sha256 doc.text), t, ?_⟩
  rw [createRun, bind_of_ok (normalized_of htext)]
  dsimp only
  rw [bind_of_ok hlocked, bind_of_ok (findRunByKey_of hstorable.key), hnew]
  dsimp only
  rw [bind_of_ok findActiveRun_of, hnone]
  dsimp only [Option.isSome_none]
  rw [if_neg (by decide), bind_of_ok hinsert, if_pos rfl, bind_of_ok hrecord]
  rfl

variable (p) in
/-- SHA-256 is injective on the canonical forms of the history and of the input. -/
def InjectiveDigest (history : List Creation) (input : PyDict) : Prop :=
  ∀ c ∈ history, ∀ text, canonicalText input = some text → p.sha256 c.text = p.sha256 text →
    c.text = text

/-- The run of an earlier creation is found by its key. -/
theorem ofKey_recorded (hs : Ledger p s history) {c : Creation} (hc : c ∈ history) :
    ∃ r, ofKey s c.sessionId c.idempotencyKey = some r ∧ Recorded p c (request r) := by
  obtain ⟨q, ⟨r, hr, rfl⟩, hrecorded⟩ := hs.recorded c hc
  have howner : r.sessionId = c.sessionId := hrecorded.owner
  have hkey : r.idempotencyKey = c.idempotencyKey := hrecorded.key
  cases hfound : ofKey s c.sessionId c.idempotencyKey with
  | none => exact absurd (decide_eq_true ⟨howner, hkey⟩) (List.find?_eq_none.mp hfound r hr)
  | some a =>
    have ha := List.mem_of_find?_eq_some hfound
    obtain ⟨hasession, hakey⟩ : a.sessionId = c.sessionId ∧ a.idempotencyKey = c.idempotencyKey := by
      simpa using List.find?_some hfound
    have hsame := hs.unique (request a) ⟨a, ha, rfl⟩ (request r) ⟨r, hr, rfl⟩
      (hasession.trans howner.symm) (hakey.trans hkey.symm)
    exact ⟨a, rfl, hsame ▸ hrecorded⟩

/-- The call adds one run to the table, which it returns with its key. -/
structure AddsOne (s t : Database) (run : AgentRun) : Prop where
  fresh : s.runs.find run.id = none
  added : ∃ row, request row = { request run with inputPayload := row.inputPayload } ∧
    t.runs.rows = s.runs.rows ++ [row]

/-- What `create_run` promises in a state that the creations of `history` have led to. -/
structure Idempotent (p : Platform) (s : Database) (history : List Creation) (id sessionId : UUID)
    (payload : AgentRunCreate) (workspaceId : Option UUID) : Prop where
  /-- The same key and the same canonical input: the same run, and nothing is written. -/
  same : ∀ c ∈ history, c.sessionId = sessionId → c.idempotencyKey = payload.idempotencyKey →
    canonicalText payload.inputPayload = some c.text →
      ∃ run, createRun p id sessionId payload workspaceId s = .ok run s ∧ run.id = c.runId ∧
        run ∈ s.runs.rows
  /-- The same key and another canonical input: a conflict, and nothing is written. -/
  different : ∀ c ∈ history, c.sessionId = sessionId → c.idempotencyKey = payload.idempotencyKey →
    ∀ text, canonicalText payload.inputPayload = some text → text ≠ c.text →
      createRun p id sessionId payload workspaceId s = .error
        (.runIdempotencyConflict "idempotency key is already bound to different input") s
  /-- A new key while a run of the session is active. -/
  busy : (∀ c ∈ history, c.sessionId = sessionId → c.idempotencyKey ≠ payload.idempotencyKey) →
    (∃ r ∈ s.runs.rows, r.sessionId = sessionId ∧ r.activeSlot = some 1) →
      ∃ e, createRun p id sessionId payload workspaceId s = .error e s
  /-- A new key in a session without an active run. -/
  idle : (∀ c ∈ history, c.sessionId = sessionId → c.idempotencyKey ≠ payload.idempotencyKey) →
    (∀ r ∈ s.runs.rows, r.sessionId = sessionId → r.activeSlot ≠ some 1) →
    (canonicalText payload.inputPayload).isSome = true → Storable p s id sessionId payload →
      ∃ run t, createRun p id sessionId payload workspaceId s = .ok run t ∧ AddsOne s t run ∧
        run.sessionId = sessionId ∧ run.idempotencyKey = payload.idempotencyKey
  /-- An input without a canonical form. -/
  rejected : canonicalText payload.inputPayload = none →
    ∃ e, createRun p id sessionId payload workspaceId s = .error e s

theorem ofKey_new (hs : Ledger p s history)
    (hnew : ∀ c ∈ history, c.sessionId = sessionId → c.idempotencyKey ≠ payload.idempotencyKey) :
    ofKey s sessionId payload.idempotencyKey = none := by
  rw [ofKey, List.find?_eq_none]
  intro r hr hmatch
  obtain ⟨howner, hkey⟩ := of_decide_eq_true hmatch
  obtain ⟨c, hc, hsession, hsame⟩ := hs.known (request r) ⟨r, hr, rfl⟩
  exact hnew c hc (hsession.trans howner) (hsame.trans hkey)

/-- What the ledger records makes the next request idempotent. -/
theorem idempotent_of_ledger (hdigest : InjectiveDigest p history payload.inputPayload)
    (hs : Ledger p s history) (hvisible : Visible s sessionId workspaceId) :
    Idempotent p s history id sessionId payload workspaceId := by
  constructor
  · intro c hc hsession hkey htext
    subst hsession
    obtain ⟨r, hfound, hrecorded⟩ := ofKey_recorded hs hc
    obtain ⟨doc, hdoc, hsha, hequal⟩ := hrecorded.input
    rw [hkey] at hfound
    refine ⟨r, ?_, hrecorded.id, List.mem_of_find?_eq_some hfound⟩
    rw [← hdoc] at htext
    rw [createRun_existing hvisible htext (hkey ▸ hrecorded.column) hfound, resolveIdempotentRun,
      if_neg]
    · rfl
    · rintro (hne | hne)
      · exact hne hsha
      · exact absurd (hne.symm.trans hequal) nofun
  · intro c hc hsession hkey text htext hne
    subst hsession
    obtain ⟨r, hfound, hrecorded⟩ := ofKey_recorded hs hc
    obtain ⟨doc, hdoc, hsha, -⟩ := hrecorded.input
    rw [hdoc] at hsha
    rw [hkey] at hfound
    have hinjective := hdigest c hc text htext
    obtain ⟨other, rfl⟩ := canonicalText_doc htext
    rw [createRun_existing hvisible htext (hkey ▸ hrecorded.column) hfound, resolveIdempotentRun,
      if_pos]
    · rfl
    · left
      intro heq
      exact hne (hinjective (hsha.symm.trans heq)).symm
  · intro hnew hactive
    cases htext : canonicalText payload.inputPayload with
    | none =>
      obtain ⟨detail, h⟩ := createRun_rejected htext
      exact ⟨_, h⟩
    | some text =>
      obtain ⟨doc, rfl⟩ := canonicalText_doc htext
      exact createRun_busy hvisible htext (ofKey_new hs hnew) hactive
  · intro hnew hidle hcanonical hstorable
    obtain ⟨text, htext⟩ := Option.isSome_iff_exists.mp hcanonical
    obtain ⟨doc, rfl⟩ := canonicalText_doc htext
    obtain ⟨run, t, h⟩ := createRun_new hvisible htext (ofKey_new hs hnew) hidle hstorable
    refine ⟨run, t, h, ?_⟩
    obtain ⟨inputPayload, inputSha256, -, -, hcreated⟩ := createRun_ok h
    cases hcreated with
    | replayed same found owner keyed =>
      exact absurd (decide_eq_true ⟨owner, keyed⟩)
        (List.find?_eq_none.mp (ofKey_new hs hnew) run found)
    | inserted agentSession stored document runs found column created unclashed insert written =>
      subst created written
      have hfresh := Table.insert_fresh insert
      have hrows := Table.insert_rows insert
      exact ⟨⟨hfresh, { newRun id sessionId payload.idempotencyKey inputPayload inputSha256 with
        inputPayload := stored }, rfl, hrows⟩, rfl, rfl⟩
  · intro htext
    obtain ⟨detail, h⟩ := createRun_rejected htext
    exact ⟨_, h⟩

/-- Run creation is idempotent in every state of a run whose inputs the JSON column gives
back as equal values. -/
theorem create_run_idempotent {actions : List Action}
    (hdigest : InjectiveDigest p (creations p Database.empty actions) payload.inputPayload)
    (hfaithful : EachStep (step p) (FaithfulAction p) Database.empty actions)
    (h : run (step p) Database.empty actions = some s)
    (hvisible : Visible s sessionId workspaceId) :
    Idempotent p s (creations p Database.empty actions) id sessionId payload workspaceId :=
  idempotent_of_ledger hdigest (ledger_run ledger_empty hfaithful h) hvisible

/-- A digest of 64 decimal digits in place of SHA-256. -/
def sampleDigest (raw : Str) : Str := Timestamps.digits 64 (Nat.ofDigits 128 raw)

/-- A JSON column that keeps the text it is given, as on SQLite. -/
def sqlite : Platform where
  takesText := encodable
  json := some
  integerMax := 2 ^ 63 - 1
  integerMaxLt := by decide
  sha256 := sampleDigest
  sha256Length := fun _ => Timestamps.length_digits _ _

def postgresText (s : Str) : Bool := encodable s && !s.contains 0

mutual

/-- What a `jsonb` column gives back. Its numbers are decimals and print without an
exponent, so a number without a fraction comes back as an integer. The order of the keys is
left out. -/
def jsonb : Json → Option Json
  | .null => some .null
  | .bool b => some (.bool b)
  | .int n => some (.int n)
  | .float (.finite mantissa exponent) =>
    if 0 ≤ exponent then some (.int (mantissa * 10 ^ exponent.toNat))
    else some (.float (.finite mantissa exponent))
  | .float _ => none
  | .str s => if postgresText s then some (.str s) else none
  | .arr items => (jsonbItems items).map .arr
  | .obj fields => (jsonbFields fields).map .obj

def jsonbItems : List Json → Option (List Json)
  | [] => some []
  | item :: rest => do return (← jsonb item) :: (← jsonbItems rest)

def jsonbFields : List (Str × Json) → Option (List (Str × Json))
  | [] => some []
  | (key, item) :: rest => do
    if postgresText key then return (key, ← jsonb item) :: (← jsonbFields rest) else none

end

def postgres : Platform where
  takesText := postgresText
  json := jsonb
  integerMax := 2 ^ 31 - 1
  integerMaxLt := int4_lt
  sha256 := sampleDigest
  sha256Length := fun _ => Timestamps.length_digits _ _

/-- `{"x": 1e23}` -/
def floatRequest : AgentRunCreate where
  idempotencyKey := py "retry"
  inputPayload := [(.str (py "x"), .float ⟨py "1e+23", by decide, by decide⟩)]
  keyShort := by decide
  keyNonblank := by decide

def floatActions : List Action :=
  [.directory [1] [⟨2, 1, .ADMIN_USER, py "requester", true⟩] [(3, 1)],
    .call (.createSession 10 ⟨1, 3, 2, []⟩),
    .call (.createRun 20 10 floatRequest none)]

def floatRun (p : Platform) : Option Database := run (step p) Database.empty floatActions

def floatText : Str := py "\x7b\"x\":1e+23\x7d"

def floatHistory : List Creation := [⟨10, floatRequest.idempotencyKey, floatText, 20⟩]

/-- The runs on both platforms, and what the retry meets on the first one. -/
theorem floatRuns_evaluated :
    canonicalText floatRequest.inputPayload = some floatText ∧
      (floatRun postgres).isSome = true ∧ (floatRun sqlite).isSome = true ∧
      creations postgres Database.empty floatActions = floatHistory ∧
      creations sqlite Database.empty floatActions = floatHistory ∧
      (floatRun postgres).any (fun s => succeeded (lockedSession 10 none s) &&
        !succeeded (createRun postgres 21 10 floatRequest none s)) = true ∧
      (floatRun sqlite).any (fun s => succeeded (lockedSession 10 none s)) = true := by
  decide +kernel

theorem floatRun_postgres : (floatRun postgres).isSome = true := floatRuns_evaluated.2.1

theorem floatRun_sqlite : (floatRun sqlite).isSome = true := floatRuns_evaluated.2.2.1

theorem floatHistory_injective (p : Platform) :
    InjectiveDigest p floatHistory floatRequest.inputPayload := by
  intro c hc text htext _
  obtain rfl : c = ⟨10, floatRequest.idempotencyKey, floatText, 20⟩ := by
    simpa [floatHistory] using hc
  exact Option.some.inj (floatRuns_evaluated.1.symm.trans htext)

/-- The retry of `{"x": 1e23}` on PostgreSQL: the stored integer 10^23 is not the float. -/
theorem float_retry_conflicts :
    let s := (floatRun postgres).get floatRun_postgres
    run (step postgres) Database.empty floatActions = some s ∧ Visible s 10 none ∧
      InjectiveDigest postgres (creations postgres Database.empty floatActions)
        floatRequest.inputPayload ∧
      ¬ Idempotent postgres s (creations postgres Database.empty floatActions) 21 10 floatRequest
        none := by
  intro s
  obtain ⟨htext, -, -, hhistory, -, hretry, -⟩ := floatRuns_evaluated
  obtain ⟨_, hretry⟩ := (Option.any_eq_true_iff_get _ _).mp hretry
  obtain ⟨hvisible, hfails⟩ := Bool.and_eq_true_iff.mp hretry
  rw [hhistory]
  refine ⟨(Option.some_get floatRun_postgres).symm,
    (reads_lockedSession 10 none).succeeds hvisible, floatHistory_injective _, ?_⟩
  intro h
  obtain ⟨run, hrun, -⟩ := h.same _ List.mem_cons_self rfl rfl htext
  rw [hrun] at hfails
  cases hfails

/-- The same retry on SQLite. -/
theorem create_run_idempotent_sqlite :
    Idempotent sqlite ((floatRun sqlite).get floatRun_sqlite)
      (creations sqlite Database.empty floatActions) 21 10 floatRequest none := by
  obtain ⟨-, -, -, -, hhistory, -, hvisible⟩ := floatRuns_evaluated
  obtain ⟨_, hvisible⟩ := (Option.any_eq_true_iff_get _ _).mp hvisible
  exact create_run_idempotent (hhistory ▸ floatHistory_injective _)
    (eachStep_of_lossless (fun _ => rfl) _ _) (Option.some_get floatRun_sqlite).symm
    ((reads_lockedSession 10 none).succeeds hvisible)

end WechatBot.RunIdempotency
