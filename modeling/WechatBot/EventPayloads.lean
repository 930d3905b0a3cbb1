import WechatBot.TaskAgent

/-!
# Event payloads persist

`_append_event_locked` normalizes the payload before it counts the event. The schemas
bound every text of a payload and no key of one is private, so the payload is never
refused and the writes before it are never left without their event.
-/
namespace WechatBot.EventPayloads

open PyData JsonText PersistedJson TaskAgent
open Timestamps (isoformat length_isoformat_le)

/-- A value that is short in every spelling. -/
def Small : PyValue → Prop
  | .null => True
  | .int n => 0 ≤ n ∧ n < 2 ^ 64
  | .str s => s.length ≤ 500
  | _ => False

/-- A key that an event may have. -/
def Plain (key : String) : Prop := isPrivateReasoningKey (py key) = false ∧ (py key).length ≤ 40

instance (key : String) : Decidable (Plain key) := inferInstanceAs (Decidable (_ ∧ _))

theorem reject_small {value : PyValue} (path : Str) (h : Small value) :
    rejectPrivateReasoning path value = .ok () := by
  cases value with
  | dict => exact absurd h (by simp [Small])
  | list => exact absurd h (by simp [Small])
  | _ => simp [rejectPrivateReasoning]

/-- A flat document with plain keys has nothing private. -/
theorem reject_flat (path : Str) (entries : List (String × PyValue))
    (hkeys : ∀ e ∈ entries, Plain e.1) (hsmall : ∀ e ∈ entries, Small e.2) :
    rejectFields path (entries.map fun entry => (.str (py entry.1), entry.2)) = .ok () := by
  induction entries with
  | nil => simp [rejectFields]
  | cons entry entries ih =>
    have hkey := (hkeys entry List.mem_cons_self).1
    have hvalue := hsmall entry List.mem_cons_self
    have hrest := ih (fun e he => hkeys e (List.mem_cons_of_mem _ he))
      (fun e he => hsmall e (List.mem_cons_of_mem _ he))
    simp [rejectFields, hkey, reject_small _ hvalue, hrest, bind, Except.bind]

theorem dumps_small {value : PyValue} (h : Small value) :
    ∃ d, value.dumps = some d ∧ d.text.length ≤ 6002 := by
  cases value with
  | null => exact ⟨.null, by simp [PyValue.dumps], by simp [Doc.text, py]⟩
  | int n =>
    obtain ⟨hnonneg, hlt⟩ := h
    obtain ⟨k, rfl⟩ := Int.eq_ofNat_of_zero_le hnonneg
    have hk : k < 10 ^ 20 := by omega
    have hlength : (decimal k).length ≤ 20 := length_decimal_le hk (by omega)
    refine ⟨.int k, ?_, ?_⟩
    · simp only [PyValue.dumps, Int.natAbs_natCast]
      rw [if_neg (by omega)]
    · show (decimal k).length ≤ 6002
      omega
  | str s =>
    have hs : s.length ≤ 500 := h
    have hunits := length_utf16_le s
    have hquoted := length_quoted_le (utf16 s)
    refine ⟨.str (utf16 s), by simp [PyValue.dumps], ?_⟩
    simp only [Doc.text]
    omega
  | _ => exact absurd h (by simp [Small])

/-- What a short field adds to the text of its object. -/
def ShortField (field : Str × Doc) : Prop :=
  field.1.length ≤ 40 ∧ field.2.text.length ≤ 6002

/-- A flat document of short values is written with a bounded length. -/
theorem dumps_flat (entries : List (String × PyValue)) (hkeys : ∀ e ∈ entries, Plain e.1)
    (hsmall : ∀ e ∈ entries, Small e.2) :
    ∃ fields, dumpsFields (entries.map fun entry => (.str (py entry.1), entry.2)) = some fields ∧
      fields.length = entries.length ∧ ∀ field ∈ fields, ShortField field := by
  induction entries with
  | nil => exact ⟨[], by simp [dumpsFields], rfl, by simp⟩
  | cons entry entries ih =>
    obtain ⟨d, hd, hshort⟩ := dumps_small (hsmall entry List.mem_cons_self)
    obtain ⟨fields, hfields, hlength, hall⟩ :=
      ih (fun e he => hkeys e (List.mem_cons_of_mem _ he))
        (fun e he => hsmall e (List.mem_cons_of_mem _ he))
    refine ⟨(py entry.1, d) :: fields, ?_, by simp [hlength], ?_⟩
    · simp [dumpsFields, hd, hfields]
    · intro field hfield
      rcases List.mem_cons.mp hfield with rfl | hfield
      · exact ⟨(hkeys entry List.mem_cons_self).2, hshort⟩
      · exact hall field hfield

theorem sum_fieldSize_le (fields : List (Str × Doc)) (h : ∀ field ∈ fields, ShortField field) :
    ((fields.map fun f => (utf16 f.1, f.2)).map fieldSize).sum ≤ fields.length * 6486 := by
  induction fields with
  | nil => simp
  | cons field fields ih =>
    have hrest := ih fun f hf => h f (List.mem_cons_of_mem _ hf)
    obtain ⟨hkey, hvalue⟩ := h field List.mem_cons_self
    have hunits := length_utf16_le field.1
    have hquoted := length_quoted_le (utf16 field.1)
    simp only [List.map_cons, List.sum_cons, fieldSize, List.length_cons] at hrest ⊢
    omega

/-- A flat object of at most ten short fields is persisted. -/
theorem normalize_flat (sha256 : Str → Str) (name : String) (entries : List (String × PyValue))
    (hcount : entries.length ≤ 10) (hkeys : ∀ e ∈ entries, Plain e.1)
    (hsmall : ∀ e ∈ entries, Small e.2) :
    ∃ result, normalizeJson sha256 (entries.map fun entry => (.str (py entry.1), entry.2)) name =
      .ok result := by
  obtain ⟨fields, hfields, hlength, hshort⟩ := dumps_flat entries hkeys hsmall
  have hsorted : ∀ field ∈ sortKeys fields, ShortField field := fun field hfield =>
    hshort field ((List.mem_insertionSort _).mp hfield)
  have hsum := sum_fieldSize_le (sortKeys fields) hsorted
  have hcountSorted : (sortKeys fields).length ≤ 10 := by
    rw [sortKeys, List.length_insertionSort, hlength]
    exact hcount
  have htext := length_objText_le ((sortKeys fields).map fun f => (utf16 f.1, f.2))
  unfold normalizeJson
  simp only [rejectPrivateReasoning, reject_flat (py name) entries hkeys hsmall, bind, Except.bind,
    PyValue.dumps, hfields, Option.map_some]
  rw [if_neg (by unfold maxPersistedJsonBytes; omega)]
  exact ⟨_, rfl⟩

def eventKeys : List String :=
  ["agent_version_id", "requester_principal_id", "task_scope_sha256", "idempotency_key",
    "input_sha256", "inbox_seq", "status", "from", "to", "reason", "error_code",
    "allowed_principal_id", "expires_at", "answer_sha256", "answer_mode", "actor_principal_id"]

theorem eventKeys_plain : ∀ key ∈ eventKeys, Plain key := by decide +kernel

theorem entries_keys (payload : EventPayload) : ∀ e ∈ payload.entries, e.1 ∈ eventKeys := by
  cases payload <;> simp [EventPayload.entries, eventKeys]

theorem length_entries_le (payload : EventPayload) : payload.entries.length ≤ 10 := by
  cases payload <;> simp [EventPayload.entries]

def Fits (payload : EventPayload) : Prop := ∀ e ∈ payload.entries, Small e.2

/-- Every payload that fits is normalized. -/
theorem normalize_document (sha256 : Str → Str) {payload : EventPayload} (h : Fits payload)
    (name : String) : ∃ result, normalizeJson sha256 payload.document name = .ok result :=
  normalize_flat sha256 name payload.entries (length_entries_le payload)
    (fun e he => eventKeys_plain e.1 (entries_keys payload e he)) h

/-- The name of a status is short. -/
theorem length_value_le (status : AgentRunStatus) : (py status.value).length ≤ 500 := by
  cases status <;> decide

theorem small_uuid (id : UUID) : Small (.str (uuidStr id)) := by
  show (uuidStr id).length ≤ 500
  rw [length_uuidStr]
  omega

theorem small_optional {text : Option Str} (h : ∀ t ∈ text, t.length ≤ 500) :
    Small (optionalText text) := by
  cases text with
  | none => trivial
  | some t => exact h t rfl

theorem small_seq {n : Nat} (h : n < 2 ^ 64) : Small (.int n) := by
  constructor <;> omega

theorem fits_sessionCreated {agentVersionId requesterPrincipalId : UUID} {sha256 : Str}
    (h : sha256.length = 64) : Fits (.sessionCreated agentVersionId requesterPrincipalId sha256) := by
  have hdigest : Small (.str sha256) := by
    show sha256.length ≤ 500
    omega
  simp [Fits, EventPayload.entries, small_uuid, hdigest]

/-- The event of a new run fits. -/
theorem fits_runCreated {key sha256 : Str} {seq : Nat} {status : AgentRunStatus}
    (hkey : key.length ≤ 255) (hsha : sha256.length = 64) (hseq : seq < 2 ^ 64) :
    Fits (.runCreated key sha256 seq status) := by
  have hdigest : Small (.str sha256) := by
    show sha256.length ≤ 500
    omega
  have htext : Small (.str key) := by
    show key.length ≤ 500
    omega
  have hstatus : Small (.str (py status.value)) := length_value_le status
  simp [Fits, EventPayload.entries, hdigest, htext, hstatus, small_seq hseq]

/-- The event of a transition fits. -/
theorem fits_runStatusChanged {source target : AgentRunStatus} {reason errorCode : Option Str}
    (hreason : ∀ t ∈ reason, t.length ≤ 500) (hcode : ∀ t ∈ errorCode, t.length ≤ 500) :
    Fits (.runStatusChanged source target reason errorCode) := by
  have hsource : Small (.str (py source.value)) := length_value_le source
  have htarget : Small (.str (py target.value)) := length_value_le target
  simp [Fits, EventPayload.entries, hsource, htarget, small_optional hreason, small_optional hcode]

theorem fits_questionAsked {principalId : UUID} {time : Time} :
    Fits (.questionAsked principalId time) := by
  have htime : Small (.str (isoformat time)) := (length_isoformat_le time).trans (by omega)
  simp [Fits, EventPayload.entries, small_uuid, htime]

/-- The event of an answer fits. -/
theorem fits_questionAnswered {sha256 : Str} {seq : Nat} {mode : String} {principalId : UUID}
    {reason : Option Str} (hsha : sha256.length = 64) (hseq : seq < 2 ^ 64)
    (hmode : (py mode).length ≤ 500) (hreason : ∀ t ∈ reason, t.length ≤ 500) :
    Fits (.questionAnswered sha256 seq mode principalId reason) := by
  have hdigest : Small (.str sha256) := by
    show sha256.length ≤ 500
    omega
  have hmodeSmall : Small (.str (py mode)) := hmode
  simp [Fits, EventPayload.entries, hdigest, small_seq hseq, hmodeSmall, small_uuid,
    small_optional hreason]

end WechatBot.EventPayloads
