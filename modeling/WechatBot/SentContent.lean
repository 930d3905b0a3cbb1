import WechatBot.AccountSerial
import WechatBot.AuthorizationAgreement
import WechatBot.OutboxStamps
import WechatBot.Provenance

/-!
# What a call sends, and how often

Every `post_text` call of a run comes from a preparation of its own, earlier in the run,
which found the rows as they have to be; what the call sends is what some request asked to
enqueue.
-/
namespace WechatBot.SentContent

open PyData Records Policy OutboxState OutboxService Sender SenderEffects SenderSystem SenderSteps
open OutboxStamps Provenance
open Tables (Table)
open Runs (run run_history)

variable {ι κ : Type} [DecidableEq ι] [DecidableEq κ]

/-- The row asks the sender for what the request asked for. -/
structure Asked (request : EnqueueRequest) (m : OutboxMessage) : Prop where
  account : m.botAccountId = request.botAccountId
  key : m.idempotencyKey = strip request.idempotencyKey
  action : m.actionType = request.actionType
  target : m.targetWxid = strip request.targetWxid
  context : m.authorizationContext = request.authorizationContext.map .valid
  expires : m.expiresAt = request.expiresAt
  payload : ∃ payload, TextOutboxPayload.build request.text request.atWxids = some payload ∧
    m.payload = .valid payload

theorem Asked.same {request : EnqueueRequest} {m m' : OutboxMessage} (h : Asked request m)
    (hsame : SameAction m m') : Asked request m' := by
  refine ⟨hsame.account.trans h.account, hsame.key.trans h.key, hsame.action.trans h.action,
    hsame.target.trans h.target, hsame.context.trans h.context, hsame.expires.trans h.expires, ?_⟩
  rw [hsame.payload]
  exact h.payload

theorem normalizeExpiry_ok {expiresAt expiry : Option Time} {now : Time}
    (h : normalizeExpiry expiresAt now = .ok expiry) : expiry = expiresAt := by
  unfold normalizeExpiry at h
  split at h
  · cases h
    rfl
  · split at h
    · cases h
    · cases h
      rfl

theorem normalizeRequest_payload {request : EnqueueRequest} {now : Time} {key target : Str}
    {expiry : Option Time} {payload : TextOutboxPayload}
    (h : normalizeRequest request now = .ok (key, target, expiry, payload)) :
    expiry = request.expiresAt ∧
      TextOutboxPayload.build request.text request.atWxids = some payload := by
  unfold normalizeRequest at h
  obtain ⟨key', -, h⟩ := Results.bind_ok.mp h
  obtain ⟨target', -, h⟩ := Results.bind_ok.mp h
  by_cases hpriority : 0 ≤ request.priority ∧ request.priority ≤ 1000
  · by_cases haction : request.actionType ∈ textActionTypes
    · simp only [hpriority, haction, and_self, not_true_eq_false, if_false] at h
      obtain ⟨expiry', hexpiry, h⟩ := Results.bind_ok.mp h
      split at h
      · cases h
      · rename_i built hbuilt
        cases h
        exact ⟨normalizeExpiry_ok hexpiry, hbuilt⟩
    · simp only [hpriority, haction, and_self, not_true_eq_false, not_false_eq_true, if_false,
        if_true] at h
      exact absurd h Results.throw_bind_ne
  · simp only [hpriority, not_false_eq_true, if_true] at h
    exact absurd h Results.throw_bind_ne

/-- A request that changes the outbox adds the row that asks for what it asks for. -/
theorem enqueueText_asked {sha256 : CanonicalAction → Str} {accountExists : UUID → Bool}
    {t t' : Outbox} {request : EnqueueRequest} {now : Time} {id : UUID} {message : OutboxMessage}
    (h : enqueueText sha256 accountExists t request now id = .ok (t', message)) :
    t' = t ∨ (t.insert message = some t' ∧ message.id = id ∧ Asked request message) := by
  unfold enqueueText at h
  obtain ⟨⟨key, target, expiry, payload⟩, hnormalized, h⟩ := Results.bind_ok.mp h
  obtain ⟨rfl, rfl⟩ := AuthorizationAgreement.normalizeRequest_ok hnormalized
  obtain ⟨rfl, hbuilt⟩ := normalizeRequest_payload hnormalized
  obtain ⟨hash, -, h⟩ := Results.bind_ok.mp h
  obtain ⟨found, -, h⟩ := Results.bind_ok.mp h
  split at h
  · obtain ⟨existing, -, h⟩ := Results.bind_ok.mp h
    cases h
    exact .inl rfl
  · split at h
    · cases h
    · unfold insertMessage at h
      split at h
      · cases h
      · split at h
        · cases h
        · rename_i t'' hinsert
          cases h
          exact .inr ⟨hinsert, rfl, rfl, rfl, rfl, rfl, rfl, rfl, payload, hbuilt, rfl⟩

theorem build_text {text : Str} {atWxids : List Str} {payload : TextOutboxPayload}
    (h : TextOutboxPayload.build text atWxids = some payload) : payload.text = text := by
  unfold TextOutboxPayload.build at h
  split at h
  · split at h
    · split at h
      · cases h
      · split at h
        · cases h
          rfl
        · cases h
    · cases h
  · cases h

/-- A rewriting that leaves to every row its action. -/
theorem rewrites_back {R : OutboxMessage → OutboxMessage → Prop} {t t' : Outbox}
    (hR : ∀ a b, R a b → SameAction a b) (h : Rewrites R t t') {id : UUID} {m' : OutboxMessage}
    (hm' : t'.find id = some m') : ∃ m, t.find id = some m ∧ SameAction m m' := by
  obtain ⟨m, hm, rfl | hchange⟩ := h.back hm'
  · exact ⟨m', hm, .refl m'⟩
  · exact ⟨m, hm, hR m m' hchange⟩

variable {setup : Setup ι} {w w' : World ι κ} {a : SenderSystem.Action ι κ}

omit [DecidableEq ι] [DecidableEq κ] in
/-- Only a request adds a row. -/
theorem written_back {t : Outbox} (h : Written setup w a t)
    (hother : ∀ request now id, a ≠ .enqueue request now id) {id : UUID} {m' : OutboxMessage}
    (hm' : t.find id = some m') : ∃ m, w.outbox.find id = some m ∧ SameAction m m' := by
  cases h with
  | untouched => exact ⟨m', hm', .refl m'⟩
  | enqueued request now id => exact absurd rfl (hother request now id)
  | recovered _ _ _ _ rewrites => exact rewrites_back (fun _ _ hab => hab.2.same) rewrites hm'
  | cancelled _ _ _ _ rewrites => exact rewrites_back (fun _ _ hab => hab.2.same) rewrites hm'
  | reconciled _ _ _ _ _ rewrites => exact rewrites_back (fun _ _ hab => hab.2.same) rewrites hm'
  | claimed _ _ _ _ _ _ rewrites => exact rewrites_back (fun _ _ hab => hab.2.same) rewrites hm'
  | extended _ _ _ _ _ _ rewrites => exact rewrites_back (fun _ _ hab => hab.2.same) rewrites hm'
  | prepared _ _ _ _ _ _ _ rewrites =>
    exact rewrites_back (fun _ _ hab => hab.2.same) rewrites hm'
  | finished _ _ _ _ _ _ _ _ rewrites =>
    exact rewrites_back (fun _ _ hab => hab.2.2.same) rewrites hm'

/-- Some request of the run so far asked for the row. -/
def EnqueuedIn (actions : List (SenderSystem.Action ι κ)) (id : UUID) (m : OutboxMessage) : Prop :=
  ∃ request now, SenderSystem.Action.enqueue request now id ∈ actions ∧ Asked request m

variable [Fintype ι] [Fintype κ]

/-- After a request every row is an old one or asks what the request asks. -/
theorem enqueue_rows {request : EnqueueRequest} {now : Time} {id : UUID}
    (h : step setup w (.enqueue request now id) = some w') {key : UUID} {m' : OutboxMessage}
    (hm' : w'.outbox.find key = some m') :
    w.outbox.find key = some m' ∨ key = id ∧ Asked request m' := by
  cases h
  rcases commit_cases w ((enqueueText setup.sha256 (fun a => (w.around.botAccount a).isSome)
    w.outbox request now id).map Prod.fst) with ⟨t, hok, hw⟩ | hw
  · rw [hw] at hm'
    obtain ⟨⟨t', m⟩, henqueue, rfl⟩ := Results.map_ok.mp hok
    rcases enqueueText_asked henqueue with rfl | ⟨hinsert, rfl, hasked⟩
    · exact .inl hm'
    · have hfind := Table.find_insert hinsert key
      rw [show t'.find key = some m' from hm'] at hfind
      split at hfind
      · rename_i hkey
        obtain rfl := Option.some.inj hfind
        exact .inr ⟨hkey, hasked⟩
      · exact .inl hfind.symm
  · rw [hw] at hm'
    exact .inl hm'

/-- Every row still asks what some request of the run asked. -/
theorem step_rows {actions : List (SenderSystem.Action ι κ)}
    (hrows : ∀ id m, w.outbox.find id = some m → EnqueuedIn actions id m)
    (h : step setup w a = some w') :
    ∀ id m, w'.outbox.find id = some m → EnqueuedIn (actions ++ [a]) id m := by
  intro id m' hm'
  have hold : ∀ m, w.outbox.find id = some m → SameAction m m' →
      EnqueuedIn (actions ++ [a]) id m' := by
    intro m hm hsame
    obtain ⟨request, now, hmem, hasked⟩ := hrows id m hm
    exact ⟨request, now, List.mem_append_left _ hmem, hasked.same hsame⟩
  by_cases henqueue : ∃ request now id, a = .enqueue request now id
  · obtain ⟨request, now, new, rfl⟩ := henqueue
    rcases enqueue_rows h hm' with hm | ⟨rfl, hasked⟩
    · exact hold m' hm (.refl m')
    · exact ⟨request, now, by simp, hasked⟩
  · have hother : ∀ request now id, a ≠ .enqueue request now id := by
      intro request now new heq
      exact henqueue ⟨request, now, new, heq⟩
    obtain ⟨m, hm, hsame⟩ := written_back (step_written h) hother hm'
    exact hold m hm hsame

/-- The send says what was asked, and the rows that it was prepared from allow it. -/
structure Approved (v : World ι κ) (request : EnqueueRequest) (now policyNow : Time)
    (send : PreparedSend) : Prop where
  claimed : ∃ m, v.outbox.find send.messageId = some m ∧ Asked request m ∧ m.status = .CLAIMED ∧
    authorizationStillValid v.around m policyNow = true
  current : ∀ expiry ∈ request.expiresAt, now < expiry
  sender : ∃ account connection, v.around.botAccount request.botAccountId = some account ∧
    v.around.geweConnection account.geweConnectionId = some connection ∧
    account.status = .ONLINE ∧ connection.status = .ACTIVE ∧
    send.baseUrl = connection.apiBaseUrl ∧ send.request.appId = account.appId ∧
    v.around.decrypt connection.tokenCiphertext = some send.token
  account : send.botAccountId = request.botAccountId
  target : send.request.toWxid = strip request.targetWxid
  content : send.request.content = request.text
  ats : ∃ payload, TextOutboxPayload.build request.text request.atWxids = some payload ∧
    send.request.ats = joinAts payload.atWxids

/-- What is not refused has passed every check of the send transaction. -/
theorem refusal_passes {options : SenderOptions} {now policyNow : Time} {around : Surroundings}
    {m : OutboxMessage} {account : BotAccount} {connection : GeweConnection}
    (h : refusal options now policyNow around m account connection = none) :
    expired now m = false ∧ authorizationStillValid around m policyNow = true ∧
      account.status = .ONLINE ∧ connection.status = .ACTIVE := by
  have hauthorized := refusal_none h
  unfold refusal at h
  split at h
  · cases h
  rename_i hcurrent
  split at h
  · cases h
  split at h
  · cases h
  split at h
  · cases h
  split at h
  · cases h
  rename_i hready
  rw [not_or, not_not, not_not] at hready
  exact ⟨by simpa using hcurrent, hauthorized, hready⟩

theorem joinedRow_rows {around : Surroundings} {t : Outbox} {messageId : UUID}
    {m : OutboxMessage} {account : BotAccount} {connection : GeweConnection}
    (h : joinedRow around t messageId = some (m, account, connection)) :
    t.find messageId = some m ∧ around.botAccount m.botAccountId = some account ∧
      around.geweConnection account.geweConnectionId = some connection := by
  unfold joinedRow at h
  simp only [Option.bind_eq_bind, Option.bind_eq_some_iff, Option.pure_def, Option.some.injEq,
    Prod.mk.injEq] at h
  obtain ⟨found, hfound, row, hrow, joined, hjoined, rfl, rfl, rfl⟩ := h
  exact ⟨hfound, hrow, hjoined⟩

theorem expired_false {now : Time} {m : OutboxMessage} (h : expired now m = false) :
    ∀ expiry ∈ m.expiresAt, now < expiry := by
  intro expiry hexpiry
  unfold expired at h
  rw [Option.mem_def.mp hexpiry] at h
  simpa using h

omit [DecidableEq ι] [DecidableEq κ] [Fintype ι] [Fintype κ] in
/-- A send that is prepared was asked for, is unexpired and is authorized. -/
theorem prepareSend_approved {v : World ι κ} {options : SenderOptions} {now policyNow : Time}
    {t' : Outbox} {messageId : UUID} {send : PreparedSend} {actions : List (SenderSystem.Action ι κ)}
    (hrows : ∀ id m, v.outbox.find id = some m → EnqueuedIn actions id m)
    (h : prepareSend options now policyNow v.around v.outbox messageId = .ok (t', some send)) :
    ∃ request enqueuedAt, .enqueue request enqueuedAt send.messageId ∈ actions ∧
      Approved v request now policyNow send := by
  unfold prepareSend at h
  split at h
  · cases h
  rename_i m account connection hrow
  obtain ⟨hm, haccount, hconnection⟩ := joinedRow_rows hrow
  have hid : m.id = messageId := Table.find_key hm
  subst hid
  split at h
  · cases h
  rename_i hclaimed
  unfold prepareClaimed at h
  split at h
  · obtain ⟨m', -, heq⟩ := Results.map_ok.mp h
    cases heq
  rename_i hrefusal
  obtain ⟨hcurrent, hauthorized, honline, hactive⟩ := refusal_passes hrefusal
  split at h
  · rename_i payload token hpayload htoken
    obtain ⟨m', -, heq⟩ := Results.map_ok.mp h
    cases heq
    obtain ⟨request, enqueuedAt, hmem, hasked⟩ := hrows m.id m hm
    obtain ⟨built, hbuilt, hstored⟩ := hasked.payload
    rw [hstored] at hpayload
    obtain rfl := Option.some.inj hpayload
    refine ⟨request, enqueuedAt, hmem, ?_⟩
    exact {
      claimed := ⟨m, hm, hasked, not_not.mp hclaimed, hauthorized⟩
      current := hasked.expires ▸ expired_false hcurrent
      sender := ⟨account, connection, hasked.account ▸ haccount, hconnection, honline, hactive, rfl,
        rfl, htoken⟩
      account := hasked.account
      target := hasked.target
      content := build_text hbuilt
      ats := ⟨built, hbuilt, rfl⟩ }
  · cases h

/-- The send that a task has prepared and not yet begun to post. -/
def readySend : Phase → Option PreparedSend
  | .prepared send _ => some send
  | _ => none

/-- A send that becomes ready was approved at its preparation. -/
theorem prepareSend_ready {i : ι} {now policyNow : Time} {send : PreparedSend}
    {actions : List (SenderSystem.Action ι κ)}
    (hrows : ∀ id m, w.outbox.find id = some m → EnqueuedIn actions id m)
    (h : step setup w (.prepareSend i now policyNow) = some w')
    (hready : readySend (w'.pipeline i) = some send) :
    ∃ request enqueuedAt, .enqueue request enqueuedAt send.messageId ∈ actions ∧
      Approved w request now policyNow send := by
  change w.prepareSend setup i now policyNow = some w' at h
  unfold World.prepareSend at h
  split at h
  · split at h
    · split at h
      · rename_i t prepared hok
        cases h
        rw [moveTo_self] at hready
        obtain rfl := Option.some.inj hready
        exact prepareSend_approved hrows hok
      · cases h
        rw [moveTo_self] at hready
        cases hready
      · cases h
        rw [moveTo_self] at hready
        cases hready
    · cases h
  · cases h

/-- The slots in which a send may be: the calls, and the tasks that have not begun theirs. A
prepared send waits in the phase of its task until the task begins the call. -/
def held (w : World ι κ) : Nat ⊕ ι → Option PreparedSend
  | .inl n => (w.calls[n]?).map (·.send)
  | .inr i => readySend (w.pipeline i)

omit [Fintype ι] [Fintype κ] [DecidableEq κ] in
theorem held_moveTo (w : World ι κ) (i : ι) (phase : Phase) (k : Nat ⊕ ι) :
    held (w.moveTo i phase) k = if k = .inr i then readySend phase else held w k := by
  cases k with
  | inl n => rfl
  | inr j =>
    by_cases hj : j = i
    · subst hj
      simp [held]
    · simp [held, moveTo_other w phase hj, hj]

/-- Every running call is the call of its task. -/
def Running (w : World ι κ) : Prop :=
  ∀ i send fence call, w.pipeline i = .posting send fence call → held w (.inl call) = some send

/-- A phase in which no call runs. -/
def silent : Phase → Bool
  | .posting _ _ _ => false
  | _ => true

omit [Fintype ι] [Fintype κ] [DecidableEq κ] in
/-- A task that moves to a phase without a call leaves the calls of the others. -/
theorem running_moveTo {u : World ι κ} {i : ι} {phase : Phase} (hw : Running w)
    (hcalls : u.calls = w.calls) (hpipeline : u.pipeline = w.pipeline)
    (hphase : silent phase = true) : Running (u.moveTo i phase) := by
  intro j send fence call hj
  by_cases hij : j = i
  · subst hij
    rw [moveTo_self] at hj
    rw [hj] at hphase
    cases hphase
  · rw [moveTo_other u phase hij, hpipeline] at hj
    have hcall := hw j send fence call hj
    rw [held, ← hcalls] at hcall
    exact hcall

theorem advance_silent {p q : Phase} (h : Advance p q) : silent q = true ∧ readySend q = none := by
  cases h <;> exact ⟨rfl, rfl⟩

omit [DecidableEq ι] [DecidableEq κ] [Fintype ι] [Fintype κ] in
theorem call_bound {n : Nat} {send : PreparedSend} (h : held w (.inl n) = some send) :
    n < w.calls.length := by
  obtain ⟨call, hcall, -⟩ := Option.map_eq_some_iff.mp h
  exact (List.getElem?_eq_some_iff.mp hcall).1

omit [Fintype ι] [Fintype κ] in
/-- Every step keeps the running calls in their places. -/
theorem effect_running (h : Effect w a w') (hw : Running w) : Running w' := by
  cases h with
  | same => exact hw
  | enqueued | recovered | cancelled | reconciled | changed => exact hw
  | accountLocked i accountId now => exact running_moveTo hw rfl rfl rfl
  | counted i accountId now => exact running_moveTo hw rfl rfl rfl
  | claimed i locked accountId now c u m m' =>
    exact running_moveTo (u := { w with outbox := u.save m' }) hw rfl rfl rfl
  | nothingDue i locked t => exact running_moveTo (u := { w with outbox := t }) hw rfl rfl rfl
  | retired _ i => exact running_moveTo hw rfl rfl rfl
  | advanced _ i phase hphase => exact running_moveTo hw rfl rfl (advance_silent hphase).1
  | extended i now c delay t => exact running_moveTo (u := { w with outbox := t }) hw rfl rfl rfl
  | guarded i c => exact running_moveTo hw rfl rfl rfl
  | refused i now policyNow id fence t =>
    exact running_moveTo (u := { w with outbox := t }) hw rfl rfl rfl
  | prepared i now policyNow id fence t send m m' =>
    exact running_moveTo (u := { w with outbox := t }) hw rfl rfl rfl
  | postStarted i send fence hphase =>
    intro j other fence' call hj
    by_cases hij : j = i
    · subst hij
      rw [moveTo_self] at hj
      cases hj
      simp [held]
    · rw [moveTo_other _ _ hij] at hj
      have hcall := hw j other fence' call hj
      have hlt := call_bound hcall
      rw [held] at hcall ⊢
      rw [moveTo_calls, List.getElem?_append_left hlt]
      exact hcall
  | postFailed i outcome send fence => exact running_moveTo hw rfl rfl rfl
  | postEnded i outcome send fence call hphase =>
    have hmine := hw i send fence call hphase
    intro j other fence' call' hj
    by_cases hij : j = i
    · subst hij
      rw [moveTo_self] at hj
      cases hj
    · rw [moveTo_other _ _ hij] at hj
      have hcall := hw j other fence' call' hj
      rw [held] at hcall ⊢
      rw [moveTo_calls, List.getElem?_set]
      split
      · rename_i heq
        subst heq
        rw [if_pos (call_bound hmine)]
        exact (hmine.symm.trans hcall)
      · exact hcall
  | settled i now jitter outcome send fence t =>
    exact running_moveTo (u := { w with outbox := t }) hw rfl rfl rfl
  | revocationBegun | fenceLocked | revoked | rolledBack => exact hw

/-- How the sends may move in a step. -/
inductive Passes (w : World ι κ) : SenderSystem.Action ι κ → World ι κ → Prop where
  | lost (a : SenderSystem.Action ι κ) (w' : World ι κ)
      (less : ∀ k send, held w' k = some send → held w k = some send) : Passes w a w'
  | begun (a : SenderSystem.Action ι κ) (i : ι) (send : PreparedSend) (w' : World ι κ)
      (ready : held w (.inr i) = some send)
      (gains : Gains (held w) (held w') (.inl w.calls.length) send)
      (left : held w' (.inr i) = none) : Passes w a w'
  | made (i : ι) (now policyNow : Time) (send : PreparedSend) (w' : World ι κ)
      (gains : Gains (held w) (held w') (.inr i) send) : Passes w (.prepareSend i now policyNow) w'

omit [Fintype ι] [Fintype κ] [DecidableEq κ] in
theorem passes_moveTo {u : World ι κ} {i : ι} {phase : Phase} (hheld : held u = held w)
    (hphase : readySend phase = none) : Passes w a (u.moveTo i phase) := by
  apply Passes.lost
  intro k send hk
  rw [held_moveTo] at hk
  split at hk
  · rw [hphase] at hk
    cases hk
  · rwa [hheld] at hk

omit [Fintype ι] [Fintype κ] in
/-- Every step moves the sends in one of the ways of `Passes`. -/
theorem effect_passes (h : Effect w a w') (hw : Running w) : Passes w a w' := by
  have hkept : ∀ u : World ι κ, held u = held w → Passes w a u := by
    intro u hu
    apply Passes.lost
    intro k send hk
    rwa [hu] at hk
  cases h with
  | same => exact hkept w rfl
  | enqueued | recovered | cancelled | reconciled | changed => exact hkept _ rfl
  | accountLocked i accountId now => exact passes_moveTo rfl rfl
  | counted i accountId now => exact passes_moveTo rfl rfl
  | claimed i locked accountId now c u m m' => exact passes_moveTo rfl rfl
  | nothingDue i locked t => exact passes_moveTo rfl rfl
  | retired _ i => exact passes_moveTo rfl rfl
  | advanced _ i phase hphase => exact passes_moveTo rfl (advance_silent hphase).2
  | extended i now c delay t => exact passes_moveTo rfl rfl
  | guarded i c => exact passes_moveTo rfl rfl
  | refused i now policyNow id fence t => exact passes_moveTo rfl rfl
  | prepared i now policyNow id fence t send m m' =>
    apply Passes.made i now policyNow send
    constructor
    · rw [held_moveTo, if_pos rfl]
      rfl
    · intro k other hk hother
      rw [held_moveTo, if_neg hk] at hother
      exact hother
  | postStarted i send fence hphase =>
    apply Passes.begun _ i send
    · rw [held, hphase]
      rfl
    · constructor
      · simp [held]
      · intro k other hk hother
        rw [held_moveTo] at hother
        split at hother
        · cases hother
        · cases k with
          | inl n =>
            obtain ⟨call, hcall, hsend⟩ := Option.map_eq_some_iff.mp hother
            have hlt : n < w.calls.length := by
              have hbound := (List.getElem?_eq_some_iff.mp hcall).1
              have hne : n ≠ w.calls.length := fun he => hk (by rw [he])
              rw [List.length_append, List.length_singleton] at hbound
              omega
            rw [List.getElem?_append_left hlt] at hcall
            rw [held, hcall]
            exact congrArg some hsend
          | inr j => exact hother
    · rw [held_moveTo, if_pos rfl]
      rfl
  | postFailed i outcome send fence => exact passes_moveTo rfl rfl
  | postEnded i outcome send fence call hphase =>
    have hmine := hw i send fence call hphase
    apply passes_moveTo _ rfl
    funext k
    cases k with
    | inl n =>
      show ((w.calls.set call _)[n]?).map _ = held w (.inl n)
      rw [List.getElem?_set]
      split
      · rename_i heq
        subst heq
        rw [if_pos (call_bound hmine), hmine]
        rfl
      · rfl
    | inr j => rfl
  | settled i now jitter outcome send fence t => exact passes_moveTo rfl rfl
  | revocationBegun | fenceLocked | revoked | rolledBack => exact hkept _ rfl

/-- Action number `n` of the run prepared the send, for a request made before it. -/
def PreparedAt (setup : Setup ι) (start : World ι κ) (actions : List (SenderSystem.Action ι κ))
    (n : Nat) (send : PreparedSend) : Prop :=
  ∃ before after i now policyNow v request enqueuedAt,
    actions = before ++ .prepareSend i now policyNow :: after ∧ before.length = n ∧
      run (step setup) start before = some v ∧
      .enqueue request enqueuedAt send.messageId ∈ before ∧ Approved v request now policyNow send

/-- A preparation stays in the history when the run goes on. -/
theorem preparedAt_later {start : World ι κ} {actions : List (SenderSystem.Action ι κ)}
    {a : SenderSystem.Action ι κ} {n : Nat} {send : PreparedSend}
    (h : PreparedAt setup start actions n send) : PreparedAt setup start (actions ++ [a]) n send := by
  obtain ⟨before, after, i, now, policyNow, v, request, enqueuedAt, rfl, hlength, hrest⟩ := h
  exact ⟨before, after ++ [a], i, now, policyNow, v, request, enqueuedAt, by simp, hlength, hrest⟩

theorem preparedAt_bound {start : World ι κ} {actions : List (SenderSystem.Action ι κ)} {n : Nat}
    {send : PreparedSend} (h : PreparedAt setup start actions n send) : n < actions.length := by
  obtain ⟨before, after, i, now, policyNow, v, request, enqueuedAt, rfl, rfl, -⟩ := h
  simp

/-- What holds of the actions so far and the state they lead to. -/
structure History (setup : Setup ι) (start : World ι κ) (actions : List (SenderSystem.Action ι κ))
    (w : World ι κ) : Prop where
  rows : ∀ id m, w.outbox.find id = some m → EnqueuedIn actions id m
  running : Running w
  traced : ∃ origin, Traced (PreparedAt setup start actions) (held w) origin

theorem history_start (setup : Setup ι) (around : Surroundings) :
    History (κ := κ) setup (atRest (Table.empty _) around) [] (atRest (Table.empty _) around) := by
  refine ⟨?_, ?_, fun _ => 0, ?_⟩
  · intro id m hm
    rw [show (atRest (Table.empty _) around : World ι κ).outbox = Table.empty _ from rfl,
      Table.find_empty] at hm
    cases hm
  · intro i send fence call hi
    cases hi
  · apply (traced_nothing _ _).lose
    intro k send hk
    cases k with
    | inl n => cases hk
    | inr i => cases hk

/-- One more action extends the history of the sends. -/
theorem history_step {start : World ι κ} {actions : List (SenderSystem.Action ι κ)}
    (hrun : run (step setup) start actions = some w) (hw : History setup start actions w)
    (h : step setup w a = some w') : History setup start (actions ++ [a]) w' := by
  have heffect := step_effect h
  obtain ⟨origin, htraced⟩ := hw.traced
  have hlater : Traced (PreparedAt setup start (actions ++ [a])) (held w) origin :=
    htraced.mono fun _ _ => preparedAt_later
  refine ⟨step_rows hw.rows h, effect_running heffect hw.running, ?_⟩
  cases effect_passes heffect hw.running with
  | lost _ _ less => exact ⟨origin, hlater.lose less⟩
  | begun _ i send _ ready gains left =>
    exact ⟨_, hlater.move ready gains fun _ => left⟩
  | made i now policyNow send _ gains =>
    -- the place of the new send is the end of the history
    obtain ⟨request, enqueuedAt, hmem, happroved⟩ := prepareSend_ready hw.rows h gains.1
    have hmade : PreparedAt setup start (actions ++ [.prepareSend i now policyNow]) actions.length
        send := ⟨actions, [], i, now, policyNow, w, request, enqueuedAt, rfl, rfl, hrun, hmem,
      happroved⟩
    refine ⟨_, hlater.make gains hmade ?_⟩
    intro k hk
    obtain ⟨other, hother⟩ := Option.isSome_iff_exists.mp hk
    exact (preparedAt_bound (htraced.known k other hother)).ne

/-- Every call of a run sends what an earlier request asked to enqueue, to whom and with the
mentions it asked for, and has a preparation of its own, in a state in which the message
was claimed, not expired and authorized, the account online and its connection active. -/
theorem sent_as_enqueued (setup : Setup ι) (around : Surroundings)
    {actions : List (SenderSystem.Action ι κ)}
    (hrun : run (step setup) (atRest (Table.empty _) around) actions = some w) :
    ∃ origin : Fin w.calls.length → Nat, Function.Injective origin ∧ ∀ n,
      PreparedAt setup (atRest (Table.empty _) around) actions (origin n) (w.calls.get n).send := by
  have hhistory := run_history (History setup (atRest (Table.empty _) around))
    (history_start setup around) (fun _ _ _ _ hrun hw h => history_step hrun hw h) hrun
  obtain ⟨origin, htraced⟩ := hhistory.traced
  have hheld : ∀ n : Fin w.calls.length, held w (.inl n) = some (w.calls.get n).send := by
    intro n
    simp [held]
  refine ⟨fun n => origin (.inl n), ?_, fun n => htraced.known _ _ (hheld n)⟩
  intro n m heq
  have hsame := htraced.distinct (.inl n) (.inl m) (by rw [hheld n]; rfl) (by rw [hheld m]; rfl) heq
  exact Fin.ext (Sum.inl.inj hsame)

/-- A message that is enqueued and posted. -/
def postedSample : List (SenderSystem.Action Unit Empty) :=
  [.enqueue (AccountSerial.sampleRequest "key") 0 1] ++ toBoundary () 1 0 [] 0 ++ [.startPost ()]

def postedRun : Option (World Unit Empty) :=
  run (step (sampleSetup Unit)) (atRest (Table.empty _) sampleSurroundings) postedSample

theorem postedRun_isSome : postedRun.isSome = true := by decide +kernel

def postedWorld : World Unit Empty := postedRun.get postedRun_isSome

theorem sent_as_enqueued_once : postedWorld.calls.length = 1 ∧
    ∃ origin : Fin postedWorld.calls.length → Nat, Function.Injective origin ∧ ∀ n,
      PreparedAt (sampleSetup Unit) (atRest (Table.empty _) sampleSurroundings) postedSample
        (origin n) (postedWorld.calls.get n).send :=
  ⟨by decide +kernel, sent_as_enqueued (sampleSetup Unit) sampleSurroundings
    (Option.some_get _).symm⟩

end WechatBot.SentContent
