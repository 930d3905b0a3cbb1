import WechatBot.KeyedBatch
import WechatBot.PluginActions

/-!
# The submissions of a result as a keyed batch

The outbox binds idempotency keys to payload hashes. One submission is one item of
a keyed batch, except where an exception that nobody catches takes the place of
the verdict.
-/
namespace WechatBot.SubmissionBatch

open PyData Records OutboxState OutboxService PluginActions KeyedBatch
open Tables (Table)

def binding (m : OutboxMessage) : Str × Str := (m.idempotencyKey, m.payloadSha256)

def bindings (t : Outbox) : Store Str Str := t.rows.map binding

/-- The rows whose key begins with `front`. -/
def rowsUnder (front : Str) (t : Outbox) : List OutboxMessage :=
  t.rows.filter fun m => front.isPrefixOf m.idempotencyKey

def bindingsUnder (front : Str) (t : Outbox) : Store Str Str := (rowsUnder front t).map binding

/-- The unique constraint of `outbox_message.idempotency_key`. -/
def UniqueKeys (t : Outbox) : Prop := Keyed (bindings t)

/-- What the checks of an action establish about its submission. -/
structure Checked (front : Str) (submission : TextActionSubmission) : Prop where
  front : front <+: strip submission.idempotencyKey
  key : strip submission.idempotencyKey ≠ []
  keyLength : (strip submission.idempotencyKey).length ≤ 255
  text : blank submission.text = false
  textLength : submission.text.length ≤ 10000
  target : FitsColumn 255 submission.targetWxid
  expiry : submission.expiresAt = none
  priority : submission.priority = 100

section Items

variable (sha256 : CanonicalAction → Str)

/-- The payload hash of the row the submission asks for. -/
def digest (submission : TextActionSubmission) : Str :=
  match TextOutboxPayload.build submission.text [] with
  | none => []
  | some payload => sha256 (canonicalAction (enqueueRequest submission)
      (strip submission.targetWxid) none payload)

/-- Nothing but the key can refuse the submission. -/
def admissible (submission : TextActionSubmission) : Bool :=
  !blank submission.targetWxid && encodable submission.text &&
    encodable (strip submission.idempotencyKey)

def item (submission : TextActionSubmission) : Item Str Str :=
  ⟨strip submission.idempotencyKey, digest sha256 submission, admissible submission⟩

end Items

theorem digestOf_bindings (t : Outbox) (key : Str) :
    digestOf (bindings t) key =
      (t.rows.find? fun m => decide (m.idempotencyKey = key)).map (·.payloadSha256) := by
  unfold digestOf bindings
  rw [List.find?_map, Option.map_map]
  rfl

theorem digestOf_under {front key : Str} (hfront : front <+: key) (t : Outbox) :
    digestOf (bindingsUnder front t) key = digestOf (bindings t) key := by
  unfold digestOf bindingsUnder bindings rowsUnder
  rw [List.find?_map, List.find?_map, List.find?_filter]
  congr 2
  apply congrArg (fun p => List.find? p t.rows)
  funext m
  by_cases hkey : m.idempotencyKey = key
  · simp [binding, hkey, List.isPrefixOf_iff_prefix.mpr hfront]
  · simp [binding, hkey]

theorem keyed_under {front : Str} {t : Outbox} (h : UniqueKeys t) :
    Keyed (bindingsUnder front t) := by
  have hsub : (bindingsUnder front t).Sublist (bindings t) := (List.filter_sublist).map binding
  exact List.Nodup.sublist (hsub.map Prod.fst) h

theorem rowsUnder_insert {front : Str} {t t' : Outbox} {m : OutboxMessage}
    (h : t.insert m = some t') :
    rowsUnder front t' =
      rowsUnder front t ++ if front.isPrefixOf m.idempotencyKey then [m] else [] := by
  rw [rowsUnder, Table.insert_rows h, List.filter_append, rowsUnder]
  by_cases hm : front.isPrefixOf m.idempotencyKey
  · simp [hm]
  · simp [hm]

theorem storable_strip {s : Str} (h : storable s = true) : storable (strip s) = true := by
  simp only [storable, Bool.not_eq_true', List.contains_eq_mem, decide_eq_false_iff_not] at h ⊢
  exact fun hzero => h (mem_of_mem_strip hzero)

theorem build_text (text : Str) (htext : blank text = false) (hlength : text.length ≤ 10000) :
    (encodable text = false ∧ TextOutboxPayload.build text [] = none) ∨
      (encodable text = true ∧ ∃ payload, TextOutboxPayload.build text [] = some payload ∧
        payload.text = text ∧ payload.atWxids = []) := by
  have hpos : 1 ≤ text.length := by
    cases text with
    | nil => cases htext
    | cons c text => simp
  cases hencodable : encodable text with
  | false => exact .inl ⟨rfl, by simp [TextOutboxPayload.build, textAccepted, hencodable]⟩
  | true =>
    have haccepted : textAccepted text = true := by
      simp [textAccepted, hencodable, hpos, hlength, htext]
    exact .inr ⟨rfl, ⟨text, [], haccepted, .inl rfl⟩,
      by simp [TextOutboxPayload.build, haccepted, normalizeAtWxids], rfl, rfl⟩

theorem normalizeLimitedText_ok (field : String) {value : Str} {limit : Nat}
    (hvalue : strip value ≠ []) (hlength : (strip value).length ≤ limit) :
    normalizeLimitedText value field limit = .ok (strip value) := by
  unfold normalizeLimitedText
  rw [if_neg hvalue, if_neg (by omega)]

/-- How one submission can end. -/
inductive Submitted (sha256 : CanonicalAction → Str) (t : Outbox)
    (submission : TextActionSubmission) (stamp : Stamp) : Except ActionError Outbox → Prop where
  | refused (reason : String) :
      Refused (bindings t) (item sha256 submission) →
      (admissible submission = true → storable (strip submission.idempotencyKey) = true) →
      Submitted sha256 t submission stamp (.error (.InvalidPluginActionError reason))
  | known : Known (bindings t) (item sha256 submission) →
      storable (strip submission.idempotencyKey) = true →
      Submitted sha256 t submission stamp (.ok t)
  | added (m : OutboxMessage) (t' : Outbox) :
      Fresh (bindings t) (item sha256 submission) →
      storable (strip submission.idempotencyKey) = true → storable submission.text = true →
      m.id = stamp.id → binding m = (item sha256 submission).binding → t.insert m = some t' →
      Submitted sha256 t submission stamp (.ok t')
  | spilled :
      admissible submission = true →
      (storable (strip submission.idempotencyKey) = false ∨
        Fresh (bindings t) (item sha256 submission) ∧
          (storable submission.text = false ∨ t.find stamp.id ≠ none)) →
      Submitted sha256 t submission stamp (.error (.uncaught .DataError))

section Verdicts

variable {sha256 : CanonicalAction → Str} {accountExists : UUID → Bool}

theorem normalizeRequest_blank {front : Str} {submission : TextActionSubmission} (now : Time)
    (hchecked : Checked front submission) (hblank : blank submission.targetWxid = true) :
    ∃ detail, normalizeRequest (enqueueRequest submission) now = .error (.valueError detail) := by
  have hkey := normalizeLimitedText_ok "idempotency key" hchecked.key hchecked.keyLength
  have htarget : strip submission.targetWxid = [] := (strip_eq_nil_iff _).mpr hblank
  refine ⟨"target wxid cannot be blank", ?_⟩
  unfold normalizeRequest
  simp only [enqueueRequest, hkey]
  simp [normalizeLimitedText, htarget, bind, Except.bind]

theorem normalizeRequest_visible {front : Str} {submission : TextActionSubmission} (now : Time)
    (hchecked : Checked front submission) (hvisible : blank submission.targetWxid = false) :
    normalizeRequest (enqueueRequest submission) now =
      match TextOutboxPayload.build submission.text [] with
      | none => .error (.valueError "ValidationError")
      | some payload =>
        .ok (strip submission.idempotencyKey, strip submission.targetWxid, none, payload) := by
  have hkey := normalizeLimitedText_ok "idempotency key" hchecked.key hchecked.keyLength
  have hne : strip submission.targetWxid ≠ [] := by
    intro hnil
    rw [(strip_eq_nil_iff _).mp hnil] at hvisible
    cases hvisible
  have htarget := normalizeLimitedText_ok "target wxid" hne
    ((length_strip_le _).trans hchecked.target.length)
  unfold normalizeRequest
  simp only [enqueueRequest, hkey, htarget, hchecked.expiry, hchecked.priority, normalizeExpiry]
  simp only [bind, Except.bind, textActionTypes, pure, Except.pure]
  cases TextOutboxPayload.build submission.text [] with
  | none => simp [throw, throwThe, MonadExceptOf.throw]
  | some payload => simp

/-- `enqueue_text` after its arguments are normalized. -/
theorem enqueueText_normalized {t : Outbox} {request : EnqueueRequest} {now : Time} {id : UUID}
    {key target : Str} {expiry : Option Time} {payload : TextOutboxPayload}
    (hnormalized : normalizeRequest request now = .ok (key, target, expiry, payload))
    (htarget : encodable target = true) :
    enqueueText sha256 accountExists t request now id =
      match findByIdempotencyKey t key with
      | .error error => .error error
      | .ok (some existing) =>
        (matchExisting existing (sha256 (canonicalAction request target expiry payload))).map
          fun m => (t, m)
      | .ok none =>
        if accountExists request.botAccountId = false then .error .accountNotFound
        else insertMessage t (newMessage id request key target
          (sha256 (canonicalAction request target expiry payload)) expiry payload now) payload := by
  have hhash : actionHash sha256 (canonicalAction request target expiry payload) =
      .ok (sha256 (canonicalAction request target expiry payload)) := by
    simp [actionHash, canonicalAction, htarget]
  simp only [enqueueText, hnormalized, hhash, bind, Except.bind]
  cases findByIdempotencyKey t key with
  | error error => rfl
  | ok found =>
    cases found with
    | none => rfl
    | some existing =>
      simp only [Except.map]
      cases matchExisting existing _ with
      | error error => rfl
      | ok m => rfl

/-- The key is looked up, and a row that has it must have the hash of the submission. -/
theorem submitText_found {t : Outbox} {submission : TextActionSubmission} {stamp : Stamp}
    {payload : TextOutboxPayload} {existing : OutboxMessage}
    (hnormalized : normalizeRequest (enqueueRequest submission) stamp.now =
      .ok (strip submission.idempotencyKey, strip submission.targetWxid, none, payload))
    (hbuild : TextOutboxPayload.build submission.text [] = some payload)
    (htarget : encodable (strip submission.targetWxid) = true)
    (hkey : encodable (strip submission.idempotencyKey) = true)
    (hstorable : storable (strip submission.idempotencyKey) = true)
    (hadmissible : admissible submission = true)
    (hfound : (t.rows.find? fun m => decide (m.idempotencyKey = strip submission.idempotencyKey)) =
      some existing) :
    Submitted sha256 t submission stamp
      (submitText sha256 accountExists t submission stamp) := by
  have hdigest : digestOf (bindings t) (strip submission.idempotencyKey) =
      some existing.payloadSha256 := by rw [digestOf_bindings, hfound]; rfl
  have hlookup : findByIdempotencyKey t (strip submission.idempotencyKey) = .ok (some existing) := by
    simp [findByIdempotencyKey, hkey, hstorable, hfound]
  have hhash : sha256 (canonicalAction (enqueueRequest submission) (strip submission.targetWxid)
      none payload) = digest sha256 submission := by rw [digest, hbuild]
  rw [submitText, enqueueText_normalized hnormalized htarget, hlookup, hhash]
  by_cases heq : existing.payloadSha256 = digest sha256 submission
  · have hmatch : matchExisting existing (digest sha256 submission) = .ok existing :=
      if_neg (not_not.mpr heq)
    simp only [hmatch, Except.map]
    exact .known ⟨hadmissible, hdigest.trans (congrArg some heq)⟩ hstorable
  · have hmatch : matchExisting existing (digest sha256 submission) = .error .idempotencyConflict :=
      if_pos heq
    simp only [hmatch, Except.map]
    exact .refused _ (.inr ⟨_, hdigest, heq⟩) fun _ => hstorable

theorem submitText_new {t : Outbox} {submission : TextActionSubmission} {stamp : Stamp}
    {payload : TextOutboxPayload}
    (hnormalized : normalizeRequest (enqueueRequest submission) stamp.now =
      .ok (strip submission.idempotencyKey, strip submission.targetWxid, none, payload))
    (hbuild : TextOutboxPayload.build submission.text [] = some payload)
    (hpayload : payload.text = submission.text) (hmentions : payload.atWxids = [])
    (htarget : encodable (strip submission.targetWxid) = true)
    (htargetStorable : storable (strip submission.targetWxid) = true)
    (hkey : encodable (strip submission.idempotencyKey) = true)
    (hstorable : storable (strip submission.idempotencyKey) = true)
    (hadmissible : admissible submission = true)
    (haccount : accountExists submission.botAccountId = true)
    (hfound : (t.rows.find? fun m => decide (m.idempotencyKey = strip submission.idempotencyKey)) =
      none) :
    Submitted sha256 t submission stamp
      (submitText sha256 accountExists t submission stamp) := by
  have hfresh : Fresh (bindings t) (item sha256 submission) :=
    ⟨hadmissible, by simp [item, digestOf_bindings, hfound]⟩
  have hlookup : findByIdempotencyKey t (strip submission.idempotencyKey) = .ok none := by
    simp [findByIdempotencyKey, hkey, hstorable, hfound]
  have hhash : sha256 (canonicalAction (enqueueRequest submission) (strip submission.targetWxid)
      none payload) = digest sha256 submission := by rw [digest, hbuild]
  have hexists : ¬ accountExists (enqueueRequest submission).botAccountId = false := by
    simp [enqueueRequest, haccount]
  rw [submitText, enqueueText_normalized hnormalized htarget, hlookup, hhash]
  simp only [if_neg hexists]
  cases htext : storable submission.text with
  | false =>
    have hinsert : insertMessage t (newMessage stamp.id (enqueueRequest submission)
        (strip submission.idempotencyKey) (strip submission.targetWxid) (digest sha256 submission)
        none payload stamp.now) payload = .error .dataError := by
      simp [insertMessage, hpayload, htext]
    simp only [hinsert]
    exact .spilled hadmissible (.inr ⟨hfresh, .inl htext⟩)
  | true =>
    unfold insertMessage
    rw [if_neg (by simp [newMessage, htargetStorable, hpayload, htext, hmentions])]
    cases hinsert : t.insert (newMessage stamp.id (enqueueRequest submission)
        (strip submission.idempotencyKey) (strip submission.targetWxid) (digest sha256 submission)
        none payload stamp.now) with
    | none =>
      refine .spilled hadmissible (.inr ⟨hfresh, .inr ?_⟩)
      intro hfree
      obtain ⟨t', ht'⟩ := Table.insert_isSome (t := t) (a := newMessage stamp.id
        (enqueueRequest submission) (strip submission.idempotencyKey) (strip submission.targetWxid)
        (digest sha256 submission) none payload stamp.now) hfree
      rw [hinsert] at ht'
      cases ht'
    | some t' => exact .added _ t' hfresh hstorable htext rfl rfl hinsert

/-- The rows of the outbox decide on a submission whose checks have passed. -/
theorem submitText_submitted (sha256 : CanonicalAction → Str) (t : Outbox) {front : Str}
    {submission : TextActionSubmission}
    (hchecked : Checked front submission) (haccount : accountExists submission.botAccountId = true)
    (stamp : Stamp) :
    Submitted sha256 t submission stamp
      (submitText sha256 accountExists t submission stamp) := by
  by_cases hblank : blank submission.targetWxid = true
  · obtain ⟨detail, herror⟩ := normalizeRequest_blank stamp.now hchecked hblank
    have hinadmissible : admissible submission = false := by simp [admissible, hblank]
    simp only [submitText, enqueueText, herror, bind, Except.bind]
    exact .refused _ (.inl hinadmissible) (by simp [hinadmissible])
  · have hvisible : blank submission.targetWxid = false := by simpa using hblank
    have hnormalized := normalizeRequest_visible stamp.now hchecked hvisible
    rcases build_text submission.text hchecked.text hchecked.textLength with
      ⟨hencodable, hbuild⟩ | ⟨hencodable, payload, hbuild, hpayload, hmentions⟩
    · rw [hbuild] at hnormalized
      have hinadmissible : admissible submission = false := by simp [admissible, hencodable]
      simp only [submitText, enqueueText, hnormalized, bind, Except.bind]
      exact .refused _ (.inl hinadmissible) (by simp [hinadmissible])
    · rw [hbuild] at hnormalized
      have htarget := encodable_strip hchecked.target.encodable
      cases hkey : encodable (strip submission.idempotencyKey) with
      | false =>
        have hinadmissible : admissible submission = false := by simp [admissible, hkey]
        have hlookup : findByIdempotencyKey t (strip submission.idempotencyKey) =
            .error (.valueError "surrogates not allowed") := by simp [findByIdempotencyKey, hkey]
        rw [submitText, enqueueText_normalized hnormalized htarget, hlookup]
        exact .refused _ (.inl hinadmissible) (by simp [hinadmissible])
      | true =>
        have hadmissible : admissible submission = true := by
          simp [admissible, hvisible, hencodable, hkey]
        cases hstorable : storable (strip submission.idempotencyKey) with
        | false =>
          have hlookup : findByIdempotencyKey t (strip submission.idempotencyKey) =
              .error .dataError := by simp [findByIdempotencyKey, hkey, hstorable]
          rw [submitText, enqueueText_normalized hnormalized htarget, hlookup]
          exact .spilled hadmissible (.inl hstorable)
        | true =>
          cases hfound : t.rows.find? fun m =>
              decide (m.idempotencyKey = strip submission.idempotencyKey) with
          | some existing =>
            exact submitText_found hnormalized hbuild htarget hkey hstorable hadmissible hfound
          | none =>
            exact submitText_new hnormalized hbuild hpayload hmentions htarget
              (storable_strip hchecked.target.storable) hkey hstorable hadmissible haccount hfound

end Verdicts

/-- The characters of `pairKey` between its first and its last. -/
def pairKeyMiddle (deploymentId eventId : UUID) : Str :=
  py "lugin:" ++ uuidStr deploymentId ++ py ":event:" ++ uuidStr eventId ++ py ":action"

theorem pairKey_eq (deploymentId eventId : UUID) :
    pairKey deploymentId eventId = 112 :: pairKeyMiddle deploymentId eventId ++ [58] := by
  have hlast : py ":action:" = py ":action" ++ [58] := by decide
  have hfirst : py "plugin:" = 112 :: py "lugin:" := by decide
  simp only [pairKey, pairKeyMiddle, hlast, hfirst, List.cons_append, List.append_assoc]

theorem length_pairKey (deploymentId eventId : UUID) :
    (pairKey deploymentId eventId).length = 94 := by
  have h1 : (py "plugin:").length = 7 := by decide
  have h2 : (py ":event:").length = 7 := by decide
  have h3 : (py ":action:").length = 8 := by decide
  simp only [pairKey, List.length_append, length_uuidStr, h1, h2, h3]

/-- No key has the front of two deployments. -/
theorem pairKey_apart {first second eventId : UUID} (hne : first ≠ second) (key : Str)
    (hfirst : pairKey first eventId <+: key) : ¬ pairKey second eventId <+: key := by
  intro hsecond
  have hprefix : pairKey first eventId <+: pairKey second eventId :=
    List.prefix_of_prefix_length_le hfirst hsecond (by rw [length_pairKey, length_pairKey])
  have heq : pairKey first eventId = pairKey second eventId :=
    hprefix.eq_of_length (by rw [length_pairKey, length_pairKey])
  simp only [pairKey, List.append_assoc] at heq
  have hrest := List.append_cancel_left heq
  have huuid := (List.append_inj hrest (by rw [length_uuidStr, length_uuidStr])).1
  exact hne (uuidStr_inj huuid)

theorem checked_of_passed {origin : ReplyOrigin} {target : Str} {index : Nat} {action : Fields}
    {submission : TextActionSubmission} (htarget : origin.event.conversationId = some target)
    (h : textSubmission origin index action = .ok submission) :
    Checked (pairKey origin.route.deploymentId origin.event.id) submission ∧
      submission.botAccountId = origin.context.accountId := by
  have hexamined := textSubmission_examined htarget index action
  rw [h] at hexamined
  cases hexamined with
  | passed text key authorization hformed htext hkey hauthorization =>
    obtain ⟨hvisible, hlength⟩ := replyText_ok htext
    have hfront : pairKey origin.route.deploymentId origin.event.id <+:
        strip (pairKey origin.route.deploymentId origin.event.id ++ key) := by
      rw [pairKey_eq]
      exact prefix_strip 112 58 _ key (by decide) (by decide)
    refine ⟨⟨hfront, ?_, ?_, hvisible, hlength, origin.event.stored target htarget, rfl, rfl⟩, rfl⟩
    · intro hnil
      have hle := hfront.length_le
      rw [hnil, length_pairKey] at hle
      simp at hle
    · have hle := length_strip_le (pairKey origin.route.deploymentId origin.event.id ++ key)
      have hkeyLength := actionKey_ok hkey
      rw [List.length_append, length_pairKey] at hle
      exact hle.trans (by omega)

/-- A table that has gained rows whose keys begin with `front`. -/
def Extends (front : Str) (t t' : Outbox) : Prop :=
  ∃ added, t'.rows = t.rows ++ added ∧ ∀ m ∈ added, front <+: m.idempotencyKey

theorem Extends.refl (front : Str) (t : Outbox) : Extends front t t := ⟨[], by simp, by simp⟩

theorem Extends.trans {front : Str} {t u v : Outbox} (h : Extends front t u)
    (h' : Extends front u v) : Extends front t v := by
  obtain ⟨added, hu, hadded⟩ := h
  obtain ⟨more, hv, hmore⟩ := h'
  refine ⟨added ++ more, by rw [hv, hu, List.append_assoc], ?_⟩
  intro m hm
  rcases List.mem_append.mp hm with hm | hm
  · exact hadded m hm
  · exact hmore m hm

/-- The rows under a front that excludes the added keys are the same. -/
theorem Extends.rowsUnder {front other : Str} {t t' : Outbox} (h : Extends front t t')
    (hapart : ∀ key, front <+: key → ¬ other <+: key) : rowsUnder other t' = rowsUnder other t := by
  obtain ⟨added, hrows, hadded⟩ := h
  have hnone : added.filter (fun m => other.isPrefixOf m.idempotencyKey) = [] := by
    rw [List.filter_eq_nil_iff]
    intro m hm hprefix
    exact hapart _ (hadded m hm) (List.isPrefixOf_iff_prefix.mp hprefix)
  rw [SubmissionBatch.rowsUnder, hrows, List.filter_append, hnone, List.append_nil,
    SubmissionBatch.rowsUnder]

section Batches

variable {sha256 : CanonicalAction → Str} {accountExists : UUID → Bool}

/-- The submissions of a result: their checks have passed, for an account that exists. -/
def Ready (accountExists : UUID → Bool) (front : Str) (submissions : List TextActionSubmission) :
    Prop :=
  ∀ submission ∈ submissions, Checked front submission ∧
    accountExists submission.botAccountId = true

theorem Submitted.extends {front : Str} {t t' : Outbox} {submission : TextActionSubmission}
    {stamp : Stamp} (hchecked : Checked front submission)
    (h : Submitted sha256 t submission stamp (.ok t')) : Extends front t t' := by
  cases h with
  | known hknown hstorable => exact Extends.refl front t
  | added m t' hfresh hkey htext hid hbinding hinsert =>
    refine ⟨[m], Table.insert_rows hinsert, ?_⟩
    intro a ha
    have hm : a = m := by simpa using ha
    have hmkey : m.idempotencyKey = strip submission.idempotencyKey := congrArg Prod.fst hbinding
    rw [hm, hmkey]
    exact hchecked.front

/-- A new row under the front is a new binding. -/
theorem bindingsUnder_insert {front : Str} {t t' : Outbox} {m : OutboxMessage}
    {submission : TextActionSubmission} (hchecked : Checked front submission)
    (hbinding : binding m = (item sha256 submission).binding) (hinsert : t.insert m = some t') :
    bindingsUnder front t' = bindingsUnder front t ++ [(item sha256 submission).binding] := by
  have hprefix : front.isPrefixOf m.idempotencyKey = true := by
    have hmkey : m.idempotencyKey = strip submission.idempotencyKey := congrArg Prod.fst hbinding
    rw [hmkey]
    exact List.isPrefixOf_iff_prefix.mpr hchecked.front
  rw [bindingsUnder, rowsUnder_insert hinsert, if_pos hprefix, List.map_append, ← hbinding,
    List.map_singleton, bindingsUnder]

/-- An accepted submission is accepted by the store under its front, with the same effect. -/
theorem Submitted.ok_submit {front : Str} {t t' : Outbox} {submission : TextActionSubmission}
    {stamp : Stamp} (hchecked : Checked front submission)
    (h : Submitted sha256 t submission stamp (.ok t')) :
    submit (bindingsUnder front t) (item sha256 submission) = some (bindingsUnder front t') := by
  have hdigest := digestOf_under hchecked.front t
  cases h with
  | known hknown hstorable =>
    exact submit_known ((known_congr hdigest).mpr hknown)
  | added m t' hfresh hkey htext hid hbinding hinsert =>
    rw [submit_fresh ((fresh_congr hdigest).mpr hfresh), bindingsUnder_insert hchecked hbinding hinsert]

/-- So is a refused one. -/
theorem Submitted.refused_submit {front : Str} {t : Outbox} {submission : TextActionSubmission}
    {stamp : Stamp} {reason : String} (hchecked : Checked front submission)
    (h : Submitted sha256 t submission stamp (.error (.InvalidPluginActionError reason))) :
    submit (bindingsUnder front t) (item sha256 submission) = none := by
  cases h with
  | refused _ hrefused hkey =>
    exact submit_refused ((refused_congr (digestOf_under hchecked.front t)).mpr hrefused)

theorem submitTexts_extends (sha256 : CanonicalAction → Str) {front : Str} {submissions : List TextActionSubmission}
    (hready : Ready accountExists front submissions) (stamps : Nat → Stamp) (index : Nat)
    (t : Outbox) :
    Extends front t (submitTexts sha256 accountExists stamps index t submissions).1 := by
  induction submissions generalizing t index with
  | nil => exact Extends.refl front t
  | cons submission submissions ih =>
    obtain ⟨hchecked, haccount⟩ := hready submission (by simp)
    have hsubmitted := submitText_submitted sha256 t hchecked haccount
      (stamps index)
    unfold submitTexts
    cases hresult : submitText sha256 accountExists t submission (stamps index) with
    | error error => exact Extends.refl front t
    | ok t' =>
      rw [hresult] at hsubmitted
      exact (hsubmitted.extends hchecked).trans (ih (fun s hs => hready s (by simp [hs])) _ t')

/-- Unless it ends with an exception that nobody catches, the submission of the replies
is the keyed batch over the rows under their front. -/
theorem submitTexts_batch {front : Str} {submissions : List TextActionSubmission}
    (hready : Ready accountExists front submissions) {stamps : Nat → Stamp} {index : Nat}
    {t t' : Outbox} {error : Option ActionError}
    (h : submitTexts sha256 accountExists stamps index t submissions = (t', error))
    (hcaught : ∀ e, error ≠ some (.uncaught e)) :
    submitAll (bindingsUnder front t) (submissions.map (item sha256)) =
      (bindingsUnder front t', error.isNone) := by
  induction submissions generalizing t index with
  | nil =>
    cases h
    rfl
  | cons submission submissions ih =>
    obtain ⟨hchecked, haccount⟩ := hready submission (by simp)
    have hsubmitted := submitText_submitted sha256 t hchecked haccount
      (stamps index)
    unfold submitTexts at h
    rw [List.map_cons, submitAll]
    cases hresult : submitText sha256 accountExists t submission (stamps index) with
    | ok u =>
      rw [hresult] at h hsubmitted
      rw [hsubmitted.ok_submit hchecked]
      exact ih (fun s hs => hready s (by simp [hs])) h
    | error e =>
      rw [hresult] at h hsubmitted
      cases h
      cases e with
      | uncaught e => exact absurd rfl (hcaught e)
      | InvalidPluginActionError reason =>
        rw [hsubmitted.refused_submit hchecked]
        rfl

/-- The key stays unique. -/
theorem submitTexts_unique (sha256 : CanonicalAction → Str) {front : Str} {submissions : List TextActionSubmission}
    (hready : Ready accountExists front submissions) (stamps : Nat → Stamp) (index : Nat)
    {t : Outbox} (hunique : UniqueKeys t) :
    UniqueKeys (submitTexts sha256 accountExists stamps index t submissions).1 := by
  induction submissions generalizing t index with
  | nil => exact hunique
  | cons submission submissions ih =>
    obtain ⟨hchecked, haccount⟩ := hready submission (by simp)
    have hsubmitted := submitText_submitted sha256 t hchecked haccount
      (stamps index)
    unfold submitTexts
    cases hresult : submitText sha256 accountExists t submission (stamps index) with
    | error error => exact hunique
    | ok t' =>
      refine ih (fun s hs => hready s (by simp [hs])) _ ?_
      rw [hresult] at hsubmitted
      cases hsubmitted with
      | known hknown hstorable => exact hunique
      | added m t' hfresh hkey htext hid hbinding hinsert =>
        have hstore : bindings t' = bindings t ++ [(item sha256 submission).binding] := by
          rw [bindings, Table.insert_rows hinsert, List.map_append, List.map_singleton, hbinding,
            bindings]
        rw [UniqueKeys, hstore]
        exact submit_keyed hunique (submit_fresh hfresh)

end Batches

end WechatBot.SubmissionBatch
