import WechatBot.AccountSerial

/-!
# The fence at the send boundary

From the moment a message is accepted until its call ends, the guard session of its
task holds the shared fence of the message's workspace. A revocation that takes the
fence exclusively cannot commit in between.
-/
namespace WechatBot.SendFence

open PyData Records OutboxState Sender SenderEffects SenderSystem SenderSteps GeweErrors Runs
open Policy AtMostOnce AccountSerial
open Tables (Table)

variable {ι κ : Type} [DecidableEq ι] [DecidableEq κ]

/-- No row is lost and none gets another action. -/
def Kept (t t' : Outbox) : Prop :=
  ∀ id m, t.find id = some m → ∃ m', t'.find id = some m' ∧ SameAction m m'

theorem kept_refl (t : Outbox) : Kept t t := fun _ m h => ⟨m, h, SameAction.refl m⟩

theorem kept_changes {edges : Edges} {t t' : Outbox} (h : Changes edges t t') : Kept t t' := by
  intro id m hm
  obtain ⟨m', hm', hsame, -⟩ := h.kept id m hm
  exact ⟨m', hm', hsame⟩

theorem kept_trans {t u v : Outbox} (h : Kept t u) (h' : Kept u v) : Kept t v := by
  intro id m hm
  obtain ⟨n, hn, hsame⟩ := h id m hm
  obtain ⟨n', hn', hsame'⟩ := h' id n hn
  exact ⟨n', hn', hsame.trans hsame'⟩

theorem kept_insert {t t' : Outbox} {m : OutboxMessage} (h : t.insert m = some t') : Kept t t' := by
  intro id a ha
  refine ⟨a, ?_, SameAction.refl a⟩
  rw [Table.find_insert h, if_neg, ha]
  intro hid
  rw [hid, Table.insert_fresh h] at ha
  cases ha

/-- No step changes what binds a row to its account and its context. -/
theorem effect_kept {w w' : World ι κ} {a : SenderSystem.Action ι κ} (h : Effect w a w') :
    Kept w.outbox w'.outbox := by
  cases h with
  | enqueued request now id t m hinsert hpending => exact kept_insert hinsert
  | recovered now ids t hok => exact kept_changes (recover_changes hok)
  | cancelled id reason now t hchanges => exact kept_changes hchanges
  | reconciled id resolution reason now t hchanges => exact kept_changes hchanges
  | claimed i locked accountId now c u m m' hphase hchanges hclaim =>
    exact kept_trans (kept_changes hchanges) (kept_changes (claim_passive hclaim))
  | nothingDue i locked t hchanges => exact kept_changes hchanges
  | extended i now c delay t hphase hchanges => exact kept_changes hchanges
  | refused i now policyNow id fence t hphase hchanges => exact kept_changes hchanges
  | prepared i now policyNow id fence t send m m' hphase hprepared =>
    exact kept_changes (prepared_changes hprepared)
  | settled i now jitter outcome send fence t hphase hsettled =>
    rcases hsettled with rfl | ⟨m, m', hsettled⟩
    · exact kept_refl _
    · exact kept_changes (settled_changes hsettled)
  | _ => exact kept_refl _

/-- The workspace of every object stays what it is. -/
def SamePlaces (around around' : Surroundings) : Prop :=
  ∀ (r : Revocation) (workspaceId : UUID), r.workspace around = some workspaceId →
    r.workspace around' = some workspaceId

theorem samePlaces_refl (around : Surroundings) : SamePlaces around around := fun _ _ h => h

theorem workspaceOf_eq_some {around : Surroundings} {accountId workspaceId : UUID} :
    around.workspaceOf accountId = some workspaceId ↔ ∃ account connection,
      around.botAccount accountId = some account ∧
      around.geweConnection account.geweConnectionId = some connection ∧
      connection.workspaceId = workspaceId := by
  simp [Surroundings.workspaceOf, Option.bind_eq_some_iff]

/-- Changes that keep accounts, connections, chatrooms, deployments and rules in their
places keep the workspace of every object. -/
structure RowsInPlace (around around' : Surroundings) : Prop where
  account : ∀ id row, around.botAccount id = some row →
    ∃ row', around'.botAccount id = some row' ∧ row'.geweConnectionId = row.geweConnectionId
  connection : ∀ id row, around.geweConnection id = some row →
    ∃ row', around'.geweConnection id = some row' ∧ row'.workspaceId = row.workspaceId
  chatroom : ∀ id row, around.chatroom id = some row →
    ∃ row', around'.chatroom id = some row' ∧ row'.botAccountId = row.botAccountId
  deployment : ∀ id row, around.deployment id = some row →
    ∃ row', around'.deployment id = some row' ∧ row'.workspaceId = row.workspaceId
  rule : ∀ id row, around.rules.find? (fun rule => decide (rule.id = id)) = some row →
    ∃ row', around'.rules.find? (fun rule => decide (rule.id = id)) = some row' ∧
      row'.workspaceId = row.workspaceId

theorem rowsInPlace_refl (around : Surroundings) : RowsInPlace around around :=
  ⟨fun _ row h => ⟨row, h, rfl⟩, fun _ row h => ⟨row, h, rfl⟩, fun _ row h => ⟨row, h, rfl⟩,
    fun _ row h => ⟨row, h, rfl⟩, fun _ row h => ⟨row, h, rfl⟩⟩

/-- Rows that stay in place stay in their workspace. -/
theorem samePlaces_of_rows {around around' : Surroundings} (h : RowsInPlace around around') :
    SamePlaces around around' := by
  have haccount : ∀ accountId workspaceId, around.workspaceOf accountId = some workspaceId →
      around'.workspaceOf accountId = some workspaceId := by
    intro accountId workspaceId hw
    obtain ⟨account, connection, ha, hc, rfl⟩ := workspaceOf_eq_some.mp hw
    obtain ⟨account', ha', hsame⟩ := h.account _ account ha
    obtain ⟨connection', hc', hsame'⟩ := h.connection _ connection hc
    exact workspaceOf_eq_some.mpr ⟨account', connection', ha', hsame ▸ hc', hsame'⟩
  intro r workspaceId hr
  cases r with
  | revokeRule ruleId revokedBy =>
    simp only [Revocation.workspace, Option.map_eq_some_iff] at hr ⊢
    obtain ⟨row, hrow, rfl⟩ := hr
    exact h.rule ruleId row hrow
  | createRule rule => exact hr
  | deactivate deploymentId =>
    simp only [Revocation.workspace, Option.map_eq_some_iff] at hr ⊢
    obtain ⟨row, hrow, rfl⟩ := hr
    exact h.deployment _ row hrow
  | activateRevision deploymentId revisionId =>
    simp only [Revocation.workspace, Option.map_eq_some_iff] at hr ⊢
    obtain ⟨row, hrow, rfl⟩ := hr
    exact h.deployment _ row hrow
  | setDisabled accountId disabled => exact haccount _ _ hr
  | changeStatus connectionId status =>
    simp only [Revocation.workspace, Option.map_eq_some_iff] at hr ⊢
    obtain ⟨row, hrow, rfl⟩ := hr
    exact h.connection _ row hrow
  | markMembershipLeft chatroomId membershipId membershipEpoch =>
    simp only [Revocation.workspace, Option.bind_eq_bind, Option.bind_eq_some_iff] at hr ⊢
    obtain ⟨room, hroom, hw⟩ := hr
    obtain ⟨room', hroom', hsame⟩ := h.chatroom _ room hroom
    exact ⟨room', hroom', hsame ▸ haccount _ _ hw⟩

/-- Saving a row under its key keeps every row's column `col`, if the row of that key
kept it. -/
theorem update_keeps {α β : Type} {rows : UUID → Option α} {id : UUID} {row : α} {col : α → β}
    (hsame : ∀ old, rows id = some old → col row = col old) (key : UUID) (old : α)
    (h : rows key = some old) :
    ∃ new, Function.update rows id (some row) key = some new ∧ col new = col old := by
  by_cases hkey : key = id
  · subst hkey
    exact ⟨row, by simp, hsame old h⟩
  · exact ⟨old, by simp [hkey, h], rfl⟩

theorem saveAccount_rows {around : Surroundings} {row : BotAccount}
    (h : ∀ old, around.botAccount row.id = some old → row.geweConnectionId = old.geweConnectionId) :
    RowsInPlace around (saveAccount around row) :=
  { rowsInPlace_refl around with account := update_keeps h }

theorem saveConnection_rows {around : Surroundings} {row : GeweConnection}
    (h : ∀ old, around.geweConnection row.id = some old → row.workspaceId = old.workspaceId) :
    RowsInPlace around (saveConnection around row) :=
  { rowsInPlace_refl around with connection := update_keeps h }

theorem saveDeployment_rows {around : Surroundings} {row : PluginDeployment}
    (h : ∀ old, around.deployment row.id = some old → row.workspaceId = old.workspaceId) :
    RowsInPlace around (saveDeployment around row) :=
  { rowsInPlace_refl around with deployment := update_keeps h }

/-- Changes of rules that keep ids and workspaces. -/
theorem find?_map_rule {f : AclRule → AclRule} (hf : ∀ rule, (f rule).id = rule.id ∧
    (f rule).workspaceId = rule.workspaceId) (rules : List AclRule) (id : UUID) (row : AclRule)
    (h : rules.find? (fun rule => decide (rule.id = id)) = some row) :
    ∃ row', (rules.map f).find? (fun rule => decide (rule.id = id)) = some row' ∧
      row'.workspaceId = row.workspaceId := by
  refine ⟨f row, ?_, (hf row).2⟩
  rw [List.find?_map]
  have hcomp : (fun rule => decide (AclRule.id rule = id)) ∘ f =
      fun rule => decide (rule.id = id) := by
    funext rule
    simp [(hf rule).1]
  rw [hcomp, h]
  rfl

/-- A revocation moves no row to another workspace. -/
theorem revocation_rows (now : Time) (around : Surroundings) (r : Revocation) :
    RowsInPlace around (r.apply now around) := by
  cases r with
  | revokeRule ruleId revokedBy =>
    refine { rowsInPlace_refl around with rule := ?_ }
    intro id row h
    refine find?_map_rule ?_ around.rules id row h
    intro rule
    split
    · exact ⟨rfl, rfl⟩
    · exact ⟨rfl, rfl⟩
  | createRule rule =>
    refine { rowsInPlace_refl around with rule := ?_ }
    intro id row h
    exact ⟨row, by simp [Revocation.apply, List.find?_append, h], rfl⟩
  | deactivate deploymentId =>
    simp only [Revocation.apply]
    split
    · exact rowsInPlace_refl around
    · rename_i row hrow
      refine saveDeployment_rows ?_
      intro old hold
      rw [hrow] at hold
      cases hold
      rfl
  | activateRevision deploymentId revisionId =>
    simp only [Revocation.apply]
    split
    · exact rowsInPlace_refl around
    · rename_i row hrow
      refine saveDeployment_rows ?_
      intro old hold
      rw [hrow] at hold
      cases hold
      rfl
  | setDisabled accountId disabled =>
    simp only [Revocation.apply]
    split
    · exact rowsInPlace_refl around
    · rename_i row hrow
      refine saveAccount_rows ?_
      intro old hold
      rw [hrow] at hold
      cases hold
      rfl
  | changeStatus connectionId status =>
    simp only [Revocation.apply]
    split
    · exact rowsInPlace_refl around
    · rename_i row hrow
      refine saveConnection_rows ?_
      intro old hold
      rw [hrow] at hold
      cases hold
      rfl
  | markMembershipLeft chatroomId membershipId membershipEpoch =>
    simp only [Revocation.apply]
    split
    · exact rowsInPlace_refl around
    · exact { rowsInPlace_refl around with }

theorem saveIf_eq_some {allowed : Bool} {around around' : Surroundings} :
    saveIf allowed around = some around' ↔ allowed = true ∧ around = around' := by
  unfold saveIf
  split <;> simp_all

theorem change_rows {change : RowChange} {around around' : Surroundings}
    (h : change.apply around = some around') : RowsInPlace around around' := by
  cases change with
  | account row =>
    obtain ⟨hsame, rfl⟩ := saveIf_eq_some.mp h
    refine saveAccount_rows ?_
    intro old hold
    simpa [hold] using hsame
  | connection row =>
    obtain ⟨hsame, rfl⟩ := saveIf_eq_some.mp h
    refine saveConnection_rows ?_
    intro old hold
    simpa [hold] using hsame
  | deployment row =>
    obtain ⟨hsame, rfl⟩ := saveIf_eq_some.mp h
    refine saveDeployment_rows ?_
    intro old hold
    simpa [hold] using hsame
  | revision row => cases h; exact { rowsInPlace_refl around with }
  | chatroom row =>
    obtain ⟨hsame, rfl⟩ := saveIf_eq_some.mp h
    refine { rowsInPlace_refl around with chatroom := update_keeps ?_ }
    intro old hold
    simpa [hold] using hsame
  | contact row => cases h; exact { rowsInPlace_refl around with }
  | people principal memberships => cases h; exact { rowsInPlace_refl around with }
  | policy rules policyVersion =>
    obtain ⟨hsame, rfl⟩ := saveIf_eq_some.mp h
    refine { rowsInPlace_refl around with rule := ?_ }
    intro id row hrow
    have hid : row.id = id := by simpa using List.find?_some hrow
    have hkept := List.all_eq_true.mp hsame row (List.mem_of_find?_eq_some hrow)
    rw [hid] at hkept
    simpa [Option.any_eq_true] using hkept

/-- No step moves a row to another workspace. -/
theorem effect_places {w w' : World ι κ} {a : SenderSystem.Action ι κ} (h : Effect w a w') :
    SamePlaces w.around w'.around := by
  cases h with
  | revoked k now r hcommit => exact samePlaces_of_rows (revocation_rows now w.around r)
  | changed change around happly => exact samePlaces_of_rows (change_rows happly)
  | _ => exact samePlaces_refl _

/-- The objects that the authorization of an account's message rests on are in the
workspace of its context. -/
structure Bound (around : Surroundings) (accountId : UUID) (context : OutboxAuthorizationContext) :
    Prop where
  deployment : (Revocation.deactivate context.deploymentId).workspace around =
    some context.workspaceId
  account : (Revocation.setDisabled accountId true).workspace around = some context.workspaceId
  chatroom : ∀ chatroomId membershipId membershipEpoch, context.chatroomId = some chatroomId →
    (Revocation.markMembershipLeft chatroomId membershipId membershipEpoch).workspace around =
      some context.workspaceId

/-- A context stays bound to its account. -/
theorem bound_places {around around' : Surroundings} {accountId : UUID}
    {context : OutboxAuthorizationContext} (hplaces : SamePlaces around around')
    (h : Bound around accountId context) : Bound around' accountId context :=
  ⟨hplaces _ _ h.deployment, hplaces _ _ h.account,
    fun chatroomId membershipId membershipEpoch hroom =>
      hplaces _ _ (h.chatroom chatroomId membershipId membershipEpoch hroom)⟩

/-- The deployment of an authorized message is in the workspace of its context. -/
theorem authorized_deployment {around : Surroundings} {message : OutboxMessage}
    {context : OutboxAuthorizationContext} {now : Time}
    (h : contextStillValid around message context now = true) :
    (Revocation.deactivate context.deploymentId).workspace around = some context.workspaceId := by
  simp only [contextStillValid, Bool.and_eq_true] at h
  obtain ⟨-, h⟩ := h
  split at h
  · cases h
  · rename_i deployment revision hactive
    simp only [activeRevision, Option.bind_eq_bind, Option.bind_eq_some_iff, Option.pure_def,
      Option.some.injEq, Prod.mk.injEq] at hactive
    obtain ⟨d, hd, -, -, r, -, rfl, rfl⟩ := hactive
    simp only [Bool.and_eq_true, deploymentAuthorizes, decide_eq_true_eq] at h
    simp [Revocation.workspace, hd, h.1.1.1.1.1.1]

/-- The account of an authorized message is in the workspace of its context. -/
theorem authorized_account {around : Surroundings} {message : OutboxMessage}
    {context : OutboxAuthorizationContext} {now : Time}
    (h : contextStillValid around message context now = true) :
    around.workspaceOf message.botAccountId = some context.workspaceId := by
  simp only [contextStillValid, Bool.and_eq_true] at h
  obtain ⟨-, h⟩ := h
  split at h
  · cases h
  · simp only [Bool.and_eq_true, policyAllows] at h
    obtain ⟨-, h⟩ := h
    split at h
    · cases h
    · rename_i decision hok
      exact evaluate_ok hok

/-- The chatroom of an authorized message is one of its account. -/
theorem authorized_chatroom {around : Surroundings} {message : OutboxMessage}
    {context : OutboxAuthorizationContext} {now : Time} {chatroomId : UUID}
    (h : contextStillValid around message context now = true)
    (hroom : context.chatroomId = some chatroomId) :
    ∃ room, around.chatroom chatroomId = some room ∧ room.botAccountId = message.botAccountId := by
  have htarget : authorizedTarget around message context = some message.targetWxid := by
    simp only [contextStillValid, Bool.and_eq_true, targetMatchesAuthorization,
      decide_eq_true_eq] at h
    exact h.1
  unfold authorizedTarget at htarget
  simp only [hroom, Option.map_eq_some_iff, Option.filter_eq_some_iff, decide_eq_true_eq] at htarget
  obtain ⟨room, ⟨hfound, haccount⟩, -⟩ := htarget
  exact ⟨room, hfound, haccount⟩

/-- An authorized message is bound to its context. -/
theorem authorized_bound {around : Surroundings} {message : OutboxMessage}
    {context : OutboxAuthorizationContext} {now : Time}
    (hcontext : message.authorizationContext = some (.valid context))
    (h : authorizationStillValid around message now = true) :
    Bound around message.botAccountId context := by
  have hvalid : contextStillValid around message context now = true := by
    simpa [authorizationStillValid, hcontext, Document.modelValidate] using h
  refine ⟨authorized_deployment hvalid, authorized_account hvalid, ?_⟩
  intro chatroomId membershipId membershipEpoch hroom
  obtain ⟨room, hfound, haccount⟩ := authorized_chatroom hvalid hroom
  simp [Revocation.workspace, hfound, haccount, authorized_account hvalid]

/-- A revocation that bears on the authorization of the message. -/
def Revocation.Concerns (around : Surroundings) (message : OutboxMessage)
    (context : OutboxAuthorizationContext) : Revocation → Prop
  | .revokeRule ruleId revokedBy =>
    (Revocation.revokeRule ruleId revokedBy).workspace around = some context.workspaceId
  | .createRule rule => rule.workspaceId = context.workspaceId ∧ rule.effect = .DENY
  | .deactivate deploymentId => deploymentId = context.deploymentId
  | .activateRevision deploymentId revisionId =>
    deploymentId = context.deploymentId ∧ revisionId ≠ context.deploymentRevisionId
  | .setDisabled accountId _ => accountId = message.botAccountId
  | .changeStatus connectionId _ =>
    (around.botAccount message.botAccountId).map (·.geweConnectionId) = some connectionId
  | .markMembershipLeft chatroomId membershipId membershipEpoch =>
    context.chatroomId = some chatroomId ∧ ∃ membership principalId principal,
      departing around chatroomId membershipId membershipEpoch = some membership ∧
      context.actorPrincipalId = some principalId ∧
      around.principal principalId = some principal ∧
      principal.externalId = membership.memberWxid

/-- Such a revocation is about the workspace whose fence the sender holds. -/
theorem concerns_workspace {around : Surroundings} {message : OutboxMessage}
    {context : OutboxAuthorizationContext} {r : Revocation}
    (hbound : Bound around message.botAccountId context)
    (h : Revocation.Concerns around message context r) :
    r.workspace around = some context.workspaceId := by
  cases r with
  | revokeRule ruleId revokedBy => exact h
  | createRule rule => exact congrArg some h.1
  | deactivate deploymentId => cases h; exact hbound.deployment
  | activateRevision deploymentId revisionId =>
    obtain ⟨rfl, -⟩ := h
    exact hbound.deployment
  | setDisabled accountId disabled => cases h; exact hbound.account
  | changeStatus connectionId status =>
    obtain ⟨account, connection, ha, hc, hw⟩ := workspaceOf_eq_some.mp hbound.account
    simp only [Revocation.Concerns, ha, Option.map_some, Option.some.injEq] at h
    simp [Revocation.workspace, ← h, hc, hw]
  | markMembershipLeft chatroomId membershipId membershipEpoch =>
    exact hbound.chatroom chatroomId membershipId membershipEpoch h.1

/-- What the rows say about a task's phase. -/
def PhaseOk (t : Outbox) (around : Surroundings) : Phase → Prop
  | .claimed claim => (t.find claim.id).isSome
  | .delayed claim _ => (t.find claim.id).isSome
  | .paced claim => (t.find claim.id).isSome
  | .guarded messageId fence => (t.find messageId).isSome ∧ fence = fenceOf t messageId
  | .prepared send fence => Fenced t around send fence
  | .posting send fence _ => Fenced t around send fence
  | _ => True
where
  /-- The fence held for the send is the one of its message's workspace. -/
  Fenced (t : Outbox) (around : Surroundings) (send : PreparedSend) (fence : Option UUID) : Prop :=
    ∃ m, t.find send.messageId = some m ∧ ∀ context,
      m.authorizationContext = some (.valid context) →
        fence = some context.workspaceId ∧ Bound around m.botAccountId context

structure FenceInv (w : World ι κ) : Prop where
  phases : ∀ i, PhaseOk w.outbox w.around (w.pipeline i)
  apart : ∀ i k workspaceId, (w.pipeline i).sharedFence = some workspaceId →
    (w.admin k).exclusiveFence ≠ some workspaceId
  admin : ∀ k r workspaceId, w.admin k = .fenced r workspaceId →
    r.workspace w.around = some workspaceId

theorem fenceOf_row {t : Outbox} {id : UUID} {m : OutboxMessage} (hm : t.find id = some m) :
    fenceOf t id = m.authorizationContext.bind fun document =>
      document.modelValidate.map (·.workspaceId) := by
  simp only [fenceOf, hm, Option.bind_eq_bind, Option.bind_some, Option.pure_def]
  cases m.authorizationContext with
  | none => rfl
  | some document =>
    cases hd : document.modelValidate <;> simp [hd]

theorem isSome_kept {t t' : Outbox} (h : Kept t t') {id : UUID} (hid : (t.find id).isSome) :
    (t'.find id).isSome := by
  obtain ⟨m, hm⟩ := Option.isSome_iff_exists.mp hid
  obtain ⟨m', hm', -⟩ := h id m hm
  simp [hm']

theorem fenceOf_kept {t t' : Outbox} (h : Kept t t') {id : UUID} (hid : (t.find id).isSome) :
    fenceOf t' id = fenceOf t id := by
  obtain ⟨m, hm⟩ := Option.isSome_iff_exists.mp hid
  obtain ⟨m', hm', hsame⟩ := h id m hm
  rw [fenceOf_row hm, fenceOf_row hm', hsame.context]

theorem fenced_frame {t t' : Outbox} {around around' : Surroundings} (hkept : Kept t t')
    (hplaces : SamePlaces around around') {send : PreparedSend} {fence : Option UUID}
    (h : PhaseOk.Fenced t around send fence) : PhaseOk.Fenced t' around' send fence := by
  obtain ⟨m, hm, hcontext⟩ := h
  obtain ⟨m', hm', hsame⟩ := hkept _ m hm
  refine ⟨m', hm', ?_⟩
  intro context hvalid
  obtain ⟨hfence, hbound⟩ := hcontext context (hsame.context ▸ hvalid)
  exact ⟨hfence, hsame.account ▸ bound_places hplaces hbound⟩

/-- A phase stays sound while rows and places keep what they bind. -/
theorem phaseOk_frame {t t' : Outbox} {around around' : Surroundings} (hkept : Kept t t')
    (hplaces : SamePlaces around around') {phase : Phase} (h : PhaseOk t around phase) :
    PhaseOk t' around' phase := by
  cases phase with
  | claimed claim => exact isSome_kept hkept h
  | delayed claim delay => exact isSome_kept hkept h
  | paced claim => exact isSome_kept hkept h
  | guarded messageId fence =>
    exact ⟨isSome_kept hkept h.1, h.2.trans (fenceOf_kept hkept h.1).symm⟩
  | prepared send fence => exact fenced_frame hkept hplaces h
  | posting send fence call => exact fenced_frame hkept hplaces h
  | _ => trivial

omit [DecidableEq ι] [DecidableEq κ] in
/-- Changes of rows that keep every action and every place. -/
theorem fenceInv_frame {w w' : World ι κ} (hkept : Kept w.outbox w'.outbox)
    (hplaces : SamePlaces w.around w'.around) (hpipeline : w'.pipeline = w.pipeline)
    (hadmin : w'.admin = w.admin) (hw : FenceInv w) : FenceInv w' := by
  refine ⟨?_, ?_, ?_⟩
  · intro i
    rw [hpipeline]
    exact phaseOk_frame hkept hplaces (hw.phases i)
  · rw [hpipeline, hadmin]
    exact hw.apart
  · intro k r workspaceId hk
    rw [hadmin] at hk
    exact hplaces _ _ (hw.admin k r workspaceId hk)

omit [DecidableEq κ] in
/-- A task moves on to a phase that fits the rows, with a fence that it held before or
that is free. -/
theorem fenceInv_moveTo {w : World ι κ} {i : ι} {phase : Phase}
    (hphase : PhaseOk w.outbox w.around phase)
    (hfence : ∀ workspaceId, phase.sharedFence = some workspaceId →
      (w.pipeline i).sharedFence = some workspaceId ∨ w.SharedFree workspaceId)
    (hw : FenceInv w) : FenceInv (w.moveTo i phase) := by
  refine ⟨?_, ?_, hw.admin⟩
  · intro j
    by_cases hj : j = i
    · subst hj
      rw [moveTo_self]
      exact hphase
    · rw [moveTo_other w phase hj]
      exact hw.phases j
  · intro j k workspaceId hj
    by_cases hji : j = i
    · subst hji
      rw [moveTo_self] at hj
      rcases hfence workspaceId hj with hheld | hfree
      · exact hw.apart j k workspaceId hheld
      · exact hfree k
    · rw [moveTo_other w phase hji] at hj
      exact hw.apart j k workspaceId hj

omit [DecidableEq κ] in
theorem fenceInv_idle {w : World ι κ} {i : ι} {phase : Phase} (hnone : phase.sharedFence = none)
    (hphase : PhaseOk w.outbox w.around phase) (hw : FenceInv w) : FenceInv (w.moveTo i phase) := by
  refine fenceInv_moveTo hphase ?_ hw
  intro workspaceId h
  rw [hnone] at h
  cases h

omit [DecidableEq κ] in
/-- A task moves on and holds on to its fence. -/
theorem fenceInv_hold {w : World ι κ} {i : ι} {phase : Phase}
    (hsame : phase.sharedFence = (w.pipeline i).sharedFence)
    (hphase : PhaseOk w.outbox w.around phase) (hw : FenceInv w) : FenceInv (w.moveTo i phase) :=
  fenceInv_moveTo hphase (fun _ h => .inl (hsame ▸ h)) hw

omit [DecidableEq ι] [DecidableEq κ] in
/-- The outbox may change as long as its rows keep what binds them. -/
theorem fenceInv_outbox {w : World ι κ} {t : Outbox} (h : Kept w.outbox t) (hw : FenceInv w) :
    FenceInv { w with outbox := t } :=
  fenceInv_frame h (samePlaces_refl _) rfl rfl hw

omit [DecidableEq ι] in
/-- The administrator leaves its transaction. -/
theorem fenceInv_adminTo {w : World ι κ} {k : κ} {phase : AdminPhase}
    (hphase : phase.exclusiveFence = none) (hw : FenceInv w) : FenceInv (w.adminTo k phase) := by
  refine ⟨hw.phases, ?_, ?_⟩
  · intro i l workspaceId hi
    by_cases hl : l = k
    · subst hl
      rw [adminTo_self, hphase]
      simp
    · rw [adminTo_other w phase hl]
      exact hw.apart i l workspaceId hi
  · intro l r workspaceId h
    by_cases hl : l = k
    · subst hl
      rw [adminTo_self] at h
      rw [h] at hphase
      cases hphase
    · rw [adminTo_other w phase hl] at h
      exact hw.admin l r workspaceId h

/-- The fence of the guard is the one of the context with which the message is accepted. -/
theorem prepared_fenced {t t' : Outbox} {around : Surroundings} {policyNow : Time} {id : UUID}
    {fence : Option UUID} {send : PreparedSend} {m m' : OutboxMessage} (hfence : fence = fenceOf t id)
    (h : PreparedBy around policyNow t t' id send m m') :
    PhaseOk.Fenced t' around send fence := by
  have hid : m'.id = id := h.same.id.trans (Table.find_key h.found)
  refine ⟨m', ?_, ?_⟩
  · rw [h.saved, h.message, Table.find_save_of (t := t) (a := m') (hid.symm ▸ h.found),
      if_pos hid.symm]
  · intro context hcontext
    have hvalid : m.authorizationContext = some (.valid context) := h.same.context ▸ hcontext
    refine ⟨?_, h.same.account ▸ authorized_bound hvalid h.authorized⟩
    rw [hfence, fenceOf_row h.found, hvalid]
    rfl

/-- Every step keeps the fence invariant. -/
theorem effect_fenceInv {w w' : World ι κ} {a : SenderSystem.Action ι κ} (h : Effect w a w')
    (hw : FenceInv w) : FenceInv w' := by
  have hkept := effect_kept h
  have hplaces := effect_places h
  cases h with
  | same => exact hw
  | enqueued | recovered | cancelled | reconciled => exact fenceInv_outbox hkept hw
  | accountLocked i accountId now hfree => exact fenceInv_idle rfl trivial hw
  | counted i accountId now hphase hnone => exact fenceInv_idle rfl trivial hw
  | claimed i locked accountId now c u m m' hphase hchanges hclaim =>
    have hid : m'.id = c.id := hclaim.same.id.trans (Table.find_key hclaim.found)
    have hfound : ((u.save m').find c.id).isSome := by
      simp [Table.find_save_of (t := u) (a := m') (hid.symm ▸ hclaim.found), hid]
    exact fenceInv_idle rfl hfound (fenceInv_outbox hkept hw)
  | nothingDue i locked t hchanges => exact fenceInv_idle rfl trivial (fenceInv_outbox hkept hw)
  | retired a i => exact fenceInv_idle rfl trivial hw
  | advanced a i phase hphase =>
    have hbefore := hw.phases i
    generalize w.pipeline i = before at hphase hbefore
    cases hphase with
    | paced claim => exact fenceInv_idle rfl hbefore hw
    | delayed claim delay => exact fenceInv_idle rfl hbefore hw
  | extended i now c delay t hphase hchanges =>
    have hbefore := hw.phases i
    rw [hphase] at hbefore
    exact fenceInv_idle rfl (isSome_kept hkept hbefore) (fenceInv_outbox hkept hw)
  | guarded i c hphase hfree =>
    have hbefore := hw.phases i
    rw [hphase] at hbefore
    refine fenceInv_moveTo ⟨hbefore, rfl⟩ ?_ hw
    exact fun workspaceId hws => .inr (hfree workspaceId hws)
  | refused i now policyNow id fence t hphase hchanges =>
    exact fenceInv_hold (by simp [hphase, Phase.sharedFence]) trivial (fenceInv_outbox hkept hw)
  | prepared i now policyNow id fence t send m m' hphase hprepared =>
    have hbefore := hw.phases i
    rw [hphase] at hbefore
    exact fenceInv_hold (by simp [hphase, Phase.sharedFence])
      (prepared_fenced hbefore.2 hprepared) (fenceInv_outbox hkept hw)
  | postStarted i send fence hphase =>
    have hbefore := hw.phases i
    rw [hphase] at hbefore
    exact fenceInv_hold (by simp [hphase, Phase.sharedFence]) hbefore
      (fenceInv_frame hkept hplaces rfl rfl hw)
  | postFailed i outcome send fence hphase =>
    exact fenceInv_hold (by simp [hphase, Phase.sharedFence]) trivial hw
  | postEnded i outcome send fence call hphase =>
    exact fenceInv_hold (by simp [hphase, Phase.sharedFence]) trivial
      (fenceInv_frame hkept hplaces rfl rfl hw)
  | settled i now jitter outcome send fence t hphase hsettled =>
    exact fenceInv_hold (by simp [hphase, Phase.sharedFence]) trivial (fenceInv_outbox hkept hw)
  | revocationBegun k r => exact fenceInv_adminTo rfl hw
  | fenceLocked k r workspaceId hphase hworkspace hfree =>
    refine ⟨hw.phases, ?_, ?_⟩
    · intro i l other hi
      by_cases hl : l = k
      · subst hl
        rw [adminTo_self]
        intro hsame
        cases hsame
        exact hfree.1 i hi
      · rw [adminTo_other w _ hl]
        exact hw.apart i l other hi
    · intro l r' other hl
      by_cases hlk : l = k
      · subst hlk
        rw [adminTo_self] at hl
        cases hl
        exact hworkspace
      · rw [adminTo_other w _ hlk] at hl
        exact hw.admin l r' other hl
  | revoked k now r hcommit =>
    exact fenceInv_adminTo rfl (fenceInv_frame hkept hplaces rfl rfl hw)
  | rolledBack k => exact fenceInv_adminTo rfl hw
  | changed change around happly => exact fenceInv_frame hkept hplaces rfl rfl hw

omit [DecidableEq ι] [DecidableEq κ] in
theorem atRest_fenceInv (outbox : Outbox) (around : Surroundings) :
    FenceInv (atRest outbox around : World ι κ) := by
  refine ⟨fun _ => trivial, ?_, ?_⟩
  · intro i k workspaceId h
    cases h
  · intro k r workspaceId h
    cases h

/-- The action commits a revocation that concerns a message between its acceptance and
the end of its call. -/
def Breaks (w : World ι κ) : SenderSystem.Action ι κ → Prop
  | .commitRevocation k _ => ∃ r i send m context, Committing w k r ∧
      (w.pipeline i).window = some send ∧ w.outbox.find send.messageId = some m ∧
      m.authorizationContext = some (.valid context) ∧ Revocation.Concerns w.around m context r
  | _ => False

/-- A `mark_membership_left` commits when no guard session holds the shared fence of its
workspace. -/
def LeftOutsideGuards (w : World ι κ) : SenderSystem.Action ι κ → Prop
  | .commitRevocation k _ => ∀ r, (w.admin k).unfenced = some r → r.takesFence = false →
      ∀ workspaceId, r.workspace w.around = some workspaceId →
        ∀ i, (w.pipeline i).sharedFence ≠ some workspaceId
  | _ => True

omit [DecidableEq ι] [DecidableEq κ] in
/-- From its guard to the end of its call a task shares the fence of the workspace. -/
theorem fenced_window {w : World ι κ} (hw : FenceInv w) {i : ι} {send : PreparedSend}
    {m : OutboxMessage} {context : OutboxAuthorizationContext}
    (hi : (w.pipeline i).window = some send) (hm : w.outbox.find send.messageId = some m)
    (hcontext : m.authorizationContext = some (.valid context)) :
    (w.pipeline i).sharedFence = some context.workspaceId ∧
      Bound w.around m.botAccountId context := by
  have hfenced : ∀ fence, PhaseOk.Fenced w.outbox w.around send fence →
      fence = some context.workspaceId ∧ Bound w.around m.botAccountId context := by
    rintro fence ⟨m', hm', hvalid⟩
    rw [hm] at hm'
    cases hm'
    exact hvalid context hcontext
  have hok := hw.phases i
  cases hphase : w.pipeline i <;> rw [hphase] at hi hok <;> simp only [Phase.window] at hi <;>
    cases hi
  · exact hfenced _ hok
  · exact hfenced _ hok

/-- What commits without a fence never takes one. -/
theorem unfenced_takes_none {around : Surroundings} {r : Revocation}
    (h : r.commitsUnfenced around = true) : r.takesFence = false := by
  cases r <;> first | rfl | cases h

omit [DecidableEq ι] [DecidableEq κ] in
/-- With every `mark_membership_left` outside the guards, no revocation breaks in. -/
theorem no_break {w : World ι κ} {a : SenderSystem.Action ι κ} (hw : FenceInv w)
    (hleft : LeftOutsideGuards w a) : ¬ Breaks w a := by
  cases a with
  | commitRevocation k now =>
    rintro ⟨r, i, send, m, context, hcommit, hi, hm, hcontext, hconcerns⟩
    obtain ⟨hshared, hbound⟩ := fenced_window hw hi hm hcontext
    have hworkspace := concerns_workspace hbound hconcerns
    rcases hcommit with ⟨hopened, hunfenced⟩ | ⟨workspaceId, hfenced⟩
    · exact hleft r (by rw [hopened]; rfl) (unfenced_takes_none hunfenced) _ hworkspace i hshared
    · have hsame := hw.admin k r workspaceId hfenced
      rw [hworkspace] at hsame
      cases hsame
      exact hw.apart i k _ hshared (by rw [hfenced]; rfl)
  | _ => exact id

variable [Fintype ι] [Fintype κ]

/-- In every run in which `mark_membership_left` commits only while no guard session holds
the fence of its workspace, no revocation that concerns a message commits between the
message's acceptance and the end of its call. -/
theorem send_boundary_fence (setup : Setup ι) (outbox : Outbox) (around : Surroundings)
    (actions : List (SenderSystem.Action ι κ))
    (hleft : EachStep (step setup) LeftOutsideGuards (atRest outbox around) actions) :
    EachStep (step setup) (fun w a => ¬ Breaks w a) (atRest outbox around) actions :=
  each_of_invariant FenceInv
    (fun _ _ _ hs _ hstep => effect_fenceInv (step_effect hstep) hs)
    (fun _ _ hs hcondition => no_break hs hcondition) (atRest_fenceInv outbox around) hleft

instance (w : World ι κ) (r : Revocation) : Decidable (∀ workspaceId,
    r.workspace w.around = some workspaceId → ∀ i, (w.pipeline i).sharedFence ≠ some workspaceId) :=
  optionAllDecidable (r.workspace w.around) fun workspaceId =>
    ∀ i, (w.pipeline i).sharedFence ≠ some workspaceId

instance (w : World ι κ) (k : κ) : Decidable (∀ r, (w.admin k).unfenced = some r →
    r.takesFence = false → ∀ workspaceId, r.workspace w.around = some workspaceId →
      ∀ i, (w.pipeline i).sharedFence ≠ some workspaceId) :=
  optionAllDecidable (w.admin k).unfenced fun r => r.takesFence = false → ∀ workspaceId,
    r.workspace w.around = some workspaceId → ∀ i, (w.pipeline i).sharedFence ≠ some workspaceId

instance (w : World ι κ) (a : SenderSystem.Action ι κ) : Decidable (LeftOutsideGuards w a) :=
  match a with
  | .commitRevocation k _ =>
    inferInstanceAs (Decidable (∀ r, (w.admin k).unfenced = some r → r.takesFence = false →
      ∀ workspaceId, r.workspace w.around = some workspaceId →
        ∀ i, (w.pipeline i).sharedFence ≠ some workspaceId))
  | .enqueue .. | .recoverExpiredLeases .. | .cancelMessage .. | .reconcileUnknown ..
  | .lockAccount .. | .countInFlight .. | .claimNext .. | .respectRateLimit ..
  | .extendClaimLease .. | .authorizationGuard .. | .prepareSend .. | .startPost ..
  | .failBeforePost .. | .endPost .. | .finish .. | .leaveGuard .. | .crash ..
  | .beginRevocation .. | .lockFence .. | .rollbackRevocation .. | .change .. => instDecidableTrue

def toCall : List (SenderSystem.Action Unit Unit) := toBoundary () 1 0 [] 0 ++ [.startPost ()]

def sampleResult : SentTextData := ⟨py "g@chatroom", 0, py "1", py "2", 1⟩

/-- The theorem on a run whose member is marked as left after the guard is closed. -/
theorem send_boundary_fence_left :
    EachStep (step (sampleSetup Unit)) (fun w a => ¬ Breaks w a)
      (atRest (oneMessage (some sampleContext)) sampleSurroundings)
      (toCall ++ [.endPost () (.sent sampleResult), .finish () second 0, .leaveGuard (),
        .beginRevocation () (.markMembershipLeft 1 1 1), .commitRevocation () second]) :=
  send_boundary_fence (sampleSetup Unit) _ _ _ (by decide +kernel)

def callingSample : List (SenderSystem.Action Unit Unit) :=
  toCall ++ [.beginRevocation () (.markMembershipLeft 1 1 1)]

def callingRun : Option (World Unit Unit) :=
  run (step (sampleSetup Unit)) (atRest (oneMessage (some sampleContext)) sampleSurroundings)
    callingSample

theorem callingRun_isSome : callingRun.isSome := by decide +kernel

def callingWorld : World Unit Unit := callingRun.get callingRun_isSome

theorem calling_run : run (step (sampleSetup Unit))
    (atRest (oneMessage (some sampleContext)) sampleSurroundings) callingSample =
      some callingWorld := (Option.some_get callingRun_isSome).symm

/-- The acting member is marked as left while the reply to its command is being sent. -/
theorem left_breaks : Breaks callingWorld (.commitRevocation () second) := by
  have hphase : (callingWorld.pipeline ()).window.map (·.messageId) = some 1 := by decide +kernel
  have hrow : (callingWorld.outbox.find 1).map (·.authorizationContext) =
      some (some (.valid sampleContext)) := by decide +kernel
  have hadmin : callingWorld.admin () = .opened (.markMembershipLeft 1 1 1) := by decide +kernel
  have hdeparting : departing callingWorld.around 1 1 1 = some ⟨1, 1, py "wxid", 1, none⟩ := by
    decide +kernel
  have hprincipal : callingWorld.around.principal 1 =
      some ⟨1, 1, .GROUP_MEMBER, py "wxid", true⟩ := by decide +kernel
  simp only [Option.map_eq_some_iff] at hphase hrow
  obtain ⟨send, hwindow, hid⟩ := hphase
  obtain ⟨m, hm, hcontext⟩ := hrow
  refine ⟨.markMembershipLeft 1 1 1, (), send, m, sampleContext, .inl ⟨hadmin, ?_⟩, hwindow,
    hid ▸ hm, hcontext, rfl, _, 1, _, hdeparting, rfl, hprincipal, rfl⟩
  change (departing callingWorld.around 1 1 1).isSome = true
  rw [hdeparting]
  rfl

/-- The acting member leaves while the call runs. -/
theorem membership_left_breaks_fence :
    ¬ ∀ (setup : Setup Unit) (outbox : Outbox) (around : Surroundings)
      (actions : List (SenderSystem.Action Unit Unit)) (w : World Unit Unit),
      run (step setup) (atRest outbox around) actions = some w →
      EachStep (step setup) (fun w a => ¬ Breaks w a) (atRest outbox around) actions := by
  intro h
  have hsome : (run (step (sampleSetup Unit))
      (atRest (oneMessage (some sampleContext)) sampleSurroundings)
      (callingSample ++ [.commitRevocation () second])).isSome := by decide +kernel
  obtain ⟨w, hw⟩ := Option.isSome_iff_exists.mp hsome
  exact (h _ _ _ _ w hw).last calling_run left_breaks

end WechatBot.SendFence
