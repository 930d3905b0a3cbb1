import WechatBot.LockedRules

/-!
# Changing a permission in the console

`replacePluginRule` of the front end revokes the rules of a target one request at a time
and then creates the new one. A request may be lost, refused, or committed with its answer
lost, and other administrators work in between. After a failure the console writes a denial.
-/
namespace WechatBot.PolicyChanges

open PyData Records Policy MembershipEpochs PolicyMonotone LockedRules Precedence Runs UuidText
open SenderSystem (Revocation)

/-- `PolicyService.revoke_rule`. -/
def revokeRule (around : Surroundings) (id : UUID) (revokedBy : Str) (now : Time) :
    Except PolicyError Surroundings :=
  match around.rules.find? fun rule => decide (rule.id = id) with
  | none => .error (.PolicyObjectNotFoundError "ACL rule not found")
  | some rule =>
    if rule.revokedAt.isSome then .ok around
    else
      .ok (incrementVersion ((Revocation.revokeRule id revokedBy).apply now around)
        rule.workspaceId)

/-- What the back end does for a request, given the primary key that is drawn for a new row
and its clock; `none` is an answer that is no success. -/
abbrev Operation := UUID → Time → Surroundings → Option Surroundings

/-- `POST /policy/rules/{rule_id}/revoke`. -/
def revokePluginRule (parse : Str → Option UUID) (ruleId : Str) : Operation := fun _ now around =>
  (parse ruleId).bind fun id => (revokeRule around id (py "api") now).toOption

/-- The text of a key or null. -/
def optionalId (parse : Str → Option UUID) : Option Str → Option (Option UUID)
  | none => some none
  | some text => (parse text).map some

/-- A rule without bounds has no empty period. -/
theorem open_period : ∀ first last : Time, (none : Option Time) = some first →
    (none : Option Time) = some last → first < last :=
  fun _ _ h => (by cases h)

/-- `AclRuleCreate` of the body that `createPluginRule` posts; `parse` reads the text of a
UUID as the schema does. -/
def ruleCreate (parse : Str → Option UUID) (target : RuleTarget) (effect : AclEffect)
    (reason : Str) : Option AclRuleCreate := do
  let workspaceId ← parse target.workspaceId
  let principalId ← optionalId parse target.principalId
  if h : (1 ≤ target.groupId.length ∧ target.groupId.length ≤ 255) ∧
      (1 ≤ target.resourceId.length ∧ target.resourceId.length ≤ 255) ∧
      (∀ epoch, target.membershipEpoch = some epoch → 1 ≤ epoch) ∧
      1 ≤ reason.length ∧ reason.length ≤ 500 then
    some {
      workspaceId
      principalId
      scopeType := .CHATROOM
      scopeId := target.groupId
      resourceType := .PLUGIN
      resourceId := target.resourceId
      effect
      locked := false
      membershipEpoch := target.membershipEpoch
      validFrom := none
      validUntil := none
      lockedDenies := fun hlocked => by cases hlocked
      period := open_period
      category := fun hcategory => by cases hcategory
      scopeIdLength := h.1
      resourceIdLength := h.2.1
      epochPositive := h.2.2.1 }
  else none

/-- The front end's `createPluginRule`, a `POST /policy/rules`. -/
def createPluginRule (parse : Str → Option UUID) (workspaceExists : UUID → Bool)
    (target : RuleTarget) (effect : AclEffect) (reason : Str) : Operation := fun id now around =>
  (ruleCreate parse target effect reason).bind fun payload =>
    -- the primary key is new
    if around.rules.any fun rule => decide (rule.id = id) then none
    else (createRule workspaceExists around payload id now).toOption

/-- What becomes of a request. -/
inductive Fate where
  | lost
  | answered
  | dropped
  deriving DecidableEq, Repr

/-- The back end's side of one request: what others commit before it and what becomes of it. -/
structure Turn where
  others : Surroundings → Surroundings
  fate : Fate
  id : UUID
  now : Time

/-- The rows after the request, and whether the console gets a success. -/
def Turn.serve (turn : Turn) (operation : Operation) (around : Surroundings) :
    Surroundings × Bool :=
  let around := turn.others around
  match turn.fate, operation turn.id turn.now around with
  | .answered, some after => (after, true)
  | .dropped, some after => (after, false)
  | _, _ => (around, false)

/-- The rows and the number of requests so far. -/
structure Exchange where
  around : Surroundings
  sent : Nat

def request (backend : Nat → Turn) (operation : Operation) (s : Exchange) : Exchange × Bool :=
  let served := (backend s.sent).serve operation s.around
  (⟨served.1, s.sent + 1⟩, served.2)

inductive EditablePolicyEffect where
  | INHERIT
  | ALLOW
  | DENY
  deriving DecidableEq, Repr

/-- The effect of the rule that is created. -/
def EditablePolicyEffect.rule : EditablePolicyEffect → Option AclEffect
  | .INHERIT => none
  | .ALLOW => some .ALLOW
  | .DENY => some .DENY

structure ReplaceRuleInput where
  currentRules : List ConsoleRule
  target : RuleTarget
  effect : EditablePolicyEffect
  reason : Str

/-- A `ReplaceRuleResult` with the key of the created rule, or a `PolicyChangeError`. -/
inductive Outcome where
  | replaced (ruleId : Option UUID) (revokedRuleIds : List Str)
  | locked (ruleId : Str)
  | failed (fallbackApplied : Bool)
  deriving DecidableEq, Repr

/-- The effect that the console reports as written. -/
def Outcome.effect (input : ReplaceRuleInput) : Outcome → Option AclEffect
  | .replaced (some _) _ => input.effect.rule
  | .failed true => some .DENY
  | _ => none

section Console

variable (parse : Str → Option UUID) (workspaceExists : UUID → Bool) (backend : Nat → Turn)

/-- The loop over the current rules: the revoked keys, and whether it ended. -/
def revokeAll : List ConsoleRule → Exchange → Exchange × List Str × Bool
  | [], s => (s, [], true)
  | rule :: rules, s =>
    match request backend (revokePluginRule parse rule.id) s with
    | (s, false) => (s, [], false)
    | (s, true) =>
      let rest := revokeAll rules s
      (rest.1, rule.id :: rest.2.1, rest.2.2)

def createRequest (target : RuleTarget) (effect : AclEffect) (reason : Str) (s : Exchange) :
    Exchange × Bool :=
  request backend (createPluginRule parse workspaceExists target effect reason) s

/-- The body of the `catch`. -/
def fallBack (input : ReplaceRuleInput) (s : Exchange) : Exchange × Outcome :=
  let created := createRequest parse workspaceExists backend input.target .DENY
    (py "安全回退：" ++ input.reason) s
  (created.1, .failed created.2)

def replacePluginRule (input : ReplaceRuleInput) (clock : Int) (s : Exchange) :
    Exchange × Outcome :=
  match blockingLockedRule input.currentRules input.target clock with
  | some rule => (s, .locked rule.id)
  | none =>
    match revokeAll parse backend (exactRules input.currentRules input.target) s with
    | (s, _, false) => fallBack parse workspaceExists backend input s
    | (s, revokedRuleIds, true) =>
      match input.effect.rule with
      | none => (s, .replaced none revokedRuleIds)
      | some effect =>
        let created := createRequest parse workspaceExists backend input.target effect input.reason s
        if created.2 then (created.1, .replaced (some (backend s.sent).id) revokedRuleIds)
        else fallBack parse workspaceExists backend input created.1

end Console

def configuredEffect (rules : List ConsoleRule) (target : RuleTarget) (now : Int) :
    EditablePolicyEffect :=
  let active := (exactRules rules target).filter fun rule => isRuleActive rule now
  if active = [] then .INHERIT
  else if active.any fun rule => decide (rule.effect = .DENY ∨ rule.effect = .ASK) then .DENY
  else .ALLOW

def configurationMatches (rules : List ConsoleRule) (target : RuleTarget)
    (effect : EditablePolicyEffect) (now : Int) : Bool :=
  let exact := exactRules rules target
  if effect = .INHERIT then exact.isEmpty
  else
    match exact with
    | [rule] => decide (some rule.effect = effect.rule) && isRuleActive rule now
    | _ => false

/-- `PolicyService.list_rules` as the console calls it: the rules that are not revoked. -/
def listRules (around : Surroundings) : List ConsoleRule :=
  (around.rules.filter fun rule => rule.revokedAt.isNone).map view

/-- A rule for exactly the target. -/
structure Exact (target : GroupTarget) (rule : AclRule) : Prop where
  workspace : rule.workspaceId = target.workspaceId
  principal : rule.principalId = target.subject.principal.map (·.id)
  epoch : rule.membershipEpoch = target.subject.membershipEpoch
  scopeType : rule.scopeType = .CHATROOM
  scope : rule.scopeId = uuidStr target.groupId
  resourceType : rule.resourceType = .PLUGIN
  resource : rule.resourceId = target.resourceId

/-- What a request for the target leaves. -/
structure Created (target : GroupTarget) (effect : AclEffect) (id : UUID) (now : Time)
    (rule : AclRule) : Prop where
  exact : Exact target rule
  effect : rule.effect = effect
  unlocked : rule.locked = false
  validFrom : rule.validFrom = now
  validUntil : rule.validUntil = none
  open_ : rule.revokedAt = none
  id : rule.id = id

/-- The target's principal is a group member in the epoch of the target. -/
def CurrentMember (around : Surroundings) (target : GroupTarget) : Prop :=
  ∀ principal epoch, target.subject = .member (some principal) epoch →
    ∀ row, around.principal principal.id = some row →
      row.principalType = .GROUP_MEMBER ∧
        ((activeMemberships around target.groupId row.externalId).map (·.membershipEpoch)).max? =
          some epoch

variable {parse : Str → Option UUID} {workspaceExists : UUID → Bool} {target : GroupTarget}
  {around around' : Surroundings} {effect : AclEffect} {reason : Str} {id : UUID} {now : Time}

/-- The request of the console asks for a rule with exactly the target. -/
theorem ruleCreate_target (hparse : ∀ u, parse (uuidStr u) = some u) {payload : AclRuleCreate}
    (h : ruleCreate parse target.ruleTarget effect reason = some payload) :
    payload.workspaceId = target.workspaceId ∧
      payload.principalId = target.subject.principal.map (·.id) ∧ payload.scopeType = .CHATROOM ∧
      payload.scopeId = uuidStr target.groupId ∧ payload.resourceType = .PLUGIN ∧
      payload.resourceId = target.resourceId ∧ payload.effect = effect ∧ payload.locked = false ∧
      payload.membershipEpoch = target.subject.membershipEpoch ∧ payload.validFrom = none ∧
      payload.validUntil = none := by
  unfold ruleCreate at h
  obtain ⟨workspaceId, hworkspace, h⟩ := Option.bind_eq_some_iff.mp h
  obtain ⟨principalId, hprincipal, h⟩ := Option.bind_eq_some_iff.mp h
  obtain rfl : target.workspaceId = workspaceId :=
    Option.some.inj ((hparse target.workspaceId).symm.trans hworkspace)
  have hid : principalId = target.subject.principal.map (·.id) := by
    simp only [GroupTarget.ruleTarget] at hprincipal
    cases hbound : target.subject.principal with
    | none =>
      rw [hbound] at hprincipal
      exact (Option.some.inj hprincipal).symm
    | some principal =>
      rw [hbound] at hprincipal
      simp only [Option.map_some, optionalId, hparse, Option.some.injEq] at hprincipal
      exact hprincipal.symm
  split at h
  · cases h
    exact ⟨rfl, hid, rfl, rfl, rfl, rfl, rfl, rfl, rfl, rfl, rfl⟩
  · cases h

/-- The back end takes the epoch of the target or refuses the rule. -/
theorem resolved_epoch {payload : AclRuleCreate} {principal : Option Principal} {epoch : Option Nat}
    (hscopeType : payload.scopeType = .CHATROOM) (hscope : payload.scopeId = uuidStr target.groupId)
    (hprincipal : payload.principalId = target.subject.principal.map (·.id))
    (hexpected : payload.membershipEpoch = target.subject.membershipEpoch)
    (hvalid : validatePrincipal around payload = .ok principal)
    (hresolved : resolveMembershipEpoch around payload principal = .ok epoch) :
    epoch = target.subject.membershipEpoch ∧ CurrentMember around target := by
  unfold CurrentMember
  cases hsubject : target.subject with
  | group =>
    rw [hsubject] at hprincipal hexpected
    simp only [Subject.principal, Subject.membershipEpoch, Option.map_none] at hprincipal hexpected
    simp only [validatePrincipal, hprincipal, hexpected] at hvalid
    cases hvalid
    simp only [resolveMembershipEpoch, hexpected] at hresolved
    cases hresolved
    exact ⟨rfl, fun _ _ h => by cases h⟩
  | member bound expected =>
    rw [hsubject] at hprincipal hexpected
    simp only [Subject.principal, Subject.membershipEpoch] at hprincipal hexpected ⊢
    cases bound with
    | none =>
      simp [validatePrincipal, hprincipal, hexpected] at hvalid
    | some bound =>
      obtain ⟨row, rfl, hrow⟩ := EpochFence.validatePrincipal_ok hvalid hprincipal
      by_cases htype : row.principalType = .GROUP_MEMBER
      · simp only [resolveMembershipEpoch, Option.filter, htype, decide_true, if_true, hscopeType,
          ne_eq, not_true_eq_false, if_false, parseUuid, hscope, uuidOf_uuidStr] at hresolved
        split at hresolved
        · cases hresolved
        rename_i current hmax
        simp only [hexpected, Option.any_some] at hresolved
        split at hresolved
        · cases hresolved
        rename_i hsame
        cases hresolved
        obtain rfl : expected = current := by simpa using hsame
        refine ⟨rfl, ?_⟩
        intro principal epoch h other hother
        cases h
        obtain rfl : row = other := Option.some.inj (hrow.symm.trans hother)
        exact ⟨htype, hmax⟩
      · simp [resolveMembershipEpoch, Option.filter, htype, hexpected] at hresolved

/-- A creation that succeeds appends the rule of the target. -/
theorem created_rule (hparse : ∀ u, parse (uuidStr u) = some u)
    (h : createPluginRule parse workspaceExists target.ruleTarget effect reason id now around =
      some around') :
    ∃ rule version, around' = withRules around (around.rules ++ [rule]) version ∧
      Created target effect id now rule ∧ (∀ other ∈ around.rules, other.id ≠ id) ∧
      CurrentMember around target := by
  obtain ⟨payload, hpayload, h⟩ := Option.bind_eq_some_iff.mp h
  obtain ⟨hworkspace, hprincipal, hscopeType, hscope, htype, hresource, heffect, hlocked, hepoch,
    hfrom, huntil⟩ := ruleCreate_target hparse hpayload
  split at h
  · cases h
  rename_i hfresh
  have hcreated : createRule workspaceExists around payload id now = .ok around' := by
    cases hresult : createRule workspaceExists around payload id now with
    | error error => simp [hresult, Except.toOption] at h
    | ok after => simpa [hresult, Except.toOption] using h
  obtain ⟨principal, epoch, hvalid, hresolved, rfl⟩ := EpochFence.createRule_ok hcreated
  have hmember := resolved_epoch hscopeType hscope hprincipal hepoch hvalid hresolved
  refine ⟨newRule payload epoch id now, _, rfl, ⟨?_, heffect, hlocked, ?_, huntil, rfl, rfl⟩, ?_, hmember.2⟩
  · exact ⟨hworkspace, hprincipal, hmember.1, hscopeType, hscope, htype, hresource⟩
  · simp [newRule, hfrom]
  · intro other hother heq
    exact hfresh (List.any_eq_true.mpr ⟨other, hother, by simp [heq]⟩)

/-- A single denial makes the strictest effect a denial. -/
theorem foldl_strictest_deny {effects : List AclEffect} : ∀ {first : AclEffect},
    first = .DENY ∨ .DENY ∈ effects → effects.foldl strictest first = .DENY := by
  induction effects with
  | nil =>
    intro first h
    simpa using h
  | cons effect effects ih =>
    intro first h
    rw [List.foldl_cons]
    apply ih
    rcases h with rfl | h
    · left
      cases effect <;> rfl
    · rcases List.mem_cons.mp h with rfl | h
      · left
        cases first <;> rfl
      · exact .inr h

/-- The second score of a rule for exactly the target. -/
def exactScore (target : GroupTarget) : Nat := if target.subject.principal.isSome then 40 else 30

theorem resourceScore_le (rule : AclRule) : resourceScore rule target.request ≤ 30 := by
  unfold resourceScore
  split_ifs <;> omega

theorem resourceScore_exact {rule : AclRule} (h : resourceScore rule target.request = 30) :
    rule.resourceType = .PLUGIN ∧ rule.resourceId = target.resourceId := by
  unfold resourceScore at h
  split_ifs at h with hexact
  · exact hexact
  · cases h
  · cases h

theorem scopeScore_le (rule : AclRule) : scopeScore rule target.request ≤ 30 := by
  cases htype : rule.scopeType <;> simp only [scopeScore, htype, GroupTarget.request]
  all_goals split_ifs <;> simp_all

theorem scopeScore_exact {rule : AclRule} (h : scopeScore rule target.request = 30) :
    rule.scopeType = .CHATROOM ∧ rule.scopeId = uuidStr target.groupId := by
  cases htype : rule.scopeType <;> simp only [scopeScore, htype, GroupTarget.request] at h
  all_goals split_ifs at h
  all_goals simp_all

/-- No candidate has higher scores than an exact rule. -/
theorem candidate_bound {item : Candidate}
    (h : item ∈ candidatesOf around target.request now target.subject.principal) :
    item.resourceScore ≤ 30 ∧ item.subjectScopeScore ≤ exactScore target := by
  obtain ⟨rule, -, hcandidate⟩ := List.mem_filterMap.mp h
  unfold candidateOf at hcandidate
  split at hcandidate
  · cases hcandidate
  rename_i hconcerns
  simp only at hcandidate
  split at hcandidate
  · cases hcandidate
  rename_i hscores
  cases hcandidate
  refine ⟨resourceScore_le rule, ?_⟩
  cases hbound : rule.principalId with
  | none =>
    have hle : 30 ≤ exactScore target := by
      unfold exactScore
      split_ifs <;> omega
    simpa using (scopeScore_le rule).trans hle
  | some id =>
    have hsome : target.subject.principal.isSome = true := by
      cases hprincipal : target.subject.principal with
      | none => simp [concernsPrincipal, hbound, hprincipal] at hconcerns
      | some principal => rfl
    simp [exactScore, hsome]

theorem exact_concerns {rule : AclRule} (h : Exact target rule) : Concerns rule target.subject := by
  intro id hid
  have hprincipal := h.principal
  have hepoch := h.epoch
  cases hsubject : target.subject with
  | group =>
    rw [hsubject] at hprincipal
    rw [hprincipal] at hid
    cases hid
  | member principal epoch =>
    rw [hsubject] at hprincipal hepoch
    cases principal with
    | none =>
      rw [hprincipal] at hid
      cases hid
    | some principal =>
      rw [hprincipal] at hid
      cases hid
      exact ⟨principal, epoch, rfl, rfl, hepoch⟩

/-- An exact rule in force is a candidate with the highest scores. -/
theorem exact_candidate {rule : AclRule} (hknown : Known around target) (hrule : rule ∈ around.rules)
    (hexact : Exact target rule) (hforce : InForce rule now) :
    (⟨rule, 30, exactScore target⟩ : Candidate) ∈
      candidatesOf around target.request now target.subject.principal := by
  refine List.mem_filterMap.mpr ⟨rule, List.mem_filter.mpr ⟨hrule, ?_⟩, ?_⟩
  · have hperiod : rule.validUntil.all (fun until_ => decide (now < until_)) = true := by
      cases hvalid : rule.validUntil with
      | none => rfl
      | some until_ => simpa using hforce.2.2 until_ hvalid
    have hactor : rule.principalId = target.request.actorPrincipalId := hexact.principal
    have hworkspace : rule.workspaceId = target.request.workspaceId := hexact.workspace
    simp [hforce.1, hforce.2.1, hperiod, hactor, hworkspace]
  · have hconcerns := (concernsPrincipal_known hknown).mpr (exact_concerns hexact)
    have hresource : resourceScore rule target.request = 30 := by
      simp [resourceScore, GroupTarget.request, hexact.resourceType, hexact.resource]
    have hscope : scopeScore rule target.request = 30 := by
      simp [scopeScore, GroupTarget.request, hexact.scopeType, hexact.scope]
    simp [candidateOf, hconcerns, hresource, hscope, exactScore, hexact.principal]

/-- A rule for exactly the target that is in force is among the best candidates. -/
theorem exact_best {rule : AclRule} (hknown : Known around target) (hrule : rule ∈ around.rules)
    (hexact : Exact target rule) (hforce : InForce rule now) :
    (⟨rule, 30, exactScore target⟩ : Candidate) ∈
      best (candidatesOf around target.request now target.subject.principal) := by
  rw [best_eq_top]
  refine mem_top.mpr ⟨exact_candidate hknown hrule hexact hforce, ?_⟩
  intro item hitem
  obtain ⟨hresource, hscope⟩ := candidate_bound hitem
  rw [scorePair, scorePair, Prod.Lex.toLex_le_toLex]
  rcases Nat.lt_or_eq_of_le hresource with hlt | heq
  · exact .inl hlt
  · exact .inr ⟨heq, hscope⟩

/-- For a known member the decision is that of the candidates, unless the account is disabled. -/
theorem evaluate_known {decision : AclDecisionView} (hknown : Known around target)
    (h : evaluate around target.request now = .ok decision) :
    (decision.effect = .DENY ∧ ∃ account, around.botAccount target.botAccountId = some account ∧
      account.status = .DISABLED) ∨
    decision = decideCandidates (candidatesOf around target.request now target.subject.principal)
      ((around.policyVersion target.workspaceId).getD 0) := by
  unfold evaluate at h
  split at h
  · cases h
  · rename_i account haccount
    split at h
    · rename_i hdisabled
      cases h
      unfold accountInWorkspace at haccount
      split at haccount
      · exact .inl ⟨rfl, account, haccount, hdisabled⟩
      · cases haccount
    · rw [hknown.active] at h
      cases h
      exact .inr rfl

/-- An exact denial in force denies. -/
theorem exact_denial {rule : AclRule} {decision : AclDecisionView} (hknown : Known around target)
    (hrule : rule ∈ around.rules) (hexact : Exact target rule) (hdeny : rule.effect = .DENY)
    (hforce : InForce rule now) (h : evaluate around target.request now = .ok decision) :
    decision.effect = .DENY := by
  rcases evaluate_known hknown h with ⟨hdenied, -⟩ | rfl
  · exact hdenied
  have hbest := exact_best hknown hrule hexact hforce
  rw [decideCandidates_effect]
  split
  · rfl
  · exact foldl_strictest_deny (.inr (List.mem_map.mpr ⟨_, hbest, hdeny⟩))

/-- A request that the console sees succeed has been served. -/
theorem served_success {turn : Turn} {operation : Operation}
    (h : turn.serve operation around = (around', true)) :
    operation turn.id turn.now (turn.others around) = some around' := by
  unfold Turn.serve at h
  cases hfate : turn.fate <;> cases hdone : operation turn.id turn.now (turn.others around) <;>
    simp_all

/-- A request that succeeds is the next one sent. -/
theorem request_success {backend : Nat → Turn} {operation : Operation} {s s' : Exchange}
    (h : request backend operation s = (s', true)) :
    s'.sent = s.sent + 1 ∧ operation (backend s.sent).id (backend s.sent).now
      ((backend s.sent).others s.around) = some s'.around := by
  unfold request at h
  cases hserved : (backend s.sent).serve operation s.around with
  | mk around done =>
    rw [hserved] at h
    cases h
    exact ⟨rfl, served_success hserved⟩

/-- What a report of the console means: its last request has just created the rule. -/
def Written (backend : Nat → Turn) (target : GroupTarget) (effect : AclEffect) (s : Exchange) :
    Prop :=
  ∃ rule ∈ s.around.rules,
    Created target effect (backend (s.sent - 1)).id (backend (s.sent - 1)).now rule ∧
      CurrentMember s.around target

/-- A creation that the console sees succeed is stored. -/
theorem createRequest_written (hparse : ∀ u, parse (uuidStr u) = some u) {backend : Nat → Turn}
    {s s' : Exchange}
    (h : createRequest parse workspaceExists backend target.ruleTarget effect reason s =
      (s', true)) :
    Written backend target effect s' := by
  obtain ⟨hsent, hcreated⟩ := request_success h
  obtain ⟨rule, version, hafter, hrule, -, hmember⟩ := created_rule hparse hcreated
  refine ⟨rule, ?_, ?_, ?_⟩
  · rw [hafter]
    exact List.mem_append_right _ List.mem_cons_self
  · rw [hsent, Nat.add_sub_cancel]
    exact hrule
  · rw [hafter]
    exact hmember

/-- A fallback that reports an effect has stored it. -/
theorem fallBack_written (hparse : ∀ u, parse (uuidStr u) = some u) {backend : Nat → Turn}
    {input : ReplaceRuleInput} (htarget : input.target = target.ruleTarget) {s s' : Exchange}
    {outcome : Outcome} (h : fallBack parse workspaceExists backend input s = (s', outcome))
    (heffect : outcome.effect input = some effect) : Written backend target effect s' := by
  unfold fallBack at h
  rw [htarget] at h
  simp only [Prod.mk.injEq] at h
  obtain ⟨rfl, rfl⟩ := h
  cases hdone : createRequest parse workspaceExists backend target.ruleTarget .DENY
      (py "安全回退：" ++ input.reason) s with
  | mk after done =>
    rw [hdone] at heffect
    cases done with
    | false => cases heffect
    | true =>
      cases heffect
      exact createRequest_written hparse hdone

/-- A replacement that reports an effect has stored it, and with its last request. -/
theorem replaced_written (hparse : ∀ u, parse (uuidStr u) = some u) {backend : Nat → Turn}
    {input : ReplaceRuleInput} (htarget : input.target = target.ruleTarget) {clock : Int}
    {s s' : Exchange} {outcome : Outcome}
    (h : replacePluginRule parse workspaceExists backend input clock s = (s', outcome))
    (heffect : outcome.effect input = some effect) : Written backend target effect s' := by
  unfold replacePluginRule at h
  split at h
  · cases h
    cases heffect
  split at h
  · exact fallBack_written hparse htarget h heffect
  rename_i revoked ids hrevoked
  split at h
  · cases h
    cases heffect
  rename_i wanted hwanted
  simp only at h
  split at h
  · rename_i hdone
    cases h
    simp only [Outcome.effect, hwanted, Option.some.injEq] at heffect
    subst heffect
    rw [htarget] at hdone ⊢
    exact createRequest_written hparse (Prod.ext rfl hdone)
  · exact fallBack_written hparse htarget h heffect

theorem known_of_currentMember
    (hactive : activeRequestPrincipal around target.request = .ok target.subject.principal)
    (h : CurrentMember around target) : Known around target := by
  refine ⟨hactive, ?_⟩
  intro principal epoch hsubject
  have hactor : target.request.actorPrincipalId = some principal.id := by
    simp [GroupTarget.request, hsubject, Subject.principal]
  obtain ⟨row, hsame, hrow⟩ := EpochFence.activeRequestPrincipal_ok hactive hactor
  rw [hsubject] at hsame
  cases hsame
  obtain ⟨htype, hepoch⟩ := h principal epoch hsubject principal hrow
  refine ⟨htype, ?_⟩
  simp only [currentMembershipEpoch, GroupTarget.request, htype, if_true]
  exact hepoch

/-- A denial that the console reports, the one it was asked for or its safe fallback, is a
rule that no other rule overrides: as long as it is stored as it is and the subject is still
in its epoch, every evaluation of the plugin for the subject ends with a denial. This holds
whichever requests or answers were lost and whatever others did in between. -/
theorem replace_fails_closed {workspaceExists : UUID → Bool} {backend : Nat → Turn}
    (hparse : ∀ u, parse (uuidStr u) = some u) {input : ReplaceRuleInput}
    (htarget : input.target = target.ruleTarget) (clock : Int) {s s' : Exchange}
    {outcome : Outcome}
    (h : replacePluginRule parse workspaceExists backend input clock s = (s', outcome))
    (hdenied : outcome.effect input = some .DENY) :
    ∃ rule ∈ s'.around.rules, Exact target rule ∧
      (activeRequestPrincipal s'.around target.request = .ok target.subject.principal →
        Known s'.around target) ∧
      ∀ later, rule ∈ later.rules → Known later target →
        ∀ now ≥ (backend (s'.sent - 1)).now, ∀ decision,
          evaluate later target.request now = .ok decision → decision.effect = .DENY := by
  obtain ⟨rule, hrule, hcreated, hmember⟩ := replaced_written hparse htarget h hdenied
  refine ⟨rule, hrule, hcreated.exact, fun hactive => known_of_currentMember hactive hmember, ?_⟩
  intro later hlater hknown now hnow decision hevaluate
  have hforce : InForce rule now := by
    refine ⟨hcreated.open_, ?_, ?_⟩
    · rw [hcreated.validFrom]
      exact hnow
    · rw [hcreated.validUntil]
      intro until_ huntil
      cases huntil
  exact exact_denial hknown hlater hcreated.exact hcreated.effect hforce hevaluate

/-- The rules for exactly the target that are not revoked. -/
def OpenExact (target : GroupTarget) (around : Surroundings) (rule : AclRule) : Prop :=
  rule ∈ around.rules ∧ rule.revokedAt = none ∧ Exact target rule

/-- What the others do before a request, as far as the target goes: they keep the primary
keys unique, and they add no rule for exactly the target. -/
structure Quiet (target : GroupTarget) (turn : Turn) : Prop where
  keys : ∀ around, (around.rules.map (·.id)).Nodup →
    ((turn.others around).rules.map (·.id)).Nodup
  rules : ∀ around rule, OpenExact target (turn.others around) rule → OpenExact target around rule

/-- The filter of `exactRules` on the view of a rule. -/
theorem mem_exactRules {rules : List ConsoleRule} {rule : AclRule} :
    view rule ∈ exactRules rules target.ruleTarget ↔
      view rule ∈ rules ∧ rule.revokedAt = none ∧ Exact target rule := by
  have hprincipal : rule.principalId.map uuidStr =
      (target.subject.principal.map fun principal => uuidStr principal.id) ↔
      rule.principalId = target.subject.principal.map (·.id) := by
    cases rule.principalId <;> cases target.subject.principal <;> simp
  unfold exactRules
  rw [List.mem_filter]
  simp only [Bool.and_eq_true, decide_eq_true_eq, Option.isNone_iff_eq_none]
  simp only [view, GroupTarget.ruleTarget, uuidStr_eq, hprincipal]
  constructor
  · rintro ⟨hmem, ⟨⟨⟨⟨⟨⟨hopen, hworkspace⟩, hprincipal⟩, hepoch⟩, hscopeType⟩, hscope⟩, htype⟩, hid⟩
    exact ⟨hmem, hopen, hworkspace, hprincipal, hepoch, hscopeType, hscope, htype, hid⟩
  · rintro ⟨hmem, hopen, h⟩
    exact ⟨hmem, ⟨⟨⟨⟨⟨⟨hopen, h.workspace⟩, h.principal⟩, h.epoch⟩, h.scopeType⟩, h.scope⟩,
      h.resourceType⟩, h.resource⟩

/-- The console lists the rules that are not revoked. -/
theorem mem_listRules {rule : ConsoleRule} :
    rule ∈ listRules around ↔ ∃ row ∈ around.rules, row.revokedAt = none ∧ view row = rule := by
  simp [listRules, and_assoc]

/-- The exact rules of the list are the open exact rules of the database. -/
theorem mem_exactRules_listRules {rule : ConsoleRule} :
    rule ∈ exactRules (listRules around) target.ruleTarget ↔
      ∃ row, OpenExact target around row ∧ view row = rule := by
  constructor
  · intro h
    obtain ⟨row, hrow, hopen, rfl⟩ := mem_listRules.mp (List.mem_filter.mp h).1
    exact ⟨row, ⟨hrow, mem_exactRules.mp h |>.2⟩, rfl⟩
  · rintro ⟨row, ⟨hrow, hopen, hexact⟩, rfl⟩
    exact mem_exactRules.mpr ⟨mem_listRules.mpr ⟨row, hrow, hopen, rfl⟩, hopen, hexact⟩

/-- A revocation ends one rule, and nothing else. -/
theorem revokeRule_ok {key : UUID} {revokedBy : Str}
    (h : revokeRule around key revokedBy now = .ok around') :
    ∃ rule, around.rules.find? (fun rule => decide (rule.id = key)) = some rule ∧
      (rule.revokedAt ≠ none ∧ around' = around ∨
        around'.rules = around.rules.map (revoked key revokedBy now)) := by
  unfold revokeRule at h
  split at h
  · cases h
  rename_i rule hfound
  refine ⟨rule, hfound, ?_⟩
  split at h
  · rename_i hrevoked
    cases h
    exact .inl ⟨Option.isSome_iff_ne_none.mp hrevoked, rfl⟩
  · cases h
    exact .inr rfl

/-- A revocation that succeeds leaves no open rule of its key. -/
theorem revokeRule_open {key : UUID} {revokedBy : Str}
    (h : revokeRule around key revokedBy now = .ok around')
    (hkeys : (around.rules.map (·.id)).Nodup) :
    (around'.rules.map (·.id)).Nodup ∧
      ∀ rule ∈ around'.rules, rule.revokedAt = none → rule ∈ around.rules ∧ rule.id ≠ key := by
  obtain ⟨found, hfound, ⟨hrevoked, rfl⟩ | hrules⟩ := revokeRule_ok h
  · refine ⟨hkeys, fun rule hrule hopen => ⟨hrule, fun heq => ?_⟩⟩
    -- it was revoked before, and no other rule has its key
    obtain ⟨hid, -⟩ := List.find?_eq_some_iff_append.mp hfound
    have hsame : rule = found :=
      List.inj_on_of_nodup_map hkeys hrule (List.mem_of_find?_eq_some hfound)
        (heq.trans (of_decide_eq_true hid).symm)
    exact hrevoked (hsame ▸ hopen)
  · rw [hrules]
    refine ⟨?_, fun rule hrule hopen => of_mem_revoked hrule hopen⟩
    have hids : (around.rules.map (revoked key revokedBy now)).map (·.id) =
        around.rules.map (·.id) := by
      rw [List.map_map]
      apply List.map_congr_left
      intro rule _
      simp only [Function.comp_apply, revoked]
      split <;> rfl
    rw [hids]
    exact hkeys

/-- Revocations that all succeed end their rules. -/
theorem revokeAll_done (hparse : ∀ u, parse (uuidStr u) = some u) {backend : Nat → Turn}
    (hquiet : ∀ i, Quiet target (backend i)) {rules : List ConsoleRule} :
    ∀ {s s' : Exchange} {ids : List Str}, (s.around.rules.map (·.id)).Nodup →
      revokeAll parse backend rules s = (s', ids, true) →
      ids = rules.map (·.id) ∧ (s'.around.rules.map (·.id)).Nodup ∧
        ∀ rule, OpenExact target s'.around rule →
          OpenExact target s.around rule ∧ view rule ∉ rules := by
  induction rules with
  | nil =>
    intro s s' ids hkeys h
    cases h
    exact ⟨rfl, hkeys, fun rule hrule => ⟨hrule, List.not_mem_nil⟩⟩
  | cons head rules ih =>
    intro s s' ids hkeys h
    simp only [revokeAll] at h
    split at h
    · cases h
    rename_i after hdone
    simp only [Prod.mk.injEq] at h
    obtain ⟨hfinal, rfl, hended⟩ := h
    obtain ⟨-, hrevoked⟩ := request_success hdone
    obtain ⟨key, hkey, hrevoked⟩ := Option.bind_eq_some_iff.mp hrevoked
    have hok : revokeRule ((backend s.sent).others s.around) key (py "api") (backend s.sent).now =
        .ok after.around := by
      cases hresult : revokeRule ((backend s.sent).others s.around) key (py "api")
          (backend s.sent).now with
      | error error => simp [hresult, Except.toOption] at hrevoked
      | ok around => simpa [hresult, Except.toOption] using hrevoked
    obtain ⟨hafter, hopen⟩ := revokeRule_open hok ((hquiet s.sent).keys _ hkeys)
    obtain ⟨hids, hkeys', hrest⟩ := ih hafter (Prod.ext hfinal (Prod.ext rfl hended))
    refine ⟨by rw [List.map_cons, ← hids], hkeys', fun rule hrule => ?_⟩
    obtain ⟨⟨hmem, hnone, hexact⟩, hnot⟩ := hrest rule hrule
    obtain ⟨hmem, hne⟩ := hopen rule hmem hnone
    refine ⟨(hquiet s.sent).rules _ _ ⟨hmem, hnone, hexact⟩, ?_⟩
    intro hin
    rcases List.mem_cons.mp hin with rfl | hin
    · have : parse (uuidStr rule.id) = some key := hkey
      rw [hparse] at this
      exact hne (Option.some.inj this)
    · exact hnot hin

/-- After the revocations no exact rule is open. -/
theorem revokeAll_closed (hparse : ∀ u, parse (uuidStr u) = some u) {backend : Nat → Turn}
    (hquiet : ∀ i, Quiet target (backend i)) {input : ReplaceRuleInput}
    (htarget : input.target = target.ruleTarget) {s s' : Exchange} {ids : List Str}
    (hkeys : (s.around.rules.map (·.id)).Nodup)
    (hlisted : ∀ rule, OpenExact target s.around rule → view rule ∈ input.currentRules)
    (h : revokeAll parse backend (exactRules input.currentRules input.target) s = (s', ids, true)) :
    ids = (exactRules input.currentRules input.target).map (·.id) ∧
      ∀ rule, ¬ OpenExact target s'.around rule := by
  obtain ⟨hids, -, hopen⟩ := revokeAll_done hparse hquiet hkeys h
  refine ⟨hids, fun rule hrule => ?_⟩
  obtain ⟨hbefore, hnot⟩ := hopen rule hrule
  rw [htarget] at hnot
  exact hnot (mem_exactRules.mpr ⟨hlisted rule hbefore, hbefore.2.1, hbefore.2.2⟩)

theorem exactRules_none (h : ∀ rule, ¬ OpenExact target around rule) :
    exactRules (listRules around) target.ruleTarget = [] := by
  rw [List.eq_nil_iff_forall_not_mem]
  intro rule hrule
  obtain ⟨row, hopen, -⟩ := mem_exactRules_listRules.mp hrule
  exact h row hopen

/-- The one rule for the target that its creation leaves. -/
theorem exactRules_created {rule : AclRule} {version : UUID → Option Nat}
    (hnone : ∀ rule, ¬ OpenExact target around rule) (hrule : Created target effect id now rule) :
    exactRules (listRules (withRules around (around.rules ++ [rule]) version)) target.ruleTarget =
      [view rule] := by
  have hlist : listRules (withRules around (around.rules ++ [rule]) version) =
      listRules around ++ [view rule] := by
    simp [listRules, withRules, List.filter_append, hrule.open_]
  have hexact : view rule ∈ exactRules [view rule] target.ruleTarget :=
    mem_exactRules.mpr ⟨List.mem_singleton_self _, hrule.open_, hrule.exact⟩
  rw [hlist]
  unfold exactRules at hexact ⊢
  rw [List.filter_append]
  have hbefore := exactRules_none hnone
  unfold exactRules at hbefore
  rw [hbefore, List.nil_append, List.filter_singleton, (List.mem_filter.mp hexact).2, cond_true]

/-- A new rule, alone, is the configuration that was wanted. -/
theorem created_matches {rule : AclRule} {version : UUID → Option Nat}
    {wanted : EditablePolicyEffect} (hwanted : wanted.rule = some effect)
    (hnone : ∀ rule, ¬ OpenExact target around rule) (hrule : Created target effect id now rule)
    {clock : Int} (hclock : dateParse now ≤ clock) :
    configurationMatches (listRules (withRules around (around.rules ++ [rule]) version))
      target.ruleTarget wanted clock = true := by
  have hne : wanted ≠ .INHERIT := by
    rintro rfl
    cases hwanted
  have hactive : isRuleActive (view rule) clock = true := by
    rw [isRuleActive_view]
    refine ⟨hrule.open_, ?_, ?_⟩
    · simp only [cutToMillis, hrule.validFrom]
      exact Int.mul_le_mul_of_nonneg_right hclock (by decide)
    · simp [cutToMillis, hrule.validUntil]
  have heffect : (view rule).effect = effect := hrule.effect
  simp only [configurationMatches, exactRules_created hnone hrule, if_neg hne, hactive, heffect,
    hwanted, decide_true, Bool.and_self]

/-- A change that the console reports as done is what it finds afterwards, provided that it
knew every rule for exactly the target when it began and nobody added one since. It has
revoked every rule it knew for exactly the target, each with one request. -/
theorem replace_settles {workspaceExists : UUID → Bool} {backend : Nat → Turn}
    (hparse : ∀ u, parse (uuidStr u) = some u) (hquiet : ∀ i, Quiet target (backend i))
    {input : ReplaceRuleInput} (htarget : input.target = target.ruleTarget) {clock : Int}
    {s s' : Exchange} (hkeys : (s.around.rules.map (·.id)).Nodup)
    (hlisted : ∀ rule, OpenExact target s.around rule → view rule ∈ input.currentRules)
    {created : Option UUID} {ids : List Str}
    (h : replacePluginRule parse workspaceExists backend input clock s =
      (s', .replaced created ids))
    {later : Int} (hclock : ∀ i < s'.sent, dateParse (backend i).now ≤ later) :
    configurationMatches (listRules s'.around) target.ruleTarget input.effect later = true ∧
      ids = (exactRules input.currentRules target.ruleTarget).map (·.id) := by
  unfold replacePluginRule at h
  split at h
  · cases h
  split at h
  · simp [fallBack] at h
  rename_i revoked revokedIds hrevoked
  obtain ⟨hids, hnone⟩ := revokeAll_closed hparse hquiet htarget hkeys hlisted hrevoked
  rw [htarget] at hids
  split at h
  · rename_i hinherit
    cases h
    refine ⟨?_, hids⟩
    have heffect : input.effect = .INHERIT := by
      cases heffect : input.effect <;> simp_all [EditablePolicyEffect.rule]
    simp [configurationMatches, heffect, exactRules_none hnone]
  rename_i effect heffect
  simp only at h
  split at h
  · rename_i hdone
    cases h
    refine ⟨?_, hids⟩
    rw [htarget] at hdone ⊢
    obtain ⟨hsent, hcreated⟩ := request_success (Prod.ext rfl hdone)
    have hbefore := hclock revoked.sent (hsent ▸ Nat.lt_succ_self _)
    obtain ⟨rule, version, hafter, hrule, -, -⟩ := created_rule hparse hcreated
    have hstill : ∀ rule, ¬ OpenExact target ((backend revoked.sent).others revoked.around) rule :=
      fun rule hopen => hnone rule ((hquiet revoked.sent).rules _ rule hopen)
    simp only [createRequest, hafter]
    exact created_matches heffect hstill hrule hbefore
  · simp [fallBack] at h

theorem grant_isSome :
    (ruleCreate uuidOf sampleMember.ruleTarget .ALLOW (py "r")).isSome = true := by
  decide +kernel

def grant : AclRuleCreate :=
  (ruleCreate uuidOf sampleMember.ruleTarget .ALLOW (py "r")).get grant_isSome

def grants : List MembershipEpochs.Action :=
  [.upsertMemberships 1 [(py "wxid", 5)], .createRule grant 7 0]

theorem grants_isSome : (run (step fun _ => true) EpochFence.emptyRoom grants).isSome = true := by
  decide +kernel

def grantedRoom : Surroundings :=
  (run (step fun _ => true) EpochFence.emptyRoom grants).get grants_isSome

def denies : ReplaceRuleInput := ⟨listRules grantedRoom, sampleMember.ruleTarget, .DENY, py "r"⟩

/-- Every request is answered, or the first one is done and its answer is lost. -/
def answers (first : Fate) : Nat → Turn
  | 0 => ⟨fun around => around, first, 20, 2000⟩
  | n + 1 => ⟨fun around => around, .answered, 21 + n, 3000⟩

def denied (first : Fate) : Exchange × Outcome :=
  replacePluginRule uuidOf (fun _ => true) (answers first) denies 1 ⟨grantedRoom, 0⟩

theorem quiet_answers (target : GroupTarget) (first : Fate) (i : Nat) :
    Quiet target (answers first i) := by
  cases i with
  | zero => exact ⟨fun _ h => h, fun _ _ h => h⟩
  | succ i => exact ⟨fun _ h => h, fun _ _ h => h⟩

theorem evaluates_denied : ∃ decision,
    evaluate (denied .dropped).1.around sampleMember.request 4000 = .ok decision :=
  ⟨_, rfl⟩

theorem replace_fails_closed_lost : (denied .dropped).2 = .failed true ∧
    ∃ decision, evaluate (denied .dropped).1.around sampleMember.request 4000 = .ok decision ∧
      decision.effect = .DENY := by
  have hfailed : (denied .dropped).2 = .failed true := by decide +kernel
  have hinput : denies.target = sampleMember.ruleTarget := rfl
  have hrun : replacePluginRule uuidOf (fun _ => true) (answers .dropped) denies 1
      ⟨grantedRoom, 0⟩ = ((denied .dropped).1, .failed true) := Prod.ext rfl hfailed
  obtain ⟨decision, hdecision⟩ := evaluates_denied
  obtain ⟨rule, hrule, -, hknown, hdenied⟩ :=
    replace_fails_closed uuidOf_uuidStr hinput 1 hrun rfl
  refine ⟨hfailed, decision, hdecision, ?_⟩
  exact hdenied _ hrule (hknown rfl) 4000 (by decide +kernel) decision hdecision

theorem replace_settles_denied :
    configurationMatches (listRules (denied .answered).1.around) sampleMember.ruleTarget .DENY 4 =
      true := by
  have hdone : (denied .answered).2 = .replaced (some 21) [uuidStr 7] := by decide +kernel
  have hkeys : (grantedRoom.rules.map (·.id)).Nodup := by decide +kernel
  have hinput : denies.target = sampleMember.ruleTarget := rfl
  have hrun : replacePluginRule uuidOf (fun _ => true) (answers .answered) denies 1
      ⟨grantedRoom, 0⟩ = ((denied .answered).1, .replaced (some 21) [uuidStr 7]) :=
    Prod.ext rfl hdone
  refine (replace_settles uuidOf_uuidStr (quiet_answers sampleMember .answered) hinput hkeys ?_
    hrun ?_).1
  · rintro rule ⟨hrule, hopen, -⟩
    exact mem_listRules.mpr ⟨rule, hrule, hopen, rfl⟩
  · intro i _
    cases i with
    | zero => decide
    | succ i => exact (by decide : dateParse 3000 ≤ 4)

end WechatBot.PolicyChanges
