import WechatBot.PolicyChanges

/-!
# What the console shows as the effect

The console derives the effect it shows for a plugin from the rules for exactly the target
alone. No other rule is as specific as these, so the back end decides by them too.
-/
namespace WechatBot.ShownPermissions

open PyData Records Policy MembershipEpochs PolicyMonotone LockedRules Precedence Runs
  PolicyChanges
open SenderSystem (Revocation)

variable {workspaceExists : UUID → Bool} {target : GroupTarget} {around around' : Surroundings}
  {id : UUID} {now : Time}

/-- A rule as `AclRuleCreate` and `create_rule` let it be: it denies when it is locked, and
it has no epoch when it is for everybody. -/
structure Plain (rule : AclRule) : Prop where
  admitted : Admitted rule
  unbound : rule.principalId = none → rule.membershipEpoch = none

theorem newRule_plain {payload : AclRuleCreate} {principal : Option Principal} {epoch : Option Nat}
    (hvalid : validatePrincipal around payload = .ok principal)
    (hresolved : resolveMembershipEpoch around payload principal = .ok epoch) :
    Plain (newRule payload epoch id now) := by
  refine ⟨payload.lockedDenies, fun hnone => ?_⟩
  have hpayload : payload.principalId = none := hnone
  unfold validatePrincipal at hvalid
  rw [hpayload] at hvalid
  simp only at hvalid
  split at hvalid
  · cases hvalid
  rename_i hepoch
  cases hvalid
  simp only [resolveMembershipEpoch, Option.filter, hepoch] at hresolved
  cases hresolved
  rfl

theorem insertMembership_rules {row : ChatroomMembership}
    (h : insertMembership around row = some around') : around'.rules = around.rules := by
  unfold insertMembership at h
  split at h
  · cases h
  · cases h
    rfl

theorem addMembers_rules {chatroomId : UUID} {read : List ChatroomMembership}
    {members : List (Str × UUID)} : ∀ {around around' : Surroundings},
      addMembers chatroomId read around members = some around' → around'.rules = around.rules := by
  induction members with
  | nil =>
    intro around around' h
    cases h
    rfl
  | cons member members ih =>
    intro around around' h
    simp only [addMembers] at h
    split at h
    · exact ih h
    · obtain ⟨joined, hjoined, h⟩ := Option.bind_eq_some_iff.mp h
      exact (ih h).trans (insertMembership_rules hjoined)

/-- The rules that a step leaves: those from before, revoked ones, or one more. -/
theorem step_rules {action : MembershipEpochs.Action}
    (h : MembershipEpochs.step workspaceExists around action = some around') :
    around'.rules = around.rules ∨
      (∃ id revokedBy now, around'.rules = around.rules.map (revoked id revokedBy now)) ∨
      ∃ payload id now principal epoch, validatePrincipal around payload = .ok principal ∧
        resolveMembershipEpoch around payload principal = .ok epoch ∧
        around'.rules = around.rules ++ [newRule payload epoch id now] := by
  cases action with
  | ensureMembership chatroomId actorWxid id =>
    left
    simp only [MembershipEpochs.step, ensureMembership] at h
    split at h
    · cases h
    · split at h
      · cases h
        rfl
      · exact insertMembership_rules h
  | upsertMemberships chatroomId members =>
    left
    simp only [MembershipEpochs.step, upsertMemberships] at h
    split at h
    · cases h
    · exact addMembers_rules h
  | markMembershipLeft chatroomId membershipId membershipEpoch now =>
    left
    obtain ⟨membership, hdeparting, rfl⟩ := Option.map_eq_some_iff.mp h
    simp only [Revocation.apply, hdeparting]
  | createRule payload id now =>
    right
    right
    simp only [MembershipEpochs.step] at h
    split at h
    · cases h
    cases hcreated : createRule workspaceExists around payload id now with
    | error error => simp [hcreated, Except.toOption] at h
    | ok created =>
      obtain rfl : created = around' := by simpa [hcreated, Except.toOption] using h
      obtain ⟨principal, epoch, hvalid, hresolved, rfl⟩ := EpochFence.createRule_ok hcreated
      exact ⟨payload, id, now, principal, epoch, hvalid, hresolved, rfl⟩
  | revokeRule id revokedBy now =>
    cases h
    exact .inr (.inl ⟨id, revokedBy, now, rfl⟩)
  | createPrincipal row =>
    cases h
    exact .inl rfl
  | discoverChatroom row =>
    left
    simp only [MembershipEpochs.step] at h
    split at h
    · cases h
    · cases h
      rfl

theorem step_plain {action : MembershipEpochs.Action}
    (h : MembershipEpochs.step workspaceExists around action = some around')
    (hplain : ∀ rule ∈ around.rules, Plain rule) : ∀ rule ∈ around'.rules, Plain rule := by
  intro rule hrule
  obtain heq | ⟨id, revokedBy, now, heq⟩ | ⟨payload, id, now, principal, epoch, hvalid, hresolved, heq⟩ :=
    step_rules h
  · exact hplain rule (heq ▸ hrule)
  · rw [heq] at hrule
    obtain ⟨old, hold, rfl⟩ := List.mem_map.mp hrule
    obtain ⟨hadmitted, hunbound⟩ := hplain old hold
    unfold revoked
    split
    · exact ⟨hadmitted, hunbound⟩
    · exact ⟨hadmitted, hunbound⟩
  · rw [heq] at hrule
    rcases List.mem_append.mp hrule with hrule | hrule
    · exact hplain rule hrule
    · obtain rfl := List.mem_singleton.mp hrule
      exact newRule_plain hvalid hresolved

theorem candidate_inForce {item : Candidate}
    (h : item ∈ candidatesOf around target.request now target.subject.principal) :
    item.rule ∈ around.rules ∧ item.rule.workspaceId = target.workspaceId ∧
      InForce item.rule now ∧ candidateOf target.request target.subject.principal
        (currentMembershipEpoch around target.request target.subject.principal) item.rule =
          some item := by
  obtain ⟨rule, hrule, hcandidate⟩ := List.mem_filterMap.mp h
  obtain rfl := candidateOf_rule hcandidate
  obtain ⟨hmem, heffective⟩ := List.mem_filter.mp hrule
  simp only [Bool.and_eq_true, decide_eq_true_eq, Option.isNone_iff_eq_none] at heffective
  obtain ⟨⟨⟨⟨hworkspace, hrevoked⟩, hfrom⟩, huntil⟩, -⟩ := heffective
  refine ⟨hmem, hworkspace, ⟨hrevoked, hfrom, ?_⟩, hcandidate⟩
  intro until_ hvalid
  rw [hvalid] at huntil
  simpa using huntil

/-- A candidate of the highest score is a rule for exactly the target, when there is one. -/
theorem best_exact (hfenced : EpochFence.Fenced around)
    (hplain : ∀ rule ∈ around.rules, Plain rule) (hknown : Known around target) {exact_ : AclRule}
    (hmem : exact_ ∈ around.rules) (hexact : Exact target exact_) {item : Candidate}
    (h : item ∈ candidatesOf around target.request now target.subject.principal)
    (hresource : item.resourceScore = 30) (hscore : item.subjectScopeScore = exactScore target) :
    Exact target item.rule := by
  obtain ⟨hrule, hworkspace, -, hcandidate⟩ := candidate_inForce h
  unfold candidateOf at hcandidate
  split at hcandidate
  · cases hcandidate
  rename_i hconcerns
  simp only [Bool.not_eq_false] at hconcerns
  simp only at hcandidate
  split at hcandidate
  · cases hcandidate
  rename_i hscores
  rw [not_or] at hscores
  obtain ⟨-, hscope⟩ := hscores
  obtain ⟨htype, hid⟩ := resourceScore_exact
    ((congrArg Candidate.resourceScore (Option.some.inj hcandidate)).trans hresource)
  have hsubject : (if item.rule.principalId.isSome then 40 else scopeScore item.rule target.request) =
      exactScore target :=
    (congrArg Candidate.subjectScopeScore (Option.some.inj hcandidate)).trans hscore
  cases hbound : item.rule.principalId with
  | none =>
    have hle : scopeScore item.rule target.request ≤ 30 := scopeScore_le item.rule
    simp only [hbound, Option.isSome_none, Bool.false_eq_true, if_false] at hsubject
    unfold exactScore at hsubject
    split_ifs at hsubject with hsome
    · omega
    have hnone : target.subject.principal = none := by simpa using hsome
    obtain ⟨hscopeType, hscopeId⟩ := scopeScore_exact hsubject
    have hepoch : target.subject.membershipEpoch = none :=
      hexact.epoch ▸ (hplain exact_ hmem).unbound (by rw [hexact.principal, hnone, Option.map_none])
    have hunbound := (hplain item.rule hrule).unbound hbound
    exact ⟨hworkspace, by rw [hbound, hnone, Option.map_none], hunbound.trans hepoch.symm,
      hscopeType, hscopeId, htype, hid⟩
  | some key =>
    obtain ⟨principal, epoch, hmember, rfl, hepoch⟩ :=
      (concernsPrincipal_known hknown).mp hconcerns key hbound
    obtain ⟨row, hrow, hscoped⟩ := hfenced.rules item.rule hrule principal.id hbound
    have hactor : target.request.actorPrincipalId = some principal.id := by
      simp [GroupTarget.request, hmember, Subject.principal]
    obtain ⟨p, hsame, hp⟩ := EpochFence.activeRequestPrincipal_ok hknown.active hactor
    rw [hmember] at hsame
    cases hsame
    cases hrow.symm.trans hp
    have hscopeType := (hscoped (hknown.current principal epoch hmember).1).scopeType
    have hscopeId : item.rule.scopeId = uuidStr target.groupId := by
      simpa [hscopeType] using scopeScore_ne_zero.mp hscope
    refine ⟨hworkspace, ?_, ?_, hscopeType, hscopeId, htype, hid⟩
    · rw [hbound, hmember]
      rfl
    · rw [hepoch, hmember]
      rfl

theorem no_lockedCandidate (hplain : ∀ rule ∈ around.rules, Plain rule)
    (hknown : Known around target) {clock : Int} (hclear : ∀ rule ∈ around.rules, ClearOf clock rule)
    (h : blockingLockedRule (listRules around) target.ruleTarget clock = none) :
    ¬ LockedCandidate around target (clock * 1000) := by
  rw [lockedCandidate_iff hknown]
  rintro ⟨rule, hrule, hforce, hlocks⟩
  have hepoch : target.ruleTarget.principalId ≠ none → target.ruleTarget.membershipEpoch ≠ none := by
    cases hsubject : target.subject <;>
      simp [GroupTarget.ruleTarget, hsubject, Subject.principal, Subject.membershipEpoch]
  have hblocks : blocks target.ruleTarget clock (view rule) = true :=
    (blocks_view (hplain rule hrule).admitted).mpr
      ⟨(inForce_cut (hclear rule hrule)).mpr hforce, hlocks⟩
  have hsome : (blockingLockedRule (listRules around) target.ruleTarget clock).isSome = true :=
    (blockingLockedRule_isSome hepoch).mpr ⟨view rule, mem_listRules.mpr ⟨rule, hrule, hforce.1, rfl⟩, hblocks⟩
  rw [h] at hsome
  cases hsome

/-- The exact rules that the console takes for active. -/
theorem mem_active {clock : Int} (hclear : ∀ rule ∈ around.rules, ClearOf clock rule)
    {rule : ConsoleRule} :
    rule ∈ (exactRules (listRules around) target.ruleTarget).filter (fun r => isRuleActive r clock) ↔
      ∃ row ∈ around.rules, Exact target row ∧ InForce row (clock * 1000) ∧ view row = rule := by
  rw [List.mem_filter, mem_exactRules_listRules]
  constructor
  · rintro ⟨⟨row, ⟨hrow, hopen, hexact⟩, rfl⟩, hactive⟩
    have hforce := (inForce_cut (hclear row hrow)).mp (isRuleActive_view.mp hactive)
    exact ⟨row, hrow, hexact, hforce, rfl⟩
  · rintro ⟨row, hrow, hexact, hforce, rfl⟩
    refine ⟨⟨row, ⟨hrow, hforce.1, hexact⟩, rfl⟩, ?_⟩
    exact isRuleActive_view.mpr ((inForce_cut (hclear row hrow)).mpr hforce)

theorem configuredEffect_allow {rules : List ConsoleRule} {t : RuleTarget} {clock : Int} :
    configuredEffect rules t clock = .ALLOW ↔
      (exactRules rules t).filter (fun r => isRuleActive r clock) ≠ [] ∧
        ∀ rule ∈ (exactRules rules t).filter (fun r => isRuleActive r clock),
          rule.effect = .ALLOW := by
  have heffect : ∀ effect : AclEffect, ¬ (effect = .DENY ∨ effect = .ASK) ↔ effect = .ALLOW := by
    intro effect
    cases effect <;> simp
  simp only [configuredEffect]
  by_cases hnil : (exactRules rules t).filter (fun r => isRuleActive r clock) = []
  · simp [hnil]
  rw [if_neg hnil]
  split
  · rename_i hany
    obtain ⟨rule, hrule, hdeny⟩ := List.any_eq_true.mp hany
    have hagainst := mt (heffect rule.effect).mpr
    simp only [reduceCtorEq, ne_eq, false_iff, not_and, not_forall]
    exact fun _ => ⟨rule, hrule, fun hallow => hagainst (fun h => h (of_decide_eq_true hdeny)) hallow⟩
  · rename_i hnone
    simp only [true_iff]
    refine ⟨hnil, fun rule hrule => (heffect rule.effect).mp fun hdeny => hnone ?_⟩
    exact List.any_eq_true.mpr ⟨rule, hrule, decide_eq_true hdeny⟩

theorem configuredEffect_deny {rules : List ConsoleRule} {t : RuleTarget} {clock : Int}
    (h : configuredEffect rules t clock = .DENY) :
    ∃ rule ∈ (exactRules rules t).filter (fun r => isRuleActive r clock), rule.effect ≠ .ALLOW := by
  simp only [configuredEffect] at h
  split at h
  · cases h
  split at h
  · rename_i hany
    obtain ⟨rule, hrule, hdeny⟩ := List.any_eq_true.mp hany
    refine ⟨rule, hrule, ?_⟩
    rcases of_decide_eq_true hdeny with heq | heq <;> simp [heq]
  · cases h

/-- The best candidates are the exact rules in force, when there is one. -/
theorem mem_best (hfenced : EpochFence.Fenced around) (hplain : ∀ rule ∈ around.rules, Plain rule)
    (hknown : Known around target) {exact_ : AclRule} (hmem : exact_ ∈ around.rules)
    (hexact : Exact target exact_) (hforce : InForce exact_ now) {item : Candidate}
    (h : item ∈ best (candidatesOf around target.request now target.subject.principal)) :
    item.rule ∈ around.rules ∧ Exact target item.rule ∧ InForce item.rule now := by
  rw [best_eq_top] at h
  obtain ⟨hitem, hmax⟩ := mem_top.mp h
  have habove := hmax _ (exact_candidate hknown hmem hexact hforce)
  obtain ⟨hresource, hscope⟩ := candidate_bound hitem
  rw [scorePair, scorePair, Prod.Lex.toLex_le_toLex] at habove
  have hscores : item.resourceScore = 30 ∧ item.subjectScopeScore = exactScore target := by
    rcases habove with hlt | ⟨heq, hle⟩
    · exact absurd hlt (not_lt.mpr hresource)
    · exact ⟨heq.symm, le_antisymm hscope hle⟩
  obtain ⟨hrule, -, hinForce, -⟩ := candidate_inForce hitem
  exact ⟨hrule, best_exact hfenced hplain hknown hmem hexact hitem hscores.1 hscores.2, hinForce⟩

/-- In every state that the directory and the policy service can be in, what the console
shows as the effect for a plugin in a group, or for a member there, is what the back end
decides: a plugin shown as allowed is allowed unless its account is disabled, and one shown
as denied is not. This needs that no locked rule blocks the target, and a millisecond
without a bound of a rule inside it. -/
theorem configured_agrees (workspaceExists : UUID → Bool) {start : Surroundings}
    {actions : List MembershipEpochs.Action} (hmemberships : start.memberships = [])
    (hrules : start.rules = [])
    (hrun : run (MembershipEpochs.step workspaceExists) start actions = some around)
    (hknown : Known around target) {clock : Int}
    (hclear : ∀ rule ∈ around.rules, ClearOf clock rule)
    (hopen : blockingLockedRule (listRules around) target.ruleTarget clock = none)
    {decision : AclDecisionView}
    (h : evaluate around target.request (clock * 1000) = .ok decision) :
    (configuredEffect (listRules around) target.ruleTarget clock = .ALLOW →
      (∀ account, around.botAccount target.botAccountId = some account →
        account.status ≠ .DISABLED) → decision.effect = .ALLOW) ∧
    (configuredEffect (listRules around) target.ruleTarget clock = .DENY →
      decision.effect ≠ .ALLOW) := by
  have hfenced := (EpochFence.run_changes hrun).fenced
    (EpochFence.Fenced.initial hmemberships hrules)
  have hplain : ∀ rule ∈ around.rules, Plain rule :=
    run_invariant (fun s => ∀ rule ∈ s.rules, Plain rule) (fun _ _ _ hs hstep => step_plain hstep hs)
      (by rw [hrules]; simp) hrun
  have hunlocked := no_lockedCandidate hplain hknown hclear hopen
  have hfilter : (candidatesOf around target.request (clock * 1000)
      target.subject.principal).filter (·.rule.locked) = [] := by
    rw [List.filter_eq_nil_iff]
    exact fun item hitem hlocked => hunlocked ⟨item, hitem, hlocked⟩
  constructor
  · intro hallow haccount
    rcases evaluate_known hknown h with ⟨-, account, hstored, hdisabled⟩ | rfl
    · exact absurd hdisabled (haccount account hstored)
    obtain ⟨hne, hall⟩ := configuredEffect_allow.mp hallow
    obtain ⟨first, hfirst⟩ := List.exists_mem_of_ne_nil _ hne
    obtain ⟨row, hrow, hexact, hforce, -⟩ := (mem_active hclear).mp hfirst
    have hcandidate := exact_candidate hknown hrow hexact hforce
    rw [decideCandidates_effect, if_neg, verdict, foldl_strictest_allow]
    · refine ⟨rfl, fun effect heffect => ?_⟩
      obtain ⟨item, hitem, rfl⟩ := List.mem_map.mp heffect
      obtain ⟨hrule, hitemExact, hitemForce⟩ :=
        mem_best hfenced hplain hknown hrow hexact hforce hitem
      exact hall (view item.rule)
        ((mem_active hclear).mpr ⟨item.rule, hrule, hitemExact, hitemForce, rfl⟩)
    · rintro (hlocked | hnil)
      · exact hlocked hfilter
      · exact absurd hcandidate (hnil ▸ List.not_mem_nil)
  · intro hdeny hallowed
    obtain ⟨shown, hshown, heffect⟩ := configuredEffect_deny hdeny
    obtain ⟨row, hrow, hexact, hforce, rfl⟩ := (mem_active hclear).mp hshown
    have hbest := exact_best hknown hrow hexact hforce
    rcases evaluate_known hknown h with ⟨hdenied, -⟩ | rfl
    · rw [hdenied] at hallowed
      cases hallowed
    rw [decideCandidates_effect] at hallowed
    split at hallowed
    · cases hallowed
    rw [verdict, foldl_strictest_allow] at hallowed
    exact heffect (hallowed.2 _ (List.mem_map.mpr ⟨_, hbest, rfl⟩))

theorem known_granted : Known grantedRoom sampleMember := by
  constructor
  · rfl
  · intro principal epoch h
    cases h
    exact ⟨rfl, by decide +kernel⟩

theorem evaluates_granted :
    ∃ decision, evaluate grantedRoom sampleMember.request (1 * 1000) = .ok decision :=
  ⟨_, rfl⟩

theorem configured_agrees_granted :
    ∃ decision, evaluate grantedRoom sampleMember.request (1 * 1000) = .ok decision ∧
      decision.effect = .ALLOW := by
  obtain ⟨decision, hdecision⟩ := evaluates_granted
  refine ⟨decision, hdecision, ?_⟩
  refine (configured_agrees (fun _ => true) rfl rfl (Option.some_get grants_isSome).symm
    known_granted ?_ ?_ hdecision).1 ?_ ?_
  · have hearly : ∀ rule ∈ grantedRoom.rules, rule.validFrom = 0 ∧ rule.validUntil = none := by
      decide +kernel
    intro rule hrule bound hbound
    obtain ⟨hfrom, huntil⟩ := hearly rule hrule
    rw [hfrom, huntil] at hbound
    rcases hbound with rfl | hbound
    · left
      decide
    · cases hbound
  · decide +kernel
  · decide +kernel
  · intro account haccount
    have : grantedRoom.botAccount 1 = some SenderSystem.sampleAccount := by decide +kernel
    cases this.symm.trans haccount
    decide

end WechatBot.ShownPermissions
