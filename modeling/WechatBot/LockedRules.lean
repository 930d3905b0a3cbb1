import WechatBot.PolicyMonotone

/-!
# Locked rules in the console

The console looks for a locked denial on its own: `blockingLockedRule` of the front end
repeats the selection of `PolicyService.evaluate` on the rules that the API lists. Its
clock and the times it parses are milliseconds, those of the rules are microseconds.
-/
namespace WechatBot.LockedRules

open PyData Records Policy MembershipEpochs PolicyMonotone

/-- The interface `AclRule` of the console. -/
structure ConsoleRule where
  id : Str
  workspaceId : Str
  principalId : Option Str
  scopeType : AclScopeType
  scopeId : Str
  resourceType : AclResourceType
  resourceId : Str
  effect : AclEffect
  locked : Bool
  membershipEpoch : Option Nat
  validFrom : Time
  validUntil : Option Time
  revokedAt : Option Time
  deriving DecidableEq, Repr

structure RuleTarget where
  workspaceId : Str
  groupId : Str
  botAccountId : Str
  resourceId : Str
  principalId : Option Str
  membershipEpoch : Option Nat
  deriving DecidableEq, Repr

/-- `Date.parse` of the text of a time drops its digits below a millisecond. -/
def dateParse (t : Time) : Int := t / 1000

def exactRules (rules : List ConsoleRule) (target : RuleTarget) : List ConsoleRule :=
  rules.filter fun rule =>
    rule.revokedAt.isNone &&
      decide (rule.workspaceId = target.workspaceId) &&
      decide (rule.principalId = target.principalId) &&
      decide (rule.membershipEpoch = target.membershipEpoch) &&
      decide (rule.scopeType = .CHATROOM) &&
      decide (rule.scopeId = target.groupId) &&
      decide (rule.resourceType = .PLUGIN) &&
      decide (rule.resourceId = target.resourceId)

def isRuleActive (rule : ConsoleRule) (now : Int) : Bool :=
  if rule.revokedAt.isSome then false
  else
    decide (dateParse rule.validFrom ≤ now) &&
      rule.validUntil.all fun until_ => decide (now < dateParse until_)

/-- A locked denial in force. -/
def lockedDenial (rule : ConsoleRule) (now : Int) : Bool :=
  rule.locked && decide (rule.effect = .DENY) && isRuleActive rule now

def resourceMatches (rule : ConsoleRule) (target : RuleTarget) : Bool :=
  (decide (rule.resourceType = .PLUGIN) && decide (rule.resourceId = target.resourceId)) ||
    (decide (rule.resourceType = .CATEGORY) && decide (rule.resourceId = py "*"))

def scopeMatches (rule : ConsoleRule) (target : RuleTarget) : Bool :=
  (decide (rule.scopeType = .WORKSPACE) && decide (rule.scopeId = target.workspaceId)) ||
    (decide (rule.scopeType = .BOT_ACCOUNT) && decide (rule.scopeId = target.botAccountId)) ||
    (decide (rule.scopeType = .CHATROOM) && decide (rule.scopeId = target.groupId))

/-- The body of the second search of `blockingLockedRule`. -/
def blocks (target : RuleTarget) (now : Int) (rule : ConsoleRule) : Bool :=
  if lockedDenial rule now = false then false
  else if rule.workspaceId ≠ target.workspaceId then false
  else if rule.principalId ≠ none ∧ rule.principalId ≠ target.principalId then false
  else if rule.principalId ≠ none ∧
      (target.membershipEpoch = none ∨ rule.membershipEpoch ≠ target.membershipEpoch) then false
  else if resourceMatches rule target = false then false
  else scopeMatches rule target

def blockingLockedRule (rules : List ConsoleRule) (target : RuleTarget) (now : Int) :
    Option ConsoleRule :=
  match (exactRules rules target).find? fun rule => lockedDenial rule now with
  | some exactLocked => some exactLocked
  | none => rules.find? (blocks target now)

/-- The search for an exact rule only finds what the second one finds too. -/
theorem blocks_exact {rules : List ConsoleRule} {target : RuleTarget} {now : Int}
    {rule : ConsoleRule} (hepoch : target.principalId ≠ none → target.membershipEpoch ≠ none)
    (h : rule ∈ exactRules rules target) (hlocked : lockedDenial rule now = true) :
    rule ∈ rules ∧ blocks target now rule = true := by
  obtain ⟨hmem, hexact⟩ := List.mem_filter.mp h
  simp only [Bool.and_eq_true, decide_eq_true_eq] at hexact
  obtain ⟨⟨⟨⟨⟨⟨⟨-, hworkspace⟩, hprincipal⟩, hmember⟩, hscopeType⟩, hscope⟩, htype⟩, hid⟩ := hexact
  have hbound : rule.principalId ≠ none → target.membershipEpoch ≠ none := by
    intro hne
    exact hepoch (hprincipal ▸ hne)
  refine ⟨hmem, ?_⟩
  simp only [blocks, hlocked, hworkspace, hmember, resourceMatches, scopeMatches, hscopeType, hscope,
    htype, hid]
  simp only [ne_eq, hprincipal, not_true_eq_false, or_false, and_false, if_false, Bool.true_eq_false,
    decide_true, Bool.and_self, Bool.or_true, Bool.true_or]
  rw [if_neg]
  rintro ⟨hne, hnone⟩
  exact hbound (hprincipal ▸ hne) hnone

/-- The console is blocked exactly when one of the rules blocks. -/
theorem blockingLockedRule_isSome {rules : List ConsoleRule} {target : RuleTarget} {now : Int}
    (hepoch : target.principalId ≠ none → target.membershipEpoch ≠ none) :
    (blockingLockedRule rules target now).isSome = true ↔
      ∃ rule ∈ rules, blocks target now rule = true := by
  unfold blockingLockedRule
  cases hexact : (exactRules rules target).find? fun rule => lockedDenial rule now with
  | none => exact List.find?_isSome
  | some rule =>
    have hfound := blocks_exact hepoch (List.mem_of_find?_eq_some hexact)
      (List.find?_eq_some_iff_append.mp hexact).1
    exact iff_of_true rfl ⟨rule, hfound⟩

/-- `AclRuleView`, as the console receives it. -/
def view (rule : AclRule) : ConsoleRule where
  id := uuidStr rule.id
  workspaceId := uuidStr rule.workspaceId
  principalId := rule.principalId.map uuidStr
  scopeType := rule.scopeType
  scopeId := rule.scopeId
  resourceType := rule.resourceType
  resourceId := rule.resourceId
  effect := rule.effect
  locked := rule.locked
  membershipEpoch := rule.membershipEpoch
  validFrom := rule.validFrom
  validUntil := rule.validUntil
  revokedAt := rule.revokedAt

/-- Whom a permission of a group is for: the whole group or one member, with its principal
once it has one. -/
inductive Subject where
  | group
  | member (principal : Option Principal) (membershipEpoch : Nat)

def Subject.principal : Subject → Option Principal
  | .group => none
  | .member principal _ => principal

def Subject.membershipEpoch : Subject → Option Nat
  | .group => none
  | .member _ epoch => some epoch

/-- A plugin in a group, for one subject. -/
structure GroupTarget where
  workspaceId : UUID
  botAccountId : UUID
  groupId : UUID
  resourceId : Str
  subject : Subject

/-- The target that the console searches for. -/
def GroupTarget.ruleTarget (target : GroupTarget) : RuleTarget where
  workspaceId := uuidStr target.workspaceId
  groupId := uuidStr target.groupId
  botAccountId := uuidStr target.botAccountId
  resourceId := target.resourceId
  principalId := target.subject.principal.map fun principal => uuidStr principal.id
  membershipEpoch := target.subject.membershipEpoch

/-- The request that the back end evaluates. -/
def GroupTarget.request (target : GroupTarget) : AclEvaluationRequest where
  workspaceId := target.workspaceId
  botAccountId := target.botAccountId
  actorPrincipalId := target.subject.principal.map (·.id)
  chatroomId := some target.groupId
  contactId := none
  resourceType := .PLUGIN
  resourceId := target.resourceId
  parentPluginId := none

/-- The back end knows the subject: its principal is one that can make requests, and is a
group member in the epoch that the console was told. -/
structure Known (around : Surroundings) (target : GroupTarget) : Prop where
  active : activeRequestPrincipal around target.request = .ok target.subject.principal
  current : ∀ principal epoch, target.subject = .member (some principal) epoch →
    principal.principalType = .GROUP_MEMBER ∧
      currentMembershipEpoch around target.request (some principal) = some epoch

/-- A candidate of the request whose rule is locked. -/
def LockedCandidate (around : Surroundings) (target : GroupTarget) (now : Time) : Prop :=
  ∃ item ∈ candidatesOf around target.request now target.subject.principal,
    item.rule.locked = true

instance (around : Surroundings) (target : GroupTarget) (now : Time) :
    Decidable (LockedCandidate around target now) :=
  inferInstanceAs (Decidable (∃ item ∈ _, _))

/-- A rule that is in force at a time. -/
def InForce (rule : AclRule) (now : Time) : Prop :=
  rule.revokedAt = none ∧ rule.validFrom ≤ now ∧ ∀ until_ ∈ rule.validUntil, now < until_

/-- A rule about the plugin, wherever the group is in its scope. -/
def Covers (rule : AclRule) (target : GroupTarget) : Prop :=
  (rule.resourceType = .PLUGIN ∧ rule.resourceId = target.resourceId ∨
    rule.resourceType = .CATEGORY ∧ rule.resourceId = py "*") ∧
  (rule.scopeType = .WORKSPACE ∧ rule.scopeId = uuidStr target.workspaceId ∨
    rule.scopeType = .BOT_ACCOUNT ∧ rule.scopeId = uuidStr target.botAccountId ∨
    rule.scopeType = .CHATROOM ∧ rule.scopeId = uuidStr target.groupId)

/-- A rule about everybody or about the subject in its epoch. -/
def Concerns (rule : AclRule) (subject : Subject) : Prop :=
  ∀ id ∈ rule.principalId, ∃ principal epoch, subject = .member (some principal) epoch ∧
    id = principal.id ∧ rule.membershipEpoch = some epoch

/-- A locked rule about the target. -/
def Locks (rule : AclRule) (target : GroupTarget) : Prop :=
  rule.locked = true ∧ rule.workspaceId = target.workspaceId ∧ Concerns rule target.subject ∧
    Covers rule target

/-- A rule scores when it names the plugin, or every category. -/
theorem resourceScore_ne_zero {rule : AclRule} {target : GroupTarget} :
    resourceScore rule target.request ≠ 0 ↔
      rule.resourceType = .PLUGIN ∧ rule.resourceId = target.resourceId ∨
        rule.resourceType = .CATEGORY ∧ rule.resourceId = py "*" := by
  simp only [resourceScore, GroupTarget.request, reduceCtorEq, and_false, if_false]
  by_cases hplugin : rule.resourceType = .PLUGIN ∧ rule.resourceId = target.resourceId
  · simp [hplugin]
  · by_cases hcategory : rule.resourceType = .CATEGORY ∧ rule.resourceId = py "*"
    · simp [hcategory]
    · simp [hplugin, hcategory]

/-- A rule scores when its scope contains the group. -/
theorem scopeScore_ne_zero {rule : AclRule} {target : GroupTarget} :
    scopeScore rule target.request ≠ 0 ↔
      rule.scopeType = .WORKSPACE ∧ rule.scopeId = uuidStr target.workspaceId ∨
        rule.scopeType = .BOT_ACCOUNT ∧ rule.scopeId = uuidStr target.botAccountId ∨
        rule.scopeType = .CHATROOM ∧ rule.scopeId = uuidStr target.groupId := by
  cases hscope : rule.scopeType <;>
    simp [scopeScore, GroupTarget.request, hscope, eq_comm]

/-- For a known member the server's test of the principal is the one of the rows. -/
theorem concernsPrincipal_known {around : Surroundings} {target : GroupTarget} {rule : AclRule}
    (hknown : Known around target) :
    concernsPrincipal rule target.subject.principal
        (currentMembershipEpoch around target.request target.subject.principal) = true ↔
      Concerns rule target.subject := by
  unfold concernsPrincipal Concerns
  cases hbound : rule.principalId with
  | none => simp
  | some id =>
    cases hsubject : target.subject with
    | group => simp [Subject.principal]
    | member principal epoch =>
      cases principal with
      | none => simp [Subject.principal]
      | some principal =>
        obtain ⟨htype, hepoch⟩ := hknown.current principal epoch hsubject
        simp [Subject.principal, htype, hepoch]

/-- A rule of the workspace is a locked candidate exactly when it locks the target. -/
theorem candidateOf_locked {around : Surroundings} {target : GroupTarget} {rule : AclRule}
    (hknown : Known around target) (hworkspace : rule.workspaceId = target.workspaceId) :
    (∃ item, candidateOf target.request target.subject.principal
        (currentMembershipEpoch around target.request target.subject.principal) rule = some item ∧
        item.rule.locked = true) ↔ Locks rule target := by
  unfold Locks Covers
  rw [← concernsPrincipal_known hknown, ← resourceScore_ne_zero, ← scopeScore_ne_zero]
  constructor
  · rintro ⟨item, hitem, hlocked⟩
    rw [candidateOf_rule hitem] at hlocked
    unfold candidateOf at hitem
    split at hitem
    · cases hitem
    · rename_i hconcerns
      simp only at hitem
      split at hitem
      · cases hitem
      · rename_i hscores
        rw [not_or] at hscores
        exact ⟨hlocked, hworkspace, by simpa using hconcerns, hscores⟩
  · rintro ⟨hlocked, -, hconcerns, hresource, hscope⟩
    unfold candidateOf
    rw [if_neg (by simp [hconcerns])]
    simp only [hresource, hscope, or_self, if_false, Option.some.injEq, exists_eq_left', hlocked]

/-- The server finds a locked candidate exactly when a rule in force locks the target. -/
theorem lockedCandidate_iff {around : Surroundings} {target : GroupTarget} {now : Time}
    (hknown : Known around target) :
    LockedCandidate around target now ↔
      ∃ rule ∈ around.rules, InForce rule now ∧ Locks rule target := by
  unfold LockedCandidate candidatesOf candidates
  constructor
  · rintro ⟨item, hitem, hlocked⟩
    obtain ⟨rule, hrule, hcandidate⟩ := List.mem_filterMap.mp hitem
    obtain ⟨hmem, heffective⟩ := List.mem_filter.mp hrule
    simp only [Bool.and_eq_true, decide_eq_true_eq, Option.isNone_iff_eq_none] at heffective
    obtain ⟨⟨⟨⟨hworkspace, hrevoked⟩, hfrom⟩, huntil⟩, -⟩ := heffective
    refine ⟨rule, hmem, ⟨hrevoked, hfrom, ?_⟩,
      (candidateOf_locked hknown hworkspace).mp ⟨item, hcandidate, hlocked⟩⟩
    intro until_ hmem
    rw [hmem] at huntil
    simpa using huntil
  · rintro ⟨rule, hmem, ⟨hrevoked, hfrom, huntil⟩, hlocks⟩
    obtain ⟨item, hcandidate, hlocked⟩ :=
      (candidateOf_locked hknown hlocks.2.1).mpr hlocks
    refine ⟨item, List.mem_filterMap.mpr ⟨rule, ?_, hcandidate⟩, hlocked⟩
    have hperiod : rule.validUntil.all (fun until_ => decide (now < until_)) = true := by
      cases hvalid : rule.validUntil with
      | none => rfl
      | some until_ => simpa using huntil until_ hvalid
    -- the query only keeps rules of the acting principal, as the candidates do
    have hactor : rule.principalId = none ∨ rule.principalId = target.request.actorPrincipalId := by
      cases hbound : rule.principalId with
      | none => exact .inl rfl
      | some id =>
        obtain ⟨principal, epoch, hsubject, rfl, -⟩ := hlocks.2.2.1 id hbound
        right
        simp [GroupTarget.request, hsubject, Subject.principal]
    refine List.mem_filter.mpr ⟨hmem, ?_⟩
    simp only [hrevoked, hfrom, hperiod, hactor, Option.isNone_none, decide_true, Bool.and_true]
    exact decide_eq_true hlocks.2.1

@[simp] theorem uuidStr_eq {u v : UUID} : uuidStr u = uuidStr v ↔ u = v :=
  ⟨uuidStr_inj, congrArg uuidStr⟩

/-- A rule with its bounds cut to milliseconds. -/
def cutToMillis (rule : AclRule) : AclRule :=
  { rule with
    validFrom := dateParse rule.validFrom * 1000
    validUntil := rule.validUntil.map fun until_ => dateParse until_ * 1000 }

theorem isRuleActive_view {rule : AclRule} {now : Int} :
    isRuleActive (view rule) now = true ↔ InForce (cutToMillis rule) (now * 1000) := by
  cases hrevoked : rule.revokedAt with
  | some t => simp [isRuleActive, view, InForce, cutToMillis, hrevoked]
  | none =>
    cases hvalid : rule.validUntil with
    | none => simp [isRuleActive, view, InForce, cutToMillis, hrevoked, hvalid]
    | some until_ => simp [isRuleActive, view, InForce, cutToMillis, hrevoked, hvalid]

theorem principal_view {rule : AclRule} {target : GroupTarget} :
    ¬ ((view rule).principalId ≠ none ∧
        (view rule).principalId ≠ target.ruleTarget.principalId) ∧
      ¬ ((view rule).principalId ≠ none ∧ (target.ruleTarget.membershipEpoch = none ∨
        (view rule).membershipEpoch ≠ target.ruleTarget.membershipEpoch)) ↔
      Concerns rule target.subject := by
  unfold Concerns view GroupTarget.ruleTarget
  cases hbound : rule.principalId with
  | none => simp
  | some id =>
    cases hsubject : target.subject with
    | group => simp [Subject.principal]
    | member principal epoch =>
      cases principal with
      | none => simp [Subject.principal]
      | some principal => simp [Subject.principal, Subject.membershipEpoch]

/-- A rule blocks the console exactly when, cut to milliseconds, it is in force and locks the
target. -/
theorem blocks_view {rule : AclRule} {target : GroupTarget} {now : Int}
    (hadmitted : Admitted rule) :
    blocks target.ruleTarget now (view rule) = true ↔
      InForce (cutToMillis rule) (now * 1000) ∧ Locks rule target := by
  have hcovers : resourceMatches (view rule) target.ruleTarget = true ∧
      scopeMatches (view rule) target.ruleTarget = true ↔ Covers rule target := by
    simp only [resourceMatches, scopeMatches, Bool.or_eq_true, Bool.and_eq_true, decide_eq_true_eq,
      or_assoc]
    exact Iff.rfl
  have hlocked : lockedDenial (view rule) now = true ↔
      rule.locked = true ∧ InForce (cutToMillis rule) (now * 1000) := by
    simp only [lockedDenial, Bool.and_eq_true, decide_eq_true_eq, isRuleActive_view]
    exact ⟨fun h => ⟨h.1.1, h.2⟩, fun h => ⟨⟨h.1, hadmitted h.1⟩, h.2⟩⟩
  have hworkspace : (view rule).workspaceId = target.ruleTarget.workspaceId ↔
      rule.workspaceId = target.workspaceId := uuidStr_eq
  unfold Locks
  rw [← hcovers, ← principal_view, ← hworkspace]
  unfold blocks
  grind

/-- No bound of the rule is inside the millisecond. -/
def ClearOf (now : Int) (rule : AclRule) : Prop :=
  ∀ bound : Int, bound = rule.validFrom ∨ rule.validUntil = some bound →
    bound ≤ now * 1000 ∨ now * 1000 + 1000 ≤ bound

theorem cut_le {t now : Int} (h : t ≤ now * 1000 ∨ now * 1000 + 1000 ≤ t) :
    dateParse t * 1000 ≤ now * 1000 ↔ t ≤ now * 1000 := by
  unfold dateParse
  omega

theorem lt_cut {t now : Int} (h : t ≤ now * 1000 ∨ now * 1000 + 1000 ≤ t) :
    now * 1000 < dateParse t * 1000 ↔ now * 1000 < t := by
  unfold dateParse
  omega

/-- Where no bound falls inside the millisecond the cut changes nothing. -/
theorem inForce_cut {rule : AclRule} {now : Int} (hclear : ClearOf now rule) :
    InForce (cutToMillis rule) (now * 1000) ↔ InForce rule (now * 1000) := by
  have hfrom := cut_le (hclear rule.validFrom (.inl rfl))
  unfold InForce cutToMillis
  simp only [hfrom]
  cases hvalid : rule.validUntil with
  | none => simp
  | some until_ =>
    have huntil := lt_cut (hclear until_ (.inr hvalid))
    simp only [Option.map_some, Option.mem_def, Option.some.injEq, forall_eq', huntil]

theorem Known.withRules {around : Surroundings} {target : GroupTarget} {rules : List AclRule}
    {version : UUID → Option Nat} (h : Known around target) :
    Known (withRules around rules version) target :=
  ⟨h.active, h.current⟩

/-- The cut rules have the same locked candidates. -/
theorem lockedCandidate_cut {around : Surroundings} {target : GroupTarget} {now : Int}
    (hknown : Known around target) (hclear : ∀ rule ∈ around.rules, ClearOf now rule) :
    LockedCandidate (withRules around (around.rules.map cutToMillis) around.policyVersion) target
        (now * 1000) ↔
      LockedCandidate around target (now * 1000) := by
  rw [lockedCandidate_iff hknown.withRules, lockedCandidate_iff hknown]
  constructor
  · rintro ⟨_, hmem, hforce, hlocks⟩
    obtain ⟨rule, hrule, rfl⟩ := List.mem_map.mp hmem
    exact ⟨rule, hrule, (inForce_cut (hclear rule hrule)).mp hforce, hlocks⟩
  · rintro ⟨rule, hrule, hforce, hlocks⟩
    exact ⟨_, List.mem_map_of_mem hrule, (inForce_cut (hclear rule hrule)).mpr hforce, hlocks⟩

/-- The console finds what the server finds for the cut rules. -/
theorem blockingLockedRule_view {around : Surroundings} {target : GroupTarget} {now : Int}
    (hadmitted : ∀ rule ∈ around.rules, Admitted rule) (hknown : Known around target) :
    (blockingLockedRule (around.rules.map view) target.ruleTarget now).isSome = true ↔
      LockedCandidate (withRules around (around.rules.map cutToMillis) around.policyVersion) target
        (now * 1000) := by
  have hepoch : target.ruleTarget.principalId ≠ none → target.ruleTarget.membershipEpoch ≠ none := by
    cases hsubject : target.subject <;>
      simp [GroupTarget.ruleTarget, hsubject, Subject.principal, Subject.membershipEpoch]
  rw [blockingLockedRule_isSome hepoch, lockedCandidate_iff hknown.withRules]
  constructor
  · rintro ⟨_, hmem, hblocks⟩
    obtain ⟨rule, hrule, rfl⟩ := List.mem_map.mp hmem
    obtain ⟨hforce, hlocks⟩ := (blocks_view (hadmitted rule hrule)).mp hblocks
    exact ⟨_, List.mem_map_of_mem hrule, hforce, hlocks⟩
  · rintro ⟨_, hmem, hforce, hlocks⟩
    obtain ⟨rule, hrule, rfl⟩ := List.mem_map.mp hmem
    exact ⟨_, List.mem_map_of_mem hrule, (blocks_view (hadmitted rule hrule)).mpr ⟨hforce, hlocks⟩⟩

/-- A locked candidate ends the evaluation with a denial. -/
theorem evaluate_locked {around : Surroundings} {target : GroupTarget} {now : Time}
    {decision : AclDecisionView} (hknown : Known around target)
    (hlocked : LockedCandidate around target now)
    (h : evaluate around target.request now = .ok decision) : decision.effect = .DENY := by
  have hdenied : (decideCandidates (candidatesOf around target.request now target.subject.principal)
      ((around.policyVersion target.workspaceId).getD 0)).effect = .DENY := by
    rw [decideCandidates_effect, if_pos]
    obtain ⟨item, hitem, hitemLocked⟩ := hlocked
    exact .inl (List.ne_nil_of_mem (List.mem_filter.mpr ⟨hitem, hitemLocked⟩))
  unfold evaluate at h
  split at h
  · cases h
  · split at h
    · cases h
      rfl
    · rw [hknown.active] at h
      cases h
      exact hdenied

/-- The console finds a locked denial exactly when the request has a locked candidate under
the rules with their bounds cut to milliseconds. These are the candidates themselves in
every millisecond that has no bound inside it. -/
theorem locked_denials_agree {around : Surroundings} {target : GroupTarget}
    (hadmitted : ∀ rule ∈ around.rules, Admitted rule) (hknown : Known around target) (now : Int) :
    ((blockingLockedRule (around.rules.map view) target.ruleTarget now).isSome = true ↔
      LockedCandidate (withRules around (around.rules.map cutToMillis) around.policyVersion) target
        (now * 1000)) ∧
    ((∀ rule ∈ around.rules, ClearOf now rule) →
      ((blockingLockedRule (around.rules.map view) target.ruleTarget now).isSome = true ↔
        LockedCandidate around target (now * 1000))) := by
  have hcut := @blockingLockedRule_view around target now hadmitted hknown
  refine ⟨hcut, ?_⟩
  intro hclear
  exact hcut.trans (lockedCandidate_cut hknown hclear)

theorem sampleScope_length : 1 ≤ (uuidStr 1).length ∧ (uuidStr 1).length ≤ 255 := by
  simp [length_uuidStr]

theorem sampleEpoch_positive (epoch : Nat) (h : (none : Option Nat) = some epoch) : 1 ≤ epoch := by
  cases h

/-- A locked denial of a plugin that begins one and a half milliseconds after time zero. -/
def samplePayload : AclRuleCreate where
  workspaceId := 1
  principalId := none
  scopeType := .WORKSPACE
  scopeId := uuidStr 1
  resourceType := .PLUGIN
  resourceId := py "p"
  effect := .DENY
  locked := true
  membershipEpoch := none
  validFrom := some 1500
  validUntil := none
  lockedDenies := fun _ => rfl
  period := fun _ _ _ h => nomatch h
  category := fun h => nomatch h
  scopeIdLength := sampleScope_length
  resourceIdLength := by decide
  epochPositive := sampleEpoch_positive

/-- The surroundings that `create_rule` leaves. -/
def sampleLocked : Surroundings :=
  incrementVersion { SenderSystem.sampleSurroundings with
    rules := SenderSystem.sampleSurroundings.rules ++ [newRule samplePayload none 2 0] } 1

def sampleMember : GroupTarget :=
  ⟨1, 1, 1, py "p", .member (some ⟨1, 1, .GROUP_MEMBER, py "wxid", true⟩) 1⟩

theorem known_sample : Known sampleLocked sampleMember := by
  constructor
  · rfl
  · intro principal epoch h
    cases h
    exact ⟨rfl, by decide +kernel⟩

/-- The console locks the plugin half a millisecond before the back end does. -/
theorem bound_inside_millisecond :
    createRule (fun _ => true) SenderSystem.sampleSurroundings samplePayload 2 0 =
        .ok sampleLocked ∧
      (∀ rule ∈ sampleLocked.rules, Admitted rule) ∧ Known sampleLocked sampleMember ∧
      (blockingLockedRule (sampleLocked.rules.map view) sampleMember.ruleTarget 1).isSome = true ∧
      ¬ LockedCandidate sampleLocked sampleMember (1 * 1000) := by
  refine ⟨rfl, ?_, known_sample, ?_, ?_⟩
  · decide +kernel
  · decide +kernel
  · decide +kernel

theorem locked_denials_agree_sample :
    (blockingLockedRule (sampleLocked.rules.map view) sampleMember.ruleTarget 2).isSome = true ∧
      LockedCandidate sampleLocked sampleMember (2 * 1000) := by
  have hadmitted : ∀ rule ∈ sampleLocked.rules, Admitted rule := by decide +kernel
  have hclear : ∀ rule ∈ sampleLocked.rules, ClearOf 2 rule := by
    intro rule hrule bound hbound
    have hcases : rule = newRule samplePayload none 2 0 ∨ rule.validFrom = 0 ∧
        rule.validUntil = none := by
      clear hbound
      revert rule
      decide +kernel
    rcases hcases with rfl | ⟨hfrom, huntil⟩
    · rcases hbound with rfl | hbound
      · left
        decide
      · cases hbound
    · rw [hfrom, huntil] at hbound
      rcases hbound with rfl | hbound
      · left
        decide
      · cases hbound
  have hlocked : (blockingLockedRule (sampleLocked.rules.map view) sampleMember.ruleTarget
      2).isSome = true := by
    decide +kernel
  exact ⟨hlocked, ((locked_denials_agree hadmitted known_sample 2).2 hclear).mp hlocked⟩

end WechatBot.LockedRules
