import WechatBot.Records

/-!
# Policy evaluation

`PolicyService.evaluate` over the committed rows it reads: the account, the acting
principal with its membership epoch, and the rules of the workspace.
-/
namespace WechatBot.Policy

open PyData Records

/-- The committed rows outside the outbox, by primary key; the rules and memberships are
queried by other columns. `decrypt` is the credential cipher. -/
structure Surroundings where
  botAccount : UUID → Option BotAccount
  geweConnection : UUID → Option GeweConnection
  chatroom : UUID → Option Chatroom
  contact : UUID → Option Contact
  memberships : List ChatroomMembership
  principal : UUID → Option Principal
  policyVersion : UUID → Option Nat
  rules : List AclRule
  deployment : UUID → Option PluginDeployment
  revision : UUID → Option PluginDeploymentRevision
  decrypt : Str → Option Str

structure AclEvaluationRequest where
  workspaceId : UUID
  botAccountId : UUID
  actorPrincipalId : Option UUID
  chatroomId : Option UUID
  contactId : Option UUID
  resourceType : AclResourceType
  resourceId : Str
  parentPluginId : Option Str
  deriving DecidableEq, Repr

structure AclDecisionView where
  effect : AclEffect
  allowed : Bool
  reason : String
  policyVersion : Nat
  matchedRuleIds : List UUID
  deriving DecidableEq, Repr

inductive PolicyError where
  | PolicyObjectNotFoundError (detail : String)
  | InvalidPolicyRuleError (detail : String)
  deriving DecidableEq, Repr

structure Candidate where
  rule : AclRule
  resourceScore : Nat
  subjectScopeScore : Nat
  deriving DecidableEq, Repr

/-- The workspace an account belongs to, through its connection. -/
def Surroundings.workspaceOf (around : Surroundings) (accountId : UUID) : Option UUID := do
  let account ← around.botAccount accountId
  let connection ← around.geweConnection account.geweConnectionId
  return connection.workspaceId

def accountInWorkspace (around : Surroundings) (accountId workspaceId : UUID) :
    Option BotAccount :=
  if around.workspaceOf accountId = some workspaceId then around.botAccount accountId else none

def activeRequestPrincipal (around : Surroundings) (request : AclEvaluationRequest) :
    Except PolicyError (Option Principal) :=
  match request.actorPrincipalId with
  | none => .ok none
  | some id =>
    match around.principal id with
    | none => .error (.InvalidPolicyRuleError "request principal is missing or inactive")
    | some principal =>
      if principal.workspaceId ≠ request.workspaceId ∨ principal.active = false then
        .error (.InvalidPolicyRuleError "request principal is missing or inactive")
      else .ok (some principal)

/-- The memberships of the member in the chatroom that are not left. -/
def activeMemberships (around : Surroundings) (chatroomId : UUID) (memberWxid : Str) :
    List ChatroomMembership :=
  around.memberships.filter fun m =>
    decide (m.chatroomId = chatroomId) && decide (m.memberWxid = memberWxid) && m.leftAt.isNone

/-- The epoch of the latest membership of the acting group member that is not left. -/
def currentMembershipEpoch (around : Surroundings) (request : AclEvaluationRequest)
    (principal : Option Principal) : Option Nat :=
  match principal, request.chatroomId with
  | some principal, some chatroomId =>
    if principal.principalType = .GROUP_MEMBER then
      ((activeMemberships around chatroomId principal.externalId).map (·.membershipEpoch)).max?
    else none
  | _, _ => none

/-- The rules in force that may concern the acting principal. -/
def effectiveRules (around : Surroundings) (request : AclEvaluationRequest) (now : Time) :
    List AclRule :=
  around.rules.filter fun rule =>
    decide (rule.workspaceId = request.workspaceId) && rule.revokedAt.isNone &&
      decide (rule.validFrom ≤ now) && rule.validUntil.all (fun until_ => decide (now < until_)) &&
      decide (rule.principalId = none ∨ rule.principalId = request.actorPrincipalId)

def resourceScore (rule : AclRule) (request : AclEvaluationRequest) : Nat :=
  if rule.resourceType = request.resourceType ∧ rule.resourceId = request.resourceId then 30
  else if rule.resourceType = .PLUGIN ∧ some rule.resourceId = request.parentPluginId then 20
  else if rule.resourceType = .CATEGORY ∧ rule.resourceId = py "*" then 10
  else 0

def scopeScore (rule : AclRule) (request : AclEvaluationRequest) : Nat :=
  let expected : Option Str × Nat :=
    match rule.scopeType with
    | .WORKSPACE => (some (uuidStr request.workspaceId), 10)
    | .BOT_ACCOUNT => (some (uuidStr request.botAccountId), 20)
    | .CHATROOM => (request.chatroomId.map uuidStr, 30)
    | .CONTACT => (request.contactId.map uuidStr, 40)
  if expected.1 = some rule.scopeId then expected.2 else 0

/-- A rule bound to a principal concerns only it, and a group member only in the epoch
the rule was written for. -/
def concernsPrincipal (rule : AclRule) (principal : Option Principal)
    (membershipEpoch : Option Nat) : Bool :=
  match rule.principalId with
  | none => true
  | some id =>
    match principal with
    | none => false
    | some principal => decide (id = principal.id) &&
      (decide (principal.principalType ≠ .GROUP_MEMBER) ||
        (membershipEpoch.isSome && decide (rule.membershipEpoch = membershipEpoch)))

def candidateOf (request : AclEvaluationRequest) (principal : Option Principal)
    (membershipEpoch : Option Nat) (rule : AclRule) : Option Candidate :=
  if concernsPrincipal rule principal membershipEpoch = false then none
  else
    let resource := resourceScore rule request
    let scope := scopeScore rule request
    if resource = 0 ∨ scope = 0 then none
    else some ⟨rule, resource, if rule.principalId.isSome then 40 else scope⟩

def candidates (rules : List AclRule) (request : AclEvaluationRequest)
    (principal : Option Principal) (membershipEpoch : Option Nat) : List Candidate :=
  rules.filterMap (candidateOf request principal membershipEpoch)

/-- Comparison of the score pairs. -/
def scoreLe (a b : Candidate) : Bool :=
  decide (a.resourceScore < b.resourceScore ∨
    a.resourceScore = b.resourceScore ∧ a.subjectScopeScore ≤ b.subjectScopeScore)

/-- The candidates of the highest score. -/
def best (items : List Candidate) : List Candidate :=
  items.filter fun item => items.all fun other => scoreLe other item

def severity : AclEffect → Nat
  | .ALLOW => 1
  | .ASK => 2
  | .DENY => 3

def strictest (first second : AclEffect) : AclEffect :=
  if severity first < severity second then second else first

def effectValue : AclEffect → String
  | .ALLOW => "ALLOW"
  | .ASK => "ASK"
  | .DENY => "DENY"

def recordDecision (effect : AclEffect) (reason : String) (policyVersion : Nat)
    (matched : List AclRule) : AclDecisionView :=
  ⟨effect, decide (effect = .ALLOW), reason, policyVersion, matched.map (·.id)⟩

/-- The decision on the candidates. -/
def decideCandidates (items : List Candidate) (policyVersion : Nat) : AclDecisionView :=
  let lockedDenies := items.filter (·.rule.locked)
  if lockedDenies ≠ [] then
    recordDecision .DENY "matched locked deny" policyVersion (lockedDenies.map (·.rule))
  else
    match best items with
    | [] => recordDecision .DENY "no matching ACL rule; default deny" policyVersion []
    | item :: rest =>
      let effect := (rest.map (·.rule.effect)).foldl strictest item.rule.effect
      recordDecision effect ("matched highest-specificity " ++ effectValue effect ++ " rule")
        policyVersion ((item :: rest).map (·.rule))

def evaluate (around : Surroundings) (request : AclEvaluationRequest) (now : Time) :
    Except PolicyError AclDecisionView := do
  let policyVersion := (around.policyVersion request.workspaceId).getD 0
  match accountInWorkspace around request.botAccountId request.workspaceId with
  | none => throw (.PolicyObjectNotFoundError "bot account not found in workspace")
  | some account =>
    if account.status = .DISABLED then
      return recordDecision .DENY "bot account is disabled" policyVersion []
    else
      let principal ← activeRequestPrincipal around request
      let epoch := currentMembershipEpoch around request principal
      return decideCandidates (candidates (effectiveRules around request now) request principal
        epoch) policyVersion

/-- An evaluation that ends without an error found the account in the workspace. -/
theorem evaluate_ok {around : Surroundings} {request : AclEvaluationRequest} {now : Time}
    {decision : AclDecisionView} (h : evaluate around request now = .ok decision) :
    around.workspaceOf request.botAccountId = some request.workspaceId := by
  unfold evaluate at h
  split at h
  · cases h
  · rename_i account haccount
    unfold accountInWorkspace at haccount
    split at haccount
    · assumption
    · cases haccount

end WechatBot.Policy
