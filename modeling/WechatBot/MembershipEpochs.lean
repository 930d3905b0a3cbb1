import WechatBot.Discovery
import WechatBot.SenderSystem
import WechatBot.UuidText

/-!
# Membership epochs and member rules

The discovery of a member by an event, the sync of a chatroom, the departure of a member
and the creation of a rule, each under the lock of the chatroom or of the policy state
and so one step. The two ways to a new membership compute the next epoch on their own.
-/
namespace WechatBot.MembershipEpochs

open PyData Records Policy UuidText
open Discovery (activeMembership latestEpoch)
open SenderSystem (departing Revocation)

/-- The memberships of a member of a chatroom, in the order of their creation. -/
def memberRows (around : Surroundings) (chatroomId : UUID) (memberWxid : Str) :
    List ChatroomMembership :=
  around.memberships.filter fun m =>
    decide (m.chatroomId = chatroomId) && decide (m.memberWxid = memberWxid)

/-- An INSERT; `none` when the primary key or the unique key is taken. -/
def insertMembership (around : Surroundings) (row : ChatroomMembership) : Option Surroundings :=
  if around.memberships.any fun m => decide (m.id = row.id ∨ m.chatroomId = row.chatroomId ∧
      m.memberWxid = row.memberWxid ∧ m.membershipEpoch = row.membershipEpoch) then none
  else some { around with memberships := around.memberships ++ [row] }

/-- `EventDispatcher._ensure_membership`; `none` when it raises. -/
def ensureMembership (around : Surroundings) (chatroomId : UUID) (actorWxid : Str) (id : UUID) :
    Option Surroundings :=
  if (around.chatroom chatroomId).isNone then none
  else
    let rows := memberRows around chatroomId actorWxid
    match activeMembership rows with
    | some _ => some around
    | none => insertMembership around ⟨id, chatroomId, actorWxid, latestEpoch rows + 1, none⟩

/-- The members of a snapshot against the memberships that were read before. -/
def addMembers (chatroomId : UUID) (read : List ChatroomMembership) :
    Surroundings → List (Str × UUID) → Option Surroundings
  | around, [] => some around
  | around, (memberWxid, id) :: members =>
    let rows := read.filter fun m => decide (m.memberWxid = memberWxid)
    match activeMembership rows with
    | some _ => addMembers chatroomId read around members
    | none =>
      (insertMembership around ⟨id, chatroomId, memberWxid, latestEpoch rows + 1, none⟩).bind
        fun around => addMembers chatroomId read around members

/-- `DirectoryService._upsert_memberships`: the snapshot is a dictionary by `wxid`, here
with the primary keys drawn for new rows. -/
def upsertMemberships (around : Surroundings) (chatroomId : UUID) (members : List (Str × UUID)) :
    Option Surroundings :=
  if (around.chatroom chatroomId).isNone ∨ ¬ (members.map Prod.fst).Nodup then none
  else
    let read := around.memberships.filter fun m => decide (m.chatroomId = chatroomId)
    addMembers chatroomId read around members

/-- `DirectoryService.mark_membership_left`. -/
def markMembershipLeft (around : Surroundings) (chatroomId membershipId : UUID)
    (membershipEpoch : Nat) (now : Time) : Option Surroundings :=
  (departing around chatroomId membershipId membershipEpoch).map fun _ =>
    (Revocation.markMembershipLeft chatroomId membershipId membershipEpoch).apply now around

/-- A request that `AclRuleCreate` admits. -/
structure AclRuleCreate where
  workspaceId : UUID
  principalId : Option UUID
  scopeType : AclScopeType
  scopeId : Str
  resourceType : AclResourceType
  resourceId : Str
  effect : AclEffect
  locked : Bool
  membershipEpoch : Option Nat
  validFrom : Option Time
  validUntil : Option Time
  lockedDenies : locked = true → effect = .DENY
  period : ∀ first last, validFrom = some first → validUntil = some last → first < last
  category : resourceType = .CATEGORY → resourceId = py "*"
  scopeIdLength : 1 ≤ scopeId.length ∧ scopeId.length ≤ 255
  resourceIdLength : 1 ≤ resourceId.length ∧ resourceId.length ≤ 255
  epochPositive : ∀ epoch, membershipEpoch = some epoch → 1 ≤ epoch

def validatePrincipal (around : Surroundings) (payload : AclRuleCreate) :
    Except PolicyError (Option Principal) :=
  match payload.principalId with
  | none =>
    if payload.membershipEpoch.isSome then
      .error (.InvalidPolicyRuleError "membership_epoch requires a group member principal")
    else .ok none
  | some id =>
    match around.principal id with
    | none => .error (.PolicyObjectNotFoundError "principal not found in workspace")
    | some principal =>
      if principal.workspaceId ≠ payload.workspaceId then
        .error (.PolicyObjectNotFoundError "principal not found in workspace")
      else if principal.active = false then
        .error (.InvalidPolicyRuleError "principal is inactive")
      else .ok (some principal)

def parseUuid (value : Str) (detail : String) : Except PolicyError UUID :=
  match uuidOf value with
  | none => .error (.InvalidPolicyRuleError detail)
  | some id => .ok id

/-- The workspace of the row that a scope names. -/
def scopeWorkspace (around : Surroundings) (scopeType : AclScopeType) (id : UUID) : Option UUID :=
  match scopeType with
  | .WORKSPACE => some id
  | .BOT_ACCOUNT => around.workspaceOf id
  | .CHATROOM => (around.chatroom id).bind fun room => around.workspaceOf room.botAccountId
  | .CONTACT => (around.contact id).bind fun contact => around.workspaceOf contact.botAccountId

def validateScope (around : Surroundings) (payload : AclRuleCreate) : Except PolicyError Unit :=
  if payload.scopeType = .WORKSPACE then
    if payload.scopeId ≠ uuidStr payload.workspaceId then
      .error (.InvalidPolicyRuleError "workspace scope_id does not match workspace")
    else .ok ()
  else
    match parseUuid payload.scopeId "scope_id must be a UUID" with
    | .error error => .error error
    | .ok id =>
      if scopeWorkspace around payload.scopeType id = some payload.workspaceId then .ok ()
      else .error (.PolicyObjectNotFoundError "ACL scope not found in workspace")

def resolveMembershipEpoch (around : Surroundings) (payload : AclRuleCreate)
    (principal : Option Principal) : Except PolicyError (Option Nat) :=
  match principal.filter fun p => decide (p.principalType = .GROUP_MEMBER) with
  | none =>
    if payload.membershipEpoch.isSome then
      .error (.InvalidPolicyRuleError "membership_epoch is only valid for group members")
    else .ok none
  | some principal =>
    if payload.scopeType ≠ .CHATROOM then
      .error (.InvalidPolicyRuleError "group member rules require CHATROOM scope")
    else
      match parseUuid payload.scopeId "chatroom scope_id must be a UUID" with
      | .error error => .error error
      | .ok chatroomId =>
        match ((activeMemberships around chatroomId principal.externalId).map
            (·.membershipEpoch)).max? with
        | none => .error (.InvalidPolicyRuleError "principal is not an active member of the chatroom")
        | some epoch =>
          if payload.membershipEpoch.any fun expected => decide (expected ≠ epoch) then
            .error (.InvalidPolicyRuleError "membership_epoch is stale")
          else .ok (some epoch)

/-- The row of a new rule. -/
def newRule (payload : AclRuleCreate) (membershipEpoch : Option Nat) (id : UUID) (now : Time) :
    AclRule where
  id := id
  workspaceId := payload.workspaceId
  principalId := payload.principalId
  scopeType := payload.scopeType
  scopeId := payload.scopeId
  resourceType := payload.resourceType
  resourceId := payload.resourceId
  effect := payload.effect
  locked := payload.locked
  membershipEpoch := membershipEpoch
  validFrom := payload.validFrom.getD now
  validUntil := payload.validUntil
  revokedAt := none
  revokedBy := none

def incrementVersion (around : Surroundings) (workspaceId : UUID) : Surroundings :=
  let version := (around.policyVersion workspaceId).getD 0 + 1
  { around with policyVersion := Function.update around.policyVersion workspaceId (some version) }

/-- `PolicyService.create_rule`. -/
def createRule (workspaceExists : UUID → Bool) (around : Surroundings) (payload : AclRuleCreate)
    (id : UUID) (now : Time) : Except PolicyError Surroundings := do
  if workspaceExists payload.workspaceId = false then
    throw (.PolicyObjectNotFoundError "workspace not found")
  let principal ← validatePrincipal around payload
  validateScope around payload
  let membershipEpoch ← resolveMembershipEpoch around payload principal
  let rule := newRule payload membershipEpoch id now
  return incrementVersion { around with rules := around.rules ++ [rule] } payload.workspaceId

/-- The last three are not about members: they are what else writes the chatrooms, the
principals and the rules. -/
inductive Action where
  | ensureMembership (chatroomId : UUID) (actorWxid : Str) (id : UUID)
  | upsertMemberships (chatroomId : UUID) (members : List (Str × UUID))
  | markMembershipLeft (chatroomId membershipId : UUID) (membershipEpoch : Nat) (now : Time)
  | createRule (payload : AclRuleCreate) (id : UUID) (now : Time)
  | revokeRule (id : UUID) (revokedBy : Str) (now : Time)
  | createPrincipal (row : Principal)
  | discoverChatroom (row : Chatroom)

/-- `PolicyService.create_principal` and what else saves a principal: the new row, or the
stored one made active. -/
def savePrincipal (around : Surroundings) (row : Principal) : Surroundings :=
  let saved := match around.principal row.id with
    | none => row
    | some stored => { stored with active := true }
  { around with principal := Function.update around.principal row.id (some saved) }

def step (workspaceExists : UUID → Bool) (around : Surroundings) : Action → Option Surroundings
  | .ensureMembership chatroomId actorWxid id => ensureMembership around chatroomId actorWxid id
  | .upsertMemberships chatroomId members => upsertMemberships around chatroomId members
  | .markMembershipLeft chatroomId membershipId membershipEpoch now =>
    markMembershipLeft around chatroomId membershipId membershipEpoch now
  | .createRule payload id now =>
    -- the primary key is new
    if around.rules.any fun rule => decide (rule.id = id) then none
    else (createRule workspaceExists around payload id now).toOption
  | .revokeRule id revokedBy now => some ((Revocation.revokeRule id revokedBy).apply now around)
  | .createPrincipal row => some (savePrincipal around row)
  | .discoverChatroom row =>
    if (around.chatroom row.id).isSome then none
    else some { around with chatroom := Function.update around.chatroom row.id (some row) }

end WechatBot.MembershipEpochs
