import WechatBot.PyData

/-!
# Rows of the directory, the policy and the plugin tables

The columns that the modelled functions read or write. A function that looks a row
up by its key takes the lookup as a function.
-/
namespace WechatBot.Records

open PyData

inductive ConnectionStatus where
  | ACTIVE | DISABLED | ERROR
  deriving DecidableEq, Repr

inductive BotAccountStatus where
  | UNBOUND | QR_PENDING | SCANNED | ONLINE | OFFLINE | RECONNECTING | NEED_QR | DISABLED
  deriving DecidableEq, Repr

structure GeweConnection where
  id : UUID
  workspaceId : UUID
  apiBaseUrl : Str
  tokenCiphertext : Str
  status : ConnectionStatus
  deriving DecidableEq, Repr

structure BotAccount where
  id : UUID
  geweConnectionId : UUID
  appId : Str
  wxid : Option Str
  «alias» : Option Str
  nickname : Option Str
  avatarUrl : Option Str
  pendingLoginUuid : Option Str
  qrExpiresAt : Option Time
  lastStatusCheckedAt : Option Time
  lastStatusError : Option Str
  status : BotAccountStatus
  loggedInAt : Option Time
  lastOnlineAt : Option Time
  deriving DecidableEq, Repr

structure Chatroom where
  id : UUID
  botAccountId : UUID
  chatroomId : Str
  deriving DecidableEq, Repr

structure Contact where
  id : UUID
  botAccountId : UUID
  externalId : Str
  active : Bool
  deriving DecidableEq, Repr

structure ChatroomMembership where
  id : UUID
  chatroomId : UUID
  memberWxid : Str
  membershipEpoch : Nat
  leftAt : Option Time
  deriving DecidableEq, Repr

inductive PrincipalType where
  | ADMIN_USER | CONTACT | GROUP_MEMBER | CONNECTOR | PLUGIN | TASK_AGENT | AUTOMATION | SYSTEM
  deriving DecidableEq, Repr

inductive AclScopeType where
  | WORKSPACE | BOT_ACCOUNT | CHATROOM | CONTACT
  deriving DecidableEq, Repr

inductive AclResourceType where
  | CATEGORY | PLUGIN | COMMAND | TOOL | AGENT | CAPABILITY
  deriving DecidableEq, Repr

inductive AclEffect where
  | ALLOW | ASK | DENY
  deriving DecidableEq, Repr

structure Principal where
  id : UUID
  workspaceId : UUID
  principalType : PrincipalType
  externalId : Str
  active : Bool
  deriving DecidableEq, Repr

structure AclRule where
  id : UUID
  workspaceId : UUID
  principalId : Option UUID
  scopeType : AclScopeType
  scopeId : Str
  resourceType : AclResourceType
  resourceId : Str
  effect : AclEffect
  locked : Bool
  membershipEpoch : Option Nat
  validFrom : Time
  validUntil : Option Time
  revokedAt : Option Time
  revokedBy : Option Str
  deriving DecidableEq, Repr

inductive PluginDeploymentStatus where
  | DRAFT | STOPPED | STARTING | RUNNING | DRAINING | FAILED | QUARANTINED
  deriving DecidableEq, Repr

inductive PluginActivationStatus where
  | CANDIDATE | STARTING | READY | ACTIVE | DRAINING | STOPPED | FAILED
  deriving DecidableEq, Repr

/-- A stored scope, as `_validate_scope` returns it. -/
structure PluginScope where
  workspaceId : Option Str
  botAccountIds : Option (List Str)
  chatroomIds : Option (List Str)
  contactIds : Option (List Str)
  conversationIds : Option (List Str)
  deriving DecidableEq, Repr

structure PluginDeployment where
  id : UUID
  workspaceId : UUID
  pluginId : UUID
  name : Str
  status : PluginDeploymentStatus
  activeRevisionId : Option UUID
  lastError : Option Str
  deriving DecidableEq, Repr

structure PluginDeploymentRevision where
  id : UUID
  deploymentId : UUID
  packageVersionId : UUID
  revisionNumber : Nat
  scope : PluginScope
  grants : List Str
  deriving DecidableEq, Repr

structure PluginRevisionActivation where
  id : UUID
  deploymentId : UUID
  revisionId : UUID
  activationEpoch : Nat
  status : PluginActivationStatus
  deriving DecidableEq, Repr

end WechatBot.Records
