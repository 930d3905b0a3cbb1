import WechatBot.EventTransaction
import WechatBot.JsonText

/-!
# Normalizing a callback

The two payload formats of GeWe and everything else, which is taken for a verification of
the callback address. Case folding and the reading of a time stamp are parameters.
-/
namespace WechatBot.GeweNormalizer

open PyData EventTransaction
open Discovery (ConversationType)
open JsonText (intText)

abbrev Fields := List (Str × Json)

/-- `casefold` and `_timestamp`. -/
structure Library where
  casefold : Str → Str
  timestamp : Json → Option Time

structure GeweEnvelope where
  schemaVersion : Str
  appId : Str
  wxid : Option Str
  newMsgId : Option Str
  eventType : Str
  conversationType : ConversationType
  conversationId : Option Str
  actorWxid : Option Str
  toWxid : Option Str
  isSelf : Bool
  occurredAt : Option Time
  content : Fields

/-- `payload.get(key)`. -/
def field (payload : Fields) (key : String) : Json := (Json.get payload (py key)).getD .null

def hasKey (payload : Fields) (key : String) : Bool := (Json.get payload (py key)).isSome

def asString : Json → Option Str
  | .str s => some s
  | .int n => some (intText n)
  | _ => none

def nestedString : Json → Option Str
  | .obj fields => asString (field fields "string")
  | value => asString value

/-- `value or default`, for a text. -/
def orElse (value : Option Str) (default : Str) : Str := (value.filter (· ≠ [])).getD default

def jsonText : Option Str → Json
  | some s => .str s
  | none => .null

def messageTypeNames : List (Str × Str) :=
  [(py "1", py "text"), (py "3", py "image"), (py "34", py "voice"), (py "37", py "friend_request"),
    (py "42", py "contact_card"), (py "43", py "video"), (py "47", py "emoji"),
    (py "48", py "location"), (py "49", py "app"), (py "10000", py "system")]

section Normalize

variable (lib : Library)

def messageTypeName : Option Str → Str
  | none => py "unknown"
  | some msgType =>
    let normalized := lib.casefold (strip msgType)
    match messageTypeNames.find? fun name => decide (name.1 = normalized) with
    | some name => name.2
    | none => orElse (some normalized) (py "unknown")

def v1EventType (typeName : Str) (msgType : Option Str) : Str :=
  let normalizedType := lib.casefold typeName
  if normalizedType = py "addmsg" then py "gewe.message." ++ messageTypeName lib msgType
  else py "gewe." ++ normalizedType ++ py "." ++ messageTypeName lib msgType

def normalizeV1 (payload : Fields) : GeweEnvelope :=
  let data := match field payload "Data" with
    | .obj fields => fields
    | _ => []
  let wxid := asString (field payload "Wxid")
  let fromUser := nestedString (field data "FromUserName")
  let toUser := nestedString (field data "ToUserName")
  let rawContent := orElse (nestedString (field data "Content")) []
  let msgType := asString (field data "MsgType")
  let typeName := orElse (asString (field payload "TypeName")) (py "UNKNOWN")
  let isSelf := fromUser.isSome && wxid.isSome && decide (fromUser = wxid)
  let conversation := conversationFields fromUser toUser rawContent isSelf
  { schemaVersion := py "v1"
    appId := orElse (asString (field payload "Appid")) []
    wxid := wxid
    newMsgId := asString (field data "NewMsgId")
    eventType := v1EventType lib typeName msgType
    conversationType := conversation.1
    conversationId := conversation.2.1
    actorWxid := conversation.2.2
    toWxid := toUser
    isSelf := isSelf
    occurredAt := lib.timestamp (field data "CreateTime")
    content := [(py "msg_type", jsonText msgType), (py "type_name", .str typeName),
      (py "raw_content", .str rawContent)] }

def normalizeV2 (payload : Fields) : GeweEnvelope :=
  let fromUser := asString (field payload "fromUser")
  let toUser := asString (field payload "toUser")
  let rawContent := orElse (asString (field payload "content")) []
  let msgType := orElse (asString (field payload "msgType")) (py "UNKNOWN")
  let isSelf := match field payload "isSelf" with
    | .bool b => b
    | _ => false
  let conversation := conversationFields fromUser toUser rawContent isSelf
  { schemaVersion := py "v2"
    appId := orElse (asString (field payload "appid")) []
    wxid := asString (field payload "wxid")
    newMsgId := asString (field payload "newMsgId")
    eventType := py "gewe.message." ++ messageTypeName lib (some msgType)
    conversationType := conversation.1
    conversationId := conversation.2.1
    actorWxid := conversation.2.2
    toWxid := toUser
    isSelf := isSelf
    occurredAt := lib.timestamp (field payload "createTime")
    content := [(py "msg_type", .str msgType), (py "raw_content", .str rawContent)] }

end Normalize

def looksLikeV1 (payload : Fields) : Bool :=
  hasKey payload "Data" || hasKey payload "Appid" || hasKey payload "TypeName"

def looksLikeV2 (payload : Fields) : Bool :=
  ["appid", "newMsgId", "msgType", "isSelf"].any (hasKey payload)

def callbackVerification : Str := py "gewe.callback_verification"

def unknownEnvelope (payload : Fields) : GeweEnvelope :=
  let appid := field payload "appid"
  { schemaVersion := py "unknown"
    appId := orElse (asString (if appid.truthy then appid else field payload "Appid")) []
    wxid := none
    newMsgId := none
    eventType := callbackVerification
    conversationType := .SYSTEM
    conversationId := none
    actorWxid := none
    toWxid := none
    isSelf := false
    occurredAt := none
    content := [(py "payload_type", .str (py "verification_or_unknown"))] }

def normalizeGewePayload (lib : Library) (payload : Fields) : GeweEnvelope :=
  if looksLikeV1 payload then normalizeV1 lib payload
  else if looksLikeV2 payload then normalizeV2 lib payload
  else unknownEnvelope payload

variable (lib : Library) (payload : Fields)

/-- The dispatcher's assumption on the conversation of a stored event. -/
theorem envelope_conversation : (normalizeGewePayload lib payload).conversationType = .SYSTEM ∨
    ∃ fromUser toUser rawContent, ((normalizeGewePayload lib payload).conversationType,
      (normalizeGewePayload lib payload).conversationId,
      (normalizeGewePayload lib payload).actorWxid) =
        conversationFields fromUser toUser rawContent (normalizeGewePayload lib payload).isSelf := by
  by_cases h1 : looksLikeV1 payload = true
  · right
    simp only [normalizeGewePayload, h1]
    exact ⟨_, _, _, rfl⟩
  by_cases h2 : looksLikeV2 payload = true
  · right
    simp only [normalizeGewePayload, h1, h2]
    exact ⟨_, _, _, rfl⟩
  · left
    simp [normalizeGewePayload, h1, h2, unknownEnvelope]

end WechatBot.GeweNormalizer
