import WechatBot.GroupSenders

/-!
# One message in two formats

A message has a meaning of its own; the first and the second callback format are two ways
to write it down, and the normalizer reads the same meaning from both. The first one writes
the code of the type where the second one writes its name.
-/
namespace WechatBot.WebhookVersions

open PyData GeweNormalizer GroupSenders
open Discovery (ConversationType)
open EventTransaction (conversationFields)
open JsonText (intText)

/-- A type that the normalizer has a name for, or any other text. -/
inductive MessageType where
  | missing
  | listed (code name : Str) (h : (code, name) ∈ messageTypeNames)
  | other (text : Str)

def MessageType.code : MessageType → Option Str
  | .missing => none
  | .listed code _ _ => some code
  | .other text => some text

/-- A message of an account whose identifier is known. The time stays as it is written. -/
structure LogicalMessage where
  appId : Str
  wxid : Str
  newMsgId : Option Str
  msgType : MessageType
  fromUser : Option Str
  toUser : Option Str
  content : Option Str
  createTime : Json

/-- An identifier or a text in a payload. -/
inductive Written : Option Str → Json → Prop
  | missing : Written none .null
  | text (s : Str) : Written (some s) (.str s)
  | number (n : Int) : Written (some (intText n)) (.int n)

/-- In the first format some values may stand in an object of their own. -/
inductive WrittenNested : Option Str → Json → Prop
  | plain {value : Option Str} {json : Json} : Written value json → WrittenNested value json
  | nested {value : Option Str} {fields : Fields} :
      Written value (field fields "string") → WrittenNested value (.obj fields)

/-- The second format writes the name of a type, in capitals or not; a code may stand there
as well. -/
inductive Named : MessageType → Json → Prop
  | code {type : MessageType} {json : Json} : Written type.code json → Named type json
  | name {code name text : Str} {h : (code, name) ∈ messageTypeNames} :
      foldAscii text = name → Named (.listed code name h) (.str text)

/-- The payload is the message in the format `AddMsg`. -/
structure EncodesV1 (message : LogicalMessage) (payload data : Fields) : Prop where
  typeName : field payload "TypeName" = .str (py "AddMsg")
  appId : Written (some message.appId) (field payload "Appid")
  wxid : Written (some message.wxid) (field payload "Wxid")
  inner : field payload "Data" = .obj data
  newMsgId : Written message.newMsgId (field data "NewMsgId")
  msgType : Written message.msgType.code (field data "MsgType")
  fromUser : WrittenNested message.fromUser (field data "FromUserName")
  toUser : WrittenNested message.toUser (field data "ToUserName")
  content : WrittenNested message.content (field data "Content")
  createTime : field data "CreateTime" = message.createTime

/-- The payload is the message in the second format. -/
structure EncodesV2 (message : LogicalMessage) (payload : Fields) : Prop where
  flat : ∀ key ∈ ["Data", "Appid", "TypeName"], hasKey payload key = false
  appId : Written (some message.appId) (field payload "appid")
  wxid : Written (some message.wxid) (field payload "wxid")
  newMsgId : Written message.newMsgId (field payload "newMsgId")
  msgType : Named message.msgType (field payload "msgType")
  fromUser : Written message.fromUser (field payload "fromUser")
  toUser : Written message.toUser (field payload "toUser")
  content : Written message.content (field payload "content")
  isSelf : field payload "isSelf" = .bool (decide (message.fromUser = some message.wxid))
  createTime : field payload "createTime" = message.createTime

/-- What both formats are about. -/
structure Meaning where
  appId : Str
  wxid : Option Str
  newMsgId : Option Str
  eventType : Str
  conversationType : ConversationType
  conversationId : Option Str
  actorWxid : Option Str
  toWxid : Option Str
  isSelf : Bool
  occurredAt : Option Time
  rawContent : Option Json

def meaningOf (envelope : GeweEnvelope) : Meaning where
  appId := envelope.appId
  wxid := envelope.wxid
  newMsgId := envelope.newMsgId
  eventType := envelope.eventType
  conversationType := envelope.conversationType
  conversationId := envelope.conversationId
  actorWxid := envelope.actorWxid
  toWxid := envelope.toWxid
  isSelf := envelope.isSelf
  occurredAt := envelope.occurredAt
  rawContent := Json.get envelope.content (py "raw_content")

section Meaning

variable (lib : Library) (message : LogicalMessage)

def MessageType.typeName : MessageType → Str
  | .missing => py "unknown"
  | .listed _ name _ => name
  | .other text => messageTypeName lib (some text)

def LogicalMessage.isSelf : Bool := decide (message.fromUser = some message.wxid)

def LogicalMessage.meaning : Meaning :=
  let conversation := conversationFields message.fromUser message.toUser
    (message.content.getD []) message.isSelf
  { appId := message.appId
    wxid := some message.wxid
    newMsgId := message.newMsgId
    eventType := py "gewe.message." ++ message.msgType.typeName lib
    conversationType := conversation.1
    conversationId := conversation.2.1
    actorWxid := conversation.2.2
    toWxid := message.toUser
    isSelf := message.isSelf
    occurredAt := lib.timestamp message.createTime
    rawContent := some (.str (message.content.getD [])) }

/-- `str.casefold` of an ASCII text is its lower case. -/
def FoldsAscii : Prop := ∀ s : Str, (∀ c ∈ s, c < 128) → lib.casefold s = foldAscii s

end Meaning

theorem asString_written {value : Option Str} {json : Json} (h : Written value json) :
    asString json = value := by
  cases h with
  | missing => rfl
  | text s => rfl
  | number n => rfl

theorem nestedString_written {value : Option Str} {json : Json} (h : WrittenNested value json) :
    nestedString json = value := by
  cases h with
  | nested hvalue => exact asString_written hvalue
  | plain hvalue =>
    cases hvalue with
    | missing => rfl
    | text s => rfl
    | number n => rfl

/-- An empty fallback stands for a missing text. -/
theorem orElse_empty (value : Option Str) : orElse value [] = value.getD [] := by
  cases value with
  | none => rfl
  | some s =>
    by_cases hs : s = []
    · simp [orElse, hs, Option.filter_some]
    · simp [orElse, hs, Option.filter_some]

theorem hasKey_of_field {payload : Fields} {key : String} (h : field payload key ≠ .null) :
    hasKey payload key = true := by
  rw [hasKey, Option.isSome_iff_ne_none]
  intro hnone
  exact h (by rw [field, hnone]; rfl)

theorem Written.hasKey {s : Str} {payload : Fields} {key : String}
    (h : Written (some s) (field payload key)) : hasKey payload key = true := by
  apply hasKey_of_field
  intro hnull
  rw [hnull] at h
  cases h

/-- A missing type, an empty one and `UNKNOWN` have one name. -/
theorem messageTypeName_default {lib : Library} (hfold : FoldsAscii lib) (msgType : Option Str) :
    messageTypeName lib (some (orElse msgType (py "UNKNOWN"))) = messageTypeName lib msgType := by
  have hunknown : lib.casefold (strip (py "UNKNOWN")) = py "unknown" := by
    rw [hfold _ (by decide)]
    decide
  have hempty : lib.casefold (strip []) = [] := hfold [] (by simp)
  have hname : messageTypeName lib (some (py "UNKNOWN")) = py "unknown" := by
    simp only [messageTypeName, hunknown]
    decide
  cases msgType with
  | none => exact hname
  | some s =>
    by_cases hs : s = []
    · subst hs
      have hname' : messageTypeName lib (some []) = py "unknown" := by
        simp only [messageTypeName, hempty]
        decide
      exact hname.trans hname'.symm
    · simp [orElse, hs, Option.filter_some]

/-- An ASCII text without blanks is folded letter by letter. -/
theorem casefold_plain {lib : Library} (hfold : FoldsAscii lib) {text : Str}
    (hascii : ∀ c ∈ text, c < 128) (hsolid : ∀ c ∈ text, isSpace c = false) :
    lib.casefold (strip text) = foldAscii text := by
  rw [strip_of_solid hsolid, hfold text hascii]

/-- A code is looked up in the table. -/
theorem messageTypeName_code {lib : Library} (hfold : FoldsAscii lib) {code name : Str}
    (h : (code, name) ∈ messageTypeNames) : messageTypeName lib (some code) = name := by
  have hcodes : ∀ entry ∈ messageTypeNames, (∀ c ∈ entry.1, c < 128) ∧
      (∀ c ∈ entry.1, isSpace c = false) ∧ messageTypeNames.find?
        (fun other => decide (other.1 = foldAscii entry.1)) = some entry := by decide
  obtain ⟨hascii, hsolid, hfound⟩ := hcodes _ h
  simp only [messageTypeName, casefold_plain hfold hascii hsolid, hfound]

theorem lowerAscii_lt {c : Nat} (h : lowerAscii c < 128) : c < 128 := by
  unfold lowerAscii at h
  split at h <;> omega

theorem solid_of_lowerAscii {c : Nat} (h : isSpace (lowerAscii c) = false) : isSpace c = false := by
  unfold lowerAscii at h
  split at h
  · rename_i hupper
    obtain ⟨hfirst, hlast⟩ := hupper
    interval_cases c <;> rfl
  · exact h

/-- A name is no code of the table, so it stays as it is. -/
theorem messageTypeName_name {lib : Library} (hfold : FoldsAscii lib) {code name text : Str}
    (h : (code, name) ∈ messageTypeNames) (htext : foldAscii text = name) :
    messageTypeName lib (some text) = name := by
  have hnames : ∀ entry ∈ messageTypeNames, (∀ c ∈ entry.2, c < 128) ∧
      (∀ c ∈ entry.2, isSpace c = false) ∧ messageTypeNames.find?
        (fun other => decide (other.1 = entry.2)) = none ∧
      orElse (some entry.2) (py "unknown") = entry.2 := by decide
  obtain ⟨hascii, hsolid, hnone, hkept⟩ := hnames _ h
  have hlower : ∀ c ∈ text, lowerAscii c ∈ name := by
    intro c hc
    rw [← htext]
    exact List.mem_map_of_mem hc
  have hnormalized := casefold_plain hfold (fun c hc => lowerAscii_lt (hascii _ (hlower c hc)))
    fun c hc => solid_of_lowerAscii (hsolid _ (hlower c hc))
  simp only [messageTypeName, hnormalized, htext, hnone, hkept]

/-- The code of a type is read as its name. -/
theorem typeName_code {lib : Library} (hfold : FoldsAscii lib) (type : MessageType) :
    messageTypeName lib type.code = type.typeName lib := by
  cases type with
  | missing => rfl
  | listed code name h => exact messageTypeName_code hfold h
  | other text => rfl

/-- In the second version every name or code of a type is read as its name. -/
theorem typeName_named {lib : Library} (hfold : FoldsAscii lib) {type : MessageType} {json : Json}
    (h : Named type json) : messageTypeName lib (asString json) = type.typeName lib := by
  cases h with
  | code hcode =>
    rw [asString_written hcode]
    exact typeName_code hfold type
  | name htext =>
    rename_i hlisted
    exact messageTypeName_name hfold hlisted htext

/-- A message of the first version has the event type of its message type. -/
theorem v1EventType_addMsg {lib : Library} (hfold : FoldsAscii lib) (msgType : Option Str) :
    v1EventType lib (py "AddMsg") msgType = py "gewe.message." ++ messageTypeName lib msgType := by
  have hlower : lib.casefold (py "AddMsg") = py "addmsg" := by
    rw [hfold _ (by decide)]
    decide
  rw [v1EventType, hlower]
  rfl

section Formats

variable {lib : Library} {message : LogicalMessage} {payload data : Fields}

/-- The first version is read as the message it encodes. -/
theorem meaning_v1 (hfold : FoldsAscii lib) (h : EncodesV1 message payload data) :
    meaningOf (normalizeGewePayload lib payload) = message.meaning lib := by
  have hversion : looksLikeV1 payload = true := by
    rw [looksLikeV1, h.appId.hasKey]
    simp
  have hself : (message.fromUser.isSome && (some message.wxid).isSome &&
      decide (message.fromUser = some message.wxid)) = message.isSelf := by
    rw [LogicalMessage.isSelf]
    cases message.fromUser with
    | none => rfl
    | some s => rfl
  have htype : orElse (asString (.str (py "AddMsg"))) (py "UNKNOWN") = py "AddMsg" := by decide
  simp only [normalizeGewePayload, hversion, if_true, normalizeV1, h.inner, h.typeName,
    asString_written h.appId, asString_written h.wxid, asString_written h.newMsgId,
    asString_written h.msgType, nestedString_written h.fromUser, nestedString_written h.toUser,
    nestedString_written h.content, h.createTime, htype, hself, orElse_empty,
    v1EventType_addMsg hfold, typeName_code hfold]
  rfl

/-- The second version is read as the message it encodes. -/
theorem meaning_v2 (hfold : FoldsAscii lib) (h : EncodesV2 message payload) :
    meaningOf (normalizeGewePayload lib payload) = message.meaning lib := by
  have hflat : looksLikeV1 payload = false := by
    rw [looksLikeV1, h.flat "Data" (by decide), h.flat "Appid" (by decide),
      h.flat "TypeName" (by decide)]
    rfl
  have hversion : looksLikeV2 payload = true := by
    rw [looksLikeV2, List.any_cons, h.appId.hasKey]
    rfl
  simp only [normalizeGewePayload, hflat, hversion, normalizeV2, h.isSelf,
    asString_written h.appId, asString_written h.wxid, asString_written h.newMsgId,
    asString_written h.fromUser, asString_written h.toUser, asString_written h.content,
    h.createTime, orElse_empty, messageTypeName_default hfold, typeName_named hfold h.msgType]
  rfl

/-- The two formats of one message are normalized to the same event. -/
theorem versions_agree (lib : Library) (hfold : FoldsAscii lib) (message : LogicalMessage)
    (first data second : Fields) (hfirst : EncodesV1 message first data)
    (hsecond : EncodesV2 message second) :
    meaningOf (normalizeGewePayload lib first) = meaningOf (normalizeGewePayload lib second) :=
  (meaning_v1 hfold hfirst).trans (meaning_v2 hfold hsecond).symm

end Formats

section Sample

def asciiLibrary : Library := ⟨foldAscii, fun _ => none⟩

/-- A message that the account itself has sent to a group. -/
def sampleMessage : LogicalMessage where
  appId := py "app"
  wxid := py "wxid_bot"
  newMsgId := some (intText 7)
  msgType := .listed (py "1") (py "text") (by decide)
  fromUser := some (py "wxid_bot")
  toUser := some (py "1@chatroom")
  content := some (py "hi")
  createTime := .int 1725000000

def sampleData : Fields :=
  [(py "NewMsgId", .int 7), (py "MsgType", .int 1),
    (py "FromUserName", .obj [(py "string", .str (py "wxid_bot"))]),
    (py "ToUserName", .obj [(py "string", .str (py "1@chatroom"))]),
    (py "Content", .str (py "hi")), (py "CreateTime", .int 1725000000)]

def sampleFirst : Fields :=
  [(py "TypeName", .str (py "AddMsg")), (py "Appid", .str (py "app")),
    (py "Wxid", .str (py "wxid_bot")), (py "Data", .obj sampleData)]

def sampleSecond : Fields :=
  [(py "appid", .str (py "app")), (py "wxid", .str (py "wxid_bot")),
    (py "newMsgId", .str (intText 7)), (py "msgType", .str (py "TEXT")),
    (py "fromUser", .str (py "wxid_bot")), (py "toUser", .str (py "1@chatroom")),
    (py "content", .str (py "hi")), (py "isSelf", .bool true),
    (py "createTime", .int 1725000000)]

theorem sampleFirst_encodes : EncodesV1 sampleMessage sampleFirst sampleData where
  typeName := rfl
  appId := .text _
  wxid := .text _
  inner := rfl
  newMsgId := .number 7
  msgType := .number 1
  fromUser := .nested (.text (py "wxid_bot"))
  toUser := .nested (.text (py "1@chatroom"))
  content := .plain (.text (py "hi"))
  createTime := rfl

theorem sampleSecond_encodes : EncodesV2 sampleMessage sampleSecond where
  flat := by decide
  appId := .text _
  wxid := .text _
  newMsgId := .text _
  msgType := .name (by decide)
  fromUser := .text _
  toUser := .text _
  content := .text _
  isSelf := rfl
  createTime := rfl

theorem versions_agree_self :
    meaningOf (normalizeGewePayload asciiLibrary sampleFirst) =
      meaningOf (normalizeGewePayload asciiLibrary sampleSecond) :=
  versions_agree asciiLibrary (fun _ _ => rfl) sampleMessage sampleFirst sampleData sampleSecond
    sampleFirst_encodes sampleSecond_encodes

end Sample

end WechatBot.WebhookVersions
