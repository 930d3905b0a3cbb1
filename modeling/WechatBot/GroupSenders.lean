import WechatBot.CommandRoutes
import WechatBot.WebhookIngest

/-!
# Who sent a group message

The normalizer reads the sender of a group message from its field and from a prefix of its
text; the dispatcher takes the same prefix off again before it looks for a command.
-/
namespace WechatBot.GroupSenders

open PyData GeweNormalizer
open CommandRoutes (Route commandRoutes)
open Discovery (ConversationType)
open EventTransaction (IncomingEvent beforeSeparator conversationFields groupActor isGroupId)
open WebhookIngest (Backend NormalizedEvent Received)

/-- The `data` of `_normalize_v1`. -/
def dataOf (payload : Fields) : Fields :=
  match field payload "Data" with
  | .obj fields => fields
  | _ => []

def fromUser (payload : Fields) : Option Str :=
  if looksLikeV1 payload then nestedString (field (dataOf payload) "FromUserName")
  else asString (field payload "fromUser")

def toUser (payload : Fields) : Option Str :=
  if looksLikeV1 payload then nestedString (field (dataOf payload) "ToUserName")
  else asString (field payload "toUser")

def rawContent (payload : Fields) : Str :=
  if looksLikeV1 payload then orElse (nestedString (field (dataOf payload) "Content")) []
  else orElse (asString (field payload "content")) []

/-- `_message_text` of a stored event. -/
def messageText (event : NormalizedEvent) : Str :=
  let text := match Json.get event.content (py "raw_content") with
    | some (.str raw) => raw
    | _ => []
  let front := event.actorWxid.getD [] ++ py ":\n"
  if event.conversationType = .GROUP ∧ event.actorWxid.getD [] ≠ [] ∧ front.isPrefixOf text then
    text.drop front.length
  else text

/-- The payloads are of one version and differ in nothing but the text of the message. -/
def SameButText (payload other : Fields) : Prop :=
  if looksLikeV1 payload then
    (∀ key, key ≠ py "Data" → Json.get payload key = Json.get other key) ∧
      hasKey payload "Data" = hasKey other "Data" ∧
      ∀ key, key ≠ py "Content" → Json.get (dataOf payload) key = Json.get (dataOf other) key
  else ∀ key, key ≠ py "content" → Json.get payload key = Json.get other key

/-- The text begins like the message of somebody else. -/
def PosesAsOther (sender text : Str) : Prop :=
  ∃ other rest, text = other ++ py ":\n" ++ rest ∧ py "wxid_" <+: other ∧
    ¬ py ":\n" <:+: other ∧ other ≠ sender

/-- The sender ids of the round trip. -/
structure SenderId (sender : Str) : Prop where
  nonempty : sender ≠ []
  colon : 58 ∉ sender
  newline : 10 ∉ sender

theorem separator_eq : py ":\n" = [58, 10] := rfl

/-- `str.partition` finds the first separator. -/
theorem beforeSeparator_append {front : Str} (rest : Str) (h : ¬ py ":\n" <:+: front) :
    beforeSeparator (front ++ py ":\n" ++ rest) = some front := by
  induction front with
  | nil => rfl
  | cons c front ih =>
    have hrest : ¬ py ":\n" <:+: front := fun hsub => h (List.infix_cons hsub)
    have hnext := ih hrest
    rw [List.cons_append, List.cons_append]
    rw [beforeSeparator]
    · rw [hnext]
      rfl
    · intro tail hc hline
      subst hc
      cases front with
      | nil => cases hline
      | cons d front =>
        cases hline
        exact h ⟨[], front, rfl⟩

theorem beforeSeparator_some {text front : Str} (h : beforeSeparator text = some front) :
    ∃ rest, text = front ++ py ":\n" ++ rest ∧ ¬ py ":\n" <:+: front := by
  induction text generalizing front with
  | nil => cases h
  | cons c text ih =>
    by_cases hsep : ∃ tail, c = 58 ∧ text = 10 :: tail
    · obtain ⟨tail, rfl, rfl⟩ := hsep
      cases h
      exact ⟨tail, rfl, by simp [separator_eq]⟩
    · rw [beforeSeparator] at h
      · obtain ⟨next, hnext, rfl⟩ := Option.map_eq_some_iff.mp h
        obtain ⟨rest, rfl, hnone⟩ := ih hnext
        refine ⟨rest, rfl, ?_⟩
        intro hsub
        rcases List.infix_cons_iff.mp hsub with hfront | hsub
        · obtain ⟨tail, htail⟩ := hfront
          rw [separator_eq, List.cons_append, List.cons.injEq] at htail
          refine hsep ⟨tail ++ py ":\n" ++ rest, htail.1.symm, ?_⟩
          rw [← htail.2]
          rfl
        · exact hnone hsub
      · intro tail hc htext
        exact hsep ⟨tail, hc, htext⟩

theorem groupActor_some {text actor : Str} : groupActor text = some actor ↔
    ∃ rest, text = actor ++ py ":\n" ++ rest ∧ py "wxid_" <+: actor ∧ ¬ py ":\n" <:+: actor := by
  rw [groupActor, Option.filter_eq_some_iff]
  constructor
  · rintro ⟨hbefore, hwxid⟩
    obtain ⟨rest, htext, hnone⟩ := beforeSeparator_some hbefore
    exact ⟨rest, htext, List.isPrefixOf_iff_prefix.mp hwxid, hnone⟩
  · rintro ⟨rest, rfl, hwxid, hnone⟩
    exact ⟨beforeSeparator_append rest hnone, List.isPrefixOf_iff_prefix.mpr hwxid⟩

/-- A text that poses as nobody else leaves the explicit sender the actor. -/
theorem actor_eq_sender (sender text : Str) :
    (groupActor text).or (some sender) = some sender ↔ ¬ PosesAsOther sender text := by
  cases hactor : groupActor text with
  | none =>
    refine ⟨fun _ => ?_, fun _ => rfl⟩
    rintro ⟨other, rest, htext, hwxid, hnone, -⟩
    rw [groupActor_some.mpr ⟨rest, htext, hwxid, hnone⟩] at hactor
    cases hactor
  | some actor =>
    obtain ⟨rest, htext, hwxid, hnone⟩ := groupActor_some.mp hactor
    rw [Option.some_or, Option.some.injEq]
    constructor
    · rintro rfl ⟨other, rest', htext', hwxid', hnone', hne⟩
      rw [groupActor_some.mpr ⟨rest', htext', hwxid', hnone'⟩] at hactor
      exact hne (Option.some.inj hactor)
    · intro hown
      by_contra hne
      exact hown ⟨actor, rest, htext, hwxid, hnone, hne⟩

section Normalized

variable (lib : Library) {payload : Fields}

/-- A payload of one of the two versions. -/
def IsMessage (payload : Fields) : Prop := looksLikeV1 payload = true ∨ looksLikeV2 payload = true

theorem normalize_conversation (h : IsMessage payload) :
    ((normalizeGewePayload lib payload).conversationType,
      (normalizeGewePayload lib payload).conversationId,
      (normalizeGewePayload lib payload).actorWxid) =
    conversationFields (fromUser payload) (toUser payload) (rawContent payload)
      (normalizeGewePayload lib payload).isSelf := by
  by_cases h1 : looksLikeV1 payload = true
  · simp only [normalizeGewePayload, fromUser, toUser, rawContent, h1]
    rfl
  · have h2 := h.resolve_left h1
    simp only [normalizeGewePayload, fromUser, toUser, rawContent, h1, h2]
    rfl

theorem normalize_rawContent (h : IsMessage payload) :
    Json.get (normalizeGewePayload lib payload).content (py "raw_content") =
      some (.str (rawContent payload)) := by
  by_cases h1 : looksLikeV1 payload = true
  · simp only [normalizeGewePayload, rawContent, h1]
    rfl
  · have h2 := h.resolve_left h1
    simp only [normalizeGewePayload, rawContent, h1, h2]
    rfl

theorem isMessage_of_group
    (h : (normalizeGewePayload lib payload).conversationType = .GROUP) : IsMessage payload := by
  by_cases h1 : looksLikeV1 payload = true
  · exact .inl h1
  by_cases h2 : looksLikeV2 payload = true
  · exact .inr h2
  · simp only [normalizeGewePayload, h1, h2] at h
    cases h

end Normalized

/-- In a group the prefix of the text comes before the sender's field. -/
theorem conversationFields_group {sender receiver : Option Str} {text : Str} {isSelf : Bool}
    (h : (conversationFields sender receiver text isSelf).1 = .GROUP) :
    ∃ groupId, (conversationFields sender receiver text isSelf).2.1 = some groupId ∧
      (conversationFields sender receiver text isSelf).2.2 =
        (groupActor text).or (if sender = some groupId then none else sender) := by
  unfold conversationFields at h ⊢
  cases hgroup : (sender.filter isGroupId).or (receiver.filter isGroupId) with
  | none =>
    rw [hgroup] at h
    cases h
  | some groupId => exact ⟨groupId, rfl, rfl⟩

/-- The group of a conversation depends on neither the text nor the direction. -/
theorem conversationFields_congr (sender receiver : Option Str) (text other : Str)
    (isSelf isSelf' : Bool)
    (h : (conversationFields sender receiver text isSelf).1 = .GROUP) :
    (conversationFields sender receiver other isSelf').1 = .GROUP ∧
      (conversationFields sender receiver other isSelf').2.1 =
        (conversationFields sender receiver text isSelf).2.1 := by
  unfold conversationFields at h ⊢
  cases hgroup : (sender.filter isGroupId).or (receiver.filter isGroupId) with
  | none =>
    rw [hgroup] at h
    cases h
  | some groupId => exact ⟨rfl, rfl⟩

section Changed

variable {payload other : Fields}

theorem field_congr {fields fields' : Fields} {key : String}
    (h : Json.get fields (py key) = Json.get fields' (py key)) :
    field fields key = field fields' key := by rw [field, field, h]

theorem hasKey_congr {fields fields' : Fields} {key : String}
    (h : Json.get fields (py key) = Json.get fields' (py key)) :
    hasKey fields key = hasKey fields' key := by rw [hasKey, hasKey, h]

theorem SameButText.looksLikeV1 (h : SameButText payload other) :
    looksLikeV1 other = looksLikeV1 payload := by
  unfold SameButText at h
  split at h
  · obtain ⟨hkeys, hdata, -⟩ := h
    simp only [GeweNormalizer.looksLikeV1, hdata,
      hasKey_congr (hkeys (py "Appid") (by decide)), hasKey_congr (hkeys (py "TypeName") (by decide))]
  · simp only [GeweNormalizer.looksLikeV1, hasKey_congr (h (py "Data") (by decide)),
      hasKey_congr (h (py "Appid") (by decide)), hasKey_congr (h (py "TypeName") (by decide))]

theorem SameButText.isMessage (h : SameButText payload other) (hmessage : IsMessage payload) :
    IsMessage other := by
  by_cases h1 : GeweNormalizer.looksLikeV1 payload = true
  · exact .inl (h.looksLikeV1.trans h1)
  · have h2 := hmessage.resolve_left h1
    rw [SameButText, if_neg h1] at h
    right
    simpa only [looksLikeV2, List.any_cons, List.any_nil,
      hasKey_congr (h (py "appid") (by decide)), hasKey_congr (h (py "newMsgId") (by decide)),
      hasKey_congr (h (py "msgType") (by decide)), hasKey_congr (h (py "isSelf") (by decide))]
      using h2

theorem SameButText.ends (h : SameButText payload other) :
    fromUser other = fromUser payload ∧ toUser other = toUser payload := by
  have hversion := h.looksLikeV1
  unfold SameButText at h
  simp only [fromUser, toUser, hversion]
  split at h
  · rename_i h1
    obtain ⟨-, -, hdata⟩ := h
    simp only [h1, if_true, field_congr (hdata (py "FromUserName") (by decide)),
      field_congr (hdata (py "ToUserName") (by decide)), and_self]
  · rename_i h1
    simp only [h1, field_congr (h (py "fromUser") (by decide)),
      field_congr (h (py "toUser") (by decide))]
    exact ⟨rfl, rfl⟩

end Changed

/-- The actor of a group message with an explicit sender. -/
theorem group_actor (lib : Library) {payload : Fields} {sender : Str}
    (hgroup : (normalizeGewePayload lib payload).conversationType = .GROUP)
    (hsender : fromUser payload = some sender)
    (hother : (normalizeGewePayload lib payload).conversationId ≠ some sender) :
    (normalizeGewePayload lib payload).actorWxid =
      (groupActor (rawContent payload)).or (some sender) := by
  have hfields := normalize_conversation lib (isMessage_of_group lib hgroup)
  simp only [Prod.ext_iff] at hfields
  obtain ⟨htype, hid, hactor⟩ := hfields
  rw [htype] at hgroup
  obtain ⟨groupId, hgroupId, hfound⟩ := conversationFields_group hgroup
  rw [hid, hgroupId] at hother
  rw [hactor, hfound, hsender, if_neg]
  intro hsame
  exact hother hsame.symm

/-- A change of the text keeps the sender's field the actor exactly when neither text begins
like the message of somebody else. -/
theorem actor_not_spoofed (lib : Library) (payload other : Fields) (sender : Str)
    (hgroup : (normalizeGewePayload lib payload).conversationType = .GROUP)
    (hsender : fromUser payload = some sender)
    (hother : (normalizeGewePayload lib payload).conversationId ≠ some sender)
    (hsame : SameButText payload other) :
    (normalizeGewePayload lib payload).actorWxid = some sender ∧
        (normalizeGewePayload lib other).actorWxid = some sender ↔
      ¬ PosesAsOther sender (rawContent payload) ∧ ¬ PosesAsOther sender (rawContent other) := by
  have hmessage := isMessage_of_group lib hgroup
  have hfields := normalize_conversation lib hmessage
  have hfields' := normalize_conversation lib (hsame.isMessage hmessage)
  rw [hsame.ends.1, hsame.ends.2] at hfields'
  simp only [Prod.ext_iff] at hfields hfields'
  have hcongr := conversationFields_congr (fromUser payload) (toUser payload) (rawContent payload)
    (rawContent other) (normalizeGewePayload lib payload).isSelf
    (normalizeGewePayload lib other).isSelf (hfields.1 ▸ hgroup)
  have hgroup' : (normalizeGewePayload lib other).conversationType = .GROUP :=
    hfields'.1.trans hcongr.1
  have hother' : (normalizeGewePayload lib other).conversationId ≠ some sender := by
    rw [hfields'.2.1, hcongr.2, ← hfields.2.1]
    exact hother
  rw [group_actor lib hgroup hsender hother,
    group_actor lib hgroup' (hsame.ends.1.trans hsender) hother', actor_eq_sender, actor_eq_sender]

theorem SenderId.no_separator {sender : Str} (h : SenderId sender) : ¬ py ":\n" <:+: sender :=
  fun hsub => h.colon (hsub.subset (by decide))

theorem groupActor_sender {sender : Str} (h : SenderId sender) (text : Str) :
    groupActor (sender ++ py ":\n" ++ text) =
      if py "wxid_" <+: sender then some sender else none := by
  rw [groupActor, beforeSeparator_append text h.no_separator]
  simp [Option.filter_some]

theorem conversationFields_from_group {group : Str} (h : isGroupId group = true)
    (receiver : Option Str) (text : Str) (isSelf : Bool) :
    conversationFields (some group) receiver text isSelf =
      (.GROUP, some group, groupActor text) := by
  simp [conversationFields, h, Option.filter_some]

section Events

variable (b : Backend) (r : Received) (id inboxId : UUID) (account : Option UUID)

theorem messageText_event (hmessage : IsMessage r.payload) :
    messageText (r.event b id inboxId account) =
      if (r.event b id inboxId account).conversationType = .GROUP ∧
          (r.event b id inboxId account).actorWxid.getD [] ≠ [] ∧
          ((r.event b id inboxId account).actorWxid.getD [] ++ py ":\n").isPrefixOf
            (rawContent r.payload) then
        (rawContent r.payload).drop
          ((r.event b id inboxId account).actorWxid.getD [] ++ py ":\n").length
      else rawContent r.payload := by
  have hcontent : Json.get (r.event b id inboxId account).content (py "raw_content") =
      some (.str (rawContent r.payload)) := normalize_rawContent b.library hmessage
  simp only [messageText, hcontent]

theorem messageText_private (hmessage : IsMessage r.payload)
    (hprivate : (r.event b id inboxId account).conversationType = .PRIVATE) :
    messageText (r.event b id inboxId account) = rawContent r.payload := by
  rw [messageText_event b r id inboxId account hmessage, if_neg]
  rintro ⟨hgroup, -⟩
  rw [hprivate] at hgroup
  cases hgroup

theorem event_from_group {group : Str} (hmessage : IsMessage r.payload)
    (hgroup : isGroupId group = true) (hfrom : fromUser r.payload = some group) :
    (r.event b id inboxId account).conversationType = .GROUP ∧
      (r.event b id inboxId account).conversationId = some group ∧
      (r.event b id inboxId account).actorWxid = groupActor (rawContent r.payload) := by
  have hfields := normalize_conversation b.library hmessage
  rw [hfrom, conversationFields_from_group hgroup] at hfields
  simp only [Prod.mk.injEq] at hfields
  exact hfields

/-- What a member with an id of the `wxid_` form has sent to a group is read like a private
message of that member; with any other id the text stays whole and has no actor. -/
theorem group_round_trip (group sender text : Str) (hmessage : IsMessage r.payload)
    (hgroup : isGroupId group = true) (hfrom : fromUser r.payload = some group)
    (hsender : SenderId sender) (hcontent : rawContent r.payload = sender ++ py ":\n" ++ text) :
    (py "wxid_" <+: sender →
      (r.event b id inboxId account).actorWxid = some sender ∧
      messageText (r.event b id inboxId account) = text ∧
      ∀ (other : Received) (otherId otherInboxId : UUID) (otherAccount : Option UUID),
        IsMessage other.payload → rawContent other.payload = text →
        (other.event b otherId otherInboxId otherAccount).conversationType = .PRIVATE →
        ∀ casefold routes,
          commandRoutes casefold routes (messageText (r.event b id inboxId account)) =
            commandRoutes casefold routes
              (messageText (other.event b otherId otherInboxId otherAccount))) ∧
    (¬ py "wxid_" <+: sender →
      (r.event b id inboxId account).actorWxid = none ∧
      messageText (r.event b id inboxId account) = rawContent r.payload) := by
  obtain ⟨htype, -, hactor⟩ := event_from_group b r id inboxId account hmessage hgroup hfrom
  have htext := messageText_event b r id inboxId account hmessage
  rw [hcontent, groupActor_sender hsender] at hactor
  rw [htype, hactor, hcontent] at htext
  constructor
  · intro hwxid
    rw [if_pos hwxid] at hactor htext
    have hback : messageText (r.event b id inboxId account) = text := by
      rw [htext, if_pos]
      · simp
      · exact ⟨rfl, hsender.nonempty, List.isPrefixOf_iff_prefix.mpr (List.prefix_append _ _)⟩
    refine ⟨hactor, hback, ?_⟩
    intro other otherId otherInboxId otherAccount hother hsame hprivate casefold routes
    rw [hback, messageText_private b other otherId otherInboxId otherAccount hother hprivate, hsame]
  · intro hwxid
    rw [if_neg hwxid] at hactor htext
    refine ⟨hactor, ?_⟩
    rw [htext, if_neg, hcontent]
    rintro ⟨-, hne, -⟩
    exact hne rfl

end Events

section Sample

/-- Folds nothing and reads no time stamps. -/
def plainLibrary : Library := ⟨id, fun _ => none⟩

/-- A message that `wxid_a` has sent to a group. -/
def groupMessage (text : Str) : Fields :=
  [(py "appid", .str (py "app")), (py "newMsgId", .int 7), (py "msgType", .int 1),
    (py "fromUser", .str (py "wxid_a")), (py "toUser", .str (py "1@chatroom")),
    (py "content", .str text), (py "isSelf", .bool false)]

theorem groupMessage_sameButText (text other : Str) :
    SameButText (groupMessage text) (groupMessage other) := by
  intro key hkey
  simp [groupMessage, Json.get, List.find?_cons, Ne.symm hkey]

/-- A text that begins like the prefix of another member makes that member the actor. -/
theorem posing_message :
    (normalizeGewePayload plainLibrary (groupMessage (py "hi"))).actorWxid = some (py "wxid_a") ∧
      (normalizeGewePayload plainLibrary (groupMessage (py "wxid_b:\nhi"))).actorWxid =
        some (py "wxid_b") ∧
      ¬ ∀ payload other sender,
        (normalizeGewePayload plainLibrary payload).conversationType = .GROUP →
        fromUser payload = some sender →
        (normalizeGewePayload plainLibrary payload).conversationId ≠ some sender →
        SameButText payload other →
        (normalizeGewePayload plainLibrary payload).actorWxid = some sender ∧
          (normalizeGewePayload plainLibrary other).actorWxid = some sender := by
  refine ⟨by decide, by decide, ?_⟩
  intro hclaim
  have hactor := (hclaim _ _ (py "wxid_a") (by decide) (by decide) (by decide)
    (groupMessage_sameButText (py "hi") (py "wxid_b:\nhi"))).2
  revert hactor
  decide

theorem actor_not_spoofed_reply :
    (normalizeGewePayload plainLibrary (groupMessage (py "hi"))).actorWxid = some (py "wxid_a") ∧
      (normalizeGewePayload plainLibrary (groupMessage (py "bob:\nhi"))).actorWxid =
        some (py "wxid_a") := by
  apply (actor_not_spoofed plainLibrary (groupMessage (py "hi")) (groupMessage (py "bob:\nhi"))
    (py "wxid_a") (by decide) (by decide) (by decide) (groupMessage_sameButText _ _)).mpr
  constructor
  · apply (actor_eq_sender _ _).mp
    decide
  · apply (actor_eq_sender _ _).mp
    decide

def plainBackend : Backend where
  library := plainLibrary
  maxBodyBytes := 0
  loads := fun _ => .error .invalid
  utf8 := fun _ => []
  sha256 := fun _ => []
  queries := fun _ => true
  varchar := fun _ s => some s
  jsonDocument := some

/-- A message of a group, as the provider delivers it for another member. -/
def deliveredGroup (text : Str) : Received where
  connection := ⟨7, [], none, none, none⟩
  rawBody := []
  payload := [(py "newMsgId", .int 7), (py "fromUser", .str (py "1@chatroom")),
    (py "content", .str text)]
  now := 0

def deliveredPrivate (text : Str) : Received where
  connection := ⟨7, [], none, none, none⟩
  rawBody := []
  payload := [(py "newMsgId", .int 8), (py "fromUser", .str (py "wxid_a")),
    (py "content", .str text)]
  now := 0

/-- An older id without the `wxid_` in front is not taken off the text. -/
theorem group_round_trip_fails :
    SenderId (py "alice") ∧
    ((deliveredGroup (py "alice:\n/help")).event plainBackend 1 2 none).conversationType = .GROUP ∧
    ((deliveredGroup (py "alice:\n/help")).event plainBackend 1 2 none).actorWxid = none ∧
    messageText ((deliveredGroup (py "alice:\n/help")).event plainBackend 1 2 none) =
      py "alice:\n/help" ∧
    PluginScope.parseCommand
      (messageText ((deliveredGroup (py "alice:\n/help")).event plainBackend 1 2 none)) = none ∧
    PluginScope.parseCommand (py "/help") = some (py "help", []) :=
  ⟨⟨by decide, by decide, by decide⟩, by decide, by decide, by decide, by decide, by decide⟩

theorem group_round_trip_help :
    ((deliveredGroup (py "wxid_a:\n/help me")).event plainBackend 1 2 none).actorWxid =
      some (py "wxid_a") ∧
    ∀ casefold routes, commandRoutes casefold routes
        (messageText ((deliveredGroup (py "wxid_a:\n/help me")).event plainBackend 1 2 none)) =
      commandRoutes casefold routes
        (messageText ((deliveredPrivate (py "/help me")).event plainBackend 3 4 none)) := by
  have htrip := (group_round_trip plainBackend (deliveredGroup (py "wxid_a:\n/help me")) 1 2 none
    (py "1@chatroom") (py "wxid_a") (py "/help me") (.inr (by decide)) (by decide) (by decide)
    ⟨by decide, by decide, by decide⟩ (by decide)).1 (by decide)
  exact ⟨htrip.1, htrip.2.2 (deliveredPrivate (py "/help me")) 3 4 none (.inr (by decide))
    (by decide) (by decide)⟩

end Sample

end WechatBot.GroupSenders
