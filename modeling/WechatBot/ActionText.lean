import WechatBot.JsonText
import WechatBot.OutboxService
import WechatBot.PrefixCodes
import WechatBot.Timestamps

/-!
# The canonical text of an action

`_action_hash` writes the action as JSON with sorted keys and without ASCII escapes, and
takes the digest of the text. The text determines the action.
-/
namespace WechatBot.ActionText

open PyData OutboxState OutboxService PrefixCodes Timestamps
open Records (AclResourceType)
open JsonText (intText intText_inj intText_chars number_inj boundary_cons shortEscape shortEscape_inj
  shortEscape_letter shortEscape_none)

/-- The text of an expiry. A time out of the range of `datetime`, which no value of the
program has, is written as a signed number. -/
def expiryText (value : Int) : Str :=
  if InRange value then isoformat value else 43 :: intText value

theorem expiryText_injective : Function.Injective expiryText := by
  intro x y h
  unfold expiryText at h
  split at h
  · rename_i hx
    split at h
    · rename_i hy
      exact isoformat_injOn hx hy h
    · exact absurd h (isoformat_ne_sign _ _)
  · split at h
    · exact absurd h.symm (isoformat_ne_sign _ _)
    · exact intText_inj (List.cons.inj h).2

def escapeChar (c : Nat) : Str :=
  match shortEscape c with
  | some letter => [92, letter]
  | none => if c < 32 then 92 :: 117 :: hexDigits c 3 4 else [c]

def jsonString (s : Str) : Str := [34] ++ endedBy 34 escapeChar s

theorem escapeChar_cases (c : Nat) :
    (∃ l, shortEscape c = some l ∧ escapeChar c = [92, l]) ∨
      (c < 32 ∧ escapeChar c = 92 :: 117 :: hexDigits c 3 4) ∨
      (c ≠ 34 ∧ c ≠ 92 ∧ escapeChar c = [c]) := by
  unfold escapeChar
  cases hshort : shortEscape c with
  | some l => exact .inl ⟨l, rfl, rfl⟩
  | none =>
    obtain ⟨hquote, hslash⟩ := shortEscape_none hshort
    by_cases hcontrol : c < 32
    · exact .inr (.inl ⟨hcontrol, by simp [hcontrol]⟩)
    · exact .inr (.inr ⟨hquote, hslash, by simp [hcontrol]⟩)

theorem escapeChar_starts : NeverStarts escapeChar 34 := by
  intro c
  rcases escapeChar_cases c with ⟨l, -, hc⟩ | ⟨-, hc⟩ | ⟨hquote, -, hc⟩
  · exact ⟨92, [l], hc, by decide⟩
  · exact ⟨92, _, hc, by decide⟩
  · exact ⟨c, [], hc, hquote⟩

theorem escapeChar_delimits : SelfDelimiting escapeChar := by
  intro a b r r' h
  obtain ⟨l, hl, ha⟩ | ⟨hlow, ha⟩ | ⟨hq, hs, ha⟩ := escapeChar_cases a <;>
    obtain ⟨m, hm, hb⟩ | ⟨hlow', hb⟩ | ⟨hq', hs', hb⟩ := escapeChar_cases b <;>
    rw [ha, hb] at h <;> simp only [List.cons_append, List.nil_append, List.cons.injEq] at h
  · exact ⟨shortEscape_inj hl (h.2.1 ▸ hm), h.2.2⟩
  · exact absurd h.2.1 (shortEscape_letter hl)
  · omega
  · exact absurd h.2.1.symm (shortEscape_letter hm)
  · obtain ⟨hdigits, hrest⟩ := List.append_inj h.2.2 (by rw [length_hexDigits, length_hexDigits])
    have hmod := hexDigits_inj 4 3 (by omega) hdigits
    simp only [Nat.reduceAdd, Nat.reduceSub, Nat.reducePow, Nat.div_one] at hmod
    exact ⟨by omega, hrest⟩
  · omega
  · omega
  · omega
  · exact h

theorem jsonString_delimits : SelfDelimiting jsonString :=
  (endedBy_delimits escapeChar_delimits escapeChar_starts).after [34]

theorem jsonString_starts {mark : Nat} (h : 34 ≠ mark) : NeverStarts jsonString mark :=
  fun _ => ⟨34, _, rfl, h⟩

def resourceTypeText : AclResourceType → String
  | .CATEGORY => "CATEGORY"
  | .PLUGIN => "PLUGIN"
  | .COMMAND => "COMMAND"
  | .TOOL => "TOOL"
  | .AGENT => "AGENT"
  | .CAPABILITY => "CAPABILITY"

def idText (id : UUID) : Str := jsonString (uuidStr id)

def orNull {α : Type} (f : α → Str) : Option α → Str := optionCode (110 :: py "ull") f

/-- `authorization_context.model_dump(mode="json")`. -/
def contextText (context : OutboxAuthorizationContext) : Str :=
  (py "\x7b\"actor_principal_id\":" ++ orNull idText context.actorPrincipalId) ++
  (py ",\"chatroom_id\":" ++ orNull idText context.chatroomId) ++
  (py ",\"contact_id\":" ++ orNull idText context.contactId) ++
  (py ",\"deployment_id\":" ++ idText context.deploymentId) ++
  (py ",\"deployment_revision_id\":" ++ idText context.deploymentRevisionId) ++
  (py ",\"parent_plugin_id\":" ++ orNull jsonString context.parentPluginId) ++
  (py ",\"resource_id\":" ++ jsonString context.resourceId) ++
  (py ",\"resource_type\":" ++ jsonString (py (resourceTypeText context.resourceType))) ++
  (py ",\"schema_version\":\"1.0\",\"workspace_id\":" ++ (idText context.workspaceId ++ py "\x7d"))

def canonicalText (action : CanonicalAction) : Str :=
  (py "\x7b\"actionType\":" ++ jsonString (py action.actionType)) ++
  (py ",\"authorizationContext\":" ++ orNull contextText action.authorizationContext) ++
  (py ",\"botAccountId\":" ++ idText action.botAccountId) ++
  (py ",\"expiresAt\":" ++ orNull (fun value => jsonString (expiryText value)) action.expiresAt) ++
  (py ",\"payload\":\x7b\"at_wxids\":[" ++ separatedBy 44 93 jsonString action.payload.atWxids) ++
  (py ",\"text\":" ++ jsonString action.payload.text) ++
  (py "\x7d,\"priority\":" ++ (intText action.priority ++ [44])) ++
  (py "\"targetWxid\":" ++ (jsonString action.targetWxid ++ py "\x7d"))

theorem py_injective : Function.Injective py := by
  intro s t h
  have hchars : s.toList = t.toList :=
    List.map_injective_iff.mpr (fun a b hab => Char.toNat_inj.mp hab) h
  exact String.toList_inj.mp hchars

theorem resourceTypeText_injective : Function.Injective resourceTypeText := by
  intro a b h
  cases a <;> cases b <;> first | rfl | (revert h; decide)

theorem idText_delimits : SelfDelimiting idText :=
  jsonString_delimits.comap fun _ _ h => uuidStr_inj h

theorem idText_starts {mark : Nat} (h : 34 ≠ mark) : NeverStarts idText mark :=
  fun u => jsonString_starts h (uuidStr u)

theorem orNull_delimits {α : Type} {f : α → Str} (hf : SelfDelimiting f)
    (hstart : NeverStarts f 110) : SelfDelimiting (orNull f) := hf.option _ hstart

theorem number_delimits : SelfDelimiting fun n : Int => intText n ++ [44] := by
  intro a b r r' h
  simp only [List.append_assoc, List.cons_append, List.nil_append] at h
  obtain ⟨htext, hrest⟩ := number_inj (intText_chars a) (intText_chars b)
    (boundary_cons r (by decide)) (boundary_cons r' (by decide)) h
  exact ⟨intText_inj htext, (List.cons.inj hrest).2⟩

theorem contextText_delimits : SelfDelimiting contextText := by
  have hid : SelfDelimiting (orNull idText) := orNull_delimits idText_delimits (idText_starts (by decide))
  have htype : SelfDelimiting fun t => jsonString (py (resourceTypeText t)) :=
    jsonString_delimits.comap (py_injective.comp resourceTypeText_injective)
  have hparent : SelfDelimiting (orNull jsonString) :=
    orNull_delimits jsonString_delimits (jsonString_starts (by decide))
  have hfields := ((((((((hid.after (py "\x7b\"actor_principal_id\":")).append
    (hid.after (py ",\"chatroom_id\":"))).append
    (hid.after (py ",\"contact_id\":"))).append
    (idText_delimits.after (py ",\"deployment_id\":"))).append
    (idText_delimits.after (py ",\"deployment_revision_id\":"))).append
    (hparent.after (py ",\"parent_plugin_id\":"))).append
    (jsonString_delimits.after (py ",\"resource_id\":"))).append
    (htype.after (py ",\"resource_type\":"))).append
    ((idText_delimits.before (py "\x7d")).after (py ",\"schema_version\":\"1.0\",\"workspace_id\":"))
  intro a b r r' h
  obtain ⟨hsame, hr⟩ := hfields
    ((((((((a.actorPrincipalId, a.chatroomId), a.contactId), a.deploymentId), a.deploymentRevisionId),
      a.parentPluginId), a.resourceId), a.resourceType), a.workspaceId)
    ((((((((b.actorPrincipalId, b.chatroomId), b.contactId), b.deploymentId), b.deploymentRevisionId),
      b.parentPluginId), b.resourceId), b.resourceType), b.workspaceId) r r' h
  refine ⟨?_, hr⟩
  cases a
  cases b
  simp only [Prod.mk.injEq] at hsame
  simp only [OutboxAuthorizationContext.mk.injEq]
  tauto

theorem contextText_starts : NeverStarts contextText 110 := fun _ => ⟨123, _, rfl, by decide⟩

/-- No two actions have one text: every field of the action is in it. -/
theorem canonicalText_injective : Function.Injective canonicalText := by
  have htype : SelfDelimiting fun t => jsonString (py t) := jsonString_delimits.comap py_injective
  have hexpiry : SelfDelimiting fun value => jsonString (expiryText value) :=
    jsonString_delimits.comap expiryText_injective
  have hmentions : SelfDelimiting (separatedBy 44 93 jsonString) :=
    separatedBy_delimits jsonString_delimits (by decide) (jsonString_starts (by decide))
  have hfields := (((((((htype.after (py "\x7b\"actionType\":")).append
    ((orNull_delimits contextText_delimits contextText_starts).after
      (py ",\"authorizationContext\":"))).append
    (idText_delimits.after (py ",\"botAccountId\":"))).append
    ((orNull_delimits hexpiry fun value => jsonString_starts (by decide) (expiryText value)).after
      (py ",\"expiresAt\":"))).append
    (hmentions.after (py ",\"payload\":\x7b\"at_wxids\":["))).append
    (jsonString_delimits.after (py ",\"text\":"))).append
    (number_delimits.after (py "\x7d,\"priority\":"))).append
    ((jsonString_delimits.before (py "\x7d")).after (py "\"targetWxid\":"))
  intro a b h
  have hsame : (((((((a.actionType, a.authorizationContext), a.botAccountId), a.expiresAt),
      a.payload.atWxids), a.payload.text), a.priority), a.targetWxid) =
      (((((((b.actionType, b.authorizationContext), b.botAccountId), b.expiresAt),
      b.payload.atWxids), b.payload.text), b.priority), b.targetWxid) := hfields.injective h
  obtain ⟨_, _, _, _, ⟨_, _, _, _⟩, _, _⟩ := a
  obtain ⟨_, _, _, _, ⟨_, _, _, _⟩, _, _⟩ := b
  simp only [Prod.mk.injEq] at hsame
  simp only [CanonicalAction.mk.injEq, TextOutboxPayload.mk.injEq]
  tauto

end WechatBot.ActionText
