import Mathlib.Logic.Relation
import WechatBot.DiscoveryFacts
import WechatBot.MembershipEpochs
import WechatBot.Runs

/-!
# Member rules end with their membership

The epochs of a member count its memberships, and only the last one can be active. A rule
of a member is bound to one chatroom and one epoch, so it goes with that membership and no
later one brings it back.
-/
namespace WechatBot.EpochFence

open PyData Records Policy UuidText MembershipEpochs
open Discovery (activeMembership latestEpoch latestEpoch_le)
open SenderSystem (departing Revocation)
open Runs

/-- The memberships of one member in the order of their creation. -/
structure Epochs (rows : List ChatroomMembership) : Prop where
  numbered : rows.map (·.membershipEpoch) = List.range' 1 rows.length
  last : ∀ m ∈ rows, m.leftAt = none → m.membershipEpoch = rows.length

theorem latestEpoch_numbered {rows : List ChatroomMembership}
    (h : rows.map (·.membershipEpoch) = List.range' 1 rows.length) :
    latestEpoch rows = rows.length := by
  apply Nat.le_antisymm
  · have hbound : ∀ epochs : List Nat, (∀ e ∈ epochs, e ≤ rows.length) →
        epochs.foldr max 0 ≤ rows.length := by
      intro epochs hall
      induction epochs with
      | nil => exact Nat.zero_le _
      | cons e epochs ih =>
        exact Nat.max_le.mpr ⟨hall e (by simp), ih fun d hd => hall d (by simp [hd])⟩
    apply hbound
    intro e he
    rw [h, List.mem_range'_1] at he
    omega
  · rcases Nat.eq_zero_or_pos rows.length with hzero | hpos
    · omega
    · have hmem : rows.length ∈ rows.map (·.membershipEpoch) := by
        rw [h, List.mem_range'_1]
        omega
      obtain ⟨m, hm, heq⟩ := List.mem_map.mp hmem
      have := latestEpoch_le hm
      omega

/-- No epoch is used twice. -/
theorem epochs_nodup {rows : List ChatroomMembership} (h : Epochs rows) :
    (rows.map (·.membershipEpoch)).Nodup := by
  rw [h.numbered]
  exact List.nodup_range'

/-- Two rows of a member with one epoch are the same. -/
theorem eq_of_epoch {rows : List ChatroomMembership} (h : Epochs rows) {m m' : ChatroomMembership}
    (hm : m ∈ rows) (hm' : m' ∈ rows) (heq : m.membershipEpoch = m'.membershipEpoch) : m = m' :=
  List.inj_on_of_nodup_map (epochs_nodup h) hm hm' heq

/-- At most one membership is active, and it has the greatest epoch. -/
theorem active_last {rows : List ChatroomMembership} (h : Epochs rows) {m : ChatroomMembership}
    (hm : m ∈ rows) (hactive : m.leftAt = none) :
    ∀ m' ∈ rows, m'.membershipEpoch ≤ m.membershipEpoch ∧ (m'.leftAt = none → m' = m) := by
  intro m' hm'
  have hmem : m'.membershipEpoch ∈ rows.map (·.membershipEpoch) := List.mem_map.mpr ⟨m', hm', rfl⟩
  rw [h.numbered, List.mem_range'_1] at hmem
  have hlast := h.last m hm hactive
  refine ⟨by omega, fun hactive' => eq_of_epoch h hm' hm ?_⟩
  rw [h.last m' hm' hactive', hlast]

/-- Where no membership is active, every one has been left. -/
theorem activeMembership_none {rows : List ChatroomMembership} (h : activeMembership rows = none) :
    ∀ m ∈ rows, m.leftAt ≠ none := by
  intro m hm hactive
  have hnone := List.find?_eq_none.mp h m hm
  simp [hactive] at hnone

/-- The next membership of a member that has no active one. -/
theorem epochs_joined {rows : List ChatroomMembership} (h : Epochs rows)
    (hnone : ∀ m ∈ rows, m.leftAt ≠ none) {row : ChatroomMembership}
    (hepoch : row.membershipEpoch = latestEpoch rows + 1) : Epochs (rows ++ [row]) := by
  have hnext : row.membershipEpoch = rows.length + 1 := by
    rw [hepoch, latestEpoch_numbered h.numbered]
  constructor
  · rw [List.map_append, h.numbered, List.length_append, List.map_singleton, List.length_singleton,
      List.range'_concat, hnext, Nat.one_mul, Nat.add_comm]
  · intro m hm hactive
    rw [List.length_append, List.length_singleton]
    rcases List.mem_append.mp hm with hm | hm
    · exact absurd hactive (hnone m hm)
    · rw [List.mem_singleton.mp hm, hnext]

/-- A change that ends memberships and keeps their epochs. -/
theorem epochs_ended {rows : List ChatroomMembership} (h : Epochs rows)
    {change : ChatroomMembership → ChatroomMembership}
    (hepoch : ∀ m, (change m).membershipEpoch = m.membershipEpoch)
    (hactive : ∀ m, (change m).leftAt = none → m.leftAt = none) : Epochs (rows.map change) := by
  constructor
  · rw [List.map_map, List.length_map, ← h.numbered]
    exact List.map_congr_left fun m _ => hepoch m
  · intro m hm hnone
    obtain ⟨old, hold, rfl⟩ := List.mem_map.mp hm
    rw [hepoch, List.length_map]
    exact h.last old hold (hactive old hnone)

/-- Two versions of a rule bind it to the same members. -/
def SameBinding (rule rule' : AclRule) : Prop :=
  rule'.id = rule.id ∧ rule'.principalId = rule.principalId ∧ rule'.scopeType = rule.scopeType ∧
    rule'.scopeId = rule.scopeId ∧ rule'.membershipEpoch = rule.membershipEpoch

theorem SameBinding.trans {a b c : AclRule} (h : SameBinding a b) (h' : SameBinding b c) :
    SameBinding a c := by
  obtain ⟨hid, hprincipal, htype, hscope, hepoch⟩ := h
  obtain ⟨hid', hprincipal', htype', hscope', hepoch'⟩ := h'
  exact ⟨hid'.trans hid, hprincipal'.trans hprincipal, htype'.trans htype, hscope'.trans hscope,
    hepoch'.trans hepoch⟩

/-- The rule is for one membership of the member. -/
structure Bound (around : Surroundings) (rule : AclRule) (memberWxid : Str) : Prop where
  scopeType : rule.scopeType = .CHATROOM
  membership : ∃ chatroomId, uuidOf rule.scopeId = some chatroomId ∧
    ∃ m ∈ memberRows around chatroomId memberWxid, rule.membershipEpoch = some m.membershipEpoch

/-- A membership after the member has left the chatroom. -/
def afterLeave (around : Surroundings) (chatroomId : UUID) (memberWxid : Str) (now : Time)
    (m : ChatroomMembership) : ChatroomMembership :=
  if m ∈ activeMemberships around chatroomId memberWxid then { m with leftAt := some now } else m

/-- One write of a step. -/
inductive Change (around : Surroundings) : Surroundings → Prop where
  | joined (row : ChatroomMembership)
      (left : ∀ m ∈ memberRows around row.chatroomId row.memberWxid, m.leftAt ≠ none)
      (epoch : row.membershipEpoch =
        latestEpoch (memberRows around row.chatroomId row.memberWxid) + 1) :
      Change around { around with memberships := around.memberships ++ [row] }
  | ended (chatroomId : UUID) (memberWxid : Str) (now : Time) :
      Change around { around with
        memberships := around.memberships.map (afterLeave around chatroomId memberWxid now) }
  | ruleCreated (rule : AclRule) (version : UUID → Option Nat)
      (fresh : ∀ other ∈ around.rules, other.id ≠ rule.id)
      (bound : ∀ id, rule.principalId = some id → ∃ principal,
        around.principal id = some principal ∧
          (principal.principalType = .GROUP_MEMBER → Bound around rule principal.externalId)) :
      Change around { around with rules := around.rules ++ [rule], policyVersion := version }
  | rulesRevoked (change : AclRule → AclRule) (same : ∀ rule, SameBinding rule (change rule)) :
      Change around { around with rules := around.rules.map change }
  | principalSaved (id : UUID) (saved : Principal)
      (same : ∀ stored, around.principal id = some stored →
        saved.principalType = stored.principalType ∧ saved.externalId = stored.externalId) :
      Change around { around with principal := Function.update around.principal id (some saved) }
  | chatroomFound (row : Chatroom) :
      Change around { around with chatroom := Function.update around.chatroom row.id (some row) }

abbrev Changes : Surroundings → Surroundings → Prop := Relation.ReflTransGen Change

/-- A membership is inserted with the next epoch, when nobody is a member. -/
theorem insertMembership_changes {around around' : Surroundings} {row : ChatroomMembership}
    (h : insertMembership around row = some around')
    (left : ∀ m ∈ memberRows around row.chatroomId row.memberWxid, m.leftAt ≠ none)
    (epoch : row.membershipEpoch =
      latestEpoch (memberRows around row.chatroomId row.memberWxid) + 1) :
    Change around around' ∧
      around' = { around with memberships := around.memberships ++ [row] } := by
  unfold insertMembership at h
  split at h
  · cases h
  · cases h
    exact ⟨.joined row left epoch, rfl⟩

/-- Ensuring a membership inserts one, or finds it. -/
theorem ensureMembership_changes {around around' : Surroundings} {chatroomId : UUID}
    {actorWxid : Str} {id : UUID}
    (h : ensureMembership around chatroomId actorWxid id = some around') :
    Changes around around' := by
  unfold ensureMembership at h
  split at h
  · cases h
  · simp only at h
    split at h
    · cases h
      exact .refl
    · rename_i hnone
      exact .single (insertMembership_changes h (activeMembership_none hnone) rfl).1

/-- The rows of a member that no earlier member of the snapshot has touched. -/
theorem addMembers_changes {chatroomId : UUID} {read : List ChatroomMembership}
    {members : List (Str × UUID)} : ∀ {around around' : Surroundings},
    (members.map Prod.fst).Nodup →
    (∀ member ∈ members, read.filter (fun m => decide (m.memberWxid = member.1)) =
      memberRows around chatroomId member.1) →
    addMembers chatroomId read around members = some around' → Changes around around' := by
  induction members with
  | nil =>
    intro around around' _ _ h
    cases h
    exact .refl
  | cons member members ih =>
    intro around around' hnodup hread h
    obtain ⟨memberWxid, id⟩ := member
    rw [List.map_cons, List.nodup_cons] at hnodup
    have hrows := hread (memberWxid, id) List.mem_cons_self
    have hothers := fun other hother => hread other (List.mem_cons_of_mem _ hother)
    simp only [addMembers] at h
    split at h
    · exact ih hnodup.2 hothers h
    · rename_i hnone
      obtain ⟨joined, hinsert, hrest⟩ := Option.bind_eq_some_iff.mp h
      simp only at hrows
      rw [hrows] at hnone hinsert
      obtain ⟨hchange, heq⟩ := insertMembership_changes hinsert (activeMembership_none hnone) rfl
      refine .head hchange (ih hnodup.2 ?_ hrest)
      intro other hother
      -- the new row is of a member that does not come again
      have hne : memberWxid ≠ other.1 := by
        rintro rfl
        exact hnodup.1 (List.mem_map.mpr ⟨other, hother, rfl⟩)
      rw [hothers other hother, heq]
      simp [memberRows, hne]

theorem upsertMemberships_changes {around around' : Surroundings} {chatroomId : UUID}
    {members : List (Str × UUID)}
    (h : upsertMemberships around chatroomId members = some around') : Changes around around' := by
  unfold upsertMemberships at h
  split at h
  · cases h
  · rename_i hguard
    push Not at hguard
    refine addMembers_changes hguard.2 ?_ h
    intro member _
    simp only [memberRows, List.filter_filter]
    exact List.filter_congr fun m _ => Bool.and_comm _ _

/-- A leave is at most the end of the member's epoch. -/
theorem markMembershipLeft_changes {around around' : Surroundings}
    {chatroomId membershipId : UUID} {membershipEpoch : Nat} {now : Time}
    (h : markMembershipLeft around chatroomId membershipId membershipEpoch now = some around') :
    Changes around around' := by
  obtain ⟨membership, hdeparting, heq⟩ := Option.map_eq_some_iff.mp h
  simp only [Revocation.apply, hdeparting] at heq
  exact heq ▸ .single (.ended chatroomId membership.memberWxid now)

/-- The principal that a rule names is stored. -/
theorem validatePrincipal_ok {around : Surroundings} {payload : AclRuleCreate}
    {principal : Option Principal} {id : UUID}
    (h : validatePrincipal around payload = .ok principal) (hid : payload.principalId = some id) :
    ∃ p, principal = some p ∧ around.principal id = some p := by
  simp only [validatePrincipal, hid] at h
  split at h
  · cases h
  · rename_i p hp
    split at h
    · cases h
    · split at h
      · cases h
      · cases h
        exact ⟨p, rfl, hp⟩

/-- A rule of a group member is bound to its active membership. -/
theorem resolveMembershipEpoch_ok {around : Surroundings} {payload : AclRuleCreate}
    {principal : Principal} {epoch : Option Nat}
    (h : resolveMembershipEpoch around payload (some principal) = .ok epoch)
    (hmember : principal.principalType = .GROUP_MEMBER) :
    payload.scopeType = .CHATROOM ∧ ∃ chatroomId, uuidOf payload.scopeId = some chatroomId ∧
      ∃ m ∈ activeMemberships around chatroomId principal.externalId,
        epoch = some m.membershipEpoch := by
  simp only [resolveMembershipEpoch, Option.filter, hmember, decide_true, if_true] at h
  split at h
  · cases h
  · rename_i hscope
    split at h
    · cases h
    · rename_i chatroomId hparse
      have hid : uuidOf payload.scopeId = some chatroomId := by
        unfold parseUuid at hparse
        split at hparse
        · cases hparse
        · rename_i id heq
          cases hparse
          exact heq
      split at h
      · cases h
      · rename_i e hmax
        obtain ⟨m, hm, heq⟩ := List.mem_map.mp (List.max?_mem hmax)
        split at h
        · cases h
        · cases h
          exact ⟨not_not.mp hscope, chatroomId, hid, m, hm, by rw [heq]⟩

/-- A rule is created for a principal and an epoch that have been checked. -/
theorem createRule_ok {workspaceExists : UUID → Bool} {around around' : Surroundings}
    {payload : AclRuleCreate} {id : UUID} {now : Time}
    (h : createRule workspaceExists around payload id now = .ok around') :
    ∃ principal epoch, validatePrincipal around payload = .ok principal ∧
      resolveMembershipEpoch around payload principal = .ok epoch ∧
      around' = incrementVersion
        { around with rules := around.rules ++ [newRule payload epoch id now] }
        payload.workspaceId := by
  unfold createRule at h
  split at h
  · cases h
  · cases hprincipal : validatePrincipal around payload with
    | error error => simp [hprincipal, bind, Except.bind] at h
    | ok principal =>
      cases hscope : validateScope around payload with
      | error error => simp [hprincipal, hscope, bind, Except.bind] at h
      | ok =>
        cases hepoch : resolveMembershipEpoch around payload principal with
        | error error => simp [hprincipal, hscope, hepoch, bind, Except.bind] at h
        | ok epoch =>
          simp only [hprincipal, hscope, hepoch, bind, Except.bind, pure, Except.pure,
            Except.ok.injEq] at h
          exact ⟨principal, epoch, rfl, hepoch, h.symm⟩

theorem mem_memberRows {around : Surroundings} {chatroomId : UUID} {memberWxid : Str}
    {m : ChatroomMembership} : m ∈ memberRows around chatroomId memberWxid ↔
      m ∈ around.memberships ∧ m.chatroomId = chatroomId ∧ m.memberWxid = memberWxid := by
  simp [memberRows, List.mem_filter]

theorem mem_activeMemberships {around : Surroundings} {chatroomId : UUID} {memberWxid : Str}
    {m : ChatroomMembership} : m ∈ activeMemberships around chatroomId memberWxid ↔
      m ∈ memberRows around chatroomId memberWxid ∧ m.leftAt = none := by
  simp [memberRows, activeMemberships, List.mem_filter, and_assoc]

/-- A new rule is bound to the current epoch, if it is about a member. -/
theorem createRule_changes {workspaceExists : UUID → Bool} {around around' : Surroundings}
    {payload : AclRuleCreate} {id : UUID} {now : Time}
    (fresh : ∀ rule ∈ around.rules, rule.id ≠ id)
    (h : createRule workspaceExists around payload id now = .ok around') :
    Changes around around' := by
  obtain ⟨principal, epoch, hprincipal, hepoch, rfl⟩ := createRule_ok h
  refine .single (.ruleCreated (newRule payload epoch id now) _ fresh ?_)
  intro principalId hid
  obtain ⟨p, rfl, hp⟩ := validatePrincipal_ok hprincipal hid
  refine ⟨p, hp, fun hmember => ?_⟩
  obtain ⟨hscope, chatroomId, hroom, m, hm, heq⟩ := resolveMembershipEpoch_ok hepoch hmember
  exact ⟨hscope, chatroomId, hroom, m, (mem_activeMemberships.mp hm).1, heq⟩

theorem savePrincipal_changes (around : Surroundings) (row : Principal) :
    Change around (savePrincipal around row) := by
  apply Change.principalSaved
  intro stored hstored
  simp [hstored]

/-- The spec of a step. -/
theorem step_changes {workspaceExists : UUID → Bool} {around around' : Surroundings}
    {action : Action} (h : step workspaceExists around action = some around') :
    Changes around around' := by
  cases action with
  | ensureMembership chatroomId actorWxid id => exact ensureMembership_changes h
  | upsertMemberships chatroomId members => exact upsertMemberships_changes h
  | markMembershipLeft chatroomId membershipId membershipEpoch now =>
    exact markMembershipLeft_changes h
  | createRule payload id now =>
    simp only [step] at h
    split at h
    · cases h
    · rename_i hfresh
      cases hcreate : createRule workspaceExists around payload id now with
      | error error =>
        rw [hcreate] at h
        cases h
      | ok created =>
        rw [hcreate] at h
        cases h
        refine createRule_changes ?_ hcreate
        simpa using hfresh
  | revokeRule id revokedBy now =>
    cases h
    apply Relation.ReflTransGen.single
    apply Change.rulesRevoked
    intro rule
    split
    · exact ⟨rfl, rfl, rfl, rfl, rfl⟩
    · exact ⟨rfl, rfl, rfl, rfl, rfl⟩
  | createPrincipal row =>
    cases h
    exact .single (savePrincipal_changes around row)
  | discoverChatroom row =>
    simp only [step] at h
    split at h
    · cases h
    · cases h
      exact .single (.chatroomFound row)

/-- The memberships are not taken back, the principals stay who they are and the rules stay
bound as they were. -/
structure Kept (before after : Surroundings) : Prop where
  membership : ∀ chatroomId memberWxid, ∀ m ∈ memberRows before chatroomId memberWxid,
    ∃ m' ∈ memberRows after chatroomId memberWxid,
      m'.membershipEpoch = m.membershipEpoch ∧ (m.leftAt ≠ none → m'.leftAt ≠ none)
  principal : ∀ id p, before.principal id = some p → ∃ p', after.principal id = some p' ∧
    p'.principalType = p.principalType ∧ p'.externalId = p.externalId
  rule : ∀ rule ∈ before.rules, ∃ rule' ∈ after.rules, SameBinding rule rule'

theorem Kept.refl (around : Surroundings) : Kept around around where
  membership _ _ m hm := ⟨m, hm, rfl, id⟩
  principal _ p hp := ⟨p, hp, rfl, rfl⟩
  rule rule hrule := ⟨rule, hrule, rfl, rfl, rfl, rfl, rfl⟩

theorem Kept.trans {a b c : Surroundings} (h : Kept a b) (h' : Kept b c) : Kept a c := by
  constructor
  · intro chatroomId memberWxid m hm
    obtain ⟨m', hm', hepoch, hleft⟩ := h.membership chatroomId memberWxid m hm
    obtain ⟨m'', hm'', hepoch', hleft'⟩ := h'.membership chatroomId memberWxid m' hm'
    exact ⟨m'', hm'', hepoch'.trans hepoch, fun hne => hleft' (hleft hne)⟩
  · intro id p hp
    obtain ⟨p', hp', htype, hid⟩ := h.principal id p hp
    obtain ⟨p'', hp'', htype', hid'⟩ := h'.principal id p' hp'
    exact ⟨p'', hp'', htype'.trans htype, hid'.trans hid⟩
  · intro rule hrule
    obtain ⟨rule', hrule', hsame⟩ := h.rule rule hrule
    obtain ⟨rule'', hrule'', hsame'⟩ := h'.rule rule' hrule'
    exact ⟨rule'', hrule'', hsame.trans hsame'⟩

theorem afterLeave_key (around : Surroundings) (chatroomId : UUID) (memberWxid : Str) (now : Time)
    (m : ChatroomMembership) :
    (afterLeave around chatroomId memberWxid now m).chatroomId = m.chatroomId ∧
      (afterLeave around chatroomId memberWxid now m).memberWxid = m.memberWxid ∧
      (afterLeave around chatroomId memberWxid now m).membershipEpoch = m.membershipEpoch := by
  unfold afterLeave
  split
  · exact ⟨rfl, rfl, rfl⟩
  · exact ⟨rfl, rfl, rfl⟩

theorem afterLeave_left {around : Surroundings} {chatroomId : UUID} {memberWxid : Str} {now : Time}
    {m : ChatroomMembership} (h : (afterLeave around chatroomId memberWxid now m).leftAt = none) :
    m.leftAt = none := by
  unfold afterLeave at h
  split at h
  · cases h
  · exact h

/-- The rows of a member after some member has left. -/
theorem memberRows_ended (around : Surroundings) (chatroomId : UUID) (memberWxid : Str) (now : Time)
    (room : UUID) (wxid : Str) :
    memberRows { around with
        memberships := around.memberships.map (afterLeave around chatroomId memberWxid now) }
      room wxid =
      (memberRows around room wxid).map (afterLeave around chatroomId memberWxid now) := by
  unfold memberRows
  rw [List.filter_map]
  congr 1
  apply List.filter_congr
  intro m _
  obtain ⟨hroom, hwxid, _⟩ := afterLeave_key around chatroomId memberWxid now m
  simp [hroom, hwxid]

/-- A new membership is the last row of its member. -/
theorem memberRows_joined (around : Surroundings) (row : ChatroomMembership) (room : UUID)
    (wxid : Str) :
    memberRows { around with memberships := around.memberships ++ [row] } room wxid =
      if row.chatroomId = room ∧ row.memberWxid = wxid then memberRows around room wxid ++ [row]
      else memberRows around room wxid := by
  unfold memberRows
  rw [List.filter_append]
  by_cases hroom : row.chatroomId = room
  · by_cases hwxid : row.memberWxid = wxid
    · simp [hroom, hwxid]
    · simp [hwxid]
  · simp [hroom]

/-- Every change keeps the memberships, and what ended stays ended. -/
theorem Change.kept {before after : Surroundings} (h : Change before after) :
    Kept before after := by
  have hsame := Kept.refl before
  cases h with
  | joined row left epoch =>
    refine ⟨?_, hsame.principal, hsame.rule⟩
    intro chatroomId memberWxid m hm
    rw [mem_memberRows] at hm
    exact ⟨m, mem_memberRows.mpr ⟨List.mem_append_left _ hm.1, hm.2⟩, rfl, id⟩
  | ended chatroomId memberWxid now =>
    refine ⟨?_, hsame.principal, hsame.rule⟩
    intro room wxid m hm
    rw [memberRows_ended]
    exact ⟨_, List.mem_map_of_mem hm, (afterLeave_key ..).2.2,
      fun hleft hnone => hleft (afterLeave_left hnone)⟩
  | ruleCreated rule version fresh bound =>
    refine ⟨hsame.membership, hsame.principal, ?_⟩
    intro other hother
    exact ⟨other, List.mem_append_left _ hother, rfl, rfl, rfl, rfl, rfl⟩
  | rulesRevoked change same =>
    refine ⟨hsame.membership, hsame.principal, ?_⟩
    intro rule hrule
    exact ⟨change rule, List.mem_map_of_mem hrule, same rule⟩
  | principalSaved id saved same =>
    refine ⟨hsame.membership, ?_, hsame.rule⟩
    intro other p hp
    by_cases heq : other = id
    · subst heq
      exact ⟨saved, Function.update_self .., same p hp⟩
    · exact ⟨p, by rw [← hp]; exact Function.update_of_ne heq .., rfl, rfl⟩
  | chatroomFound row => exact ⟨hsame.membership, hsame.principal, hsame.rule⟩

theorem Changes.kept {before after : Surroundings} (h : Changes before after) :
    Kept before after := by
  induction h with
  | refl => exact Kept.refl before
  | tail _ hlast ih => exact ih.trans hlast.kept

structure Fenced (around : Surroundings) : Prop where
  epochs : ∀ chatroomId memberWxid, Epochs (memberRows around chatroomId memberWxid)
  rules : ∀ rule ∈ around.rules, ∀ id, rule.principalId = some id → ∃ principal,
    around.principal id = some principal ∧
      (principal.principalType = .GROUP_MEMBER → Bound around rule principal.externalId)
  ruleIds : (around.rules.map (·.id)).Nodup

theorem Fenced.initial {around : Surroundings} (hmemberships : around.memberships = [])
    (hrules : around.rules = []) : Fenced around where
  epochs chatroomId memberWxid := by
    rw [memberRows, hmemberships]
    exact ⟨rfl, fun m hm => absurd hm List.not_mem_nil⟩
  rules rule hrule := by
    rw [hrules] at hrule
    cases hrule
  ruleIds := by
    rw [hrules]
    exact List.nodup_nil

theorem Bound.same {around : Surroundings} {rule rule' : AclRule} {memberWxid : Str}
    (h : Bound around rule memberWxid) (hsame : SameBinding rule rule') :
    Bound around rule' memberWxid := by
  obtain ⟨_, _, htype, hscope, hepoch⟩ := hsame
  obtain ⟨chatroomId, hroom, m, hm, heq⟩ := h.membership
  exact ⟨htype.trans h.scopeType, chatroomId, hscope ▸ hroom, m, hm, hepoch.trans heq⟩

/-- A rule stays bound to its epoch. -/
theorem Bound.kept {before after : Surroundings} {rule : AclRule} {memberWxid : Str}
    (h : Bound before rule memberWxid) (hkept : Kept before after) :
    Bound after rule memberWxid := by
  obtain ⟨chatroomId, hroom, m, hm, heq⟩ := h.membership
  obtain ⟨m', hm', hepoch, _⟩ := hkept.membership chatroomId memberWxid m hm
  exact ⟨h.scopeType, chatroomId, hroom, m', hm', by rw [heq, hepoch]⟩

/-- What an old rule says of its principal holds of every later version of it. -/
theorem rule_kept {before after : Surroundings} {rule rule' : AclRule} {id : UUID}
    (hrules : ∀ id, rule.principalId = some id → ∃ principal, before.principal id = some principal ∧
      (principal.principalType = .GROUP_MEMBER → Bound before rule principal.externalId))
    (hkept : Kept before after) (hsame : SameBinding rule rule') (hid : rule'.principalId = some id) :
    ∃ principal, after.principal id = some principal ∧
      (principal.principalType = .GROUP_MEMBER → Bound after rule' principal.externalId) := by
  obtain ⟨p, hp, hbound⟩ := hrules id (hsame.2.1 ▸ hid)
  obtain ⟨p', hp', htype, hexternal⟩ := hkept.principal id p hp
  refine ⟨p', hp', fun hmember => ?_⟩
  rw [hexternal]
  exact ((hbound (htype ▸ hmember)).same hsame).kept hkept

/-- Every change keeps the rules of a member fenced by the epoch. -/
theorem Change.fenced {before after : Surroundings} (h : Change before after)
    (hfenced : Fenced before) : Fenced after := by
  have hkept := h.kept
  have hold := fun rule hrule id (hid : rule.principalId = some id) =>
    @rule_kept before after rule rule id (hfenced.rules rule hrule) hkept
      ⟨rfl, rfl, rfl, rfl, rfl⟩ hid
  cases h with
  | joined row left epoch =>
    refine ⟨?_, hold, hfenced.ruleIds⟩
    intro chatroomId memberWxid
    rw [memberRows_joined]
    split
    · rename_i hkey
      obtain ⟨rfl, rfl⟩ := hkey
      exact epochs_joined (hfenced.epochs _ _) left epoch
    · exact hfenced.epochs chatroomId memberWxid
  | ended chatroomId memberWxid now =>
    refine ⟨?_, hold, hfenced.ruleIds⟩
    intro room wxid
    rw [memberRows_ended]
    exact epochs_ended (hfenced.epochs room wxid) (fun m => (afterLeave_key ..).2.2)
      fun m => afterLeave_left
  | ruleCreated rule version fresh bound =>
    refine ⟨hfenced.epochs, ?_, ?_⟩
    · intro other hother id hid
      rcases List.mem_append.mp hother with hother | hother
      · exact hold other hother id hid
      · rw [List.mem_singleton.mp hother] at hid ⊢
        exact rule_kept bound hkept ⟨rfl, rfl, rfl, rfl, rfl⟩ hid
    · rw [List.map_append, List.nodup_append']
      refine ⟨hfenced.ruleIds, List.nodup_singleton _, ?_⟩
      intro id hid hnew
      obtain ⟨other, hother, rfl⟩ := List.mem_map.mp hid
      exact fresh other hother (List.mem_singleton.mp hnew)
  | rulesRevoked change same =>
    refine ⟨hfenced.epochs, ?_, ?_⟩
    · intro rule hrule id hid
      obtain ⟨old, hmem, rfl⟩ := List.mem_map.mp hrule
      exact rule_kept (hfenced.rules old hmem) hkept (same old) hid
    · rw [List.map_map]
      have hids : (fun rule => rule.id) ∘ change = fun rule => rule.id :=
        funext fun rule => (same rule).1
      rw [hids]
      exact hfenced.ruleIds
  | principalSaved id saved same => exact ⟨hfenced.epochs, hold, hfenced.ruleIds⟩
  | chatroomFound row => exact ⟨hfenced.epochs, hold, hfenced.ruleIds⟩

theorem Changes.fenced {before after : Surroundings} (h : Changes before after)
    (hfenced : Fenced before) : Fenced after := by
  induction h with
  | refl => exact hfenced
  | tail _ hlast ih => exact hlast.fenced ih

/-- `evaluate` weighs the rule for the request. -/
def IsCandidate (around : Surroundings) (request : AclEvaluationRequest) (now : Time)
    (rule : AclRule) : Prop :=
  ∃ principal, activeRequestPrincipal around request = .ok principal ∧
    ∃ candidate ∈ candidates (effectiveRules around request now) request principal
      (currentMembershipEpoch around request principal), candidate.rule = rule

/-- The rule is for a group member. -/
def MemberRule (around : Surroundings) (rule : AclRule) (principal : Principal) : Prop :=
  ∃ id, rule.principalId = some id ∧ around.principal id = some principal ∧
    principal.principalType = .GROUP_MEMBER

def MemberActive (around : Surroundings) (chatroomId : UUID) (memberWxid : Str) (epoch : Nat) :
    Prop :=
  ∃ m ∈ memberRows around chatroomId memberWxid, m.membershipEpoch = epoch ∧ m.leftAt = none

def MemberLeft (around : Surroundings) (chatroomId : UUID) (memberWxid : Str) (epoch : Nat) :
    Prop :=
  ∃ m ∈ memberRows around chatroomId memberWxid, m.membershipEpoch = epoch ∧ m.leftAt ≠ none

theorem activeRequestPrincipal_ok {around : Surroundings} {request : AclEvaluationRequest}
    {principal : Option Principal} {id : UUID}
    (h : activeRequestPrincipal around request = .ok principal)
    (hid : request.actorPrincipalId = some id) : ∃ p, principal = some p ∧
      around.principal id = some p := by
  simp only [activeRequestPrincipal, hid] at h
  split at h
  · cases h
  · rename_i p hp
    split at h
    · cases h
    · cases h
      exact ⟨p, rfl, hp⟩

/-- What a rule of a principal needs to be weighed. -/
theorem candidate_principal {around : Surroundings} {request : AclEvaluationRequest} {now : Time}
    {rule : AclRule} {id : UUID} {principal : Principal}
    (h : IsCandidate around request now rule) (hid : rule.principalId = some id)
    (hprincipal : around.principal id = some principal) :
    rule ∈ around.rules ∧ scopeScore rule request ≠ 0 ∧
      (principal.principalType = .GROUP_MEMBER →
        rule.membershipEpoch.isSome ∧
          currentMembershipEpoch around request (some principal) = rule.membershipEpoch) := by
  obtain ⟨acting, hacting, candidate, hmem, rfl⟩ := h
  obtain ⟨rule, hrule, hcandidate⟩ := List.mem_filterMap.mp hmem
  have heffective := List.mem_filter.mp hrule
  unfold candidateOf at hcandidate
  split at hcandidate
  · cases hcandidate
  · rename_i hconcerns
    simp only at hcandidate
    split at hcandidate
    · cases hcandidate
    · rename_i hscores
      cases hcandidate
      simp only at hid hconcerns
      have hactor : request.actorPrincipalId = some id := by
        have hsame := heffective.2
        simp only [hid, Bool.and_eq_true, decide_eq_true_eq, reduceCtorEq, false_or] at hsame
        exact hsame.2.symm
      obtain ⟨p, rfl, hp⟩ := activeRequestPrincipal_ok hacting hactor
      cases hprincipal.symm.trans hp
      refine ⟨heffective.1, fun hzero => hscores (.inr hzero), fun hmember => ?_⟩
      simp only [concernsPrincipal, hid, hmember, ne_eq, not_true_eq_false, decide_false,
        Bool.false_or, Bool.not_eq_false, Bool.and_eq_true, decide_eq_true_eq] at hconcerns
      obtain ⟨_, hsome, heq⟩ := hconcerns
      exact ⟨by rw [heq]; exact hsome, heq.symm⟩

/-- A member's rule is weighed only while its membership is active. -/
theorem candidate_active {around : Surroundings} (hfenced : Fenced around)
    {request : AclEvaluationRequest} {now : Time} {rule : AclRule} {principal : Principal}
    {chatroomId : UUID} {epoch : Nat} (hrule : MemberRule around rule principal)
    (hroom : uuidOf rule.scopeId = some chatroomId) (hepoch : rule.membershipEpoch = some epoch)
    (h : IsCandidate around request now rule) :
    MemberActive around chatroomId principal.externalId epoch := by
  obtain ⟨id, hid, hprincipal, hmember⟩ := hrule
  obtain ⟨hmem, hscope, hcurrent⟩ := candidate_principal h hid hprincipal
  obtain ⟨p, hp, hbound⟩ := hfenced.rules rule hmem id hid
  cases hprincipal.symm.trans hp
  have htype := (hbound hmember).scopeType
  -- the scope is the chatroom of the request
  cases hrequest : request.chatroomId with
  | none => exact absurd (by simp [scopeScore, htype, hrequest]) hscope
  | some room =>
    have hsame : rule.scopeId = uuidStr room := by
      by_contra hne
      refine hscope ?_
      simp only [scopeScore, htype, hrequest, Option.map_some, Option.some.injEq]
      rw [if_neg fun heq => hne heq.symm]
    rw [hsame, uuidOf_uuidStr] at hroom
    cases hroom
    have hmax := (hcurrent hmember).2
    simp only [currentMembershipEpoch, hrequest, hmember, if_true, hepoch] at hmax
    obtain ⟨m, hm, heq⟩ := List.mem_map.mp (List.max?_mem hmax)
    obtain ⟨hrow, hactive⟩ := mem_activeMemberships.mp hm
    exact ⟨m, hrow, heq, hactive⟩

/-- The epoch of an active membership has not been left. -/
theorem not_left_of_active {around : Surroundings} (hfenced : Fenced around) {chatroomId : UUID}
    {memberWxid : Str} {epoch : Nat} (hactive : MemberActive around chatroomId memberWxid epoch) :
    ¬ MemberLeft around chatroomId memberWxid epoch := by
  rintro ⟨m', hm', hepoch', hleft⟩
  obtain ⟨m, hm, hepoch, hnone⟩ := hactive
  have hsame := eq_of_epoch (hfenced.epochs _ _) hm hm' (hepoch.trans hepoch'.symm)
  exact hleft (hsame ▸ hnone)

/-- A run is a sequence of changes. -/
theorem run_changes {workspaceExists : UUID → Bool} {start state : Surroundings}
    {actions : List Action} (h : run (step workspaceExists) start actions = some state) :
    Changes start state :=
  run_relation Changes (fun _ => .refl) (fun _ _ _ => .trans) (fun _ _ _ => step_changes) h

/-- The memberships of a member are numbered, at most the last one is active, and a rule
of the member is weighed only in its own. Once that has ended no version of the rule is
weighed again. -/
theorem member_rules_fenced (workspaceExists : UUID → Bool) {start state later : Surroundings}
    {before after : List Action} (hmemberships : start.memberships = [])
    (hrules : start.rules = [])
    (hbefore : run (step workspaceExists) start before = some state)
    (hafter : run (step workspaceExists) state after = some later) :
    (∀ chatroomId memberWxid,
      let rows := memberRows state chatroomId memberWxid
      rows.map (·.membershipEpoch) = List.range' 1 rows.length ∧
        ∀ m ∈ rows, m.leftAt = none → ∀ m' ∈ rows,
          m'.membershipEpoch ≤ m.membershipEpoch ∧ (m'.leftAt = none → m' = m)) ∧
    ∀ rule ∈ state.rules, ∀ principal, MemberRule state rule principal →
      ∃ chatroomId epoch, uuidOf rule.scopeId = some chatroomId ∧
        rule.membershipEpoch = some epoch ∧
        (∃ m ∈ memberRows state chatroomId principal.externalId, m.membershipEpoch = epoch) ∧
        (∀ request now, IsCandidate state request now rule →
          MemberActive state chatroomId principal.externalId epoch) ∧
        (MemberLeft state chatroomId principal.externalId epoch →
          ∀ rule' ∈ later.rules, rule'.id = rule.id →
            ∀ request now, ¬ IsCandidate later request now rule') := by
  have hfenced := (run_changes hbefore).fenced (Fenced.initial hmemberships hrules)
  have hlater := (run_changes hafter).fenced hfenced
  have hkept := (run_changes hafter).kept
  constructor
  · intro chatroomId memberWxid
    exact ⟨(hfenced.epochs _ _).numbered, fun m hm => active_last (hfenced.epochs _ _) hm⟩
  · intro rule hrule principal hmemberRule
    obtain ⟨id, hid, hprincipal, hmember⟩ := hmemberRule
    obtain ⟨p, hp, hbound⟩ := hfenced.rules rule hrule id hid
    cases hprincipal.symm.trans hp
    obtain ⟨chatroomId, hroom, m, hm, hepoch⟩ := (hbound hmember).membership
    refine ⟨chatroomId, m.membershipEpoch, hroom, hepoch, ⟨m, hm, rfl⟩, ?_, ?_⟩
    · intro request now hcandidate
      exact candidate_active hfenced ⟨id, hid, hprincipal, hmember⟩ hroom hepoch hcandidate
    · rintro ⟨gone, hgone, hgoneEpoch, hleft⟩ rule' hrule' hsameId request now hcandidate
      -- the later version of the rule is bound as it was
      obtain ⟨version, hversion, hsame⟩ := hkept.rule rule hrule
      have heq : rule' = version :=
        List.inj_on_of_nodup_map hlater.ruleIds hrule' hversion (hsameId.trans hsame.1.symm)
      subst heq
      obtain ⟨_, hsamePrincipal, _, hsameScope, hsameEpoch⟩ := hsame
      obtain ⟨p', hp', htype, hexternal⟩ := hkept.principal id principal hprincipal
      have hactive := candidate_active hlater
        ⟨id, hsamePrincipal.trans hid, hp', htype.trans hmember⟩ (hsameScope ▸ hroom)
        (hsameEpoch.trans hepoch) hcandidate
      rw [hexternal] at hactive
      obtain ⟨gone', hgone', hepoch', hleft'⟩ := hkept.membership _ _ gone hgone
      exact not_left_of_active hlater hactive
        ⟨gone', hgone', hepoch'.trans hgoneEpoch, hleft' hleft⟩

def emptyRoom : Surroundings :=
  { SenderSystem.sampleSurroundings with memberships := [], rules := [] }

def memberRule : AclRuleCreate where
  workspaceId := 1
  principalId := some 1
  scopeType := .CHATROOM
  scopeId := uuidStr 1
  resourceType := .CATEGORY
  resourceId := py "*"
  effect := .ALLOW
  locked := false
  membershipEpoch := none
  validFrom := none
  validUntil := none
  lockedDenies := by simp
  period := by simp
  category := fun _ => rfl
  scopeIdLength := by decide
  resourceIdLength := by decide
  epochPositive := by simp

def leaves : List Action :=
  [.upsertMemberships 1 [(py "wxid", 5)], .createRule memberRule 7 0, .markMembershipLeft 1 5 1 10]

theorem leaves_isSome : (run (step fun _ => true) emptyRoom leaves).isSome = true := by
  decide +kernel

def leftRoom : Surroundings := (run (step fun _ => true) emptyRoom leaves).get leaves_isSome

def rejoins : List Action := [.ensureMembership 1 (py "wxid") 6]

theorem rejoins_isSome : (run (step fun _ => true) leftRoom rejoins).isSome = true := by
  decide +kernel

def rejoinedRoom : Surroundings := (run (step fun _ => true) leftRoom rejoins).get rejoins_isSome

theorem member_rules_fenced_rejoined :
    (activeMemberships rejoinedRoom 1 (py "wxid")).map (·.membershipEpoch) = [2] ∧
      ∀ rule ∈ rejoinedRoom.rules, rule.id = 7 →
        ∀ request now, ¬ IsCandidate rejoinedRoom request now rule := by
  have hrule : ∃ rule ∈ leftRoom.rules, rule.id = 7 ∧ rule.principalId = some 1 ∧
      rule.membershipEpoch = some 1 ∧ uuidOf rule.scopeId = some 1 := by decide +kernel
  have hprincipal : leftRoom.principal 1 = some ⟨1, 1, .GROUP_MEMBER, py "wxid", true⟩ := by
    decide +kernel
  obtain ⟨rule, hmem, hid, hprincipalId, hepoch, hroom⟩ := hrule
  obtain ⟨chatroomId, epoch, hroom', hepoch', _, _, hnever⟩ :=
    (member_rules_fenced (fun _ => true) rfl rfl (Option.some_get leaves_isSome).symm
      (Option.some_get rejoins_isSome).symm).2 rule hmem _ ⟨1, hprincipalId, hprincipal, rfl⟩
  cases hroom.symm.trans hroom'
  cases hepoch.symm.trans hepoch'
  refine ⟨by decide +kernel, fun rule' hrule' hid' => ?_⟩
  refine hnever ?_ rule' hrule' (hid'.trans hid.symm)
  have hleft : ∃ m ∈ memberRows leftRoom 1 (py "wxid"), m.membershipEpoch = 1 ∧ m.leftAt ≠ none := by
    decide +kernel
  exact hleft

end WechatBot.EpochFence
