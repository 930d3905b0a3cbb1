import Mathlib.Data.Prod.Lex
import WechatBot.EpochFence
import WechatBot.Precedence

/-!
# Rules that are added and revoked

The effect of an evaluation does not depend on the order in which the rules are read.
A rule that allows can only make a request allowed, a rule that asks or denies can only
make it not allowed, however specific they are.
-/
namespace WechatBot.PolicyMonotone

open PyData Records Policy MembershipEpochs Precedence
open SenderSystem (Revocation)

/-- The pair that `evaluate` compares. -/
def scorePair (item : Candidate) : ℕ ×ₗ ℕ := toLex (item.resourceScore, item.subjectScopeScore)

theorem best_eq_top (items : List Candidate) : best items = top scorePair items := by
  have hle : ∀ a b : Candidate, scoreLe a b = decide (scorePair a ≤ scorePair b) := by
    intro a b
    simp [scoreLe, scorePair, Prod.Lex.toLex_le_toLex]
  simp only [best, top, hle]

theorem strictest_comm (a b c : AclEffect) :
    strictest (strictest a b) c = strictest (strictest a c) b := by
  cases a <;> cases b <;> cases c <;> rfl

theorem strictest_allow (effect : AclEffect) : strictest .ALLOW effect = effect := by
  cases effect <;> rfl

/-- The strictest effect of the best candidates, ALLOW without any. -/
def verdict (items : List Candidate) : AclEffect :=
  ((best items).map (·.rule.effect)).foldl strictest .ALLOW

theorem foldl_strictest_allow {effects : List AclEffect} : ∀ {first : AclEffect},
    effects.foldl strictest first = .ALLOW ↔ first = .ALLOW ∧ ∀ effect ∈ effects, effect = .ALLOW := by
  induction effects with
  | nil => simp
  | cons effect effects ih =>
    intro first
    rw [List.foldl_cons, ih, List.forall_mem_cons, ← and_assoc]
    have hstep : strictest first effect = .ALLOW ↔ first = .ALLOW ∧ effect = .ALLOW := by
      cases first <;> cases effect <;> decide
    rw [hstep]

theorem best_ne_nil {items : List Candidate} (h : items ≠ []) : best items ≠ [] := by
  obtain ⟨x, hx⟩ := exists_top scorePair h
  rw [best_eq_top]
  exact List.ne_nil_of_mem hx

/-- The effect is a denial when a rule is locked or none applies, and else the verdict of the
best. -/
theorem decideCandidates_effect (items : List Candidate) (policyVersion : Nat) :
    (decideCandidates items policyVersion).effect =
      if (items.filter (·.rule.locked)) ≠ [] ∨ items = [] then .DENY else verdict items := by
  unfold decideCandidates
  by_cases hlocked : items.filter (·.rule.locked) = []
  · by_cases hnil : items = []
    · subst hnil
      rfl
    · simp only [hlocked, ne_eq, not_true_eq_false, if_false, hnil, or_self]
      cases hbest : best items with
      | nil => exact absurd hbest (best_ne_nil hnil)
      | cons item rest =>
        simp only [verdict, hbest, List.map_cons, List.foldl_cons, strictest_allow]
        rfl
  · simp [hlocked, recordDecision]

theorem decideCandidates_allowed (items : List Candidate) (policyVersion : Nat) :
    (decideCandidates items policyVersion).allowed = true ↔
      (decideCandidates items policyVersion).effect = .ALLOW := by
  have hrecord : ∀ (effect : AclEffect) (reason : String) (matched : List AclRule),
      (recordDecision effect reason policyVersion matched).allowed = true ↔
        (recordDecision effect reason policyVersion matched).effect = .ALLOW := by
    intro effect reason matched
    exact decide_eq_true_iff
  simp only [decideCandidates]
  by_cases hlocked : items.filter (·.rule.locked) = []
  · rw [if_neg (not_not.mpr hlocked)]
    cases best items with
    | nil => exact hrecord ..
    | cons item rest => exact hrecord ..
  · rw [if_pos hlocked]
    exact hrecord ..

/-- The candidates grant the request when none is locked and those that allow prevail. -/
theorem allowed_iff_prevails (items : List Candidate) (policyVersion : Nat) :
    (decideCandidates items policyVersion).allowed = true ↔
      (∀ item ∈ items, item.rule.locked = false) ∧
        Prevails scorePair (fun item => item.rule.effect = .ALLOW) items := by
  rw [decideCandidates_allowed, decideCandidates_effect, prevails_iff_top, ← best_eq_top]
  by_cases hopen : ∀ item ∈ items, item.rule.locked = false
  · have hfilter : items.filter (·.rule.locked) = [] := by simpa using hopen
    by_cases hnil : items = []
    · simp [hnil]
    · rw [if_neg (by simp [hfilter, hnil]), verdict, foldl_strictest_allow]
      simpa [hnil] using fun _ => hopen
  · have hfilter : items.filter (·.rule.locked) ≠ [] := by simpa using hopen
    rw [if_pos (.inl hfilter)]
    simp [hopen]

/-- The effect does not depend on the order of the candidates. -/
theorem decideCandidates_perm {items items' : List Candidate} (h : items.Perm items')
    (policyVersion : Nat) :
    (decideCandidates items policyVersion).effect =
      (decideCandidates items' policyVersion).effect := by
  have hverdict : verdict items = verdict items' := by
    have : RightCommutative strictest := ⟨strictest_comm⟩
    unfold verdict
    rw [best_eq_top, best_eq_top]
    exact ((top_perm scorePair h).map _).foldl_eq _
  have hlocked : items.filter (·.rule.locked) = [] ↔ items'.filter (·.rule.locked) = [] :=
    ⟨fun hnil => List.Perm.eq_nil (hnil ▸ (h.filter _).symm),
      fun hnil => List.Perm.eq_nil (hnil ▸ h.filter _)⟩
  have hnil : items = [] ↔ items' = [] :=
    ⟨fun hnil => List.Perm.eq_nil (hnil ▸ h.symm), fun hnil => List.Perm.eq_nil (hnil ▸ h)⟩
  rw [decideCandidates_effect, decideCandidates_effect, hverdict]
  simp only [ne_eq, hlocked, hnil]

/-- `AclRuleCreate` admits only DENY rules that are locked. -/
def Admitted (rule : AclRule) : Prop := rule.locked = true → rule.effect = .DENY

instance (rule : AclRule) : Decidable (Admitted rule) :=
  inferInstanceAs (Decidable (rule.locked = true → rule.effect = .DENY))

/-- Rules and versions that `create_rule` and `revoke_rule` leave. -/
def withRules (around : Surroundings) (rules : List AclRule) (version : UUID → Option Nat) :
    Surroundings :=
  { around with rules := rules, policyVersion := version }

def Allowed (around : Surroundings) (request : AclEvaluationRequest) (now : Time) : Prop :=
  ∃ decision, evaluate around request now = .ok decision ∧ decision.allowed = true

/-- `create_rule` adds one rule of the requested effect, as `AclRuleCreate` admits it. -/
theorem createRule_adds {workspaceExists : UUID → Bool} {around around' : Surroundings}
    {payload : AclRuleCreate} {id : UUID} {now : Time}
    (h : createRule workspaceExists around payload id now = .ok around') :
    ∃ rule version, Admitted rule ∧ rule.effect = payload.effect ∧
      around' = withRules around (around.rules ++ [rule]) version := by
  obtain ⟨_, epoch, _, _, rfl⟩ := EpochFence.createRule_ok h
  exact ⟨newRule payload epoch id now, _, payload.lockedDenies, rfl, rfl⟩

/-- The candidates that a rule set gives for the request. -/
def candidatesOf (around : Surroundings) (request : AclEvaluationRequest) (now : Time)
    (principal : Option Principal) : List Candidate :=
  candidates (effectiveRules around request now) request principal
    (currentMembershipEpoch around request principal)

/-- What an evaluation needs besides its candidates. -/
def Heard (around : Surroundings) (request : AclEvaluationRequest) (principal : Option Principal) :
    Prop :=
  (∃ account, accountInWorkspace around request.botAccountId request.workspaceId = some account ∧
    account.status ≠ .DISABLED) ∧ activeRequestPrincipal around request = .ok principal

theorem heard_withRules {around : Surroundings} {rules : List AclRule} {version : UUID → Option Nat}
    {request : AclEvaluationRequest} {principal : Option Principal} :
    Heard (withRules around rules version) request principal ↔ Heard around request principal :=
  Iff.rfl

/-- A request is allowed when its principal is heard and its candidates allow it. -/
theorem allowed_iff {around : Surroundings} {request : AclEvaluationRequest} {now : Time} :
    Allowed around request now ↔ ∃ principal, Heard around request principal ∧
      (decideCandidates (candidatesOf around request now principal)
        ((around.policyVersion request.workspaceId).getD 0)).allowed = true := by
  unfold Allowed evaluate Heard
  cases haccount : accountInWorkspace around request.botAccountId request.workspaceId with
  | none => simp [throw, throwThe, MonadExceptOf.throw]
  | some account =>
    by_cases hdisabled : account.status = .DISABLED
    · simp [hdisabled, pure, Except.pure, recordDecision]
    · cases hprincipal : activeRequestPrincipal around request with
      | error error => simp [hdisabled, bind, Except.bind]
      | ok principal => simp [hdisabled, bind, Except.bind, pure, Except.pure, candidatesOf]

/-- What a rule set gives away, another one gives away too. -/
structure MoreGenerous (rules rules' : List AclRule) : Prop where
  keeps : ∀ rule ∈ rules, rule.revokedAt = none → rule.effect = .ALLOW → rule ∈ rules'
  admits : ∀ rule ∈ rules', rule.revokedAt = none → rule.effect ≠ .ALLOW → rule ∈ rules

theorem candidateOf_rule {request : AclEvaluationRequest} {principal : Option Principal}
    {epoch : Option Nat} {rule : AclRule} {item : Candidate}
    (h : candidateOf request principal epoch rule = some item) : item.rule = rule := by
  unfold candidateOf at h
  split at h
  · cases h
  · simp only at h
    split at h
    · cases h
    · cases h
      rfl

theorem mem_candidatesOf {around : Surroundings} {request : AclEvaluationRequest} {now : Time}
    {principal : Option Principal} {item : Candidate}
    (h : item ∈ candidatesOf around request now principal) :
    item.rule ∈ around.rules ∧ item.rule.revokedAt = none := by
  obtain ⟨rule, hrule, hcandidate⟩ := List.mem_filterMap.mp h
  rw [candidateOf_rule hcandidate]
  have heffective := List.mem_filter.mp hrule
  simp only [Bool.and_eq_true, Option.isNone_iff_eq_none] at heffective
  exact ⟨heffective.1, heffective.2.1.1.1.2⟩

/-- A candidate stays one in every rule set that has its rule. -/
theorem candidate_withRules {around : Surroundings} {rules : List AclRule}
    {version : UUID → Option Nat} {request : AclEvaluationRequest} {now : Time}
    {principal : Option Principal} {item : Candidate}
    (h : item ∈ candidatesOf around request now principal) (hrule : item.rule ∈ rules) :
    item ∈ candidatesOf (withRules around rules version) request now principal := by
  obtain ⟨rule, hmem, hcandidate⟩ := List.mem_filterMap.mp h
  refine List.mem_filterMap.mpr ⟨rule, ?_, hcandidate⟩
  exact List.mem_filter.mpr ⟨candidateOf_rule hcandidate ▸ hrule, (List.mem_filter.mp hmem).2⟩

/-- A request that is allowed stays allowed under a more generous rule set. -/
theorem Allowed.mono {around : Surroundings} {rules : List AclRule} {version : UUID → Option Nat}
    {request : AclEvaluationRequest} {now : Time} (h : Allowed around request now)
    (hadmitted : ∀ rule ∈ rules, Admitted rule) (hmore : MoreGenerous around.rules rules) :
    Allowed (withRules around rules version) request now := by
  rw [allowed_iff] at h ⊢
  obtain ⟨principal, hheard, hallowed⟩ := h
  refine ⟨principal, heard_withRules.mpr hheard, ?_⟩
  rw [allowed_iff_prevails] at hallowed ⊢
  obtain ⟨hopen, hprevails⟩ := hallowed
  -- what speaks against the request was there before
  have hagainst : ∀ item ∈ candidatesOf (withRules around rules version) request now principal,
      item.rule.effect ≠ .ALLOW → item ∈ candidatesOf around request now principal := by
    intro item hitem heffect
    obtain ⟨hrule, hrevoked⟩ := mem_candidatesOf hitem
    exact @candidate_withRules (withRules around rules version) around.rules around.policyVersion
      request now principal item hitem (hmore.admits item.rule hrule hrevoked heffect)
  constructor
  · intro item hitem
    by_contra hlocked
    rw [Bool.not_eq_false] at hlocked
    have hdeny := hadmitted item.rule (mem_candidatesOf hitem).1 hlocked
    have hold := hopen item (hagainst item hitem (by simp [hdeny]))
    simp [hlocked] at hold
  · refine hprevails.mono ?_ hagainst
    intro item hitem heffect
    obtain ⟨hrule, hrevoked⟩ := mem_candidatesOf hitem
    exact candidate_withRules hitem (hmore.keeps item.rule hrule hrevoked heffect)

/-- With one more allowing rule the rules are more generous. -/
theorem moreGenerous_added {rules rules' : List AclRule} {rule : AclRule}
    (hperm : rules'.Perm (rule :: rules)) (heffect : rule.effect = .ALLOW) :
    MoreGenerous rules rules' := by
  constructor
  · intro other hother _ _
    exact hperm.mem_iff.mpr (List.mem_cons_of_mem _ hother)
  · intro other hother _ hagainst
    rcases List.mem_cons.mp (hperm.mem_iff.mp hother) with rfl | hother
    · exact absurd heffect hagainst
    · exact hother

/-- Without a denying rule the rules are more generous. -/
theorem moreGenerous_without {rules rules' : List AclRule} {rule : AclRule}
    (hperm : rules'.Perm (rule :: rules)) (heffect : rule.effect ≠ .ALLOW) :
    MoreGenerous rules' rules := by
  constructor
  · intro other hother _ hallow
    rcases List.mem_cons.mp (hperm.mem_iff.mp hother) with rfl | hother
    · exact absurd hallow heffect
    · exact hother
  · intro other hother _ _
    exact hperm.mem_iff.mpr (List.mem_cons_of_mem _ hother)

/-- The stored rules after `revoke_rule`. -/
def revoked (id : UUID) (revokedBy : Str) (t : Time) (rule : AclRule) : AclRule :=
  if rule.id = id ∧ rule.revokedAt = none then
    { rule with revokedAt := some t, revokedBy := some revokedBy }
  else rule

theorem apply_revokeRule (around : Surroundings) (id : UUID) (revokedBy : Str) (t : Time) :
    (Revocation.revokeRule id revokedBy).apply t around =
      withRules around (around.rules.map (revoked id revokedBy t)) around.policyVersion := rfl

/-- An effective rule after a revocation is an old one with another id. -/
theorem of_mem_revoked {rules : List AclRule} {id : UUID} {revokedBy : Str} {t : Time}
    {rule : AclRule} (h : rule ∈ rules.map (revoked id revokedBy t)) (hopen : rule.revokedAt = none) :
    rule ∈ rules ∧ rule.id ≠ id := by
  obtain ⟨old, hold, rfl⟩ := List.mem_map.mp h
  unfold revoked at hopen ⊢
  split at hopen
  · cases hopen
  · rename_i hother
    rw [if_neg hother]
    exact ⟨hold, fun heq => hother ⟨heq, hopen⟩⟩

theorem mem_revoked {rules : List AclRule} {id : UUID} {revokedBy : Str} {t : Time} {rule : AclRule}
    (h : rule ∈ rules) (hne : rule.id ≠ id) : rule ∈ rules.map (revoked id revokedBy t) :=
  List.mem_map.mpr ⟨rule, h, if_neg fun hboth => hne hboth.1⟩

/-- The rules are more generous when what does not allow is revoked. -/
theorem moreGenerous_revoked {rules : List AclRule} {id : UUID} {revokedBy : Str} {t : Time}
    (heffect : ∀ rule ∈ rules, rule.id = id → rule.effect ≠ .ALLOW) :
    MoreGenerous rules (rules.map (revoked id revokedBy t)) :=
  ⟨fun rule hrule _ hallow => mem_revoked hrule fun heq => heffect rule hrule heq hallow,
    fun _ hrule hopen _ => (of_mem_revoked hrule hopen).1⟩

theorem moreGenerous_unrevoked {rules : List AclRule} {id : UUID} {revokedBy : Str} {t : Time}
    (heffect : ∀ rule ∈ rules, rule.id = id → rule.effect = .ALLOW) :
    MoreGenerous (rules.map (revoked id revokedBy t)) rules :=
  ⟨fun _ hrule hopen _ => (of_mem_revoked hrule hopen).1,
    fun rule hrule _ hagainst => mem_revoked hrule fun heq => hagainst (heffect rule hrule heq)⟩

theorem admitted_revoked {rules : List AclRule} {id : UUID} {revokedBy : Str} {t : Time}
    (h : ∀ rule ∈ rules, Admitted rule) :
    ∀ rule ∈ rules.map (revoked id revokedBy t), Admitted rule := by
  intro rule hrule
  obtain ⟨old, hold, rfl⟩ := List.mem_map.mp hrule
  unfold revoked
  split
  · exact h old hold
  · exact h old hold

theorem admitted_added {rules rules' : List AclRule} {rule : AclRule}
    (hperm : rules'.Perm (rule :: rules)) (h : ∀ other ∈ rules, Admitted other)
    (hrule : Admitted rule) : ∀ other ∈ rules', Admitted other := by
  intro other hother
  rcases List.mem_cons.mp (hperm.mem_iff.mp hother) with rfl | hother
  · exact hrule
  · exact h other hother

/-- The effect of an evaluation, or its error. -/
def effectOf (around : Surroundings) (request : AclEvaluationRequest) (now : Time) :
    Except PolicyError AclEffect :=
  (evaluate around request now).map (·.effect)

/-- The effect does not depend on the order of the rules. -/
theorem effectOf_perm {around : Surroundings} {rules : List AclRule}
    (h : rules.Perm around.rules) (version : UUID → Option Nat) (request : AclEvaluationRequest)
    (now : Time) :
    effectOf (withRules around rules version) request now = effectOf around request now := by
  have hcandidates : ∀ principal,
      (candidatesOf (withRules around rules version) request now principal).Perm
        (candidatesOf around request now principal) :=
    fun principal => (h.filter _).filterMap _
  have haccount : accountInWorkspace (withRules around rules version) request.botAccountId
      request.workspaceId = accountInWorkspace around request.botAccountId request.workspaceId := rfl
  have hprincipal : activeRequestPrincipal (withRules around rules version) request =
      activeRequestPrincipal around request := rfl
  unfold effectOf evaluate
  rw [haccount, hprincipal]
  cases accountInWorkspace around request.botAccountId request.workspaceId with
  | none => rfl
  | some account =>
    by_cases hdisabled : account.status = .DISABLED
    · simp [hdisabled, pure, Except.pure, Except.map, recordDecision]
    · cases activeRequestPrincipal around request with
      | error error => simp [hdisabled, bind, Except.bind, Except.map]
      | ok principal =>
        simp only [hdisabled, if_false, bind, Except.bind, pure, Except.pure, Except.map,
          Except.ok.injEq]
        have hversion : ∀ items v v',
            (decideCandidates items v).effect = (decideCandidates items v').effect := by
          intro items v v'
          rw [decideCandidates_effect, decideCandidates_effect]
        exact (decideCandidates_perm (hcandidates principal) _).trans (hversion ..)

/-- The effect does not depend on the order of the rules. A rule that does not allow never
makes a request allowed, and neither does the end of one that does; a rule that allows, or
the end of one that does not, never takes an allowed request back. -/
theorem evaluation_monotone {around : Surroundings}
    (hadmitted : ∀ rule ∈ around.rules, Admitted rule) (request : AclEvaluationRequest)
    (now : Time) :
    (∀ rules version, rules.Perm around.rules →
      effectOf (withRules around rules version) request now = effectOf around request now) ∧
    (∀ rule rules version, Admitted rule → rules.Perm (rule :: around.rules) →
      (rule.effect ≠ .ALLOW → ¬ Allowed around request now →
        ¬ Allowed (withRules around rules version) request now) ∧
      (rule.effect = .ALLOW → Allowed around request now →
        Allowed (withRules around rules version) request now)) ∧
    (∀ id revokedBy t,
      ((∀ rule ∈ around.rules, rule.id = id → rule.effect = .ALLOW) →
        ¬ Allowed around request now →
          ¬ Allowed ((Revocation.revokeRule id revokedBy).apply t around) request now) ∧
      ((∀ rule ∈ around.rules, rule.id = id → rule.effect ≠ .ALLOW) →
        Allowed around request now →
          Allowed ((Revocation.revokeRule id revokedBy).apply t around) request now)) := by
  refine ⟨fun rules version h => effectOf_perm h version request now, ?_, ?_⟩
  · intro rule rules version hrule hperm
    constructor
    · intro heffect hnot hallowed
      exact hnot (@Allowed.mono (withRules around rules version) around.rules around.policyVersion
        request now hallowed hadmitted (moreGenerous_without hperm heffect))
    · intro heffect hallowed
      exact hallowed.mono (admitted_added hperm hadmitted hrule) (moreGenerous_added hperm heffect)
  · intro id revokedBy t
    rw [apply_revokeRule]
    constructor
    · intro heffect hnot hallowed
      exact hnot (@Allowed.mono (withRules around (around.rules.map (revoked id revokedBy t))
        around.policyVersion) around.rules around.policyVersion request now hallowed hadmitted
        (moreGenerous_unrevoked heffect))
    · intro heffect hallowed
      exact hallowed.mono (admitted_revoked hadmitted) (moreGenerous_revoked heffect)

/-- A second rule that allows leaves the request of the group member allowed. -/
theorem evaluation_monotone_added :
    let request : AclEvaluationRequest := ⟨1, 1, some 1, some 1, none, .COMMAND, py "c", none⟩
    Allowed SenderSystem.sampleSurroundings request 5 ∧
      Allowed (withRules SenderSystem.sampleSurroundings
        (SenderSystem.sampleSurroundings.rules ++ [⟨2, 1, none, .WORKSPACE, uuidStr 1, .COMMAND,
          py "c", .ALLOW, false, none, 0, none, none, none⟩]) (fun _ => some 2)) request 5 := by
  have hbefore : Allowed SenderSystem.sampleSurroundings
      ⟨1, 1, some 1, some 1, none, .COMMAND, py "c", none⟩ 5 :=
    ⟨_, rfl, by decide +kernel⟩
  refine ⟨hbefore, ?_⟩
  have hadmitted : ∀ rule ∈ SenderSystem.sampleSurroundings.rules, Admitted rule := by
    decide +kernel
  exact ((evaluation_monotone hadmitted _ 5).2.1 _ _ _ (by decide +kernel)
    (List.perm_append_singleton _ _)).2 rfl hbefore

end WechatBot.PolicyMonotone
