import Mathlib.Tactic.IntervalCases
import WechatBot.PyData
import WechatBot.RowLocks

/-!
# Row locks of sending and administration

The row locks that each session takes, in the order of the code, and the exact
condition under which no interleaving of them can end in a cycle of waits.
-/
namespace WechatBot.SendDeadlock

open PyData RowLocks

/-- `fence w` is the `AclPolicyState` row of the workspace, `activations d` stands for the
activation rows of the deployment. -/
inductive Row where
  | fence (workspaceId : UUID)
  | workspace (workspaceId : UUID)
  | principal (id : UUID)
  | rule (id : UUID)
  | message (id : UUID)
  | account (id : UUID)
  | connection (id : UUID)
  | deployment (id : UUID)
  | revision (id : UUID)
  | activations (deploymentId : UUID)
  deriving DecidableEq, Repr

/-- The rows of one message: the dispatcher binds a context to a deployment of its own
workspace, and the active revision is the one the joined query finds. -/
structure Send where
  messageId : UUID
  accountId : UUID
  connectionId : UUID
  context : Option (UUID × UUID)
  deriving DecidableEq, Repr

inductive Operation where
  | activateRevision (deploymentId revisionId : UUID)
  | deactivate (deploymentId : UUID)
  | setDisabled (accountId workspaceId : UUID)
  | changeStatus (connectionId workspaceId : UUID)
  | createRule (workspaceId : UUID) (principalId : Option UUID)
  | revokeRule (ruleId workspaceId : UUID)
  deriving DecidableEq, Repr

/-- The sessions of the senders, each with its guard, its `_prepare_send` and its
finishing transaction, and those of the administration. -/
inductive Session (ι κ : Type) where
  | guard (i : ι)
  | prepare (i : ι)
  | finish (i : ι)
  | admin (k : κ)
  deriving DecidableEq

/-- The system under study. With `foreignKeys`, the key-share locks that an insert takes
on the rows it refers to count too. -/
structure System (ι κ : Type) where
  foreignKeys : Bool
  workspaceOf : UUID → UUID
  send : ι → Send
  operation : κ → Operation

variable {ι κ : Type}

def System.referenced (sys : System ι κ) (moves : List (Move Row (Session ι κ))) :
    List (Move Row (Session ι κ)) :=
  if sys.foreignKeys then moves else []

def System.guardMoves (sys : System ι κ) (i : ι) : List (Move Row (Session ι κ)) :=
  match (sys.send i).context with
  | none => [.await (.prepare i), .await (.finish i)]
  | some (deploymentId, _) =>
    [.lock (.fence (sys.workspaceOf deploymentId)) .share, .await (.prepare i),
      .await (.finish i)]

/-- The joined row, then `_authorization_still_valid`; the decision it records refers to
the workspace. -/
def System.prepareMoves (sys : System ι κ) (i : ι) : List (Move Row (Session ι κ)) :=
  [.lock (.message (sys.send i).messageId) .update, .lock (.account (sys.send i).accountId) .update,
    .lock (.connection (sys.send i).connectionId) .update] ++
  match (sys.send i).context with
  | none => []
  | some (deploymentId, revisionId) =>
    [.lock (.deployment deploymentId) .update, .lock (.revision revisionId) .update] ++
      sys.referenced [.lock (.workspace (sys.workspaceOf deploymentId)) .keyShare]

def System.finishMoves (sys : System ι κ) (i : ι) : List (Move Row (Session ι κ)) :=
  [.lock (.message (sys.send i).messageId) .update]

/-- `create_rule` adds its rule before it asks for the fence, and the session flushes it
with that query. -/
def System.operationMoves (sys : System ι κ) : Operation → List (Move Row (Session ι κ))
  | .activateRevision deploymentId revisionId =>
    [.lock (.fence (sys.workspaceOf deploymentId)) .update,
      .lock (.workspace (sys.workspaceOf deploymentId)) .update,
      .lock (.deployment deploymentId) .update] ++
    sys.referenced [.lock (.revision revisionId) .keyShare] ++
    [.lock (.activations deploymentId) .noKeyUpdate]
  | .deactivate deploymentId =>
    [.lock (.deployment deploymentId) .update,
      .lock (.fence (sys.workspaceOf deploymentId)) .update,
      .lock (.activations deploymentId) .noKeyUpdate]
  | .setDisabled accountId workspaceId =>
    [.lock (.fence workspaceId) .update, .lock (.account accountId) .update]
  | .changeStatus connectionId workspaceId =>
    [.lock (.fence workspaceId) .update, .lock (.connection connectionId) .noKeyUpdate]
  | .createRule workspaceId principalId =>
    sys.referenced (.lock (.workspace workspaceId) .keyShare ::
      principalId.toList.map fun id => .lock (.principal id) .keyShare) ++
    [.lock (.fence workspaceId) .update]
  | .revokeRule ruleId workspaceId =>
    [.lock (.rule ruleId) .noKeyUpdate, .lock (.fence workspaceId) .update]

def System.programs (sys : System ι κ) : Programs Row (Session ι κ)
  | .guard i => sys.guardMoves i
  | .prepare i => sys.prepareMoves i
  | .finish i => sys.finishMoves i
  | .admin k => sys.operationMoves (sys.operation k)

/-- No deactivation meets a sender of the same deployment or an activation of it; and no
new rule meets an activation in its workspace, if foreign keys count. -/
structure System.Apart (sys : System ι κ) : Prop where
  sender : ∀ k i deploymentId revisionId, sys.operation k = .deactivate deploymentId →
    (sys.send i).context ≠ some (deploymentId, revisionId)
  activation : ∀ k l deploymentId revisionId, sys.operation k = .deactivate deploymentId →
    sys.operation l ≠ .activateRevision deploymentId revisionId
  rule : sys.foreignKeys = true → ∀ k l deploymentId revisionId principalId,
    sys.operation k = .activateRevision deploymentId revisionId →
    sys.operation l ≠ .createRule (sys.workspaceOf deploymentId) principalId

variable [DecidableEq ι] [DecidableEq κ] {sys : System ι κ}

omit [DecidableEq ι] [DecidableEq κ] in
theorem mem_referenced {moves : List (Move Row (Session ι κ))} {move : Move Row (Session ι κ)} :
    move ∈ sys.referenced moves ↔ sys.foreignKeys = true ∧ move ∈ moves := by
  unfold System.referenced
  split <;> simp_all

omit [DecidableEq ι] [DecidableEq κ] in
theorem no_self_await (sys : System ι κ) : NoSelfAwait sys.programs := by
  intro s
  cases s with
  | guard i =>
    simp only [System.programs, System.guardMoves]
    split <;> simp
  | prepare i =>
    simp only [System.programs, System.prepareMoves]
    split <;> simp [mem_referenced]
  | finish i => simp [System.programs, System.finishMoves]
  | admin k =>
    simp only [System.programs]
    cases sys.operation k <;> simp [System.operationMoves, mem_referenced]

/-- While the preparation of a message with a context runs, its guard holds the fence. -/
theorem guard_holds {st : State (Session ι κ)} (hst : Reachable sys.programs st) {i : ι} {n : Nat}
    {deploymentId revisionId : UUID} (hcontext : (sys.send i).context = some (deploymentId, revisionId))
    (hrunning : st (.prepare i) = .running n) :
    Holds sys.programs st (.guard i) (.fence (sys.workspaceOf deploymentId)) .share := by
  have hmem : .await (.prepare i) ∈ sys.programs (.guard i) := by
    simp [System.programs, System.guardMoves, hcontext]
  have hnext := reachable_attended (no_self_await sys) hst (.prepare i) (.guard i) n hrunning hmem
  unfold next at hnext
  split at hnext
  · rename_i done hguard
    refine ⟨done, hguard, ?_⟩
    simp only [System.programs, System.guardMoves, hcontext] at hnext ⊢
    cases done with
    | zero => simp at hnext
    | succ done => simp
  · cases hnext

/-- A session that has locked the workspace row or is about to. -/
inductive WorkspaceUser (sys : System ι κ) (st : State (Session ι κ)) (w : UUID) :
    Session ι κ → Mode → Prop where
  | activation (k : κ) (deploymentId revisionId : UUID)
      (hoperation : sys.operation k = .activateRevision deploymentId revisionId)
      (hworkspace : sys.workspaceOf deploymentId = w)
      (hfence : Holds sys.programs st (.admin k) (.fence w) .update) :
      WorkspaceUser sys st w (.admin k) .update
  | sender (i : ι) (hfence : Holds sys.programs st (.guard i) (.fence w) .share) :
      WorkspaceUser sys st w (.prepare i) .keyShare
  | rule (k : κ) (principalId : Option UUID) (hkeys : sys.foreignKeys = true)
      (hoperation : sys.operation k = .createRule w principalId) :
      WorkspaceUser sys st w (.admin k) .keyShare

theorem workspace_user {st : State (Session ι κ)} (hst : Reachable sys.programs st)
    {s : Session ι κ} {done : Nat} {w : UUID} {mode : Mode} (hrunning : st s = .running done)
    (hmem : .lock (.workspace w) mode ∈ (sys.programs s).take (done + 1)) :
    WorkspaceUser sys st w s mode := by
  have hin := List.mem_of_mem_take hmem
  cases s with
  | guard i =>
    simp only [System.programs, System.guardMoves] at hin
    split at hin <;> simp at hin
  | prepare i =>
    simp only [System.programs, System.prepareMoves] at hin
    split at hin
    · simp at hin
    · rename_i deploymentId revisionId hcontext
      simp only [List.mem_append, List.mem_cons, Move.lock.injEq, reduceCtorEq, false_and,
        List.not_mem_nil, or_false, mem_referenced, Row.workspace.injEq, false_or] at hin
      obtain ⟨-, rfl, rfl⟩ := hin
      exact .sender i (guard_holds hst hcontext hrunning)
  | finish i => simp [System.programs, System.finishMoves] at hin
  | admin k =>
    simp only [System.programs] at hin hmem
    cases hoperation : sys.operation k with
    | activateRevision deploymentId revisionId =>
      rw [hoperation] at hin hmem
      have hw : w = sys.workspaceOf deploymentId ∧ mode = .update := by
        simpa [System.operationMoves, mem_referenced] using hin
      obtain ⟨rfl, rfl⟩ := hw
      refine .activation k deploymentId revisionId hoperation rfl ⟨done, hrunning, ?_⟩
      simp only [System.programs, hoperation, System.operationMoves] at hmem ⊢
      cases done with
      | zero => simp at hmem
      | succ done => simp
    | createRule workspaceId principalId =>
      rw [hoperation] at hin
      have hw : sys.foreignKeys = true ∧ w = workspaceId ∧ mode = .keyShare := by
        simpa [System.operationMoves, mem_referenced] using hin
      obtain ⟨hkeys, rfl, rfl⟩ := hw
      exact .rule k principalId hkeys hoperation
    | _ => rw [hoperation] at hin; simp [System.operationMoves] at hin

theorem holds_conflict {st : State (Session ι κ)} (hst : Reachable sys.programs st)
    {s t : Session ι κ} {row : Row} {mode mode' : Mode} (hne : s ≠ t)
    (hs : Holds sys.programs st s row mode) (ht : Holds sys.programs st t row mode')
    (hconflict : mode.conflicts mode' = true) : False := by
  rw [reachable_compatible hst s t row mode mode' hne hs ht] at hconflict
  cases hconflict

/-- Two users of a workspace row never conflict: an activation holds the fence
exclusively. -/
theorem workspace_users {st : State (Session ι κ)} (hst : Reachable sys.programs st)
    (hapart : sys.Apart) {s t : Session ι κ} {w : UUID} {mode mode' : Mode} (hne : s ≠ t)
    (hs : WorkspaceUser sys st w s mode) (ht : WorkspaceUser sys st w t mode') :
    mode.conflicts mode' = false := by
  cases hs with
  | activation k deploymentId revisionId hoperation hworkspace hfence =>
    exfalso
    cases ht with
    | activation l _ _ _ _ hfence' => exact holds_conflict hst hne hfence hfence' rfl
    | sender i hfence' => exact holds_conflict hst (by simp) hfence hfence' rfl
    | rule l principalId hkeys hoperation' =>
      exact hapart.rule hkeys k l deploymentId revisionId principalId hoperation
        (hworkspace ▸ hoperation')
  | sender i hfence =>
    cases ht with
    | activation l _ _ _ _ hfence' => exact (holds_conflict hst (by simp) hfence hfence' rfl).elim
    | sender => rfl
    | rule => rfl
  | rule k principalId hkeys hoperation =>
    cases ht with
    | activation l deploymentId revisionId hoperation' hworkspace hfence =>
      exact (hapart.rule hkeys l k deploymentId revisionId principalId hoperation'
        (hworkspace ▸ hoperation)).elim
    | sender => rfl
    | rule => rfl

theorem workspace_uncontended {st : State (Session ι κ)} (hst : Reachable sys.programs st)
    (hapart : sys.Apart) {s t : Session ι κ} {w : UUID} {mode : Mode}
    (hnext : next sys.programs st s = some (.lock (.workspace w) mode)) :
    ¬ Blocks sys.programs st s t (.workspace w) mode := by
  rintro ⟨hne, mode', ⟨done', hrunning', hmem'⟩, hconflict⟩
  unfold next at hnext
  split at hnext
  · rename_i done hrunning
    have hmem : .lock (.workspace w) mode ∈ (sys.programs s).take (done + 1) := by
      rw [List.take_add_one, hnext]
      simp
    have hmem'' := List.take_subset_take_left (sys.programs t) (Nat.le_succ done') hmem'
    rw [workspace_users hst hapart (Ne.symm hne) (workspace_user hst hrunning hmem)
      (workspace_user hst hrunning' hmem'')] at hconflict
    cases hconflict
  · cases hnext

open Classical in
/-- The order in which the rows are locked; a deactivation alone locks its deployment
before the fence. -/
noncomputable def System.rank (sys : System ι κ) : Row → Nat
  | .fence _ => 1
  | .workspace _ => 0
  | .principal _ => 0
  | .rule _ => 0
  | .message _ => 3
  | .account _ => 4
  | .connection _ => 5
  | .deployment id => if ∃ k, sys.operation k = .deactivate id then 0 else 6
  | .revision _ => 7
  | .activations _ => 8

/-- Twice the rank of the row waited for; waiting for a session is between the fence and
the rows that session locks. -/
noncomputable def System.height (sys : System ι κ) : Move Row (Session ι κ) → Nat
  | .lock row _ => 2 * sys.rank row
  | .await _ => 3

def Contended : Move Row (Session ι κ) → Prop
  | .lock (.workspace _) _ => False
  | _ => True

/-- A lock before another move of the same session, both contended. -/
def System.Below (sys : System ι κ) (a b : Move Row (Session ι κ)) : Prop :=
  ∀ row mode, a = .lock row mode → Contended a → Contended b → sys.height a < sys.height b

omit [DecidableEq ι] [DecidableEq κ] in
theorem programs_ordered (hapart : sys.Apart) (s : Session ι κ) :
    (sys.programs s).Pairwise sys.Below := by
  cases s with
  | guard i =>
    simp only [System.programs, System.guardMoves]
    split <;> simp [System.Below, System.height, System.rank]
  | prepare i =>
    simp only [System.programs, System.prepareMoves]
    split
    · simp [System.Below, System.height, System.rank]
    · rename_i deploymentId revisionId hcontext
      have hdeployment : ¬ ∃ k, sys.operation k = .deactivate deploymentId := by
        rintro ⟨k, hk⟩
        exact hapart.sender k i deploymentId revisionId hk hcontext
      unfold System.referenced
      split <;> simp [System.Below, System.height, System.rank, hdeployment, Contended]
  | finish i => simp [System.programs, System.finishMoves]
  | admin k =>
    simp only [System.programs]
    cases hoperation : sys.operation k with
    | activateRevision deploymentId revisionId =>
      have hdeployment : ¬ ∃ l, sys.operation l = .deactivate deploymentId := by
        rintro ⟨l, hl⟩
        exact hapart.activation l k deploymentId revisionId hl hoperation
      simp only [System.operationMoves, System.referenced]
      split <;> simp [System.Below, System.height, System.rank, hdeployment, Contended]
    | deactivate deploymentId =>
      have hdeployment : ∃ l, sys.operation l = .deactivate deploymentId := ⟨k, hoperation⟩
      simp [System.operationMoves, System.Below, System.height, System.rank, hdeployment]
    | setDisabled accountId workspaceId =>
      simp [System.operationMoves, System.Below, System.height, System.rank]
    | changeStatus connectionId workspaceId =>
      simp [System.operationMoves, System.Below, System.height, System.rank]
    | createRule workspaceId principalId =>
      simp only [System.operationMoves, System.referenced]
      split
      · cases principalId <;> simp [System.Below, System.height, System.rank, Contended]
      · simp
    | revokeRule ruleId workspaceId =>
      simp [System.operationMoves, System.Below, System.height, System.rank]

omit [DecidableEq ι] [DecidableEq κ] in
/-- What an awaited session locks is above the wait for it. -/
theorem awaited_above (hapart : sys.Apart) {s t : Session ι κ} (hawait : .await t ∈ sys.programs s)
    {move : Move Row (Session ι κ)} (hmove : move ∈ sys.programs t) (hcontended : Contended move) :
    3 < sys.height move := by
  have ht : ∃ i, t = .prepare i ∨ t = .finish i := by
    cases s with
    | guard i =>
      simp only [System.programs, System.guardMoves] at hawait
      refine ⟨i, ?_⟩
      split at hawait <;> simpa using hawait
    | prepare i =>
      simp only [System.programs, System.prepareMoves] at hawait
      split at hawait <;> simp [mem_referenced] at hawait
    | finish i => simp [System.programs, System.finishMoves] at hawait
    | admin k =>
      simp only [System.programs] at hawait
      cases hoperation : sys.operation k <;> rw [hoperation] at hawait <;>
        simp [System.operationMoves, mem_referenced] at hawait
  obtain ⟨i, rfl | rfl⟩ := ht
  · simp only [System.programs, System.prepareMoves] at hmove
    split at hmove
    · simp only [List.append_nil, List.mem_cons, List.not_mem_nil, or_false] at hmove
      rcases hmove with rfl | rfl | rfl <;> simp [System.height, System.rank]
    · rename_i deploymentId revisionId hcontext
      have hdeployment : ¬ ∃ k, sys.operation k = .deactivate deploymentId := by
        rintro ⟨k, hk⟩
        exact hapart.sender k i deploymentId revisionId hk hcontext
      simp only [List.mem_append, List.mem_cons, List.not_mem_nil, or_false,
        mem_referenced] at hmove
      rcases hmove with (rfl | rfl | rfl) | (rfl | rfl) | ⟨-, rfl⟩
      · simp [System.height, System.rank]
      · simp [System.height, System.rank]
      · simp [System.height, System.rank]
      · simp [System.height, System.rank, hdeployment]
      · simp [System.height, System.rank]
      · exact hcontended.elim
  · simp only [System.programs, System.finishMoves, List.mem_singleton] at hmove
    subst hmove
    simp [System.height, System.rank]

/-- The height of the move a session stands at. -/
noncomputable def System.sessionHeight (sys : System ι κ) (st : State (Session ι κ))
    (s : Session ι κ) : Nat :=
  match next sys.programs st s with
  | none => 0
  | some move => sys.height move

omit [DecidableEq ι] [DecidableEq κ] in
theorem next_mem {st : State (Session ι κ)} {s : Session ι κ} {move : Move Row (Session ι κ)}
    (h : next sys.programs st s = some move) : move ∈ sys.programs s := by
  unfold next at h
  split at h
  · exact List.mem_of_getElem? h
  · cases h

/-- A session that waits stands at a contended move. -/
theorem waits_contended {st : State (Session ι κ)} (hst : Reachable sys.programs st)
    (hapart : sys.Apart) {s t : Session ι κ} (h : WaitsFor sys.programs st s t) :
    ∃ move, next sys.programs st s = some move ∧ Contended move := by
  cases h with
  | row row mode hnext hblocks =>
    refine ⟨_, hnext, ?_⟩
    cases row with
    | workspace w => exact absurd hblocks (workspace_uncontended hst hapart hnext)
    | _ => trivial
  | session hnext hopen => exact ⟨_, hnext, trivial⟩

theorem waits_grow {st : State (Session ι κ)} (hst : Reachable sys.programs st)
    (hapart : sys.Apart) {s t u : Session ι κ} (hst' : WaitsFor sys.programs st s t)
    (htu : WaitsFor sys.programs st t u) : sys.sessionHeight st s < sys.sessionHeight st t := by
  obtain ⟨move, hmove, hcontended⟩ := waits_contended hst hapart htu
  have ht : sys.sessionHeight st t = sys.height move := by simp [System.sessionHeight, hmove]
  obtain ⟨first, hfirst, hcontended'⟩ := waits_contended hst hapart hst'
  have hs : sys.sessionHeight st s = sys.height first := by simp [System.sessionHeight, hfirst]
  rw [hs, ht]
  cases hst' with
  | row row mode hnext hblocks =>
    rw [hfirst] at hnext
    cases hnext
    obtain ⟨-, mode', hholds, -⟩ := hblocks
    have hbelow := pairwise_next (programs_ordered hapart t) hholds hmove
    have hcontended'' : Contended (.lock row mode' : Move Row (Session ι κ)) := by
      cases row <;> trivial
    exact hbelow row mode' rfl hcontended'' hcontended
  | session hnext hopen =>
    rw [hfirst] at hnext
    cases hnext
    exact awaited_above hapart (next_mem hfirst) (next_mem hmove) hcontended

/-- Without a bad pair of transactions no reachable state has a cycle of waits. -/
theorem no_cycle (hapart : sys.Apart) {st : State (Session ι κ)}
    (hst : Reachable sys.programs st) : ¬ Cycle sys.programs st :=
  acyclic_of_height (sys.sessionHeight st) fun _ _ _ h h' => waits_grow hst hapart h h'

omit [DecidableEq ι] [DecidableEq κ] in
theorem awaited_by (s t : Session ι κ) (h : .await t ∈ sys.programs s) :
    ∃ i, s = .guard i ∧ (t = .prepare i ∨ t = .finish i) := by
  cases s with
  | guard i =>
    refine ⟨i, rfl, ?_⟩
    simp only [System.programs, System.guardMoves] at h
    split at h <;> simpa using h
  | prepare i =>
    simp only [System.programs, System.prepareMoves] at h
    split at h <;> simp [mem_referenced] at h
  | finish i => simp [System.programs, System.finishMoves] at h
  | admin k =>
    simp only [System.programs] at h
    cases hoperation : sys.operation k <;> rw [hoperation] at h <;>
      simp [System.operationMoves, mem_referenced] at h

omit [DecidableEq ι] [DecidableEq κ] in
theorem admin_begins (st : State (Session ι κ)) (k : κ) : MayBegin sys.programs st (.admin k) := by
  refine mayBegin_of_nobody ?_
  intro t ht
  obtain ⟨i, -, h | h⟩ := awaited_by _ _ ht <;> cases h

omit [DecidableEq ι] [DecidableEq κ] in
theorem guard_begins (st : State (Session ι κ)) (i : ι) : MayBegin sys.programs st (.guard i) := by
  refine mayBegin_of_nobody ?_
  intro t ht
  obtain ⟨j, -, h | h⟩ := awaited_by _ _ ht <;> cases h

/-- The deactivation holds its deployment, the guard the fence, and the preparation waits
for the deployment. -/
theorem sender_cycle {k : κ} {i : ι} {deploymentId revisionId : UUID}
    (hoperation : sys.operation k = .deactivate deploymentId)
    (hcontext : (sys.send i).context = some (deploymentId, revisionId)) :
    ∃ st, Reachable sys.programs st ∧ Cycle sys.programs st := by
  have hadmin : sys.programs (.admin k) = [.lock (.deployment deploymentId) .update,
      .lock (.fence (sys.workspaceOf deploymentId)) .update,
      .lock (.activations deploymentId) .noKeyUpdate] := by
    simp [System.programs, hoperation, System.operationMoves]
  have hguard : sys.programs (.guard i) = [.lock (.fence (sys.workspaceOf deploymentId)) .share,
      .await (.prepare i), .await (.finish i)] := by
    simp [System.programs, System.guardMoves, hcontext]
  have hprepare : ∀ n, n < 3 → ∃ row, (sys.programs (.prepare i))[n]? = some (.lock row .update) ∧
      (∃ id, row = .message id ∨ row = .account id ∨ row = .connection id) := by
    intro n hn
    simp only [System.programs, System.prepareMoves]
    interval_cases n
    · exact ⟨_, rfl, _, .inl rfl⟩
    · exact ⟨_, rfl, _, .inr (.inl rfl)⟩
    · exact ⟨_, rfl, _, .inr (.inr rfl)⟩
  have hwaits : (sys.programs (.prepare i))[3]? = some (.lock (.deployment deploymentId) .update) := by
    simp [System.programs, System.prepareMoves, hcontext]
  let first : State (Session ι κ) := Function.update start (.admin k) (.running 1)
  let second : State (Session ι κ) := Function.update first (.guard i) (.running 1)
  let third : State (Session ι κ) := Function.update second (.prepare i) (.running 3)
  have hfirst : Steps sys.programs start first := by
    refine begun 1 rfl (admin_begins _ k) ?_
    intro n hn
    obtain rfl : n = 0 := by omega
    exact ⟨_, _, by rw [hadmin]; rfl, fun t mode' _ hholds => absurd hholds start_holds⟩
  have hheld : ∀ t row mode, Holds sys.programs first t row mode → t = .admin k ∧
      row = .deployment deploymentId := by
    intro t row mode hholds
    by_cases ht : t = .admin k
    · subst ht
      have hmem := holds_self.mp hholds
      simp [hadmin] at hmem
      exact ⟨rfl, hmem.1⟩
    · exact absurd ((holds_other ht).mp hholds) start_holds
  have hsecond : Steps sys.programs first second := by
    refine begun 1 (by simp [first, start]) (guard_begins _ i) ?_
    intro n hn
    obtain rfl : n = 0 := by omega
    refine ⟨_, _, by rw [hguard]; rfl, ?_⟩
    intro t mode' _ hholds
    cases (hheld t _ mode' hholds).2
  have hheld' : ∀ t row mode, Holds sys.programs second t row mode →
      row = .deployment deploymentId ∨ row = .fence (sys.workspaceOf deploymentId) := by
    intro t row mode hholds
    by_cases ht : t = .guard i
    · subst ht
      have hmem := holds_self.mp hholds
      simp [hguard] at hmem
      exact .inr hmem.1
    · exact .inl (hheld t row mode ((holds_other ht).mp hholds)).2
  have hthird : Steps sys.programs second third := by
    refine begun 3 (by simp [second, first, start]) ?_ ?_
    · intro t ht
      obtain ⟨j, rfl, h | h⟩ := awaited_by _ _ ht
      · cases h
        simp [next, second, hguard]
      · cases h
    · intro n hn
      obtain ⟨row, hrow, id, hkind⟩ := hprepare n hn
      refine ⟨row, .update, hrow, ?_⟩
      intro t mode' _ hholds
      rcases hheld' t row mode' hholds with rfl | rfl <;> rcases hkind with h | h | h <;> cases h
  have hadminStatus : third (.admin k) = .running 1 := by simp [third, second, first]
  have hguardStatus : third (.guard i) = .running 1 := by simp [third, second]
  have hprepareStatus : third (.prepare i) = .running 3 := by simp [third]
  refine ⟨third, (hfirst.trans hsecond).trans hthird, .guard i, ?_⟩
  have hone : WaitsFor sys.programs third (.guard i) (.prepare i) :=
    .session _ _ (by simp [next, hguardStatus, hguard]) (by simp [hprepareStatus])
  have htwo : WaitsFor sys.programs third (.prepare i) (.admin k) :=
    .row _ _ _ _ (by simp only [next, hprepareStatus]; exact hwaits)
      ⟨by simp, .update, ⟨1, hadminStatus, by simp [hadmin]⟩, rfl⟩
  have hthree : WaitsFor sys.programs third (.admin k) (.guard i) :=
    .row _ _ (.fence (sys.workspaceOf deploymentId)) .update (by simp [next, hadminStatus, hadmin])
      ⟨by simp, .share, ⟨1, hguardStatus, by simp [hguard]⟩, rfl⟩
  exact .tail (.tail (.single hone) htwo) hthree

/-- The deactivation holds its deployment, the activation the fence. -/
theorem activation_cycle {k l : κ} {deploymentId revisionId : UUID}
    (hoperation : sys.operation k = .deactivate deploymentId)
    (hoperation' : sys.operation l = .activateRevision deploymentId revisionId) :
    ∃ st, Reachable sys.programs st ∧ Cycle sys.programs st := by
  have hne : (.admin k : Session ι κ) ≠ .admin l := by
    intro he
    cases he
    rw [hoperation] at hoperation'
    cases hoperation'
  have hdeactivate : sys.programs (.admin k) = [.lock (.deployment deploymentId) .update,
      .lock (.fence (sys.workspaceOf deploymentId)) .update,
      .lock (.activations deploymentId) .noKeyUpdate] := by
    simp [System.programs, hoperation, System.operationMoves]
  have hactivate : (sys.programs (.admin l)).take 3 =
      [.lock (.fence (sys.workspaceOf deploymentId)) .update,
        .lock (.workspace (sys.workspaceOf deploymentId)) .update,
        .lock (.deployment deploymentId) .update] := by
    simp [System.programs, hoperation', System.operationMoves]
  have hget : ∀ n, n < 3 → (sys.programs (.admin l))[n]? = ((sys.programs (.admin l)).take 3)[n]? :=
    fun n hn => (List.getElem?_take_of_lt hn).symm
  refine crossing_cycle 1 2 (.fence (sys.workspaceOf deploymentId)) (.deployment deploymentId)
    .update .update .update .update hne (fun _ => admin_begins _ k) (fun _ => admin_begins _ l) ?_ ?_
    (by rw [hdeactivate]; rfl) ?_ rfl (by rw [hget 2 (by omega), hactivate]; rfl)
    (by simp [hdeactivate]) rfl
  · intro n hn
    obtain rfl : n = 0 := by omega
    exact ⟨_, _, by rw [hdeactivate]; rfl⟩
  · intro n hn
    have hrow : ∃ row, (sys.programs (.admin l))[n]? = some (.lock row .update) ∧
        row ≠ .deployment deploymentId := by
      rw [hget n (by omega), hactivate]
      interval_cases n
      · exact ⟨_, rfl, by simp⟩
      · exact ⟨_, rfl, by simp⟩
    obtain ⟨row, hmove, hrow⟩ := hrow
    refine ⟨row, .update, hmove, ?_⟩
    intro mode' hmem
    simp [hdeactivate, hrow] at hmem
  · have htake : (sys.programs (.admin l)).take 2 = ((sys.programs (.admin l)).take 3).take 2 := by
      simp [List.take_take]
    rw [htake, hactivate]
    simp

/-- The insert of the new rule holds the workspace, the activation the fence. -/
theorem rule_cycle (hkeys : sys.foreignKeys = true) {k l : κ} {deploymentId revisionId : UUID}
    {principalId : Option UUID} (hoperation : sys.operation k = .activateRevision deploymentId revisionId)
    (hoperation' : sys.operation l = .createRule (sys.workspaceOf deploymentId) principalId) :
    ∃ st, Reachable sys.programs st ∧ Cycle sys.programs st := by
  have hne : (.admin k : Session ι κ) ≠ .admin l := by
    intro he
    cases he
    rw [hoperation] at hoperation'
    cases hoperation'
  have hactivate : (sys.programs (.admin k)).take 2 =
      [.lock (.fence (sys.workspaceOf deploymentId)) .update,
        .lock (.workspace (sys.workspaceOf deploymentId)) .update] := by
    simp [System.programs, hoperation, System.operationMoves]
  have hcreate : sys.programs (.admin l) =
      (.lock (.workspace (sys.workspaceOf deploymentId)) .keyShare ::
        principalId.toList.map fun id => .lock (.principal id) .keyShare) ++
      [.lock (.fence (sys.workspaceOf deploymentId)) .update] := by
    simp [System.programs, hoperation', System.operationMoves, System.referenced, hkeys]
  have hget : ∀ n, n < 2 → (sys.programs (.admin k))[n]? = ((sys.programs (.admin k)).take 2)[n]? :=
    fun n hn => (List.getElem?_take_of_lt hn).symm
  have hone : (sys.programs (.admin k)).take 1 = ((sys.programs (.admin k)).take 2).take 1 := by
    simp [List.take_take]
  refine crossing_cycle 1 (1 + principalId.toList.length)
    (.workspace (sys.workspaceOf deploymentId)) (.fence (sys.workspaceOf deploymentId))
    .update .update .keyShare .update hne
    (fun _ => admin_begins _ k) (fun _ => admin_begins _ l) ?_ ?_
    (by rw [hget 1 (by omega), hactivate]; rfl) ?_ rfl ?_ (by rw [hone, hactivate]; simp) rfl
  · intro n hn
    obtain rfl : n = 0 := by omega
    exact ⟨_, _, by rw [hget 0 (by omega), hactivate]; rfl⟩
  · intro n hn
    have hrow : ∃ row, (sys.programs (.admin l))[n]? = some (.lock row .keyShare) ∧
        row ≠ .fence (sys.workspaceOf deploymentId) := by
      rw [hcreate]
      cases principalId with
      | none =>
        obtain rfl : n = 0 := by simpa using hn
        exact ⟨_, rfl, by simp⟩
      | some id =>
        have hn : n < 2 := by simpa using hn
        interval_cases n
        · exact ⟨_, rfl, by simp⟩
        · exact ⟨_, rfl, by simp⟩
    obtain ⟨row, hmove, hrow⟩ := hrow
    refine ⟨row, .keyShare, hmove, ?_⟩
    intro mode' hmem
    rw [hone, hactivate] at hmem
    simp [hrow] at hmem
  · rw [hcreate]
    simp [Nat.add_comm 1]
  · rw [hcreate]
    cases principalId <;> rfl

/-- No reachable state has a cycle of waits if and only if no deactivation meets a sender
or an activation of its deployment and, when the locks of foreign keys count, no new rule
meets an activation in its workspace. -/
theorem deadlock_free_iff (sys : System ι κ) :
    (∀ st, Reachable sys.programs st → ¬ Cycle sys.programs st) ↔ sys.Apart := by
  constructor
  · intro h
    have hnone : ¬ ∃ st, Reachable sys.programs st ∧ Cycle sys.programs st := by
      rintro ⟨st, hst, hcycle⟩
      exact h st hst hcycle
    refine ⟨?_, ?_, ?_⟩
    · intro k i deploymentId revisionId hoperation hcontext
      exact hnone (sender_cycle hoperation hcontext)
    · intro k l deploymentId revisionId hoperation hoperation'
      exact hnone (activation_cycle hoperation hoperation')
    · intro hkeys k l deploymentId revisionId principalId hoperation hoperation'
      exact hnone (rule_cycle hkeys hoperation hoperation')
  · intro hapart st hst
    exact no_cycle hapart hst

/-- A reply of deployment 1 is sent while the deployment is deactivated. -/
def sampleSystem : System Unit Unit where
  foreignKeys := false
  workspaceOf := fun _ => 1
  send := fun _ => ⟨1, 1, 1, some (1, 1)⟩
  operation := fun _ => .deactivate 1

/-- The preparation waits for the deployment that the deactivation holds, and the deactivation
for the fence. -/
theorem deactivation_deadlocks :
    ¬ ∀ (sys : System Unit Unit) (st : State (Session Unit Unit)),
      Reachable sys.programs st → ¬ Cycle sys.programs st := by
  intro h
  have hoperation : sampleSystem.operation () = .deactivate 1 := rfl
  have hcontext : (sampleSystem.send ()).context = some (1, 1) := rfl
  obtain ⟨st, hst, hcycle⟩ := sender_cycle hoperation hcontext
  exact h sampleSystem st hst hcycle

end WechatBot.SendDeadlock
