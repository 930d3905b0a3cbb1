import WechatBot.PluginAcceptance

/-!
# Malformed results

Whatever a plugin returns should end as a record that is SUCCEEDED or REJECTED,
and leave the rest of the dispatch alone. An exception that `dispatch` does not
catch rolls the whole event back. The main theorem says exactly which results
raise one.
-/
namespace WechatBot.PluginContainment

open PyData Records OutboxState OutboxService PluginActions KeyedBatch SubmissionBatch Dispatcher
open PluginAcceptance (handled_in_loop noRecords noRows)
open Tables (Table)

/-- The context binds both or neither of a chatroom and a contact: the event is neither a
group nor a private one. -/
def Unbound (context : ResolvedContext) : Prop :=
  context.chatroomId.isNone = context.contactId.isNone

/-- The actions pass the checks up to one whose type is a list or a dictionary, or, for an
event that is neither a group nor a private one, up to one that passes them as well. -/
def ChecksBreak (context : ResolvedContext) (index : Nat) : List Fields → Prop
  | [] => False
  | action :: actions => unhashable (actionType action) = true ∨
      (WellFormed index action ∧ (Unbound context ∨ ChecksBreak context (index + 1) actions))

/-- The database refuses a lookup with NUL in the key, and a new row with NUL in the text. -/
def Spills (sha256 : CanonicalAction → Str) (store : Store Str Str)
    (submission : TextActionSubmission) : Prop :=
  admissible submission = true ∧ (storable (strip submission.idempotencyKey) = false ∨
    Fresh store (item sha256 submission) ∧ storable submission.text = false)

/-- A reply spills before any is refused, each judged against the outbox and the replies
before it. -/
def SpillsFirst (sha256 : CanonicalAction → Str) (store : Store Str Str) :
    List TextActionSubmission → Prop
  | [] => False
  | submission :: submissions => Spills sha256 store submission ∨
      (¬ Refused store (item sha256 submission) ∧
        SpillsFirst sha256 (store ++ [(item sha256 submission).binding]) submissions)

/-- The result has a broken action, or a reply that spills. -/
def Breaks (d : EventDispatch) (route : PluginRoute) (result : Json) (t : Outbox) : Prop :=
  (∃ actions, pluginActions result = .ok actions ∧ ChecksBreak d.context 0 actions) ∨
    ∃ actions submissions, checkedSubmissions (d.origin route) result = .ok (actions, submissions) ∧
      SpillsFirst d.sha256 (bindingsUnder (d.front route) t) submissions

/-- The dispatch commits, and every called plugin that returned has its result accepted or
rejected. -/
def Contained (d : EventDispatch) (t : Outbox) (records : UUID → Option PluginEventDispatch) :
    Prop :=
  ∃ after retry, dispatch d t records = .committed after retry ∧
    ∀ selected ∈ d.selected, ∀ result, Returns records selected result →
      (after.record selected.route).status = .SUCCEEDED ∨
        (after.record selected.route).status = .REJECTED

theorem unbound_iff (context : ResolvedContext) (route : PluginRoute) :
    authorizationContext context route = none ↔ Unbound context := by
  have h := authorizationContext_isSome_iff context route
  rw [Unbound]
  cases hauthorization : authorizationContext context route with
  | none =>
    rw [hauthorization] at h
    simpa using h
  | some authorization =>
    rw [hauthorization] at h
    simpa using h

theorem textSubmissions_uncaught_iff (origin : ReplyOrigin) {target : Str}
    (htarget : origin.event.conversationId = some target) (index : Nat) (actions : List Fields) :
    (∃ error, textSubmissions origin index actions = .error (.uncaught error)) ↔
      ChecksBreak origin.context index actions := by
  induction actions generalizing index with
  | nil => simp [textSubmissions, ChecksBreak]
  | cons action actions ih =>
    have hexamined := textSubmission_examined htarget index action
    rw [textSubmissions, ChecksBreak]
    cases hfirst : textSubmission origin index action with
    | error error =>
      rw [hfirst] at hexamined
      cases hexamined with
      | unhashable htype => simp [htype, bind, Except.bind]
      | refused reason htype hformed => simp [htype, hformed, bind, Except.bind]
      | unbound hformed hauthorization =>
        have hunbound := (unbound_iff origin.context origin.route).mp hauthorization
        simp [hformed, hunbound, bind, Except.bind]
    | ok submission =>
      rw [hfirst] at hexamined
      cases hexamined with
      | passed text key authorization hformed htext hkey hauthorization =>
        have hbound : ¬ Unbound origin.context := by
          rw [← unbound_iff origin.context origin.route, hauthorization]
          simp
        have hhash : unhashable (actionType action) ≠ true := by
          intro htype
          have hunsupported := not_supported_of_unhashable htype
          rw [hformed.type] at hunsupported
          cases hunsupported
        have hrest := ih (index + 1)
        simp only [hhash, hformed, hbound, false_or, true_and, bind, Except.bind, pure, Except.pure]
        rw [← hrest]
        cases textSubmissions origin (index + 1) actions <;> simp

theorem checkedSubmissions_uncaught_iff (d : EventDispatch) (route : PluginRoute) (result : Json) :
    (∃ error, checkedSubmissions (d.origin route) result = .error (.uncaught error)) ↔
      ∃ actions, pluginActions result = .ok actions ∧ ChecksBreak d.context 0 actions := by
  have hiff := textSubmissions_uncaught_iff (d.origin route) d.addressed 0
  unfold checkedSubmissions
  cases hactions : pluginActions result with
  | error error =>
    obtain ⟨reason, rfl⟩ := pluginActions_error hactions
    simp [bind, Except.bind]
  | ok actions =>
    have hcontext : (d.origin route).context = d.context := rfl
    simp only [Except.ok.injEq, exists_eq_left', ← hcontext, ← hiff]
    cases hsubmissions : textSubmissions (d.origin route) 0 actions with
    | error error => simp [bind, Except.bind, hsubmissions]
    | ok submissions =>
      by_cases hgrant : submissions ≠ [] ∧ py "message.reply.text" ∉ (d.origin route).route.grants
      · simp [bind, Except.bind, hsubmissions, hgrant, throw, throwThe, MonadExceptOf.throw]
      · simp [bind, Except.bind, hsubmissions, hgrant, pure, Except.pure]

/-- Identifiers that the coming submissions will use are neither taken nor repeated. -/
structure FreshFrom (stamps : Nat → Stamp) (index count : Nat) (t : Outbox) : Prop where
  free : ∀ i, index ≤ i → i < index + count → t.find (stamps i).id = none
  distinct : ∀ i j, index ≤ i → i < j → j < index + count → (stamps i).id ≠ (stamps j).id

theorem FreshFrom.next {stamps : Nat → Stamp} {index count : Nat} {t t' : Outbox}
    {m : OutboxMessage} (h : FreshFrom stamps index (count + 1) t) (hid : m.id = (stamps index).id)
    (hinsert : t.insert m = some t') : FreshFrom stamps (index + 1) count t' := by
  refine ⟨?_, fun i j hi hij hj => h.distinct i j (by omega) hij (by omega)⟩
  intro i hi hlt
  have hne : (stamps i).id ≠ m.id := by
    rw [hid]
    exact Ne.symm (h.distinct index i (by omega) (by omega) (by omega))
  rw [Table.find_insert hinsert, if_neg hne]
  exact h.free i (by omega) (by omega)

theorem FreshFrom.skip {stamps : Nat → Stamp} {index count : Nat} {t : Outbox}
    (h : FreshFrom stamps index (count + 1) t) : FreshFrom stamps (index + 1) count t :=
  ⟨fun i hi hlt => h.free i (by omega) (by omega),
    fun i j hi hij hj => h.distinct i j (by omega) hij (by omega)⟩

theorem spillsFirst_congr {sha256 : CanonicalAction → Str} {store store' : Store Str Str}
    (h : ∀ key, digestOf store key = digestOf store' key)
    (submissions : List TextActionSubmission) :
    SpillsFirst sha256 store submissions ↔ SpillsFirst sha256 store' submissions := by
  induction submissions generalizing store store' with
  | nil => exact Iff.rfl
  | cons submission submissions ih =>
    have hrest := @ih (store ++ [(item sha256 submission).binding])
      (store' ++ [(item sha256 submission).binding])
      (fun key => by rw [digestOf_append, digestOf_append, h])
    rw [SpillsFirst, SpillsFirst, Spills, Spills, refused_congr (h _), fresh_congr (h _), hrest]

/-- With fresh identifiers, the submissions end with an exception that nobody catches
exactly when one of them spills first. -/
theorem submitTexts_uncaught_iff {sha256 : CanonicalAction → Str} {accountExists : UUID → Bool}
    {front : Str} {submissions : List TextActionSubmission}
    (hready : Ready accountExists front submissions) {stamps : Nat → Stamp} {index : Nat}
    {t : Outbox} (hfree : FreshFrom stamps index submissions.length t) :
    (∃ error, (submitTexts sha256 accountExists stamps index t submissions).2 =
        some (.uncaught error)) ↔
      SpillsFirst sha256 (bindingsUnder front t) submissions := by
  induction submissions generalizing t index with
  | nil => simp [submitTexts, SpillsFirst]
  | cons submission submissions ih =>
    obtain ⟨hchecked, haccount⟩ := hready submission (by simp)
    have hrest : Ready accountExists front submissions := fun s hs => hready s (by simp [hs])
    have hsubmitted := submitText_submitted sha256 t hchecked haccount
      (stamps index)
    have hdigest := digestOf_under hchecked.front t
    rw [submitTexts, SpillsFirst, Spills, fresh_congr hdigest, refused_congr hdigest]
    cases hresult : submitText sha256 accountExists t submission (stamps index) with
    | error error =>
      rw [hresult] at hsubmitted
      cases hsubmitted with
      | refused reason hrefused hkey =>
        have hnot : ¬ Fresh (bindings t) (item sha256 submission) := fun h => h.not_refused hrefused
        have hspill : ¬ (admissible submission = true ∧
            storable (strip submission.idempotencyKey) = false) := by
          rintro ⟨hadmissible, hfalse⟩
          rw [hkey hadmissible] at hfalse
          cases hfalse
        simp only [hrefused, hnot, hspill, false_and, or_false, not_true_eq_false]
        simp
      | spilled hadmissible hcause =>
        have hspill : storable (strip submission.idempotencyKey) = false ∨
            Fresh (bindings t) (item sha256 submission) ∧ storable submission.text = false := by
          refine hcause.imp_right ?_
          rintro ⟨hfresh, htext | htaken⟩
          · exact ⟨hfresh, htext⟩
          · exact absurd (hfree.free index (by omega) (by simp)) htaken
        simp [hadmissible, hspill]
    | ok t' =>
      rw [hresult] at hsubmitted
      cases hsubmitted with
      | known hknown hkey =>
        have hnot : ¬ Fresh (bindings t) (item sha256 submission) := fun h => h.not_known hknown
        have hunder := (known_congr hdigest).mpr hknown
        rw [spillsFirst_congr (digestOf_append_known hunder) submissions,
          ← ih hrest hfree.skip]
        simp [hnot, hkey, hknown.not_refused]
      | added m t' hfresh hkey htext hid hbinding hinsert =>
        rw [← bindingsUnder_insert hchecked hbinding hinsert, ← ih hrest (hfree.next hid hinsert)]
        simp [hkey, htext, hfresh.not_refused]

theorem length_of_mapM {items : List Json} {objects : List Fields}
    (h : items.mapM asObject = some objects) : objects.length = items.length := by
  induction items generalizing objects with
  | nil =>
    cases h
    rfl
  | cons value items ih =>
    rw [List.mapM_cons] at h
    obtain ⟨first, -, h⟩ := Option.bind_eq_some_iff.mp h
    obtain ⟨rest, hrest, h⟩ := Option.bind_eq_some_iff.mp h
    cases h
    rw [List.length_cons, List.length_cons, ih hrest]

theorem pluginActions_ok {result : Json} {actions : List Fields}
    (h : pluginActions result = .ok actions) : actions.length ≤ maxPluginActions := by
  unfold pluginActions at h
  split at h
  · split at h
    · rename_i items hitems
      split at h
      · cases h
      · rename_i hcount
        split at h
        · cases h
        · rename_i objects hobjects
          cases h
          have hlength := length_of_mapM hobjects
          omega
    · cases h
  · cases h

theorem checkedSubmissions_ok {d : EventDispatch} {route : PluginRoute} {result : Json}
    {actions : List Fields} {submissions : List TextActionSubmission}
    (h : checkedSubmissions (d.origin route) result = .ok (actions, submissions)) :
    submissions.length ≤ maxPluginActions := by
  have hlength := (ready_of_checked d h).1
  obtain ⟨actions', hactions, h⟩ := Results.bind_ok.mp h
  obtain ⟨submissions', hsubmissions, h⟩ := Results.bind_ok.mp h
  split at h
  · exact absurd h Results.throw_bind_ne
  · cases h
    have hle := pluginActions_ok hactions
    omega

theorem handleResult_raised_iff (d : EventDispatch) {t : Outbox} {route : PluginRoute}
    {stamps : Nat → Stamp} {result : Json} (hfree : FreshFrom stamps 0 maxPluginActions t) :
    (∃ error, handleResult d.sha256 d.accountExists t (d.origin route) stamps result =
        .raised error) ↔ Breaks d route result t := by
  rw [Breaks, ← checkedSubmissions_uncaught_iff d route result]
  have hspills : ∀ actions submissions,
      checkedSubmissions (d.origin route) result = .ok (actions, submissions) →
      ((∃ error, (submitTexts d.sha256 d.accountExists stamps 0 t submissions).2 =
        some (.uncaught error)) ↔
          SpillsFirst d.sha256 (bindingsUnder (d.front route) t) submissions) := by
    intro actions submissions hchecked
    have hcount := checkedSubmissions_ok hchecked
    exact submitTexts_uncaught_iff (ready_of_checked d hchecked).2
      ⟨fun i hi hlt => hfree.free i hi (by omega), fun i j hi hij hj =>
        hfree.distinct i j hi hij (by omega)⟩
  have hresulted := handleResult_resulted d.sha256 d.accountExists t (d.origin route) stamps result
  generalize handleResult d.sha256 d.accountExists t (d.origin route) stamps result = acceptance
    at hresulted
  cases hresulted with
  | broken error hchecked => simp [hchecked]
  | refused reason hchecked => simp [hchecked]
  | spilled actions submissions t' error hchecked hsubmit =>
    have hfirst := (hspills actions submissions hchecked).mp ⟨error, by rw [hsubmit]⟩
    exact ⟨fun _ => .inr ⟨actions, submissions, hchecked, hfirst⟩, fun _ => ⟨error, rfl⟩⟩
  | stopped actions submissions t' reason hchecked hsubmit =>
    have hnot := (hspills actions submissions hchecked).not.mp (by simp [hsubmit])
    simp [hchecked, hnot]
  | accepted actions submissions t' hchecked hsubmit =>
    have hnot := (hspills actions submissions hchecked).not.mp (by simp [hsubmit])
    simp [hchecked, hnot]

/-- The identifiers that one turn may use: `uuid4` is called at most once for each action. -/
def stampIds (selected : Selected) : List UUID :=
  (List.range maxPluginActions).map fun i => (selected.stamps i).id

/-- What `uuid4` promises: the identifiers of the turns are new and different. -/
structure FreshStamps (turns : List Selected) (t : Outbox) : Prop where
  free : ∀ id ∈ turns.flatMap stampIds, t.find id = none
  distinct : (turns.flatMap stampIds).Nodup

theorem FreshStamps.from_head {selected : Selected} {turns : List Selected} {t : Outbox}
    (h : FreshStamps (selected :: turns) t) : FreshFrom selected.stamps 0 maxPluginActions t := by
  have hmem : ∀ i, i < maxPluginActions → (selected.stamps i).id ∈ stampIds selected :=
    fun i hi => List.mem_map.mpr ⟨i, List.mem_range.mpr hi, rfl⟩
  have hdistinct : (stampIds selected).Nodup := by
    have hall := h.distinct
    rw [List.flatMap_cons, List.nodup_append] at hall
    exact hall.1
  refine ⟨?_, ?_⟩
  · intro i _ hi
    exact h.free _ (List.mem_flatMap.mpr ⟨selected, by simp, hmem i (by omega)⟩)
  · intro i j _ hij hj heq
    have hinj := List.inj_on_of_nodup_map hdistinct
    have hsame := hinj (List.mem_range.mpr (by omega)) (List.mem_range.mpr (by omega)) heq
    omega

theorem submitTexts_find (sha256 : CanonicalAction → Str) {accountExists : UUID → Bool}
    (t : Outbox) (stamps : Nat → Stamp) (index : Nat) {id : UUID} {front : Str}
    {submissions : List TextActionSubmission} (hready : Ready accountExists front submissions)
    (hother : ∀ i, index ≤ i → i < index + submissions.length → id ≠ (stamps i).id) :
    (submitTexts sha256 accountExists stamps index t submissions).1.find id = t.find id := by
  induction submissions generalizing t index with
  | nil => rfl
  | cons submission submissions ih =>
    obtain ⟨hchecked, haccount⟩ := hready submission (by simp)
    have hsubmitted := submitText_submitted sha256 t hchecked haccount
      (stamps index)
    rw [submitTexts]
    cases hresult : submitText sha256 accountExists t submission (stamps index) with
    | error error => rfl
    | ok t' =>
      have hrest := ih t' (index + 1) (fun s hs => hready s (by simp [hs]))
        (fun i hi hlt => hother i (by omega) (by simp; omega))
      rw [hresult] at hsubmitted
      refine hrest.trans ?_
      cases hsubmitted with
      | known hknown hkey => rfl
      | added m t' hfresh hkey htext hid hbinding hinsert =>
        have hne : id ≠ m.id := by
          rw [hid]
          exact hother index (by omega) (by simp)
        rw [Table.find_insert hinsert, if_neg hne]

theorem handleResult_find (d : EventDispatch) {t t' : Outbox} {route : PluginRoute}
    {stamps : Nat → Stamp} {result : Json} {id : UUID}
    (hother : ∀ i, i < maxPluginActions → id ≠ (stamps i).id)
    (h : (∃ count, handleResult d.sha256 d.accountExists t (d.origin route) stamps result =
        .succeeded t' count) ∨ ∃ reason, handleResult d.sha256 d.accountExists t (d.origin route)
          stamps result = .rejected t' reason) :
    t'.find id = t.find id := by
  have hkept : ∀ actions submissions u error,
      checkedSubmissions (d.origin route) result = .ok (actions, submissions) →
      submitTexts d.sha256 d.accountExists stamps 0 t submissions = (u, error) →
      u.find id = t.find id := by
    intro actions submissions u error hchecked hsubmit
    have hcount := checkedSubmissions_ok hchecked
    have hfind := submitTexts_find d.sha256 t stamps 0 (ready_of_checked d hchecked).2
      (fun i _ hi => hother i (by omega))
    rwa [hsubmit] at hfind
  have hresulted := handleResult_resulted d.sha256 d.accountExists t (d.origin route) stamps result
  rcases h with ⟨count, h⟩ | ⟨reason, h⟩
  · rw [h] at hresulted
    cases hresulted with
    | accepted actions submissions _ hchecked hsubmit => exact hkept _ _ _ _ hchecked hsubmit
  · rw [h] at hresulted
    cases hresulted with
    | refused _ hchecked => rfl
    | stopped actions submissions _ _ hchecked hsubmit => exact hkept _ _ _ _ hchecked hsubmit

/-- A turn raises exactly when its plugin returns a result that breaks. -/
theorem dispatchRoute_raises_iff {d : EventDispatch} {s : DispatchState} {selected : Selected}
    (hfree : FreshFrom selected.stamps 0 maxPluginActions s.outbox) :
    (∃ error, dispatchRoute d s selected = .error error) ↔
      ∃ result, Returns s.records selected result ∧ Breaks d selected.route result s.outbox := by
  have hturn := dispatchRoute_turn d s selected
  generalize dispatchRoute d s selected = turn at hturn
  cases hturn with
  | skipped hdone =>
    have hnone : ¬ ∃ result, Returns s.records selected result ∧
        Breaks d selected.route result s.outbox := fun ⟨_, hreturns, _⟩ => hreturns.1 hdone
    simp [hnone]
  | closed record retryable hnone =>
    have hnever : ¬ ∃ result, Returns s.records selected result ∧
        Breaks d selected.route result s.outbox := fun ⟨result, hreturns, _⟩ =>
      hnone ⟨result, hreturns⟩
    simp [hnever]
  | ended result record t' hreturns hend =>
    have hnever : ¬ ∃ other, Returns s.records selected other ∧
        Breaks d selected.route other s.outbox := by
      rintro ⟨other, hother, hbreaks⟩
      have hsame : other = result := Except.ok.inj (hother.2.2.symm.trans hreturns.2.2)
      obtain ⟨error, hraised⟩ := (handleResult_raised_iff d hfree).mpr (hsame ▸ hbreaks)
      rcases hend with ⟨_, hend, -⟩ | ⟨_, hend, -⟩ <;> rw [hraised] at hend <;> cases hend
    simp [hnever]
  | raised result error hreturns hraised =>
    have hbreaks := (handleResult_raised_iff d hfree).mp ⟨error, hraised⟩
    exact ⟨fun _ => ⟨result, hreturns, hbreaks⟩, fun _ => ⟨error, rfl⟩⟩

theorem dispatchRoute_find {d : EventDispatch} {s s' : DispatchState} {selected : Selected} {id : UUID}
    (h : dispatchRoute d s selected = .ok s') (hother : id ∉ stampIds selected) :
    s'.outbox.find id = s.outbox.find id := by
  have hne : ∀ i, i < maxPluginActions → id ≠ (selected.stamps i).id := by
    intro i hi heq
    exact hother (List.mem_map.mpr ⟨i, List.mem_range.mpr hi, heq.symm⟩)
  have hturn := dispatchRoute_turn d s selected
  rw [h] at hturn
  cases hturn with
  | skipped hdone => rfl
  | closed record retryable hnone => rfl
  | ended result record t' hreturns hend =>
    rcases hend with ⟨count, hend, -⟩ | ⟨reason, hend, -⟩
    · exact handleResult_find d hne (.inl ⟨count, hend⟩)
    · exact handleResult_find d hne (.inr ⟨reason, hend⟩)

theorem FreshStamps.after_turn {d : EventDispatch} {s s' : DispatchState} {selected : Selected}
    {turns : List Selected} (h : FreshStamps (selected :: turns) s.outbox)
    (hturn : dispatchRoute d s selected = .ok s') : FreshStamps turns s'.outbox := by
  have hall := h.distinct
  rw [List.flatMap_cons, List.nodup_append] at hall
  obtain ⟨-, hdistinct, hapart⟩ := hall
  refine ⟨?_, hdistinct⟩
  intro id hid
  have hother : id ∉ stampIds selected := fun hmem => hapart id hmem id hid rfl
  rw [dispatchRoute_find hturn hother]
  exact h.free id (by rw [List.flatMap_cons]; exact List.mem_append_right _ hid)

theorem breaks_of_same {d : EventDispatch} {route : PluginRoute} {result : Json} {t t' : Outbox}
    (hrows : rowsUnder (d.front route) t = rowsUnder (d.front route) t') :
    Breaks d route result t ↔ Breaks d route result t' := by
  rw [Breaks, Breaks, bindingsUnder, hrows, bindingsUnder]

/-- The loop raises exactly when some turn's plugin returns a result that breaks, each
judged against the rows before the loop. -/
theorem dispatchRoutes_raises_iff {d : EventDispatch} {turns : List Selected}
    (hdistinct : (turns.map (·.route.deploymentId)).Nodup) {s : DispatchState}
    (hunique : UniqueKeys s.outbox) (hfresh : FreshStamps turns s.outbox) :
    (∃ error, dispatchRoutes d s turns = .error error) ↔
      ∃ selected ∈ turns, ∃ result, Returns s.records selected result ∧
        Breaks d selected.route result s.outbox := by
  induction turns generalizing s with
  | nil => simp [dispatchRoutes]
  | cons selected turns ih =>
    rw [List.map_cons, List.nodup_cons] at hdistinct
    have hfirst := dispatchRoute_raises_iff (d := d) hfresh.from_head
    rw [dispatchRoutes]
    simp only [List.mem_cons, exists_eq_or_imp]
    cases hturn : dispatchRoute d s selected with
    | error error =>
      have hbreaks := hfirst.mp ⟨error, hturn⟩
      exact ⟨fun _ => .inl hbreaks, fun _ => ⟨error, rfl⟩⟩
    | ok s' =>
      have hframe := dispatchRoute_frame hunique hturn
      have hnot : ¬ ∃ result, Returns s.records selected result ∧
          Breaks d selected.route result s.outbox := by
        rw [← hfirst, hturn]
        simp
      have hsame : ∀ other ∈ turns, ∀ result,
          (Returns s'.records other result ∧ Breaks d other.route result s'.outbox ↔
            Returns s.records other result ∧ Breaks d other.route result s.outbox) := by
        intro other hother result
        have hne : other.route.deploymentId ≠ selected.route.deploymentId := fun heq =>
          hdistinct.1 (heq ▸ List.mem_map_of_mem (f := fun s => s.route.deploymentId) hother)
        have hrows : rowsUnder (d.front other.route) s'.outbox =
            rowsUnder (d.front other.route) s.outbox :=
          hframe.outbox.rowsUnder fun key => pairKey_apart hne.symm key
        rw [Returns, Returns, dispatchRecord, hframe.records _ hne, dispatchRecord,
          breaks_of_same hrows]
      rw [ih hdistinct.2 hframe.unique (hfresh.after_turn hturn)]
      constructor
      · rintro ⟨other, hother, result, h⟩
        exact .inr ⟨other, hother, result, (hsame other hother result).mp h⟩
      · rintro (h | ⟨other, hother, result, h⟩)
        · exact absurd h hnot
        · exact ⟨other, hother, result, (hsame other hother result).mpr h⟩

/-- Every called plugin that returned has its result accepted or rejected, and nothing is
rolled back, exactly when no returned result breaks. -/
theorem contained_iff (d : EventDispatch) (t : Outbox)
    (records : UUID → Option PluginEventDispatch) (hunique : UniqueKeys t)
    (hfresh : FreshStamps d.selected t) :
    Contained d t records ↔ ∀ selected ∈ d.selected, ∀ result,
      Returns records selected result → ¬ Breaks d selected.route result t := by
  have hraises := dispatchRoutes_raises_iff (d := d) d.distinct (s := ⟨t, records, []⟩) hunique
    hfresh
  rw [Contained, dispatch]
  cases hroutes : dispatchRoutes d ⟨t, records, []⟩ d.selected with
  | error error =>
    obtain ⟨selected, hselected, result, hreturns, hbreaks⟩ := hraises.mp ⟨error, hroutes⟩
    constructor
    · rintro ⟨after, retry, hcommits, -⟩
      cases hcommits
    · intro hnone
      exact absurd hbreaks (hnone selected hselected result hreturns)
  | ok s' =>
    constructor
    · intro _ selected hselected result hreturns hbreaks
      obtain ⟨error, herror⟩ := hraises.mpr ⟨selected, hselected, result, hreturns, hbreaks⟩
      rw [hroutes] at herror
      cases herror
    · intro _
      refine ⟨s', _, rfl, ?_⟩
      intro selected hselected result hreturns
      obtain ⟨u, v, hhandled, -, hrecord, -⟩ := handled_in_loop hunique hroutes hselected hreturns
      have hsame : s'.record selected.route = v.record selected.route := by
        rw [DispatchState.record, DispatchState.record, dispatchRecord, dispatchRecord, hrecord]
      rw [hsame]
      rcases hhandled.ended with ⟨_, -, hstatus, -⟩ | ⟨_, -, hstatus⟩
      · exact .inl hstatus
      · exact .inr hstatus

/-- One action whose type is a list. -/
def listForType : Json := .obj [(py "actions", .arr [.obj [(py "action_type", .arr [.str (py "x")])]])]

/-- Deployment 10 returns a good reply, deployment 11 a list for a type. -/
def listForTypeDispatch : EventDispatch :=
  sampleDispatch (resultOf [replyAction "a" "one"]) listForType

/-- The equivalence at this dispatch. -/
theorem contained_listForType : Contained listForTypeDispatch noRows noRecords ↔
    ∀ selected ∈ listForTypeDispatch.selected, ∀ result, Returns noRecords selected result →
      ¬ Breaks listForTypeDispatch selected.route result noRows :=
  contained_iff listForTypeDispatch noRows noRecords List.nodup_nil
    ⟨fun _ _ => rfl, by decide +kernel⟩

/-- The same dispatch without the second deployment. -/
def replyAlone : EventDispatch where
  __ := listForTypeDispatch
  selected := [sampleSelected 10 (resultOf [replyAction "a" "one"])]
  distinct := by decide

theorem replyAlone_isSome :
    (dispatch replyAlone noRows noRecords).committedState.isSome = true := by decide +kernel

/-- The second deployment's result rolls the dispatch back, and with it the reply of the
first, which is committed when it is alone. -/
theorem list_for_type_rolls_back :
    (∃ error, dispatch listForTypeDispatch noRows noRecords = .rolledBack error) ∧
      Returns noRecords (sampleSelected 11 listForType) listForType ∧
      ¬ Contained listForTypeDispatch noRows noRecords ∧
      ∃ after retry, dispatch replyAlone noRows noRecords = .committed after retry ∧
        (after.record (sampleRoute 10)).status = .SUCCEEDED := by
  obtain ⟨error, herror⟩ := DispatchEnd.eq_rolledBack
    (e := dispatch listForTypeDispatch noRows noRecords) (by decide +kernel)
  refine ⟨⟨error, herror⟩, ⟨by decide, rfl, rfl⟩, ?_, ?_⟩
  · rintro ⟨after, retry, hcommits, -⟩
    rw [herror] at hcommits
    cases hcommits
  · exact ⟨_, _, DispatchEnd.eq_committed replyAlone_isSome, by decide +kernel⟩

end WechatBot.PluginContainment
