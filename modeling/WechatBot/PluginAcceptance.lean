import Mathlib.Data.List.Perm.Subperm
import WechatBot.Dispatcher

/-!
# All or nothing

A plugin result should become one outbox message for each of its actions, or none.
The replies are submitted one after the other, so a refusal that follows an added
row breaks this, and so do two actions that share a row. The main theorem says
exactly which results are all or nothing.
-/
namespace WechatBot.PluginAcceptance

open PyData Records OutboxState OutboxService PluginActions KeyedBatch SubmissionBatch Dispatcher

/-- The result was accepted with exactly one message for each of its actions. -/
structure OneMessageEach (d : EventDispatch) (route : PluginRoute) (result : Json)
    (after : DispatchState) (actions : List Fields) (submissions : List TextActionSubmission) :
    Prop where
  checked : checkedSubmissions (d.origin route) result = .ok (actions, submissions)
  distinct : (submissions.map fun s => (item d.sha256 s).key).Nodup
  message : ∀ s ∈ submissions, ∃! m, m ∈ rowsUnder (d.front route) after.outbox ∧
    binding m = (item d.sha256 s).binding
  counted : (after.record route).acceptedActionCount = actions.length
  rows : (rowsUnder (d.front route) after.outbox).length = actions.length

def AllOrNothing (d : EventDispatch) (route : PluginRoute) (result : Json)
    (before after : DispatchState) : Prop :=
  ((after.record route).status = .SUCCEEDED ∧
      ∃ actions submissions, OneMessageEach d route result after actions submissions) ∨
    ((after.record route).status ≠ .SUCCEEDED ∧
      rowsUnder (d.front route) after.outbox = rowsUnder (d.front route) before.outbox)

/-- The replies of the result, if its checks pass, are independent of each other and of
the outbox, or stop at a refusal before they have added a row. -/
def Separable (d : EventDispatch) (route : PluginRoute) (result : Json) (t : Outbox) : Prop :=
  ∀ actions submissions, checkedSubmissions (d.origin route) result = .ok (actions, submissions) →
    Independent (bindingsUnder (d.front route) t) (submissions.map (item d.sha256)) ∨
      StopsAtOnce (bindingsUnder (d.front route) t) (submissions.map (item d.sha256))

theorem row_of_key {t : Outbox} (hunique : UniqueKeys t) {m m' : OutboxMessage} (hm : m ∈ t.rows)
    (hm' : m' ∈ t.rows) (hbinding : binding m = binding m') : m = m' := by
  have hkeys : ((t.rows.map fun a => a.idempotencyKey)).Nodup := by
    have hmap : (bindings t).map Prod.fst = t.rows.map fun a => a.idempotencyKey := by
      simp [bindings, binding]
    exact hmap ▸ hunique
  exact List.inj_on_of_nodup_map hkeys hm hm' (congrArg Prod.fst hbinding)

/-- After a completed batch each item has its row and no second one. -/
theorem message_of_done {front : Str} {t' : Outbox} (hunique : UniqueKeys t')
    {store : Store Str Str} {items : List (Item Str Str)}
    (h : submitAll store items = (bindingsUnder front t', true)) (i : Item Str Str) (hi : i ∈ items) :
    ∃! m, m ∈ rowsUnder front t' ∧ binding m = i.binding := by
  have hbound := submitAll_bound store items (by rw [h]) i hi
  rw [h] at hbound
  obtain ⟨m, hm, hbinding⟩ := List.mem_map.mp (digestOf_mem hbound)
  refine ⟨m, ⟨hm, hbinding⟩, ?_⟩
  rintro m' ⟨hm', hbinding'⟩
  exact row_of_key hunique (List.mem_of_mem_filter hm') (List.mem_of_mem_filter hm)
    (hbinding'.trans hbinding.symm)

/-- When the messages are as many as the items, no other row has their front. -/
theorem keys_of_count {store : Store Str Str} {items : List (Item Str Str)}
    (hdistinct : (items.map Item.key).Nodup)
    (hbound : ∀ i ∈ items, digestOf store i.key = some i.digest)
    (hlength : store.length = items.length) :
    ∀ key ∈ store.map Prod.fst, key ∈ items.map Item.key := by
  have hsub : items.map Item.key ⊆ store.map Prod.fst := by
    intro key hkey
    obtain ⟨i, hi, rfl⟩ := List.mem_map.mp hkey
    exact List.mem_map_of_mem (f := Prod.fst) (digestOf_mem (hbound i hi))
  have hperm : (items.map Item.key).Perm (store.map Prod.fst) :=
    (List.subperm_of_subset hdistinct hsub).perm_of_length_le (by simp [hlength])
  exact fun key hkey => hperm.mem_iff.mpr hkey

theorem rowsUnder_eq_iff {front : Str} {t t' : Outbox} (h : Extends front t t') :
    rowsUnder front t' = rowsUnder front t ↔ bindingsUnder front t' = bindingsUnder front t := by
  constructor
  · intro hrows
    rw [bindingsUnder, hrows, bindingsUnder]
  · intro hbindings
    obtain ⟨added, hadded, -⟩ := h
    have hsplit : rowsUnder front t' = rowsUnder front t ++
        added.filter (fun m => front.isPrefixOf m.idempotencyKey) := by
      rw [rowsUnder, hadded, List.filter_append, rowsUnder]
    have hlength := congrArg List.length hbindings
    rw [bindingsUnder, bindingsUnder, List.length_map, List.length_map, hsplit,
      List.length_append] at hlength
    have hnone : added.filter (fun m => front.isPrefixOf m.idempotencyKey) = [] :=
      List.eq_nil_of_length_eq_zero (by omega)
    rw [hsplit, hnone, List.append_nil]

/-- The record and the rows after one result was handled, against the outbox at its turn. -/
structure Handled (d : EventDispatch) (selected : Selected) (result : Json) (t : Outbox)
    (after : DispatchState) : Prop where
  unique : UniqueKeys after.outbox
  ended : (∃ count, handleResult d.sha256 d.accountExists t (d.origin selected.route)
        selected.stamps result = .succeeded after.outbox count ∧
        (after.record selected.route).status = .SUCCEEDED ∧
        (after.record selected.route).acceptedActionCount = count) ∨
      (∃ reason, handleResult d.sha256 d.accountExists t (d.origin selected.route)
        selected.stamps result = .rejected after.outbox reason ∧
        (after.record selected.route).status = .REJECTED)

theorem record_saved (s : DispatchState) (route : PluginRoute) (record : PluginEventDispatch)
    (t : Outbox) :
    ({ s.saveRecord route.deploymentId record with outbox := t } : DispatchState).record route =
      record := by
  simp [DispatchState.record, dispatchRecord, DispatchState.saveRecord]

theorem dispatchRoute_handled {d : EventDispatch} {s s' : DispatchState} {selected : Selected}
    {result : Json} (hunique : UniqueKeys s.outbox) (hreturns : Returns s.records selected result)
    (h : dispatchRoute d s selected = .ok s') : Handled d selected result s.outbox s' := by
  refine ⟨(dispatchRoute_frame hunique h).unique, ?_⟩
  have hturn := dispatchRoute_turn d s selected
  rw [h] at hturn
  cases hturn with
  | skipped hdone => exact absurd hdone hreturns.1
  | closed record retryable hnone => exact absurd ⟨result, hreturns⟩ hnone
  | ended other record t' hother hend =>
    have hsame : other = result := Except.ok.inj (hother.2.2.symm.trans hreturns.2.2)
    subst hsame
    rw [record_saved]
    rcases hend with ⟨count, hend, hstatus, hcount⟩ | ⟨reason, hend, hstatus⟩
    · exact .inl ⟨count, hend, hstatus, hcount⟩
    · exact .inr ⟨reason, hend, hstatus⟩

/-- A completed batch of replies, row by row. -/
theorem succeeded_iff {d : EventDispatch} {route : PluginRoute} {result : Json}
    {before after : DispatchState} {actions : List Fields}
    {submissions : List TextActionSubmission} (hunique : UniqueKeys after.outbox)
    (hchecked : checkedSubmissions (d.origin route) result = .ok (actions, submissions))
    (hbatch : submitAll (bindingsUnder (d.front route) before.outbox)
      (submissions.map (item d.sha256)) = (bindingsUnder (d.front route) after.outbox, true))
    (hstatus : (after.record route).status = .SUCCEEDED)
    (hcount : (after.record route).acceptedActionCount = actions.length) :
    AllOrNothing d route result before after ↔
      KeyedBatch.AllOrNothing (bindingsUnder (d.front route) before.outbox)
        (submissions.map (item d.sha256)) := by
  have hlength := (ready_of_checked d hchecked).1
  have hkeyed : Keyed (bindingsUnder (d.front route) after.outbox) := keyed_under hunique
  have hbound := submitAll_bound (bindingsUnder (d.front route) before.outbox)
    (submissions.map (item d.sha256)) (by rw [hbatch])
  rw [hbatch] at hbound
  have hkeys : (submissions.map (item d.sha256)).map Item.key =
      submissions.map fun s => (item d.sha256 s).key := by rw [List.map_map]; rfl
  rw [KeyedBatch.AllOrNothing, hbatch]
  simp only
  rw [hkeys]
  constructor
  · rintro (⟨-, actions', submissions', heach⟩ | ⟨hne, -⟩)
    · have hsame : (actions, submissions) = (actions', submissions') :=
        Except.ok.inj (hchecked.symm.trans heach.checked)
      obtain ⟨rfl, rfl⟩ := Prod.mk.inj hsame
      refine ⟨heach.distinct, ?_⟩
      rw [← hkeys]
      refine keys_of_count (hkeys ▸ heach.distinct) hbound ?_
      rw [bindingsUnder, List.length_map, heach.rows, List.length_map, hlength]
    · exact absurd hstatus hne
  · rintro ⟨hdistinct, honly⟩
    refine .inl ⟨hstatus, actions, submissions, hchecked, hdistinct, ?_, hcount, ?_⟩
    · intro s hs
      exact message_of_done hunique hbatch _ (List.mem_map_of_mem hs)
    · have hexact : (bindingsUnder (d.front route) after.outbox).length =
          (submissions.map (item d.sha256)).length := by
        refine length_of_exact hkeyed (hkeys ▸ hdistinct) ?_
        intro key
        rw [hkeys]
        refine ⟨honly key, ?_⟩
        intro hkey
        obtain ⟨s, hs, rfl⟩ := List.mem_map.mp hkey
        exact List.mem_map_of_mem (f := Prod.fst)
          (digestOf_mem (hbound _ (List.mem_map_of_mem hs)))
      rw [bindingsUnder, List.length_map, List.length_map, hlength] at hexact
      exact hexact

/-- A batch that stops, row by row. -/
theorem rejected_iff {d : EventDispatch} {route : PluginRoute} {result : Json}
    {before after : DispatchState} {submissions : List TextActionSubmission}
    (hextends : Extends (d.front route) before.outbox after.outbox)
    (hbatch : submitAll (bindingsUnder (d.front route) before.outbox)
      (submissions.map (item d.sha256)) = (bindingsUnder (d.front route) after.outbox, false))
    (hstatus : (after.record route).status = .REJECTED) :
    AllOrNothing d route result before after ↔
      KeyedBatch.AllOrNothing (bindingsUnder (d.front route) before.outbox)
        (submissions.map (item d.sha256)) := by
  have hne : (after.record route).status ≠ .SUCCEEDED := by rw [hstatus]; decide
  rw [KeyedBatch.AllOrNothing, hbatch]
  simp only
  rw [← rowsUnder_eq_iff hextends]
  constructor
  · rintro (⟨hsucceeded, -⟩ | ⟨-, hrows⟩)
    · exact absurd hsucceeded hne
    · exact hrows
  · exact fun hrows => .inr ⟨hne, hrows⟩

theorem separable_iff {d : EventDispatch} {route : PluginRoute} {result : Json} {t : Outbox}
    {actions : List Fields} {submissions : List TextActionSubmission}
    (hchecked : checkedSubmissions (d.origin route) result = .ok (actions, submissions)) :
    Separable d route result t ↔
      KeyedBatch.AllOrNothing (bindingsUnder (d.front route) t) (submissions.map (item d.sha256)) := by
  rw [allOrNothing_iff]
  constructor
  · exact fun hall => hall actions submissions hchecked
  · intro hone actions' submissions' hok
    obtain ⟨rfl, rfl⟩ := Prod.mk.inj (Except.ok.inj (hchecked.symm.trans hok))
    exact hone

/-- The outcome of one handled result, row by row. -/
theorem handled_iff {d : EventDispatch} {selected : Selected} {result : Json}
    {before after : DispatchState} (h : Handled d selected result before.outbox after) :
    AllOrNothing d selected.route result before after ↔
      Separable d selected.route result before.outbox := by
  have hresulted := handleResult_resulted d.sha256 d.accountExists before.outbox
    (d.origin selected.route) selected.stamps result
  rcases h.ended with ⟨count, hend, hstatus, hcount⟩ | ⟨reason, hend, hstatus⟩
  · rw [hend] at hresulted
    cases hresulted with
    | accepted actions submissions _ hchecked hsubmit =>
      have hready := (ready_of_checked d hchecked).2
      rw [separable_iff hchecked]
      exact succeeded_iff h.unique hchecked (submitTexts_batch hready hsubmit (by simp)) hstatus
        hcount
  · rw [hend] at hresulted
    generalize houtbox : after.outbox = u at hresulted
    cases hresulted with
    | refused _ hchecked =>
      have hseparable : Separable d selected.route result before.outbox := by
        intro actions submissions hok
        rw [hchecked] at hok
        cases hok
      refine ⟨fun _ => hseparable, fun _ => .inr ⟨by rw [hstatus]; decide, ?_⟩⟩
      rw [houtbox]
    | stopped actions submissions _ _ hchecked hsubmit =>
      have hready := (ready_of_checked d hchecked).2
      have hextends := submitTexts_extends d.sha256 hready selected.stamps 0
        before.outbox
      rw [hsubmit, ← houtbox] at hextends
      rw [separable_iff hchecked]
      rw [← houtbox] at hsubmit
      exact rejected_iff hextends (submitTexts_batch hready hsubmit (by simp)) hstatus

/-- Only the record of the deployment and the rows under its front are looked at. -/
theorem allOrNothing_of_same {d : EventDispatch} {route : PluginRoute} {result : Json}
    {before before' after after' : DispatchState}
    (hbefore : rowsUnder (d.front route) before.outbox = rowsUnder (d.front route) before'.outbox)
    (hrecord : after.records route.deploymentId = after'.records route.deploymentId)
    (hafter : rowsUnder (d.front route) after.outbox = rowsUnder (d.front route) after'.outbox)
    (h : AllOrNothing d route result before after) : AllOrNothing d route result before' after' := by
  have hsame : after.record route = after'.record route := by
    rw [DispatchState.record, DispatchState.record, dispatchRecord, dispatchRecord, hrecord]
  rcases h with ⟨hstatus, actions, submissions, heach⟩ | ⟨hstatus, hrows⟩
  · refine .inl ⟨hsame ▸ hstatus, actions, submissions, ?_⟩
    exact ⟨heach.checked, heach.distinct, hafter ▸ heach.message, hsame ▸ heach.counted,
      hafter ▸ heach.rows⟩
  · exact .inr ⟨hsame ▸ hstatus, hafter ▸ hbefore ▸ hrows⟩

theorem separable_of_same {d : EventDispatch} {route : PluginRoute} {result : Json} {t t' : Outbox}
    (hrows : rowsUnder (d.front route) t = rowsUnder (d.front route) t')
    (h : Separable d route result t) : Separable d route result t' := by
  have hbindings : bindingsUnder (d.front route) t = bindingsUnder (d.front route) t' := by
    rw [bindingsUnder, hrows, bindingsUnder]
  unfold Separable at h ⊢
  rwa [← hbindings]

/-- The deployments of the other turns. -/
theorem apart_of_split {d : EventDispatch} {before after : List Selected} {selected : Selected}
    (hsplit : d.selected = before ++ selected :: after) :
    (∀ other ∈ before, other.route.deploymentId ≠ selected.route.deploymentId) ∧
      ∀ other ∈ after, other.route.deploymentId ≠ selected.route.deploymentId := by
  have hdistinct := d.distinct
  rw [hsplit, List.map_append, List.map_cons, List.nodup_append, List.nodup_cons] at hdistinct
  obtain ⟨-, ⟨hafter, -⟩, hbefore⟩ := hdistinct
  constructor
  · intro other hother
    exact hbefore _ (List.mem_map_of_mem hother) _ List.mem_cons_self
  · intro other hother heq
    exact hafter (heq ▸ List.mem_map_of_mem (f := fun s => s.route.deploymentId) hother)

/-- In a loop that raised nothing, a returned result was handled at its turn, and the
other turns left its record and its rows alone. -/
theorem handled_in_loop {d : EventDispatch} {s s' : DispatchState} (hunique : UniqueKeys s.outbox)
    (hroutes : dispatchRoutes d s d.selected = .ok s') {selected : Selected}
    (hselected : selected ∈ d.selected) {result : Json}
    (hreturns : Returns s.records selected result) :
    ∃ u v : DispatchState, Handled d selected result u.outbox v ∧
      rowsUnder (d.front selected.route) u.outbox = rowsUnder (d.front selected.route) s.outbox ∧
      s'.records selected.route.deploymentId = v.records selected.route.deploymentId ∧
      rowsUnder (d.front selected.route) s'.outbox = rowsUnder (d.front selected.route) v.outbox := by
  obtain ⟨earlier, later, hsplit⟩ := List.append_of_mem hselected
  obtain ⟨hbefore, hafter⟩ := apart_of_split hsplit
  rw [hsplit, dispatchRoutes_append] at hroutes
  obtain ⟨u, hearlier, hroutes⟩ := hroutes
  obtain ⟨v, hturn, hlater⟩ := dispatchRoutes_cons.mp hroutes
  obtain ⟨hrecord, hrows, huniqueTurn⟩ := dispatchRoutes_frame hbefore hunique hearlier
  have hturnReturns : Returns u.records selected result := by
    refine ⟨?_, hreturns.2⟩
    rw [dispatchRecord, hrecord]
    exact hreturns.1
  have hhandled := dispatchRoute_handled huniqueTurn hturnReturns hturn
  obtain ⟨hrecord', hrows', -⟩ := dispatchRoutes_frame hafter hhandled.unique hlater
  exact ⟨u, v, hhandled, hrows, hrecord', hrows'⟩

/-- After a dispatch has committed, the result of a called plugin is all or nothing
exactly when it is separable. -/
theorem all_or_nothing_iff (d : EventDispatch) (t : Outbox)
    (records : UUID → Option PluginEventDispatch) (hunique : UniqueKeys t) (after : DispatchState)
    (retry : Bool) (hcommits : dispatch d t records = .committed after retry) (selected : Selected)
    (hselected : selected ∈ d.selected) (result : Json)
    (hreturns : Returns records selected result) :
    AllOrNothing d selected.route result ⟨t, records, []⟩ after ↔
      Separable d selected.route result t := by
  unfold dispatch at hcommits
  split at hcommits
  · cases hcommits
  · rename_i s' hroutes
    obtain ⟨rfl, -⟩ := DispatchEnd.committed.inj hcommits
    obtain ⟨u, v, hhandled, hrows, hrecord', hrows'⟩ :=
      handled_in_loop hunique hroutes hselected hreturns
    have hiff := handled_iff hhandled
    constructor
    · intro hall
      exact separable_of_same hrows (hiff.mp (allOrNothing_of_same hrows.symm hrecord' hrows' hall))
    · intro hseparable
      exact allOrNothing_of_same hrows hrecord'.symm hrows'.symm
        (hiff.mpr (separable_of_same hrows.symm hseparable))

def noRecords : UUID → Option PluginEventDispatch := fun _ => none

def noRows : Outbox := Tables.Table.empty _

/-- Deployment 10 returns two replies under one key with different texts, and deployment
11 a single reply. -/
def repeatedKey : Json := resultOf [replyAction "a" "one", replyAction "a" "two"]

def repeatedKeyEnd : DispatchEnd :=
  dispatch (sampleDispatch repeatedKey (resultOf [replyAction "a" "one"])) noRows noRecords

theorem repeatedKeyEnd_isSome : repeatedKeyEnd.committedState.isSome = true := by decide +kernel

def repeatedKeyState : DispatchState :=
  (repeatedKeyEnd.committedState.get repeatedKeyEnd_isSome).1

theorem repeatedKey_facts :
    (repeatedKeyState.record (sampleRoute 10)).status = .REJECTED ∧
      (repeatedKeyState.record (sampleRoute 11)).status = .SUCCEEDED ∧
      (rowsUnder (pairKey 10 7) repeatedKeyState.outbox).length = 1 := by
  decide +kernel

/-- The equivalence at the single reply of deployment 11. -/
theorem all_or_nothing_single :
    AllOrNothing (sampleDispatch repeatedKey (resultOf [replyAction "a" "one"])) (sampleRoute 11)
        (resultOf [replyAction "a" "one"]) ⟨noRows, noRecords, []⟩ repeatedKeyState ↔
      Separable (sampleDispatch repeatedKey (resultOf [replyAction "a" "one"])) (sampleRoute 11)
        (resultOf [replyAction "a" "one"]) noRows :=
  all_or_nothing_iff (sampleDispatch repeatedKey (resultOf [replyAction "a" "one"])) noRows
    noRecords List.nodup_nil repeatedKeyState _ (DispatchEnd.eq_committed repeatedKeyEnd_isSome)
    (sampleSelected 11 (resultOf [replyAction "a" "one"])) (by simp [sampleDispatch])
    (resultOf [replyAction "a" "one"]) ⟨by decide, rfl, rfl⟩

/-- The first reply stays in the outbox although the result is rejected. -/
theorem rejected_result_leaves_row :
    ∃ (d : EventDispatch) (selected : Selected) (result : Json) (after : DispatchState)
      (retry : Bool), dispatch d noRows noRecords = .committed after retry ∧
        selected ∈ d.selected ∧ Returns noRecords selected result ∧
        (after.record selected.route).status = .REJECTED ∧
        ¬ AllOrNothing d selected.route result ⟨noRows, noRecords, []⟩ after := by
  obtain ⟨hstatus, -, hrows⟩ := repeatedKey_facts
  refine ⟨sampleDispatch repeatedKey (resultOf [replyAction "a" "one"]),
    sampleSelected 10 repeatedKey, repeatedKey, repeatedKeyState, _,
    DispatchEnd.eq_committed repeatedKeyEnd_isSome, by simp [sampleDispatch],
    ⟨by decide, rfl, rfl⟩, hstatus, ?_⟩
  rintro (⟨hsucceeded, -⟩ | ⟨-, hsame⟩)
  · have hclash := hstatus.symm.trans hsucceeded
    cases hclash
  · have hlength := congrArg List.length hsame
    have hnone : (rowsUnder (pairKey 10 7) noRows).length = 0 := rfl
    have hone : (1 : Nat) = 0 := hrows.symm.trans (hlength.trans hnone)
    cases hone

end WechatBot.PluginAcceptance
