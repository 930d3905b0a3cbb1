import Mathlib.Data.List.Nodup
import Mathlib.Data.List.Perm.Basic

/-!
# Batches submitted key by key

A store binds keys to digests. An item is submitted under its key: it is accepted
when the key is free or bound to the same digest, and refused otherwise. A batch
is submitted item by item and stops at the first refusal, with the items before
it still in the store. The last section says exactly when such a batch is all or
nothing.
-/
namespace WechatBot.KeyedBatch

variable {κ δ : Type*} [DecidableEq κ] [DecidableEq δ]

/-- `admissible` says that nothing but the key can refuse the item. -/
structure Item (κ δ : Type*) where
  key : κ
  digest : δ
  admissible : Bool
  deriving DecidableEq

abbrev Store (κ δ : Type*) := List (κ × δ)

def Item.binding (item : Item κ δ) : κ × δ := (item.key, item.digest)

def digestOf (store : Store κ δ) (key : κ) : Option δ :=
  (store.find? fun binding => decide (binding.1 = key)).map Prod.snd

/-- The item is refused by this store. -/
def Refused (store : Store κ δ) (item : Item κ δ) : Prop :=
  item.admissible = false ∨ ∃ digest, digestOf store item.key = some digest ∧ digest ≠ item.digest

/-- The item is already in the store. -/
def Known (store : Store κ δ) (item : Item κ δ) : Prop :=
  item.admissible = true ∧ digestOf store item.key = some item.digest

def Fresh (store : Store κ δ) (item : Item κ δ) : Prop :=
  item.admissible = true ∧ digestOf store item.key = none

instance (store : Store κ δ) (item : Item κ δ) : Decidable (Refused store item) :=
  decidable_of_iff (item.admissible = false ∨
      (digestOf store item.key).any (fun digest => decide (digest ≠ item.digest)) = true) (by
    simp [Refused, Option.any_eq_true])

instance (store : Store κ δ) (item : Item κ δ) : Decidable (Known store item) :=
  inferInstanceAs (Decidable (_ ∧ _))

/-- `none` for a refused item. -/
def submit (store : Store κ δ) (item : Item κ δ) : Option (Store κ δ) :=
  if Refused store item then none
  else if Known store item then some store
  else some (store ++ [item.binding])

/-- The store after the batch, and whether every item was accepted. -/
def submitAll (store : Store κ δ) : List (Item κ δ) → Store κ δ × Bool
  | [] => (store, true)
  | item :: items =>
    match submit store item with
    | none => (store, false)
    | some store' => submitAll store' items

def Keyed (store : Store κ δ) : Prop := (store.map Prod.fst).Nodup

/-- Every item is refused, known or new. -/
theorem verdicts (store : Store κ δ) (item : Item κ δ) :
    Refused store item ∨ Known store item ∨ Fresh store item := by
  by_cases hadmissible : item.admissible = true
  · cases hdigest : digestOf store item.key with
    | none => exact .inr (.inr ⟨hadmissible, hdigest⟩)
    | some digest =>
      by_cases heq : digest = item.digest
      · exact .inr (.inl ⟨hadmissible, by rw [hdigest, heq]⟩)
      · exact .inl (.inr ⟨digest, hdigest, heq⟩)
  · exact .inl (.inl (by simpa using hadmissible))

omit [DecidableEq δ] in
theorem Known.not_refused {store : Store κ δ} {item : Item κ δ} (h : Known store item) :
    ¬ Refused store item := by
  rintro (hfalse | ⟨digest, hdigest, hne⟩)
  · rw [h.1] at hfalse
    cases hfalse
  · rw [h.2] at hdigest
    exact hne (Option.some.inj hdigest).symm

omit [DecidableEq δ] in
theorem Fresh.not_refused {store : Store κ δ} {item : Item κ δ} (h : Fresh store item) :
    ¬ Refused store item := by
  rintro (hfalse | ⟨digest, hdigest, -⟩)
  · rw [h.1] at hfalse
    cases hfalse
  · rw [h.2] at hdigest
    cases hdigest

omit [DecidableEq δ] in
theorem Fresh.not_known {store : Store κ δ} {item : Item κ δ} (h : Fresh store item) :
    ¬ Known store item := by
  intro hknown
  rw [Known, h.2] at hknown
  cases hknown.2

omit [DecidableEq δ] in
/-- The verdict looks at nothing but the digest of the item's key. -/
theorem refused_congr {store store' : Store κ δ} {item : Item κ δ}
    (h : digestOf store item.key = digestOf store' item.key) :
    Refused store item ↔ Refused store' item := by rw [Refused, Refused, h]

omit [DecidableEq δ] in
/-- Whether an item is known depends on the digest stored at its key. -/
theorem known_congr {store store' : Store κ δ} {item : Item κ δ}
    (h : digestOf store item.key = digestOf store' item.key) :
    Known store item ↔ Known store' item := by rw [Known, Known, h]

omit [DecidableEq δ] in
theorem fresh_congr {store store' : Store κ δ} {item : Item κ δ}
    (h : digestOf store item.key = digestOf store' item.key) :
    Fresh store item ↔ Fresh store' item := by rw [Fresh, Fresh, h]

theorem submit_refused {store : Store κ δ} {item : Item κ δ} (h : Refused store item) :
    submit store item = none := if_pos h

theorem submit_known {store : Store κ δ} {item : Item κ δ} (h : Known store item) :
    submit store item = some store := by
  rw [submit, if_neg h.not_refused, if_pos h]

theorem submit_fresh {store : Store κ δ} {item : Item κ δ} (h : Fresh store item) :
    submit store item = some (store ++ [item.binding]) := by
  rw [submit, if_neg h.not_refused, if_neg h.not_known]

omit [DecidableEq δ] in
theorem digestOf_append (store : Store κ δ) (binding : κ × δ) (key : κ) :
    digestOf (store ++ [binding]) key =
      (digestOf store key).or (if binding.1 = key then some binding.2 else none) := by
  unfold digestOf
  rw [List.find?_append]
  cases store.find? fun b => decide (b.1 = key) with
  | some b => simp
  | none =>
    by_cases hkey : binding.1 = key
    · simp [hkey]
    · simp [hkey]

omit [DecidableEq δ] in
/-- The binding of an item that is already there changes no lookup. -/
theorem digestOf_append_known {store : Store κ δ} {item : Item κ δ} (h : Known store item) (key : κ) :
    digestOf (store ++ [item.binding]) key = digestOf store key := by
  rw [digestOf_append]
  by_cases hkey : item.key = key
  · rw [← hkey, h.2]
    simp
  · simp [Item.binding, hkey]

omit [DecidableEq δ] in
theorem digestOf_eq_none_iff (store : Store κ δ) (key : κ) :
    digestOf store key = none ↔ key ∉ store.map Prod.fst := by
  simp only [digestOf, Option.map_eq_none_iff, List.find?_eq_none, List.mem_map, decide_eq_true_eq,
    not_exists, not_and]

omit [DecidableEq δ] in
theorem digestOf_mem {store : Store κ δ} {key : κ} {digest : δ}
    (h : digestOf store key = some digest) : (key, digest) ∈ store := by
  obtain ⟨binding, hfind, hdigest⟩ := Option.map_eq_some_iff.mp h
  have hkey : binding.1 = key := by simpa using List.find?_some hfind
  have hbinding : binding = (key, digest) := Prod.ext hkey hdigest
  exact hbinding ▸ List.mem_of_find?_eq_some hfind

theorem submit_keyed {store store' : Store κ δ} {item : Item κ δ} (hkeyed : Keyed store)
    (h : submit store item = some store') : Keyed store' := by
  rcases verdicts store item with hrefused | hknown | hfresh
  · rw [submit_refused hrefused] at h
    cases h
  · rw [submit_known hknown] at h
    cases h
    exact hkeyed
  · rw [submit_fresh hfresh] at h
    cases h
    have hnew : item.key ∉ store.map Prod.fst := (digestOf_eq_none_iff store item.key).mp hfresh.2
    rw [Keyed, List.map_append, List.nodup_append]
    refine ⟨hkeyed, by simp, ?_⟩
    intro a ha b hb hab
    have hb : b = item.key := by simpa [Item.binding] using hb
    exact hnew (hb ▸ hab ▸ ha)

/-- After an accepted item the store is the old one with at most its binding added, and
its key is bound to its digest. -/
theorem submit_some {store store' : Store κ δ} {item : Item κ δ}
    (h : submit store item = some store') :
    (store' = store ∨ store' = store ++ [item.binding]) ∧
      digestOf store' item.key = some item.digest ∧
      ∀ key, key ≠ item.key → digestOf store' key = digestOf store key := by
  rcases verdicts store item with hrefused | hknown | hfresh
  · rw [submit_refused hrefused] at h
    cases h
  · rw [submit_known hknown] at h
    cases h
    exact ⟨.inl rfl, hknown.2, fun _ _ => rfl⟩
  · rw [submit_fresh hfresh] at h
    cases h
    refine ⟨.inr rfl, ?_, ?_⟩
    · rw [digestOf_append, hfresh.2]
      simp [Item.binding]
    · intro key hkey
      rw [digestOf_append]
      simp [Item.binding, Ne.symm hkey]

theorem submit_keeps {store store' : Store κ δ} {item : Item κ δ}
    (h : submit store item = some store') {key : κ} {digest : δ}
    (hdigest : digestOf store key = some digest) : digestOf store' key = some digest := by
  obtain ⟨hstore | hstore, -, -⟩ := submit_some h
  · rw [hstore, hdigest]
  · rw [hstore, digestOf_append, hdigest]
    simp

theorem submitAll_extends (store : Store κ δ) (items : List (Item κ δ)) :
    store <+: (submitAll store items).1 := by
  induction items generalizing store with
  | nil => exact List.prefix_rfl
  | cons item items ih =>
    unfold submitAll
    cases h : submit store item with
    | none => exact List.prefix_rfl
    | some store' =>
      have hfirst : store <+: store' := by
        obtain ⟨hstore | hstore, -, -⟩ := submit_some h
        · exact hstore ▸ List.prefix_rfl
        · exact hstore ▸ List.prefix_append store _
      exact hfirst.trans (ih store')

theorem submitAll_keeps {store : Store κ δ} {items : List (Item κ δ)} {key : κ} {digest : δ}
    (h : digestOf store key = some digest) :
    digestOf (submitAll store items).1 key = some digest := by
  induction items generalizing store with
  | nil => exact h
  | cons item items ih =>
    unfold submitAll
    cases hsubmit : submit store item with
    | none => exact h
    | some store' => exact ih (submit_keeps hsubmit h)

/-- Every key of the new store is a key of the old one or of an item. -/
theorem submitAll_mem {store : Store κ δ} {items : List (Item κ δ)} {binding : κ × δ}
    (h : binding ∈ (submitAll store items).1) :
    binding ∈ store ∨ ∃ item ∈ items, item.binding = binding := by
  induction items generalizing store with
  | nil => exact .inl h
  | cons item items ih =>
    unfold submitAll at h
    cases hsubmit : submit store item with
    | none =>
      rw [hsubmit] at h
      exact .inl h
    | some store' =>
      rw [hsubmit] at h
      rcases ih h with hmem | ⟨other, hother, hbinding⟩
      · obtain ⟨hstore | hstore, -, -⟩ := submit_some hsubmit
        · exact .inl (hstore ▸ hmem)
        · rw [hstore, List.mem_append, List.mem_singleton] at hmem
          rcases hmem with hmem | hmem
          · exact .inl hmem
          · exact .inr ⟨item, by simp, hmem.symm⟩
      · exact .inr ⟨other, by simp [hother], hbinding⟩

/-- A completed batch leaves every item in the store. -/
theorem submitAll_bound (store : Store κ δ) (items : List (Item κ δ))
    (hdone : (submitAll store items).2 = true) :
    ∀ item ∈ items, digestOf (submitAll store items).1 item.key = some item.digest := by
  induction items generalizing store with
  | nil => simp
  | cons item items ih =>
    unfold submitAll at hdone ⊢
    cases hsubmit : submit store item with
    | none =>
      rw [hsubmit] at hdone
      cases hdone
    | some store' =>
      rw [hsubmit] at hdone
      intro other hother
      rcases List.mem_cons.mp hother with rfl | hother
      · exact submitAll_keeps (submit_some hsubmit).2.1
      · exact ih store' hdone other hother

/-- A completed batch has one binding for each item, and no binding besides; a stopped
batch has changed nothing. -/
def AllOrNothing (store : Store κ δ) (items : List (Item κ δ)) : Prop :=
  match submitAll store items with
  | (store', true) => (items.map Item.key).Nodup ∧ ∀ key, key ∈ store'.map Prod.fst →
      key ∈ items.map Item.key
  | (store', false) => store' = store

/-- No item is refused by the store, no two have one key, and the store binds no
key besides theirs. -/
structure Independent (store : Store κ δ) (items : List (Item κ δ)) : Prop where
  accepted : ∀ item ∈ items, ¬ Refused store item
  distinct : (items.map Item.key).Nodup
  only : ∀ key ∈ store.map Prod.fst, key ∈ items.map Item.key

/-- The batch stops at an item before which every item was already in the store. -/
def StopsAtOnce (store : Store κ δ) (items : List (Item κ δ)) : Prop :=
  ∃ before item after, items = before ++ item :: after ∧ (∀ other ∈ before, Known store other) ∧
    Refused store item

theorem not_refused_of_submit {store store' : Store κ δ} {item : Item κ δ}
    (h : submit store item = some store') : ¬ Refused store item := by
  intro hrefused
  rw [submit_refused hrefused] at h
  cases h

/-- Accepting one item changes the verdict on an item of another key in no way. -/
theorem refused_of_submit {store store' : Store κ δ} {item other : Item κ δ}
    (h : submit store item = some store') (hkey : other.key ≠ item.key) :
    Refused store' other ↔ Refused store other := by
  rw [Refused, Refused, (submit_some h).2.2 other.key hkey]

theorem submitAll_done {store : Store κ δ} {items : List (Item κ δ)}
    (haccepted : ∀ item ∈ items, ¬ Refused store item) (hdistinct : (items.map Item.key).Nodup) :
    (submitAll store items).2 = true := by
  induction items generalizing store with
  | nil => rfl
  | cons item items ih =>
    unfold submitAll
    rw [List.map_cons, List.nodup_cons] at hdistinct
    cases hsubmit : submit store item with
    | none =>
      rcases verdicts store item with hrefused | hknown | hfresh
      · exact absurd hrefused (haccepted item (by simp))
      · rw [submit_known hknown] at hsubmit
        cases hsubmit
      · rw [submit_fresh hfresh] at hsubmit
        cases hsubmit
    | some store' =>
      refine ih ?_ hdistinct.2
      intro other hother
      have hkey : other.key ≠ item.key := fun heq =>
        hdistinct.1 (heq ▸ List.mem_map_of_mem hother)
      rw [refused_of_submit hsubmit hkey]
      exact haccepted other (by simp [hother])

theorem accepted_of_done {store : Store κ δ} {items : List (Item κ δ)}
    (hdone : (submitAll store items).2 = true) (hdistinct : (items.map Item.key).Nodup) :
    ∀ item ∈ items, ¬ Refused store item := by
  induction items generalizing store with
  | nil => simp
  | cons item items ih =>
    unfold submitAll at hdone
    rw [List.map_cons, List.nodup_cons] at hdistinct
    cases hsubmit : submit store item with
    | none =>
      rw [hsubmit] at hdone
      cases hdone
    | some store' =>
      rw [hsubmit] at hdone
      intro other hother
      rcases List.mem_cons.mp hother with rfl | hother
      · exact not_refused_of_submit hsubmit
      · have hkey : other.key ≠ item.key := fun heq =>
          hdistinct.1 (heq ▸ List.mem_map_of_mem hother)
        rw [← refused_of_submit hsubmit hkey]
        exact ih hdone hdistinct.2 other hother

/-- The items a batch accepts without a trace are those already in the store. -/
theorem submitAll_of_known {store : Store κ δ} {before : List (Item κ δ)}
    (hknown : ∀ other ∈ before, Known store other) (items : List (Item κ δ)) :
    submitAll store (before ++ items) = submitAll store items := by
  induction before with
  | nil => rfl
  | cons item before ih =>
    rw [List.cons_append, submitAll, submit_known (hknown item (by simp))]
    exact ih fun other hother => hknown other (by simp [hother])

theorem stopped_unchanged_iff (store : Store κ δ) (items : List (Item κ δ)) :
    (submitAll store items).2 = false ∧ (submitAll store items).1 = store ↔
      StopsAtOnce store items := by
  constructor
  · rintro ⟨hstop, hsame⟩
    induction items with
    | nil => cases hstop
    | cons item items ih =>
      rcases verdicts store item with hrefused | hknown | hfresh
      · exact ⟨[], item, items, rfl, by simp, hrefused⟩
      · have heq : submitAll store (item :: items) = submitAll store items :=
          submitAll_of_known (by simpa using hknown : ∀ other ∈ [item], Known store other) items
        rw [heq] at hstop hsame
        obtain ⟨before, other, after, hitems, hbefore, hrefused⟩ := ih hstop hsame
        refine ⟨item :: before, other, after, by rw [hitems]; rfl, ?_, hrefused⟩
        intro first hfirst
        rcases List.mem_cons.mp hfirst with rfl | hfirst
        · exact hknown
        · exact hbefore first hfirst
      · -- a new binding stays in the store whatever comes later
        have heq : submitAll store (item :: items) = submitAll (store ++ [item.binding]) items := by
          rw [submitAll, submit_fresh hfresh]
        have hbound : digestOf (submitAll store (item :: items)).1 item.key = some item.digest := by
          rw [heq]
          exact submitAll_keeps (submit_some (submit_fresh hfresh)).2.1
        rw [hsame, hfresh.2] at hbound
        cases hbound
  · rintro ⟨before, item, after, rfl, hbefore, hrefused⟩
    rw [submitAll_of_known hbefore, submitAll, submit_refused hrefused]
    exact ⟨rfl, rfl⟩

theorem done_exactly_iff (store : Store κ δ) (items : List (Item κ δ)) :
    (submitAll store items).2 = true ∧ (items.map Item.key).Nodup ∧
        (∀ key ∈ (submitAll store items).1.map Prod.fst, key ∈ items.map Item.key) ↔
      Independent store items := by
  constructor
  · rintro ⟨hdone, hdistinct, honly⟩
    refine ⟨accepted_of_done hdone hdistinct, hdistinct, ?_⟩
    intro key hkey
    obtain ⟨binding, hbinding, rfl⟩ := List.mem_map.mp hkey
    exact honly binding.1
      (List.mem_map_of_mem ((submitAll_extends store items).subset hbinding))
  · intro h
    refine ⟨submitAll_done h.accepted h.distinct, h.distinct, ?_⟩
    intro key hkey
    obtain ⟨binding, hbinding, rfl⟩ := List.mem_map.mp hkey
    rcases submitAll_mem hbinding with hold | ⟨item, hitem, rfl⟩
    · exact h.only binding.1 (List.mem_map_of_mem hold)
    · exact List.mem_map_of_mem hitem

/-- A batch is all or nothing exactly when it is independent of the store and of
itself, or stops before it has added anything. -/
theorem allOrNothing_iff (store : Store κ δ) (items : List (Item κ δ)) :
    AllOrNothing store items ↔ Independent store items ∨ StopsAtOnce store items := by
  rw [← done_exactly_iff, ← stopped_unchanged_iff, AllOrNothing]
  rcases submitAll store items with ⟨store', done⟩
  cases done with
  | true => simp
  | false => simp

omit [DecidableEq κ] [DecidableEq δ] in
/-- An exact batch has as many bindings as items, since the keys are pairwise different. -/
theorem length_of_exact {store : Store κ δ} {items : List (Item κ δ)} (hkeyed : Keyed store)
    (hdistinct : (items.map Item.key).Nodup)
    (hsame : ∀ key, key ∈ store.map Prod.fst ↔ key ∈ items.map Item.key) :
    store.length = items.length := by
  have hperm : (store.map Prod.fst).Perm (items.map Item.key) :=
    (List.perm_ext_iff_of_nodup hkeyed hdistinct).mpr hsame
  simpa using hperm.length_eq

end WechatBot.KeyedBatch
