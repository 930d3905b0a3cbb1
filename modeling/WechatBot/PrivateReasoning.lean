import WechatBot.PersistedJson

/-!
# Private reasoning

`_normalize_json` refuses a document with a key for private reasoning, the views drop such
keys with `_without_private_reasoning`. Both walk through every dictionary and list, and
what the first one has let through the second one leaves as it is.
-/
namespace WechatBot.PrivateReasoning

open PyData JsonText PersistedJson

mutual

/-- `_without_private_reasoning_value`; `none` when a key is no string. -/
def withoutPrivateReasoningValue : PyValue → Option PyValue
  | .dict fields => (withoutPrivateReasoning fields).map .dict
  | .list items => (withoutItems items).map .list
  | value => some value

def withoutPrivateReasoning : PyDict → Option PyDict
  | [] => some []
  | (.other, _) :: _ => none
  | (.str key, item) :: rest =>
    if isPrivateReasoningKey key then withoutPrivateReasoning rest
    else do return (.str key, ← withoutPrivateReasoningValue item) :: (← withoutPrivateReasoning rest)

def withoutItems : List PyValue → Option (List PyValue)
  | [] => some []
  | item :: rest => do return (← withoutPrivateReasoningValue item) :: (← withoutItems rest)

end

/-- A value at any depth of another one. -/
inductive Within : PyValue → PyValue → Prop
  | self (value : PyValue) : Within value value
  | item {value item : PyValue} {items : List PyValue} (hitem : item ∈ items)
      (h : Within value item) : Within value (.list items)
  | field {value item : PyValue} {key : PyKey} {fields : PyDict} (hfield : (key, item) ∈ fields)
      (h : Within value item) : Within value (.dict fields)

def NoPrivateReasoning (value : PyValue) : Prop :=
  ∀ fields, Within (.dict fields) value → ∀ key item, (.str key, item) ∈ fields →
    isPrivateReasoningKey key = false

def StringKeyed (value : PyValue) : Prop :=
  ∀ fields, Within (.dict fields) value → ∀ f ∈ fields, ∃ key, f.1 = .str key

mutual

/-- Every key at every depth is a string and not private. -/
def Clean : PyValue → Prop
  | .dict fields => CleanFields fields
  | .list items => CleanItems items
  | _ => True

def CleanFields : PyDict → Prop
  | [] => True
  | (.other, _) :: _ => False
  | (.str key, item) :: rest => isPrivateReasoningKey key = false ∧ Clean item ∧ CleanFields rest

def CleanItems : List PyValue → Prop
  | [] => True
  | item :: rest => Clean item ∧ CleanItems rest

end

theorem cleanItems_iff {items : List PyValue} : CleanItems items ↔ ∀ item ∈ items, Clean item := by
  induction items with
  | nil => simp [CleanItems]
  | cons item rest ih => simp [CleanItems, ih]

theorem cleanFields_iff {fields : PyDict} :
    CleanFields fields ↔
      ∀ f ∈ fields, (∃ key, f.1 = .str key ∧ isPrivateReasoningKey key = false) ∧ Clean f.2 := by
  induction fields with
  | nil => simp [CleanFields]
  | cons f rest ih =>
    obtain ⟨key, item⟩ := f
    cases key with
    | other => simp [CleanFields]
    | str key => simp [CleanFields, ih, and_assoc]

/-- What is inside a clean value is clean. -/
theorem Clean.within {value inner : PyValue} (hwithin : Within inner value) (h : Clean value) :
    Clean inner := by
  induction hwithin with
  | self => exact h
  | item hitem _ ih =>
    rw [Clean, cleanItems_iff] at h
    exact ih (h _ hitem)
  | field hfield _ ih =>
    rw [Clean, cleanFields_iff] at h
    exact ih (h _ hfield).2

/-- A clean value has no private key at any depth. -/
theorem Clean.noPrivateReasoning {value : PyValue} (h : Clean value) : NoPrivateReasoning value := by
  intro fields hwithin key item hmem
  have hfields := h.within hwithin
  rw [Clean, cleanFields_iff] at hfields
  obtain ⟨⟨key', hkey, hpublic⟩, -⟩ := hfields _ hmem
  cases hkey
  exact hpublic

mutual

/-- What `_reject_private_reasoning` accepts, whatever path it names in its errors. -/
theorem reject_ok : (value : PyValue) → {path : Str} →
    (rejectPrivateReasoning path value = .ok () ↔ Clean value)
  | .null, _ => by simp [rejectPrivateReasoning, Clean]
  | .bool _, _ => by simp [rejectPrivateReasoning, Clean]
  | .int _, _ => by simp [rejectPrivateReasoning, Clean]
  | .float _, _ => by simp [rejectPrivateReasoning, Clean]
  | .nonFinite, _ => by simp [rejectPrivateReasoning, Clean]
  | .str _, _ => by simp [rejectPrivateReasoning, Clean]
  | .object, _ => by simp [rejectPrivateReasoning, Clean]
  | .list items, _ => by
    rw [rejectPrivateReasoning, Clean]
    exact rejectItems_ok items
  | .dict fields, _ => by
    rw [rejectPrivateReasoning, Clean]
    exact rejectFields_ok fields

theorem rejectFields_ok : (fields : PyDict) → {path : Str} →
    (rejectFields path fields = .ok () ↔ CleanFields fields)
  | [], _ => by simp [rejectFields, CleanFields]
  | (.other, _) :: _, _ => by
    simp only [rejectFields, CleanFields, iff_false]
    exact fun h => nomatch h
  | (.str key, item) :: rest, path => by
    simp only [rejectFields, CleanFields]
    by_cases hkey : isPrivateReasoningKey key = true
    · simp only [hkey, if_true, Bool.true_eq_false, false_and, iff_false]
      exact Results.throw_bind_ne
    · have hpublic : isPrivateReasoningKey key = false := by simpa using hkey
      simp only [hpublic, Bool.false_eq_true, if_false, true_and]
      exact Results.andThen_ok.trans (and_congr (reject_ok item) (rejectFields_ok rest))

theorem rejectItems_ok : (items : List PyValue) → {path : Str} → {index : Nat} →
    (rejectItems path index items = .ok () ↔ CleanItems items)
  | [], _, _ => by simp [rejectItems, CleanItems]
  | item :: rest, path, index => by
    rw [rejectItems, CleanItems]
    exact Results.andThen_ok.trans (and_congr (reject_ok item) (rejectItems_ok rest))

end

mutual

/-- The filter leaves a clean value as it is. -/
theorem without_clean : (value : PyValue) → Clean value → withoutPrivateReasoningValue value = some value
  | .null, _ => rfl
  | .bool _, _ => rfl
  | .int _, _ => rfl
  | .float _, _ => rfl
  | .nonFinite, _ => rfl
  | .str _, _ => rfl
  | .object, _ => rfl
  | .list items, h => by
    rw [Clean] at h
    rw [withoutPrivateReasoningValue, withoutItems_clean items h, Option.map_some]
  | .dict fields, h => by
    rw [Clean] at h
    rw [withoutPrivateReasoningValue, withoutFields_clean fields h, Option.map_some]

theorem withoutFields_clean : (fields : PyDict) → CleanFields fields →
    withoutPrivateReasoning fields = some fields
  | [], _ => rfl
  | (.other, _) :: _, h => by
    rw [CleanFields] at h
    cases h
  | (.str key, item) :: rest, h => by
    rw [CleanFields] at h
    obtain ⟨hpublic, hitem, hrest⟩ := h
    simp [withoutPrivateReasoning, hpublic, without_clean item hitem, withoutFields_clean rest hrest]

theorem withoutItems_clean : (items : List PyValue) → CleanItems items →
    withoutItems items = some items
  | [], _ => rfl
  | item :: rest, h => by
    rw [CleanItems] at h
    simp [withoutItems, without_clean item h.1, withoutItems_clean rest h.2]

end

mutual

/-- What the filter leaves is clean. -/
theorem clean_without : (value : PyValue) → {kept : PyValue} →
    withoutPrivateReasoningValue value = some kept → Clean kept
  | .null, _, h => by cases h; trivial
  | .bool _, _, h => by cases h; trivial
  | .int _, _, h => by cases h; trivial
  | .float _, _, h => by cases h; trivial
  | .nonFinite, _, h => by cases h; trivial
  | .str _, _, h => by cases h; trivial
  | .object, _, h => by cases h; trivial
  | .list items, _, h => by
    rw [withoutPrivateReasoningValue] at h
    obtain ⟨kept, hkept, rfl⟩ := Option.map_eq_some_iff.mp h
    rw [Clean]
    exact clean_withoutItems items hkept
  | .dict fields, _, h => by
    rw [withoutPrivateReasoningValue] at h
    obtain ⟨kept, hkept, rfl⟩ := Option.map_eq_some_iff.mp h
    rw [Clean]
    exact clean_withoutFields fields hkept

/-- What the filter leaves is clean. -/
theorem clean_withoutFields : (fields : PyDict) → {kept : PyDict} →
    withoutPrivateReasoning fields = some kept → CleanFields kept
  | [], _, h => by cases h; trivial
  | (.other, _) :: _, _, h => by cases h
  | (.str key, item) :: rest, _, h => by
    rw [withoutPrivateReasoning] at h
    split at h
    · exact clean_withoutFields rest h
    · rename_i hkey
      obtain ⟨item', hitem, h⟩ := Option.bind_eq_some_iff.mp h
      obtain ⟨rest', hrest, h⟩ := Option.bind_eq_some_iff.mp h
      cases h
      rw [CleanFields]
      exact ⟨by simpa using hkey, clean_without item hitem, clean_withoutFields rest hrest⟩

theorem clean_withoutItems : (items : List PyValue) → {kept : List PyValue} →
    withoutItems items = some kept → CleanItems kept
  | [], _, h => by cases h; trivial
  | item :: rest, _, h => by
    rw [withoutItems] at h
    obtain ⟨item', hitem, h⟩ := Option.bind_eq_some_iff.mp h
    obtain ⟨rest', hrest, h⟩ := Option.bind_eq_some_iff.mp h
    cases h
    rw [CleanItems]
    exact ⟨clean_without item hitem, clean_withoutItems rest hrest⟩

end

mutual

/-- The filter only fails on a key that is no string. -/
theorem without_isSome : (value : PyValue) → StringKeyed value →
    ∃ kept, withoutPrivateReasoningValue value = some kept
  | .null, _ => ⟨_, rfl⟩
  | .bool _, _ => ⟨_, rfl⟩
  | .int _, _ => ⟨_, rfl⟩
  | .float _, _ => ⟨_, rfl⟩
  | .nonFinite, _ => ⟨_, rfl⟩
  | .str _, _ => ⟨_, rfl⟩
  | .object, _ => ⟨_, rfl⟩
  | .list items, h => by
    obtain ⟨kept, hkept⟩ := withoutItems_isSome items fun item hitem fields hwithin =>
      h fields (.item hitem hwithin)
    rw [withoutPrivateReasoningValue, hkept]
    exact ⟨_, rfl⟩
  | .dict fields, h => by
    obtain ⟨kept, hkept⟩ := withoutFields_isSome fields
      (fun f hf inner hwithin => h inner (.field hf hwithin)) (h fields (.self _))
    rw [withoutPrivateReasoningValue, hkept]
    exact ⟨_, rfl⟩

theorem withoutFields_isSome : (fields : PyDict) → (∀ f ∈ fields, StringKeyed f.2) →
    (∀ f ∈ fields, ∃ key, f.1 = .str key) → ∃ kept, withoutPrivateReasoning fields = some kept
  | [], _, _ => ⟨_, rfl⟩
  | (.other, _) :: _, _, hkeys => by
    obtain ⟨_, hkey⟩ := hkeys _ List.mem_cons_self
    cases hkey
  | (.str key, item) :: rest, hvalues, hkeys => by
    obtain ⟨item', hitem⟩ := without_isSome item (hvalues _ List.mem_cons_self)
    obtain ⟨rest', hrest⟩ := withoutFields_isSome rest
      (fun f hf => hvalues f (List.mem_cons_of_mem _ hf))
      (fun f hf => hkeys f (List.mem_cons_of_mem _ hf))
    rw [withoutPrivateReasoning, hitem, hrest]
    split
    · exact ⟨_, rfl⟩
    · exact ⟨_, rfl⟩

theorem withoutItems_isSome : (items : List PyValue) → (∀ item ∈ items, StringKeyed item) →
    ∃ kept, withoutItems items = some kept
  | [], _ => ⟨_, rfl⟩
  | item :: rest, h => by
    obtain ⟨item', hitem⟩ := without_isSome item (h _ List.mem_cons_self)
    obtain ⟨rest', hrest⟩ := withoutItems_isSome rest fun i hi => h i (List.mem_cons_of_mem _ hi)
    rw [withoutItems, hitem, hrest]
    exact ⟨_, rfl⟩

end

/-- `d[key] = value`. -/
def setField (fields : List (Str × PyValue)) (key : Str) (value : PyValue) : List (Str × PyValue) :=
  if fields.any fun f => decide (f.1 = key) then
    fields.map fun f => if f.1 = key then (key, value) else f
  else fields ++ [(key, value)]

def toDict (fields : List (Str × PyValue)) : PyDict := fields.map fun f => (.str f.1, f.2)

mutual

/-- What `json.loads` builds from a document that `json.dumps` wrote. The text of a float
is its `repr`, which `float` reads as the same float. -/
def parsed : Doc → PyValue
  | .null => .null
  | .bool b => .bool b
  | .int n => .int n
  | .float f => .float f
  | .str s => .str (codePoints s)
  | .arr items => .list (parsedItems items)
  | .obj fields => .dict (toDict (parsedFields fields []))

def parsedItems : List Doc → List PyValue
  | [] => []
  | d :: rest => parsed d :: parsedItems rest

def parsedFields : List (Units × Doc) → List (Str × PyValue) → List (Str × PyValue)
  | [], read => read
  | (key, d) :: rest, read => parsedFields rest (setField read (codePoints key) (parsed d))

end

/-- `_normalize_json` with the value that its caller goes on with. -/
def normalize (sha256 : Str → Str) (value : PyDict) (fieldName : String) :
    Except Str (PyDict × Str) := do
  rejectPrivateReasoning (py fieldName) (.dict value)
  match (PyValue.dict value).dumps with
  | none => throw (py (fieldName ++ " must be JSON serializable"))
  | some doc =>
    if maxPersistedJsonBytes < doc.text.length then
      throw (py (fieldName ++ " exceeds 65536 bytes"))
    match parsed doc with
    | .dict normalized => return (normalized, sha256 doc.text)
    | _ => throw (py (fieldName ++ " must be a JSON object"))

/-- A value is normalized exactly when it is clean, canonical and short enough. -/
theorem normalize_ok {sha256 : Str → Str} {value : PyDict} {fieldName : String}
    {result : PyDict × Str} :
    normalize sha256 value fieldName = .ok result ↔
      ∃ doc, Clean (.dict value) ∧ (PyValue.dict value).dumps = some doc ∧
        doc.text.length ≤ maxPersistedJsonBytes ∧ parsed doc = .dict result.1 ∧
        sha256 doc.text = result.2 := by
  unfold normalize
  rw [Results.bind_ok]
  constructor
  · rintro ⟨_, hreject, h⟩
    cases hdumps : (PyValue.dict value).dumps with
    | none =>
      rw [hdumps] at h
      cases h
    | some doc =>
      simp only [hdumps] at h
      by_cases hlong : maxPersistedJsonBytes < doc.text.length
      · rw [if_pos hlong] at h
        exact absurd h Results.throw_bind_ne
      · rw [if_neg hlong] at h
        cases hparsed : parsed doc with
        | dict normalized =>
          simp only [hparsed] at h
          cases h
          exact ⟨doc, (reject_ok _).mp hreject, rfl, Nat.le_of_not_lt hlong, hparsed, rfl⟩
        | _ =>
          simp only [hparsed] at h
          cases h
  · rintro ⟨doc, hclean, hdumps, hle, hparsed, hdigest⟩
    refine ⟨(), (reject_ok _).mpr hclean, ?_⟩
    simp only [hdumps, hparsed, hdigest]
    rw [if_neg (Nat.not_lt_of_le hle)]
    rfl

def Scalars (s : Str) : Prop := ∀ c ∈ s, c < 0x110000 ∧ isSurrogate c = false

theorem utf16_cons (c : Nat) (s : Str) : utf16 (c :: s) = utf16 [c] ++ utf16 s := by
  simp [utf16]

theorem codePoints_cons {u : BitVec 16} (h : isHigh u = false) (rest : Units) :
    codePoints (u :: rest) = u.toNat :: codePoints rest := by
  cases rest with
  | nil => rfl
  | cons v rest => simp [codePoints, h]

/-- A character is read back whatever follows it. -/
theorem codePoints_utf16_append {c : Nat} (hmax : c < 0x110000) (hscalar : isSurrogate c = false)
    (rest : Units) : codePoints (utf16 [c] ++ rest) = c :: codePoints rest := by
  by_cases hsmall : c < 0x10000
  · have hunit : (BitVec.ofNat 16 c).toNat = c := by
      rw [BitVec.toNat_ofNat]
      exact Nat.mod_eq_of_lt hsmall
    have hhigh : isHigh (BitVec.ofNat 16 c) = false := by
      simp only [isSurrogate, Bool.and_eq_false_iff, decide_eq_false_iff_not] at hscalar
      simp only [isHigh, hunit, Bool.and_eq_false_iff, decide_eq_false_iff_not]
      omega
    rw [utf16, List.flatMap_singleton, if_pos hsmall, List.singleton_append, codePoints_cons hhigh,
      hunit]
  · have hfirst : (BitVec.ofNat 16 (0xD800 + (c - 0x10000) / 0x400)).toNat =
        0xD800 + (c - 0x10000) / 0x400 := by
      rw [BitVec.toNat_ofNat]
      omega
    have hsecond : (BitVec.ofNat 16 (0xDC00 + (c - 0x10000) % 0x400)).toNat =
        0xDC00 + (c - 0x10000) % 0x400 := by
      rw [BitVec.toNat_ofNat]
      omega
    have hpair : isHigh (BitVec.ofNat 16 (0xD800 + (c - 0x10000) / 0x400)) &&
        isLow (BitVec.ofNat 16 (0xDC00 + (c - 0x10000) % 0x400)) := by
      simp only [isHigh, isLow, hfirst, hsecond, Bool.and_eq_true, decide_eq_true_eq]
      omega
    rw [utf16, List.flatMap_singleton, if_neg hsmall, List.cons_append, List.singleton_append,
      codePoints, if_pos hpair, hfirst, hsecond]
    have hvalue : 0x10000 + (0xD800 + (c - 0x10000) / 0x400 - 0xD800) * 0x400 +
        (0xDC00 + (c - 0x10000) % 0x400 - 0xDC00) = c := by
      omega
    rw [hvalue]

/-- A text without surrogates is read back from its units. -/
theorem codePoints_utf16 {s : Str} (h : Scalars s) : codePoints (utf16 s) = s := by
  induction s with
  | nil => rfl
  | cons c s ih =>
    obtain ⟨hmax, hscalar⟩ := h c List.mem_cons_self
    rw [utf16_cons, codePoints_utf16_append hmax hscalar,
      ih fun d hd => h d (List.mem_cons_of_mem _ hd)]

mutual

/-- A value as Python has it, with strings of scalar values: no key of a dictionary is
there twice. -/
def WellFormed : PyValue → Prop
  | .str s => Scalars s
  | .list items => WellFormedItems items
  | .dict fields => (fields.map Prod.fst).Nodup ∧ WellFormedFields fields
  | _ => True

def WellFormedItems : List PyValue → Prop
  | [] => True
  | item :: rest => WellFormed item ∧ WellFormedItems rest

def WellFormedFields : PyDict → Prop
  | [] => True
  | (key, item) :: rest =>
    (∀ s, key = .str s → Scalars s) ∧ WellFormed item ∧ WellFormedFields rest

end

/-- A document that is what it is normalized to. -/
structure Settled (d : Doc) : Prop where
  clean : Clean (parsed d)
  dumps : (parsed d).dumps = some d

theorem sortKeys_sorted (fields : List (Str × Doc)) : sortKeys (sortKeys fields) = sortKeys fields := by
  have : Std.Total fun a b : Str × Doc => a.1 ≤ b.1 := ⟨fun a b => le_total a.1 b.1⟩
  have : IsTrans (Str × Doc) fun a b => a.1 ≤ b.1 := ⟨fun a b c => le_trans⟩
  exact (List.pairwise_insertionSort _ fields).insertionSort_eq

theorem setField_new {fields : List (Str × PyValue)} {key : Str} (value : PyValue)
    (h : key ∉ fields.map Prod.fst) : setField fields key value = fields ++ [(key, value)] := by
  unfold setField
  rw [if_neg]
  intro hany
  obtain ⟨f, hf, hkey⟩ := List.any_eq_true.mp hany
  exact h (List.mem_map.mpr ⟨f, hf, by simpa using hkey⟩)

/-- Fields whose names differ are read back one after the other. -/
theorem parsedFields_new {fields : List (Str × Doc)} (hscalars : ∀ f ∈ fields, Scalars f.1) :
    ∀ {read : List (Str × PyValue)}, (read.map Prod.fst ++ fields.map Prod.fst).Nodup →
      parsedFields (fields.map fun f => (utf16 f.1, f.2)) read =
        read ++ fields.map fun f => (f.1, parsed f.2) := by
  induction fields with
  | nil =>
    intro read _
    simp [parsedFields]
  | cons f fields ih =>
    intro read hnodup
    have hnew : f.1 ∉ read.map Prod.fst := by
      intro hmem
      exact (List.disjoint_of_nodup_append hnodup) hmem List.mem_cons_self
    rw [List.map_cons, parsedFields, codePoints_utf16 (hscalars f List.mem_cons_self),
      setField_new _ hnew, ih fun g hg => hscalars g (List.mem_cons_of_mem _ hg)]
    · simp
    · simpa using hnodup

/-- Reading an object whose keys are different gives its dictionary. -/
theorem parsed_obj {fields : List (Str × Doc)} (hnodup : (fields.map Prod.fst).Nodup)
    (hscalars : ∀ f ∈ fields, Scalars f.1) :
    parsed (.obj (fields.map fun f => (utf16 f.1, f.2))) =
      .dict (toDict (fields.map fun f => (f.1, parsed f.2))) := by
  have hread := @parsedFields_new fields hscalars [] (by simpa using hnodup)
  rw [parsed, hread, List.nil_append]

theorem dumpsFields_toDict {fields : List (Str × Doc)} (h : ∀ f ∈ fields, Settled f.2) :
    dumpsFields (toDict (fields.map fun f => (f.1, parsed f.2))) = some fields := by
  induction fields with
  | nil => rfl
  | cons f fields ih =>
    have hrest := ih fun g hg => h g (List.mem_cons_of_mem _ hg)
    have hfirst := (h f List.mem_cons_self).dumps
    simp only [toDict, List.map_cons] at hrest ⊢
    rw [dumpsFields, hfirst, hrest]
    rfl

/-- An object is settled when its values are and its keys are not private. -/
theorem settled_obj {fields : List (Str × Doc)} (hnodup : (fields.map Prod.fst).Nodup)
    (hfields : ∀ f ∈ fields, Scalars f.1 ∧ isPrivateReasoningKey f.1 = false ∧ Settled f.2) :
    Settled (.obj ((sortKeys fields).map fun f => (utf16 f.1, f.2))) := by
  have hperm : (sortKeys fields).Perm fields := List.perm_insertionSort _ fields
  have hsorted : ((sortKeys fields).map Prod.fst).Nodup := (hperm.map _).nodup_iff.mpr hnodup
  have hall : ∀ f ∈ sortKeys fields,
      Scalars f.1 ∧ isPrivateReasoningKey f.1 = false ∧ Settled f.2 :=
    fun f hf => hfields f (hperm.mem_iff.mp hf)
  have hparsed := parsed_obj hsorted fun f hf => (hall f hf).1
  constructor
  · rw [hparsed, Clean, cleanFields_iff]
    intro g hg
    obtain ⟨_, hmem, rfl⟩ := List.mem_map.mp hg
    obtain ⟨f, hf, rfl⟩ := List.mem_map.mp hmem
    exact ⟨⟨f.1, rfl, (hall f hf).2.1⟩, (hall f hf).2.2.clean⟩
  · rw [hparsed, PyValue.dumps, dumpsFields_toDict fun f hf => (hall f hf).2.2, Option.map_some,
      sortKeys_sorted]

theorem settled_items {items : List Doc} (h : ∀ d ∈ items, Settled d) :
    CleanItems (parsedItems items) ∧ dumpsItems (parsedItems items) = some items := by
  induction items with
  | nil => exact ⟨trivial, rfl⟩
  | cons d items ih =>
    obtain ⟨hclean, hdumps⟩ := ih fun e he => h e (List.mem_cons_of_mem _ he)
    have hfirst := h d List.mem_cons_self
    rw [parsedItems, CleanItems, dumpsItems, hfirst.dumps, hdumps]
    exact ⟨⟨hfirst.clean, hclean⟩, rfl⟩

/-- A list of settled documents is settled. -/
theorem settled_arr {items : List Doc} (h : ∀ d ∈ items, Settled d) : Settled (.arr items) := by
  obtain ⟨hclean, hdumps⟩ := settled_items h
  constructor
  · rw [parsed, Clean]
    exact hclean
  · rw [parsed, PyValue.dumps, hdumps, Option.map_some]

theorem settled_str {s : Str} (h : Scalars s) : Settled (.str (utf16 s)) := by
  constructor
  · rw [parsed]
    trivial
  · rw [parsed, codePoints_utf16 h, PyValue.dumps]

/-- Writing fields keeps the order of their keys. -/
theorem dumpsFields_keys {fields : PyDict} : ∀ {docs : List (Str × Doc)},
    dumpsFields fields = some docs → fields.map Prod.fst = (docs.map Prod.fst).map .str := by
  induction fields with
  | nil =>
    intro docs h
    cases h
    rfl
  | cons f fields ih =>
    intro docs h
    obtain ⟨key, item⟩ := f
    cases key with
    | other => cases h
    | str key =>
      rw [dumpsFields] at h
      obtain ⟨d, hd, h⟩ := Option.bind_eq_some_iff.mp h
      obtain ⟨rest, hrest, h⟩ := Option.bind_eq_some_iff.mp h
      cases h
      simp [ih hrest]

mutual

/-- The document of a clean value is settled. -/
theorem settled : (value : PyValue) → WellFormed value → Clean value → {d : Doc} →
    value.dumps = some d → Settled d
  | .null, _, _, _, h => by
    cases h
    exact ⟨trivial, rfl⟩
  | .bool _, _, _, _, h => by
    cases h
    exact ⟨trivial, rfl⟩
  | .int n, _, _, _, h => by
    rw [PyValue.dumps] at h
    split at h
    · cases h
    · rename_i hshort
      cases h
      exact ⟨trivial, by rw [parsed, PyValue.dumps, if_neg hshort]⟩
  | .float _, _, _, _, h => by
    cases h
    exact ⟨trivial, rfl⟩
  | .nonFinite, _, _, _, h => by cases h
  | .str s, hformed, _, _, h => by
    rw [WellFormed] at hformed
    cases h
    exact settled_str hformed
  | .object, _, _, _, h => by cases h
  | .list items, hformed, hclean, _, h => by
    rw [WellFormed] at hformed
    rw [Clean] at hclean
    rw [PyValue.dumps] at h
    obtain ⟨docs, hdocs, rfl⟩ := Option.map_eq_some_iff.mp h
    exact settled_arr (settledItems items hformed hclean hdocs)
  | .dict fields, hformed, hclean, _, h => by
    rw [WellFormed] at hformed
    rw [Clean] at hclean
    rw [PyValue.dumps] at h
    obtain ⟨docs, hdocs, rfl⟩ := Option.map_eq_some_iff.mp h
    have hnodup : (docs.map Prod.fst).Nodup := by
      have hkeys := hformed.1
      rw [dumpsFields_keys hdocs] at hkeys
      exact hkeys.of_map
    exact settled_obj hnodup (settledFields fields hformed.2 hclean hdocs)

theorem settledItems : (items : List PyValue) → WellFormedItems items → CleanItems items →
    {docs : List Doc} → dumpsItems items = some docs → ∀ d ∈ docs, Settled d
  | [], _, _, _, h => by
    cases h
    simp
  | item :: rest, hformed, hclean, _, h => by
    rw [WellFormedItems] at hformed
    rw [CleanItems] at hclean
    rw [dumpsItems] at h
    obtain ⟨d, hd, h⟩ := Option.bind_eq_some_iff.mp h
    obtain ⟨docs, hdocs, h⟩ := Option.bind_eq_some_iff.mp h
    cases h
    exact List.forall_mem_cons.mpr ⟨settled item hformed.1 hclean.1 hd,
      settledItems rest hformed.2 hclean.2 hdocs⟩

theorem settledFields : (fields : PyDict) → WellFormedFields fields → CleanFields fields →
    {docs : List (Str × Doc)} → dumpsFields fields = some docs →
    ∀ f ∈ docs, Scalars f.1 ∧ isPrivateReasoningKey f.1 = false ∧ Settled f.2
  | [], _, _, _, h => by
    cases h
    simp
  | (.other, _) :: _, _, _, _, h => by cases h
  | (.str key, item) :: rest, hformed, hclean, _, h => by
    rw [WellFormedFields] at hformed
    rw [CleanFields] at hclean
    rw [dumpsFields] at h
    obtain ⟨d, hd, h⟩ := Option.bind_eq_some_iff.mp h
    obtain ⟨docs, hdocs, h⟩ := Option.bind_eq_some_iff.mp h
    cases h
    exact List.forall_mem_cons.mpr
      ⟨⟨hformed.1 key rfl, hclean.1, settled item hformed.2.1 hclean.2.1 hd⟩,
        settledFields rest hformed.2.2 hclean.2.2 hdocs⟩

end

/-- What `_normalize_json` returns is clean, and normalizing it again changes neither the
value nor the digest. -/
theorem normalize_settled {sha256 : Str → Str} {value result : PyDict} {digest : Str}
    {fieldName : String} (hformed : WellFormed (.dict value))
    (h : normalize sha256 value fieldName = .ok (result, digest)) :
    Clean (.dict result) ∧
      ∀ again, normalize sha256 result again = .ok (result, digest) := by
  obtain ⟨doc, hclean, hdumps, hle, hparsed, hdigest⟩ := normalize_ok.mp h
  obtain ⟨hresult, hagain⟩ := settled _ hformed hclean hdumps
  rw [hparsed] at hresult hagain
  exact ⟨hresult, fun _ => normalize_ok.mpr ⟨doc, hresult, hagain, hle, hparsed, hdigest⟩⟩

mutual

/-- The value that a Python value is as JSON; `none` when it is none. -/
def asJson : PyValue → Option Json
  | .null => some .null
  | .bool b => some (.bool b)
  | .int n => some (.int n)
  | .float f => some (.float (readFloat f.text))
  | .nonFinite => none
  | .str s => some (.str s)
  | .list items => (asJsonItems items).map .arr
  | .dict fields => (asJsonFields fields).map .obj
  | .object => none

def asJsonItems : List PyValue → Option (List Json)
  | [] => some []
  | item :: rest => do return (← asJson item) :: (← asJsonItems rest)

def asJsonFields : PyDict → Option (List (Str × Json))
  | [] => some []
  | (.str key, item) :: rest => do return (key, ← asJson item) :: (← asJsonFields rest)
  | (.other, _) :: _ => none

end

/-- One field as Python value and as JSON. -/
def SameField (f : Str × PyValue) (g : Str × Json) : Prop := f.1 = g.1 ∧ asJson f.2 = some g.2

theorem asJsonFields_toDict {fields : List (Str × PyValue)} {json : List (Str × Json)}
    (h : List.Forall₂ SameField fields json) : asJsonFields (toDict fields) = some json := by
  induction h with
  | nil => rfl
  | @cons f g fields json hfield _ ih =>
    obtain ⟨hkey, hvalue⟩ := hfield
    simp only [toDict, List.map_cons] at ih ⊢
    rw [asJsonFields, hvalue, ih, hkey]
    rfl

theorem sameField_set {fields : List (Str × PyValue)} {json : List (Str × Json)} {key : Str}
    {value : PyValue} {j : Json} (h : List.Forall₂ SameField fields json)
    (hvalue : asJson value = some j) :
    List.Forall₂ SameField (setField fields key value) (setItem json key j) := by
  have hany : (fields.any fun f => decide (f.1 = key)) = json.any fun f => decide (f.1 = key) := by
    induction h with
    | nil => rfl
    | cons hfield _ ih => rw [List.any_cons, List.any_cons, ih, hfield.1]
  unfold setField setItem
  rw [hany]
  split
  · refine List.forall₂_map_left_iff.mpr (List.forall₂_map_right_iff.mpr (h.imp ?_))
    intro f g hfield
    rw [hfield.1]
    split
    · exact ⟨rfl, hvalue⟩
    · exact hfield
  · exact List.rel_append h (.cons ⟨rfl, hvalue⟩ .nil)

mutual

/-- Reading into Python or into JSON is the same. -/
theorem asJson_parsed : (d : Doc) → asJson (parsed d) = some (loads d)
  | .null => rfl
  | .bool _ => rfl
  | .int _ => rfl
  | .float _ => rfl
  | .str _ => rfl
  | .arr items => by
    rw [parsed, asJson, asJson_parsedItems items, loads, Option.map_some]
  | .obj fields => by
    rw [parsed, asJson, asJsonFields_toDict (asJson_parsedFields fields .nil), loads,
      Option.map_some]

theorem asJson_parsedItems : (items : List Doc) → asJsonItems (parsedItems items) = some (loadsItems items)
  | [] => rfl
  | d :: rest => by
    rw [parsedItems, asJsonItems, asJson_parsed d, asJson_parsedItems rest, loadsItems]
    rfl

theorem asJson_parsedFields : (fields : List (Units × Doc)) → {read : List (Str × PyValue)} →
    {json : List (Str × Json)} → List.Forall₂ SameField read json →
    List.Forall₂ SameField (parsedFields fields read) (loadsFields fields json)
  | [], _, _, h => h
  | (key, d) :: rest, _, _, h => by
    rw [parsedFields, loadsFields]
    exact asJson_parsedFields rest (sameField_set h (asJson_parsed d))

end

/-- `normalize` and `normalizeJson` return the same value, as Python value and as JSON. -/
theorem normalize_json {sha256 : Str → Str} {value result : PyDict} {digest : Str}
    {fieldName : String} (h : normalize sha256 value fieldName = .ok (result, digest)) :
    ∃ json, asJson (.dict result) = some json ∧
      normalizeJson sha256 value fieldName = .ok (json, digest) := by
  obtain ⟨doc, hclean, hdumps, hle, hparsed, hdigest⟩ := normalize_ok.mp h
  refine ⟨loads doc, ?_, ?_⟩
  · rw [← asJson_parsed doc, hparsed]
  · exact normalizeJson_ok.mpr ⟨doc, (reject_ok _).mpr hclean, ⟨hdumps, hle⟩, by rw [hdigest]⟩

end WechatBot.PrivateReasoning
