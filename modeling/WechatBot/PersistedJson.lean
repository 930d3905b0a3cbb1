import Mathlib.Data.List.Sort
import WechatBot.JsonPaths
import WechatBot.JsonText
import WechatBot.Results

/-!
# Persisted JSON

`_normalize_json`: the check for private reasoning fields, the canonical text with its
size limit and digest, and the value that `json.loads` reads back from the text. The
interpreter's recursion limit is left out.
-/
namespace WechatBot.PersistedJson

open PyData JsonText

/-- A key of a Python `dict`. -/
inductive PyKey where
  | str (s : Str)
  | other

/-- A Python value as a caller may pass it. A list stands for a tuple too; `nonFinite` is
NaN or an infinity, and `object` any value of another type. -/
inductive PyValue where
  | null
  | bool (b : Bool)
  | int (n : Int)
  | float (f : FloatText)
  | nonFinite
  | str (s : Str)
  | list (items : List PyValue)
  | dict (fields : List (PyKey × PyValue))
  | object

abbrev PyDict := List (PyKey × PyValue)

def privateReasoningKeys : List Str :=
  ["analysis", "chainofthought", "hiddenreasoning", "hiddenthoughts", "internalreasoning",
    "reasoning", "reasoningcontent", "reasoningdetails", "scratchpad", "thinking"].map py

/-- The characters whose case folding is ASCII although they are not. -/
def asciiFolds : List (Nat × String) :=
  [(0xDF, "ss"), (0x17F, "s"), (0x1E9E, "ss"), (0x212A, "k"), (0xFB00, "ff"), (0xFB01, "fi"),
    (0xFB02, "fl"), (0xFB03, "ffi"), (0xFB04, "ffl"), (0xFB05, "st"), (0xFB06, "st")]

/-- `str.casefold` of one character. A character whose folding is not ASCII stays itself:
no private key has one. -/
def casefold (c : Nat) : Str :=
  if 65 ≤ c ∧ c ≤ 90 then [c + 32]
  else match asciiFolds.find? fun p => decide (p.1 = c) with
    | some p => py p.2
    | none => [c]

def isPrivateReasoningKey (key : Str) : Bool :=
  privateReasoningKeys.contains (((strip key).flatMap casefold).filter fun c => c != 45 && c != 95)

mutual

def rejectPrivateReasoning (path : Str) : PyValue → Except Str Unit
  | .dict fields => rejectFields path fields
  | .list items => rejectItems path 0 items
  | _ => .ok ()

def rejectFields (path : Str) : List (PyKey × PyValue) → Except Str Unit
  | [] => .ok ()
  | (key, item) :: rest => do
    match key with
    | .other => throw (path ++ py " keys must be strings")
    | .str k =>
      if isPrivateReasoningKey k then
        throw (path ++ py " cannot persist private reasoning fields")
      rejectPrivateReasoning (path ++ py "." ++ k) item
      rejectFields path rest

def rejectItems (path : Str) (index : Nat) : List PyValue → Except Str Unit
  | [] => .ok ()
  | item :: rest => do
    rejectPrivateReasoning (path ++ py "[" ++ decimal index ++ py "]") item
    rejectItems path (index + 1) rest

end

/-- `sort_keys`: the order of the keys as strings of code points. -/
def sortKeys {β : Type} (fields : List (Str × β)) : List (Str × β) :=
  fields.insertionSort fun a b => a.1 ≤ b.1

mutual

/-- The document `json.dumps` writes with `sort_keys` and `allow_nan=False`; `none` when it
raises. `int.__repr__` refuses more than 4300 digits. -/
def PyValue.dumps : PyValue → Option Doc
  | .null => some .null
  | .bool b => some (.bool b)
  | .int n => if 4300 < (decimal n.natAbs).length then none else some (.int n)
  | .float f => some (.float f)
  | .nonFinite => none
  | .str s => some (.str (utf16 s))
  | .list items => (dumpsItems items).map .arr
  | .dict fields =>
    (dumpsFields fields).map fun fs => .obj ((sortKeys fs).map fun f => (utf16 f.1, f.2))
  | .object => none

def dumpsItems : List PyValue → Option (List Doc)
  | [] => some []
  | item :: rest => do return (← item.dumps) :: (← dumpsItems rest)

/-- Only string keys reach `json.dumps`. -/
def dumpsFields : List (PyKey × PyValue) → Option (List (Str × Doc))
  | [] => some []
  | (.str key, item) :: rest => do return (key, ← item.dumps) :: (← dumpsFields rest)
  | (.other, _) :: _ => none

end

/-- `d[key] = value` on the pairs of a dictionary. -/
def setItem (fields : List (Str × Json)) (key : Str) (value : Json) : List (Str × Json) :=
  if fields.any fun f => decide (f.1 = key) then
    fields.map fun f => if f.1 = key then (key, value) else f
  else fields ++ [(key, value)]

def readNat (digits : List Nat) : Nat := digits.foldl (fun n c => 10 * n + (c - 48)) 0

def readInt : List Nat → Int
  | 45 :: digits => -(readNat digits : Int)
  | 43 :: digits => readNat digits
  | digits => readNat digits

/-- The decimal that the text of a float denotes, as mantissa and exponent of ten. -/
def readFloat (text : List Nat) : JsonFloat :=
  let negative := text.head? == some 45
  let significand := (text.takeWhile (· != 101)).filter fun c => isDigit c || c == 46
  let fraction := (significand.dropWhile (· != 46)).drop 1
  let mantissa : Int := readNat (significand.filter isDigit)
  let exponent := readInt ((text.dropWhile (· != 101)).drop 1)
  .finite (if negative then -mantissa else mantissa) (exponent - fraction.length)

mutual

def loads : Doc → Json
  | .null => .null
  | .bool b => .bool b
  | .int n => .int n
  | .float f => .float (readFloat f.text)
  | .str s => .str (codePoints s)
  | .arr items => .arr (loadsItems items)
  | .obj fields => .obj (loadsFields fields [])

def loadsItems : List Doc → List Json
  | [] => []
  | d :: rest => loads d :: loadsItems rest

/-- The last value of a repeated key counts. -/
def loadsFields : List (Units × Doc) → List (Str × Json) → List (Str × Json)
  | [], read => read
  | (key, d) :: rest, read => loadsFields rest (setItem read (codePoints key) (loads d))

end

def maxPersistedJsonBytes : Nat := 64 * 1024

/-- The text is ASCII, so its length is the number of its bytes. -/
def normalizeJson (sha256 : Str → Str) (value : PyDict) (fieldName : String) :
    Except Str (Json × Str) := do
  rejectPrivateReasoning (py fieldName) (.dict value)
  match (PyValue.dict value).dumps with
  | none => throw (py (fieldName ++ " must be JSON serializable"))
  | some doc =>
    if maxPersistedJsonBytes < doc.text.length then
      throw (py (fieldName ++ " exceeds 65536 bytes"))
    return (loads doc, sha256 doc.text)

theorem normalizeJson_ok {sha256 : Str → Str} {value : PyDict} {fieldName : String}
    {result : Json × Str} :
    normalizeJson sha256 value fieldName = .ok result ↔
      ∃ doc, rejectPrivateReasoning (py fieldName) (.dict value) = .ok () ∧
        ((PyValue.dict value).dumps = some doc ∧ doc.text.length ≤ maxPersistedJsonBytes) ∧
        result = (loads doc, sha256 doc.text) := by
  unfold normalizeJson
  rw [Results.bind_ok]
  cases (PyValue.dict value).dumps with
  | none =>
    simp only [reduceCtorEq, false_and, and_false, exists_false]
  | some doc =>
    by_cases hlong : maxPersistedJsonBytes < doc.text.length
    · simp only [hlong, ↓reduceIte, Option.some.injEq]
      constructor
      · rintro ⟨_, -, h⟩
        exact absurd h Results.throw_bind_ne
      · rintro ⟨other, -, ⟨rfl, hle⟩, -⟩
        omega
    · simp only [hlong, ↓reduceIte, Option.some.injEq]
      constructor
      · rintro ⟨u, hreject, h⟩
        cases h
        exact ⟨doc, hreject, ⟨rfl, by omega⟩, rfl⟩
      · rintro ⟨other, hreject, ⟨rfl, -⟩, rfl⟩
        exact ⟨(), hreject, rfl⟩

def ratPow (base : Nat) : Int → Rat
  | .ofNat n => ((base ^ n : Nat) : Rat)
  | .negSucc n => 1 / ((base ^ (n + 1) : Nat) : Rat)

/-- The position of the leading binary digit of a positive number. -/
def leadingBit (q : Rat) : Int :=
  let k : Int := (Nat.log2 q.num.natAbs : Int) - Nat.log2 q.den
  if ratPow 2 k ≤ |q| then k else k - 1

def roundHalfEven (q : Rat) : Int :=
  let below := q.floor
  if q - below < 1 / 2 then below
  else if 1 / 2 < q - below then below + 1
  else if below % 2 = 0 then below else below + 1

/-- The binary64 number nearest to a decimal in its range. -/
def nearestFloat (mantissa exponent : Int) : Rat :=
  let q := (mantissa : Rat) * ratPow 10 exponent
  if q = 0 then 0
  else
    let unit := ratPow 2 (max (leadingBit q - 52) (-1074))
    roundHalfEven (q / unit) * unit

inductive Numeric where
  | finite (q : Rat)
  | infinite (negative : Bool)
  deriving DecidableEq

/-- A number as Python compares it; `bool` is a subclass of `int`. -/
def numeric : Json → Option Numeric
  | .bool b => some (.finite (if b then 1 else 0))
  | .int n => some (.finite n)
  | .float (.finite mantissa exponent) => some (.finite (nearestFloat mantissa exponent))
  | .float (.infinity negative) => some (.infinite negative)
  | _ => none

mutual

/-- Python `==` of two JSON values. -/
def pyEq : Json → Json → Bool
  | .null, .null => true
  | .str s, .str t => decide (s = t)
  | .arr xs, .arr ys => pyEqItems xs ys
  | .obj xs, .obj ys => xs.length == ys.length && pyEqFields xs ys
  | x, y =>
    match numeric x, numeric y with
    | some a, some b => decide (a = b)
    | _, _ => false

def pyEqItems : List Json → List Json → Bool
  | [], [] => true
  | x :: xs, y :: ys => pyEq x y && pyEqItems xs ys
  | _, _ => false

def pyEqFields : List (Str × Json) → List (Str × Json) → Bool
  | [], _ => true
  | (key, x) :: xs, ys =>
    (match Json.get ys key with
      | some y => pyEq x y
      | none => false) && pyEqFields xs ys

end

/-- The fields of a dictionary whose values equal themselves. -/
structure Reflexive (fields : List (Str × Json)) : Prop where
  keys : (fields.map (·.1)).Nodup
  values : ∀ f ∈ fields, pyEq f.2 f.2 = true

theorem keys_setItem (fields : List (Str × Json)) (key : Str) (value : Json) :
    (setItem fields key value).map (·.1) =
      if key ∈ fields.map (·.1) then fields.map (·.1) else fields.map (·.1) ++ [key] := by
  have hany : (fields.any fun f => decide (f.1 = key)) = true ↔ key ∈ fields.map (·.1) := by
    simp only [List.any_eq_true, decide_eq_true_eq, List.mem_map]
  unfold setItem
  by_cases hkey : key ∈ fields.map (·.1)
  · rw [if_pos (hany.mpr hkey), if_pos hkey, List.map_map]
    apply List.map_congr_left
    intro f _
    by_cases hf : f.1 = key
    · simp [hf]
    · simp [hf]
  · rw [if_neg (fun h => hkey (hany.mp h)), if_neg hkey]
    simp

theorem reflexive_setItem {fields : List (Str × Json)} (h : Reflexive fields) (key : Str)
    {value : Json} (hvalue : pyEq value value = true) : Reflexive (setItem fields key value) := by
  constructor
  · rw [keys_setItem]
    split
    · exact h.keys
    · rename_i hnew
      rw [List.nodup_append]
      refine ⟨h.keys, by simp, ?_⟩
      intro a ha b hb hab
      obtain rfl : b = key := by simpa using hb
      exact hnew (hab ▸ ha)
  · intro f hf
    unfold setItem at hf
    split at hf
    · obtain ⟨g, hg, rfl⟩ := List.mem_map.mp hf
      split
      · exact hvalue
      · exact h.values g hg
    · rcases List.mem_append.mp hf with hold | hnew
      · exact h.values f hold
      · obtain rfl : f = (key, value) := by simpa using hnew
        exact hvalue

theorem pyEqFields_of_get {xs ys : List (Str × Json)}
    (h : ∀ f ∈ xs, Json.get ys f.1 = some f.2 ∧ pyEq f.2 f.2 = true) : pyEqFields xs ys = true := by
  induction xs with
  | nil => simp [pyEqFields]
  | cons f xs ih =>
    obtain ⟨hget, hvalue⟩ := h f List.mem_cons_self
    have hrest := ih fun g hg => h g (List.mem_cons_of_mem _ hg)
    simp [pyEqFields, hget, hvalue, hrest]

theorem pyEq_obj {fields : List (Str × Json)} (h : Reflexive fields) :
    pyEq (.obj fields) (.obj fields) = true := by
  have hall : pyEqFields fields fields = true :=
    pyEqFields_of_get fun f hf => ⟨JsonPaths.get_of_mem h.keys hf, h.values f hf⟩
  simp [pyEq, hall]

mutual

theorem pyEq_loads : (d : Doc) → pyEq (loads d) (loads d) = true
  | .null => by simp [loads, pyEq]
  | .bool b => by simp [loads, pyEq, numeric]
  | .int n => by simp [loads, pyEq, numeric]
  | .float f => by simp [loads, pyEq, readFloat, numeric]
  | .str s => by simp [loads, pyEq]
  | .arr items => by simpa only [loads, pyEq] using pyEq_loadsItems items
  | .obj fields => by
    rw [loads]
    exact pyEq_obj (reflexive_loadsFields fields ⟨by simp, by simp⟩)

theorem pyEq_loadsItems : (items : List Doc) → pyEqItems (loadsItems items) (loadsItems items) = true
  | [] => by simp [loadsItems, pyEqItems]
  | d :: rest => by simp [loadsItems, pyEqItems, pyEq_loads d, pyEq_loadsItems rest]

theorem reflexive_loadsFields :
    (fields : List (Units × Doc)) → {read : List (Str × Json)} → Reflexive read →
      Reflexive (loadsFields fields read)
  | [], _, h => by simpa only [loadsFields] using h
  | (key, d) :: rest, _, h => by
    rw [loadsFields]
    exact reflexive_loadsFields rest (reflexive_setItem h (codePoints key) (pyEq_loads d))

end

end WechatBot.PersistedJson
