import Mathlib.Algebra.Order.Ring.Nat
import Mathlib.Data.List.DropRight
import Mathlib.Data.List.Lex

/-!
# The values the back end computes with

A Python `str` is the list of its code points, lone surrogates included, since
`json.loads` produces them. Times are microseconds since the epoch and durations
are microseconds, the resolution of `datetime` and `timedelta`.
-/
namespace WechatBot.PyData

abbrev Str := List Nat

/-- A literal of the source. -/
def py (s : String) : Str := s.toList.map Char.toNat

/-- The code points that `str.strip` and `str.isspace` take for white space. -/
def isSpace (c : Nat) : Bool :=
  (9 ≤ c && c ≤ 13) || (28 ≤ c && c ≤ 32) || c == 0x85 || c == 0xA0 || c == 0x1680 ||
    (0x2000 ≤ c && c ≤ 0x200A) || c == 0x2028 || c == 0x2029 || c == 0x202F || c == 0x205F ||
    c == 0x3000

def strip (s : Str) : Str := (s.dropWhile isSpace).rdropWhile isSpace

/-- The lower case of an ASCII character. -/
def lowerAscii (c : Nat) : Nat := if 65 ≤ c ∧ c ≤ 90 then c + 32 else c

/-- `str.casefold` of an ASCII text. -/
def foldAscii (s : Str) : Str := s.map lowerAscii

/-- `not value.strip()`. -/
def blank (s : Str) : Bool := s.all isSpace

def isSurrogate (c : Nat) : Bool := 0xD800 ≤ c && c ≤ 0xDFFF

/-- The string has a UTF-8 encoding. -/
def encodable (s : Str) : Bool := s.all fun c => !isSurrogate c

theorem strip_eq_nil_iff (s : Str) : strip s = [] ↔ blank s = true := by
  constructor
  · intro h
    have hdrop : ∀ c ∈ s.dropWhile isSpace, isSpace c = true := by
      simpa [strip, List.rdropWhile_eq_nil_iff] using h
    have hnil : s.dropWhile isSpace = [] := by
      by_contra hne
      have hhead := List.head_dropWhile_not isSpace hne
      rw [hdrop _ (List.head_mem hne)] at hhead
      cases hhead
    simpa [blank, List.dropWhile_eq_nil_iff] using hnil
  · intro h
    have hnil : s.dropWhile isSpace = [] := by
      simpa [blank, List.dropWhile_eq_nil_iff] using h
    simp [strip, hnil]

/-- A text without white space is stripped. -/
theorem strip_of_solid {s : Str} (h : ∀ c ∈ s, isSpace c = false) : strip s = s := by
  have hdrop : s.dropWhile isSpace = s := by
    rw [List.dropWhile_eq_self_iff]
    intro hlength
    simp [h _ (List.getElem_mem hlength)]
  rw [strip, hdrop, List.rdropWhile_eq_self_iff]
  intro hne
  simp [h _ (List.getLast_mem hne)]

theorem mem_of_mem_strip {s : Str} {c : Nat} (h : c ∈ strip s) : c ∈ s :=
  (List.dropWhile_suffix isSpace).subset ((List.rdropWhile_prefix isSpace _).subset h)

theorem encodable_strip {s : Str} (h : encodable s = true) : encodable (strip s) = true := by
  simp only [encodable, List.all_eq_true] at h ⊢
  exact fun c hc => h c (mem_of_mem_strip hc)

theorem length_strip_le (s : Str) : (strip s).length ≤ s.length :=
  (List.rdropWhile_prefix isSpace _).length_le.trans (List.dropWhile_suffix isSpace).length_le

/-- Dropping white space at the right never reaches past a character that is none. -/
theorem prefix_rdropWhile (front s : Str) (c : Nat) (hc : isSpace c = false) :
    front ++ [c] <+: (front ++ c :: s).rdropWhile isSpace := by
  induction s using List.reverseRecOn with
  | nil =>
    have hkept := List.rdropWhile_concat_neg isSpace front c (by simp [hc])
    exact ⟨[], by rw [hkept, List.append_nil]⟩
  | append_singleton s d ih =>
    have hassoc : front ++ c :: (s ++ [d]) = (front ++ c :: s) ++ [d] := by simp
    rw [hassoc]
    by_cases hd : isSpace d = true
    · rw [List.rdropWhile_concat_pos _ _ _ hd]
      exact ih
    · rw [List.rdropWhile_concat_neg _ _ _ hd]
      exact ⟨s ++ [d], by simp⟩

/-- `strip` keeps a prefix that neither begins nor ends with white space. -/
theorem prefix_strip (first last : Nat) (middle s : Str) (hfirst : isSpace first = false)
    (hlast : isSpace last = false) :
    first :: middle ++ [last] <+: strip (first :: middle ++ [last] ++ s) := by
  have hdrop : (first :: middle ++ [last] ++ s).dropWhile isSpace = first :: middle ++ last :: s := by
    simp [hfirst]
  rw [strip, hdrop]
  exact prefix_rdropWhile (first :: middle) s last hlast

abbrev UUID := BitVec 128

instance : LawfulBEq Str := inferInstance

instance : LawfulBEq UUID := inferInstance

instance : LawfulBEq (UUID × UUID) := inferInstance

def hexDigit (n : Nat) : Nat := if n < 10 then 48 + n else 87 + n

/-- The `count` hexadecimal digits of `n` from digit `start` down. -/
def hexDigits (n start : Nat) : Nat → Str
  | 0 => []
  | count + 1 => hexDigit (n / 16 ^ start % 16) :: hexDigits n (start - 1) count

/-- `str` of a UUID: 8-4-4-4-12 lower-case hexadecimal digits. -/
def uuidStr (u : UUID) : Str :=
  hexDigits u.toNat 31 8 ++ 45 :: hexDigits u.toNat 23 4 ++ 45 :: hexDigits u.toNat 19 4 ++
    45 :: hexDigits u.toNat 15 4 ++ 45 :: hexDigits u.toNat 11 12

theorem length_hexDigits (n start count : Nat) : (hexDigits n start count).length = count := by
  induction count generalizing start with
  | zero => rfl
  | succ count ih => simp [hexDigits, ih]

theorem length_uuidStr (u : UUID) : (uuidStr u).length = 36 := by
  simp [uuidStr, length_hexDigits]

theorem hexDigit_inj {a b : Nat} (ha : a < 16) (hb : b < 16) (h : hexDigit a = hexDigit b) :
    a = b := by
  unfold hexDigit at h
  split at h <;> split at h <;> omega

/-- Equal digits of two numbers from one position down. -/
theorem hexDigits_inj {m n : Nat} (count : Nat) : ∀ start, count ≤ start + 1 →
    hexDigits m start count = hexDigits n start count →
    m / 16 ^ (start + 1 - count) % 16 ^ count = n / 16 ^ (start + 1 - count) % 16 ^ count := by
  induction count with
  | zero =>
    intro start _ _
    simp [Nat.mod_one]
  | succ count ih =>
    intro start hle h
    rw [hexDigits, hexDigits, List.cons.injEq] at h
    have hdigit : m / 16 ^ start % 16 = n / 16 ^ start % 16 :=
      hexDigit_inj (Nat.mod_lt _ (by omega)) (Nat.mod_lt _ (by omega)) h.1
    rcases Nat.eq_zero_or_pos count with hzero | hpos
    · subst hzero
      simpa using hdigit
    · have hrest := ih (start - 1) (by omega) h.2
      have hexp : start - 1 + 1 - count = start + 1 - (count + 1) := by omega
      rw [hexp] at hrest
      have hsplit : ∀ k : Nat, k / 16 ^ (start + 1 - (count + 1)) % 16 ^ (count + 1) =
          k / 16 ^ (start + 1 - (count + 1)) % 16 ^ count + 16 ^ count * (k / 16 ^ start % 16) := by
        intro k
        rw [Nat.pow_succ, Nat.mod_mul, Nat.div_div_eq_div_mul, ← Nat.pow_add]
        have he : start + 1 - (count + 1) + count = start := by omega
        rw [he]
      rw [hsplit, hsplit, hrest, hdigit]

theorem uuidStr_inj {u v : UUID} (h : uuidStr u = uuidStr v) : u = v := by
  unfold uuidStr at h
  simp only [List.append_assoc, List.cons_append] at h
  have hlen : ∀ n start count, (hexDigits n start count).length = count := length_hexDigits
  obtain ⟨h1, h⟩ := List.append_inj h (by rw [hlen, hlen])
  obtain ⟨h2, h⟩ := List.append_inj (List.cons.inj h).2 (by rw [hlen, hlen])
  obtain ⟨h3, h⟩ := List.append_inj (List.cons.inj h).2 (by rw [hlen, hlen])
  obtain ⟨h4, h⟩ := List.append_inj (List.cons.inj h).2 (by rw [hlen, hlen])
  have h5 := (List.cons.inj h).2
  have e1 := hexDigits_inj 8 31 (by omega) h1
  have e2 := hexDigits_inj 4 23 (by omega) h2
  have e3 := hexDigits_inj 4 19 (by omega) h3
  have e4 := hexDigits_inj 4 15 (by omega) h4
  have e5 := hexDigits_inj 12 11 (by omega) h5
  have hu : u.toNat < 2 ^ 128 := u.isLt
  have hv : v.toNat < 2 ^ 128 := v.isLt
  apply BitVec.eq_of_toNat_eq
  simp only [Nat.reduceAdd, Nat.reduceSub, Nat.reducePow] at e1 e2 e3 e4 e5 hu hv
  omega

abbrev Time := Int

def second : Int := 1000000

/-- `json.loads` accepts the three special values besides the decimals. -/
inductive JsonFloat where
  | finite (mantissa exponent : Int)
  | nan
  | infinity (negative : Bool)
  deriving DecidableEq, Repr

/-- A value `json.loads` returns. The fields of an object are in the order of the
dictionary; a key is looked up by `Json.get`. -/
inductive Json where
  | null
  | bool (b : Bool)
  | int (n : Int)
  | float (f : JsonFloat)
  | str (s : Str)
  | arr (items : List Json)
  | obj (fields : List (Str × Json))

/-- `dict.get(key)`, `none` when the key is absent. -/
def Json.get (fields : List (Str × Json)) (key : Str) : Option Json :=
  (fields.find? fun f => decide (f.1 = key)).map Prod.snd

/-- Python truth of a value. -/
def Json.truthy : Json → Bool
  | .null => false
  | .bool b => b
  | .int n => n != 0
  | .float (.finite mantissa _) => mantissa != 0
  | .float _ => true
  | .str s => !s.isEmpty
  | .arr items => !items.isEmpty
  | .obj fields => !fields.isEmpty

/-- A JSON column as its one reader sees it: the value its schema reads from the
document, or a document that `model_validate` refuses. -/
inductive Document (α : Type) where
  | valid (value : α)
  | invalid
  deriving DecidableEq, Repr

def Document.modelValidate {α : Type} : Document α → Option α
  | .valid value => some value
  | .invalid => none

end WechatBot.PyData
