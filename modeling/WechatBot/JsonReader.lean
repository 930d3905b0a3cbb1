import WechatBot.JsonText
import WechatBot.UuidText

/-!
# Writing and reading JSON

What `json.dumps` writes for a value, with any blanks behind its separators, and a reader
of the whole grammar of `json.loads`, which reads back every text that was written. A
string is its UTF-16 units, a float the text it is given by.
-/
namespace WechatBot.JsonReader

open JsonText
open PyData (py hexDigits length_hexDigits)
open UuidText (readHex readHex_digits)

/-- A character of a number. -/
def isTokenChar (c : Nat) : Bool := isDigit c || c ∈ [43, 45, 46, 69, 101]

/-- A point or an exponent. -/
def isMark (c : Nat) : Bool := c ∈ [46, 69, 101]

def unsigned : List Nat → List Nat
  | 45 :: t => t
  | t => t

/-- Digits without a leading zero. -/
def isNatural : List Nat → Bool
  | [] => false
  | [48] => true
  | c :: t => decide (49 ≤ c ∧ c ≤ 57) && t.all isDigit

def isDigits (t : List Nat) : Bool := !t.isEmpty && t.all isDigit

/-- Nothing, or an exponent. -/
def isExponent : List Nat → Bool
  | [] => true
  | c :: t => decide (c = 69 ∨ c = 101) && isDigits (match t with
    | 43 :: t => t
    | 45 :: t => t
    | t => t)

def isFraction : List Nat → Bool
  | 46 :: t => isDigits (t.takeWhile isDigit) && isExponent (t.dropWhile isDigit)
  | t => isExponent t

/-- The text of a number with a fraction or an exponent. -/
def isFloat (t : List Nat) : Bool :=
  t.all isTokenChar && t.any isMark && isNatural ((unsigned t).takeWhile isDigit) &&
    isFraction ((unsigned t).dropWhile isDigit)

structure FloatToken where
  text : List Nat
  valid : isFloat text = true
  deriving DecidableEq

example : isFloat (py "-1.5e-07") = true ∧ isFloat (py "1.") = false ∧ isFloat (py "01.5") = false := by
  decide

def natValue (t : List Nat) : Nat := t.foldl (fun n c => n * 10 + (c - 48)) 0

def intValue (t : List Nat) : Int :=
  match t with
  | 45 :: t => -(natValue t)
  | t => natValue t

inductive Constant where
  | nan | infinity | negInfinity
  deriving DecidableEq, Repr

def Constant.text : Constant → List Nat
  | .nan => py "NaN"
  | .infinity => py "Infinity"
  | .negInfinity => py "-Infinity"

inductive Value where
  | null
  | bool (b : Bool)
  | int (n : Int)
  | float (f : FloatToken)
  | constant (c : Constant)
  | str (s : Units)
  | arr (items : List Value)
  | obj (fields : List (Units × Value))

/-- `dict.get(key)`; the last field of a name counts. -/
def Value.get (fields : List (Units × Value)) (key : Units) : Option Value :=
  (fields.reverse.find? fun field => decide (field.1 = key)).map Prod.snd

mutual

/-- The text of a value; `gap` stands behind each comma and colon. -/
def Value.write (gap : List Nat) : Value → List Nat
  | .null => py "null"
  | .bool true => py "true"
  | .bool false => py "false"
  | .int n => intText n
  | .float f => f.text
  | .constant c => c.text
  | .str s => quoted s
  | .arr [] => [91, 93]
  | .arr (v :: rest) => 91 :: (v.write gap ++ writeItems gap rest)
  | .obj [] => [123, 125]
  | .obj ((key, v) :: rest) => 123 :: (quoted key ++ 58 :: (gap ++ (v.write gap ++ writeFields gap rest)))

/-- The items after the first one, and the closing bracket. -/
def writeItems (gap : List Nat) : List Value → List Nat
  | [] => [93]
  | v :: rest => 44 :: (gap ++ (v.write gap ++ writeItems gap rest))

def writeFields (gap : List Nat) : List (Units × Value) → List Nat
  | [] => [125]
  | (key, v) :: rest =>
    44 :: (gap ++ (quoted key ++ 58 :: (gap ++ (v.write gap ++ writeFields gap rest))))

end

def isBlank (c : Nat) : Bool := c ∈ [9, 10, 13, 32]

def skip (s : List Nat) : List Nat := s.dropWhile isBlank

/-- The characters of the two-character escapes; a slash may be escaped too. -/
def unescape (letter : Nat) : Option Nat :=
  (((47, 47) :: shortEscapes).find? fun p => decide (p.2 = letter)).map Prod.fst

def readUnit (a b c d : Nat) : Option (BitVec 16) := (readHex 0 [a, b, c, d]).map (BitVec.ofNat 16)

/-- A string behind its opening quote. -/
def readString : List Nat → Option (Units × List Nat)
  | [] => none
  | 34 :: s => some ([], s)
  | 92 :: 117 :: a :: b :: c :: d :: s => do
    let u ← readUnit a b c d
    let (us, rest) ← readString s
    return (u :: us, rest)
  | 92 :: letter :: s => do
    let c ← unescape letter
    let (us, rest) ← readString s
    return (BitVec.ofNat 16 c :: us, rest)
  | c :: s =>
    if c < 32 then none else (readString s).map fun p => (utf16 [c] ++ p.1, p.2)

def readToken (t : List Nat) : Option Value :=
  if t.any isMark then
    if h : isFloat t = true then some (.float ⟨t, h⟩) else none
  else if isNatural (unsigned t) then some (.int (intValue t))
  else none

def literals : List (List Nat × Value) :=
  [(py "null", .null), (py "true", .bool true), (py "false", .bool false),
    (py "NaN", .constant .nan), (py "Infinity", .constant .infinity),
    (py "-Infinity", .constant .negInfinity)]

/-- A number or a literal. -/
def readScalar (s : List Nat) : Option (Value × List Nat) :=
  match readToken (s.takeWhile isTokenChar) with
  | some v => some (v, s.dropWhile isTokenChar)
  | none => (literals.find? fun literal => literal.1.isPrefixOf s).map fun literal =>
      (literal.2, s.drop literal.1.length)

mutual

def readValue : Nat → List Nat → Option (Value × List Nat)
  | 0, _ => none
  | fuel + 1, s =>
    match skip s with
    | 34 :: s => (readString s).map fun p => (.str p.1, p.2)
    | 91 :: s =>
      match skip s with
      | 93 :: rest => some (.arr [], rest)
      | s => do
        let (v, s) ← readValue fuel s
        let (vs, rest) ← readItems fuel s
        return (.arr (v :: vs), rest)
    | 123 :: s =>
      match skip s with
      | 125 :: rest => some (.obj [], rest)
      | s => do
        let (field, s) ← readField fuel s
        let (fields, rest) ← readFields fuel s
        return (.obj (field :: fields), rest)
    | s => readScalar s

def readItems : Nat → List Nat → Option (List Value × List Nat)
  | 0, _ => none
  | fuel + 1, s =>
    match skip s with
    | 93 :: rest => some ([], rest)
    | 44 :: s => do
      let (v, s) ← readValue fuel s
      let (vs, rest) ← readItems fuel s
      return (v :: vs, rest)
    | _ => none

def readField : Nat → List Nat → Option ((Units × Value) × List Nat)
  | 0, _ => none
  | fuel + 1, s =>
    match skip s with
    | 34 :: s => do
      let (key, s) ← readString s
      match skip s with
      | 58 :: s => do
        let (v, rest) ← readValue fuel s
        return ((key, v), rest)
      | _ => none
    | _ => none

def readFields : Nat → List Nat → Option (List (Units × Value) × List Nat)
  | 0, _ => none
  | fuel + 1, s =>
    match skip s with
    | 125 :: rest => some ([], rest)
    | 44 :: s => do
      let (field, s) ← readField fuel s
      let (fields, rest) ← readFields fuel s
      return (field :: fields, rest)
    | _ => none

end

/-- `json.loads` of a text; `none` for a JSONDecodeError. Every step of the reader takes a
character, so the length of the text bounds their number. -/
def readText (s : List Nat) : Option Value :=
  match readValue (s.length + 1) s with
  | some (v, rest) => if skip rest = [] then some v else none
  | none => none

theorem isDigit_iff {c : Nat} : isDigit c = true ↔ 48 ≤ c ∧ c ≤ 57 := by
  simp [isDigit]

theorem decimal_all_digits (n : Nat) : (decimal n).all isDigit = true := by
  rw [List.all_eq_true]
  exact fun c hc => isDigit_iff.mpr (decimal_digit hc)

theorem natValue_digits (l : List Nat) :
    natValue (l.map (48 + ·)).reverse = Nat.ofDigits 10 l := by
  induction l with
  | nil => rfl
  | cons d l ih =>
    simp only [natValue, List.map_cons, List.reverse_cons, List.foldl_append, List.foldl_cons,
      List.foldl_nil] at ih ⊢
    rw [ih, Nat.ofDigits_cons]
    omega

/-- Reading the digits of a number gives it back. -/
theorem natValue_decimal (n : Nat) : natValue (decimal n) = n := by
  unfold decimal
  split
  · rename_i hzero
    rw [hzero]
    rfl
  · rw [natValue_digits, Nat.ofDigits_digits]

theorem isNatural_decimal (n : Nat) : isNatural (decimal n) = true := by
  by_cases hzero : n = 0
  · simp [decimal, hzero, isNatural]
  · have hall := decimal_all_digits n
    have hne : Nat.digits 10 n ≠ [] := Nat.digits_ne_nil_iff_ne_zero.mpr hzero
    have hlast := Nat.getLast_digit_ne_zero 10 hzero
    have hlt := Nat.digits_lt_base (by omega : 1 < 10) (List.getLast_mem hne)
    have hhead : (decimal n).head? = some (48 + (Nat.digits 10 n).getLast hne) := by
      rw [decimal, if_neg hzero, List.head?_reverse, List.getLast?_map,
        List.getLast?_eq_some_getLast hne]
      rfl
    cases hcase : decimal n with
    | nil =>
      rw [hcase] at hhead
      cases hhead
    | cons c t =>
      rw [hcase] at hhead hall
      rw [List.head?_cons, Option.some.injEq] at hhead
      rw [List.all_cons, Bool.and_eq_true] at hall
      unfold isNatural
      split
      · rename_i heq
        cases heq
      · rfl
      · rename_i heq
        cases heq
        rw [hall.2, Bool.and_true, decide_eq_true_eq]
        omega

theorem unsigned_decimal (n : Nat) : unsigned (decimal n) = decimal n := by
  unfold unsigned
  split
  · rename_i t hsign
    have hdigit := decimal_digit (n := n) (c := 45) (by rw [hsign]; exact List.mem_cons_self)
    omega
  · rfl

theorem intValue_decimal (n : Nat) : intValue (decimal n) = n := by
  unfold intValue
  split
  · rename_i t hsign
    have hdigit := decimal_digit (n := n) (c := 45) (by rw [hsign]; exact List.mem_cons_self)
    omega
  · rw [natValue_decimal]

/-- The text of an integer is one token. -/
theorem intText_token (n : Int) :
    (intText n).all isTokenChar = true ∧ (intText n).any isMark = false := by
  rw [List.all_eq_true, List.any_eq_false]
  constructor
  · intro c hc
    rcases intText_char hc with hdigit | rfl
    · rw [isTokenChar, isDigit_iff.mpr hdigit]
      rfl
    · rfl
  · intro c hc hmark
    have hchar := intText_char hc
    simp only [isMark, decide_eq_true_eq, List.mem_cons, List.not_mem_nil, or_false] at hmark
    omega

/-- An integer is read back. -/
theorem readToken_int (n : Int) : readToken (intText n) = some (.int n) := by
  rw [readToken, (intText_token n).2, if_neg (by simp)]
  cases n with
  | ofNat n =>
    rw [intText, unsigned_decimal, if_pos (isNatural_decimal n), intValue_decimal]
    rfl
  | negSucc n =>
    have hvalue : intValue (45 :: decimal (n + 1)) = -(natValue (decimal (n + 1))) := rfl
    rw [intText, unsigned, if_pos (isNatural_decimal (n + 1)), hvalue, natValue_decimal]
    rfl

theorem FloatToken.token (f : FloatToken) :
    f.text.all isTokenChar = true ∧ f.text.any isMark = true := by
  have hvalid := f.valid
  simp only [isFloat, Bool.and_eq_true] at hvalid
  exact hvalid.1.1

/-- A float is read back. -/
theorem readToken_float (f : FloatToken) : readToken f.text = some (.float f) := by
  rw [readToken, f.token.2, if_pos rfl, dif_pos f.valid]

/-- What follows a value: no character of a number. -/
def Ends (r : List Nat) : Prop := ∀ c ∈ r.head?, isTokenChar c = false

theorem ends_cons {c : Nat} (r : List Nat) (h : isTokenChar c = false) : Ends (c :: r) := by
  simpa [Ends] using h

theorem takeWhile_token {t r : List Nat} (ht : t.all isTokenChar = true) (hr : Ends r) :
    (t ++ r).takeWhile isTokenChar = t ∧ (t ++ r).dropWhile isTokenChar = r := by
  rw [List.takeWhile_append_of_pos (List.all_eq_true.mp ht),
    List.dropWhile_append_of_pos (List.all_eq_true.mp ht)]
  cases r with
  | nil => simp
  | cons c r =>
    have hc : isTokenChar c = false := hr c (by simp)
    simp [hc]

/-- A token is read up to its end. -/
theorem readScalar_token {t r : List Nat} {v : Value} (ht : t.all isTokenChar = true)
    (hr : Ends r) (hv : readToken t = some v) : readScalar (t ++ r) = some (v, r) := by
  obtain ⟨htake, hdrop⟩ := takeWhile_token ht hr
  rw [readScalar, htake, hdrop, hv]

theorem readUnit_hexDigits (u : BitVec 16) :
    ∃ a b c d, hexDigits u.toNat 3 4 = [a, b, c, d] ∧ readUnit a b c d = some u := by
  have hread := readHex_digits (n := u.toNat) 4 3 0 (by omega)
  have hu := u.isLt
  match hdigits : hexDigits u.toNat 3 4 with
  | [a, b, c, d] =>
    refine ⟨a, b, c, d, rfl, ?_⟩
    rw [hdigits] at hread
    rw [readUnit, hread, Option.map_some, Option.some.injEq]
    apply BitVec.eq_of_toNat_eq
    simp only [BitVec.toNat_ofNat, Nat.reducePow] at hu ⊢
    omega
  | [] => simpa [hdigits] using length_hexDigits u.toNat 3 4
  | [_] => simpa [hdigits] using length_hexDigits u.toNat 3 4
  | [_, _] => simpa [hdigits] using length_hexDigits u.toNat 3 4
  | [_, _, _] => simpa [hdigits] using length_hexDigits u.toNat 3 4
  | _ :: _ :: _ :: _ :: _ :: _ => simpa [hdigits] using length_hexDigits u.toNat 3 4

theorem unescape_shortEscape {c letter : Nat} (h : shortEscape c = some letter) :
    unescape letter = some c := by
  have hall : ∀ p ∈ shortEscapes, unescape p.2 = some p.1 := by decide
  exact hall _ (shortEscape_mem h)

theorem escape_single {u : BitVec 16} (h : escape u = [u.toNat]) :
    32 ≤ u.toNat ∧ u.toNat ≤ 126 := by
  unfold escape at h
  split at h
  · simp at h
  · split at h
    · rename_i hprint
      exact hprint
    · simp at h

/-- Every escaped unit is read as that unit. -/
theorem readString_escape (u : BitVec 16) (s : List Nat) :
    readString (escape u ++ s) = (readString s).map fun p => (u :: p.1, p.2) := by
  obtain ⟨letter, hletter, hu⟩ | ⟨hquote, hslash, hu⟩ | hu := escape_cases u
  · have hne : letter ≠ 117 := shortEscape_letter hletter
    rw [hu, List.cons_append, List.cons_append, List.nil_append, readString]
    · rw [unescape_shortEscape hletter]
      cases readString s with
      | none => rfl
      | some p => simp
    · intro a b c d s' heq
      exact fun hsame => absurd heq hne
  · have hprint := escape_single hu
    have hunit : utf16 [u.toNat] = [u] := by
      have hsmall : u.toNat < 0x10000 := u.isLt
      rw [utf16, List.flatMap_singleton, if_pos hsmall, BitVec.ofNat_toNat, BitVec.setWidth_eq]
    rw [hu, List.cons_append, List.nil_append, readString]
    · rw [if_neg (by omega), hunit]
      rfl
    · exact fun h => hquote h
    · exact fun _ _ _ _ _ h => absurd h hslash
    · exact fun _ _ h => absurd h hslash
  · obtain ⟨a, b, c, d, hdigits, hunit⟩ := readUnit_hexDigits u
    rw [hu, hdigits]
    simp only [List.cons_append, List.nil_append]
    rw [readString, hunit]
    cases readString s with
    | none => rfl
    | some p => rfl

/-- A quoted string is read back, up to its closing quote. -/
theorem readString_quoted (s : Units) (r : List Nat) :
    readString (s.flatMap escape ++ 34 :: r) = some (s, r) := by
  induction s with
  | nil => rfl
  | cons u s ih =>
    rw [List.flatMap_cons, List.append_assoc, readString_escape, ih]
    rfl

theorem quoted_append (s : Units) (r : List Nat) :
    quoted s ++ r = 34 :: (s.flatMap escape ++ 34 :: r) := by
  simp [quoted]

theorem skip_cons {c : Nat} {s : List Nat} (h : isBlank c = false) : skip (c :: s) = c :: s := by
  rw [skip, List.dropWhile_cons, if_neg (by simp [h])]

section Read

variable {gap : List Nat}

theorem skip_gap (hgap : gap.all isBlank = true) (s : List Nat) : skip (gap ++ s) = skip s :=
  List.dropWhile_append_of_pos (List.all_eq_true.mp hgap)

/-- Blanks before a value are skipped. -/
theorem readValue_gap (hgap : gap.all isBlank = true) (fuel : Nat) (s : List Nat) :
    readValue fuel (gap ++ s) = readValue fuel s := by
  cases fuel with
  | zero => rfl
  | succ fuel => rw [readValue, readValue, skip_gap hgap]

theorem readField_gap (hgap : gap.all isBlank = true) (fuel : Nat) (s : List Nat) :
    readField fuel (gap ++ s) = readField fuel s := by
  cases fuel with
  | zero => rfl
  | succ fuel => rw [readField, readField, skip_gap hgap]

/-- A value that begins like none of the three structured ones. -/
theorem readValue_scalar {fuel c : Nat} {s : List Nat} (hblank : isBlank c = false)
    (hc : c ∉ [34, 91, 123]) : readValue (fuel + 1) (c :: s) = readScalar (c :: s) := by
  rw [readValue, skip_cons hblank]
  simp only [List.mem_cons, List.not_mem_nil, or_false, not_or] at hc
  split
  · rename_i heq
    exact absurd (List.cons.inj heq).1 hc.1
  · rename_i heq
    exact absurd (List.cons.inj heq).1 hc.2.1
  · rename_i heq
    exact absurd (List.cons.inj heq).1 hc.2.2
  · rfl

theorem readValue_token {fuel : Nat} {t r : List Nat} {v : Value} (hne : t ≠ [])
    (ht : t.all isTokenChar = true) (hr : Ends r) (hv : readToken t = some v) :
    readValue (fuel + 1) (t ++ r) = some (v, r) := by
  cases t with
  | nil => exact absurd rfl hne
  | cons c t =>
    have hc : isTokenChar c = true := List.all_eq_true.mp ht c List.mem_cons_self
    rw [← readScalar_token ht hr hv, List.cons_append]
    apply readValue_scalar
    · simp only [isTokenChar, isDigit, isBlank] at hc ⊢
      grind
    · simp only [isTokenChar, isDigit] at hc
      grind

theorem readScalar_literal {word r : List Nat} {v : Value} (h : (word, v) ∈ literals) :
    readScalar (word ++ r) = some (v, r) := by
  simp only [literals, List.mem_cons, List.not_mem_nil, or_false, Prod.mk.injEq] at h
  rcases h with ⟨rfl, rfl⟩ | ⟨rfl, rfl⟩ | ⟨rfl, rfl⟩ | ⟨rfl, rfl⟩ | ⟨rfl, rfl⟩ | ⟨rfl, rfl⟩ <;> rfl

theorem readValue_literal {fuel : Nat} {word r : List Nat} {v : Value} (h : (word, v) ∈ literals) :
    readValue (fuel + 1) (word ++ r) = some (v, r) := by
  have hstart : ∀ literal ∈ literals, ∃ c t, literal.1 = c :: t ∧ isBlank c = false ∧
      c ∉ [34, 91, 123] := by
    intro literal hmem
    simp only [literals, List.mem_cons, List.not_mem_nil, or_false] at hmem
    rcases hmem with rfl | rfl | rfl | rfl | rfl | rfl <;> exact ⟨_, _, rfl, by decide, by decide⟩
  obtain ⟨c, t, hword, hblank, hc⟩ := hstart _ h
  have hscalar := readScalar_literal (r := r) h
  simp only at hword
  rw [hword, List.cons_append] at hscalar ⊢
  rw [readValue_scalar hblank hc, hscalar]

/-- The text of a value begins with a character of its own. -/
theorem write_head (gap : List Nat) (v : Value) : ∃ c t, v.write gap = c :: t ∧ isBlank c = false ∧ c ≠ 93 := by
  have hnumber : ∀ t : List Nat, t ≠ [] → t.all isTokenChar = true →
      ∃ c s, t = c :: s ∧ isBlank c = false ∧ c ≠ 93 := by
    intro t hne ht
    cases t with
    | nil => exact absurd rfl hne
    | cons c t =>
      have hc : isTokenChar c = true := List.all_eq_true.mp ht c List.mem_cons_self
      refine ⟨c, t, rfl, ?_⟩
      simp only [isTokenChar, isDigit, isBlank] at hc ⊢
      grind
  cases v with
  | null => exact ⟨_, _, rfl, by decide, by decide⟩
  | bool b => cases b <;> exact ⟨_, _, rfl, by decide, by decide⟩
  | int n =>
    rw [Value.write]
    exact hnumber _ (intText_ne_nil n) (intText_token n).1
  | float f =>
    rw [Value.write]
    refine hnumber _ ?_ f.token.1
    intro hnil
    have hmark := f.token.2
    rw [hnil] at hmark
    cases hmark
  | constant c => cases c <;> exact ⟨_, _, rfl, by decide, by decide⟩
  | str s => exact ⟨34, _, by rw [Value.write, quoted]; rfl, by decide, by decide⟩
  | arr items =>
    cases items
    · exact ⟨91, _, by rw [Value.write], by decide, by decide⟩
    · exact ⟨91, _, by rw [Value.write], by decide, by decide⟩
  | obj fields =>
    cases fields
    · exact ⟨123, _, by rw [Value.write], by decide, by decide⟩
    · exact ⟨123, _, by rw [Value.write], by decide, by decide⟩

/-- A field is read back as soon as its value is. -/
theorem readField_write (hgap : gap.all isBlank = true) {fuel : Nat} (key : Units) {v : Value}
    {r : List Nat} (hv : readValue fuel (v.write gap ++ r) = some (v, r)) :
    readField (fuel + 1) (quoted key ++ 58 :: (gap ++ (v.write gap ++ r))) =
      some ((key, v), r) := by
  rw [quoted_append, readField, skip_cons (by decide)]
  simp only [readString_quoted, Option.bind_eq_bind, Option.bind_some]
  rw [skip_cons (by decide)]
  simp only [readValue_gap hgap, hv, Option.bind_some, Option.pure_def]

mutual

/-- Every value is read back from its text, whatever follows that ends a token. -/
theorem read_write (hgap : gap.all isBlank = true) (v : Value) {fuel : Nat} {r : List Nat}
    (h : (v.write gap).length ≤ fuel) (hr : Ends r) :
    readValue fuel (v.write gap ++ r) = some (v, r) := by
  obtain ⟨fuel, rfl⟩ : ∃ n, fuel = n + 1 := by
    obtain ⟨c, t, hwrite, -⟩ := write_head gap v
    rw [hwrite, List.length_cons] at h
    exact ⟨fuel - 1, by omega⟩
  match v with
  | .null => exact readValue_literal (by simp [literals, Value.write])
  | .bool true => exact readValue_literal (by simp [literals, Value.write])
  | .bool false => exact readValue_literal (by simp [literals, Value.write])
  | .constant .nan => exact readValue_literal (by simp [literals, Value.write, Constant.text])
  | .constant .infinity => exact readValue_literal (by simp [literals, Value.write, Constant.text])
  | .constant .negInfinity => exact readValue_literal (by simp [literals, Value.write, Constant.text])
  | .int n =>
    rw [Value.write]
    exact readValue_token (intText_ne_nil n) (intText_token n).1 hr (readToken_int n)
  | .float f =>
    rw [Value.write]
    refine readValue_token ?_ f.token.1 hr (readToken_float f)
    intro hnil
    have hmark := f.token.2
    rw [hnil] at hmark
    cases hmark
  | .str s =>
    rw [Value.write, quoted_append, readValue, skip_cons (by decide)]
    simp only [readString_quoted, Option.map_some]
  | .arr [] =>
    rw [Value.write, List.cons_append, readValue, skip_cons (by decide)]
    simp only [List.cons_append, List.nil_append]
    rw [skip_cons (by decide)]
    rfl
  | .arr (v :: rest) =>
    simp only [Value.write, List.length_cons, List.length_append] at h
    obtain ⟨c, t, hwrite, hblank, hbracket⟩ := write_head gap v
    have hfirst : readValue fuel (v.write gap ++ (writeItems gap rest ++ r)) =
        some (v, writeItems gap rest ++ r) :=
      read_write hgap v (by omega) (by cases rest <;> exact ends_cons _ (by decide))
    have hrest : readItems fuel (writeItems gap rest ++ r) = some (rest, r) :=
      read_items hgap rest (by omega)
    rw [Value.write, List.cons_append, List.append_assoc, readValue, skip_cons (by decide)]
    rw [hwrite, List.cons_append] at hfirst
    simp only [hwrite, List.cons_append]
    rw [skip_cons hblank]
    split
    · rename_i heq
      exact absurd (List.cons.inj heq).1 hbracket
    · simp only [hfirst, hrest, Option.bind_eq_bind, Option.bind_some, Option.pure_def]
  | .obj [] =>
    rw [Value.write, List.cons_append, readValue, skip_cons (by decide)]
    simp only [List.cons_append, List.nil_append]
    rw [skip_cons (by decide)]
    rfl
  | .obj ((key, v) :: rest) =>
    simp only [Value.write, List.length_cons, List.length_append] at h
    obtain ⟨fuel, rfl⟩ : ∃ n, fuel = n + 1 := ⟨fuel - 1, by omega⟩
    have hvalue : readValue fuel (v.write gap ++ (writeFields gap rest ++ r)) =
        some (v, writeFields gap rest ++ r) :=
      read_write hgap v (by omega) (by cases rest <;> exact ends_cons _ (by decide))
    have hfirst := readField_write hgap key hvalue
    have hrest : readFields (fuel + 1) (writeFields gap rest ++ r) = some (rest, r) :=
      read_fields hgap rest (by omega)
    rw [Value.write, List.cons_append, readValue, skip_cons (by decide)]
    simp only [List.append_assoc, List.cons_append]
    rw [quoted_append] at hfirst ⊢
    rw [skip_cons (by decide)]
    simp only [hfirst, hrest, Option.bind_eq_bind, Option.bind_some, Option.pure_def]

theorem read_items (hgap : gap.all isBlank = true) (vs : List Value) {fuel : Nat} {r : List Nat}
    (h : (writeItems gap vs).length ≤ fuel) :
    readItems fuel (writeItems gap vs ++ r) = some (vs, r) := by
  match fuel, vs with
  | 0, [] => simp [writeItems] at h
  | 0, v :: rest => simp [writeItems] at h
  | fuel + 1, [] =>
    rw [writeItems, List.cons_append, readItems, skip_cons (by decide)]
    rfl
  | fuel + 1, v :: rest =>
    simp only [writeItems, List.length_cons, List.length_append] at h
    have hfirst : readValue fuel (v.write gap ++ (writeItems gap rest ++ r)) =
        some (v, writeItems gap rest ++ r) :=
      read_write hgap v (by omega) (by cases rest <;> exact ends_cons _ (by decide))
    have hrest : readItems fuel (writeItems gap rest ++ r) = some (rest, r) :=
      read_items hgap rest (by omega)
    rw [writeItems, List.cons_append, readItems, skip_cons (by decide)]
    simp only [List.append_assoc, readValue_gap hgap, hfirst, hrest, Option.bind_eq_bind,
      Option.bind_some, Option.pure_def]

theorem read_fields (hgap : gap.all isBlank = true) (fields : List (Units × Value)) {fuel : Nat}
    {r : List Nat} (h : (writeFields gap fields).length ≤ fuel) :
    readFields fuel (writeFields gap fields ++ r) = some (fields, r) := by
  match fuel, fields with
  | 0, [] => simp [writeFields] at h
  | 0, (key, v) :: rest => simp [writeFields] at h
  | fuel + 1, [] =>
    rw [writeFields, List.cons_append, readFields, skip_cons (by decide)]
    rfl
  | fuel + 1, (key, v) :: rest =>
    simp only [writeFields, List.length_cons, List.length_append] at h
    obtain ⟨fuel, rfl⟩ : ∃ n, fuel = n + 1 := ⟨fuel - 1, by omega⟩
    have hvalue : readValue fuel (v.write gap ++ (writeFields gap rest ++ r)) =
        some (v, writeFields gap rest ++ r) :=
      read_write hgap v (by omega) (by cases rest <;> exact ends_cons _ (by decide))
    have hfirst := readField_write hgap key hvalue
    have hrest : readFields (fuel + 1) (writeFields gap rest ++ r) = some (rest, r) :=
      read_fields hgap rest (by omega)
    rw [writeFields, List.cons_append, readFields, skip_cons (by decide)]
    simp only [List.append_assoc, List.cons_append, readField_gap hgap, hfirst, hrest,
      Option.bind_eq_bind, Option.bind_some, Option.pure_def]

end

/-- What was written is read back, also with blanks behind it. -/
theorem readText_write (hgap : gap.all isBlank = true) (v : Value) {tail : List Nat}
    (htail : tail.all isBlank = true) : readText (v.write gap ++ tail) = some v := by
  have hends : Ends tail := by
    intro c hc
    have hblank := List.all_eq_true.mp htail c (List.mem_of_mem_head? hc)
    simp only [isBlank, isTokenChar, isDigit] at hblank ⊢
    grind
  have hskip : skip tail = [] := by
    rw [skip, List.dropWhile_eq_nil_iff]
    exact List.all_eq_true.mp htail
  have hlength : (v.write gap).length ≤ (v.write gap ++ tail).length + 1 := by
    rw [List.length_append]
    omega
  have hread := read_write hgap v hlength hends
  rw [readText, hread]
  simp only [hskip, if_true]

end Read

def Printable (t : List Nat) : Prop := ∀ c ∈ t, 32 ≤ c ∧ c ≤ 126

theorem printable_append {s t : List Nat} (hs : Printable s) (ht : Printable t) :
    Printable (s ++ t) := by
  intro c hc
  rcases List.mem_append.mp hc with h | h
  · exact hs c h
  · exact ht c h

theorem printable_cons {c : Nat} {t : List Nat} (hc : 32 ≤ c ∧ c ≤ 126) (ht : Printable t) :
    Printable (c :: t) := by
  intro x hx
  rcases List.mem_cons.mp hx with rfl | h
  · exact hc
  · exact ht x h

theorem printable_nil : Printable [] := fun _ h => nomatch h

theorem printable_token {t : List Nat} (h : t.all isTokenChar = true) : Printable t := by
  intro c hc
  have hchar := List.all_eq_true.mp h c hc
  simp only [isTokenChar, isDigit] at hchar
  grind

theorem printable_escape (u : BitVec 16) : Printable (escape u) := by
  obtain ⟨letter, hletter, hu⟩ | ⟨-, -, hu⟩ | hu := escape_cases u
  · have hletters : ∀ p ∈ shortEscapes, 32 ≤ p.2 ∧ p.2 ≤ 126 := by decide
    rw [hu]
    exact printable_cons (by omega) (printable_cons (hletters _ (shortEscape_mem hletter))
      printable_nil)
  · have hprint := escape_single hu
    rw [hu]
    exact printable_cons hprint printable_nil
  · have hdigits : Printable (hexDigits u.toNat 3 4) := by
      intro c hc
      have hdigit := UuidText.mem_hexDigits hc
      omega
    rw [hu]
    exact printable_cons (by omega) (printable_cons (by omega) hdigits)

theorem printable_quoted (s : Units) : Printable (quoted s) := by
  have hbody : Printable (s.flatMap escape) := by
    intro c hc
    obtain ⟨u, -, hu⟩ := List.mem_flatMap.mp hc
    exact printable_escape u c hu
  exact printable_append (printable_cons (by omega) hbody) (printable_cons (by omega) printable_nil)

section Printable

variable {gap : List Nat}

mutual

/-- What is written is printable. -/
theorem printable_write (hgap : Printable gap) : (v : Value) → Printable (v.write gap)
  | .null => by simp [Printable, Value.write, py]
  | .bool true => by simp [Printable, Value.write, py]
  | .bool false => by simp [Printable, Value.write, py]
  | .constant .nan => by simp [Printable, Value.write, Constant.text, py]
  | .constant .infinity => by simp [Printable, Value.write, Constant.text, py]
  | .constant .negInfinity => by simp [Printable, Value.write, Constant.text, py]
  | .int n => by
    rw [Value.write]
    exact printable_token (intText_token n).1
  | .float f => by
    rw [Value.write]
    exact printable_token f.token.1
  | .str s => by
    rw [Value.write]
    exact printable_quoted s
  | .arr [] => by simp [Printable, Value.write]
  | .arr (v :: rest) => by
    rw [Value.write]
    exact printable_cons (by omega)
      (printable_append (printable_write hgap v) (printable_items hgap rest))
  | .obj [] => by simp [Printable, Value.write]
  | .obj ((key, v) :: rest) => by
    rw [Value.write]
    apply printable_cons (by omega)
    apply printable_append (printable_quoted key)
    apply printable_cons (by omega)
    apply printable_append hgap
    exact printable_append (printable_write hgap v) (printable_fields hgap rest)

theorem printable_items (hgap : Printable gap) : (vs : List Value) → Printable (writeItems gap vs)
  | [] => by simp [Printable, writeItems]
  | v :: rest => by
    rw [writeItems]
    apply printable_cons (by omega)
    apply printable_append hgap
    exact printable_append (printable_write hgap v) (printable_items hgap rest)

theorem printable_fields (hgap : Printable gap) : (fields : List (Units × Value)) →
    Printable (writeFields gap fields)
  | [] => by simp [Printable, writeFields]
  | (key, v) :: rest => by
    rw [writeFields]
    apply printable_cons (by omega)
    apply printable_append hgap
    apply printable_append (printable_quoted key)
    apply printable_cons (by omega)
    apply printable_append hgap
    exact printable_append (printable_write hgap v) (printable_fields hgap rest)

end

end Printable

end WechatBot.JsonReader
