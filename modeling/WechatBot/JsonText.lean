import Mathlib.Data.Nat.Digits.Lemmas
import WechatBot.PyData

/-!
# Canonical JSON texts

A JSON document as it is written, and its compact ASCII text: separators without
blanks, every character outside printable ASCII escaped by its UTF-16 units. The text
determines the document. A number is the one kind of value that does not end with a
character of its own, so the statements carry the text that follows.
-/
namespace WechatBot.JsonText

open PyData (py hexDigits hexDigits_inj length_hexDigits)

abbrev Units := List (BitVec 16)

def isDigit (c : Nat) : Bool := 48 ≤ c && c ≤ 57

/-- The characters of a number. -/
def isNumberChar (c : Nat) : Bool :=
  (48 ≤ c && c ≤ 57) || c == 43 || c == 45 || c == 46 || c == 101

/-- A point or an exponent, which no integer has. -/
def isFloatMark (c : Nat) : Bool := c == 46 || c == 101

/-- A finite floating-point number, given by its decimal text. -/
structure FloatText where
  text : List Nat
  chars : text.all isNumberChar = true
  marked : text.any isFloatMark = true
  deriving DecidableEq

inductive Doc where
  | null
  | bool (b : Bool)
  | int (n : Int)
  | float (f : FloatText)
  | str (s : Units)
  | arr (items : List Doc)
  | obj (fields : List (Units × Doc))

def decimal (n : Nat) : List Nat :=
  if n = 0 then [48] else ((Nat.digits 10 n).map (48 + ·)).reverse

def intText : Int → List Nat
  | .ofNat n => decimal n
  | .negSucc n => 45 :: decimal (n + 1)

/-- The characters with a two-character escape, and its letter. -/
def shortEscapes : List (Nat × Nat) :=
  [(34, 34), (92, 92), (10, 110), (13, 114), (9, 116), (12, 102), (8, 98)]

def shortEscape (c : Nat) : Option Nat :=
  (shortEscapes.find? fun p => decide (p.1 = c)).map Prod.snd

def escape (u : BitVec 16) : List Nat :=
  match shortEscape u.toNat with
  | some letter => [92, letter]
  | none =>
    if 32 ≤ u.toNat ∧ u.toNat ≤ 126 then [u.toNat] else 92 :: 117 :: hexDigits u.toNat 3 4

def quoted (s : Units) : List Nat := 34 :: s.flatMap escape ++ [34]

mutual

def Doc.text : Doc → List Nat
  | .null => py "null"
  | .bool true => py "true"
  | .bool false => py "false"
  | .int n => intText n
  | .float f => f.text
  | .str s => quoted s
  | .arr [] => [91, 93]
  | .arr (d :: rest) => 91 :: (d.text ++ itemsText rest)
  | .obj [] => [123, 125]
  | .obj ((key, d) :: rest) => 123 :: (quoted key ++ 58 :: (d.text ++ fieldsText rest))

/-- The items after the first one, and the closing bracket. -/
def itemsText : List Doc → List Nat
  | [] => [93]
  | d :: rest => 44 :: (d.text ++ itemsText rest)

def fieldsText : List (Units × Doc) → List Nat
  | [] => [125]
  | (key, d) :: rest => 44 :: (quoted key ++ 58 :: (d.text ++ fieldsText rest))

end

theorem decimal_digit {n c : Nat} (h : c ∈ decimal n) : 48 ≤ c ∧ c ≤ 57 := by
  unfold decimal at h
  split at h
  · have hc : c = 48 := by simpa using h
    omega
  · simp only [List.mem_reverse, List.mem_map] at h
    obtain ⟨d, hd, rfl⟩ := h
    have hlt := Nat.digits_lt_base (by omega : 1 < 10) hd
    omega

theorem decimal_ne_nil (n : Nat) : decimal n ≠ [] := by
  unfold decimal
  split
  · simp
  · rename_i hn
    simpa [Nat.digits_eq_nil_iff_eq_zero] using hn

theorem decimal_inj {m n : Nat} (h : decimal m = decimal n) : m = n := by
  have hzero : ∀ k : Nat, k ≠ 0 → decimal k ≠ [48] := by
    intro k hk hk48
    have hdigits : (Nat.digits 10 k).map (48 + ·) = [48] := by
      simpa [decimal, hk] using congrArg List.reverse hk48
    have hone : Nat.digits 10 k = [0] := by
      cases hd : Nat.digits 10 k with
      | nil => simp [hd] at hdigits
      | cons d ds =>
        rw [hd] at hdigits
        simpa using hdigits
    have hvalue := Nat.ofDigits_digits 10 k
    rw [hone] at hvalue
    exact hk (by simpa using hvalue.symm)
  by_cases hm : m = 0
  · by_cases hn : n = 0
    · omega
    · exact absurd (by simpa [decimal, hm] using h.symm) (hzero n hn)
  · by_cases hn : n = 0
    · exact absurd (by simpa [decimal, hn] using h) (hzero m hm)
    · simp only [decimal, hm, hn, ↓reduceIte, List.reverse_inj] at h
      have hdigits := List.map_injective_iff.mpr (add_right_injective 48) h
      exact Nat.digits_inj_iff.mp hdigits

theorem intText_inj {m n : Int} (h : intText m = intText n) : m = n := by
  have hsign : ∀ a b : Nat, decimal a ≠ 45 :: decimal b := by
    intro a b hab
    have hdigit := @decimal_digit a 45 (by rw [hab]; exact List.mem_cons_self)
    omega
  cases m with
  | ofNat a =>
    cases n with
    | ofNat b => exact congrArg Int.ofNat (decimal_inj h)
    | negSucc b => exact absurd h (hsign a (b + 1))
  | negSucc a =>
    cases n with
    | ofNat b => exact absurd h.symm (hsign b (a + 1))
    | negSucc b =>
      have hab : a + 1 = b + 1 := decimal_inj (List.cons.inj h).2
      exact congrArg Int.negSucc (by omega)

theorem intText_char {n : Int} {c : Nat} (h : c ∈ intText n) : (48 ≤ c ∧ c ≤ 57) ∨ c = 45 := by
  cases n with
  | ofNat a => exact .inl (decimal_digit h)
  | negSucc a =>
    rcases List.mem_cons.mp h with rfl | hc
    · exact .inr rfl
    · exact .inl (decimal_digit hc)

theorem intText_chars (n : Int) : (intText n).all isNumberChar = true := by
  rw [List.all_eq_true]
  intro c hc
  have h := intText_char hc
  simp only [isNumberChar, Bool.or_eq_true, Bool.and_eq_true, decide_eq_true_eq, beq_iff_eq]
  omega

theorem intText_not_marked (n : Int) : (intText n).any isFloatMark = false := by
  rw [List.any_eq_false]
  intro c hc
  have h := intText_char hc
  simp only [isFloatMark, Bool.or_eq_true, beq_iff_eq]
  omega

theorem intText_ne_nil (n : Int) : intText n ≠ [] := by
  cases n with
  | ofNat a => exact decimal_ne_nil a
  | negSucc a => exact List.cons_ne_nil _ _

/-- What follows a value: nothing that could belong to a number. -/
def Boundary (r : List Nat) : Prop := ∀ c ∈ r.head?, isNumberChar c = false

theorem boundary_nil : Boundary [] := by simp [Boundary]

theorem boundary_cons {c : Nat} (r : List Nat) (h : isNumberChar c = false) : Boundary (c :: r) := by
  simpa [Boundary] using h

/-- A number ends where its characters end. -/
theorem number_inj {t t' r r' : List Nat} (ht : t.all isNumberChar = true)
    (ht' : t'.all isNumberChar = true) (hr : Boundary r) (hr' : Boundary r')
    (h : t ++ r = t' ++ r') : t = t' ∧ r = r' := by
  have htake : ∀ s q : List Nat, s.all isNumberChar = true → Boundary q →
      (s ++ q).takeWhile isNumberChar = s := by
    intro s q hs hq
    rw [List.takeWhile_append_of_pos (List.all_eq_true.mp hs)]
    cases q with
    | nil => simp
    | cons c q => simp [show isNumberChar c = false from hq c (by simp)]
  have htt : t = t' := by rw [← htake t r ht hr, h, htake t' r' ht' hr']
  subst htt
  exact ⟨rfl, List.append_cancel_left h⟩

theorem shortEscape_mem {c l : Nat} (h : shortEscape c = some l) : (c, l) ∈ shortEscapes := by
  obtain ⟨p, hp, rfl⟩ := Option.map_eq_some_iff.mp h
  have hc : p.1 = c := by simpa using List.find?_some hp
  exact hc ▸ List.mem_of_find?_eq_some hp

theorem shortEscape_inj {c c' l : Nat} (h : shortEscape c = some l) (h' : shortEscape c' = some l) :
    c = c' := by
  have hinj : ∀ p ∈ shortEscapes, ∀ q ∈ shortEscapes, p.2 = q.2 → p.1 = q.1 := by decide
  exact hinj _ (shortEscape_mem h) _ (shortEscape_mem h') rfl

theorem shortEscape_letter {c l : Nat} (h : shortEscape c = some l) : l ≠ 117 := by
  have hletters : ∀ p ∈ shortEscapes, p.2 ≠ 117 := by decide
  exact hletters _ (shortEscape_mem h)

theorem shortEscape_none {c : Nat} (h : shortEscape c = none) : c ≠ 34 ∧ c ≠ 92 := by
  constructor
  · rintro rfl
    cases h
  · rintro rfl
    cases h

/-- The three shapes of an escaped unit. -/
theorem escape_cases (u : BitVec 16) :
    (∃ l, shortEscape u.toNat = some l ∧ escape u = [92, l]) ∨
      (u.toNat ≠ 34 ∧ u.toNat ≠ 92 ∧ escape u = [u.toNat]) ∨
      escape u = 92 :: 117 :: hexDigits u.toNat 3 4 := by
  unfold escape
  cases hshort : shortEscape u.toNat with
  | some l => exact .inl ⟨l, rfl, rfl⟩
  | none =>
    obtain ⟨hquote, hslash⟩ := shortEscape_none hshort
    by_cases hprint : 32 ≤ u.toNat ∧ u.toNat ≤ 126
    · exact .inr (.inl ⟨hquote, hslash, by simp [hprint]⟩)
    · exact .inr (.inr (by simp [hprint]))

theorem unit_of_hexDigits {u v : BitVec 16} (h : hexDigits u.toNat 3 4 = hexDigits v.toNat 3 4) :
    u = v := by
  have hmod := hexDigits_inj 4 3 (by omega) h
  have hu := u.isLt
  have hv := v.isLt
  apply BitVec.eq_of_toNat_eq
  simp only [Nat.reduceAdd, Nat.reduceSub, Nat.reducePow, Nat.div_one] at hmod hu hv
  omega

theorem escape_inj {u v : BitVec 16} {x y : List Nat} (h : escape u ++ x = escape v ++ y) :
    u = v ∧ x = y := by
  obtain ⟨l, hl, hu⟩ | ⟨hq, hs, hu⟩ | hu := escape_cases u <;>
    obtain ⟨m, hm, hv⟩ | ⟨hq', hs', hv⟩ | hv := escape_cases v <;>
    rw [hu, hv] at h <;> simp only [List.cons_append, List.nil_append, List.cons.injEq] at h
  · have hsame : u.toNat = v.toNat := shortEscape_inj hl (h.2.1 ▸ hm)
    exact ⟨BitVec.eq_of_toNat_eq hsame, h.2.2⟩
  · omega
  · exact absurd h.2.1 (shortEscape_letter hl)
  · omega
  · exact ⟨BitVec.eq_of_toNat_eq h.1, h.2⟩
  · omega
  · exact absurd h.2.1.symm (shortEscape_letter hm)
  · omega
  · obtain ⟨hdigits, hrest⟩ := List.append_inj h.2.2 (by rw [length_hexDigits, length_hexDigits])
    exact ⟨unit_of_hexDigits hdigits, hrest⟩

/-- No escaped unit begins with the closing quote. -/
theorem escape_head (u : BitVec 16) : ∃ c t, escape u = c :: t ∧ c ≠ 34 := by
  obtain ⟨l, -, hu⟩ | ⟨hq, -, hu⟩ | hu := escape_cases u
  · exact ⟨92, _, hu, by omega⟩
  · exact ⟨_, _, hu, hq⟩
  · exact ⟨92, _, hu, by omega⟩

theorem quoted_inj {s s' : Units} {r r' : List Nat} (h : quoted s ++ r = quoted s' ++ r') :
    s = s' ∧ r = r' := by
  simp only [quoted, List.cons_append, List.append_assoc, List.nil_append, List.cons.injEq,
    true_and] at h
  induction s generalizing s' with
  | nil =>
    cases s' with
    | nil => simpa using h
    | cons v s' =>
      obtain ⟨c, t, hv, hc⟩ := escape_head v
      simp only [List.flatMap_nil, List.nil_append, List.flatMap_cons, hv, List.cons_append,
        List.cons.injEq] at h
      exact absurd h.1.symm hc
  | cons u s ih =>
    cases s' with
    | nil =>
      obtain ⟨c, t, hu, hc⟩ := escape_head u
      simp only [List.flatMap_nil, List.nil_append, List.flatMap_cons, hu, List.cons_append,
        List.cons.injEq] at h
      exact absurd h.1 hc
    | cons v s' =>
      simp only [List.flatMap_cons, List.append_assoc] at h
      obtain ⟨huv, hrest⟩ := escape_inj h
      obtain ⟨hs, hr⟩ := ih hrest
      exact ⟨by rw [huv, hs], hr⟩

/-- The kind of value that a first character announces. -/
def kindOf (c : Nat) : Nat :=
  if c = 110 then 0 else if c = 116 then 1 else if c = 102 then 2 else if c = 34 then 3
  else if c = 91 then 4 else if c = 123 then 5 else if isNumberChar c then 6 else 7

def Doc.kind : Doc → Nat
  | .null => 0
  | .bool true => 1
  | .bool false => 2
  | .str _ => 3
  | .arr _ => 4
  | .obj _ => 5
  | .int _ => 6
  | .float _ => 6

theorem kindOf_number {c : Nat} (h : isNumberChar c = true) : kindOf c = 6 := by
  have hcode := h
  simp only [isNumberChar, Bool.or_eq_true, Bool.and_eq_true, decide_eq_true_eq, beq_iff_eq] at hcode
  unfold kindOf
  rw [if_neg (by omega), if_neg (by omega), if_neg (by omega), if_neg (by omega),
    if_neg (by omega), if_neg (by omega), if_pos h]

theorem Doc.kind_lt (d : Doc) : d.kind < 7 := by
  cases d with
  | bool b => cases b <;> simp [Doc.kind]
  | _ => simp [Doc.kind]

theorem FloatText.ne_nil (f : FloatText) : f.text ≠ [] := by
  intro hnil
  have hmarked := f.marked
  rw [hnil] at hmarked
  cases hmarked

theorem kind_of_number {t : List Nat} (ht : t.all isNumberChar = true) (hne : t ≠ []) :
    ∃ c s, t = c :: s ∧ kindOf c = 6 := by
  cases t with
  | nil => exact absurd rfl hne
  | cons c s =>
    have hc : isNumberChar c = true := List.all_eq_true.mp ht c List.mem_cons_self
    exact ⟨c, s, rfl, kindOf_number hc⟩

theorem text_head (d : Doc) : ∃ c t, d.text = c :: t ∧ kindOf c = d.kind := by
  cases d with
  | null => exact ⟨110, _, rfl, rfl⟩
  | bool b =>
    cases b
    · exact ⟨102, _, rfl, rfl⟩
    · exact ⟨116, _, rfl, rfl⟩
  | int n => simpa only [Doc.text, Doc.kind] using kind_of_number (intText_chars n) (intText_ne_nil n)
  | float f => simpa only [Doc.text, Doc.kind] using kind_of_number f.chars f.ne_nil
  | str s => exact ⟨34, _, by rw [Doc.text, quoted]; rfl, rfl⟩
  | arr items =>
    cases items
    · exact ⟨91, _, by rw [Doc.text], rfl⟩
    · exact ⟨91, _, by rw [Doc.text], rfl⟩
  | obj fields =>
    cases fields
    · exact ⟨123, _, by rw [Doc.text], rfl⟩
    · exact ⟨123, _, by rw [Doc.text], rfl⟩

/-- No value begins with a closing bracket. -/
theorem text_ne_bracket (d : Doc) (x y : List Nat) : d.text ++ x ≠ 93 :: y := by
  intro h
  obtain ⟨c, t, hd, hc⟩ := text_head d
  rw [hd, List.cons_append, List.cons.injEq] at h
  have hlt := d.kind_lt
  rw [← hc, h.1] at hlt
  exact absurd hlt (by decide)

theorem kind_eq {d d' : Doc} {r r' : List Nat} (h : d.text ++ r = d'.text ++ r') :
    d.kind = d'.kind := by
  obtain ⟨c, t, hd, hc⟩ := text_head d
  obtain ⟨c', t', hd', hc'⟩ := text_head d'
  rw [hd, hd', List.cons_append, List.cons_append, List.cons.injEq] at h
  rw [← hc, ← hc', h.1]

theorem boundary_items (items : List Doc) (r : List Nat) : Boundary (itemsText items ++ r) := by
  cases items with
  | nil => exact boundary_cons _ (by decide)
  | cons d items =>
    rw [itemsText]
    exact boundary_cons _ (by decide)

theorem boundary_fields (fields : List (Units × Doc)) (r : List Nat) :
    Boundary (fieldsText fields ++ r) := by
  cases fields with
  | nil => exact boundary_cons _ (by decide)
  | cons field fields =>
    rw [fieldsText]
    exact boundary_cons _ (by decide)

/-- An integer and a float never have the same text. -/
theorem int_ne_float {n : Int} {f : FloatText} (h : intText n = f.text) : False := by
  have hmarked := f.marked
  rw [← h, intText_not_marked] at hmarked
  cases hmarked

mutual

/-- Where what follows ends a token, the text of a document tells the document and the rest. -/
theorem text_inj (d d' : Doc) {r r' : List Nat} (hr : Boundary r) (hr' : Boundary r')
    (h : d.text ++ r = d'.text ++ r') : d = d' ∧ r = r' := by
  have hkind := kind_eq h
  match d, d' with
  | .null, .null => exact ⟨rfl, List.append_cancel_left h⟩
  | .bool true, .bool true => exact ⟨rfl, List.append_cancel_left h⟩
  | .bool false, .bool false => exact ⟨rfl, List.append_cancel_left h⟩
  | .int n, .int n' =>
    obtain ⟨htext, hrest⟩ := number_inj (intText_chars n) (intText_chars n') hr hr'
      (by simpa only [Doc.text] using h)
    exact ⟨congrArg Doc.int (intText_inj htext), hrest⟩
  | .float f, .float f' =>
    obtain ⟨htext, hrest⟩ := number_inj f.chars f'.chars hr hr' (by simpa only [Doc.text] using h)
    cases f
    cases f'
    cases htext
    exact ⟨rfl, hrest⟩
  | .int n, .float f =>
    obtain ⟨htext, -⟩ := number_inj (intText_chars n) f.chars hr hr'
      (by simpa only [Doc.text] using h)
    exact absurd htext int_ne_float
  | .float f, .int n =>
    obtain ⟨htext, -⟩ := number_inj f.chars (intText_chars n) hr hr'
      (by simpa only [Doc.text] using h)
    exact absurd htext.symm int_ne_float
  | .str s, .str s' =>
    simp only [Doc.text] at h
    obtain ⟨hs, hrest⟩ := quoted_inj h
    exact ⟨congrArg Doc.str hs, hrest⟩
  | .arr [], .arr [] => exact ⟨rfl, by simpa [Doc.text] using h⟩
  | .arr [], .arr (e :: es) =>
    simp only [Doc.text, List.cons_append, List.append_assoc, List.cons.injEq, true_and] at h
    exact absurd h.symm (text_ne_bracket e _ _)
  | .arr (e :: es), .arr [] =>
    simp only [Doc.text, List.cons_append, List.append_assoc, List.cons.injEq, true_and] at h
    exact absurd h (text_ne_bracket e _ _)
  | .arr (e :: es), .arr (e' :: es') =>
    simp only [Doc.text, List.cons_append, List.append_assoc, List.cons.injEq, true_and] at h
    obtain ⟨he, hrest⟩ := text_inj e e' (boundary_items es r) (boundary_items es' r') h
    obtain ⟨hes, hr⟩ := itemsText_inj es es' hrest
    exact ⟨by rw [he, hes], hr⟩
  | .obj [], .obj [] => exact ⟨rfl, by simpa [Doc.text] using h⟩
  | .obj [], .obj ((key, e) :: es) =>
    simp [Doc.text, quoted] at h
  | .obj ((key, e) :: es), .obj [] =>
    simp [Doc.text, quoted] at h
  | .obj ((key, e) :: es), .obj ((key', e') :: es') =>
    simp only [Doc.text, List.cons_append, List.append_assoc, List.cons.injEq, true_and] at h
    obtain ⟨hkey, hvalue⟩ := quoted_inj h
    simp only [List.cons.injEq, true_and] at hvalue
    obtain ⟨he, hrest⟩ := text_inj e e' (boundary_fields es r) (boundary_fields es' r') hvalue
    obtain ⟨hes, hr⟩ := fieldsText_inj es es' hrest
    exact ⟨by rw [hkey, he, hes], hr⟩

theorem itemsText_inj (es es' : List Doc) {r r' : List Nat}
    (h : itemsText es ++ r = itemsText es' ++ r') : es = es' ∧ r = r' := by
  match es, es' with
  | [], [] => exact ⟨rfl, by simpa [itemsText] using h⟩
  | [], e :: es => simp [itemsText] at h
  | e :: es, [] => simp [itemsText] at h
  | e :: es, e' :: es' =>
    simp only [itemsText, List.cons_append, List.append_assoc, List.cons.injEq, true_and] at h
    obtain ⟨he, hrest⟩ := text_inj e e' (boundary_items es r) (boundary_items es' r') h
    obtain ⟨hes, hr⟩ := itemsText_inj es es' hrest
    exact ⟨by rw [he, hes], hr⟩

theorem fieldsText_inj (es es' : List (Units × Doc)) {r r' : List Nat}
    (h : fieldsText es ++ r = fieldsText es' ++ r') : es = es' ∧ r = r' := by
  match es, es' with
  | [], [] => exact ⟨rfl, by simpa [fieldsText] using h⟩
  | [], (key, e) :: es => simp [fieldsText] at h
  | (key, e) :: es, [] => simp [fieldsText] at h
  | (key, e) :: es, (key', e') :: es' =>
    simp only [fieldsText, List.cons_append, List.append_assoc, List.cons.injEq, true_and] at h
    obtain ⟨hkey, hvalue⟩ := quoted_inj h
    simp only [List.cons.injEq, true_and] at hvalue
    obtain ⟨he, hrest⟩ := text_inj e e' (boundary_fields es r) (boundary_fields es' r') hvalue
    obtain ⟨hes, hr⟩ := fieldsText_inj es es' hrest
    exact ⟨by rw [hkey, he, hes], hr⟩

end

/-- A document is determined by its text. -/
theorem text_injective : Function.Injective Doc.text := by
  intro d d' h
  exact (text_inj d d' boundary_nil boundary_nil (by rw [h])).1

def Ascii (t : List Nat) : Prop := ∀ c ∈ t, c < 128

theorem ascii_append {s t : List Nat} (hs : Ascii s) (ht : Ascii t) : Ascii (s ++ t) := by
  intro c hc
  rcases List.mem_append.mp hc with h | h
  · exact hs c h
  · exact ht c h

theorem ascii_cons {c : Nat} {t : List Nat} (hc : c < 128) (ht : Ascii t) : Ascii (c :: t) := by
  intro x hx
  rcases List.mem_cons.mp hx with rfl | h
  · exact hc
  · exact ht x h

theorem ascii_number {t : List Nat} (h : t.all isNumberChar = true) : Ascii t := by
  intro c hc
  have hchar : isNumberChar c = true := List.all_eq_true.mp h c hc
  simp only [isNumberChar, Bool.or_eq_true, Bool.and_eq_true, decide_eq_true_eq, beq_iff_eq] at hchar
  omega

theorem ascii_hexDigits (n count : Nat) : ∀ start, Ascii (hexDigits n start count) := by
  induction count with
  | zero => exact fun start c hc => nomatch hc
  | succ count ih =>
    intro start
    have hdigit : PyData.hexDigit (n / 16 ^ start % 16) < 128 := by
      have hlt : n / 16 ^ start % 16 < 16 := Nat.mod_lt _ (by omega)
      unfold PyData.hexDigit
      split <;> omega
    exact ascii_cons hdigit (ih (start - 1))

theorem ascii_escape (u : BitVec 16) : Ascii (escape u) := by
  unfold escape
  split
  · rename_i l hl
    have hletters : ∀ p ∈ shortEscapes, p.2 < 128 := by decide
    exact ascii_cons (by omega) (ascii_cons (hletters _ (shortEscape_mem hl)) (by simp [Ascii]))
  · split
    · rename_i hprint
      exact ascii_cons (by omega) (by simp [Ascii])
    · exact ascii_cons (by omega) (ascii_cons (by omega) (ascii_hexDigits _ 4 3))

theorem ascii_quoted (s : Units) : Ascii (quoted s) := by
  have hbody : Ascii (s.flatMap escape) := by
    intro c hc
    obtain ⟨u, -, hu⟩ := List.mem_flatMap.mp hc
    exact ascii_escape u c hu
  exact ascii_append (ascii_cons (by omega) hbody) (ascii_cons (by omega) (by simp [Ascii]))

mutual

/-- The text of every document is ASCII. -/
theorem ascii_text : (d : Doc) → Ascii d.text
  | .null => by simp [Ascii, Doc.text, py]
  | .bool true => by simp [Ascii, Doc.text, py]
  | .bool false => by simp [Ascii, Doc.text, py]
  | .int n => by simpa only [Doc.text] using ascii_number (intText_chars n)
  | .float f => by simpa only [Doc.text] using ascii_number f.chars
  | .str s => by simpa only [Doc.text] using ascii_quoted s
  | .arr [] => by simp [Ascii, Doc.text]
  | .arr (d :: rest) => by
    simp only [Doc.text]
    exact ascii_cons (by omega) (ascii_append (ascii_text d) (ascii_itemsText rest))
  | .obj [] => by simp [Ascii, Doc.text]
  | .obj ((key, d) :: rest) => by
    simp only [Doc.text]
    apply ascii_cons (by omega)
    apply ascii_append (ascii_quoted key)
    exact ascii_cons (by omega) (ascii_append (ascii_text d) (ascii_fieldsText rest))

theorem ascii_itemsText : (items : List Doc) → Ascii (itemsText items)
  | [] => by simp [Ascii, itemsText]
  | d :: rest => by
    simp only [itemsText]
    exact ascii_cons (by omega) (ascii_append (ascii_text d) (ascii_itemsText rest))

theorem ascii_fieldsText : (fields : List (Units × Doc)) → Ascii (fieldsText fields)
  | [] => by simp [Ascii, fieldsText]
  | (key, d) :: rest => by
    simp only [fieldsText]
    apply ascii_cons (by omega)
    apply ascii_append (ascii_quoted key)
    exact ascii_cons (by omega) (ascii_append (ascii_text d) (ascii_fieldsText rest))

end

theorem length_escape_le (u : BitVec 16) : (escape u).length ≤ 6 := by
  unfold escape
  split
  · simp
  · split <;> simp [length_hexDigits]

/-- A quoted string has at most six characters for each unit. -/
theorem length_quoted_le (s : Units) : (quoted s).length ≤ 6 * s.length + 2 := by
  have hbody : (s.flatMap escape).length ≤ 6 * s.length := by
    induction s with
    | nil => simp
    | cons u s ih =>
      have hu := length_escape_le u
      simp only [List.flatMap_cons, List.length_append, List.length_cons]
      omega
  simp only [quoted, List.length_append, List.length_cons, List.length_nil]
  omega

theorem length_decimal_le {n k : Nat} (h : n < 10 ^ k) (hk : 0 < k) : (decimal n).length ≤ k := by
  unfold decimal
  split
  · exact hk
  · rw [List.length_reverse, List.length_map]
    exact (Nat.digits_length_le_iff (by omega) n).mpr h

/-- What one field adds to the text of an object, its separator included. -/
def fieldSize (field : Units × Doc) : Nat := (quoted field.1).length + field.2.text.length + 2

theorem length_fieldsText (fields : List (Units × Doc)) :
    (fieldsText fields).length = (fields.map fieldSize).sum + 1 := by
  induction fields with
  | nil => rfl
  | cons field fields ih =>
    simp only [fieldsText, List.length_cons, List.length_append, ih, List.map_cons, List.sum_cons,
      fieldSize]
    omega

theorem length_objText_le (fields : List (Units × Doc)) :
    (Doc.obj fields).text.length ≤ (fields.map fieldSize).sum + 2 := by
  cases fields with
  | nil => simp [Doc.text]
  | cons field fields =>
    simp only [Doc.text, List.length_cons, List.length_append, length_fieldsText, List.map_cons,
      List.sum_cons, fieldSize]
    omega

/-- The UTF-16 units of a string of code points; a lone surrogate is its own unit. -/
def utf16 (s : List Nat) : Units :=
  s.flatMap fun c =>
    if c < 0x10000 then [BitVec.ofNat 16 c]
    else [BitVec.ofNat 16 (0xD800 + (c - 0x10000) / 0x400), BitVec.ofNat 16 (0xDC00 + (c - 0x10000) % 0x400)]

/-- A character has at most two units. -/
theorem length_utf16_le (s : List Nat) : (utf16 s).length ≤ 2 * s.length := by
  induction s with
  | nil => simp [utf16]
  | cons c s ih =>
    simp only [utf16, List.flatMap_cons, List.length_append, List.length_cons] at ih ⊢
    split <;> simp only [List.length_cons, List.length_nil] <;> omega

def isHigh (u : BitVec 16) : Bool := 0xD800 ≤ u.toNat && u.toNat < 0xDC00

def isLow (u : BitVec 16) : Bool := 0xDC00 ≤ u.toNat && u.toNat < 0xE000

/-- The code points of the units: a high and a low surrogate in a row are one. -/
def codePoints : Units → List Nat
  | [] => []
  | [u] => [u.toNat]
  | u :: v :: rest =>
    if isHigh u && isLow v then
      (0x10000 + (u.toNat - 0xD800) * 0x400 + (v.toNat - 0xDC00)) :: codePoints rest
    else u.toNat :: codePoints (v :: rest)

end WechatBot.JsonText
