import Mathlib.Tactic.Ring
import WechatBot.PyData

/-!
# Texts of identifiers

`uuid.UUID` of a text: a URN prefix, braces and hyphens are optional, and 32 hexadecimal
digits are left. It reads back what `str` of a UUID writes.
-/
namespace WechatBot.UuidText

open PyData

/-- `str.replace(old, "")`; the second number counts the characters of a match that are
still to be skipped. -/
def without (old : Str) : Str → Nat → Str
  | [], _ => []
  | _ :: s, skip + 1 => without old s skip
  | c :: s, 0 =>
    if old.isPrefixOf (c :: s) then without old s (old.length - 1) else c :: without old s 0

def isBrace (c : Nat) : Bool := c = 123 ∨ c = 125

def hexValue (c : Nat) : Option Nat :=
  if 48 ≤ c ∧ c ≤ 57 then some (c - 48)
  else if 97 ≤ c ∧ c ≤ 102 then some (c - 87)
  else if 65 ≤ c ∧ c ≤ 70 then some (c - 55)
  else none

def readHex : Nat → Str → Option Nat
  | n, [] => some n
  | n, c :: s => (hexValue c).bind fun digit => readHex (n * 16 + digit) s

/-- `UUID(value)`; `none` for a ValueError. -/
def uuidOf (value : Str) : Option UUID :=
  let bare := without (py "uuid:") (without (py "urn:") value 0) 0
  let digits := ((bare.dropWhile isBrace).rdropWhile isBrace).filter fun c => c ≠ 45
  if digits.length = 32 then (readHex 0 digits).map (BitVec.ofNat 128) else none

theorem hexValue_hexDigit {d : Nat} (h : d < 16) : hexValue (hexDigit d) = some d := by
  unfold hexValue hexDigit
  split
  · rw [if_pos (by omega)]
    congr 1
    omega
  · rw [if_neg (by omega), if_pos (by omega)]
    congr 1
    omega

theorem readHex_digits {n : Nat} (count : Nat) : ∀ start acc, count ≤ start + 1 →
    readHex acc (hexDigits n start count) =
      some (acc * 16 ^ count + n / 16 ^ (start + 1 - count) % 16 ^ count) := by
  induction count with
  | zero =>
    intro start acc _
    simp [hexDigits, readHex, Nat.mod_one]
  | succ count ih =>
    intro start acc hle
    have hdigit : n / 16 ^ start % 16 < 16 := Nat.mod_lt _ (by omega)
    rw [hexDigits, readHex, hexValue_hexDigit hdigit, Option.bind_some]
    rcases Nat.eq_zero_or_pos count with hzero | hpos
    · subst hzero
      simp [hexDigits, readHex]
    · rw [ih (start - 1) _ (by omega)]
      have hexp : start - 1 + 1 - count = start + 1 - (count + 1) := by omega
      have hsplit : n / 16 ^ (start + 1 - (count + 1)) % 16 ^ (count + 1) =
          n / 16 ^ (start + 1 - (count + 1)) % 16 ^ count + 16 ^ count * (n / 16 ^ start % 16) := by
        rw [Nat.pow_succ, Nat.mod_mul, Nat.div_div_eq_div_mul, ← Nat.pow_add]
        have he : start + 1 - (count + 1) + count = start := by omega
        rw [he]
      rw [hexp, hsplit]
      congr 1
      ring

theorem hexDigits_append (n : Nat) (a b : Nat) : ∀ start, a ≤ start →
    hexDigits n start a ++ hexDigits n (start - a) b = hexDigits n start (a + b) := by
  induction a with
  | zero =>
    intro start _
    simp [hexDigits]
  | succ a ih =>
    intro start hle
    rw [Nat.succ_add, hexDigits, hexDigits, List.cons_append, ← ih (start - 1) (by omega)]
    have he : start - 1 - a = start - (a + 1) := by omega
    rw [he]

theorem hexDigit_range (d : Nat) (h : d < 16) :
    48 ≤ hexDigit d ∧ hexDigit d ≤ 57 ∨ 97 ≤ hexDigit d ∧ hexDigit d ≤ 102 := by
  unfold hexDigit
  split <;> omega

theorem mem_hexDigits {n c count : Nat} : ∀ {start}, c ∈ hexDigits n start count →
    48 ≤ c ∧ c ≤ 57 ∨ 97 ≤ c ∧ c ≤ 102 := by
  induction count with
  | zero =>
    intro start h
    cases h
  | succ count ih =>
    intro start h
    rcases List.mem_cons.mp h with rfl | h
    · exact hexDigit_range _ (Nat.mod_lt _ (by omega))
    · exact ih h

theorem mem_uuidStr {u : UUID} {c : Nat} (h : c ∈ uuidStr u) :
    c = 45 ∨ 48 ≤ c ∧ c ≤ 57 ∨ 97 ≤ c ∧ c ≤ 102 := by
  simp only [uuidStr, List.mem_append, List.mem_cons] at h
  rcases h with (((h | rfl | h) | rfl | h) | rfl | h) | rfl | h
  · exact .inr (mem_hexDigits h)
  · exact .inl rfl
  · exact .inr (mem_hexDigits h)
  · exact .inl rfl
  · exact .inr (mem_hexDigits h)
  · exact .inl rfl
  · exact .inr (mem_hexDigits h)
  · exact .inl rfl
  · exact .inr (mem_hexDigits h)

/-- Nothing is removed that is not there. -/
theorem without_absent {old : Str} {c : Nat} (hc : c ∈ old) {s : Str} (hs : c ∉ s) :
    without old s 0 = s := by
  induction s with
  | nil => rfl
  | cons d s ih =>
    have hno : old.isPrefixOf (d :: s) = false := by
      cases hprefix : old.isPrefixOf (d :: s) with
      | false => rfl
      | true => exact absurd ((List.isPrefixOf_iff_prefix.mp hprefix).subset hc) hs
    rw [without, hno, if_neg (by simp), ih (fun h => hs (List.mem_cons_of_mem _ h))]

theorem dropBraces {s : Str} (h : ∀ c ∈ s, isBrace c = false) :
    (s.dropWhile isBrace).rdropWhile isBrace = s := by
  have hfront : s.dropWhile isBrace = s := by
    cases s with
    | nil => rfl
    | cons c s => simp [List.dropWhile, h c List.mem_cons_self]
  rw [hfront, List.rdropWhile_eq_self_iff]
  intro hne
  simp [h _ (List.getLast_mem hne)]

theorem filter_digits (n start count : Nat) :
    (hexDigits n start count).filter (fun c => decide (c ≠ 45)) = hexDigits n start count := by
  rw [List.filter_eq_self]
  intro c hc
  have hrange := mem_hexDigits hc
  simp only [ne_eq, decide_not, Bool.not_eq_eq_eq_not, Bool.not_true, decide_eq_false_iff_not]
  omega

theorem filter_uuidStr (u : UUID) :
    (uuidStr u).filter (fun c => decide (c ≠ 45)) = hexDigits u.toNat 31 32 := by
  simp only [uuidStr, List.filter_append, List.filter_cons, filter_digits, ne_eq, not_true_eq_false,
    decide_false, Bool.false_eq_true, if_false]
  have h₁ := hexDigits_append u.toNat 8 4 31 (by omega)
  have h₂ := hexDigits_append u.toNat 12 4 31 (by omega)
  have h₃ := hexDigits_append u.toNat 16 4 31 (by omega)
  have h₄ := hexDigits_append u.toNat 20 12 31 (by omega)
  simp only [Nat.reduceAdd, Nat.reduceSub] at h₁ h₂ h₃ h₄
  rw [h₁, h₂, h₃, h₄]

theorem uuidOf_uuidStr (u : UUID) : uuidOf (uuidStr u) = some u := by
  have hcolon : 58 ∉ uuidStr u := by
    intro h
    have hrange := mem_uuidStr h
    omega
  have hbraces : ∀ c ∈ uuidStr u, isBrace c = false := by
    intro c hc
    have hrange := mem_uuidStr hc
    simp only [isBrace, decide_eq_false_iff_not]
    omega
  have hvalue : readHex 0 (hexDigits u.toNat 31 32) = some u.toNat := by
    rw [readHex_digits 32 31 0 (by omega)]
    have hu : u.toNat / 16 ^ 0 < 16 ^ 32 := by
      rw [Nat.pow_zero, Nat.div_one]
      exact u.isLt
    rw [Nat.mod_eq_of_lt hu, Nat.zero_mul, Nat.zero_add, Nat.pow_zero, Nat.div_one]
  simp only [uuidOf]
  rw [without_absent (c := 58) (by decide) hcolon, without_absent (c := 58) (by decide) hcolon,
    dropBraces hbraces, filter_uuidStr, length_hexDigits, if_pos rfl, hvalue, Option.map_some,
    BitVec.ofNat_toNat]
  simp

end WechatBot.UuidText
