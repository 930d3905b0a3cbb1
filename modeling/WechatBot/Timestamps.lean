import Mathlib.Tactic.NormNum
import WechatBot.PyData

/-!
# The text of a time

`datetime.isoformat` of a time in UTC, with the calendar that `datetime` computes the date by.
The text determines the time.
-/
namespace WechatBot.Timestamps

open PyData

/-- `_days_before_month` of a leap year or of another year. -/
def daysBeforeMonth (leap : Bool) (month : Nat) : Nat :=
  [0, 0, 31, 59, 90, 120, 151, 181, 212, 243, 273, 304, 334].getD month 0 +
    if 2 < month ∧ leap = true then 1 else 0

/-- The month and the day of the month, from the day of the year that counts from 0. -/
def monthDay (leap : Bool) (n : Nat) : Nat × Nat :=
  let month := (n + 50) / 32
  let month := if n < daysBeforeMonth leap month then month - 1 else month
  (month, n - daysBeforeMonth leap month + 1)

/-- `_ord2ymd`: the date of a day that counts from 0001-01-01 as day 1. -/
def ord2ymd (ordinal : Nat) : Nat × Nat × Nat :=
  let n := ordinal - 1
  let n400 := n / 146097
  let n := n % 146097
  let n100 := n / 36524
  let n := n % 36524
  let n4 := n / 1461
  let n := n % 1461
  let n1 := n / 365
  let n := n % 365
  let year := n400 * 400 + 1 + n100 * 100 + n4 * 4 + n1
  if n1 = 4 ∨ n100 = 4 then (year - 1, 12, 31)
  else
    let leap := decide (n1 = 3 ∧ (n4 ≠ 24 ∨ n100 = 3))
    (year, monthDay leap n)

example : ord2ymd 719163 = (1970, 1, 1) := by decide

example : ord2ymd 730179 = (2000, 2, 29) := by decide

def isLeap (year : Nat) : Bool := decide (year % 4 = 0 ∧ (year % 100 ≠ 0 ∨ year % 400 = 0))

/-- `_ymd2ord`. -/
def ymd2ord (date : Nat × Nat × Nat) : Nat :=
  let y := date.1 - 1
  y * 365 + y / 4 - y / 100 + y / 400 + daysBeforeMonth (isLeap date.1) date.2.1 + date.2.2

theorem monthDay_spec : ∀ leap : Bool, ∀ n < 365,
    daysBeforeMonth leap (monthDay leap n).1 + (monthDay leap n).2 = n + 1 ∧
      (monthDay leap n).1 < 100 ∧ (monthDay leap n).2 < 100 := by
  decide +kernel

/-- The days of `y` whole years, for `y` split as the cycles of the calendar do. -/
theorem days_of_years {a b c d : Nat} (hb : b < 4) (hc : c < 25) (hd : d < 4) :
    (a * 400 + b * 100 + c * 4 + d) * 365 + (a * 400 + b * 100 + c * 4 + d) / 4 -
        (a * 400 + b * 100 + c * 4 + d) / 100 + (a * 400 + b * 100 + c * 4 + d) / 400 =
      a * 146097 + b * 36524 + c * 1461 + d * 365 := by
  omega

theorem leap_of_cycles {a b c d : Nat} (hb : b < 4) (hc : c < 25) (hd : d < 4) :
    isLeap (a * 400 + 1 + b * 100 + c * 4 + d) = decide (d = 3 ∧ (c ≠ 24 ∨ b = 3)) := by
  simp only [isLeap, decide_eq_decide]
  omega

/-- The date of the day that follows `a`, `b`, `c` and `d` whole cycles and `r` days. -/
theorem ymd2ord_cycles {a b c d r : Nat} (hb : b < 4) (hc : c < 25) (hd : d < 4) (hr : r < 365) :
    ymd2ord (a * 400 + 1 + b * 100 + c * 4 + d, monthDay (decide (d = 3 ∧ (c ≠ 24 ∨ b = 3))) r) =
      a * 146097 + b * 36524 + c * 1461 + d * 365 + r + 1 := by
  obtain ⟨hmonth, -, -⟩ := monthDay_spec (decide (d = 3 ∧ (c ≠ 24 ∨ b = 3))) r hr
  have hyears : a * 400 + 1 + b * 100 + c * 4 + d - 1 = a * 400 + b * 100 + c * 4 + d := by omega
  have hdays := @days_of_years a b c d hb hc hd
  simp only [ymd2ord, leap_of_cycles hb hc hd, hyears, hdays]
  omega

/-- The last day of a cycle of 4 or of 400 years is the end of its last year. -/
theorem ymd2ord_last {a b c : Nat} (hb : b < 4) (hc : c < 25) (hleap : c ≠ 24 ∨ b = 3) :
    ymd2ord (a * 400 + b * 100 + c * 4 + 4, 12, 31) =
      a * 146097 + b * 36524 + c * 1461 + 1461 := by
  have hyear : isLeap (a * 400 + b * 100 + c * 4 + 4) = true := by
    have hcycles := @leap_of_cycles a b c 3 hb hc (by omega)
    have hsame : a * 400 + 1 + b * 100 + c * 4 + 3 = a * 400 + b * 100 + c * 4 + 4 := by omega
    rw [hsame] at hcycles
    simpa [hleap] using hcycles
  have hyears : a * 400 + b * 100 + c * 4 + 4 - 1 = a * 400 + b * 100 + c * 4 + 3 := by omega
  have hdays := @days_of_years a b c 3 hb hc (by omega)
  have hdecember : daysBeforeMonth true 12 = 335 := by decide
  simp only [ymd2ord, hyear, hyears, hdays, hdecember]

theorem ymd2ord_ord2ymd {n : Nat} (h : 1 ≤ n) : ymd2ord (ord2ymd n) = n := by
  obtain ⟨a, ha⟩ : ∃ a, a = (n - 1) / 146097 := ⟨_, rfl⟩
  obtain ⟨b, hb⟩ : ∃ b, b = (n - 1) % 146097 / 36524 := ⟨_, rfl⟩
  obtain ⟨c, hc⟩ : ∃ c, c = (n - 1) % 146097 % 36524 / 1461 := ⟨_, rfl⟩
  obtain ⟨d, hd⟩ : ∃ d, d = (n - 1) % 146097 % 36524 % 1461 / 365 := ⟨_, rfl⟩
  obtain ⟨r, hr⟩ : ∃ r, r = (n - 1) % 146097 % 36524 % 1461 % 365 := ⟨_, rfl⟩
  simp only [ord2ymd, ← ha, ← hb, ← hc, ← hd, ← hr]
  split
  · rename_i hlast
    rcases hlast with hd4 | hb4
    · have hyear : a * 400 + 1 + b * 100 + c * 4 + d - 1 = a * 400 + b * 100 + c * 4 + 4 := by omega
      rw [hyear, ymd2ord_last (by omega) (by omega) (by omega)]
      omega
    · have hyear : a * 400 + 1 + b * 100 + c * 4 + d - 1 = a * 400 + 3 * 100 + 24 * 4 + 4 := by omega
      rw [hyear, @ymd2ord_last a 3 24 (by omega) (by omega) (by omega)]
      omega
  · rename_i hyear
    rw [ymd2ord_cycles (by omega) (by omega) (by omega) (by omega)]
    omega

theorem ord2ymd_inj {m n : Nat} (hm : 1 ≤ m) (hn : 1 ≤ n) (h : ord2ymd m = ord2ymd n) : m = n := by
  rw [← ymd2ord_ord2ymd hm, ← ymd2ord_ord2ymd hn, h]

/-- The last day of `datetime`, 9999-12-31. -/
def maxOrdinal : Nat := 3652059

theorem ord2ymd_bounds {n : Nat} (h : n ≤ maxOrdinal) :
    (ord2ymd n).1 < 10000 ∧ (ord2ymd n).2.1 < 100 ∧ (ord2ymd n).2.2 < 100 := by
  unfold maxOrdinal at h
  obtain ⟨hmonth, hday⟩ := (monthDay_spec (decide ((n - 1) % 146097 % 36524 % 1461 / 365 = 3 ∧
    ((n - 1) % 146097 % 36524 / 1461 ≠ 24 ∨ (n - 1) % 146097 / 36524 = 3)))
    ((n - 1) % 146097 % 36524 % 1461 % 365) (Nat.mod_lt _ (by omega))).2
  unfold ord2ymd
  dsimp only
  split
  · refine ⟨?_, by norm_num, by norm_num⟩
    omega
  · exact ⟨by omega, hmonth, hday⟩

def digits : Nat → Nat → Str
  | 0, _ => []
  | width + 1, n => digits width (n / 10) ++ [48 + n % 10]

theorem length_digits (width n : Nat) : (digits width n).length = width := by
  induction width generalizing n with
  | zero => rfl
  | succ width ih => simp [digits, ih]

theorem digits_inj {width m n : Nat} (hm : m < 10 ^ width) (hn : n < 10 ^ width)
    (h : digits width m = digits width n) : m = n := by
  induction width generalizing m n with
  | zero => omega
  | succ width ih =>
    obtain ⟨hinit, hlast⟩ := List.append_inj h (by rw [length_digits, length_digits])
    have hhigh : m / 10 = n / 10 := by
      apply ih _ _ hinit
      · rw [Nat.div_lt_iff_lt_mul (by omega)]
        rwa [Nat.pow_succ] at hm
      · rw [Nat.div_lt_iff_lt_mul (by omega)]
        rwa [Nat.pow_succ] at hn
    have hlow : 48 + m % 10 = 48 + n % 10 := by simpa using hlast
    omega

/-- A number of fixed width and what follows it. -/
theorem digits_append {width m n : Nat} {r r' : Str} (hm : m < 10 ^ width) (hn : n < 10 ^ width)
    (h : digits width m ++ r = digits width n ++ r') : m = n ∧ r = r' := by
  obtain ⟨hdigits, hrest⟩ := List.append_inj h (by rw [length_digits, length_digits])
  exact ⟨digits_inj hm hn hdigits, hrest⟩

def dateText (date : Nat × Nat × Nat) : Str :=
  digits 4 date.1 ++ 45 :: (digits 2 date.2.1 ++ 45 :: digits 2 date.2.2)

/-- The time of the day, in microseconds; the fraction is left out when it is zero. -/
def timeText (n : Nat) : Str :=
  digits 2 (n / 3600000000) ++ 58 :: (digits 2 (n / 60000000 % 60) ++
    58 :: (digits 2 (n / 1000000 % 60) ++
      if n % 1000000 = 0 then [] else 46 :: digits 6 (n % 1000000)))

def dayLength : Int := 86400000000

/-- `value.isoformat()` of a time in UTC, in microseconds from 1970-01-01. -/
def isoformat (value : Int) : Str :=
  dateText (ord2ymd (value / dayLength + 719163).toNat) ++
    84 :: (timeText (value % dayLength).toNat ++ py "+00:00")

example : isoformat 1700000000000000 = py "2023-11-14T22:13:20+00:00" := by decide

/-- The range of `datetime`. -/
def InRange (value : Int) : Prop :=
  1 ≤ value / dayLength + 719163 ∧ value / dayLength + 719163 ≤ maxOrdinal

instance (value : Int) : Decidable (InRange value) := inferInstanceAs (Decidable (_ ∧ _))

theorem dateText_append {a b : Nat × Nat × Nat} {r r' : Str} (ha : a.1 < 10000 ∧ a.2.1 < 100 ∧ a.2.2 < 100)
    (hb : b.1 < 10000 ∧ b.2.1 < 100 ∧ b.2.2 < 100) (h : dateText a ++ r = dateText b ++ r') :
    a = b ∧ r = r' := by
  simp only [dateText, List.append_assoc, List.cons_append] at h
  obtain ⟨hyear, h⟩ := digits_append ha.1 hb.1 h
  obtain ⟨hmonth, h⟩ := digits_append ha.2.1 hb.2.1 (List.cons.inj h).2
  obtain ⟨hday, h⟩ := digits_append ha.2.2 hb.2.2 (List.cons.inj h).2
  exact ⟨Prod.ext hyear (Prod.ext hmonth hday), h⟩

theorem timeText_append {m n : Nat} (hm : m < 86400000000) (hn : n < 86400000000)
    (h : timeText m ++ py "+00:00" = timeText n ++ py "+00:00") : m = n := by
  simp only [timeText, List.append_assoc, List.cons_append] at h
  obtain ⟨hhour, h⟩ := digits_append (by norm_num; omega) (by norm_num; omega) h
  obtain ⟨hminute, h⟩ := digits_append (by norm_num; omega) (by norm_num; omega) (List.cons.inj h).2
  obtain ⟨hsecond, h⟩ := digits_append (by norm_num; omega) (by norm_num; omega) (List.cons.inj h).2
  have hfraction : m % 1000000 = n % 1000000 := by
    have hplus : py "+00:00" = 43 :: py "00:00" := by decide
    rw [hplus] at h
    split at h <;> split at h
    · omega
    · exact absurd (List.cons.inj h).1 (by decide)
    · exact absurd (List.cons.inj h).1 (by decide)
    · simp only [List.cons_append, List.cons.injEq, true_and] at h
      exact (digits_append (by norm_num; omega) (by norm_num; omega) h).1
  omega

/-- The text of a time begins with a digit. -/
theorem isoformat_ne_sign (value : Int) (s : Str) : isoformat value ≠ 43 :: s := by
  intro h
  have hhead : 48 + (ord2ymd (value / dayLength + 719163).toNat).1 / 10 / 10 / 10 % 10 = 43 := by
    simp only [isoformat, dateText, digits, List.nil_append, List.cons_append] at h
    exact (List.cons.inj h).1
  omega

theorem isoformat_injOn {x y : Int} (hx : InRange x) (hy : InRange y)
    (h : isoformat x = isoformat y) : x = y := by
  have hxday := Int.emod_nonneg x (show dayLength ≠ 0 by decide)
  have hyday := Int.emod_nonneg y (show dayLength ≠ 0 by decide)
  have hxlt := Int.emod_lt_of_pos x (show 0 < dayLength by decide)
  have hylt := Int.emod_lt_of_pos y (show 0 < dayLength by decide)
  have hmax : (maxOrdinal : Int) = 3652059 := rfl
  unfold isoformat at h
  unfold InRange at hx hy
  unfold dayLength at *
  obtain ⟨hdate, hrest⟩ := dateText_append (ord2ymd_bounds (by omega)) (ord2ymd_bounds (by omega)) h
  have hday := ord2ymd_inj (by omega) (by omega) hdate
  have htime := timeText_append (by omega) (by omega) (List.cons.inj hrest).2
  omega

theorem length_isoformat_le (value : Int) : (isoformat value).length ≤ 40 := by
  simp only [isoformat, dateText, timeText, List.length_append, List.length_cons, length_digits]
  split <;> simp [py, length_digits]

end WechatBot.Timestamps
