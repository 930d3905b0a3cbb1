import Mathlib.Logic.Function.Basic
import Mathlib.Data.List.Basic

/-!
# Encodings that end by themselves

An encoding is self-delimiting when the encoded value and what follows it can be told
apart. Such encodings may be written one after the other.
-/
namespace WechatBot.PrefixCodes

variable {α β σ : Type*}

def SelfDelimiting (f : α → List σ) : Prop := ∀ a b r r', f a ++ r = f b ++ r' → a = b ∧ r = r'

variable {f : α → List σ} {g : β → List σ}

theorem SelfDelimiting.injective (hf : SelfDelimiting f) : Function.Injective f := by
  intro a b h
  exact (hf a b [] [] (by rw [h])).1

theorem SelfDelimiting.comap (hf : SelfDelimiting f) {h : β → α} (hinj : Function.Injective h) :
    SelfDelimiting fun b => f (h b) := by
  intro a b r r' heq
  obtain ⟨hab, hr⟩ := hf _ _ r r' heq
  exact ⟨hinj hab, hr⟩

/-- A text before the value. -/
theorem SelfDelimiting.after (hf : SelfDelimiting f) (label : List σ) :
    SelfDelimiting fun a => label ++ f a := by
  intro a b r r' h
  simp only [List.append_assoc] at h
  exact hf a b r r' (List.append_cancel_left h)

/-- A text behind the value. -/
theorem SelfDelimiting.before (hf : SelfDelimiting f) (label : List σ) :
    SelfDelimiting fun a => f a ++ label := by
  intro a b r r' h
  simp only [List.append_assoc] at h
  obtain ⟨hab, hr⟩ := hf a b _ _ h
  exact ⟨hab, List.append_cancel_left hr⟩

theorem SelfDelimiting.append (hf : SelfDelimiting f) (hg : SelfDelimiting g) :
    SelfDelimiting fun x : α × β => f x.1 ++ g x.2 := by
  rintro ⟨a, b⟩ ⟨a', b'⟩ r r' h
  simp only [List.append_assoc] at h
  obtain ⟨rfl, hrest⟩ := hf a a' _ _ h
  obtain ⟨rfl, hr⟩ := hg b b' r r' hrest
  exact ⟨rfl, hr⟩

/-- A word of bounded length behind its length, written in `width` symbols. -/
theorem counted_delimits {code : Nat → List σ} {width bound : Nat}
    (hwidth : ∀ n, (code n).length = width)
    (hinj : ∀ m n, m < bound → n < bound → code m = code n → m = n) :
    SelfDelimiting fun word : {word : List σ // word.length < bound} =>
      code word.1.length ++ word.1 := by
  rintro ⟨a, ha⟩ ⟨b, hb⟩ r r' h
  simp only [List.append_assoc] at h
  obtain ⟨hcode, hrest⟩ := List.append_inj h (by rw [hwidth, hwidth])
  have hlength : a.length = b.length := hinj _ _ ha hb hcode
  obtain ⟨rfl, hr⟩ := List.append_inj hrest hlength
  exact ⟨rfl, hr⟩

/-- Encoded values, none of them empty, can be written one after the other without a mark
at the end. -/
theorem SelfDelimiting.flatMap_injective (hf : SelfDelimiting f) (hne : ∀ a, f a ≠ []) :
    Function.Injective fun l : List α => l.flatMap f := by
  intro l
  induction l with
  | nil =>
    intro l' h
    cases l' with
    | nil => rfl
    | cons b l' =>
      have hnil := h.symm
      simp only [List.flatMap_cons, List.flatMap_nil, List.append_eq_nil_iff] at hnil
      exact absurd hnil.1 (hne b)
  | cons a l ih =>
    intro l' h
    cases l' with
    | nil =>
      simp only [List.flatMap_cons, List.flatMap_nil, List.append_eq_nil_iff] at h
      exact absurd h.1 (hne a)
    | cons b l' =>
      simp only [List.flatMap_cons] at h
      obtain ⟨rfl, hrest⟩ := hf a b _ _ h
      rw [ih hrest]

/-- The encoded values do not begin with `mark`. -/
def NeverStarts (f : α → List σ) (mark : σ) : Prop := ∀ a, ∃ c t, f a = c :: t ∧ c ≠ mark

/-- A word for the missing value, told apart by its first character. -/
def optionCode (missing : List σ) (f : α → List σ) : Option α → List σ
  | none => missing
  | some a => f a

theorem SelfDelimiting.option (hf : SelfDelimiting f) {mark : σ} (rest : List σ)
    (hstart : NeverStarts f mark) : SelfDelimiting (optionCode (mark :: rest) f) := by
  have hmissing : ∀ a r r', mark :: rest ++ r ≠ f a ++ r' := by
    intro a r r' h
    obtain ⟨c, t, hc, hne⟩ := hstart a
    rw [hc, List.cons_append, List.cons_append, List.cons.injEq] at h
    exact hne h.1.symm
  intro a b r r' h
  cases a with
  | none =>
    cases b with
    | none => exact ⟨rfl, List.append_cancel_left h⟩
    | some b => exact absurd h (hmissing b r r')
  | some a =>
    cases b with
    | none => exact absurd h.symm (hmissing a r' r)
    | some b =>
      obtain ⟨hab, hr⟩ := hf a b r r' h
      exact ⟨congrArg some hab, hr⟩

/-- The values one after the other, and a mark that none of them begins with. -/
def endedBy (mark : σ) (f : α → List σ) (l : List α) : List σ := l.flatMap f ++ [mark]

theorem endedBy_delimits (hf : SelfDelimiting f) {mark : σ} (hstart : NeverStarts f mark) :
    SelfDelimiting (endedBy mark f) := by
  have hend : ∀ a l r r', mark :: r ≠ f a ++ (l ++ r') := by
    intro a l r r' h
    obtain ⟨c, t, hc, hne⟩ := hstart a
    rw [hc, List.cons_append, List.cons.injEq] at h
    exact hne h.1.symm
  intro l l' r r' h
  simp only [endedBy, List.append_assoc, List.cons_append, List.nil_append] at h
  induction l generalizing l' with
  | nil =>
    cases l' with
    | nil => simpa using h
    | cons b l' => exact absurd (by simpa using h) (hend b (l'.flatMap f) r (mark :: r'))
  | cons a l ih =>
    cases l' with
    | nil => exact absurd (by simpa using h.symm) (hend a (l.flatMap f) r' (mark :: r))
    | cons b l' =>
      simp only [List.flatMap_cons, List.append_assoc] at h
      obtain ⟨rfl, hrest⟩ := hf a b _ _ h
      obtain ⟨rfl, hr⟩ := ih l' hrest
      exact ⟨rfl, hr⟩

/-- A list with a mark between its values and one behind the last. -/
def separatedBy (mark final : σ) (f : α → List σ) : List α → List σ
  | [] => [final]
  | [a] => f a ++ [final]
  | a :: b :: rest => f a ++ mark :: separatedBy mark final f (b :: rest)

theorem separatedBy_delimits (hf : SelfDelimiting f) {mark final : σ} (hmark : mark ≠ final)
    (hstart : NeverStarts f final) : SelfDelimiting (separatedBy mark final f) := by
  have hend : ∀ a l r r', final :: r ≠ f a ++ l ++ r' := by
    intro a l r r' h
    obtain ⟨c, t, hc, hne⟩ := hstart a
    rw [hc, List.cons_append, List.cons_append, List.cons.injEq] at h
    exact hne h.1.symm
  intro l
  induction l with
  | nil =>
    intro l' r r' h
    cases l' with
    | nil => simpa [separatedBy] using h
    | cons b l' =>
      cases l' with
      | nil => exact absurd h (hend b [final] r r')
      | cons c l' => exact absurd h (hend b (mark :: separatedBy mark final f (c :: l')) r r')
  | cons a l ih =>
    intro l' r r' h
    cases l' with
    | nil =>
      cases l with
      | nil => exact absurd h.symm (hend a [final] r' r)
      | cons c l => exact absurd h.symm (hend a (mark :: separatedBy mark final f (c :: l)) r' r)
    | cons b l' =>
      cases l with
      | nil =>
        cases l' with
        | nil =>
          simp only [separatedBy, List.append_assoc] at h
          obtain ⟨rfl, hrest⟩ := hf a b _ _ h
          simpa using hrest
        | cons c l' =>
          simp only [separatedBy, List.append_assoc] at h
          obtain ⟨-, hrest⟩ := hf a b _ _ h
          exact absurd (List.cons.inj hrest).1.symm hmark
      | cons d l =>
        cases l' with
        | nil =>
          simp only [separatedBy, List.append_assoc] at h
          obtain ⟨-, hrest⟩ := hf a b _ _ h
          exact absurd (List.cons.inj hrest).1 hmark
        | cons c l' =>
          simp only [separatedBy, List.append_assoc, List.cons_append] at h
          obtain ⟨rfl, hrest⟩ := hf a b _ _ h
          obtain ⟨htail, hr⟩ := ih (c :: l') r r' (List.cons.inj hrest).2
          exact ⟨by rw [htail], hr⟩

end WechatBot.PrefixCodes
