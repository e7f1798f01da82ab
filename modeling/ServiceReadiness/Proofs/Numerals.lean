/-
# Which texts are numerals

A numeral is one ASCII digit or more, with one `+` allowed in front, and its number is the
one that its digits spell in base ten.  The reader goes from left to right and keeps the
number of the digits so far, so it takes a whole run of digits at once if their number keeps
to the bound (`readDigits_append`), and it stops within a run whose number does not
(`readDigits_of_lt`).

Every text is a run of digits and then nothing or a character that is none.  So there are
four outcomes and no more: a number, a character that is no digit, a number that is too
large, and nothing at all (`spells_or_faulty`).  What the reader says of a text is therefore
what the text is (`read_eq_ok_iff`, `read_eq_error_iff`).  A number with a sign is read back
from its own numeral (`readSigned_renderSigned`).
-/

import Mathlib.Data.List.Basic
import Mathlib.Data.List.TakeDrop
import Mathlib.Data.List.TakeWhile
import ServiceReadiness.Text.Numeral

namespace ServiceReadiness

/-! ### Runs of a class -/

/-- Characters of a class, before something that does not begin with another of them, are what
the class takes away. -/
theorem span_append_of_head {p : Char → Bool} {front rest : List Char}
    (hfront : ∀ c ∈ front, p c = true) (hrest : ∀ c ∈ rest.head?, p c = false) :
    (front ++ rest).span p = (front, rest) := by
  rw [List.span_eq_takeWhile_dropWhile, List.takeWhile_append_of_pos hfront,
    List.dropWhile_append_of_pos hfront]
  cases rest with
  | nil => simp
  | cons c rest => simp [hrest c rfl]

theorem dropWhile_append_of_head {p : Char → Bool} {front rest : List Char}
    (hfront : ∀ c ∈ front, p c = true) (hrest : ∀ c ∈ rest.head?, p c = false) :
    (front ++ rest).dropWhile p = rest := by
  have hspan := span_append_of_head hfront hrest
  rw [List.span_eq_takeWhile_dropWhile] at hspan
  exact congrArg Prod.snd hspan

namespace Numeral

/-! ### Digits -/

/-- A text of ASCII digits. -/
def AreDigits (cs : List Char) : Prop := ∀ c ∈ cs, c.isDigit = true

/-- The number that digits spell when they follow those of `acc`. -/
def value (acc : Nat) (cs : List Char) : Nat := Nat.ofDigitChars 10 cs acc

theorem value_cons (acc : Nat) (c : Char) (cs : List Char) :
    value acc (c :: cs) = value (acc * 10 + (c.toNat - 48)) cs := by
  rw [Nat.mul_comm]
  exact Nat.ofDigitChars_cons

/-- More digits spell no smaller number. -/
theorem le_value (acc : Nat) (cs : List Char) : acc ≤ value acc cs := by
  induction cs generalizing acc with
  | nil => exact Nat.le_refl acc
  | cons c cs ih =>
    rw [value_cons]
    exact Nat.le_trans (by omega) (ih _)

theorem digitValue?_of_isDigit {c : Char} (h : c.isDigit = true) :
    digitValue? c = some (c.toNat - 48) := by
  rw [Char.isDigit, Bool.and_eq_true, decide_eq_true_eq, decide_eq_true_eq] at h
  exact if_pos h

theorem digitValue?_of_not_isDigit {c : Char} (h : ¬ c.isDigit = true) : digitValue? c = none := by
  rw [Char.isDigit, Bool.and_eq_true, decide_eq_true_eq, decide_eq_true_eq] at h
  exact if_neg h

/-- The numeral of a number has digits alone. -/
theorem areDigits_digits (n : Nat) : AreDigits (digits n) := by
  intro c hc
  obtain ⟨d, hd⟩ := isDigit_of_mem_digits hc
  by_contra hdigit
  rw [digitValue?_of_not_isDigit hdigit] at hd
  cases hd

/-- Only the numeral of zero begins with a zero. -/
theorem head?_digits_ne_zero {n : Nat} (h : n ≠ 0) : (digits n).head? ≠ some '0' := by
  fun_induction digits n with
  | case1 n hn =>
    revert h
    revert n
    decide
  | case2 n hn ih =>
    rw [List.head?_append_of_ne_nil _ (digits_ne_nil _)]
    exact ih (by omega)

variable {bound acc : Nat} {digits rest : List Char}

/-- **A run of digits is taken at once** if its number keeps to the bound. -/
theorem readDigits_append (hdigits : AreDigits digits) (hbound : value acc digits ≤ bound)
    (rest : List Char) :
    readDigits bound acc (digits ++ rest) = readDigits bound (value acc digits) rest := by
  induction digits generalizing acc with
  | nil => rfl
  | cons c digits ih =>
    obtain ⟨hc, hdigits⟩ := List.forall_mem_cons.1 hdigits
    rw [value_cons] at hbound ⊢
    have hle := Nat.le_trans (le_value _ digits) hbound
    rw [List.cons_append, readDigits, digitValue?_of_isDigit hc]
    simp only [hle, if_true]
    exact ih hdigits hbound

/-- **A run of digits whose number passes the bound is too large,** whatever follows it. -/
theorem readDigits_of_lt (hacc : acc ≤ bound) (hdigits : AreDigits digits)
    (hbound : bound < value acc digits) (rest : List Char) :
    readDigits bound acc (digits ++ rest) = .error .tooLarge := by
  induction digits generalizing acc with
  | nil => exact absurd hbound (Nat.not_lt.2 hacc)
  | cons c digits ih =>
    obtain ⟨hc, hdigits⟩ := List.forall_mem_cons.1 hdigits
    rw [value_cons] at hbound
    rw [List.cons_append, readDigits, digitValue?_of_isDigit hc]
    by_cases hle : acc * 10 + (c.toNat - 48) ≤ bound
    · simp only [hle, if_true]
      exact ih hle hdigits hbound
    · simp only [hle, if_false]

/-- A character that is no digit stops the reader. -/
theorem readDigits_cons_of_not_isDigit {c : Char} (h : ¬ c.isDigit = true) (rest : List Char) :
    readDigits bound acc (c :: rest) = .error .invalidDigit := by
  rw [readDigits, digitValue?_of_not_isDigit h]

/-- Every text is a run of digits, and then nothing or a character that is none. -/
theorem exists_digits_append (cs : List Char) :
    ∃ digits rest, cs = digits ++ rest ∧ AreDigits digits ∧
      (rest = [] ∨ ∃ c more, rest = c :: more ∧ ¬ c.isDigit = true) := by
  refine ⟨cs.takeWhile Char.isDigit, cs.dropWhile Char.isDigit,
    List.takeWhile_append_dropWhile.symm, fun c hc => List.mem_takeWhile_imp hc, ?_⟩
  cases h : cs.dropWhile Char.isDigit with
  | nil => exact .inl rfl
  | cons c more =>
    have hhead := List.head_dropWhile_not Char.isDigit (l := cs) (by simp [h])
    simp only [h, List.head_cons] at hhead
    exact .inr ⟨c, more, rfl, by simp [hhead]⟩

/-- **Digits alone are read as their number.** -/
theorem readDigits_eq_ok_iff {cs : List Char} {n : Nat} :
    readDigits bound 0 cs = .ok n ↔
      AreDigits cs ∧ value 0 cs = n ∧ n ≤ bound := by
  constructor
  · intro h
    obtain ⟨digits, rest, rfl, hdigits, hrest⟩ := exists_digits_append cs
    by_cases hle : value 0 digits ≤ bound
    · rw [readDigits_append hdigits hle] at h
      rcases hrest with rfl | ⟨c, more, rfl, hc⟩
      · obtain rfl := Except.ok.inj h
        rw [List.append_nil]
        exact ⟨hdigits, rfl, hle⟩
      · rw [readDigits_cons_of_not_isDigit hc] at h
        cases h
    · rw [readDigits_of_lt (Nat.zero_le bound) hdigits (Nat.not_le.1 hle)] at h
      cases h
  · rintro ⟨hdigits, rfl, hle⟩
    have h := readDigits_append hdigits hle []
    rwa [List.append_nil] at h

/-! ### Numerals -/

/-- A text without one `+` in front. -/
def unsigned : List Char → List Char
  | '+' :: rest => rest
  | cs => cs

/-- A text spells a number: one digit or more, after one `+` or none. -/
def Spells (cs : List Char) (n : Nat) : Prop :=
  unsigned cs ≠ [] ∧ AreDigits (unsigned cs) ∧ value 0 (unsigned cs) = n

/-- What keeps a text from spelling a number up to a bound. -/
inductive Faulty (bound : Nat) (cs : List Char) : Fault → Prop
  | empty : cs = [] → Faulty bound cs .empty
  /-- There is a sign and nothing more. -/
  | bare : cs ≠ [] → unsigned cs = [] → Faulty bound cs .invalidDigit
  /-- The first character that is no digit comes while the number keeps to the bound. -/
  | invalidDigit (digits : List Char) (c : Char) (rest : List Char) :
      unsigned cs = digits ++ c :: rest → AreDigits digits → ¬ c.isDigit = true →
      value 0 digits ≤ bound → Faulty bound cs .invalidDigit
  /-- The number of the first digits passes the bound. -/
  | tooLarge (digits rest : List Char) :
      unsigned cs = digits ++ rest → AreDigits digits → bound < value 0 digits →
      Faulty bound cs .tooLarge

/-- A text with something after its sign is read by its digits. -/
theorem read_eq_readDigits {cs : List Char} (h : unsigned cs ≠ []) :
    read bound cs = readDigits bound 0 (unsigned cs) := by
  match cs with
  | [] => exact absurd rfl h
  | c :: rest =>
    by_cases hc : c = '+'
    · subst hc
      cases rest with
      | nil => exact absurd rfl h
      | cons d more => rfl
    · simp [read, unsigned, hc]

theorem read_of_spells {cs : List Char} {n : Nat} (h : Spells cs n) (hbound : n ≤ bound) :
    read bound cs = .ok n := by
  obtain ⟨hne, hdigits, rfl⟩ := h
  rw [read_eq_readDigits hne, ← List.append_nil (unsigned cs), readDigits_append hdigits hbound,
    List.append_nil, readDigits]

theorem read_of_faulty {cs : List Char} {f : Fault} (h : Faulty bound cs f) :
    read bound cs = .error f := by
  cases h with
  | empty hnil =>
    subst hnil
    rfl
  | bare hne hbare =>
    match cs with
    | [] => exact absurd rfl hne
    | c :: rest =>
      by_cases hc : c = '+'
      · subst hc
        obtain rfl : rest = [] := hbare
        rfl
      · simp [unsigned, hc] at hbare
  | invalidDigit digits c rest heq hdigits hc hbound =>
    rw [read_eq_readDigits (by simp [heq]), heq, readDigits_append hdigits hbound]
    exact readDigits_cons_of_not_isDigit hc rest
  | tooLarge digits rest heq hdigits hbound =>
    have hne : digits ≠ [] := by
      rintro rfl
      exact absurd hbound (Nat.not_lt_zero bound)
    rw [read_eq_readDigits (by simp [heq, hne]), heq]
    exact readDigits_of_lt (Nat.zero_le bound) hdigits hbound rest

/-- **Every text spells a number within the bound or has a fault.** -/
theorem spells_or_faulty (bound : Nat) (cs : List Char) :
    (∃ n, Spells cs n ∧ n ≤ bound) ∨ ∃ f, Faulty bound cs f := by
  by_cases hnil : cs = []
  · exact .inr ⟨.empty, .empty hnil⟩
  by_cases hbare : unsigned cs = []
  · exact .inr ⟨.invalidDigit, .bare hnil hbare⟩
  obtain ⟨digits, rest, heq, hdigits, hrest⟩ := exists_digits_append (unsigned cs)
  rcases Nat.lt_or_ge bound (value 0 digits) with hlt | hle
  · exact .inr ⟨.tooLarge, .tooLarge digits rest heq hdigits hlt⟩
  · rcases hrest with rfl | ⟨c, more, rfl, hc⟩
    · rw [List.append_nil] at heq
      exact .inl ⟨value 0 digits, ⟨hbare, heq ▸ hdigits, heq ▸ rfl⟩, hle⟩
    · exact .inr ⟨.invalidDigit, .invalidDigit digits c more heq hdigits hc hle⟩

/-- **The reader finds a number exactly where there is one.** -/
theorem read_eq_ok_iff {cs : List Char} {n : Nat} :
    read bound cs = .ok n ↔ Spells cs n ∧ n ≤ bound := by
  constructor
  · intro h
    rcases spells_or_faulty bound cs with ⟨m, hm, hle⟩ | ⟨f, hf⟩
    · obtain rfl := Except.ok.inj (h.symm.trans (read_of_spells hm hle))
      exact ⟨hm, hle⟩
    · exact absurd (h.symm.trans (read_of_faulty hf)) nofun
  · exact fun ⟨hn, hle⟩ => read_of_spells hn hle

/-- **The reader finds the fault that there is.** -/
theorem read_eq_error_iff {cs : List Char} {f : Fault} :
    read bound cs = .error f ↔ Faulty bound cs f := by
  constructor
  · intro h
    rcases spells_or_faulty bound cs with ⟨m, hm, hle⟩ | ⟨f', hf⟩
    · exact absurd (h.symm.trans (read_of_spells hm hle)) nofun
    · obtain rfl := Except.error.inj (h.symm.trans (read_of_faulty hf))
      exact hf
  · exact read_of_faulty

/-! ### Numbers with a sign -/

/-- **A number with a sign is read back from its own numeral.** -/
theorem readSigned_renderSigned {i : Int} (hlow : -((bound : Int) + 1) ≤ i) (hhigh : i ≤ bound) :
    readSigned bound (renderSigned i).toList = .ok i := by
  cases i with
  | ofNat n =>
    have hminus : ∀ rest, Numeral.digits n ≠ '-' :: rest := fun rest heq => by
      cases areDigits_digits n '-' (heq ▸ List.mem_cons_self ..)
    rw [renderSigned, toList_render, readSigned, read_digits (Int.ofNat_le.1 hhigh)]
    · rfl
    · exact hminus []
    · exact hminus
  | negSucc n =>
    have hread := readDigits_append_digits (bound + 1) 0 (n + 1) []
      (by rw [followedBy_zero]; omega)
    rw [List.append_nil, followedBy_zero] at hread
    have htext : (renderSigned (.negSucc n)).toList = '-' :: Numeral.digits (n + 1) := by
      simp [renderSigned]
    rw [htext, readSigned, readNegative, hread]
    · rfl
    · exact digits_ne_nil _

end Numeral
end ServiceReadiness
