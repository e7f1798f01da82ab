/-
# Decimal numerals

Numbers are written in base ten without sign or padding, and read back under a
bound.  Reading looks at the characters from left to right and stops at the
first one that cannot go on: a character that is no ASCII digit is an
`invalidDigit`, a digit that would pass the bound makes the numeral `tooLarge`.
A reader may allow one leading `+`; what is left must not be empty.
-/

namespace ServiceReadiness
namespace Numeral

/-- The largest unsigned number of 64 bits. -/
def maxUnsigned : Nat := 18446744073709551615

/-- The largest signed number of 64 bits. -/
def maxSigned : Nat := 9223372036854775807

/-- The ASCII character of a digit below ten. -/
def digitChar (d : Nat) : Char := Char.ofNat (48 + d)

/-- The value of an ASCII digit. -/
def digitValue? (c : Char) : Option Nat :=
  if '0' ≤ c ∧ c ≤ '9' then some (c.toNat - 48) else none

theorem digitValue?_digitChar {d : Nat} (h : d < 10) : digitValue? (digitChar d) = some d := by
  have : d = 0 ∨ d = 1 ∨ d = 2 ∨ d = 3 ∨ d = 4 ∨ d = 5 ∨ d = 6 ∨ d = 7 ∨ d = 8 ∨ d = 9 := by omega
  rcases this with rfl | rfl | rfl | rfl | rfl | rfl | rfl | rfl | rfl | rfl <;> decide

/-- The decimal digits of a number, most significant first. -/
def digits (n : Nat) : List Char :=
  if n < 10 then [digitChar n] else digits (n / 10) ++ [digitChar (n % 10)]

/-- The decimal numeral of a number. -/
def render (n : Nat) : String := String.ofList (digits n)

@[simp]
theorem toList_render (n : Nat) : (render n).toList = digits n := by simp [render]

theorem digits_ne_nil (n : Nat) : digits n ≠ [] := by
  unfold digits; split <;> simp

theorem isDigit_of_mem_digits {n : Nat} {c : Char} (h : c ∈ digits n) :
    ∃ d, digitValue? c = some d := by
  fun_induction digits n with
  | case1 n hn => exact ⟨n, by simp at h; rw [h]; exact digitValue?_digitChar hn⟩
  | case2 n _ ih =>
    rcases List.mem_append.1 h with h | h
    · exact ih h
    · exact ⟨n % 10, by simp at h; rw [h]; exact digitValue?_digitChar (by omega)⟩

/-- Why a text is no numeral of the wanted size. -/
inductive Fault where
  | empty
  | invalidDigit
  | tooLarge
  | tooSmall
  deriving DecidableEq, Repr

/-- The wording of a fault. -/
def Fault.message : Fault → String
  | .empty => "cannot parse integer from empty string"
  | .invalidDigit => "invalid digit found in string"
  | .tooLarge => "number too large to fit in target type"
  | .tooSmall => "number too small to fit in target type"

/-- Reads digits onto `acc`, refusing at the first character that is no digit
or that takes the value over `bound`. -/
def readDigits (bound : Nat) : (acc : Nat) → List Char → Except Fault Nat
  | acc, [] => .ok acc
  | acc, c :: rest =>
    match digitValue? c with
    | none => .error .invalidDigit
    | some d =>
      if acc * 10 + d ≤ bound then readDigits bound (acc * 10 + d) rest else .error .tooLarge

/-- The number whose digits are those of `acc` and then those of `n`. -/
def followedBy (acc n : Nat) : Nat :=
  if n < 10 then acc * 10 + n else followedBy acc (n / 10) * 10 + n % 10

@[simp]
theorem followedBy_zero (n : Nat) : followedBy 0 n = n := by
  fun_induction followedBy 0 n with
  | case1 n hn => omega
  | case2 n hn ih => omega

theorem readDigits_append_digits (bound acc n : Nat) (rest : List Char)
    (h : followedBy acc n ≤ bound) :
    readDigits bound acc (digits n ++ rest) = readDigits bound (followedBy acc n) rest := by
  fun_induction digits n generalizing rest with
  | case1 n hn => unfold followedBy at h ⊢; simp_all [readDigits, digitValue?_digitChar hn]
  | case2 n hn ih =>
    unfold followedBy at h ⊢
    simp only [hn, if_false] at h ⊢
    rw [List.append_assoc, ih _ (by omega)]
    simp [readDigits, digitValue?_digitChar (show n % 10 < 10 by omega), h]

/-- The unsigned numeral at most `bound` that a text spells, one `+` allowed in
front. -/
def read (bound : Nat) : List Char → Except Fault Nat
  | [] => .error .empty
  | ['+'] => .error .invalidDigit
  | '+' :: rest => readDigits bound 0 rest
  | cs => readDigits bound 0 cs

/-- A number is read back from its own digits. -/
theorem read_digits {bound n : Nat} (h : n ≤ bound) : read bound (digits n) = .ok n := by
  have hplus : ∀ c ∈ digits n, c ≠ '+' := by
    intro c hc he
    obtain ⟨d, hd⟩ := isDigit_of_mem_digits hc
    simp [he, digitValue?] at hd
  have hread : readDigits bound 0 (digits n) = .ok n := by
    simpa [readDigits] using readDigits_append_digits bound 0 n [] (by simpa using h)
  unfold read
  split
  · rename_i he; exact absurd he (digits_ne_nil n)
  · rename_i he; exact absurd rfl (hplus '+' (by simp [he]))
  · rename_i he; exact absurd rfl (hplus '+' (by simp [he]))
  · exact hread

/-- Reads the digits of a negative number, refusing below `-bound`. -/
def readNegative (bound : Nat) (cs : List Char) : Except Fault Int :=
  match readDigits bound 0 cs with
  | .ok n => .ok (-(n : Int))
  | .error .tooLarge => .error .tooSmall
  | .error f => .error f

/-- The signed numeral from `-(bound + 1)` to `bound` that a text spells. -/
def readSigned (bound : Nat) : List Char → Except Fault Int
  | ['-'] => .error .invalidDigit
  | '-' :: rest => readNegative (bound + 1) rest
  | cs => (read bound cs).map Int.ofNat

/-- The numeral of an integer, with `-` in front of a negative one. -/
def renderSigned : Int → String
  | .ofNat n => render n
  | .negSucc n => "-" ++ render (n + 1)

end Numeral
end ServiceReadiness
