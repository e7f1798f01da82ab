/-
# Ranges of status codes

A range holds the codes from `min` to `max`, both included.  It is written as
one code (`204`) when the two are equal and as `min..max` otherwise.  Reading is
more generous than writing: any run of two or more dots may stand between the
bounds, with blanks around it, and a numeral may have leading zeros.
-/

import ServiceReadiness.Error
import ServiceReadiness.Text.Blank
import ServiceReadiness.Text.DecimalDigit

namespace ServiceReadiness

/-- An inclusive range of status codes, never empty. -/
structure StatusRange where
  min : UInt16
  max : UInt16
  min_le_max : min ≤ max
  deriving DecidableEq, Repr

namespace StatusRange

/-- Why a text or a pair of bounds gives no range. -/
inductive Fault where
  /-- A bound is no numeral of 16 bits. -/
  | number (fault : Numeral.Fault)
  /-- The bounds are in the wrong order. -/
  | reversed
  /-- The text is neither a code nor a pair of bounds. -/
  | malformed
  deriving DecidableEq, Repr

/-- The wording of a fault. -/
def Fault.message : Fault → String
  | .number fault => fault.message
  | .reversed => "lower bound is greater than upper bound"
  | .malformed => "expected a status code or a range like 200..399"

/-- The range between two bounds in order. -/
def between? (min max : UInt16) : Except Fault StatusRange :=
  if h : min ≤ max then .ok ⟨min, max, h⟩ else .error .reversed

theorem between?_of_le {min max : UInt16} (h : min ≤ max) :
    between? min max = .ok ⟨min, max, h⟩ := by simp [between?, h]

theorem between?_of_not_le {min max : UInt16} (h : ¬min ≤ max) :
    between? min max = .error .reversed := by simp [between?, h]

/-- The range of exactly one code. -/
def exact (code : UInt16) : StatusRange := ⟨code, code, UInt16.le_refl code⟩

/-- The codes that mean success or a redirection. -/
def standard : StatusRange := ⟨200, 399, by decide⟩

/-- A code lies in a range. -/
def contains (r : StatusRange) (code : UInt16) : Bool := r.min ≤ code && code ≤ r.max

theorem contains_iff (r : StatusRange) (code : UInt16) :
    r.contains code = true ↔ r.min ≤ code ∧ code ≤ r.max := by simp [contains]

/-- A range in its shortest written form. -/
def render (r : StatusRange) : String :=
  if r.min = r.max then Numeral.render r.min.toNat
  else Numeral.render r.min.toNat ++ ".." ++ Numeral.render r.max.toNat

/-- The two forms of a specification, by the digits of their bounds. -/
inductive Spec where
  | single (code : List Char)
  | pair (lower upper : List Char)
  deriving DecidableEq, Repr

/-- The upper bound of a pair, after the digits of the lower one: blanks, two or
more dots, blanks, and digits to the end. -/
def upperBound? (cs : List Char) : Option (List Char) :=
  let (dots, rest) := (cs.dropWhile Blank.isBlank).span (· == '.')
  let upper := rest.dropWhile Blank.isBlank
  if 2 ≤ dots.length ∧ upper ≠ [] ∧ upper.all DecimalDigit.isDecimalDigit = true then some upper
  else none

/-- The form of a specification. -/
def spec? (cs : List Char) : Option Spec :=
  match cs.span DecimalDigit.isDecimalDigit with
  | ([], _) => none
  | (code, []) => some (.single code)
  | (lower, rest) => (upperBound? rest).map (.pair lower)

/-- The code that a run of digits spells. -/
def readCode (digits : List Char) : Except Fault UInt16 :=
  match Numeral.read 65535 digits with
  | .ok n => .ok (UInt16.ofNat n)
  | .error f => .error (.number f)

/-- The range that a specification gives. -/
def Spec.range : Spec → Except Fault StatusRange
  | .single code => do return exact (← readCode code)
  | .pair lower upper => do
    let min ← readCode lower
    let max ← readCode upper
    between? min max

/-- The range that a text gives. -/
def read (cs : List Char) : Except Fault StatusRange :=
  match spec? cs with
  | none => .error .malformed
  | some spec => spec.range

/-- The error that reports a fault of a specification. -/
def Fault.report (f : Fault) (spec : String) : ProbeError := .invalidStatusSpec spec f.message

/-- The range between two bounds, or the error that shows them. -/
def ofBounds (min max : UInt16) : Except ProbeError StatusRange :=
  (between? min max).mapError
    (·.report (Numeral.render min.toNat ++ ".." ++ Numeral.render max.toNat))

/-- The range that a text gives, or the error that shows the text. -/
def parse (spec : String) : Except ProbeError StatusRange :=
  (read spec.toList).mapError (·.report spec)

end StatusRange
end ServiceReadiness
