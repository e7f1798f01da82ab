/-
# Ranges as they are written

A range has one written form, and the form says how it is read: one code as a code alone, and two
codes as a pair with two dots between them (`hasForm_render`).  Both are read back as the
range (`gives_render`), so no two ranges are written alike (`render_inj`).

Two codes with two dots between them are a pair of bounds in whatever order they come, and what
such a text is read as is what the two bounds make (`parse_pairText`), down to the text that an
error shows.  Only if the bounds are equal is the text not the written form of its range.
-/

import ServiceReadiness.Proofs.StatusGrammar

namespace ServiceReadiness
namespace StatusRange

/-- Two codes with two dots between them, in whatever order. -/
def pairText (lower upper : UInt16) : String :=
  Numeral.render lower.toNat ++ ".." ++ Numeral.render upper.toNat

theorem toList_pairText (lower upper : UInt16) :
    (pairText lower upper).toList =
      Numeral.digits lower.toNat ++ (['.', '.'] ++ Numeral.digits upper.toNat) := by
  simp [pairText]

theorem isGap_dots : IsGap ['.', '.'] :=
  ⟨[], 2, [], rfl, Nat.le_refl 2, List.forall_mem_nil _, List.forall_mem_nil _⟩

/-- Two codes with two dots between them have the form of a pair. -/
theorem hasForm_pairText (lower upper : UInt16) :
    HasForm (pairText lower upper).toList
      (.pair (Numeral.digits lower.toNat) (Numeral.digits upper.toNat)) := by
  rw [toList_pairText]
  exact .pair (spellsCode_digits lower).isRun isGap_dots (spellsCode_digits upper).isRun

/-- A code alone has the form of a code. -/
theorem hasForm_code (code : UInt16) :
    HasForm (Numeral.render code.toNat).toList (.single (Numeral.digits code.toNat)) := by
  rw [Numeral.toList_render]
  exact .single (spellsCode_digits code).isRun

theorem render_of_eq {r : StatusRange} (h : r.min = r.max) :
    r.render = Numeral.render r.min.toNat := if_pos h

theorem render_of_ne {r : StatusRange} (h : r.min ≠ r.max) : r.render = pairText r.min r.max :=
  if_neg h

/-- The form in which a range is written. -/
def form (r : StatusRange) : Spec :=
  if r.min = r.max then .single (Numeral.digits r.min.toNat)
  else .pair (Numeral.digits r.min.toNat) (Numeral.digits r.max.toNat)

/-- **A range of one code is written as a code and any other as a pair.** -/
theorem hasForm_render (r : StatusRange) : HasForm r.render.toList r.form := by
  by_cases h : r.min = r.max
  · rw [render_of_eq h, form, if_pos h]
    exact hasForm_code r.min
  · rw [render_of_ne h, form, if_neg h]
    exact hasForm_pairText r.min r.max

theorem parse_render (r : StatusRange) : parse r.render = .ok r := parse_of_gives (gives_render r)

/-- **No two ranges are written alike.** -/
theorem render_inj {r s : StatusRange} : r.render = s.render ↔ r = s := by
  refine ⟨fun h => ?_, congrArg render⟩
  have hr := parse_render r
  rw [h, parse_render s] at hr
  exact (Except.ok.inj hr).symm

/-- **A pair is read as what its bounds make,** a range or the error that shows the pair. -/
theorem parse_pairText (lower upper : UInt16) :
    parse (pairText lower upper) = ofBounds lower upper := by
  have hread : read (pairText lower upper).toList = between? lower upper := by
    rw [read_of_hasForm (hasForm_pairText lower upper)]
    simp only [Spec.range, readCode_of_spellsCode (spellsCode_digits lower),
      readCode_of_spellsCode (spellsCode_digits upper)]
    rfl
  rw [parse, hread]
  rfl

/-- Bounds in order make their range, and others make an error. -/
theorem ofBounds_eq (lower upper : UInt16) :
    ofBounds lower upper =
      if h : lower ≤ upper then .ok ⟨lower, upper, h⟩
      else .error (.invalidStatusSpec (pairText lower upper)
        "lower bound is greater than upper bound") := by
  rw [ofBounds]
  by_cases h : lower ≤ upper
  · rw [between?_of_le h, dif_pos h]
    rfl
  · rw [between?_of_not_le h, dif_neg h]
    rfl

/-- **Writing and reading agree.**  The written form of a range is read back as the range: a
range of one code is written as the code and any other as a pair, and no two are written alike.
Two codes with two dots between them are read as what the two bounds make: their range if they are
in order, and else the very error that shows them.  A code that is both bounds is written by itself
in another form than such a pair, and both are read as the range of exactly this code. -/
theorem parse_render_and_pairText :
    (∀ r : StatusRange, parse r.render = .ok r ∧ HasForm r.render.toList r.form) ∧
    (∀ r s : StatusRange, r.render = s.render ↔ r = s) ∧
    (∀ lower upper : UInt16, parse (pairText lower upper) = ofBounds lower upper ∧
      ofBounds lower upper =
        if h : lower ≤ upper then .ok ⟨lower, upper, h⟩
        else .error (.invalidStatusSpec (pairText lower upper)
          "lower bound is greater than upper bound")) ∧
    ∀ code : UInt16,
      ofBounds code code = .ok (exact code) ∧
      (exact code).render = Numeral.render code.toNat ∧
      HasForm (exact code).render.toList (.single (Numeral.digits code.toNat)) ∧
      parse (exact code).render = .ok (exact code) ∧
      HasForm (pairText code code).toList
        (.pair (Numeral.digits code.toNat) (Numeral.digits code.toNat)) ∧
      parse (pairText code code) = .ok (exact code) := by
  refine ⟨fun r => ⟨parse_render r, hasForm_render r⟩, fun r s => render_inj,
    fun lower upper => ⟨parse_pairText lower upper, ofBounds_eq lower upper⟩, fun code => ?_⟩
  have hbounds : ofBounds code code = .ok (exact code) := by
    rw [ofBounds_eq, dif_pos (UInt16.le_refl code), exact]
  have hrender : (exact code).render = Numeral.render code.toNat := render_of_eq rfl
  refine ⟨hbounds, hrender, ?_, parse_render _, hasForm_pairText code code,
    (parse_pairText code code).trans hbounds⟩
  rw [hrender]
  exact hasForm_code code

/-- The largest pair of bounds in the wrong order. -/
example : parse "65535..65534" = .error (.invalidStatusSpec "65535..65534"
    "lower bound is greater than upper bound") := by decide +kernel

end StatusRange
end ServiceReadiness
