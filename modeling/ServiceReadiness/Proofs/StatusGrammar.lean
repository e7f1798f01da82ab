/-
# The grammar of status ranges

A specification has one of two forms: a run of decimal digits, or two such runs with a gap
between them, which is two or more dots with blanks around them.  The reader takes away
characters of one class after the other, and no character is of two of the classes
(`isDecimalDigit_of_isBlank`), so it finds a form exactly where there is one
(`spec?_eq_some_iff`) and a text has one form at most (`HasForm.unique`).

A run of digits of any script makes a form, but only ASCII digits spell a code.  So a text
with a form may still be turned down for one of its bounds, the lower one first, and then for
the order of the two.  Every text gives a range or is turned down (`gives_or_turnedDown`), and
the reader says which (`read_of_gives`, `read_of_turnedDown`).  The written form of a range is one
of the texts that give it (`gives_render`).
-/

import ServiceReadiness.Proofs.Numerals
import ServiceReadiness.StatusRange

namespace ServiceReadiness

/-! ### Classes of characters -/

/-- **No blank is a digit:** every run of digits lies between two neighbouring blanks. -/
theorem DecimalDigit.isDecimalDigit_of_isBlank {c : Char} (h : Blank.isBlank c = true) :
    isDecimalDigit c = false := by
  have hruns : ∀ r ∈ runs, (0x20 < r.1 ∧ r.2 < 0x85) ∨ (0xA0 < r.1 ∧ r.2 < 0x1680) ∨
      (0x1680 < r.1 ∧ r.2 < 0x2000) ∨ 0x3000 < r.1 := by decide
  rw [Bool.eq_false_iff, ne_eq, isDecimalDigit, List.any_eq_true]
  rintro ⟨r, hr, hc⟩
  have hbetween := hruns r hr
  simp only [Blank.isBlank, Bool.or_eq_true, Bool.and_eq_true, decide_eq_true_eq,
    beq_iff_eq] at h hc
  omega

theorem DecimalDigit.isDecimalDigit_of_isDigit {c : Char} (h : c.isDigit = true) :
    isDecimalDigit c = true := by
  rw [Char.isDigit, Bool.and_eq_true, decide_eq_true_eq, decide_eq_true_eq] at h
  exact isDecimalDigit_of_ascii h

namespace StatusRange

/-! ### The two forms -/

/-- One decimal digit or more, of any script. -/
def IsRun (cs : List Char) : Prop :=
  cs ≠ [] ∧ ∀ c ∈ cs, DecimalDigit.isDecimalDigit c = true

/-- What stands between the bounds of a pair: two or more dots, with blanks around them. -/
def IsGap (cs : List Char) : Prop :=
  ∃ before dots after, cs = before ++ (List.replicate dots '.' ++ after) ∧ 2 ≤ dots ∧
    (∀ c ∈ before, Blank.isBlank c = true) ∧ ∀ c ∈ after, Blank.isBlank c = true

/-- A text has one of the two forms. -/
inductive HasForm : List Char → Spec → Prop
  | single {code : List Char} : IsRun code → HasForm code (.single code)
  | pair {lower gap upper : List Char} : IsRun lower → IsGap gap → IsRun upper →
      HasForm (lower ++ (gap ++ upper)) (.pair lower upper)

variable {cs lower gap upper : List Char}

theorem IsRun.head?_isDecimalDigit (h : IsRun cs) :
    ∀ c ∈ cs.head?, DecimalDigit.isDecimalDigit c = true := fun c hc =>
  h.2 c (List.mem_of_mem_head? hc)

/-- A gap ends a run of digits. -/
theorem IsGap.head?_isDecimalDigit (h : IsGap gap) (rest : List Char) :
    ∀ c ∈ (gap ++ rest).head?, DecimalDigit.isDecimalDigit c = false := by
  obtain ⟨before, dots, after, rfl, hdots, hbefore, -⟩ := h
  intro c hc
  cases before with
  | nil =>
    obtain ⟨more, rfl⟩ := Nat.exists_eq_add_of_le' hdots
    obtain rfl := Option.some.inj hc
    decide
  | cons b before =>
    obtain rfl := Option.some.inj hc
    exact DecimalDigit.isDecimalDigit_of_isBlank (hbefore _ (List.mem_cons_self ..))

/-- The reader finds what follows a gap. -/
theorem upperBound?_append (hgap : IsGap gap) (hupper : IsRun upper) :
    upperBound? (gap ++ upper) = some upper := by
  obtain ⟨before, dots, after, rfl, hdots, hbefore, hafter⟩ := hgap
  have hdigit := hupper.head?_isDecimalDigit
  have hblank : ∀ c ∈ upper.head?, Blank.isBlank c = false := fun c hc => by
    by_contra h
    have hno := DecimalDigit.isDecimalDigit_of_isBlank (by simpa using h)
    exact absurd (hdigit c hc) (by simp [hno])
  have hdot : ∀ c ∈ (after ++ upper).head?, (c == '.') = false := fun c hc => by
    by_contra h
    obtain rfl : c = '.' := by simpa using h
    cases after with
    | nil => exact absurd (hdigit '.' hc) (by decide)
    | cons b after =>
      obtain rfl := Option.some.inj hc
      exact absurd (hafter '.' (List.mem_cons_self ..)) (by decide)
  have hfront : ∀ c ∈ (List.replicate dots '.' ++ (after ++ upper)).head?,
      Blank.isBlank c = false := fun c hc => by
    obtain ⟨more, rfl⟩ := Nat.exists_eq_add_of_le' hdots
    obtain rfl := Option.some.inj hc
    decide
  rw [upperBound?, List.append_assoc, List.append_assoc,
    dropWhile_append_of_head hbefore hfront,
    span_append_of_head (fun c hc => by simp [List.eq_of_mem_replicate hc]) hdot]
  dsimp only
  rw [dropWhile_append_of_head hafter hblank, List.length_replicate,
    if_pos ⟨hdots, hupper.1, List.all_eq_true.2 hupper.2⟩]

/-- What the reader takes for an upper bound follows a gap. -/
theorem exists_gap_of_upperBound? (h : upperBound? cs = some upper) :
    ∃ gap, IsGap gap ∧ IsRun upper ∧ cs = gap ++ upper := by
  rw [upperBound?, List.span_eq_takeWhile_dropWhile] at h
  dsimp only at h
  split at h
  case isFalse => cases h
  case isTrue hcond =>
    obtain ⟨hdots, hne, hall⟩ := hcond
    set middle := cs.dropWhile Blank.isBlank
    set rest := middle.dropWhile (· == '.')
    obtain rfl := Option.some.inj h
    refine ⟨cs.takeWhile Blank.isBlank ++ (middle.takeWhile (· == '.') ++
      rest.takeWhile Blank.isBlank), ?_, ⟨hne, List.all_eq_true.1 hall⟩, ?_⟩
    · have hreplicate : middle.takeWhile (· == '.') =
          List.replicate (middle.takeWhile (· == '.')).length '.' :=
        List.eq_replicate_iff.2 ⟨rfl, fun c hc => by simpa using List.mem_takeWhile_imp hc⟩
      refine ⟨cs.takeWhile Blank.isBlank, (middle.takeWhile (· == '.')).length,
        rest.takeWhile Blank.isBlank, ?_, hdots, fun c hc => List.mem_takeWhile_imp hc,
        fun c hc => List.mem_takeWhile_imp hc⟩
      rw [← hreplicate]
    · rw [List.append_assoc, List.append_assoc, List.takeWhile_append_dropWhile,
        List.takeWhile_append_dropWhile, List.takeWhile_append_dropWhile]

/-- **The reader finds a form exactly where there is one.** -/
theorem spec?_eq_some_iff {spec : Spec} : spec? cs = some spec ↔ HasForm cs spec := by
  constructor
  · intro h
    have hcs : cs.takeWhile DecimalDigit.isDecimalDigit ++
        cs.dropWhile DecimalDigit.isDecimalDigit = cs := List.takeWhile_append_dropWhile
    have hdigits : ∀ c ∈ cs.takeWhile DecimalDigit.isDecimalDigit,
        DecimalDigit.isDecimalDigit c = true := fun c hc => List.mem_takeWhile_imp hc
    rw [spec?, List.span_eq_takeWhile_dropWhile] at h
    split at h
    case h_1 => cases h
    case h_2 code hne heq =>
      obtain ⟨hcode, hnil⟩ := Prod.mk.inj heq
      obtain rfl := Option.some.inj h
      rw [hcode, hnil, List.append_nil] at hcs
      subst hcs
      exact .single ⟨hne, hcode ▸ hdigits⟩
    case h_3 lower rest hne hne' heq =>
      obtain ⟨hlower, hrest⟩ := Prod.mk.inj heq
      obtain ⟨upper, hupper, rfl⟩ := Option.map_eq_some_iff.1 h
      obtain ⟨gap, hgap, hrun, rfl⟩ := exists_gap_of_upperBound? hupper
      rw [hlower, hrest] at hcs
      subst hcs
      exact .pair ⟨hne, hlower ▸ hdigits⟩ hgap hrun
  · intro h
    cases h with
    | single hcode =>
      have hspan : (cs ++ []).span DecimalDigit.isDecimalDigit = (cs, []) :=
        span_append_of_head hcode.2 (by simp)
      rw [List.append_nil] at hspan
      rw [spec?, hspan]
      cases cs with
      | nil => exact absurd rfl hcode.1
      | cons c cs => rfl
    | @pair lower gap upper hlower hgap hupper =>
      have hrest : gap ++ upper ≠ [] := by simp [hupper.1]
      rw [spec?, span_append_of_head hlower.2 (hgap.head?_isDecimalDigit upper)]
      obtain ⟨l, lower, rfl⟩ := List.exists_cons_of_ne_nil hlower.1
      obtain ⟨g, more, hg⟩ := List.exists_cons_of_ne_nil hrest
      rw [hg]
      dsimp only
      rw [← hg, upperBound?_append hgap hupper, Option.map_some]

/-- A text has one form at most. -/
theorem HasForm.unique {spec other : Spec} (h : HasForm cs spec) (h' : HasForm cs other) :
    spec = other :=
  Option.some.inj ((spec?_eq_some_iff.2 h).symm.trans (spec?_eq_some_iff.2 h'))

/-! ### The codes that digits spell -/

/-- One ASCII digit or more that spell a code in base ten, with leading zeros or without. -/
def SpellsCode (cs : List Char) (code : UInt16) : Prop :=
  cs ≠ [] ∧ Numeral.AreDigits cs ∧ Numeral.value 0 cs = code.toNat

theorem SpellsCode.isRun {code : UInt16} (h : SpellsCode cs code) : IsRun cs :=
  ⟨h.1, fun c hc => DecimalDigit.isDecimalDigit_of_isDigit (h.2.1 c hc)⟩

/-- A run of digits has no sign in front. -/
theorem IsRun.unsigned (h : IsRun cs) : Numeral.unsigned cs = cs := by
  obtain ⟨c, rest, rfl⟩ := List.exists_cons_of_ne_nil h.1
  have hc : c ≠ '+' := by
    rintro rfl
    exact absurd (h.2 '+' (List.mem_cons_self ..)) (by decide)
  simp [Numeral.unsigned, hc]

/-- Digits that spell a code are read as that code. -/
theorem readCode_of_spellsCode {code : UInt16} (h : SpellsCode cs code) :
    readCode cs = .ok code := by
  have hspells : Numeral.Spells cs code.toNat := by
    rw [Numeral.Spells, h.isRun.unsigned]
    exact h
  rw [readCode, Numeral.read_of_spells hspells (Nat.le_of_lt_succ code.toNat_lt)]
  exact congrArg Except.ok UInt16.ofNat_toNat

/-- A run with a fault is turned down for it. -/
theorem readCode_of_faulty {f : Numeral.Fault} (h : Numeral.Faulty 65535 cs f) :
    readCode cs = .error (.number f) := by
  rw [readCode, Numeral.read_of_faulty h]

/-- **A run of digits spells a code or has a fault.** -/
theorem IsRun.spellsCode_or_faulty (h : IsRun cs) :
    (∃ code, SpellsCode cs code) ∨ ∃ f, Numeral.Faulty 65535 cs f := by
  refine (Numeral.spells_or_faulty 65535 cs).imp_left ?_
  rintro ⟨n, hspells, hle⟩
  rw [Numeral.Spells, h.unsigned] at hspells
  refine ⟨UInt16.ofNat n, hspells.1, hspells.2.1, ?_⟩
  rw [UInt16.toNat_ofNat', Nat.mod_eq_of_lt (Nat.lt_succ_of_le hle)]
  exact hspells.2.2

/-! ### What a text gives -/

/-- The ranges that texts give. -/
inductive Gives : List Char → StatusRange → Prop
  /-- A code stands for itself alone. -/
  | code {cs : List Char} {code : UInt16} : SpellsCode cs code → Gives cs (exact code)
  /-- Two codes in order are the bounds. -/
  | pair {lower gap upper : List Char} {min max : UInt16} (h : min ≤ max) :
      SpellsCode lower min → IsGap gap → SpellsCode upper max →
      Gives (lower ++ (gap ++ upper)) ⟨min, max, h⟩

/-- The reasons for which texts are turned down. -/
inductive TurnedDown : List Char → String → Prop
  /-- A run of digits spells no code. -/
  | code {cs : List Char} {f : Numeral.Fault} :
      IsRun cs → Numeral.Faulty 65535 cs f → TurnedDown cs f.message
  /-- The lower bound spells no code, whatever the upper one spells. -/
  | lower {cs lower upper : List Char} {f : Numeral.Fault} :
      HasForm cs (.pair lower upper) → Numeral.Faulty 65535 lower f → TurnedDown cs f.message
  /-- The lower bound spells a code and the upper one none. -/
  | upper {cs lower upper : List Char} {min : UInt16} {f : Numeral.Fault} :
      HasForm cs (.pair lower upper) → SpellsCode lower min → Numeral.Faulty 65535 upper f →
      TurnedDown cs f.message
  /-- Both bounds spell codes, the larger one first. -/
  | reversed {cs lower upper : List Char} {min max : UInt16} :
      HasForm cs (.pair lower upper) → SpellsCode lower min → SpellsCode upper max → max < min →
      TurnedDown cs "lower bound is greater than upper bound"
  /-- The text has neither form. -/
  | malformed {cs : List Char} : (∀ spec, ¬ HasForm cs spec) →
      TurnedDown cs "expected a status code or a range like 200..399"

/-- A text with a form is turned into its range, if it has one. -/
theorem read_of_hasForm {spec : Spec} (h : HasForm cs spec) : read cs = spec.range := by
  rw [read, spec?_eq_some_iff.2 h]

/-- The range of a text is read. -/
theorem read_of_gives {r : StatusRange} (h : Gives cs r) : read cs = .ok r := by
  cases h with
  | code hcode =>
    rw [read_of_hasForm (.single hcode.isRun)]
    simp only [Spec.range, readCode_of_spellsCode hcode]
    rfl
  | pair hle hlower hgap hupper =>
    rw [read_of_hasForm (.pair hlower.isRun hgap hupper.isRun)]
    simp only [Spec.range, readCode_of_spellsCode hlower, readCode_of_spellsCode hupper]
    exact between?_of_le hle

/-- A text that is turned down is turned down for its reason. -/
theorem read_of_turnedDown {reason : String} (h : TurnedDown cs reason) :
    ∃ fault, read cs = .error fault ∧ fault.message = reason := by
  cases h with
  | @code f hrun hfaulty =>
    refine ⟨.number f, ?_, rfl⟩
    rw [read_of_hasForm (.single hrun)]
    simp only [Spec.range, readCode_of_faulty hfaulty]
    rfl
  | @lower _ _ f hform hfaulty =>
    refine ⟨.number f, ?_, rfl⟩
    rw [read_of_hasForm hform]
    simp only [Spec.range, readCode_of_faulty hfaulty]
    rfl
  | @upper _ _ _ f hform hlower hfaulty =>
    refine ⟨.number f, ?_, rfl⟩
    rw [read_of_hasForm hform]
    simp only [Spec.range, readCode_of_spellsCode hlower, readCode_of_faulty hfaulty]
    rfl
  | reversed hform hlower hupper hlt =>
    refine ⟨.reversed, ?_, rfl⟩
    rw [read_of_hasForm hform]
    simp only [Spec.range, readCode_of_spellsCode hlower, readCode_of_spellsCode hupper]
    exact between?_of_not_le (UInt16.not_le.2 hlt)
  | malformed hnone =>
    refine ⟨.malformed, ?_, rfl⟩
    have hspec : spec? cs = none :=
      Option.eq_none_iff_forall_ne_some.2 fun spec hspec => hnone spec (spec?_eq_some_iff.1 hspec)
    rw [read, hspec]

/-- **Every text gives a range or is turned down.** -/
theorem gives_or_turnedDown (cs : List Char) :
    (∃ r, Gives cs r) ∨ ∃ reason, TurnedDown cs reason := by
  by_cases hform : ∃ spec, HasForm cs spec
  · obtain ⟨spec, hspec⟩ := hform
    cases hspec with
    | single hrun =>
      rcases hrun.spellsCode_or_faulty with ⟨code, hcode⟩ | ⟨f, hfaulty⟩
      · exact .inl ⟨_, .code hcode⟩
      · exact .inr ⟨_, .code hrun hfaulty⟩
    | pair hlower hgap hupper =>
      have hpair := HasForm.pair hlower hgap hupper
      rcases hlower.spellsCode_or_faulty with ⟨min, hmin⟩ | ⟨f, hfaulty⟩
      · rcases hupper.spellsCode_or_faulty with ⟨max, hmax⟩ | ⟨f, hfaulty⟩
        · rcases UInt16.le_or_lt min max with hle | hlt
          · exact .inl ⟨_, .pair hle hmin hgap hmax⟩
          · exact .inr ⟨_, .reversed hpair hmin hmax hlt⟩
        · exact .inr ⟨_, .upper hpair hmin hfaulty⟩
      · exact .inr ⟨_, .lower hpair hfaulty⟩
  · exact .inr ⟨_, .malformed fun spec hspec => hform ⟨spec, hspec⟩⟩

/-- The range of a text is what the text is taken for. -/
theorem parse_of_gives {s : String} {r : StatusRange} (h : Gives s.toList r) :
    parse s = .ok r := by
  rw [parse, read_of_gives h]
  rfl

theorem parse_of_turnedDown {s reason : String} (h : TurnedDown s.toList reason) :
    parse s = .error (.invalidStatusSpec s reason) := by
  obtain ⟨fault, hread, rfl⟩ := read_of_turnedDown h
  rw [parse, hread]
  rfl

/-- A code is spelled by its own digits. -/
theorem spellsCode_digits (code : UInt16) : SpellsCode (Numeral.digits code.toNat) code := by
  have hle : code.toNat ≤ 65535 := Nat.le_of_lt_succ code.toNat_lt
  have hspells := (Numeral.read_eq_ok_iff.1 (Numeral.read_digits hle)).1
  have hrun : IsRun (Numeral.digits code.toNat) := by
    refine ⟨Numeral.digits_ne_nil _, fun c hc => ?_⟩
    exact DecimalDigit.isDecimalDigit_of_isDigit (Numeral.areDigits_digits _ c hc)
  rwa [Numeral.Spells, hrun.unsigned] at hspells

/-- **The written form of a range gives the range.** -/
theorem gives_render (r : StatusRange) : Gives r.render.toList r := by
  obtain ⟨min, max, hle⟩ := r
  rw [render]
  dsimp only
  split
  case isTrue heq =>
    subst heq
    rw [Numeral.toList_render]
    exact .code (spellsCode_digits min)
  case isFalse =>
    have hgap : IsGap "..".toList := ⟨[], 2, [], rfl, Nat.le_refl 2, by simp, by simp⟩
    have hpair := Gives.pair hle (spellsCode_digits min) hgap (spellsCode_digits max)
    rwa [String.toList_append, String.toList_append, Numeral.toList_render,
      Numeral.toList_render, List.append_assoc]

/-- **A text gives a range exactly as the grammar has it.**  It gives a range if it is a code,
or two codes in order with a gap between them, and nothing stands before or after; the codes
are spelled in ASCII digits.  Every other text is turned down with an error that shows the
whole text and a reason: the first bound that spells no code in a text with a form, else the
order of the bounds, or that the text has no form.  A text has one form at most, so that its
bounds are beyond doubt. -/
theorem parse_iff_grammar (s : String) :
    (∀ r, parse s = .ok r ↔ Gives s.toList r) ∧
      (∀ e, parse s = .error e ↔
        ∃ reason, TurnedDown s.toList reason ∧ e = .invalidStatusSpec s reason) ∧
      ∀ spec other, HasForm s.toList spec → HasForm s.toList other → spec = other := by
  refine ⟨fun r => ⟨fun h => ?ok, parse_of_gives⟩, fun e => ⟨fun h => ?error, ?_⟩,
    fun spec other => HasForm.unique⟩
  case ok =>
    rcases gives_or_turnedDown s.toList with ⟨r', hr'⟩ | ⟨reason, hreason⟩
    · exact Except.ok.inj (h.symm.trans (parse_of_gives hr')) ▸ hr'
    · exact absurd (h.symm.trans (parse_of_turnedDown hreason)) nofun
  case error =>
    rcases gives_or_turnedDown s.toList with ⟨r, hr⟩ | ⟨reason, hreason⟩
    · exact absurd (h.symm.trans (parse_of_gives hr)) nofun
    · exact ⟨reason, hreason, Except.error.inj (h.symm.trans (parse_of_turnedDown hreason))⟩
  · rintro ⟨reason, hreason, rfl⟩
    exact parse_of_turnedDown hreason

/-- A digit of another script makes a form and spells no code; it counts as a fault of its
bound, and only after the lower one. -/
example :
    read "200 .. 3٩9".toList = .error (.number .invalidDigit) ∧
      read "65536...٣".toList = .error (.number .tooLarge) ∧
      read "299\u3000..0204".toList = .error .reversed := ⟨rfl, rfl, rfl⟩

end StatusRange
end ServiceReadiness
