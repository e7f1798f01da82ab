/-
# The texts and the numbers of JSON

The grammar of what has no blanks within it.  Between quotes a text is written character by
character, each in one of four forms: as itself, by a letter, by four hexadecimal digits, or by
two times four for a code point beyond them (`SpellsChar`, `Spells`).  A number is a whole part,
decimal places and an exponent, with a minus in front or without (`IsNumber`).

The reader keeps to this grammar.  Its state between two characters of a text is whether the
first of two surrogates has been read, and `Begun` says what of the text that accounts for; so
an induction along the reader gives the written text back (`exists_spells_of_decode`), and a text
is read exactly if it is written (`decode_eq_ok_iff`).  A number is read up to a character with
which it could not go on (`number_append`).  What is written between quotes is one of the written
forms of its text, and the numeral of a natural number is a number
(`spells_flatMap_encodeChar`, `isNumber_digits`).
-/

import ServiceReadiness.Json.Reader
import ServiceReadiness.Proofs.Numerals
import ServiceReadiness.Proofs.Resolution

namespace ServiceReadiness
namespace Json

/-! ### Texts between quotes -/

namespace Quoted

/-- The written forms of a character between quotes. -/
inductive SpellsChar : List Char → Char → Prop
  /-- Every character that is no control, quote or backslash stands for itself. -/
  | plain {c : Char} : 0x20 ≤ c.toNat → c ≠ '"' → c ≠ '\\' → SpellsChar [c] c
  | letter {l c : Char} : letter? l = some c → SpellsChar ['\\', l] c
  /-- Four digits give a code point that is no surrogate. -/
  | unit {a b c d : Char} {n : Nat} : unit? a b c d = some n → isHigh n = false →
      isLow n = false → SpellsChar ['\\', 'u', a, b, c, d] (Char.ofNat n)
  /-- A code point beyond them takes two surrogates. -/
  | pair {a b c d a' b' c' d' : Char} {high low : Nat} : unit? a b c d = some high →
      isHigh high = true → unit? a' b' c' d' = some low → isLow low = true →
      SpellsChar ['\\', 'u', a, b, c, d, '\\', 'u', a', b', c', d']
        (Char.ofNat (0x10000 + (high - 0xD800) * 1024 + (low - 0xDC00)))

/-- A text is written between quotes, character by character. -/
inductive Spells : List Char → List Char → Prop
  | nil : Spells [] []
  | cons {front written text : List Char} {c : Char} : SpellsChar front c → Spells written text →
      Spells (front ++ written) (c :: text)

/-- A character is read from each of its written forms. -/
theorem decode_of_spellsChar {front : List Char} {c : Char} (h : SpellsChar front c)
    (rest : List Char) : decode none (front ++ rest) = push c (decode none rest) := by
  cases h with
  | plain hcontrol _ hbackslash =>
    simp [decode, hbackslash, Nat.not_lt.2 hcontrol]
  | @letter l _ hletter =>
    have hl : l ≠ 'u' := by
      rintro rfl
      cases hletter
    simp [decode, hl, hletter]
  | unit hunit hhigh hlow => simp [decode, hunit, unitMeaning?, hhigh, hlow]
  | pair hunit hhigh hunit' hlow => simp [decode, hunit, hunit', unitMeaning?, hhigh, hlow]

/-- What has been read of a character before the rest of it: nothing, or the first surrogate. -/
inductive Begun : Option Nat → List Char → Prop
  | nothing : Begun none []
  | high {a b c d : Char} {n : Nat} : unit? a b c d = some n → isHigh n = true →
      Begun (some n) ['\\', 'u', a, b, c, d]

theorem push_eq_ok_iff {c : Char} {r : Except Fault (List Char × List Char)}
    {text rest : List Char} :
    push c r = .ok (text, rest) ↔ ∃ more, r = .ok (more, rest) ∧ text = c :: more := by
  constructor
  · intro h
    obtain ⟨⟨more, rest'⟩, hr, hpair⟩ := exists_of_map_eq_ok h
    obtain ⟨rfl, rfl⟩ := Prod.mk.inj hpair
    exact ⟨more, hr, rfl⟩
  · rintro ⟨more, rfl, rfl⟩
    rfl

section

variable {high : Option Nat} {a b c d : Char} {front : List Char}

/-- Four digits that mean a character end a written form of it. -/
theorem Begun.spellsChar {char : Char} (hbegun : Begun high front)
    (h : (unit? a b c d).bind (unitMeaning? high) = some (.inl char)) :
    SpellsChar (front ++ ['\\', 'u', a, b, c, d]) char := by
  obtain ⟨n, hunit, hmeaning⟩ := Option.bind_eq_some_iff.1 h
  cases hbegun with
  | nothing =>
    simp only [unitMeaning?] at hmeaning
    split at hmeaning
    · cases hmeaning
    · split at hmeaning
      · cases hmeaning
      · obtain rfl := Sum.inl.inj (Option.some.inj hmeaning)
        exact .unit hunit (Bool.eq_false_iff.2 ‹_›) (Bool.eq_false_iff.2 ‹_›)
  | high hfirst hhigh =>
    simp only [unitMeaning?] at hmeaning
    split at hmeaning
    · obtain rfl := Sum.inl.inj (Option.some.inj hmeaning)
      exact .pair hfirst hhigh hunit ‹_›
    · cases hmeaning

/-- Four digits that mean a first surrogate come first. -/
theorem Begun.begun {n : Nat} (hbegun : Begun high front)
    (h : (unit? a b c d).bind (unitMeaning? high) = some (.inr n)) :
    Begun (some n) (front ++ ['\\', 'u', a, b, c, d]) := by
  obtain ⟨m, hunit, hmeaning⟩ := Option.bind_eq_some_iff.1 h
  cases hbegun with
  | nothing =>
    simp only [unitMeaning?] at hmeaning
    split at hmeaning
    · obtain rfl := Sum.inr.inj (Option.some.inj hmeaning)
      exact .high hunit ‹_›
    · split at hmeaning <;> cases hmeaning
  | high =>
    simp only [unitMeaning?] at hmeaning
    split at hmeaning <;> cases hmeaning

end

/-- A character and what is read after it were written together. -/
theorem exists_spells_of_push {front cs text rest : List Char} {c : Char}
    (hchar : SpellsChar front c) (h : push c (decode none cs) = .ok (text, rest))
    (hmore : ∀ {more}, decode none cs = .ok (more, rest) →
      ∃ written, Spells written more ∧ cs = written ++ '"' :: rest) :
    ∃ written, Spells written text ∧ front ++ cs = written ++ '"' :: rest := by
  obtain ⟨more, hread, rfl⟩ := push_eq_ok_iff.1 h
  obtain ⟨written, hwritten, rfl⟩ := hmore hread
  exact ⟨front ++ written, .cons hchar hwritten, (List.append_assoc ..).symm⟩

/-- **What is read was written,** and the closing quote stands behind it. -/
theorem exists_spells_of_decode {high : Option Nat} {cs text rest front : List Char}
    (h : decode high cs = .ok (text, rest)) (hbegun : Begun high front) :
    ∃ written, Spells written text ∧ front ++ cs = written ++ '"' :: rest := by
  -- `front` is what has been read of the character under way, so the induction can go on from a
  -- first surrogate; all other steps begin with nothing.
  fun_induction decode high cs generalizing front text with
  | case2 high a b c d more char hmeaning ih =>
    have hread := exists_spells_of_push (hbegun.spellsChar hmeaning) h (ih · .nothing)
    rwa [List.append_assoc] at hread
  | case3 high a b c d more n hmeaning ih =>
    have hread := ih h (hbegun.begun hmeaning)
    rwa [List.append_assoc] at hread
  | case7 =>
    cases hbegun
    obtain ⟨rfl, rfl⟩ := Prod.mk.inj (Except.ok.inj h)
    exact ⟨[], .nil, rfl⟩
  | case9 l more _ _ char hletter ih =>
    cases hbegun
    have hread := exists_spells_of_push (.letter hletter) h (ih · .nothing)
    exact hread
  | case12 c more _ _ hquote hlast hletter hcontrol ih =>
    have hbackslash : c ≠ '\\' := by
      rintro rfl
      cases more with
      | nil => exact hlast rfl rfl
      | cons l more => exact hletter l more rfl rfl
    cases hbegun
    have hplain := SpellsChar.plain (Nat.not_lt.1 hcontrol) hquote hbackslash
    have hread := exists_spells_of_push hplain h (ih · .nothing)
    exact hread
  | _ => cases h

/-- **A text is read exactly if it is written,** up to the closing quote. -/
theorem decode_eq_ok_iff {cs text rest : List Char} :
    decode none cs = .ok (text, rest) ↔
      ∃ written, Spells written text ∧ cs = written ++ '"' :: rest := by
  constructor
  · exact fun h => exists_spells_of_decode h .nothing
  · rintro ⟨written, hwritten, rfl⟩
    induction hwritten with
    | nil => rfl
    | cons hchar _ ih => rw [List.append_assoc, decode_of_spellsChar hchar, ih]; rfl

/-- A character is written in one of its forms. -/
theorem spellsChar_encodeChar (c : Char) : SpellsChar (encodeChar c) c := by
  have hhex : ∀ n < 16, hexValue? (hexDigit n) = some n := by decide
  fun_cases encodeChar c with
  | case8 _ _ _ _ _ _ _ hcontrol =>
    have hunit : unit? '0' '0' (hexDigit (c.toNat / 16)) (hexDigit (c.toNat % 16)) =
        some c.toNat := by
      have hzero : hexValue? '0' = some 0 := rfl
      simp [unit?, hzero, hhex _ (show c.toNat / 16 < 16 by omega),
        hhex _ (show c.toNat % 16 < 16 by omega)]
      omega
    have hhigh : isHigh c.toNat = false := by simp [isHigh]; omega
    have hlow : isLow c.toNat = false := by simp [isLow]; omega
    have hchar := SpellsChar.unit hunit hhigh hlow
    rwa [Char.ofNat_toNat] at hchar
  | case9 hquote hbackslash _ _ _ _ _ hplain => exact .plain (Nat.not_lt.1 hplain) hquote hbackslash
  | _ =>
    subst_vars
    exact .letter rfl

/-- **A text is written between its quotes.** -/
theorem spells_flatMap_encodeChar (text : List Char) : Spells (text.flatMap encodeChar) text := by
  induction text with
  | nil => exact .nil
  | cons c text ih =>
    rw [List.flatMap_cons]
    exact .cons (spellsChar_encodeChar c) ih

end Quoted

/-! ### Numbers -/

/-- One ASCII digit or more. -/
def AreSomeDigits (cs : List Char) : Prop := cs ≠ [] ∧ Numeral.AreDigits cs

/-- The whole part of a number: a zero, or digits that begin with another one. -/
def IsWhole (cs : List Char) : Prop := cs = ['0'] ∨ AreSomeDigits cs ∧ cs.head? ≠ some '0'

/-- The decimal places of a number, or nothing. -/
def ArePlaces (cs : List Char) : Prop := cs = [] ∨ ∃ ds, AreSomeDigits ds ∧ cs = '.' :: ds

/-- The exponent of a number, with a sign or without, or nothing. -/
def IsExponent (cs : List Char) : Prop :=
  cs = [] ∨ ∃ e sign ds, (e = 'e' ∨ e = 'E') ∧ (sign = [] ∨ sign = ['+'] ∨ sign = ['-']) ∧
    AreSomeDigits ds ∧ cs = e :: (sign ++ ds)

/-- A number without a sign: a whole part, decimal places and an exponent. -/
inductive IsUnsigned : List Char → Prop
  | intro {whole places exponent : List Char} : IsWhole whole → ArePlaces places →
      IsExponent exponent → IsUnsigned (whole ++ places ++ exponent)

/-- A number, with a minus in front or without. -/
def IsNumber (cs : List Char) : Prop := IsUnsigned cs ∨ ∃ more, IsUnsigned more ∧ cs = '-' :: more

/-- A text begins with none of the characters with which a number could go on. -/
def EndsNumber (rest : List Char) : Prop :=
  ∀ c ∈ rest.head?, c.isDigit = false ∧ c ≠ '.' ∧ c ≠ 'e' ∧ c ≠ 'E'

namespace Reader

variable {cs found rest : List Char}

/-- The digits that are read are there, at least one. -/
theorem areSomeDigits_of_digits (h : digits cs = .ok (found, rest)) :
    AreSomeDigits found ∧ cs = found ++ rest := by
  rw [digits, List.span_eq_takeWhile_dropWhile] at h
  split at h
  case h_1 => cases h
  case h_2 => cases h
  case h_3 _ hne =>
    obtain ⟨rfl, rfl⟩ := Prod.mk.inj (Except.ok.inj h)
    refine ⟨⟨fun hnil => hne _ (Prod.ext hnil rfl), fun c hc => List.mem_takeWhile_imp hc⟩,
      List.takeWhile_append_dropWhile.symm⟩

/-- Digits are read up to a character that is none. -/
theorem digits_append (hfound : AreSomeDigits found)
    (hrest : ∀ c ∈ rest.head?, c.isDigit = false) : digits (found ++ rest) = .ok (found, rest) := by
  obtain ⟨hne, hdigits⟩ := hfound
  rw [digits, span_append_of_head hdigits hrest]
  cases found with
  | nil => exact absurd rfl hne
  | cons d found => rfl

theorem isWhole_of_whole (h : whole cs = .ok (found, rest)) :
    IsWhole found ∧ cs = found ++ rest := by
  unfold whole at h
  split at h
  case h_1 =>
    obtain ⟨rfl, rfl⟩ := Prod.mk.inj (Except.ok.inj h)
    exact ⟨.inl rfl, rfl⟩
  case h_2 hzero =>
    obtain ⟨hfound, rfl⟩ := areSomeDigits_of_digits h
    refine ⟨.inr ⟨hfound, fun hhead => ?_⟩, rfl⟩
    obtain ⟨d, more, rfl⟩ := List.exists_cons_of_ne_nil hfound.1
    exact hzero _ (congrArg (· :: (more ++ rest)) (Option.some.inj hhead))

theorem whole_append (hfound : IsWhole found) (hrest : ∀ c ∈ rest.head?, c.isDigit = false) :
    whole (found ++ rest) = .ok (found, rest) := by
  rcases hfound with rfl | ⟨hdigits, hzero⟩
  · rfl
  · rw [← digits_append hdigits hrest, whole.eq_def]
    obtain ⟨d, more, rfl⟩ := List.exists_cons_of_ne_nil hdigits.1
    split
    case h_1 heq => exact absurd (congrArg some (List.cons.inj heq).1) hzero
    case h_2 => rfl

theorem arePlaces_of_places (h : places cs = .ok (found, rest)) :
    ArePlaces found ∧ cs = found ++ rest := by
  unfold places at h
  split at h
  case h_1 =>
    obtain ⟨⟨ds, more⟩, hdigits, hpair⟩ := exists_of_bind_eq_ok h
    obtain ⟨rfl, rfl⟩ := Prod.mk.inj (Except.ok.inj hpair)
    obtain ⟨hds, rfl⟩ := areSomeDigits_of_digits hdigits
    exact ⟨.inr ⟨ds, hds, rfl⟩, rfl⟩
  case h_2 =>
    obtain ⟨rfl, rfl⟩ := Prod.mk.inj (Except.ok.inj h)
    exact ⟨.inl rfl, rfl⟩

theorem places_append (hfound : ArePlaces found)
    (hrest : ∀ c ∈ rest.head?, c.isDigit = false ∧ c ≠ '.') :
    places (found ++ rest) = .ok (found, rest) := by
  rcases hfound with rfl | ⟨ds, hds, rfl⟩
  · rw [List.nil_append, places.eq_def]
    split
    case h_1 => exact absurd rfl (hrest '.' rfl).2
    case h_2 => rfl
  · rw [List.cons_append, places, digits_append hds fun c hc => (hrest c hc).1]
    rfl

theorem isExponent_of_exponent (h : exponent cs = .ok (found, rest)) :
    IsExponent found ∧ cs = found ++ rest := by
  unfold exponent at h
  split at h
  case h_2 =>
    obtain ⟨rfl, rfl⟩ := Prod.mk.inj (Except.ok.inj h)
    exact ⟨.inl rfl, rfl⟩
  case h_1 e more =>
    split at h
    case isFalse =>
      obtain ⟨rfl, rfl⟩ := Prod.mk.inj (Except.ok.inj h)
      exact ⟨.inl rfl, rfl⟩
    case isTrue he =>
      split at h
      case h_2 => cases h
      case h_1 sign more =>
        split at h
        case isTrue hsign =>
          obtain ⟨⟨ds, more⟩, hdigits, hpair⟩ := exists_of_bind_eq_ok h
          obtain ⟨rfl, rfl⟩ := Prod.mk.inj (Except.ok.inj hpair)
          obtain ⟨hds, rfl⟩ := areSomeDigits_of_digits hdigits
          refine ⟨.inr ⟨e, [sign], ds, he, .inr ?_, hds, rfl⟩, rfl⟩
          simpa using hsign
        case isFalse hsign =>
          obtain ⟨⟨ds, more⟩, hdigits, hpair⟩ := exists_of_bind_eq_ok h
          obtain ⟨rfl, rfl⟩ := Prod.mk.inj (Except.ok.inj hpair)
          obtain ⟨hds, heq⟩ := areSomeDigits_of_digits hdigits
          exact ⟨.inr ⟨e, [], ds, he, .inl rfl, hds, rfl⟩, by rw [heq]; rfl⟩

theorem exponent_append (hfound : IsExponent found)
    (hrest : ∀ c ∈ rest.head?, c.isDigit = false ∧ c ≠ 'e' ∧ c ≠ 'E') :
    exponent (found ++ rest) = .ok (found, rest) := by
  rcases hfound with rfl | ⟨e, sign, ds, he, hsign, hds, rfl⟩
  · cases rest with
    | nil => rfl
    | cons c rest =>
      obtain ⟨-, hlower, hupper⟩ := hrest c rfl
      rw [List.nil_append, exponent.eq_def]
      exact if_neg (not_or.2 ⟨hlower, hupper⟩)
  · have hdigits := digits_append hds fun c hc => (hrest c hc).1
    rcases hsign with rfl | rfl | rfl
    · obtain ⟨d, more, rfl⟩ := List.exists_cons_of_ne_nil hds.1
      have hd : ¬ (d = '+' ∨ d = '-') := by
        have hdigit := hds.2 d (List.mem_cons_self ..)
        rintro (rfl | rfl) <;> cases hdigit
      simp only [List.cons_append, List.nil_append, exponent, if_pos he, if_neg hd]
      rw [← List.cons_append, hdigits]
      rfl
    · simp only [List.cons_append, List.nil_append, exponent, if_pos he]
      rw [hdigits]
      rfl
    · simp only [List.cons_append, List.nil_append, exponent, if_pos he]
      rw [hdigits]
      rfl

theorem isUnsigned_of_unsigned (h : unsigned cs = .ok (found, rest)) :
    IsUnsigned found ∧ cs = found ++ rest := by
  obtain ⟨⟨whole, afterWhole⟩, hwhole, h⟩ := exists_of_bind_eq_ok h
  obtain ⟨⟨places, afterPlaces⟩, hplaces, h⟩ := exists_of_bind_eq_ok h
  obtain ⟨⟨exponent, afterExponent⟩, hexponent, h⟩ := exists_of_bind_eq_ok h
  obtain ⟨rfl, rfl⟩ := Prod.mk.inj (Except.ok.inj h)
  obtain ⟨hiswhole, rfl⟩ := isWhole_of_whole hwhole
  obtain ⟨hareplaces, rfl⟩ := arePlaces_of_places hplaces
  obtain ⟨hisexponent, rfl⟩ := isExponent_of_exponent hexponent
  exact ⟨.intro hiswhole hareplaces hisexponent, by simp only [List.append_assoc]⟩

theorem unsigned_append (hfound : IsUnsigned found) (hrest : EndsNumber rest) :
    unsigned (found ++ rest) = .ok (found, rest) := by
  obtain ⟨hwhole, hplaces, hexponent⟩ := hfound
  rename_i whole places exponent
  have hafterPlaces : ∀ c ∈ (exponent ++ rest).head?, c.isDigit = false ∧ c ≠ '.' := by
    rcases hexponent with rfl | ⟨e, sign, ds, he, -, -, rfl⟩
    · exact fun c hc => ⟨(hrest c hc).1, (hrest c hc).2.1⟩
    · intro c hc
      obtain rfl := Option.some.inj hc
      rcases he with rfl | rfl <;> decide
  have hafterWhole : ∀ c ∈ (places ++ (exponent ++ rest)).head?, c.isDigit = false := by
    rcases hplaces with rfl | ⟨ds, -, rfl⟩
    · exact fun c hc => (hafterPlaces c hc).1
    · intro c hc
      obtain rfl := Option.some.inj hc
      decide
  have hafter : ∀ c ∈ rest.head?, c.isDigit = false ∧ c ≠ 'e' ∧ c ≠ 'E' := fun c hc =>
    ⟨(hrest c hc).1, (hrest c hc).2.2⟩
  rw [List.append_assoc, List.append_assoc, unsigned, whole_append hwhole hafterWhole]
  simp only [bind, Except.bind, places_append hplaces hafterPlaces,
    exponent_append hexponent hafter]
  rfl

/-- A number that is read is there. -/
theorem isNumber_of_number (h : number cs = .ok (found, rest)) :
    IsNumber found ∧ cs = found ++ rest := by
  unfold number at h
  split at h
  case h_1 =>
    obtain ⟨⟨more, after⟩, hmore, hpair⟩ := exists_of_bind_eq_ok h
    obtain ⟨rfl, rfl⟩ := Prod.mk.inj (Except.ok.inj hpair)
    obtain ⟨hunsigned, rfl⟩ := isUnsigned_of_unsigned hmore
    exact ⟨.inr ⟨more, hunsigned, rfl⟩, rfl⟩
  case h_2 =>
    obtain ⟨hunsigned, heq⟩ := isUnsigned_of_unsigned h
    exact ⟨.inl hunsigned, heq⟩

end Reader

/-- A number without a sign begins with a digit. -/
theorem IsUnsigned.exists_digit {cs : List Char} (h : IsUnsigned cs) :
    ∃ d more, cs = d :: more ∧ d.isDigit = true := by
  obtain ⟨hwhole, -, -⟩ := h
  rename_i whole places exponent
  rcases hwhole with rfl | ⟨⟨hne, hdigits⟩, -⟩
  · exact ⟨'0', places ++ exponent, rfl, rfl⟩
  · obtain ⟨d, more, rfl⟩ := List.exists_cons_of_ne_nil hne
    exact ⟨d, more ++ places ++ exponent, rfl, hdigits d (List.mem_cons_self ..)⟩

/-- A number begins with a minus or a digit. -/
theorem IsNumber.exists_first {cs : List Char} (h : IsNumber cs) :
    ∃ d more, cs = d :: more ∧ (d = '-' ∨ d.isDigit = true) := by
  rcases h with hunsigned | ⟨more, -, rfl⟩
  · obtain ⟨d, more, rfl, hd⟩ := hunsigned.exists_digit
    exact ⟨d, more, rfl, .inr hd⟩
  · exact ⟨'-', more, rfl, .inl rfl⟩

/-- **A number is read up to a character with which it could not go on.** -/
theorem Reader.number_append {found rest : List Char} (hfound : IsNumber found)
    (hrest : EndsNumber rest) : number (found ++ rest) = .ok (found, rest) := by
  rcases hfound with hunsigned | ⟨more, hunsigned, rfl⟩
  · rw [← unsigned_append hunsigned hrest, number.eq_def]
    obtain ⟨d, more, rfl, hd⟩ := hunsigned.exists_digit
    split
    case h_1 heq =>
      obtain rfl := (List.cons.inj heq).1
      cases hd
    case h_2 => rfl
  · rw [List.cons_append, number, unsigned_append hunsigned hrest]
    rfl

/-- **The numeral of a natural number is a number.** -/
theorem isNumber_digits (n : Nat) : IsNumber (Numeral.digits n) := by
  have hwhole : IsWhole (Numeral.digits n) := by
    by_cases hn : n = 0
    · subst hn
      exact .inl (by decide +kernel)
    · exact .inr ⟨⟨Numeral.digits_ne_nil n, Numeral.areDigits_digits n⟩,
        Numeral.head?_digits_ne_zero hn⟩
  have hunsigned := IsUnsigned.intro hwhole (.inl rfl) (.inl rfl)
  rw [List.append_nil, List.append_nil] at hunsigned
  exact .inl hunsigned

end Json
end ServiceReadiness
