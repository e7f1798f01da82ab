/-
# Which texts are JSON

A value is a word, a number, a text, an array or an object, with blanks between its parts and
around it or without (`Denotes`).  The grammar knows nothing of a reader: that blanks may stand
around a value is two of its rules, and a text has no allowance of steps.

The reader takes a value from the front of a text.  If the value is denoted, and what stands
behind is nothing with which a number could go on, the reader finds the value and leaves the rest
but for blanks; two steps for each character are enough (`Denotes.value_append`).  The other way
round, whatever the reader takes away denotes what it found (`exists_denotes_of_value`).  So a
whole text is read exactly if it denotes a value (`parse_eq_ok_iff`), which leaves room for no
second value (`Denotes.unique`).  A value with nothing but numbers for its numbers is denoted by
its compact text (`Regular.denotes_render`), and every value that is denoted at all is such a one
(`Denotes.regular`).
-/

import Mathlib.Data.List.DropRight
import ServiceReadiness.Proofs.JsonLexemes

namespace ServiceReadiness
namespace Json

/-! ### Values -/

mutual

/-- A text denotes a value, with blanks between its parts and around it or without. -/
inductive Denotes : List Char → Json → Prop
  | null : Denotes "null".toList null
  | yes : Denotes "true".toList (bool true)
  | no : Denotes "false".toList (bool false)
  | number {written : List Char} : IsNumber written → Denotes written (number written)
  | text {written value : List Char} : Quoted.Spells written value →
      Denotes ('"' :: (written ++ ['"'])) (text value)
  | emptyArray {blanks : List Char} : (∀ c ∈ blanks, Reader.isBlank c = true) →
      Denotes ('[' :: (blanks ++ [']'])) (array [])
  | array {inner : List Char} {items : List Json} : DenoteItems inner items →
      Denotes ('[' :: (inner ++ [']'])) (array items)
  | emptyObject {blanks : List Char} : (∀ c ∈ blanks, Reader.isBlank c = true) →
      Denotes ('\x7b' :: (blanks ++ ['\x7d'])) (object [])
  | object {inner : List Char} {fields : List (List Char × Json)} : DenoteFields inner fields →
      Denotes ('\x7b' :: (inner ++ ['\x7d'])) (object fields)
  | before {b : Char} {cs : List Char} {j : Json} : Reader.isBlank b = true → Denotes cs j →
      Denotes (b :: cs) j
  | after {b : Char} {cs : List Char} {j : Json} : Reader.isBlank b = true → Denotes cs j →
      Denotes (cs ++ [b]) j

/-- A text denotes the items of an array, at least one, with commas between them. -/
inductive DenoteItems : List Char → List Json → Prop
  | last {cs : List Char} {item : Json} : Denotes cs item → DenoteItems cs [item]
  | cons {cs more : List Char} {item : Json} {items : List Json} : Denotes cs item →
      DenoteItems more items → DenoteItems (cs ++ ',' :: more) (item :: items)

/-- A text denotes the fields of an object, at least one, with commas between them.  The name of a
field is a text, and a colon stands behind it. -/
inductive DenoteFields : List Char → List (List Char × Json) → Prop
  | last {front cs name : List Char} {value : Json} : Denotes front (.text name) →
      Denotes cs value → DenoteFields (front ++ ':' :: cs) [(name, value)]
  | cons {front cs more name : List Char} {value : Json} {fields : List (List Char × Json)} :
      Denotes front (.text name) → Denotes cs value → DenoteFields more fields →
      DenoteFields (front ++ ':' :: (cs ++ ',' :: more)) ((name, value) :: fields)

end

namespace Reader

variable {cs rest : List Char}

theorem skip_cons {b : Char} (h : isBlank b = true) (cs : List Char) : skip (b :: cs) = skip cs :=
  List.dropWhile_cons_of_pos h

/-- What is no blank is not skipped. -/
theorem skip_mark {c : Char} (h : isBlank c = false) (cs : List Char) :
    skip (c :: cs) = c :: cs :=
  List.dropWhile_cons_of_neg (Bool.eq_false_iff.1 h)

theorem skip_skip (cs : List Char) : skip (skip cs) = skip cs :=
  List.dropWhile_idempotent isBlank cs

theorem value_skip (allowance : Nat) (cs : List Char) :
    value allowance (skip cs) = value allowance cs := by
  cases allowance with
  | zero => rfl
  | succ allowance => simp only [value, skip_skip]

theorem itemsFrom_skip (allowance : Nat) (cs : List Char) :
    itemsFrom allowance (skip cs) = itemsFrom allowance cs := by
  cases allowance with
  | zero => rfl
  | succ allowance => simp only [itemsFrom, value_skip]

theorem name_skip (cs : List Char) : name (skip cs) = name cs := by simp only [name, skip_skip]

theorem fieldsFrom_skip (allowance : Nat) (cs : List Char) :
    fieldsFrom allowance (skip cs) = fieldsFrom allowance cs := by
  cases allowance with
  | zero => rfl
  | succ allowance => simp only [fieldsFrom, name_skip]

theorem value_cons {b : Char} (h : isBlank b = true) (allowance : Nat) (cs : List Char) :
    value allowance (b :: cs) = value allowance cs := by
  rw [← value_skip, skip_cons h, value_skip]

theorem name_cons {b : Char} (h : isBlank b = true) (cs : List Char) :
    name (b :: cs) = name cs := by
  rw [← name_skip, skip_cons h, name_skip]

/-- What begins with a minus or a digit is read as a number. -/
theorem value_of_first {d : Char} (hd : d = '-' ∨ d.isDigit = true) (allowance : Nat)
    (cs : List Char) :
    value (allowance + 1) (d :: cs) =
      (number (d :: cs)).map fun found => (Json.number found.1, found.2) := by
  have hother : ∀ c ∈ [' ', '\n', '\r', '\t', 'n', 't', 'f', '"', '[', '\x7b'], d ≠ c := by
    have hmarks : [' ', '\n', '\r', '\t', 'n', 't', 'f', '"', '[', '\x7b'].all
        (fun c => c != '-' && !c.isDigit) = true := by decide
    rintro c hc rfl
    have hmark := List.all_eq_true.1 hmarks d hc
    rw [Bool.and_eq_true, bne_iff_ne, Bool.not_eq_true'] at hmark
    rcases hd with hminus | hdigit
    · exact hmark.1 hminus
    · exact absurd hdigit (Bool.eq_false_iff.1 hmark.2)
  have hblank : isBlank d = false := by
    simp only [List.mem_cons, List.not_mem_nil, or_false, forall_eq_or_imp, forall_eq] at hother
    simp [isBlank, hother]
  rw [value, skip_mark hblank]
  split
  case h_8 heq =>
    obtain ⟨rfl, rfl⟩ := List.cons.inj heq
    rw [if_pos hd]
    cases number (d :: cs) <;> rfl
  case h_1 heq => cases heq
  all_goals
    rename_i heq
    exact absurd (List.cons.inj heq).1 (hother _ (by decide))

/-- What stands behind a quote is read as a text. -/
theorem value_of_decode {text : List Char} (h : Quoted.decode none cs = .ok (text, rest))
    (allowance : Nat) : value (allowance + 1) ('"' :: cs) = .ok (.text text, rest) := by
  simp only [value, skip_mark (c := '"') rfl, h, bind, Except.bind]
  rfl

theorem skip_append {blanks : List Char} (h : ∀ c ∈ blanks, isBlank c = true) (cs : List Char) :
    skip (blanks ++ cs) = skip cs := by
  induction blanks with
  | nil => rfl
  | cons b blanks ih =>
    rw [List.cons_append, skip_cons (h b (List.mem_cons_self ..))]
    exact ih fun c hc => h c (List.mem_cons_of_mem _ hc)

theorem value_of_emptyArray {blanks : List Char} (h : ∀ c ∈ blanks, isBlank c = true)
    (rest : List Char) (allowance : Nat) :
    value (allowance + 1) ('[' :: (blanks ++ ']' :: rest)) = .ok (array [], rest) := by
  simp only [value, skip_mark (c := '[') rfl, skip_append h, skip_mark (c := ']') rfl]

theorem value_of_emptyObject {blanks : List Char} (h : ∀ c ∈ blanks, isBlank c = true)
    (rest : List Char) (allowance : Nat) :
    value (allowance + 1) ('\x7b' :: (blanks ++ '\x7d' :: rest)) = .ok (object [], rest) := by
  simp only [value, skip_mark (c := '\x7b') rfl, skip_append h, skip_mark (c := '\x7d') rfl]

/-- Items are no end of an array, so an array is read as one that holds them. -/
theorem value_of_itemsFrom {allowance : Nat} {items : List Json}
    (h : itemsFrom allowance cs = .ok (items, rest)) :
    value (allowance + 1) ('[' :: cs) = .ok (array items, rest) := by
  rw [← itemsFrom_skip] at h
  simp only [value, skip_mark (c := '[') rfl]
  split
  case h_1 heq =>
    rw [heq] at h
    cases allowance with
    | zero => cases h
    | succ allowance => cases allowance <;> cases h
  case h_2 =>
    rw [h]
    rfl

/-- Fields are no end of an object, so an object is read as one that holds them. -/
theorem value_of_fieldsFrom {allowance : Nat} {fields : List (List Char × Json)}
    (h : fieldsFrom allowance cs = .ok (fields, rest)) :
    value (allowance + 1) ('\x7b' :: cs) = .ok (object fields, rest) := by
  rw [← fieldsFrom_skip] at h
  simp only [value, skip_mark (c := '\x7b') rfl]
  split
  case h_1 heq =>
    rw [heq] at h
    cases allowance <;> cases h
  case h_2 =>
    rw [h]
    rfl

end Reader

theorem EndsNumber.cons {c : Char}
    (h : c.isDigit = false ∧ c ≠ '.' ∧ c ≠ 'e' ∧ c ≠ 'E') (rest : List Char) :
    EndsNumber (c :: rest) := fun _ hd => Option.some.inj hd ▸ h

theorem EndsNumber.cons_of_isBlank {b : Char} (h : Reader.isBlank b = true) (rest : List Char) :
    EndsNumber (b :: rest) := by
  simp only [Reader.isBlank, Bool.or_eq_true, beq_iff_eq] at h
  rcases h with ((rfl | rfl) | rfl) | rfl <;> exact .cons (by decide) rest

/-- A name is read up to its colon. -/
theorem Denotes.name_append {front name rest more : List Char} (h : Denotes front (.text name))
    (hrest : Reader.skip rest = ':' :: more) : Reader.name (front ++ rest) = .ok (name, more) := by
  match h with
  | @text written _ hwritten =>
    have hdecode : Quoted.decode none (written ++ '"' :: rest) = .ok (name, rest) :=
      Quoted.decode_eq_ok_iff.2 ⟨written, hwritten, rfl⟩
    rw [List.cons_append, List.append_assoc, List.singleton_append]
    simp only [Reader.name, Reader.skip_mark (c := '"') rfl, hdecode, hrest, bind, Except.bind]
    rfl
  | before hb h =>
    rw [List.cons_append, Reader.name_cons hb]
    exact h.name_append hrest
  | after hb h =>
    rw [List.append_assoc]
    exact h.name_append ((Reader.skip_cons hb rest).trans hrest)
termination_by front.length

-- The induction is on the derivation.  A part is shorter than the whole by a character at least,
-- so the two steps that the reader takes to come to it are paid for.

mutual

/-- A value that is denoted is read, up to some of the blanks behind it. -/
theorem Denotes.value_append {cs : List Char} {j : Json} : Denotes cs j →
    ∀ {rest : List Char}, EndsNumber rest → ∀ allowance : Nat, 2 * cs.length < allowance →
      ∃ left, Reader.value allowance (cs ++ rest) = .ok (j, left) ∧
        Reader.skip left = Reader.skip rest
  | .null, rest, _, allowance + 1, _ => ⟨rest, rfl, rfl⟩
  | .yes, rest, _, allowance + 1, _ => ⟨rest, rfl, rfl⟩
  | .no, rest, _, allowance + 1, _ => ⟨rest, rfl, rfl⟩
  | .number hnumber, rest, hrest, allowance + 1, _ => by
    have hread := Reader.number_append hnumber hrest
    obtain ⟨d, more, rfl, hd⟩ := hnumber.exists_first
    refine ⟨rest, ?_, rfl⟩
    rw [List.cons_append, Reader.value_of_first hd, ← List.cons_append, hread]
    rfl
  | @Denotes.text written value hwritten, rest, _, allowance + 1, _ => by
    have hdecode : Quoted.decode none (written ++ '"' :: rest) = .ok (value, rest) :=
      Quoted.decode_eq_ok_iff.2 ⟨written, hwritten, rfl⟩
    refine ⟨rest, ?_, rfl⟩
    rw [List.cons_append, List.append_assoc]
    exact Reader.value_of_decode hdecode allowance
  | @Denotes.emptyArray blanks hblanks, rest, _, allowance + 1, _ => by
    refine ⟨rest, ?_, rfl⟩
    rw [List.cons_append, List.append_assoc]
    exact Reader.value_of_emptyArray hblanks rest allowance
  | @Denotes.array inner items hitems, rest, _, allowance + 1, hlength => by
    rw [List.length_cons, List.length_append, List.length_singleton] at hlength
    have hread := hitems.itemsFrom_append rest allowance (by omega)
    refine ⟨rest, ?_, rfl⟩
    rw [List.cons_append, List.append_assoc]
    exact Reader.value_of_itemsFrom hread
  | @Denotes.emptyObject blanks hblanks, rest, _, allowance + 1, _ => by
    refine ⟨rest, ?_, rfl⟩
    rw [List.cons_append, List.append_assoc]
    exact Reader.value_of_emptyObject hblanks rest allowance
  | @Denotes.object inner fields hfields, rest, _, allowance + 1, hlength => by
    rw [List.length_cons, List.length_append, List.length_singleton] at hlength
    have hread := hfields.fieldsFrom_append rest allowance (by omega)
    refine ⟨rest, ?_, rfl⟩
    rw [List.cons_append, List.append_assoc]
    exact Reader.value_of_fieldsFrom hread
  | .before hb h, rest, hrest, allowance, hlength => by
    rw [List.length_cons] at hlength
    rw [List.cons_append, Reader.value_cons hb]
    exact h.value_append hrest allowance (by omega)
  | @Denotes.after b cs j hb h, rest, hrest, allowance, hlength => by
    rw [List.length_append] at hlength
    have hends : EndsNumber (b :: rest) := .cons_of_isBlank hb rest
    obtain ⟨left, hvalue, hleft⟩ := h.value_append hends allowance (by omega)
    rw [List.append_assoc]
    exact ⟨left, hvalue, hleft.trans (Reader.skip_cons hb rest)⟩

/-- Items that are denoted are read, up to the end of their array. -/
theorem DenoteItems.itemsFrom_append {cs : List Char} {items : List Json} :
    DenoteItems cs items → ∀ (rest : List Char) (allowance : Nat), 2 * cs.length + 1 < allowance →
      Reader.itemsFrom allowance (cs ++ ']' :: rest) = .ok (items, rest)
  | .last h, rest, allowance + 1, hlength => by
    have hends : EndsNumber (']' :: rest) := .cons (by decide) rest
    obtain ⟨left, hvalue, hleft⟩ := h.value_append hends allowance (by omega)
    simp only [Reader.itemsFrom, hvalue, bind, Except.bind, hleft,
      Reader.skip_mark (c := ']') rfl]
    rfl
  | @DenoteItems.cons cs more item items h hmore, rest, allowance + 1, hlength => by
    rw [List.length_append, List.length_cons] at hlength
    have hends : EndsNumber (',' :: (more ++ ']' :: rest)) := .cons (by decide) _
    obtain ⟨left, hvalue, hleft⟩ := h.value_append hends allowance (by omega)
    have hitems := hmore.itemsFrom_append rest allowance (by omega)
    rw [List.append_assoc, List.cons_append]
    simp only [Reader.itemsFrom, hvalue, bind, Except.bind, hleft,
      Reader.skip_mark (c := ',') rfl, hitems]
    rfl

/-- Fields that are denoted are read, up to the end of their object. -/
theorem DenoteFields.fieldsFrom_append {cs : List Char} {fields : List (List Char × Json)} :
    DenoteFields cs fields → ∀ (rest : List Char) (allowance : Nat),
      2 * cs.length + 1 < allowance →
      Reader.fieldsFrom allowance (cs ++ '\x7d' :: rest) = .ok (fields, rest)
  | @DenoteFields.last front cs name value hname h, rest, allowance + 1, hlength => by
    rw [List.length_append, List.length_cons] at hlength
    have hends : EndsNumber ('\x7d' :: rest) := .cons (by decide) rest
    obtain ⟨left, hvalue, hleft⟩ := h.value_append hends allowance (by omega)
    have hname := hname.name_append (Reader.skip_mark (c := ':') rfl (cs ++ '\x7d' :: rest))
    rw [List.append_assoc, List.cons_append]
    simp only [Reader.fieldsFrom, hname, hvalue, bind, Except.bind, hleft,
      Reader.skip_mark (c := '\x7d') rfl]
    rfl
  | @DenoteFields.cons front cs more name value fields hname h hmore, rest, allowance + 1,
      hlength => by
    simp only [List.length_append, List.length_cons] at hlength
    have hends : EndsNumber (',' :: (more ++ '\x7d' :: rest)) := .cons (by decide) _
    obtain ⟨left, hvalue, hleft⟩ := h.value_append hends allowance (by omega)
    have hfields := hmore.fieldsFrom_append rest allowance (by omega)
    have hname := hname.name_append
      (Reader.skip_mark (c := ':') rfl (cs ++ ',' :: (more ++ '\x7d' :: rest)))
    rw [List.append_assoc, List.cons_append, List.append_assoc, List.cons_append]
    simp only [Reader.fieldsFrom, hname, hvalue, bind, Except.bind, hleft,
      Reader.skip_mark (c := ',') rfl, hfields]
    rfl

end

theorem Denotes.before_append {blanks cs : List Char} {j : Json}
    (hblanks : ∀ c ∈ blanks, Reader.isBlank c = true) (h : Denotes cs j) :
    Denotes (blanks ++ cs) j := by
  induction blanks with
  | nil => exact h
  | cons b blanks ih =>
    exact .before (hblanks b (List.mem_cons_self ..))
      (ih fun c hc => hblanks c (List.mem_cons_of_mem _ hc))

theorem Denotes.after_append {cs blanks : List Char} {j : Json} (h : Denotes cs j)
    (hblanks : ∀ c ∈ blanks, Reader.isBlank c = true) : Denotes (cs ++ blanks) j := by
  induction blanks generalizing cs with
  | nil => rwa [List.append_nil]
  | cons b blanks ih =>
    rw [List.append_cons]
    exact ih (.after (hblanks b (List.mem_cons_self ..)) h) fun c hc =>
      hblanks c (List.mem_cons_of_mem _ hc)

namespace Reader

variable {cs rest : List Char}

/-- What is skipped are blanks. -/
theorem exists_blanks_append_skip (cs : List Char) :
    ∃ blanks, (∀ c ∈ blanks, isBlank c = true) ∧ cs = blanks ++ skip cs :=
  ⟨cs.takeWhile isBlank, fun _ hc => List.mem_takeWhile_imp hc,
    List.takeWhile_append_dropWhile.symm⟩

theorem eq_append_of_word {expected : List Char} (h : word expected cs = .ok rest) :
    cs = expected ++ rest := by
  fun_induction word expected cs with
  | case1 => exact Except.ok.inj h
  | case2 => cases h
  | case3 e expected cs ih => rw [ih h, List.cons_append]
  | case4 => cases h

/-- A value that is denoted behind blanks is denoted with them. -/
theorem exists_denotes_of_skip {front : List Char} {j : Json} (hfront : Denotes front j)
    (h : skip cs = front ++ rest) : ∃ front, Denotes front j ∧ cs = front ++ rest := by
  obtain ⟨blanks, hblanks, hcs⟩ := exists_blanks_append_skip cs
  rw [h, ← List.append_assoc] at hcs
  exact ⟨blanks ++ front, hfront.before_append hblanks, hcs⟩

/-- A value is denoted with the blanks before what stands behind it. -/
theorem exists_denotes_of_skip_rest {front more : List Char} {c : Char} {j : Json}
    (hfront : Denotes front j) (h : skip rest = c :: more) :
    ∃ front', Denotes front' j ∧ front ++ rest = front' ++ c :: more := by
  obtain ⟨blanks, hblanks, hrest⟩ := exists_blanks_append_skip rest
  rw [h] at hrest
  exact ⟨front ++ blanks, hfront.after_append hblanks, by rw [hrest, List.append_assoc]⟩

/-- A word that is read is denoted. -/
theorem exists_denotes_of_word {first : Char} {expected more : List Char} {j found : Json}
    (hword : Denotes (first :: expected) j) (hskip : skip cs = first :: more)
    (h : (do return (j, ← word expected more)) = Except.ok (found, rest)) :
    ∃ front, Denotes front found ∧ cs = front ++ rest := by
  obtain ⟨after, hafter, hpair⟩ := exists_of_bind_eq_ok h
  obtain ⟨rfl, rfl⟩ := Prod.mk.inj (Except.ok.inj hpair)
  exact exists_denotes_of_skip hword (hskip.trans (congrArg _ (eq_append_of_word hafter)))

/-- A name that is read is denoted, with the colon behind it. -/
theorem exists_denotes_of_name {found : List Char} (h : name cs = .ok (found, rest)) :
    ∃ front, Denotes front (.text found) ∧ cs = front ++ ':' :: rest := by
  rw [name] at h
  split at h
  case h_2 inner hskip =>
    obtain ⟨⟨text, after⟩, hdecode, h⟩ := exists_of_bind_eq_ok h
    dsimp only at h
    split at h
    case h_2 hafter =>
      obtain ⟨rfl, rfl⟩ := Prod.mk.inj (Except.ok.inj h)
      obtain ⟨written, hwritten, rfl⟩ := Quoted.decode_eq_ok_iff.1 hdecode
      obtain ⟨front, hfront, heq⟩ := exists_denotes_of_skip_rest (.text hwritten) hafter
      refine exists_denotes_of_skip hfront (hskip.trans (Eq.trans ?_ heq))
      rw [List.cons_append, List.append_assoc]
      rfl
    all_goals cases h
  all_goals cases h

-- The induction is on the allowance, which the reader hands down whole to every part.

mutual

/-- A value that is read is denoted. -/
theorem exists_denotes_of_value {j : Json} : ∀ {allowance : Nat} {cs rest : List Char},
    value allowance cs = .ok (j, rest) → ∃ front, Denotes front j ∧ cs = front ++ rest
  | allowance + 1, cs, rest, h => by
    rw [value] at h
    split at h
    case h_1 => cases h
    case h_2 hskip => exact exists_denotes_of_word .null hskip h
    case h_3 hskip => exact exists_denotes_of_word .yes hskip h
    case h_4 hskip => exact exists_denotes_of_word .no hskip h
    case h_5 hskip =>
      obtain ⟨⟨text, after⟩, hdecode, h⟩ := exists_of_bind_eq_ok h
      obtain ⟨rfl, rfl⟩ := Prod.mk.inj (Except.ok.inj h)
      obtain ⟨written, hwritten, rfl⟩ := Quoted.decode_eq_ok_iff.1 hdecode
      refine exists_denotes_of_skip (.text hwritten) (hskip.trans ?_)
      rw [List.cons_append, List.append_assoc]
      rfl
    case h_6 inner hskip =>
      split at h
      case h_1 hinner =>
        obtain ⟨rfl, rfl⟩ := Prod.mk.inj (Except.ok.inj h)
        obtain ⟨blanks, hblanks, heq⟩ := exists_blanks_append_skip inner
        refine exists_denotes_of_skip (.emptyArray hblanks) (hskip.trans ?_)
        rw [hinner] at heq
        rw [List.cons_append, List.append_assoc, heq]
        rfl
      case h_2 =>
        obtain ⟨⟨items, after⟩, hitems, h⟩ := exists_of_bind_eq_ok h
        obtain ⟨rfl, rfl⟩ := Prod.mk.inj (Except.ok.inj h)
        rw [itemsFrom_skip] at hitems
        obtain ⟨front, hfront, rfl⟩ := exists_denoteItems_of_itemsFrom hitems
        refine exists_denotes_of_skip (.array hfront) (hskip.trans ?_)
        rw [List.cons_append, List.append_assoc]
        rfl
    case h_7 inner hskip =>
      split at h
      case h_1 hinner =>
        obtain ⟨rfl, rfl⟩ := Prod.mk.inj (Except.ok.inj h)
        obtain ⟨blanks, hblanks, heq⟩ := exists_blanks_append_skip inner
        refine exists_denotes_of_skip (.emptyObject hblanks) (hskip.trans ?_)
        rw [hinner] at heq
        rw [List.cons_append, List.append_assoc, heq]
        rfl
      case h_2 =>
        obtain ⟨⟨fields, after⟩, hfields, h⟩ := exists_of_bind_eq_ok h
        obtain ⟨rfl, rfl⟩ := Prod.mk.inj (Except.ok.inj h)
        rw [fieldsFrom_skip] at hfields
        obtain ⟨front, hfront, rfl⟩ := exists_denoteFields_of_fieldsFrom hfields
        refine exists_denotes_of_skip (.object hfront) (hskip.trans ?_)
        rw [List.cons_append, List.append_assoc]
        rfl
    case h_8 hskip =>
      split at h
      case isFalse => cases h
      case isTrue =>
        obtain ⟨⟨written, after⟩, hnumber, h⟩ := exists_of_bind_eq_ok h
        obtain ⟨rfl, rfl⟩ := Prod.mk.inj (Except.ok.inj h)
        obtain ⟨hwritten, heq⟩ := isNumber_of_number hnumber
        exact exists_denotes_of_skip (.number hwritten) (hskip.trans heq)

/-- Items that are read are denoted, with the end of their array behind them. -/
theorem exists_denoteItems_of_itemsFrom {items : List Json} :
    ∀ {allowance : Nat} {cs rest : List Char}, itemsFrom allowance cs = .ok (items, rest) →
      ∃ front, DenoteItems front items ∧ cs = front ++ ']' :: rest
  | allowance + 1, cs, rest, h => by
    obtain ⟨⟨item, after⟩, hvalue, hend⟩ := exists_of_bind_eq_ok h
    obtain ⟨front, hfront, rfl⟩ := exists_denotes_of_value hvalue
    dsimp only at hend
    split at hend
    case h_2 hafter =>
      obtain ⟨rfl, rfl⟩ := Prod.mk.inj (Except.ok.inj hend)
      obtain ⟨front, hfront, heq⟩ := exists_denotes_of_skip_rest hfront hafter
      exact ⟨front, .last hfront, heq⟩
    case h_3 hafter =>
      obtain ⟨⟨items, after⟩, hitems, hpair⟩ := exists_of_bind_eq_ok hend
      obtain ⟨rfl, rfl⟩ := Prod.mk.inj (Except.ok.inj hpair)
      obtain ⟨more, hmore, rfl⟩ := exists_denoteItems_of_itemsFrom hitems
      obtain ⟨front, hfront, heq⟩ := exists_denotes_of_skip_rest hfront hafter
      exact ⟨front ++ ',' :: more, .cons hfront hmore, by rw [heq, List.append_assoc]; rfl⟩
    all_goals cases hend

/-- Fields that are read are denoted, with the end of their object behind them. -/
theorem exists_denoteFields_of_fieldsFrom {fields : List (List Char × Json)} :
    ∀ {allowance : Nat} {cs rest : List Char}, fieldsFrom allowance cs = .ok (fields, rest) →
      ∃ front, DenoteFields front fields ∧ cs = front ++ '\x7d' :: rest
  | allowance + 1, cs, rest, h => by
    obtain ⟨⟨name, afterName⟩, hname, hrest⟩ := exists_of_bind_eq_ok h
    obtain ⟨⟨found, after⟩, hvalue, hend⟩ := exists_of_bind_eq_ok hrest
    obtain ⟨nameFront, hnameFront, rfl⟩ := exists_denotes_of_name hname
    obtain ⟨front, hfront, rfl⟩ := exists_denotes_of_value hvalue
    dsimp only at hend
    split at hend
    case h_2 hafter =>
      obtain ⟨rfl, rfl⟩ := Prod.mk.inj (Except.ok.inj hend)
      obtain ⟨front, hfront, heq⟩ := exists_denotes_of_skip_rest hfront hafter
      exact ⟨_, .last hnameFront hfront, by rw [heq, List.append_assoc]; rfl⟩
    case h_3 hafter =>
      obtain ⟨⟨fields, after⟩, hfields, hpair⟩ := exists_of_bind_eq_ok hend
      obtain ⟨rfl, rfl⟩ := Prod.mk.inj (Except.ok.inj hpair)
      obtain ⟨more, hmore, rfl⟩ := exists_denoteFields_of_fieldsFrom hfields
      obtain ⟨front, hfront, heq⟩ := exists_denotes_of_skip_rest hfront hafter
      refine ⟨_, .cons hnameFront hfront hmore, ?_⟩
      rw [heq, List.append_assoc, List.cons_append, List.append_assoc]
      rfl
    all_goals cases hend

end

end Reader

/-- **A text is read exactly if it denotes a value,** and the value is the one it denotes. -/
theorem parse_eq_ok_iff {cs : List Char} {j : Json} : parse cs = .ok j ↔ Denotes cs j := by
  constructor
  · intro h
    obtain ⟨⟨found, rest⟩, hvalue, h⟩ := exists_of_bind_eq_ok h
    dsimp only at h
    split at h
    case isFalse => cases h
    case isTrue hrest =>
      obtain rfl := Except.ok.inj h
      obtain ⟨front, hfront, rfl⟩ := Reader.exists_denotes_of_value hvalue
      obtain ⟨blanks, hblanks, heq⟩ := Reader.exists_blanks_append_skip rest
      rw [heq, hrest, List.append_nil]
      exact hfront.after_append hblanks
  · intro h
    have hends : EndsNumber [] := fun _ hc => by cases hc
    obtain ⟨left, hvalue, hleft⟩ := h.value_append hends (2 * cs.length + 1) (by omega)
    rw [List.append_nil] at hvalue
    have hskip : Reader.skip left = [] := hleft
    simp only [parse, hvalue, bind, Except.bind, hskip, if_true]

/-- A text denotes one value. -/
theorem Denotes.unique {cs : List Char} {j k : Json} (hj : Denotes cs j) (hk : Denotes cs k) :
    j = k :=
  Except.ok.inj ((parse_eq_ok_iff.2 hj).symm.trans (parse_eq_ok_iff.2 hk))

/-! ### Compact texts -/

/-- All numbers of a value are numbers. -/
inductive Regular : Json → Prop
  | null : Regular null
  | bool (value : Bool) : Regular (bool value)
  | number {written : List Char} : IsNumber written → Regular (number written)
  | text (value : List Char) : Regular (text value)
  | array {items : List Json} : (∀ item ∈ items, Regular item) → Regular (array items)
  | object {fields : List (List Char × Json)} : (∀ field ∈ fields, Regular field.2) →
      Regular (object fields)

/-- A text is denoted between its quotes. -/
theorem denotes_encode (value : List Char) : Denotes (Quoted.encode value) (.text value) :=
  .text (Quoted.spells_flatMap_encodeChar value)

/-- The compact texts of items are denoted together, up to the end of their array. -/
theorem exists_denoteItems_of_render {item : Json} {items : List Json}
    (h : ∀ j ∈ item :: items, Denotes j.render j) :
    ∃ inner, DenoteItems inner (item :: items) ∧
      item.render ++ renderItems items = inner ++ [']'] := by
  have hitem := h item (List.mem_cons_self ..)
  induction items generalizing item with
  | nil => exact ⟨item.render, .last hitem, rfl⟩
  | cons next items ih =>
    have hnext := List.forall_mem_cons.1 (List.forall_mem_cons.1 h).2
    obtain ⟨inner, hinner, heq⟩ := ih (List.forall_mem_cons.1 h).2 hnext.1
    refine ⟨item.render ++ ',' :: inner, .cons hitem hinner, ?_⟩
    rw [renderItems, List.cons_append, heq, List.append_assoc]
    rfl

/-- The compact texts of fields are denoted together, up to the end of their object. -/
theorem exists_denoteFields_of_render {name : List Char} {value : Json}
    {fields : List (List Char × Json)}
    (h : ∀ field ∈ (name, value) :: fields, Denotes field.2.render field.2) :
    ∃ inner, DenoteFields inner ((name, value) :: fields) ∧
      Quoted.encode name ++ ':' :: value.render ++ renderFields fields = inner ++ ['\x7d'] := by
  have hname := denotes_encode name
  have hvalue := h (name, value) (List.mem_cons_self ..)
  induction fields generalizing name value with
  | nil => exact ⟨Quoted.encode name ++ ':' :: value.render, .last hname hvalue, rfl⟩
  | cons field fields ih =>
    obtain ⟨next, found⟩ := field
    have hnext := List.forall_mem_cons.1 (List.forall_mem_cons.1 h).2
    obtain ⟨inner, hinner, heq⟩ := ih (List.forall_mem_cons.1 h).2 (denotes_encode next) hnext.1
    refine ⟨_, .cons hname hvalue hinner, ?_⟩
    rw [renderFields, List.cons_append, List.cons_append, heq]
    simp only [List.append_assoc, List.cons_append]

/-- **A value is denoted by its compact text.** -/
theorem Regular.denotes_render {j : Json} (h : Regular j) : Denotes j.render j := by
  induction h with
  | null => exact .null
  | bool value =>
    cases value with
    | true => exact .yes
    | false => exact .no
  | number hnumber => exact .number hnumber
  | text value => exact denotes_encode value
  | @array items _ ih =>
    cases items with
    | nil => exact Denotes.emptyArray (List.forall_mem_nil _)
    | cons item items =>
      obtain ⟨inner, hinner, heq⟩ := exists_denoteItems_of_render ih
      have hdenotes := Denotes.array hinner
      rwa [← heq] at hdenotes
  | @object fields _ ih =>
    cases fields with
    | nil => exact Denotes.emptyObject (List.forall_mem_nil _)
    | cons field fields =>
      obtain ⟨name, value⟩ := field
      obtain ⟨inner, hinner, heq⟩ := exists_denoteFields_of_render ih
      have hdenotes := Denotes.object hinner
      rwa [← heq] at hdenotes

mutual

/-- A value that is denoted has nothing but numbers for its numbers. -/
theorem Denotes.regular {cs : List Char} {j : Json} : Denotes cs j → Regular j
  | .null => .null
  | .yes => .bool true
  | .no => .bool false
  | .number hnumber => .number hnumber
  | .text _ => .text _
  | .emptyArray _ => .array (List.forall_mem_nil _)
  | .array hitems => .array hitems.regular
  | .emptyObject _ => .object (List.forall_mem_nil _)
  | .object hfields => .object hfields.regular
  | .before _ h => h.regular
  | .after _ h => h.regular

theorem DenoteItems.regular {cs : List Char} {items : List Json} :
    DenoteItems cs items → ∀ item ∈ items, Regular item
  | .last h => List.forall_mem_singleton.2 h.regular
  | .cons h hmore => List.forall_mem_cons.2 ⟨h.regular, hmore.regular⟩

theorem DenoteFields.regular {cs : List Char} {fields : List (List Char × Json)} :
    DenoteFields cs fields → ∀ field ∈ fields, Regular field.2
  | .last _ h => List.forall_mem_singleton.2 h.regular
  | .cons _ h hmore => List.forall_mem_cons.2 ⟨h.regular, hmore.regular⟩

end

/-- **What is read is read again from its compact text.** -/
theorem parse_render_of_parse {cs : List Char} {j : Json} (h : parse cs = .ok j) :
    parse j.render = .ok j :=
  parse_eq_ok_iff.2 (parse_eq_ok_iff.1 h).regular.denotes_render

end Json
end ServiceReadiness
