/-
# What a variable holds

The value of a variable is bytes, and what counts of it is a text without the blanks around
it.  There are three cases.  A variable is absent when it is unset or blank; it holds a text
when its bytes are this text with blanks around it; and it is garbled when its bytes are no
text at all (`absent_or_holds_or_garbled`).  Trimming finds the text of the second case and no
other (`Blank.trim_eq_iff`), so what is read of a variable is what it holds
(`text?_eq_ok_none_iff`, `text?_eq_ok_some_iff`, `text?_eq_error_iff`).
-/

import Mathlib.Data.List.TakeWhile
import ServiceReadiness.Settings

namespace ServiceReadiness
namespace Blank

/-- A text of blanks alone. -/
def AreBlank (cs : List Char) : Prop := ∀ c ∈ cs, isBlank c = true

instance (cs : List Char) : Decidable (AreBlank cs) :=
  decidable_of_iff (cs.all isBlank = true) List.all_eq_true

/-- A text that begins and ends with a character that is no blank. -/
structure Tight (cs : List Char) : Prop where
  ne_nil : cs ≠ []
  head : ∀ c, cs.head? = some c → isBlank c = false
  last : ∀ c, cs.getLast? = some c → isBlank c = false

/-- A text is another one with blanks around it. -/
def Surrounds (cs text : List Char) : Prop :=
  ∃ front back, AreBlank front ∧ AreBlank back ∧ cs = front ++ text ++ back

theorem AreBlank.reverse {cs : List Char} (h : AreBlank cs) : AreBlank cs.reverse :=
  fun c hc => h c (List.mem_reverse.1 hc)

theorem dropWhile_eq_nil {cs : List Char} (h : AreBlank cs) : cs.dropWhile isBlank = [] :=
  List.dropWhile_eq_nil_iff.2 h

theorem dropWhile_eq_self {cs : List Char} (h : ∀ c, cs.head? = some c → isBlank c = false) :
    cs.dropWhile isBlank = cs := by
  cases cs with
  | nil => rfl
  | cons c rest => simp [h c rfl]

/-- What is left after the blanks in front begins with none. -/
theorem head_dropWhile {cs : List Char} {c : Char} (h : (cs.dropWhile isBlank).head? = some c) :
    isBlank c = false := by
  have hhead := List.head?_dropWhile_not isBlank cs
  rwa [h] at hhead

/-- Blanks at the end are taken off. -/
theorem trimEnd_append {back : List Char} (hback : AreBlank back) (cs : List Char) :
    trimEnd (cs ++ back) = trimEnd cs := by
  rw [trimEnd, List.reverse_append, List.dropWhile_append_of_pos hback.reverse, trimEnd]

theorem trimEnd_eq_self {cs : List Char} (h : ∀ c, cs.getLast? = some c → isBlank c = false) :
    trimEnd cs = cs := by
  rw [trimEnd, dropWhile_eq_self fun c hc => h c (List.head?_reverse ▸ hc), List.reverse_reverse]

/-- **Blanks around a text make no difference to what trimming leaves.** -/
theorem trim_append {front back : List Char} (hfront : AreBlank front) (hback : AreBlank back)
    (cs : List Char) : trim (front ++ cs ++ back) = trim cs := by
  rw [trim, List.append_assoc, List.dropWhile_append_of_pos hfront, List.dropWhile_append, trim]
  split
  case isTrue hnil =>
    rw [List.isEmpty_iff.1 hnil, dropWhile_eq_nil hback]
  case isFalse => exact trimEnd_append hback _

/-- A text of blanks alone leaves nothing. -/
theorem trim_of_areBlank {cs : List Char} (h : AreBlank cs) : trim cs = [] := by
  rw [trim, dropWhile_eq_nil h]
  rfl

theorem Tight.trim_eq {cs : List Char} (h : Tight cs) : trim cs = cs := by
  rw [trim, dropWhile_eq_self h.head, trimEnd_eq_self h.last]

/-- A text that begins with no blank is its trimmed self and then blanks. -/
theorem exists_eq_append_blank {cs : List Char} (hne : cs ≠ [])
    (hhead : ∀ c, cs.head? = some c → isBlank c = false) :
    ∃ text back, Tight text ∧ AreBlank back ∧ cs = text ++ back := by
  have hsplit : cs = (cs.reverse.dropWhile isBlank).reverse ++
      (cs.reverse.takeWhile isBlank).reverse := by
    rw [← List.reverse_append, List.takeWhile_append_dropWhile, List.reverse_reverse]
  have hback : AreBlank (cs.reverse.takeWhile isBlank).reverse :=
    AreBlank.reverse fun c hc => List.mem_takeWhile_imp hc
  have hkept : (cs.reverse.dropWhile isBlank).reverse ≠ [] := by
    intro hnil
    rw [hnil, List.nil_append] at hsplit
    obtain ⟨c, rest, rfl⟩ := List.exists_cons_of_ne_nil hne
    have hblank : isBlank c = true := hback c (hsplit ▸ List.mem_cons_self ..)
    rw [hhead c rfl] at hblank
    exact Bool.false_ne_true hblank
  refine ⟨_, _, ⟨hkept, fun c hc => hhead c ?_, fun c hc => ?_⟩, hback, hsplit⟩
  · rw [hsplit, List.head?_append, hc, Option.some_or]
  · exact head_dropWhile (List.getLast?_reverse ▸ hc)

/-- **Every text is blank or surrounds a tight one.** -/
theorem areBlank_or_surrounds (cs : List Char) :
    AreBlank cs ∨ ∃ text, Tight text ∧ Surrounds cs text := by
  by_cases hblank : cs.dropWhile isBlank = []
  · exact .inl (List.dropWhile_eq_nil_iff.1 hblank)
  · obtain ⟨text, back, htext, hback, hdrop⟩ :=
      exists_eq_append_blank hblank fun _ => head_dropWhile
    refine .inr ⟨text, htext, cs.takeWhile isBlank, back, fun c hc => List.mem_takeWhile_imp hc,
      hback, ?_⟩
    rw [List.append_assoc, ← hdrop, List.takeWhile_append_dropWhile]

theorem trim_of_surrounds {cs text : List Char} (htext : Tight text) (h : Surrounds cs text) :
    trim cs = text := by
  obtain ⟨front, back, hfront, hback, rfl⟩ := h
  rw [trim_append hfront hback, htext.trim_eq]

end Blank

namespace Environment

open Blank

/-! ### The three cases -/

/-- A variable is unset or blank. -/
def Absent (env : Environment) (v : Variable) : Prop :=
  env v = none ∨ ∃ s : String, env v = some s.toUTF8 ∧ AreBlank s.toList

/-- A variable holds a text, which blanks may surround. -/
def Holds (env : Environment) (v : Variable) (text : String) : Prop :=
  Tight text.toList ∧ ∃ s : String, env v = some s.toUTF8 ∧ Surrounds s.toList text.toList

/-- The bytes of a variable are those of no text. -/
def Garbled (env : Environment) (v : Variable) : Prop :=
  ∃ bytes, env v = some bytes ∧ ∀ s : String, bytes ≠ s.toUTF8

variable {env : Environment} {v : Variable} {text : String}

/-- A text is read back from its bytes. -/
theorem fromUTF8?_toUTF8 (s : String) : String.fromUTF8? s.toUTF8 = some s := by
  rw [String.fromUTF8?, String.toUTF8_eq_toByteArray, dif_pos s.isValidUTF8]
  rfl

/-- Bytes from which a text is read are its bytes. -/
theorem toUTF8_of_fromUTF8? {bytes : ByteArray} {s : String}
    (h : String.fromUTF8? bytes = some s) : bytes = s.toUTF8 := by
  rw [String.fromUTF8?] at h
  split at h
  case isTrue hvalid =>
    obtain rfl := Option.some.inj h
    rfl
  case isFalse => exact absurd h.symm (Option.some_ne_none s)

/-- **Every variable is absent, or holds a text, or is garbled.** -/
theorem absent_or_holds_or_garbled (env : Environment) (v : Variable) :
    env.Absent v ∨ (∃ text, env.Holds v text) ∨ env.Garbled v := by
  cases hbytes : env v with
  | none => exact .inl (.inl hbytes)
  | some bytes =>
    cases hs : String.fromUTF8? bytes with
    | none =>
      refine .inr (.inr ⟨bytes, hbytes, fun s heq => ?_⟩)
      rw [heq, fromUTF8?_toUTF8] at hs
      exact Option.some_ne_none s hs
    | some s =>
      rw [toUTF8_of_fromUTF8? hs] at hbytes
      rcases areBlank_or_surrounds s.toList with hblank | ⟨text, htext, hsurrounds⟩
      · exact .inl (.inr ⟨s, hbytes, hblank⟩)
      · refine .inr (.inl ⟨String.ofList text, ?_, s, hbytes, ?_⟩)
        · rwa [String.toList_ofList]
        · rwa [String.toList_ofList]

theorem text?_of_absent (h : env.Absent v) : env.text? v = .ok none := by
  rcases h with hunset | ⟨s, hbytes, hblank⟩
  · simp only [text?, hunset]
  · simp only [text?, hbytes, fromUTF8?_toUTF8, trim_of_areBlank hblank]

theorem text?_of_holds (h : env.Holds v text) : env.text? v = .ok (some text) := by
  obtain ⟨htext, s, hbytes, hsurrounds⟩ := h
  simp only [text?, hbytes, fromUTF8?_toUTF8, trim_of_surrounds htext hsurrounds]
  split
  case h_1 hnil => exact absurd hnil htext.ne_nil
  case h_2 => rw [String.ofList_toList]

theorem text?_of_garbled (h : env.Garbled v) : env.text? v = .error .notUtf8 := by
  obtain ⟨bytes, hbytes, hnone⟩ := h
  have hs : String.fromUTF8? bytes = none := by
    cases hs : String.fromUTF8? bytes with
    | none => rfl
    | some s => exact absurd (toUTF8_of_fromUTF8? hs) (hnone s)
  simp only [text?, hbytes, hs]

/-- Nothing is read of a variable exactly when it is absent. -/
theorem text?_eq_ok_none_iff : env.text? v = .ok none ↔ env.Absent v := by
  refine ⟨fun h => ?_, text?_of_absent⟩
  rcases absent_or_holds_or_garbled env v with habsent | ⟨text, hholds⟩ | hgarbled
  · exact habsent
  · exact absurd (h.symm.trans (text?_of_holds hholds)) nofun
  · exact absurd (h.symm.trans (text?_of_garbled hgarbled)) nofun

/-- **What is read of a variable is the text that it holds.** -/
theorem text?_eq_ok_some_iff : env.text? v = .ok (some text) ↔ env.Holds v text := by
  refine ⟨fun h => ?_, text?_of_holds⟩
  rcases absent_or_holds_or_garbled env v with habsent | ⟨text', hholds⟩ | hgarbled
  · exact absurd (h.symm.trans (text?_of_absent habsent)) nofun
  · obtain rfl := Option.some.inj (Except.ok.inj (h.symm.trans (text?_of_holds hholds)))
    exact hholds
  · exact absurd (h.symm.trans (text?_of_garbled hgarbled)) nofun

/-- A variable cannot be read exactly when it is garbled. -/
theorem text?_eq_error_iff {f : SettingFault} :
    env.text? v = .error f ↔ f = .notUtf8 ∧ env.Garbled v := by
  refine ⟨fun h => ?_, fun ⟨hf, hgarbled⟩ => hf ▸ text?_of_garbled hgarbled⟩
  rcases absent_or_holds_or_garbled env v with habsent | ⟨text', hholds⟩ | hgarbled
  · exact absurd (h.symm.trans (text?_of_absent habsent)) nofun
  · exact absurd (h.symm.trans (text?_of_holds hholds)) nofun
  · exact ⟨Except.error.inj (h.symm.trans (text?_of_garbled hgarbled)), hgarbled⟩

end Environment
end ServiceReadiness
