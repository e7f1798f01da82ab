/-
# The line of a report

A text between quotes holds no control character: those of the text that it spells are
escaped, and every other character stands for itself.  A report consists of such texts, of
decimal digits and of what JSON puts between them.  So a report is one line, whatever the
names of its checks hold.

The texts of an array stand between commas (`Json.encode_append_renderItems`), and so the report
of a wait that was ready can be given letter by letter (`WaitReport.render_ready`).
-/

import ServiceReadiness.WaitReport

namespace ServiceReadiness

/-- A text holds no control character, and so no end of a line. -/
def Printable (cs : List Char) : Prop := ∀ c ∈ cs, 0x20 ≤ c.toNat

namespace Printable

@[simp]
theorem nil : Printable [] := fun _ h => absurd h List.not_mem_nil

@[simp]
theorem cons_iff {c : Char} {cs : List Char} :
    Printable (c :: cs) ↔ 0x20 ≤ c.toNat ∧ Printable cs := List.forall_mem_cons

@[simp]
theorem append_iff {cs ds : List Char} : Printable (cs ++ ds) ↔ Printable cs ∧ Printable ds :=
  List.forall_mem_append

theorem newline_notMem {cs : List Char} (h : Printable cs) : '\n' ∉ cs := fun hmem =>
  absurd (h '\n' hmem) (by decide)

end Printable

theorem Numeral.printable_digits (n : Nat) : Printable (digits n) := by
  intro c hc
  obtain ⟨d, hd⟩ := isDigit_of_mem_digits hc
  rw [digitValue?] at hd
  split at hd
  case isTrue hdigit => exact Nat.le_trans (by decide : 0x20 ≤ '0'.toNat) hdigit.1
  case isFalse => cases hd

namespace Json
namespace Quoted

theorem le_toNat_hexDigit {n : Nat} (h : n < 16) : 0x20 ≤ (hexDigit n).toNat := by
  decide +revert

/-- **A control character is escaped.** -/
theorem printable_encodeChar (c : Char) : Printable (encodeChar c) := by
  fun_cases encodeChar c with
  | case8 _ _ _ _ _ _ _ hcontrol =>
    have hhigh : 0x20 ≤ (hexDigit (c.toNat / 16)).toNat := le_toNat_hexDigit (by omega)
    have hlow : 0x20 ≤ (hexDigit (c.toNat % 16)).toNat := le_toNat_hexDigit (by omega)
    simp [hhigh, hlow]
  | case9 _ _ _ _ _ _ _ hplain =>
    rw [Printable.cons_iff]
    exact ⟨Nat.not_lt.1 hplain, .nil⟩
  | _ => simp

theorem printable_encode (cs : List Char) : Printable (encode cs) := by
  have hinner : Printable (cs.flatMap encodeChar) := fun d hd => by
    obtain ⟨c, -, hdc⟩ := List.mem_flatMap.1 hd
    exact printable_encodeChar c d hdc
  simp [encode, hinner]

end Quoted

theorem printable_renderItems (texts : List (List Char)) :
    Printable (renderItems (texts.map .text)) := by
  induction texts with
  | nil => simp [renderItems]
  | cons text rest ih => simp [renderItems, render, Quoted.printable_encode, ih]

/-- An array of texts is printable, whatever the texts hold. -/
theorem printable_render_array (texts : List (List Char)) :
    Printable (array (texts.map .text)).render := by
  cases texts with
  | nil => simp [render]
  | cons text rest => simp [render, Quoted.printable_encode, printable_renderItems]

end Json

/-- **The texts of an array stand between commas.** -/
theorem Json.encode_append_renderItems (text : List Char) (texts : List (List Char)) :
    Quoted.encode text ++ renderItems (texts.map .text) =
      [','].intercalate ((text :: texts).map Quoted.encode) ++ [']'] := by
  induction texts generalizing text with
  | nil => simp [renderItems]
  | cons next rest ih =>
    have hitems : renderItems ((next :: rest).map .text) =
        ',' :: (Quoted.encode next ++ renderItems (rest.map .text)) := by
      simp [renderItems, render]
    rw [hitems, ih, List.map_cons, List.map_cons, List.map_cons, List.intercalate_cons_cons]
    simp

/-- A text as JSON writes it. -/
def quotedText (text : String) : String := String.ofList (Json.Quoted.encode text.toList)

theorem Json.render_texts (names : List String) :
    (array (names.map fun name => .text name.toList)).render =
      '[' :: (",".intercalate (names.map quotedText)).toList ++ [']'] := by
  have hquoted : (names.map quotedText).map String.toList =
      (names.map String.toList).map Quoted.encode := by
    simp [quotedText]
  have htexts : names.map (fun name => text name.toList) = (names.map String.toList).map .text :=
    (List.map_map ..).symm
  rw [String.toList_intercalate, hquoted, htexts]
  cases names with
  | nil => rfl
  | cons name rest =>
    rw [List.map_cons, List.map_cons, render, render, List.cons_append, List.cons_append,
      encode_append_renderItems]
    rfl

/-- **The report of a wait that was ready,** letter by letter.  The time keeps to 64 bits. -/
theorem WaitReport.render_ready (time : Nat) (names : List String) :
    (ready time names).render =
      "\x7b\"status\":\"ready\",\"elapsed_ms\":" ++ Numeral.render (time % UInt64.size) ++
        ",\"checks\":[" ++ ",".intercalate (names.map quotedText) ++ "]\x7d" := by
  have htime : (UInt64.ofNat time).toNat = time % UInt64.size := UInt64.toNat_ofNat'
  rw [render, ← String.toList_inj, String.toList_ofList]
  simp only [ready, toJson, Json.render, Json.renderFields, Json.render_texts, htime,
    String.toList_append, Numeral.toList_render]
  have hopening : "\x7b\"status\":\"ready\",\"elapsed_ms\":".toList =
      '\x7b' :: Json.Quoted.encode "status".toList ++ ':' :: Json.Quoted.encode "ready".toList ++
        ',' :: Json.Quoted.encode "elapsed_ms".toList ++ [':'] := by decide +kernel
  have hmiddle : ",\"checks\":[".toList =
      ',' :: Json.Quoted.encode "checks".toList ++ [':', '['] := by decide +kernel
  have hclosing : "]\x7d".toList = [']', '\x7d'] := by decide +kernel
  rw [hopening, hmiddle, hclosing]
  simp only [List.append_assoc, List.cons_append, List.nil_append]

/-- **A report holds no control character,** whatever the names of its checks hold. -/
theorem WaitReport.printable_render (r : WaitReport) : Printable r.render.toList := by
  have hchecks : r.checks.map (fun c => Json.text c.toList) =
      (r.checks.map String.toList).map .text := (List.map_map ..).symm
  rw [render, String.toList_ofList]
  simp [toJson, Json.render, Json.renderFields, hchecks, -List.map_map,
    Json.Quoted.printable_encode, Json.printable_render_array, Numeral.printable_digits]

/-- **A report is one line.** -/
theorem WaitReport.newline_notMem_render (r : WaitReport) : '\n' ∉ r.render.toList :=
  r.printable_render.newline_notMem

end ServiceReadiness
