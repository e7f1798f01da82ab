/-
# What a report says as JSON

A report is written as the compact text of a JSON value whose one number is the numeral of a
natural number.  So the text denotes this value and no other (`denotes_render_iff`), and the
three values of the report are read back from it (`read?_render`): a name between its quotes,
whatever it holds, and the time from its numeral, which keeps to 64 bits.  What is read back is
not lost, so no two reports are written alike (`render_inj`).

A wait that is to report in JSON prints this text and the end of its line.
-/

import ServiceReadiness.Execution
import ServiceReadiness.Proofs.JsonGrammar
import ServiceReadiness.Proofs.ReportLine

namespace ServiceReadiness

/-- **A natural number of 64 bits is read from its numeral.** -/
theorem Json.integer?_digits {n : Nat} (h : n ≤ Numeral.maxUnsigned) :
    (number (Numeral.digits n)).integer? = some (Int.ofNat n) := by
  have hread := Numeral.readDigits_append_digits Numeral.maxUnsigned 0 n [] (by simpa using h)
  rw [List.append_nil, Numeral.followedBy_zero] at hread
  unfold integer?
  split
  case h_1 rest heq =>
    have hminus : '-' ∈ Numeral.digits n := by
      rw [Json.number.inj heq]
      exact List.mem_cons_self ..
    cases Numeral.areDigits_digits n '-' hminus
  case h_2 heq =>
    rw [← Json.number.inj heq, hread]
    rfl
  case h_3 hnumber => exact absurd rfl (hnumber _)

namespace WaitReport

theorem text?_text (s : String) : text? (.text s.toList) = some s :=
  congrArg some String.ofList_toList

theorem count?_digits (n : UInt64) : count? (.number (Numeral.digits n.toNat)) = some n := by
  rw [count?, Json.integer?_digits (Nat.le_of_lt_succ n.toNat_lt)]
  exact congrArg some UInt64.ofNat_toNat

/-- Names are read back in order, however many there are. -/
theorem texts?_texts (names : List String) :
    texts? (.array (names.map fun name => .text name.toList)) = some names := by
  rw [texts?]
  induction names with
  | nil => rfl
  | cons name names ih => rw [List.map_cons, List.mapM_cons, text?_text, ih]; rfl

theorem ofJson?_toJson (r : WaitReport) : ofJson? r.toJson = some r := by
  simp [ofJson?, toJson, text?_text, count?_digits, texts?_texts]

/-- The one number of a report is a number. -/
theorem regular_toJson (r : WaitReport) : r.toJson.Regular := by
  refine .object (List.forall_mem_cons.2 ⟨.text _, List.forall_mem_cons.2
    ⟨.number (Json.isNumber_digits _), List.forall_mem_singleton.2 (.array fun item hitem => ?_)⟩⟩)
  obtain ⟨name, -, rfl⟩ := List.mem_map.1 hitem
  exact .text _

/-- **The text of a report denotes the report,** and nothing else. -/
theorem denotes_render_iff (r : WaitReport) (j : Json) :
    Json.Denotes r.render.toList j ↔ j = r.toJson := by
  have hdenotes : Json.Denotes r.render.toList r.toJson := by
    rw [render, String.toList_ofList]
    exact r.regular_toJson.denotes_render
  constructor
  · exact fun h => h.unique hdenotes
  · rintro rfl
    exact hdenotes

/-- **A report is read back from its text.** -/
theorem read?_render (r : WaitReport) : read? r.render = some r := by
  have hparse := Json.parse_eq_ok_iff.2 ((r.denotes_render_iff r.toJson).2 rfl)
  rw [read?, hparse]
  exact r.ofJson?_toJson

/-- **No two reports are written alike.** -/
theorem render_inj {r s : WaitReport} : r.render = s.render ↔ r = s := by
  refine ⟨fun h => ?_, congrArg render⟩
  have hread := r.read?_render
  rw [h, s.read?_render] at hread
  exact (Option.some.inj hread).symm

end WaitReport

namespace Execution

/-- What a wait prints that is to report in JSON. -/
def printedJson (request : WaitRequest) (report : WaitReport) : String :=
  (waitExit { request with json := true } (.ok report)).output

theorem printedJson_eq (request : WaitRequest) (report : WaitReport) :
    printedJson request report = report.render ++ "\n" := rfl

/-- **A report in JSON is a faithful line.**  What a wait prints is one line with no control
character in it, and its end.  The line is JSON, and it denotes one value: an object with the
status, the milliseconds and the names of the checks, in this order, whatever the names hold.  The
report is read back from the line, so two waits print the same only if they report the same. -/
theorem printedJson_faithful (request : WaitRequest) (report : WaitReport) :
    (∃ line : String, printedJson request report = line ++ "\n" ∧ Printable line.toList ∧
      (∀ j, Json.Denotes line.toList j ↔ j = .object
        [("status".toList, .text report.status.toList),
          ("elapsed_ms".toList, .number (Numeral.digits report.elapsedMillis.toNat)),
          ("checks".toList, .array (report.checks.map fun name => .text name.toList))]) ∧
      WaitReport.read? line = some report) ∧
    ∀ other otherReport,
      printedJson other otherReport = printedJson request report ↔ otherReport = report := by
  refine ⟨⟨report.render, rfl, report.printable_render, report.denotes_render_iff,
    report.read?_render⟩, fun other otherReport => ?_⟩
  rw [printedJson_eq, printedJson_eq, String.append_left_inj, WaitReport.render_inj]

/-- The end of a line in the name of a check is written as two characters. -/
example : (WaitReport.ready 7 ["tcp a\nb:1"]).render =
    "\x7b\"status\":\"ready\",\"elapsed_ms\":7,\"checks\":[\"tcp a\\nb:1\"]\x7d" := by
  decide +kernel

end Execution
end ServiceReadiness
