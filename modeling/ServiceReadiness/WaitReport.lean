/-
# The report of a wait

What is told of a wait that succeeded: its status, the milliseconds that it took,
and the names of its checks.  As JSON it is one line, with the fields in this
order.
-/

import ServiceReadiness.Json.Reader

namespace ServiceReadiness

/-- The report of a wait. -/
structure WaitReport where
  status : String
  elapsedMillis : UInt64
  checks : List String
  deriving DecidableEq, Repr

namespace WaitReport

/-- The report of a wait that was ready after so many milliseconds. -/
def ready (time : Nat) (checks : List String) : WaitReport :=
  { status := "ready", elapsedMillis := UInt64.ofNat time, checks }

/-- A report as a JSON value. -/
def toJson (r : WaitReport) : Json :=
  .object
    [("status".toList, .text r.status.toList),
      ("elapsed_ms".toList, .number (Numeral.digits r.elapsedMillis.toNat)),
      ("checks".toList, .array (r.checks.map fun c => .text c.toList))]

/-- The line of JSON that reports a wait. -/
def render (r : WaitReport) : String := String.ofList r.toJson.render

/-- The text of a JSON value that is one. -/
def text? : Json → Option String
  | .text value => some (String.ofList value)
  | _ => none

/-- The texts of a JSON array of texts. -/
def texts? : Json → Option (List String)
  | .array items => items.mapM text?
  | _ => none

/-- The number of 64 bits that a JSON value is. -/
def count? (j : Json) : Option UInt64 :=
  match j.integer? with
  | some (.ofNat n) => some (UInt64.ofNat n)
  | _ => none

/-- The report that a JSON value with these three fields gives. -/
def ofJson? : Json → Option WaitReport
  | .object [(a, status), (b, elapsed), (c, checks)] =>
    if a = "status".toList ∧ b = "elapsed_ms".toList ∧ c = "checks".toList then do
      return { status := ← text? status, elapsedMillis := ← count? elapsed,
               checks := ← texts? checks }
    else none
  | _ => none

/-- The report that a line of JSON tells. -/
def read? (line : String) : Option WaitReport := (Json.parse line.toList).toOption.bind ofJson?

end WaitReport
end ServiceReadiness
