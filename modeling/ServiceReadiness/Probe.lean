/-
# Probes

A probe answers, each time it is evaluated, whether the service is ready.  An
evaluation takes some time and ends in one of four ways; only "not ready" lets
the wait go on.  A probe is told apart by its name in the log, and may fail to
let go of what it holds when it is released.
-/

import ServiceReadiness.Error
import ServiceReadiness.Log
import ServiceReadiness.Timeline

namespace ServiceReadiness

/-- The longest that one attempt to reach a service may take, in milliseconds. -/
def attemptBound : Nat := 500

/-- How an evaluation ends. -/
inductive Verdict where
  | ready
  | notReady
  /-- The probe can never succeed. -/
  | fatal (cause : ProbeError)
  /-- The probe breaks off with a panic. -/
  | panic (text : String)
  deriving DecidableEq, Repr

/-- One evaluation of a probe: how long it takes, how it ends, and the lines it
logs, each at its distance from the start. -/
structure Attempt where
  duration : Nat
  verdict : Verdict
  notes : Timeline LogLine := []
  deriving DecidableEq, Repr

/-- A readiness check, given by its successive evaluations, counted from zero. -/
structure Probe where
  name : String
  attempt : Nat → Attempt
  releaseError : Option ProbeError := none

/-- The element of a script for a given call: the last one repeats, and an empty
script repeats `default`. -/
def scripted {α : Type} (default : α) (script : List α) (call : Nat) : α :=
  script[call]?.getD (script.getLast?.getD default)

theorem scripted_of_le {α : Type} (default : α) {script : List α} {call : Nat}
    (h : script.length ≤ call) : scripted default script call = script.getLast?.getD default := by
  simp [scripted, List.getElem?_eq_none h]

end ServiceReadiness
